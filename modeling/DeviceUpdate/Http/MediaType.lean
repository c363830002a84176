import DeviceUpdate.Http.Message

/-! The names of formats in headers: what a body is written in, and what a client can read. -/

namespace DeviceUpdate.Http

/-- A character between quotation marks in a parameter. -/
def isQuotedChar (c : Char) : Bool :=
  ' ' ≤ c && c != '\x7f'

/-- Where in the parameters of a media type a reading stands. -/
inductive ParameterCursor where
  /-- Before a name, where blanks may stand. -/
  | before
  /-- In a name. -/
  | name
  /-- After the equals sign. -/
  | equals
  /-- In a value. -/
  | value
  /-- After the opening quotation mark. -/
  | opened
  /-- Inside quotation marks, after the first character. -/
  | quoted
  /-- After the closing quotation mark. -/
  | closed
  deriving DecidableEq, Repr

namespace ParameterCursor

/-- Reads one character. -/
def step? : ParameterCursor → Char → Option ParameterCursor
  | before, c => if c == ' ' then some before else if isTokenChar c then some name else none
  | name, c => if c == '=' then some equals else if isTokenChar c then some name else none
  | equals, c => if c == '"' then some opened else if isTokenChar c then some value else none
  | value, c => if c == ';' then some before else if isTokenChar c then some value else none
  -- Quotation marks cannot be empty, so a mark right after the opening one is content.
  | opened, c => if isQuotedChar c then some quoted else none
  | quoted, c => if c == '"' then some closed else if isQuotedChar c then some quoted else none
  | closed, c => if c == ';' then some before else if c == ' ' then some closed else none

/-- Whether the parameters may end here. -/
def mayEnd : ParameterCursor → Bool
  | before | equals | value | closed => true
  | name | opened | quoted => false

end ParameterCursor

/-- Whether a text is a list of parameters. -/
def areParameters (cs : List Char) : Bool :=
  (cs.foldlM ParameterCursor.step? .before).any ParameterCursor.mayEnd

/-- The parts of a name before and after its last plus sign; one at its start does not count. -/
def splitSuffix (cs : List Char) : List Char × Option (List Char) :=
  let suffix := (cs.reverse.takeWhile (· != '+')).reverse
  let rest := cs.take (cs.length - suffix.length - 1)
  if suffix.length < cs.length && !rest.isEmpty then (rest, some suffix) else (cs, none)

/-- Whether the name of a format says that it is JSON, or a format on top of it. -/
def isJsonName (cs : List Char) : Bool :=
  let (name, suffix) := splitSuffix cs
  name == "json".toList || suffix == some "json".toList

/-- Whether a media type is one of JSON, whatever its case and its parameters. -/
def isJsonType (value : List Char) : Bool :=
  match Text.dropMark? "application/".toList (Text.lowerAscii value) with
  | none => false
  | some rest =>
    let name := rest.takeWhile (· != ';')
    name.all isTokenChar && isJsonName name && areParameters (rest.drop (name.length + 1))

/-- Whether the body of a request says that it is JSON. -/
def Request.hasJson (r : Request) : Bool :=
  ((r.headers.first? "content-type").bind Headers.readable?).any isJsonType

/-- The ranges of media types that hold JSON. -/
def jsonRanges : List String :=
  ["*/*", "application/*", "application/json", "application/hal+json"]

/-- Whether one of the ranges that a client can read holds JSON, whatever its parameters. -/
def admitsJson (value : List Char) : Bool :=
  (Text.splitOn ',' value).any fun range =>
    jsonRanges.contains (String.ofList (Text.trim (range.takeWhile (· != ';'))))

/-- Whether a client can read JSON; one that does not say what it reads can. -/
def Request.acceptsJson (r : Request) : Bool :=
  match r.headers.first? "accept" with
  | none => true
  | some value => (Headers.readable? value).any admitsJson

end DeviceUpdate.Http
