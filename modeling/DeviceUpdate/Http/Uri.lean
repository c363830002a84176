import DeviceUpdate.Text.Blank

/-! The addresses of requests: which texts are accepted, and the path and the query in them. -/

namespace DeviceUpdate.Http

/-- What of an address says where a request goes. -/
structure Uri where
  path : String
  query : String
  deriving DecidableEq, Repr

/-- How many bytes an address may have. -/
def maxUriBytes : Nat := 65534

/-- A character that may stand in a path: any beyond the space but four. -/
def isPathChar (c : Char) : Bool :=
  ' ' < c && c != '<' && c != '>' && c != '\x60' && c != '\x7f'

/-- A character that may stand in a query: any beyond the space but four. -/
def isQueryChar (c : Char) : Bool :=
  ' ' < c && c != '<' && c != '>' && c != '"' && c != '\x7f'

/-- Reads a path and what follows a question mark; what follows a number sign is not looked at. -/
def readPath? (cs : List Char) : Option Uri :=
  -- Characters of the fragment are not even checked.
  let cs := cs.takeWhile (· != '#')
  let path := cs.takeWhile (· != '?')
  let query := cs.drop (path.length + 1)
  if path.all isPathChar && query.all isQueryChar then
    some ⟨String.ofList path, String.ofList query⟩
  else none

/-- A character that may stand in the name of a scheme. -/
def isSchemeChar (c : Char) : Bool :=
  c.isAlphanum || c == '+' || c == '-' || c == '.' || c == '~'

/-- How many characters the name of a scheme may have. -/
def maxSchemeLength : Nat := 64

/-- How many colons may stand between brackets. -/
def maxColons : Nat := 8

/-- A character that may stand in the name of a host, apart from marks that mean something. -/
def isHostChar (c : Char) : Bool :=
  c.isAlphanum || "!$&'()*+,-.;=_~".toList.contains c

/-- What has been seen of the name of a host since the last sign that it starts anew. -/
structure Authority where
  colons : Nat
  opened : Bool
  closed : Bool
  percent : Bool
  deriving DecidableEq, Repr

namespace Authority

/-- Nothing has been seen. -/
def start : Authority :=
  ⟨0, false, false, false⟩

/-- Takes in a character; a closing bracket and an at sign end what may hold colons. -/
def step? (a : Authority) (c : Char) : Option Authority :=
  match c with
  | ':' => if a.colons < maxColons then some { a with colons := a.colons + 1 } else none
  | '[' => if a.percent || a.opened then none else some { a with opened := true }
  | ']' =>
    if !a.opened || a.closed then none
    -- Colons within the brackets belong to the address and do not count.
    else some { a with closed := true, colons := 0, percent := false }
  -- What stands before the mark names a user, where anything goes.
  | '@' => some { a with colons := 0, percent := false }
  | '%' => some { a with percent := true }
  | c => if isHostChar c then some a else none

/-- Whether the characters seen name a host, with at most one port. -/
def isComplete (a : Authority) : Bool :=
  a.opened == a.closed && a.colons ≤ 1 && !a.percent

end Authority

/-- Whether a text names a host, perhaps with a user before it and a port after it. -/
def isAuthority (cs : List Char) : Bool :=
  cs.getLast? != some '@' && (cs.foldlM Authority.step? .start).any Authority.isComplete

/-- The part of a text that names a host, and what follows it. -/
def splitAuthority (cs : List Char) : List Char × List Char :=
  cs.span fun c => c != '/' && c != '?' && c != '#'

/-- Reads what follows the name of a scheme: a host, and a path that may be missing. -/
def readHosted? (cs : List Char) : Option Uri :=
  let (host, rest) := splitAuthority cs
  if host.isEmpty || !isAuthority host then none
  else (readPath? rest).map fun uri => if uri.path.isEmpty then { uri with path := "/" } else uri

/-- Reads an address that does not start with a slash: one with a scheme, or a mere host. -/
def readAbsolute? (cs : List Char) : Option Uri :=
  let scheme := cs.takeWhile isSchemeChar
  match Text.dropMark? [':', '/', '/'] (cs.drop scheme.length) with
  | some rest => if scheme.length ≤ maxSchemeLength then readHosted? rest else none
  | none =>
    -- A mere host has neither a path nor a query.
    let (host, rest) := splitAuthority cs
    if rest.isEmpty && isAuthority host then some ⟨"", ""⟩ else none

/-- Reads an address: a path, an asterisk, a whole address or a mere host. -/
def Uri.read? (text : String) : Option Uri :=
  if maxUriBytes < text.utf8ByteSize then none
  else
    match text.toList with
    | [] => none
    | ['*'] => some ⟨"*", ""⟩
    | '/' :: rest => readPath? ('/' :: rest)
    | cs => readAbsolute? cs

end DeviceUpdate.Http
