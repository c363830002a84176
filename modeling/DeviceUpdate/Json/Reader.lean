import DeviceUpdate.Json.Token

/-! The document that a list of tokens spells, found with a stack of unfinished containers. -/

namespace DeviceUpdate.Json

/-- An unfinished container; its content stands last first. -/
inductive Frame where
  /-- The items so far. -/
  | array (items : List Json)
  /-- The members so far, and whether every name so far stands for a text. -/
  | object (members : List (String × Json)) (sound : Bool)
  /-- An object whose next name has been read. -/
  | member (members : List (String × Json)) (sound : Bool) (name : String)
  deriving Repr

/-- What may come next. -/
inductive Expectation where
  /-- A value. -/
  | value
  /-- The first item of an array, or its end. -/
  | firstItem
  /-- The first name of an object, or its end. -/
  | firstName
  /-- A further name. -/
  | name
  /-- The colon after a name. -/
  | colon
  /-- A comma, or the end of the container. -/
  | separator
  /-- Nothing. -/
  | nothing (result : Json)
  deriving Repr

/-- How far a document has been read. -/
structure Reading where
  frames : List Frame
  expect : Expectation
  deriving Repr

namespace Reading

/-- Nothing has been read. -/
def start : Reading :=
  ⟨[], .value⟩

/-- Hands a finished value to the innermost container. -/
def deliver (j : Json) : List Frame → Option Reading
  | [] => some ⟨[], .nothing j⟩
  | .array items :: frames => some ⟨.array (j :: items) :: frames, .separator⟩
  | .member members sound name :: frames =>
    some ⟨.object ((name, j) :: members) sound :: frames, .separator⟩
  | .object _ _ :: _ => none

/-- Ends the innermost container, which must be an array. -/
def closeArray? : List Frame → Option Reading
  | .array items :: frames => deliver (.array items.reverse) frames
  | _ => none

/-- Ends the innermost container, which must be an object between two members. -/
def closeObject? : List Frame → Option Reading
  | .object members sound :: frames =>
    deliver (if sound then .object members.reverse else .valueless) frames
  | _ => none

/-- Reads the token where a value must start. -/
def stepValue? (frames : List Frame) : Token → Option Reading
  | .openArray => some ⟨.array [] :: frames, .firstItem⟩
  | .openObject => some ⟨.object [] true :: frames, .firstName⟩
  | .text (some s) => deliver (.string s) frames
  | .text none => deliver .valueless frames
  | .scalar j => deliver j frames
  | _ => none

/-- Reads the token where a name must stand. -/
def stepName? (frames : List Frame) : Token → Option Reading
  | .text s =>
    match frames with
    | .object members sound :: outer =>
      some ⟨.member members (sound && s.isSome) (s.getD "") :: outer, .colon⟩
    | _ => none
  | _ => none

/-- Reads the token after an item or a member. -/
def stepSeparator? (frames : List Frame) : Token → Option Reading
  | .comma =>
    match frames with
    -- Behind a comma, a list goes on with a value and an object with a name.
    | .array _ :: _ => some ⟨frames, .value⟩
    | .object _ _ :: _ => some ⟨frames, .name⟩
    | _ => none
  | .closeArray => closeArray? frames
  | .closeObject => closeObject? frames
  | _ => none

/-- Reads one token. -/
def step? (r : Reading) (t : Token) : Option Reading :=
  match r.expect, t with
  | .value, t => stepValue? r.frames t
  -- An empty list or object closes before anything is read into it.
  | .firstItem, .closeArray => closeArray? r.frames
  | .firstItem, t => stepValue? r.frames t
  | .firstName, .closeObject => closeObject? r.frames
  | .firstName, t => stepName? r.frames t
  | .name, t => stepName? r.frames t
  | .colon, .colon => some ⟨r.frames, .value⟩
  | .separator, t => stepSeparator? r.frames t
  | _, _ => none

/-- The document, if it is complete. -/
def finish? (r : Reading) : Option Json :=
  match r.expect with
  | .nothing j => some j
  | _ => none

end Reading

/-- The document that the tokens spell. -/
def ofTokens? (tokens : List Token) : Option Json :=
  (tokens.foldlM Reading.step? .start).bind Reading.finish?

/-- Reads one document with nothing but space around it. -/
def read? (text : String) : Option Json :=
  (tokens? text.toList).bind ofTokens?

end DeviceUpdate.Json
