import DeviceUpdate.Json.Reader
import DeviceUpdate.Table

/-! Records read from documents: their fields by name or by position, and the values of fields. -/

namespace DeviceUpdate.Json

/-- What a document has in the place of a field. -/
inductive Slot where
  /-- A value, which may be `null`. -/
  | given (j : Json)
  /-- Nothing, in an object. -/
  | absent
  /-- Nothing, in an array that ends before the field. -/
  | cut
  deriving Repr

/-- What becomes of the items of an array that come after those of all fields. -/
inductive Surplus where
  | refused
  | ignored
  deriving DecidableEq, Repr

/-- The fields of a record by name. -/
structure Record where
  slot : String → Slot

namespace Record

/-- What an object has for a name. -/
def memberSlot (members : List (String × Json)) (name : String) : Slot :=
  match members.find? fun m => m.1 == name with
  | some (_, j) => .given j
  | none => .absent

/-- What an array has for a name, by the position of the name. -/
def itemSlot (names : List String) (items : List Json) (name : String) : Slot :=
  match items[names.idxOf name]? with
  | some j => .given j
  | none => .cut

/-- Reads an object in which no field stands twice, or an array with one item a field at a time. -/
def readWith? (surplus : Surplus) (names : List String) : Json → Option Record
  | .object members =>
    -- Names that the record does not have may stand there, and more than once.
    if names.any fun name => 1 < members.countP fun m => m.1 == name then none
    else some ⟨memberSlot members⟩
  | .array items =>
    if surplus = .refused && names.length < items.length then none
    else some ⟨itemSlot names items⟩
  | _ => none

/-- Reads an object in which no field stands twice, or an array with at most one item a field. -/
def read? : List String → Json → Option Record :=
  readWith? .refused

/-- A field that must be there. -/
def required {α : Type} (r : Record) (name : String) (decode : Json → Option α) : Option α :=
  match r.slot name with
  | .given j => decode j
  | _ => none

/-- A field that may be `null` or missing in an object, but not cut off an array. -/
def optional {α : Type} (r : Record) (name : String) (decode : Json → Option α) :
    Option (Option α) :=
  match r.slot name with
  | .given .null => some none
  | .given j => (decode j).map some
  | .absent => some none
  | .cut => none

/-- A field with a value for when it is missing. -/
def defaulted {α : Type} (r : Record) (name : String) (decode : Json → Option α) (missing : α) :
    Option α :=
  match r.slot name with
  | .given j => decode j
  | _ => some missing

end Record

/-- The values in a document with the names of their fields, in the order in which they are read. -/
def namedIn (names : List String) : Json → List (String × Json)
  | .object members => members
  | .array items => names.zip items
  | _ => []

/-- A value or `null`. -/
def nullable {α : Type} (decode : Json → Option α) : Json → Option (Option α)
  | null => some none
  | j => (decode j).map some

/-- A text. -/
def text? : Json → Option String
  | string s => some s
  | _ => none

/-- A truth value. -/
def flag? : Json → Option Bool
  | bool b => some b
  | _ => none

/-- A natural number below a limit. -/
def below? (limit : Nat) : Json → Option Nat
  | integer n => if 0 ≤ n && n < limit then some n.toNat else none
  | _ => none

/-- A natural number of 64 bits. -/
def natural64? : Json → Option Nat :=
  below? (Nat.pow 2 64)

/-- A natural number of 32 bits. -/
def natural32? : Json → Option Nat :=
  below? (Nat.pow 2 32)

/-- A natural number of 16 bits. -/
def natural16? : Json → Option Nat :=
  below? (Nat.pow 2 16)

/-- A whole number of 32 bits with its sign. -/
def signed32? : Json → Option Int
  | integer n => if -Int.pow 2 31 ≤ n && n < Int.pow 2 31 then some n else none
  | _ => none

/-- A whole number of 64 bits with its sign. -/
def signed64? : Json → Option Int
  | integer n => if n < Int.pow 2 63 then some n else none
  | _ => none

/-- Any number. -/
def number? : Json → Option Float
  | float x => some x
  | integer n => some (if n < 0 then -n.natAbs.toUInt64.toFloat else n.natAbs.toUInt64.toFloat)
  | _ => none

/-- A list of values. -/
def list? {α : Type} (decode : Json → Option α) : Json → Option (List α)
  | array items => items.mapM decode
  | _ => none

/-- A table of texts; the last value of a name counts. -/
def texts? : Json → Option (Table String String)
  | object members =>
    (members.mapM fun (m : String × Json) => (text? m.2).map fun s => (m.1, s)).map Table.ofList
  | _ => none

/-- A named value: its name, or an object with the name as its only member, which is `null`. -/
def named? {α : Type} (names : List (String × α)) : Json → Option α
  | string s => names.lookup s
  | object [(s, null)] => names.lookup s
  | _ => none

/-- A named value in a part that was kept before it was read, where an empty object is no value. -/
def keptNamed? {α : Type} (names : List (String × α)) : Json → Option α
  | object [(s, object [])] => names.lookup s
  | j => named? names j

/-- A list as an array. -/
def ofList {α : Type} (encode : α → Json) (values : List α) : Json :=
  array (values.map encode)

/-- A value, or `null` when there is none. -/
def ofOption {α : Type} (encode : α → Json) : Option α → Json
  | none => null
  | some a => encode a

/-- A table of texts as an object. -/
def ofTexts (t : Table String String) : Json :=
  object (t.entries.map fun (name, value) => (name, string value))

end DeviceUpdate.Json
