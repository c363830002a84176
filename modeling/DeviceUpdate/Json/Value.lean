/-! JSON documents as trees. -/

namespace DeviceUpdate

/-- A JSON document. -/
inductive Json where
  /-- The literal `null`. -/
  | null
  /-- A truth value. -/
  | bool (b : Bool)
  /-- A whole number of 64 bits. -/
  | integer (n : Int)
  /-- Any other number. -/
  | float (x : Float)
  /-- A text. -/
  | string (s : String)
  /-- The items in order. -/
  | array (items : List Json)
  /-- The members in order, with repeated names kept. -/
  | object (members : List (String × Json))
  /-- A well-formed document that stands for no value, such as half of a surrogate pair. -/
  | valueless
  deriving Repr, Inhabited

namespace Json

/-- A text, or `null`. -/
def ofText? : Option String → Json
  | none => null
  | some s => string s

/-- A natural number. -/
def natural (n : Nat) : Json :=
  integer n

/-- The value of the last member of a name. -/
def member? (j : Json) (name : String) : Option Json :=
  match j with
  | object members => (members.reverse.find? fun m => m.1 == name).map (·.2)
  | _ => none

mutual

/-- Whether every part of a document stands for a value. -/
def isSound : Json → Bool
  | valueless => false
  | array items => allSound items
  | object members => allMembersSound members
  | _ => true

/-- Whether every item stands for a value. -/
def allSound : List Json → Bool
  | [] => true
  | item :: rest => isSound item && allSound rest

/-- Whether every member stands for a value. -/
def allMembersSound : List (String × Json) → Bool
  | [] => true
  | (_, value) :: rest => isSound value && allMembersSound rest

end

/-- How deeply arrays and objects may be nested where a document is kept as a tree. -/
def greatestDepth : Nat := 127

mutual

/-- How deeply arrays and objects are nested. -/
def depth : Json → Nat
  | array items => itemsDepth items + 1
  | object members => membersDepth members + 1
  | _ => 0

/-- The greatest depth of the items. -/
def itemsDepth : List Json → Nat
  | [] => 0
  | item :: rest => max (depth item) (itemsDepth rest)

/-- The greatest depth of the members. -/
def membersDepth : List (String × Json) → Nat
  | [] => 0
  | (_, value) :: rest => max (depth value) (membersDepth rest)

end

end Json

end DeviceUpdate
