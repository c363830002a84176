import DeviceUpdate.Action.Status
import DeviceUpdate.Device.Directive
import DeviceUpdate.Digest.Sha256
import DeviceUpdate.Text.Quoted

/-! Validators: short tags that change when what a document depends on changes. -/

namespace DeviceUpdate.Validator

/-- A value that a document depends on. -/
inductive Value where
  | number (n : Nat)
  | flag (b : Bool)
  | text (s : String)
  | status (s : Status)
  | directive (d : Directive)
  | availability (a : Availability)
  | absent
  | present (v : Value)
  | tuple (vs : List Value)

namespace Value

/-- A number or its absence. -/
def ofNumber? (n : Option Nat) : Value :=
  match n with
  | some n => present (number n)
  | none => absent

/-- A number with a status. -/
def withStatus (n : Nat) (s : Status) : Value :=
  tuple [number n, status s]

mutual

/-- The text of a value. -/
def write : Value → List Char
  | number n => (Text.decimal n).toList
  | flag b => (if b then "true" else "false").toList
  | text s => Text.quoted s
  | status s => s.word.toList
  | directive d => d.word.toList
  | availability a => a.word.toList
  | absent => "None".toList
  | present v => "Some(".toList ++ write v ++ [')']
  | tuple vs => '(' :: writeAll vs ++ [')']

/-- The texts of values with commas between them. -/
def writeAll : List Value → List Char
  | [] => []
  | [v] => write v
  | v :: vs => write v ++ [',', ' '] ++ writeAll vs

end

end Value

/-- The text from which a tag is made: the kind, and every part after a null character. -/
def input (kind : String) (parts : List (String × Value)) : List Char :=
  kind.toList ++ parts.flatMap fun (name, value) => '\x00' :: name.toList ++ '=' :: value.write

/-- The bytes of a text. -/
def bytes (cs : List Char) : List UInt8 :=
  (String.ofList cs).toUTF8.toList

/-- The tag of a text: the first half of its digest in hexadecimal. -/
def tagOf (cs : List Char) : String :=
  String.join (((Digest.sha256 (bytes cs)).take 16).map fun b => Text.hexPadded false 2 b.toNat)

/-- The tag of a kind of document that depends on these parts. -/
def tag (kind : String) (parts : List (String × Value)) : String :=
  tagOf (input kind parts)

end DeviceUpdate.Validator
