import DeviceUpdate.Json.Value
import DeviceUpdate.Decimal.Written
import DeviceUpdate.Text.Numeral

/-! The JSON text of a document, without space between its tokens. -/

namespace DeviceUpdate.Json

/-- The characters that stand for one character inside a quotation. -/
def escape (c : Char) : List Char :=
  match c with
  | '"' => ['\\', '"']
  | '\\' => ['\\', '\\']
  | '\x08' => ['\\', 'b']
  | '\x0c' => ['\\', 'f']
  | '\n' => ['\\', 'n']
  | '\r' => ['\\', 'r']
  | '\t' => ['\\', 't']
  -- The other controls are written by their numbers, with lower case digits.
  | c => if c.toNat < 0x20 then '\\' :: 'u' :: (Text.hexPadded false 4 c.toNat).toList else [c]

/-- A text in quotation marks. -/
def quote (s : String) : String :=
  String.ofList ('"' :: s.toList.flatMap escape ++ ['"'])

mutual

/-- The text of a document. -/
def write : Json → String
  | null => "null"
  | bool true => "true"
  | bool false => "false"
  | integer n => toString n
  | float x => Decimal.balanced x
  | string s => quote s
  | array items => "[" ++ writeItems items ++ "]"
  | object members => "\x7b" ++ writeMembers members ++ "\x7d"
  | valueless => "null"

/-- The texts of the items, with commas between them. -/
def writeItems : List Json → String
  | [] => ""
  | [item] => write item
  | item :: rest => write item ++ "," ++ writeItems rest

/-- The texts of the members, with commas between them. -/
def writeMembers : List (String × Json) → String
  | [] => ""
  | [(name, value)] => quote name ++ ":" ++ write value
  | (name, value) :: rest => quote name ++ ":" ++ write value ++ "," ++ writeMembers rest

end

end DeviceUpdate.Json
