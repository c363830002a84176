import DeviceUpdate.Text.Invisible
import DeviceUpdate.Text.Numeral

/-! Texts in quotation marks, where every invisible character is spelled out. -/

namespace DeviceUpdate.Text

/-- The characters that stand for one character inside quotation marks. -/
def spell (c : Char) : List Char :=
  match c with
  | '\x00' => ['\\', '0']
  | '\t' => ['\\', 't']
  | '\r' => ['\\', 'r']
  | '\n' => ['\\', 'n']
  | '\\' => ['\\', '\\']
  | '"' => ['\\', '"']
  | c =>
    -- What cannot be seen is spelled by its number.
    if isInvisible c then
      ['\\', 'u', '\x7b'] ++ (Nat.toDigits 16 c.toNat) ++ ['\x7d']
    else [c]

/-- A text in quotation marks. -/
def quoted (s : String) : List Char :=
  '"' :: s.toList.flatMap spell ++ ['"']

end DeviceUpdate.Text
