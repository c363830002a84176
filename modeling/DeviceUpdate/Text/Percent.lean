import DeviceUpdate.Text.Blank
import DeviceUpdate.Text.Numeral

/-! Texts in which bytes are spelled as a percent sign and two hexadecimal digits. -/

namespace DeviceUpdate.Text

/-- The bytes of a text with its percent signs resolved; one without two digits stays. -/
def percentBytes : List Char → List UInt8
  | '%' :: high :: low :: rest =>
    match hexValue? high, hexValue? low with
    | some h, some l => UInt8.ofNat (16 * h + l) :: percentBytes rest
    -- What follows the percent sign may start an escape of its own.
    | _, _ => String.utf8EncodeChar '%' ++ percentBytes (high :: low :: rest)
  | c :: rest => String.utf8EncodeChar c ++ percentBytes rest
  | [] => []

/-- The text that the bytes spell, where they spell one. -/
def percentDecoded? (cs : List Char) : Option String :=
  String.fromUTF8? (percentBytes cs).toByteArray

/-- A name or a value of a form, in which a plus sign stands for a space. -/
def formDecoded? (cs : List Char) : Option String :=
  percentDecoded? (cs.map fun c => if c == '+' then ' ' else c)

/-- The values that a form gives to a name, each none where it spells no text. -/
def formValues (name : String) (form : List Char) : List (Option String) :=
  (splitOn '&' form).filterMap fun field =>
    let key := field.takeWhile (· != '=')
    if formDecoded? key == some name then some (formDecoded? (field.drop (key.length + 1)))
    else none

end DeviceUpdate.Text
