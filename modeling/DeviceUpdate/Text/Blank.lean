/-! Blank characters, and the trimming and splitting that go by them. -/

namespace DeviceUpdate.Text

/-- A character with the White_Space property. -/
def isBlank (c : Char) : Bool :=
  let n := c.toNat
  (9 ≤ n && n ≤ 13) || n == 0x20 || n == 0x85 || n == 0xA0 || n == 0x1680 ||
    (0x2000 ≤ n && n ≤ 0x200A) || n == 0x2028 || n == 0x2029 || n == 0x202F || n == 0x205F ||
    n == 0x3000

/-- The text from its first character that is not blank. -/
def trimStart (cs : List Char) : List Char :=
  cs.dropWhile isBlank

/-- The text up to its last character that is not blank. -/
def trimEnd (cs : List Char) : List Char :=
  (cs.reverse.dropWhile isBlank).reverse

/-- The text without the blanks at its two ends. -/
def trim (cs : List Char) : List Char :=
  trimEnd (trimStart cs)

/-- The number of maximal runs of characters that are not blank. -/
def wordCount (cs : List Char) : Nat :=
  -- A word is counted at its first character, so the count looks one character back.
  let rec count (inWord : Bool) : List Char → Nat
    | [] => 0
    | c :: rest =>
      if isBlank c then count false rest
      else if inWord then count true rest
      else count true rest + 1
  count false cs

/-- The pieces between the separators; one more piece than there are separators. -/
def splitOn (separator : Char) : List Char → List (List Char)
  | [] => [[]]
  | c :: rest =>
    match splitOn separator rest with
    | [] => [[c]]
    | piece :: pieces =>
      if c == separator then [] :: piece :: pieces else (c :: piece) :: pieces

/-- The parts before and after the first occurrence of a mark. -/
def splitOnce (mark : List Char) : List Char → Option (List Char × List Char)
  | [] => if mark.isEmpty then some ([], []) else none
  | c :: rest =>
    if mark.isPrefixOf (c :: rest) then some ([], (c :: rest).drop mark.length)
    else (splitOnce mark rest).map fun (before, after) => (c :: before, after)

/-- What follows a mark at the start of a text. -/
def dropMark? (mark : List Char) (cs : List Char) : Option (List Char) :=
  if mark.isPrefixOf cs then some (cs.drop mark.length) else none

/-- The pieces joined by a mark. -/
def joinWith (mark : String) (pieces : List String) : String :=
  String.intercalate mark pieces

/-- Only the letters of ASCII change their case. -/
def lowerAscii (cs : List Char) : List Char :=
  cs.map Char.toLower

theorem splitOn_ne_nil (separator : Char) (cs : List Char) : splitOn separator cs ≠ [] := by
  -- Each branch of the worker ends in a nonempty list.
  cases cs with
  | nil => simp [splitOn]
  | cons c rest =>
    simp only [splitOn]
    split
    · simp
    · split <;> simp

end DeviceUpdate.Text
