import DeviceUpdate.Maintenance.Schedule
import DeviceUpdate.Text.Blank
import DeviceUpdate.Text.Numeral

/-! Cron expressions, read as schedules. -/

namespace DeviceUpdate.Maintenance.Cron

/-- A range of values, before a step. -/
inductive Extent where
  /-- Every value. -/
  | all
  /-- One number. -/
  | point (n : Nat)
  /-- The numbers from one to another. -/
  | range (first last : Nat)
  /-- The values from one name to another. -/
  | namedRange (first last : String)
  deriving DecidableEq, Repr

/-- One item of a comma-separated list. -/
inductive Term where
  /-- All values of an extent. -/
  | plain (e : Extent)
  /-- Every so many values of an extent, from its first. -/
  | stepped (e : Extent) (step : Nat)
  /-- One name. -/
  | named (name : String)
  deriving DecidableEq, Repr

/-- The blanks that may stand around numbers, names and fields. -/
def isSpace (c : Char) : Bool :=
  c == ' ' || c == '\t' || c == '\r' || c == '\n'

/-- A text without the spaces at its start. -/
def skip (cs : List Char) : List Char :=
  cs.dropWhile isSpace

/-- A number of 32 bits with the spaces around it. -/
def number? (cs : List Char) : Option (Nat × List Char) :=
  match Text.spanDigits (skip cs) with
  | ([], _) => none
  | (digits, rest) =>
    let n := Text.numeralValue digits
    if n < Nat.pow 2 32 then some (n, skip rest) else none

/-- A name in letters with the spaces around it. -/
def name? (cs : List Char) : Option (String × List Char) :=
  let cs := skip cs
  match cs.takeWhile Char.isAlpha with
  | [] => none
  | letters => some (String.ofList letters, skip (cs.dropWhile Char.isAlpha))

/-- A mark without spaces before it. -/
def mark? (mark : Char) : List Char → Option (List Char)
  | c :: rest => if c == mark then some rest else none
  | [] => none

/-- An extent; a question mark stands for all values where it is allowed. -/
def extent? (question : Bool) (cs : List Char) : Option (Extent × List Char) :=
  let all := (mark? '*' cs).map fun rest => (Extent.all, rest)
  let anything := if question then (mark? '?' cs).map fun rest => (Extent.all, rest) else none
  let range := do
    let (first, rest) ← number? cs
    let (last, rest) ← mark? '-' rest >>= number?
    pure (Extent.range first last, rest)
  let point := (number? cs).map fun (n, rest) => (Extent.point n, rest)
  let namedRange := do
    let (first, rest) ← name? cs
    let (last, rest) ← mark? '-' rest >>= name?
    pure (Extent.namedRange first last, rest)
  -- A range is tried before its first number alone.
  anything <|> all <|> range <|> point <|> namedRange

/-- A term; the first of its forms that fits is taken. -/
def term? (question : Bool) (cs : List Char) : Option (Term × List Char) :=
  let stepped := do
    let (e, rest) ← extent? question cs
    let (step, rest) ← mark? '/' rest >>= number?
    pure (Term.stepped e step, rest)
  let plain := (extent? question cs).map fun (e, rest) => (Term.plain e, rest)
  let named := (name? cs).map fun (name, rest) => (Term.named name, rest)
  stepped <|> plain <|> named

/-- Further terms, each after a comma; a comma without a term after it is left alone. -/
def moreTerms (question : Bool) (cs : List Char) : List Term × List Char :=
  match mark? ',' cs >>= term? question with
  | none => ([], cs)
  | some (term, rest) =>
    -- Every term takes a character, so this always holds; it shows that the reading ends.
    if rest.length < cs.length then
      let (terms, rest) := moreTerms question rest
      (term :: terms, rest)
    else ([term], rest)
termination_by cs.length

/-- A field: a list of terms with the spaces around it. -/
def field? (question : Bool) (cs : List Char) : Option (List Term × List Char) := do
  let (first, rest) ← term? question (skip cs)
  let (more, rest) := moreTerms question rest
  pure (first :: more, skip rest)

/-- The value of a name, in any case. -/
def named? (p : Part) (name : String) : Option Nat :=
  p.names.lookup (String.ofList (Text.lowerAscii name.toList))

/-- The values from a first to a last, which must be in order. -/
def between? (p : Part) (first last : Nat) : Option (List Nat) :=
  if p.admits first && p.admits last && first ≤ last then
    some (p.all.filter fun n => first ≤ n && n ≤ last)
  else none

/-- The values of an extent. -/
def Extent.values? (p : Part) : Extent → Option (List Nat)
  | .all => some p.all
  | .point n => if p.admits n then some [n] else none
  | .range first last => between? p first last
  | .namedRange first last => do between? p (← named? p first) (← named? p last)

/-- The first of the values and every one that follows by the step. -/
def everyNth (step : Nat) (values : List Nat) : List Nat :=
  match values with
  | [] => []
  | first :: _ => values.filter fun n => (n - first) % step == 0

/-- The values of a term. -/
def Term.values? (p : Part) : Term → Option (List Nat)
  | .plain e => e.values? p
  | .named name => (named? p name).map ([·])
  | .stepped e step =>
    if step = 0 || p.greatest < step then none
    else
      match e with
      -- A step from one number goes on up to the greatest value.
      | .point n => (between? p n p.greatest).map (everyNth step)
      | e => (e.values? p).map (everyNth step)

/-- The values of a field, in ascending order. -/
def values? (p : Part) (terms : List Term) : Option (List Nat) := do
  let values ← terms.mapM (Term.values? p)
  pure (p.all.filter fun n => values.any (·.contains n))

/-- Reads an expression of six fields and an optional seventh for the years. -/
def read? (text : String) : Option Schedule := do
  let (seconds, cs) ← field? false text.toList
  let (minutes, cs) ← field? false cs
  let (hours, cs) ← field? false cs
  let (days, cs) ← field? true cs
  let (months, cs) ← field? false cs
  let (weekdays, cs) ← field? true cs
  -- Without a seventh field every year is meant.
  let (years, cs) := (field? false cs).getD ([.plain .all], cs)
  if cs.isEmpty then
    pure {
      seconds := ← values? .second seconds
      minutes := ← values? .minute minutes
      hours := ← values? .hour hours
      days := ← values? .day days
      months := ← values? .month months
      weekdays := ← values? .weekday weekdays
      years := ← values? .year years }
  else none

end DeviceUpdate.Maintenance.Cron
