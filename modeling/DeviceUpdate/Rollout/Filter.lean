import DeviceUpdate.Rollout.Error
import DeviceUpdate.Store.Basic

/-! Target filters: the terms that a target must satisfy to take part in a rollout. -/

namespace DeviceUpdate.Rollouts

/-- For every end of a text, whether a star and a pattern match it, given the row of the pattern. -/
def starRow : List Char → List Bool → List Bool
  | c :: cs, b :: row =>
    -- The star takes nothing here, or one character and then as before.
    let tail := starRow cs row
    (b || (c != '\n' && tail.headD false)) :: tail
  | _, row => row

/-- For every end of a text, whether a character and then a pattern match it. -/
def charRow (p : Char) : List Char → List Bool → List Bool
  | c :: cs, _ :: row => (c == p && row.headD false) :: charRow p cs row
  | _, _ => [false]

/-- For every end of a text, whether a pattern matches it. -/
def matchRow (text : List Char) : List Char → List Bool
  | [] => List.replicate text.length false ++ [true]
  | '*' :: pattern => starRow text (matchRow text pattern)
  | p :: pattern => charRow p text (matchRow text pattern)

/-- Whether a pattern matches a whole text; a star stands for characters other than line feeds. -/
def globMatches (pattern text : List Char) : Bool :=
  (matchRow text pattern).headD false

/-- One term of a filter. -/
inductive FilterTerm where
  /-- The name of the target matches one of the patterns. -/
  | names (patterns : List (List Char))
  /-- The target has an attribute of this value. -/
  | hasValue (key value : String)
  deriving DecidableEq, Repr

namespace FilterTerm

/-- Whether a target satisfies a term. -/
def admits (t : Target) : FilterTerm → Bool
  | names patterns => patterns.any fun p => globMatches p t.controller.toList
  | hasValue key value => t.attributes.get? key == some value

/-- The start of a term on an attribute. -/
def attributeMark : List Char := "attribute.".toList

/-- Reads what follows the mark of a term on an attribute. -/
def readAttribute (term rest : List Char) : Except FilterFault FilterTerm :=
  match Text.splitOnce ['=', '='] rest with
  | none => .error (.noValue (String.ofList term))
  | some (key, value) =>
    -- The value may be empty, and the name may not.
    let key := Text.trim key
    if key.isEmpty then .error (.noKey (String.ofList term))
    else .ok (hasValue (String.ofList key) (String.ofList (Text.trim value)))

/-- Reads one term. -/
def read (term : List Char) : Except FilterFault FilterTerm :=
  if term.isEmpty then .error .emptyTerm
  else
    match Text.dropMark? attributeMark term with
    | some rest => readAttribute term rest
    | none =>
      -- Empty patterns between two commas are dropped.
      let patterns := ((Text.splitOn ',' term).map Text.trim).filter fun p => !p.isEmpty
      if patterns.isEmpty then .error (.noPatterns (String.ofList term)) else .ok (names patterns)

end FilterTerm

/-- Reads the terms of a filter, which stand between semicolons. -/
def readFilter (filter : String) : Except FilterFault (List FilterTerm) :=
  if (Text.trim filter.toList).isEmpty then .error .emptyFilter
  else ((Text.splitOn ';' filter.toList).map Text.trim).mapM FilterTerm.read

/-- The names of the targets of a tenant that satisfy every term of a filter, in ascending order. -/
def select (s : Store) (tenant filter : String) : Except Error (List String) :=
  match readFilter filter with
  | .error fault => .error (.invalidFilter filter fault)
  | .ok terms =>
    let admitted := (s.targetsOf tenant).filter fun t => terms.all (·.admits t)
    .ok ((admitted.map (·.controller)).mergeSort fun a b => decide (a ≤ b))

end DeviceUpdate.Rollouts
