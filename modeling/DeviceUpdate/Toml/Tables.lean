import DeviceUpdate.Json.Value

/-! Tables of TOML under construction: which headers and keys may follow which. -/

namespace DeviceUpdate.Toml

/-- How a table came to be. -/
inductive Origin where
  /-- By a header of its own. -/
  | header
  /-- By a longer header, so that it may still get a header of its own. -/
  | implied
  /-- By a key with points in it, so that more such keys may add to it. -/
  | dotted
  deriving DecidableEq, Repr

/-- What stands under a key. -/
inductive Node where
  /-- A value, to which nothing can be added. -/
  | value (j : Json)
  | table (origin : Origin) (entries : List (String × Node))
  /-- Tables under one header, of which only the last can grow; the others stand last first. -/
  | series (earlier : List Json) (last : List (String × Node))
  deriving Repr

/-- Keys with what stands under them, in the order in which they came. -/
abbrev Entries := List (String × Node)

mutual

/-- The document that a node stands for. -/
def Node.toJson : Node → Json
  | .value j => j
  | .table _ entries => .object (membersOf entries)
  | .series earlier last => .array ((.object (membersOf last) :: earlier).reverse)

/-- The members of the document of a table. -/
def membersOf : List (String × Node) → List (String × Json)
  | [] => []
  | (key, node) :: rest => (key, node.toJson) :: membersOf rest

end

namespace Entries

/-- Puts a node under a key that has none. -/
def add (entries : Entries) (key : String) (node : Node) : Entries :=
  entries ++ [(key, node)]

/-- Puts a node under a key in place of the one it has. -/
def replace (entries : Entries) (key : String) (node : Node) : Entries :=
  entries.map fun e => if e.1 == key then (key, node) else e

/-- Changes the table under a path, where missing tables arise; keys with points pass no headers. -/
def modifyAt (dotted : Bool) (change : Origin → Entries → Option Entries) :
    List String → Origin → Entries → Option Entries
  | [], origin, entries => change origin entries
  | key :: path, _, entries =>
    match entries.lookup key with
    | none => do
      -- Whatever is missing on the way to the table arises with it.
      let origin : Origin := if dotted then .dotted else .implied
      let inner ← modifyAt dotted change path origin []
      pure (entries.add key (.table origin inner))
    | some (.table origin inner) =>
      -- A table with a header of its own is closed to keys with points.
      if dotted && origin == .header then none
      else do
        let inner ← modifyAt dotted change path origin inner
        pure (entries.replace key (.table origin inner))
    | some (.series earlier last) => do
      -- A header leads into the table that was added last.
      let last ← modifyAt dotted change path .header last
      pure (entries.replace key (.series earlier last))
    | some (.value _) => none

/-- Gives a key a value; the table of a key with points must have arisen from such keys. -/
def assign (entries : Entries) (path : List String) (key : String) (j : Json) : Option Entries :=
  modifyAt true
    (fun origin entries =>
      if (!path.isEmpty && origin != .dotted) || (entries.lookup key).isSome then none
      else some (entries.add key (.value j)))
    path .header entries

/-- Gives a table a header, which it may get once. -/
def openTable (entries : Entries) (path : List String) (key : String) : Option Entries :=
  modifyAt false
    (fun _ entries =>
      match entries.lookup key with
      | none => some (entries.add key (.table .header []))
      -- A longer header has come first, and what it brought stays.
      | some (.table .implied inner) => some (entries.replace key (.table .header inner))
      | _ => none)
    path .header entries

/-- Starts a further table of a series. -/
def openSeries (entries : Entries) (path : List String) (key : String) : Option Entries :=
  modifyAt false
    (fun _ entries =>
      match entries.lookup key with
      | none => some (entries.add key (.series [] []))
      -- The last table of the series is done, and an empty one is opened behind it.
      | some (.series earlier last) =>
        some (entries.replace key (.series (.object (membersOf last) :: earlier) []))
      | _ => none)
    path .header entries

/-- Gives a key a value in the table under the last header. -/
def assignUnder (entries : Entries) (header path : List String) (key : String) (j : Json) :
    Option Entries :=
  modifyAt false (fun _ entries => entries.assign path key j) header .header entries

/-- The document of a table. -/
def toJson (entries : Entries) : Json :=
  .object (membersOf entries)

end Entries

end DeviceUpdate.Toml
