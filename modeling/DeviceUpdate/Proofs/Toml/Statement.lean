import DeviceUpdate.Proofs.Toml.Scalar
import DeviceUpdate.Toml.Document

/-! The statements of a written text are those of its tables, line by line. -/

namespace DeviceUpdate.Toml

variable {cs rest : List Char} {said more : List Statement}

section Keys

/-- A part of a key starts with a mark or with a character of its own. -/
theorem exists_writeKey (s : String) :
    ∃ c cs, writeKey s = c :: cs ∧ (isKeyChar c = true ∨ c = '"' ∨ c = '\'') := by
  -- Quoted keys start with their mark, and a bare key with one of its characters.
  have basic : ∃ c cs, Quotation.basic.write s.toList = c :: cs ∧
      (isKeyChar c = true ∨ c = '"' ∨ c = '\'') := ⟨'"', _, rfl, by simp⟩
  have literal : ∃ c cs, Quotation.literal.write s.toList = c :: cs ∧
      (isKeyChar c = true ∨ c = '"' ∨ c = '\'') := ⟨'\'', _, rfl, by simp⟩
  unfold writeKey
  simp only [Bool.and_eq_true, Bool.not_eq_true', List.all_eq_true]
  split
  · rename_i bare
    obtain ⟨c, cs, opens⟩ := List.exists_cons_of_ne_nil (l := s.toList) (by simpa using bare.1)
    exact ⟨c, cs, opens, Or.inl (bare.2 c (by simp [opens]))⟩
  · split
    · exact basic
    · split
      · exact literal
      · exact basic

/-- What a part of a key starts with is none of the characters outside of keys. -/
theorem ne_of_writeKey {s : String} {c other : Char} {cs : List Char} (opens : writeKey s = c :: cs)
    (outside : isKeyChar other = false ∧ other ≠ '"' ∧ other ≠ '\'') : c ≠ other := by
  obtain ⟨d, ds, same, starts⟩ := exists_writeKey s
  rw [opens] at same
  rw [(List.cons.inj same).1]
  rintro rfl
  -- The first character is one of the three kinds, and the other one is of none of them.
  rcases starts with inside | rfl | rfl
  · rw [outside.1] at inside
    cases inside
  · exact outside.2.1 rfl
  · exact outside.2.2 rfl

/-- No blank stands in front of a key. -/
theorem skipBlanks_writeKey (s : String) (cs : List Char) :
    skipBlanks (writeKey s ++ cs) = writeKey s ++ cs := by
  obtain ⟨c, tail, opens, -⟩ := exists_writeKey s
  have space : c ≠ ' ' := ne_of_writeKey opens (by decide)
  have tab : c ≠ '\t' := ne_of_writeKey opens (by decide)
  simp [skipBlanks, opens, isBlank, space, tab]

/-- A key is read from its parts with points between them. -/
theorem readAtMost?_writePath {path : List String} {last : String} {room : Nat}
    (fits : path.length < room) (ends : EndsKey rest)
    (other : ∀ c ∈ (skipBlanks rest).head?, c ≠ '.') :
    Key.readAtMost? room (Section.writePath (path ++ [last]) ++ rest) =
      some (⟨path, last⟩, skipBlanks rest) := by
  -- Each part but the last is followed by a point, and each takes one of the places allowed.
  induction path generalizing room with
  | nil =>
    obtain ⟨room, rfl⟩ : ∃ n, room = n + 1 := ⟨room - 1, by omega⟩
    have written : Section.writePath ([] ++ [last]) = writeKey last := rfl
    rw [written, Key.readAtMost?, skipBlanks_writeKey, readKey?_writeKey last ends,
      Option.bind_eq_bind, Option.bind_some]
    dsimp only
    -- Behind the last part there is no further point.
    split
    · rename_i point
      exact absurd rfl (other '.' (by rw [point]; rfl))
    · rfl
  | cons part path ih =>
    obtain ⟨room, rfl⟩ : ∃ n, room = n + 1 := ⟨room - 1, by omega⟩
    have written : Section.writePath (part :: path ++ [last]) ++ rest =
        writeKey part ++ '.' :: (Section.writePath (path ++ [last]) ++ rest) := by
      cases path <;> simp [Section.writePath]
    have point : EndsKey ('.' :: (Section.writePath (path ++ [last]) ++ rest)) := by
      intro c first
      cases first
      decide
    have solid (cs : List Char) : skipBlanks ('.' :: cs) = '.' :: cs := rfl
    have others := ih (Nat.lt_of_succ_lt_succ fits)
    rw [written, Key.readAtMost?, skipBlanks_writeKey, readKey?_writeKey part point,
      Option.bind_eq_bind, Option.bind_some]
    simp only [solid, others, Option.bind_eq_bind, Option.bind_some]
    rfl

end Keys

section Lines

/-- A text gives these statements line by line. -/
inductive Lines : List Char → List Statement → Prop where
  | nil : Lines [] []
  | line {cs rest : List Char} {s : Option Statement} {more : List Statement}
      (read : Statement.readLine? cs = some (s, rest)) (shorter : rest.length < cs.length)
      (others : Lines rest more) : Lines cs (s.toList ++ more)

/-- Every line is shorter than the whole, so that there is room for all of them. -/
theorem Lines.readLines? (lines : Lines cs said) {room : Nat} (fits : cs.length < room) :
    Statement.readLines? room cs = some said := by
  induction lines generalizing room with
  | nil => cases room <;> rfl
  -- Each line shortens the text, so the room is enough for all of them.
  | @line cs rest s more read shorter _ ih =>
    obtain ⟨room, rfl⟩ : ∃ n, room = n + 1 := ⟨room - 1, by omega⟩
    have others : Statement.readLines? room rest = some more := ih (by omega)
    have some : cs ≠ [] := List.ne_nil_of_length_pos (by omega)
    obtain ⟨c, tail, rfl⟩ := List.exists_cons_of_ne_nil some
    simp [Statement.readLines?, read, others]

theorem Lines.readAll? (lines : Lines cs said) : Statement.readAll? cs = some said :=
  lines.readLines? (Nat.lt_succ_self _)

/-- A line end in front of a text says nothing. -/
theorem Lines.blank (lines : Lines cs said) : Lines ('\n' :: cs) said :=
  .line (s := none) rfl (by simp) lines

/-- A line that says something. -/
theorem Lines.speaks {s : Statement} {text : List Char} (lines : Lines rest more)
    (read : Statement.read? (skipBlanks (text ++ '\n' :: rest)) = some (some s, '\n' :: rest)) :
    Lines (text ++ '\n' :: rest) (s :: more) := by
  refine .line (s := some s) ?_ ?_ lines
  · have ended : endLine? ('\n' :: rest) = some rest := rfl
    simp [Statement.readLine?, read, ended]
  · simp
    omega

end Lines

section Sections

/-- A path does not start with a bracket. -/
theorem exists_writePath (path : List String) (last : String) :
    ∃ c cs, Section.writePath (path ++ [last]) = c :: cs ∧ c ≠ '[' := by
  -- The path starts with its first part, be it the last part as well or not.
  cases path with
  | nil =>
    obtain ⟨c, cs, opens, -⟩ := exists_writeKey last
    exact ⟨c, cs, opens, ne_of_writeKey opens (by decide)⟩
  | cons part path =>
    obtain ⟨c, cs, opens, -⟩ := exists_writeKey part
    have written : Section.writePath (part :: path ++ [last]) =
        writeKey part ++ '.' :: Section.writePath (path ++ [last]) := by
      cases path <;> rfl
    exact ⟨c, _, by rw [written, opens, List.cons_append], ne_of_writeKey opens (by decide)⟩

/-- The line of a header. -/
theorem read?_header {path : List String} {last : String} (short : path.length < maxNesting) :
    Statement.read? ('[' :: (Section.writePath (path ++ [last]) ++ ']' :: '\n' :: rest)) =
      some (some (.table ⟨path, last⟩), '\n' :: rest) := by
  -- The closing bracket ends the key, and a single bracket opened the header.
  have ends : EndsKey (']' :: '\n' :: rest) := by
    intro c first
    cases first
    decide
  have solid : skipBlanks (']' :: '\n' :: rest) = ']' :: '\n' :: rest := rfl
  have unpointed : ∀ c ∈ (skipBlanks (']' :: '\n' :: rest)).head?, c ≠ '.' := by
    rw [solid]
    simp
  have key : Key.read? (Section.writePath (path ++ [last]) ++ ']' :: '\n' :: rest) =
      some (⟨path, last⟩, ']' :: '\n' :: rest) :=
    readAtMost?_writePath short ends unpointed
  -- A header of a series would have a second bracket, where this one has its key.
  obtain ⟨c, tail, opens, other⟩ := exists_writePath path last
  have single : Text.dropMark? ['[', '[']
      ('[' :: (Section.writePath (path ++ [last]) ++ ']' :: '\n' :: rest)) = none := by
    simp [Text.dropMark?, opens, other.symm]
  simp [Statement.read?, Statement.readHeader?, single, key]

/-- A value starts visibly. -/
theorem skipBlanks_write {v : Scalar} (fits : v.Fits) (cs : List Char) :
    skipBlanks (v.write ++ cs) = v.write ++ cs := by
  cases v with
  | text s =>
    obtain ⟨c, tail, opens, mark⟩ := exists_writeText s
    rw [Scalar.write, opens]
    -- A text starts with its mark.
    rcases mark with rfl | rfl <;> rfl
  | integer n =>
    obtain ⟨m, rfl⟩ := Int.eq_ofNat_of_zero_le fits.1
    have written : (Scalar.integer m).write = (Text.decimal m).toList := by simp [Scalar.write]
    obtain ⟨c, tail, opens⟩ := List.exists_cons_of_ne_nil (l := (Text.decimal m).toList)
      (by simpa using Text.decimal_ne_empty m)
    -- A number starts with a digit.
    have digit : Text.isDigit c = true := Text.isDigit_of_mem_decimal (n := m) (by simp [opens])
    have space : c ≠ ' ' := by
      rintro rfl
      exact absurd digit (by decide)
    have tab : c ≠ '\t' := by
      rintro rfl
      exact absurd digit (by decide)
    have solid : isBlank c = false := by simp [isBlank, space, tab]
    rw [written, opens]
    simp [skipBlanks, solid]
  | flag b => cases b <;> rfl

/-- The line of a key with its value. -/
theorem read?_entry (key : String) {v : Scalar} (fits : v.Fits) :
    Statement.read? (skipBlanks (writeKey key ++ [' ', '=', ' '] ++ v.write ++ '\n' :: rest)) =
      some (some (.pair ⟨[], key⟩ v.toJson), '\n' :: rest) := by
  let line := ' ' :: '=' :: ' ' :: (v.write ++ '\n' :: rest)
  have written : writeKey key ++ [' ', '=', ' '] ++ v.write ++ '\n' :: rest =
      writeKey key ++ line := by
    simp [line]
  -- The key ends at the blank behind it.
  have ends : EndsKey line := by
    intro c first
    cases first
    decide
  have left : skipBlanks line = '=' :: ' ' :: (v.write ++ '\n' :: rest) := rfl
  have unpointed : ∀ c ∈ (skipBlanks line).head?, c ≠ '.' := by
    rw [left]
    simp
  have part : Key.readAtMost? maxNesting (Section.writePath ([] ++ [key]) ++ line) =
      some (⟨[], key⟩, skipBlanks line) := readAtMost?_writePath (by decide) ends unpointed
  have path : Key.read? (writeKey key ++ line) =
      some (⟨[], key⟩, '=' :: ' ' :: (v.write ++ '\n' :: rest)) := part
  -- Behind the equality sign and its blank stands the value, up to the line end.
  have behind : skipBlanks (' ' :: (v.write ++ '\n' :: rest)) = v.write ++ '\n' :: rest := by
    exact skipBlanks_write fits _
  have pair : readPair? readValue? (writeKey key ++ line) =
      some ((⟨[], key⟩, v.toJson), '\n' :: rest) := by
    have ended : skipBlanks ('\n' :: rest) = '\n' :: rest := rfl
    simp [readPair?, path, behind, readValue?_write v fits, ended]
  -- The first character of the key tells the line apart from all the other kinds.
  obtain ⟨c, tail, opens, -⟩ := exists_writeKey key
  have comment : c ≠ '#' := ne_of_writeKey opens (by decide)
  have newline : c ≠ '\n' := ne_of_writeKey opens (by decide)
  have carriage : c ≠ '\r' := ne_of_writeKey opens (by decide)
  have header : c ≠ '[' := ne_of_writeKey opens (by decide)
  rw [written, skipBlanks_writeKey]
  have same : Statement.read? (writeKey key ++ line) =
      (readPair? readValue? (writeKey key ++ line)).map
        fun found => (some (.pair found.1.1 found.1.2), found.2) := by
    rw [opens, List.cons_append]
    unfold Statement.read?
    split
    · cases ‹c :: (tail ++ line) = []›
    · exact absurd (List.cons.inj ‹_›).1 comment
    · exact absurd (List.cons.inj ‹_›).1 newline
    · exact absurd (List.cons.inj ‹_›).1 carriage
    · exact absurd (List.cons.inj ‹_›).1 header
    · rfl
  rw [same, pair]
  rfl

/-- The key of a header. -/
def headerKey (path : List String) : Key :=
  ⟨path.dropLast, path.getLastD ""⟩

/-- What the lines of a table say. -/
def Section.statements (t : Section) : List Statement :=
  .table (headerKey t.path) :: t.entries.map fun entry => .pair ⟨[], entry.1⟩ entry.2.toJson

/-- A table whose header is not too long and whose values can be written. -/
structure Section.Fits (t : Section) : Prop where
  headed : t.path ≠ []
  short : t.path.length ≤ maxNesting
  entries : ∀ entry ∈ t.entries, entry.2.Fits

/-- The lines of the keys of a table. -/
theorem Lines.entries {entries : List (String × Scalar)} (fits : ∀ entry ∈ entries, entry.2.Fits)
    (lines : Lines rest more) : Lines (entries.flatMap Section.writeEntry ++ rest)
      ((entries.map fun entry => .pair ⟨[], entry.1⟩ entry.2.toJson) ++ more) := by
  induction entries with
  | nil => exact lines
  | cons entry entries ih =>
    -- The entries follow each other line by line, and the rest of the text comes behind them.
    have others := ih fun e member => fits e (List.mem_cons_of_mem _ member)
    have here := others.speaks (read?_entry entry.1 (fits entry List.mem_cons_self))
    simpa [Section.writeEntry] using here

/-- The lines of a table with others behind it. -/
theorem Lines.write {t : Section} (fits : t.Fits) (lines : Lines rest more) :
    Lines (t.write ++ rest) (t.statements ++ more) := by
  -- The path of a section is not empty, so it has a last part.
  obtain ⟨path, last, parts⟩ : ∃ path last, t.path = path ++ [last] :=
    ⟨_, _, (List.dropLast_concat_getLast fits.headed).symm⟩
  have short : path.length < maxNesting := by
    have bound := fits.short
    rw [parts, List.length_append, List.length_singleton] at bound
    omega
  have named : headerKey t.path = ⟨path, last⟩ := by simp [headerKey, parts]
  have header : Statement.read? (skipBlanks ('[' :: (Section.writePath t.path ++ [']']) ++
      '\n' :: (t.entries.flatMap Section.writeEntry ++ rest))) =
      some (some (.table (headerKey t.path)),
        '\n' :: (t.entries.flatMap Section.writeEntry ++ rest)) := by
    have solid (cs : List Char) : skipBlanks ('[' :: cs) = '[' :: cs := rfl
    rw [List.cons_append, solid, named, parts, List.append_assoc, List.singleton_append,
      read?_header short]
  have here := (lines.entries fits.entries).speaks header
  simpa [Section.write, Section.statements] using here

/-- The lines of tables with empty lines between them. -/
theorem lines_writeAll {sections : List Section} (fits : ∀ t ∈ sections, t.Fits) :
    Lines (Section.writeAll sections) (sections.flatMap Section.statements) := by
  induction sections with
  | nil => exact .nil
  | cons t sections ih =>
    have others := ih fun t member => fits t (List.mem_cons_of_mem _ member)
    have here := fits t List.mem_cons_self
    -- An empty line separates one section from the next.
    cases sections with
    | nil => simpa [Section.writeAll] using Lines.nil.write here
    | cons next sections =>
      have blank := others.blank.write here
      simpa [Section.writeAll] using blank

end Sections

end DeviceUpdate.Toml
