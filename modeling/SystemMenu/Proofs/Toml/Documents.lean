import SystemMenu.Proofs.Toml.Values

/-!
# Written documents are read back

A document is written as tables whose names and keys need no quotes. If the names differ, and the keys of
each table as well, then the document is read as these tables with their keys, in the order in which they
were written.

## Implementation notes

Reading is bounded by a number of lines, for which the length of the text is enough. `Draft.Reads` is
about every number of lines beyond that length, so one line after the other can be taken off the text.

## Main statements

* `Draft.Reads.pairs`, `Draft.Reads.table`, `Draft.reads_writeDocument`: a document is read from any
  draft, line by line and table by table.
* `parse_writeDocument`: a written document is read as its tables.
-/

namespace SystemMenu.Toml

/-- A key that is written without quotes. -/
def isBare (key : String) : Bool := !key.toList.isEmpty && key.toList.all isBareKeyChar

/-- A key with its written value, and what that is read as. -/
structure WrittenPair where
  key : String
  written : String
  value : Value
  bare : isBare key = true
  reads : ReadsAs written value

/-- The key with its written value. -/
def WrittenPair.line (pair : WrittenPair) : String × String := (pair.key, pair.written)

/-- The key with its value. -/
def WrittenPair.entry (pair : WrittenPair) : String × Value := (pair.key, pair.value)

/-- A key with a text. -/
def WrittenPair.text (key : String) (bare : isBare key = true) (text : String) : WrittenPair :=
  ⟨key, writeString text, .string text, bare, readsAs_writeString text⟩

/-- A key with a number. -/
def WrittenPair.number (key : String) (bare : isBare key = true) (number : Nat) : WrittenPair :=
  ⟨key, toString number, .integer number, bare, readsAs_toString number⟩

/-- A key with a truth value. -/
def WrittenPair.truth (key : String) (bare : isBare key = true) (value : Bool) : WrittenPair :=
  ⟨key, writeBoolean value, .boolean value, bare, readsAs_writeBoolean value⟩

/-- A table that is written with different keys. -/
structure WrittenTable where
  name : String
  pairs : List WrittenPair
  bare : isBare name = true
  distinct : (pairs.map WrittenPair.key).Nodup

/-- The name with the lines of the table. -/
def WrittenTable.lines (table : WrittenTable) : String × List (String × String) :=
  (table.name, table.pairs.map WrittenPair.line)

/-- The name with the table as it is read. -/
def WrittenTable.entry (table : WrittenTable) : String × Value :=
  (table.name, .table .header (table.pairs.map WrittenPair.entry))

section Keys

variable {key : String}

theorem isBare_eq_true_iff :
    isBare key = true ↔ key.toList ≠ [] ∧ ∀ c ∈ key.toList, isBareKeyChar c = true := by
  rw [isBare, Bool.and_eq_true, Bool.not_eq_true', List.isEmpty_eq_false_iff, List.all_eq_true]

/-- A key that is written without quotes starts with a character of its own. -/
theorem startsOther_bare (bare : isBare key = true) {x : Char} (other : isBareKeyChar x = false)
    (after : List Char) : StartsOther x (key.toList ++ after) := by
  obtain ⟨some_, chars⟩ := isBare_eq_true_iff.1 bare
  obtain ⟨c, rest, same⟩ := List.exists_cons_of_ne_nil some_
  rw [same] at chars ⊢
  intro first
  rw [← Option.some.inj first, chars c List.mem_cons_self] at other
  cases other

theorem skipSpaces_bare (bare : isBare key = true) (after : List Char) :
    skipSpaces (key.toList ++ after) = key.toList ++ after := by
  apply skipSpaces_of_other
  · exact startsOther_bare bare (by decide) after
  · exact startsOther_bare bare (by decide) after

theorem skipLayout?_of_other {text : List Char}
    (plain : ∀ c ∈ ['\n', '\r', ' ', '\t', '#'], StartsOther c text) :
    skipLayout? false text = some text := by
  cases text with
  | nil => rfl
  | cons c rest =>
      have others : c ≠ '\n' ∧ c ≠ '\r' ∧ c ≠ ' ' ∧ c ≠ '\t' ∧ c ≠ '#' := by
        simpa [StartsOther] using plain
      rw [skipLayout?]
      · simp [isSpace, others]
      · exact fun lineEnd => others.1 lineEnd
      · exact fun _ return_ => (others.2.1 return_).elim

theorem skipLayout?_bare (bare : isBare key = true) (after : List Char) :
    skipLayout? false (key.toList ++ after) = some (key.toList ++ after) := by
  apply skipLayout?_of_other
  intro c member
  have none : ['\n', '\r', ' ', '\t', '#'].all (fun d => !isBareKeyChar d) = true := by decide
  have other := List.all_eq_true.1 none c member
  rw [Bool.not_eq_true'] at other
  exact startsOther_bare bare other after

theorem readKeyPart?_bare (bare : isBare key = true) {after : List Char}
    (stop : after.takeWhile isBareKeyChar = []) :
    readKeyPart? (key.toList ++ after) = some (key, after) := by
  obtain ⟨some_, chars⟩ := isBare_eq_true_iff.1 bare
  have left : after.dropWhile isBareKeyChar = after := by
    simpa [stop] using List.takeWhile_append_dropWhile (p := isBareKeyChar) (l := after)
  rw [readKeyPart?]
  · simp [List.takeWhile_append_of_pos chars, List.dropWhile_append_of_pos chars, stop, left, some_]
  · exact fun others => (startsOther_bare bare (by decide) after).ne_cons others
  · exact fun others => (startsOther_bare bare (by decide) after).ne_cons others

/-- A key is read up to the character after it and the spaces before that. -/
theorem readKey?_bare (bare : isBare key = true) {after : List Char}
    (stop : after.takeWhile isBareKeyChar = []) (undotted : StartsOther '.' (skipSpaces after)) :
    readKey? (key.toList ++ after) = some ([], key, skipSpaces after) := by
  simp only [readKey?, readKeyParts?, skipSpaces_bare bare, readKeyPart?_bare bare stop,
    Option.bind_eq_bind, Option.bind_some]
  split
  · rename_i dotted
    exact absurd dotted (undotted.ne_cons _)
  · rfl

end Keys

section Statements

theorem readStatement?_header {name : String} (bare : isBare name = true) (after : List Char) :
    readStatement? ('[' :: (name.toList ++ ']' :: after)) = .ok (.tableHeader [] name, after) := by
  have key : readKey? (name.toList ++ ']' :: after) = some ([], name, ']' :: after) :=
    readKey?_bare bare rfl (by simp [StartsOther, skipSpaces, isSpace])
  rw [readStatement?]
  · rw [key]
    rfl
  · intro others bracket
    exact (startsOther_bare bare (by decide) _).ne_cons _ bracket

theorem readStatement?_pair (pair : WrittenPair) (after : List Char) :
    readStatement? (pair.key.toList ++ ' ' :: '=' :: ' ' :: (pair.written.toList ++ '\n' :: after)) =
      .ok (.pair [] pair.key pair.value, '\n' :: after) := by
  have key : readKey? (pair.key.toList ++ ' ' :: '=' :: ' ' :: (pair.written.toList ++ '\n' :: after)) =
      some ([], pair.key, '=' :: ' ' :: (pair.written.toList ++ '\n' :: after)) :=
    readKey?_bare pair.bare rfl (by simp [StartsOther, skipSpaces, isSpace])
  have value : readValue? (skipSpaces (' ' :: (pair.written.toList ++ '\n' :: after))) =
    .ok (pair.value, '\n' :: after) := pair.reads after
  rw [readStatement?]
  · simp only [key, value]
    rfl
  · exact fun others => (startsOther_bare pair.bare (by decide) _).ne_cons _
  · exact fun others => (startsOther_bare pair.bare (by decide) _).ne_cons _

end Statements

section Tables

variable {before : Entries} {name : String}

theorem lookup_eq_none_of_notMem (fresh : name ∉ before.map Prod.fst) : before.lookup name = none := by
  rw [List.lookup_eq_none_iff]
  intro entry member
  rw [bne_iff_ne]
  rintro rfl
  exact fresh (List.mem_map_of_mem member)

theorem lookup_concat (fresh : name ∉ before.map Prod.fst) (value : Value) :
    (before ++ [(name, value)]).lookup name = some value := by
  rw [List.lookup_append, lookup_eq_none_of_notMem fresh, List.lookup_cons_self]
  rfl

theorem replaceKey_concat (fresh : name ∉ before.map Prod.fst) (old new : Value) :
    replaceKey name new (before ++ [(name, old)]) = before ++ [(name, new)] := by
  induction before with
  | nil => simp [replaceKey]
  | cons entry before ih =>
      obtain ⟨other, later⟩ := not_or.1 (mt List.mem_cons.2 fresh)
      rw [List.cons_append, replaceKey, if_neg (Ne.symm other), ih later]
      rfl

/-- A header opens an empty table after the others. -/
theorem Draft.add_header (fresh : name ∉ before.map Prod.fst) (here : List String) :
    Draft.add ⟨before, here⟩ (.tableHeader [] name) =
      .ok ⟨before ++ [(name, .table .header [])], [name]⟩ := by
  simp only [Draft.add, openTable, changeTable, lookup_eq_none_of_notMem fresh]
  rfl

/-- A pair goes to the end of the table that was opened last. -/
theorem Draft.add_pair (fresh : name ∉ before.map Prod.fst) {entries : Entries} {key : String}
    (new : key ∉ entries.map Prod.fst) (value : Value) :
    Draft.add ⟨before ++ [(name, .table .header entries)], [name]⟩ (.pair [] key value) =
      .ok ⟨before ++ [(name, .table .header (entries ++ [(key, value)]))], [name]⟩ := by
  have inserted : insertKey [] key value .header entries = .ok (entries ++ [(key, value)]) := by
    simp [insertKey, changeTable, insertPlain, lookup_eq_none_of_notMem new]
  have changed : changeTable false (insertKey [] key value) [name] .header
      (before ++ [(name, .table .header entries)]) =
      .ok (before ++ [(name, .table .header (entries ++ [(key, value)]))]) := by
    simp only [changeTable, lookup_concat fresh, inserted, replaceKey_concat fresh]
    rfl
  simp only [Draft.add, changed]
  rfl

end Tables

/-- The text that follows a draft is read, and the document has this root table. -/
def Draft.Reads (draft : Draft) (text : List Char) (root : Entries) : Prop :=
  ∀ count, text.length < count → readLines draft count text = .ok root

namespace Draft

variable {draft : Draft} {rest : List Char} {root : Entries}

theorem reads_nil (draft : Draft) : draft.Reads [] draft.root := by
  intro count enough
  obtain ⟨count, rfl⟩ := Nat.exists_eq_add_of_lt enough
  rfl

namespace Reads

theorem lineEnd (later : draft.Reads rest root) : draft.Reads ('\n' :: rest) root := by
  intro count enough
  obtain ⟨count, rfl⟩ := Nat.exists_eq_add_one_of_ne_zero (Nat.ne_zero_of_lt enough)
  rw [← later (count + 1) (Nat.lt_of_succ_lt enough), readLines, readLines, skipLayout?]

/-- A line is taken off the text. -/
theorem statement {next : Draft} {text : List Char} {said : Statement} (some_ : text ≠ [])
    (start : skipLayout? false text = some text)
    (read : readStatement? text = .ok (said, '\n' :: rest)) (added : draft.add said = .ok next)
    (shorter : rest.length < text.length) (later : next.Reads rest root) :
    draft.Reads text root := by
  intro count enough
  obtain ⟨count, rfl⟩ := Nat.exists_eq_add_one_of_ne_zero (Nat.ne_zero_of_lt enough)
  obtain ⟨c, line, rfl⟩ := List.exists_cons_of_ne_nil some_
  have fewer : rest.length < count := Nat.lt_of_lt_of_le shorter (Nat.le_of_lt_succ enough)
  rw [← later count fewer, readLines, start]
  simp only [read, bind, Except.bind, added]
  rfl

variable {before : Entries} {name : String}

theorem pair (fresh : name ∉ before.map Prod.fst) {entries : Entries} {pair : WrittenPair}
    (new : pair.key ∉ entries.map Prod.fst)
    (later : Reads ⟨before ++ [(name, .table .header (entries ++ [pair.entry]))], [name]⟩ rest root) :
    Reads ⟨before ++ [(name, .table .header entries)], [name]⟩
      ((writePair pair.key pair.written).toList ++ rest) root := by
  have written : (writePair pair.key pair.written).toList ++ rest =
      pair.key.toList ++ ' ' :: '=' :: ' ' :: (pair.written.toList ++ '\n' :: rest) := by
    simp [writePair]
  have read := readStatement?_pair pair rest
  rw [written]
  apply statement (by simp) (skipLayout?_bare pair.bare _) read (add_pair fresh new pair.value) _ later
  simp only [List.length_append, List.length_cons]
  omega

/-- The pairs of a table are read one after the other. -/
theorem pairs (fresh : name ∉ before.map Prod.fst) {entries : Entries} {pairs : List WrittenPair}
    (distinct : (entries.map Prod.fst ++ pairs.map WrittenPair.key).Nodup)
    (later : Reads ⟨before ++ [(name, .table .header (entries ++ pairs.map WrittenPair.entry))],
      [name]⟩ rest root) :
    Reads ⟨before ++ [(name, .table .header entries)], [name]⟩
      ((String.join (pairs.map fun pair => writePair pair.key pair.written)).toList ++ rest) root := by
  induction pairs generalizing entries with
  | nil => simpa using later
  | cons first pairs ih =>
      have new : first.key ∉ entries.map Prod.fst := by
        intro member
        exact (List.nodup_append.1 distinct).2.2 _ member _ List.mem_cons_self rfl
      have tail : Reads ⟨before ++ [(name, .table .header (entries ++ [first.entry]))], [name]⟩
          ((String.join (pairs.map fun pair => writePair pair.key pair.written)).toList ++ rest)
          root := by
        apply ih
        · simpa [WrittenPair.entry] using distinct
        · simpa using later
      simpa using pair fresh new tail

/-- A table is read after other tables. -/
theorem table {here : List String} {table : WrittenTable} (fresh : table.name ∉ before.map Prod.fst)
    (later : Reads ⟨before ++ [table.entry], [table.name]⟩ rest root) :
    Reads ⟨before, here⟩ ((writeTable table.lines.1 table.lines.2).toList ++ rest) root := by
  have body : Reads ⟨before ++ [(table.name, .table .header [])], [table.name]⟩
      ((String.join (table.pairs.map fun pair => writePair pair.key pair.written)).toList ++ rest) root :=
    pairs fresh table.distinct later
  have written : (writeTable table.lines.1 table.lines.2).toList ++ rest =
      '[' :: (table.name.toList ++ ']' :: '\n' ::
        ((String.join (table.pairs.map fun pair => writePair pair.key pair.written)).toList ++ rest)) := by
    simp [writeTable, WrittenTable.lines, WrittenPair.line, Function.comp_def]
  rw [written]
  apply statement (by simp) rfl (readStatement?_header table.bare _) (add_header fresh here) _ body
  simp only [List.length_append, List.length_cons]
  omega

end Reads

/-- The tables of a document are read one after the other, also across the empty lines between them. -/
theorem reads_writeDocument {before : Entries} {here : List String} {tables : List WrittenTable}
    (distinct : (before.map Prod.fst ++ tables.map WrittenTable.name).Nodup) :
    Reads ⟨before, here⟩ (writeDocument (tables.map WrittenTable.lines)).toList
      (before ++ tables.map WrittenTable.entry) := by
  induction tables generalizing before here with
  | nil => simpa [writeDocument] using reads_nil ⟨before, here⟩
  | cons first tables ih =>
      have fresh : first.name ∉ before.map Prod.fst := by
        intro member
        exact (List.nodup_append.1 distinct).2.2 _ member _ List.mem_cons_self rfl
      have tail : Reads ⟨before ++ [first.entry], [first.name]⟩
          (writeDocument (tables.map WrittenTable.lines)).toList
          (before ++ (first :: tables).map WrittenTable.entry) := by
        have moved : ((before ++ [first.entry]).map Prod.fst ++ tables.map WrittenTable.name).Nodup := by
          simpa [WrittenTable.entry] using distinct
        simpa using ih moved
      cases tables with
      | nil =>
          simpa [writeDocument] using Reads.table fresh tail
      | cons second tables =>
          simpa [writeDocument] using Reads.table fresh tail.lineEnd

end Draft

theorem withoutMark_writeDocument (tables : List (String × List (String × String))) :
    withoutMark (writeDocument tables).toList = (writeDocument tables).toList := by
  have unmarked : StartsOther '\uFEFF' (writeDocument tables).toList := by
    match tables with
    | [] => simp [writeDocument, StartsOther]
    | [table] => simp [writeDocument, writeTable, StartsOther]
    | first :: second :: tables => simp [writeDocument, writeTable, StartsOther]
  unfold withoutMark
  split
  · rename_i marked
    exact absurd marked (unmarked.ne_cons _)
  · rfl

/-- A document of tables with names that differ is read as these tables. -/
theorem parse_writeDocument {tables : List WrittenTable}
    (distinct : (tables.map WrittenTable.name).Nodup) :
    parse (writeDocument (tables.map WrittenTable.lines)) = .ok (tables.map WrittenTable.entry) := by
  have read : Draft.start.Reads (writeDocument (tables.map WrittenTable.lines)).toList
      (tables.map WrittenTable.entry) := Draft.reads_writeDocument distinct
  rw [parse, withoutMark_writeDocument]
  exact read _ (Nat.lt_succ_self _)

end SystemMenu.Toml
