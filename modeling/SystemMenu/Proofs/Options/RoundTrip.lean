import SystemMenu.Options.Document
import SystemMenu.Proofs.Files.Trees
import SystemMenu.Proofs.Text.Utf8
import SystemMenu.Proofs.Toml.Documents

/-!
# Written options are read back

Options are written as three tables, and the reader of each finds in it what was written, whatever the
texts are. Only the number of visible results decides whether options come back: options that show no
result are refused, and so is a number that is too large for its field.

## Main statements

* `Options.parse_write`: what is read from written options.
* `Options.parse_write_iff`: which options come back.
* `Options.load_save`: options that come back from their document also come back from a file.
-/

namespace SystemMenu

open Toml (WrittenPair WrittenTable)

namespace PathOptions

/-- The written table. -/
def table (options : PathOptions) : WrittenTable where
  name := "paths"
  pairs := [.text "history_path" (by decide) options.historyPath,
    .text "system_names" (by decide) options.systemNames,
    .text "media_path" (by decide) options.mediaPath,
    .text "ui_path" (by decide) options.uiPath]
  bare := by decide
  distinct := by simp [WrittenPair.text]

theorem read_table (options : PathOptions) : read options.table.entry.2 = .ok options := rfl

end PathOptions

namespace SearchOptions

/-- The written table. -/
def table (options : SearchOptions) : WrittenTable where
  name := "search"
  pairs := [.text "metric" (by decide) options.metric.name,
    .number "max_visible_results" (by decide) options.maxVisibleResults]
  bare := by decide
  distinct := by simp [WrittenPair.text, WrittenPair.number]

theorem read_table (options : SearchOptions) :
    read options.table.entry.2 =
      if options.maxVisibleResults < Toml.naturalBound then .ok options else .error .wrongType := by
  have metric : Toml.readChoice Score.Metric.named (.string options.metric.name) = .ok options.metric := by
    simp [Toml.readChoice, Toml.readChoiceName, Score.Metric.lookup_name, bind, Except.bind]
  have number : Toml.readNatural (.integer options.maxVisibleResults) =
    if options.maxVisibleResults < Toml.naturalBound then .ok options.maxVisibleResults
    else .error .wrongType := rfl
  have fields : read options.table.entry.2 = do
      return {
        metric := ← Toml.readChoice Score.Metric.named (.string options.metric.name)
        maxVisibleResults := ← Toml.readNatural (.integer options.maxVisibleResults) } := rfl
  rw [fields, metric, number]
  split <;> rfl

end SearchOptions

namespace SessionOptions

/-- The written table. -/
def table (options : SessionOptions) : WrittenTable where
  name := "session"
  pairs := [.truth "remember_last" (by decide) options.rememberLast,
    .text "last_used_machine" (by decide) options.lastUsedMachine,
    .text "last_used_filter" (by decide) options.lastUsedFilter,
    .truth "hide_romless" (by decide) options.hideRomless]
  bare := by decide
  distinct := by simp [WrittenPair.text, WrittenPair.truth]

theorem read_table (options : SessionOptions) : read options.table.entry.2 = .ok options := rfl

end SessionOptions

namespace Options

/-- The written tables. -/
def tables (options : Options) : List WrittenTable :=
  [options.paths.table, options.search.table, options.session.table]

theorem parse_document (options : Options) :
    Toml.parse options.write = .ok (options.tables.map WrittenTable.entry) := by
  have written : options.write = Toml.writeDocument (options.tables.map WrittenTable.lines) := rfl
  have distinct : (options.tables.map WrittenTable.name).Nodup := by
    have names : options.tables.map WrittenTable.name = ["paths", "search", "session"] := rfl
    rw [names]
    decide
  rw [written, Toml.parse_writeDocument distinct]

theorem read_tables (options : Options) :
    read (options.tables.map WrittenTable.entry) =
      if options.search.maxVisibleResults < Toml.naturalBound then .ok options
      else .error .wrongType := by
  have fields : read (options.tables.map WrittenTable.entry) = do
      return {
        paths := ← PathOptions.read options.paths.table.entry.2
        search := ← SearchOptions.read options.search.table.entry.2
        session := ← SessionOptions.read options.session.table.entry.2 } := rfl
  rw [fields, PathOptions.read_table, SearchOptions.read_table, SessionOptions.read_table]
  split <;> rfl

/-- What is read from written options. -/
theorem parse_write (options : Options) :
    parse options.write =
      if options.search.maxVisibleResults < Toml.naturalBound then
        if options.search.maxVisibleResults = 0 then .error .noVisibleResults else .ok options
      else .error (.document .wrongType) := by
  have read : Toml.parse options.write >>= read =
      if options.search.maxVisibleResults < Toml.naturalBound then .ok options
      else .error .wrongType := by
    rw [parse_document]
    exact read_tables options
  by_cases fits : options.search.maxVisibleResults < Toml.naturalBound
  · rw [parse, read, if_pos fits, if_pos fits]
  · rw [parse, read, if_neg fits, if_neg fits]

/-- Options come back from their document, whatever texts they hold, if and only if they show at least one
result and the number of results fits into its field. -/
theorem parse_write_iff (options : Options) :
    parse options.write = .ok options ↔
      1 ≤ options.search.maxVisibleResults ∧
        options.search.maxVisibleResults < Toml.naturalBound := by
  rw [parse_write]
  constructor
  · intro same
    split at same
    · rename_i fits
      split at same
      · cases same
      · rename_i shown
        exact ⟨Nat.pos_of_ne_zero shown, fits⟩
    · cases same
  · rintro ⟨shown, fits⟩
    rw [if_pos fits, if_neg (Nat.ne_of_gt shown)]

/-- Loading a file to which options were saved reads their document. -/
theorem load_save {options : Options} {tree after : FileTree} (complete : tree.Complete) {path : String}
    (saved : options.save tree path = .ok after) : load after path = parse options.write := by
  have stored : tree.save path (Text.Utf8.encode options.write.toList) = .ok after := by
    unfold save at saved
    split at saved
    · cases saved
    · rename_i stored
      cases saved
      exact stored
  obtain ⟨between, created, written⟩ := bind_eq_ok.1 stored
  have text : after.readText path = .ok options.write := by
    rw [FileTree.readText, (complete.createAlong created).readBytes_write written]
    simp [bind, Except.bind, Text.Utf8.decodeStrict?_encode]
  rw [load, text]

end Options

end SystemMenu
