import SystemMenu.Proofs.Options.RoundTrip

/-!
# Loaded options

Options that were loaded, or are the standard ones, show at least one result, and the number of results fits
into its field. So they come back when they are saved, also with other values for the last session.

## Main statements

* `Options.visible_of_loadOrDefault`: how many results loaded options show.
* `Options.load_save_of_visible`: options that come back from the file to which they were saved.
-/

namespace SystemMenu

namespace Toml

theorem readNatural_lt {value : Value} {number : Nat} (read : readNatural value = .ok number) :
    number < naturalBound := by
  unfold readNatural at read
  split at read
  · split at read
    · cases read
      assumption
    · cases read
  · cases read

/-- A field that was read has its standard value or one that is written. -/
theorem of_withDefault_eq_ok {α : Type} {fields : Fields} {name : String} {default result : α}
    {read : Value → Except Error α} (h : withDefault fields name default read = .ok result) :
    result = default ∨ ∃ value, read value = .ok result := by
  unfold withDefault at h
  split at h
  · exact .inr ⟨_, h⟩
  · cases h
    exact .inl rfl

end Toml

theorem SearchOptions.standard_lt : ({} : SearchOptions).maxVisibleResults < Toml.naturalBound := by
  decide

theorem SearchOptions.lt_of_read {value : Toml.Value} {options : SearchOptions}
    (h : read value = .ok options) : options.maxVisibleResults < Toml.naturalBound := by
  obtain ⟨fields, -, h⟩ := bind_eq_ok.1 h
  obtain ⟨metric, -, h⟩ := bind_eq_ok.1 h
  obtain ⟨number, read, h⟩ := bind_eq_ok.1 h
  cases h
  obtain rfl | ⟨value, read⟩ := Toml.of_withDefault_eq_ok read
  · exact SearchOptions.standard_lt
  · exact Toml.readNatural_lt read

namespace Options

theorem lt_of_read {document : Toml.Entries} {options : Options} (h : read document = .ok options) :
    options.search.maxVisibleResults < Toml.naturalBound := by
  obtain ⟨fields, -, h⟩ := bind_eq_ok.1 h
  obtain ⟨paths, -, h⟩ := bind_eq_ok.1 h
  obtain ⟨search, read, h⟩ := bind_eq_ok.1 h
  obtain ⟨session, -, h⟩ := bind_eq_ok.1 h
  cases h
  obtain rfl | ⟨value, read⟩ := Toml.of_withDefault_eq_ok read
  · exact SearchOptions.standard_lt
  · exact SearchOptions.lt_of_read read

/-- A menu shows at least one result and at most as many as can be written. -/
def Visible (options : Options) : Prop :=
  1 ≤ options.search.maxVisibleResults ∧ options.search.maxVisibleResults < Toml.naturalBound

theorem visible_of_parse {text : String} {options : Options} (parsed : parse text = .ok options) :
    options.Visible := by
  unfold parse at parsed
  split at parsed
  · cases parsed
  · rename_i read
    split at parsed
    · cases parsed
    · rename_i shown
      cases parsed
      obtain ⟨document, -, read⟩ := bind_eq_ok.1 read
      exact ⟨Nat.pos_of_ne_zero shown, lt_of_read read⟩

theorem visible_of_loadOrDefault {tree : FileTree} {path : String} {options : Options}
    (loaded : loadOrDefault tree path = .ok options) : options.Visible := by
  unfold loadOrDefault at loaded
  split at loaded
  · unfold load at loaded
    split at loaded
    · cases loaded
    · exact visible_of_parse loaded
  · cases loaded
    exact ⟨by decide, by decide⟩

/-- Options that can be shown come back from the file to which they were saved. -/
theorem load_save_of_visible {options : Options} (visible : options.Visible) {tree after : FileTree}
    (complete : tree.Complete) {path : String} (saved : options.save tree path = .ok after) :
    load after path = .ok options := by
  rw [load_save complete saved, parse_write_iff]
  exact visible

end Options

end SystemMenu
