import SystemMenu.Proofs.Media.Scans

/-!
# Clones that share the files of their parents

A clone needs no media of its own if it finds all files with a parent that is present, and the parent may
be present for the same reason. A search follows such a chain in one pass in the order of the catalog, so
it comes to an end where a clone stands before a parent for which there is no file: this parent is marked
only after the clone was decided. Nothing is marked that is not present by the rule, and nothing is missed
if every parent stands before its clones or is no clone itself.

## Main statements

* `Catalog.isClosed_iff`: the marks are closed under the rule if and only if nothing is missed.
* `Catalog.isClosed_of_shallow`: when nothing is missed.
* `Media.scan_shared_files`: what a search marks, and when this is closed under the rule.
* `Media.clone_before_parent_missed`: a chain whose first clone is missed.
-/

namespace SystemMenu

/-- Nothing is missing for a clone whose parent needs no file. -/
theorem SystemRecord.FindsAllIn.requiredRoms_eq_nil {clone parent : SystemRecord}
    (shares : clone.FindsAllIn parent) (free : parent.requiredRoms = []) :
    clone.requiredRoms = [] := by
  obtain same | found := shares
  · rw [requiredRoms, same]
    exact free
  · refine List.eq_nil_iff_forall_not_mem.2 fun rom member => ?_
    obtain ⟨other, among, -⟩ := found rom member
    rw [free] at among
    cases among

namespace Catalog

/-- Whatever needs no media of its own, given what is present, is present. -/
def IsClosed (catalog : Catalog) (present : Nat → Prop) : Prop :=
  ∀ index, catalog.NeedsNoMedia present index → present index

variable {catalog : Catalog} {found : String → Prop}

/-- What is present by the rule, with all parents in sight, is closed under it. -/
theorem isClosed_present : catalog.IsClosed (catalog.Present found fun _ _ => True) := by
  intro index none
  exact present_iff.2 (.inr (none.mono fun _ shown => ⟨trivial, shown⟩))

/-- And it is the least such. -/
theorem Present.of_isClosed {present : Nat → Prop} (closed : catalog.IsClosed present)
    (named : ∀ index, catalog.IsNamed found index → present index) {visible : Nat → Nat → Prop}
    {index : Nat} (derived : catalog.Present found visible index) : present index := by
  induction derived with
  | named name => exact named _ name
  | free real here free => exact closed _ ⟨real, _, here, .inl free⟩
  | shared real here clone there _ _ shares shown =>
      exact closed _ ⟨real, _, here, .inr ⟨_, _, clone, there, shown, shares⟩⟩

/-- What is present with some parents in sight is closed under the rule if and only if it is all that is
present with all parents in sight. -/
theorem isClosed_iff {visible : Nat → Nat → Prop} :
    catalog.IsClosed (catalog.Present found visible) ↔
      ∀ index, catalog.Present found visible index ↔
        catalog.Present found (fun _ _ => True) index := by
  constructor
  · intro closed index
    exact ⟨.mono (fun _ => id) fun _ _ _ => trivial, .of_isClosed closed fun _ => .named⟩
  · intro same index none
    rw [same]
    exact isClosed_present index (none.mono fun parent => (same parent).1)

/-- One pass misses nothing if every parent stands before its clones or is no clone itself. -/
theorem isClosed_of_shallow
    (shallow : ∀ index parent, catalog.cloneOf? index = some parent →
      parent < index ∨ catalog.cloneOf? parent = none) :
    catalog.IsClosed (catalog.Present found (catalog.InReach found)) := by
  rintro index ⟨real, record, here, free | ⟨parent, parentRecord, clone, there, shown, shares⟩⟩
  · exact .free real here free
  · have reached : catalog.InReach found index parent → catalog.Present found (catalog.InReach found)
        index := fun reach => .shared real here clone there reach shown shares
    obtain before | root := shallow index parent clone
    · exact reached (.inr before)
    · -- A parent that is no clone is present by a file, or it needs none and so its clone does not.
      cases shown with
      | named named => exact reached (.inl named)
      | free _ same free =>
          rw [there] at same
          cases same
          exact .free real here (shares.requiredRoms_eq_nil free)
      | shared _ _ again => rw [root] at again; cases again

end Catalog

namespace Media

/-- A search marks what is present if a clone sees its parent where a file stands for the parent or where
the parent comes earlier. So it marks nothing that is not present by the rule without this condition. The
marks are closed under the rule if and only if nothing is missed; this is so if every parent that is a
clone itself stands before its clones. -/
theorem scan_shared_files {records : List SystemRecord} {catalog : Catalog}
    (accepted : Catalog.ofRecords records = .ok catalog) (requests : Nat) (tree : FileTree)
    (directories : List String) :
    ∃ included, (scan catalog.source requests tree directories false).1 = .ok included ∧
      (∀ index, isMarked included index = true ↔
        catalog.Present (Found tree directories)
          (fun index parent => catalog.IsNamed (Found tree directories) parent ∨ parent < index)
          index) ∧
      (∀ index, isMarked included index = true →
        catalog.Present (Found tree directories) (fun _ _ => True) index) ∧
      (catalog.IsClosed (isMarked included · = true) ↔
        ∀ index, isMarked included index = true ↔
          catalog.Present (Found tree directories) (fun _ _ => True) index) ∧
      ((∀ index parent, catalog.cloneOf? index = some parent →
          parent < index ∨ catalog.cloneOf? parent = none) →
        catalog.IsClosed (isMarked included · = true)) := by
  have ordered := Catalog.ordered_of_ofRecords accepted
  obtain ⟨included, searched, -, marks⟩ := exists_scan ordered requests tree directories false
  have marked : (isMarked included · = true) = catalog.Present (Found tree directories)
      (catalog.InReach (Found tree directories)) := funext fun index => propext (marks index)
  refine ⟨included, searched, marks, fun index shown => ?_, ?_, fun shallow => ?_⟩
  · exact Catalog.Present.mono (fun _ => id) (fun _ _ _ => trivial) ((marks index).1 shown)
  · simp only [marks]
    exact Catalog.isClosed_iff
  · rw [marked]
    exact Catalog.isClosed_of_shallow shallow

theorem scan_shared_files_chain :
    ∃ included, (scan Catalog.chain.source 0 oneFile ["roms"] false).1 = .ok included ∧
      Catalog.chain.cloneOf? 2 = some 3 ∧ isMarked included 3 = true ∧
      isMarked included 2 = true := by
  obtain ⟨included, searched, marks, -⟩ :=
    scan_shared_files Catalog.ofRecords_chain 0 oneFile ["roms"]
  have named : Catalog.chain.IsNamed (Found oneFile ["roms"]) 3 := by
    refine ⟨_, "Gamma.zip", rfl, mem_readNames_iff.1 ?_, ?_⟩
    · decide +kernel
    · decide +kernel
  have clone : Catalog.chain.cloneOf? 2 = some 3 := by decide +kernel
  refine ⟨included, searched, clone, (marks 3).2 (.named named), (marks 2).2 ?_⟩
  exact .shared (by decide) rfl clone rfl (.inl named) (.named named) (.inl rfl)

/-- The first system of the chain stands before its parent, which is present only because it shares the
file of the last. When the search comes to the first one, the parent is not marked yet. -/
theorem clone_before_parent_missed :
    Catalog.ofRecords Catalog.chain.records = .ok Catalog.chain ∧
    ∃ included, (scan Catalog.chain.source 0 oneFile ["roms"] false).1 = .ok included ∧
      Catalog.chain.NeedsNoMedia (isMarked included · = true) 1 ∧ isMarked included 1 = false ∧
      ¬Catalog.chain.IsClosed (isMarked included · = true) := by
  have found : (scan Catalog.chain.source 0 oneFile ["roms"] false).1.toOption =
      some [false, false, true, true] := by decide +kernel
  have missed : Catalog.chain.NeedsNoMedia
      (isMarked [false, false, true, true] · = true) 1 :=
    ⟨by decide, _, rfl, .inr ⟨2, _, by decide +kernel, rfl, rfl, .inl rfl⟩⟩
  refine ⟨Catalog.ofRecords_chain, [false, false, true, true], ?_, missed, rfl, fun closed => ?_⟩
  · cases searched : (scan Catalog.chain.source 0 oneFile ["roms"] false).1 with
    | ok included =>
        rw [searched] at found
        exact congrArg Except.ok (Option.some.inj found)
    | error message =>
        rw [searched] at found
        cases found
  · cases closed 1 missed

end Media

end SystemMenu
