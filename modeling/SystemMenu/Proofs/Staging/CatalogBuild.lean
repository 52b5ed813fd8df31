import SystemMenu.Proofs.Listing.WorkingList
import SystemMenu.Proofs.Staging.Generations

/-!
# Building the list of a catalog

The source made of a catalog never fails, so a build over it goes through its whole schedule. At every
point of the schedule it is said here what the build holds for itself and what it has put into its
generation. The files may change between any two tasks, and so may what the title file says: all of it
comes down to the bytes that one task reads, or to none if no title file was opened.

## Main statements

* `Generation.MadeFrom.filled`: the parts of a generation are those of one catalog and one title file.
* `Build.Stands.advances`: a task leads from each point of the schedule to the next and never fails.
-/

namespace SystemMenu

open Text.Utf8 (Bytes)

/-- An entry with some of its search keys filled in. -/
def Entry.fillKeys (titled : Bool) (fields : List SearchField) (entry : Entry) : Entry :=
  fields.foldl (fun entry field => entry.setKey field (entry.keyFor titled field)) entry

theorem Entry.Grows.fillKeys (titled : Bool) (fields : List SearchField) (entry : Entry) :
    entry.Grows (entry.fillKeys titled fields) := by
  induction fields generalizing entry with
  | nil => exact .refl entry
  | cons field rest ih => exact (Entry.Grows.setKey entry field _).trans (ih _)

/-- What is there of a generation is what a catalog and a title file make of it. -/
structure Generation.MadeFrom (catalog : Catalog) (titles : Option Bytes)
    (generation : Generation) : Prop where
  biosCount : ∀ count, generation.biosCount = some count →
    count = catalog.listed.countP fun record => record.traits.biosRoot
  sorted : ∀ list, generation.sorted = some list → ∃ fields,
    list = (sortEntries (catalog.workingList titles)).map (Entry.fillKeys titles.isSome fields)
  filter : ∀ index, generation.filter = some index →
    index = (Catalog.collected catalog.listed).finalize

/-- The list and the filter index are still to come. -/
structure Generation.Early (catalog : Catalog) (generation : Generation) : Prop where
  biosCount : ∀ count, generation.biosCount = some count →
    count = catalog.listed.countP fun record => record.traits.biosRoot
  sorted : generation.sorted = none
  filter : generation.filter = none

namespace Generation

variable {catalog : Catalog} {generation : Generation}

/-- As long as there is no list, every title file may become the one of the generation. -/
theorem Early.madeFrom (early : generation.Early catalog) (titles : Option Bytes) :
    generation.MadeFrom catalog titles where
  biosCount := early.biosCount
  sorted := by simp [early.sorted]
  filter := by simp [early.filter]

theorem early_empty (catalog : Catalog) : Early catalog {} := ⟨by simp, rfl, rfl⟩

theorem Early.publish (early : generation.Early catalog) (stage : Stage) :
    (generation.publish stage).Early catalog := by
  unfold Generation.publish
  split
  · exact early
  · exact ⟨early.biosCount, early.sorted, early.filter⟩

/-- A part that is set once is what was there, or what is set now. -/
theorem stored_or_new {α : Type} {part : Option α} {new value : α}
    (h : some (part.getD new) = some value) : part = some value ∨ new = value := by
  cases part with
  | none => exact .inr (Option.some.inj h)
  | some stored => exact .inl h

/-- A task of a build that holds the list to be sorted puts nothing else into the generation. -/
theorem MadeFrom.filled {titles : Option Bytes} (made : generation.MadeFrom catalog titles)
    {build : Build} (isTitled : build.isTitled = titles.isSome)
    (draft : build.draft =
      { catalog.draft (!build.isTitled) catalog.records.length with
        entries := catalog.workingList titles })
    (task : Task) : (build.filled generation task).MadeFrom catalog titles := by
  cases task with
  | storeBiosCount =>
      refine { made with biosCount := ?_ }
      intro count h
      obtain old | rfl := stored_or_new h
      · exact made.biosCount count old
      · rw [draft]
        exact catalog.biosCount_draft (!build.isTitled)
  | storeSorted =>
      refine { made with sorted := ?_ }
      intro list h
      obtain old | rfl := stored_or_new h
      · exact made.sorted list old
      · refine ⟨[], ?_⟩
        rw [draft]
        exact (List.map_id _).symm
  | storeFilter =>
      refine { made with filter := ?_ }
      intro index h
      obtain old | rfl := stored_or_new h
      · exact made.filter index old
      · rw [draft]
        exact congrArg FilterIndex.finalize (catalog.filter_draft (!build.isTitled))
  | storeKeys field =>
      refine { made with sorted := ?_ }
      intro list h
      obtain ⟨stored, old, rfl⟩ := Option.map_eq_some_iff.1 h
      obtain ⟨fields, rfl⟩ := made.sorted stored old
      -- Keys of one more kind come after those that were filled in before.
      refine ⟨fields ++ [field], ?_⟩
      rw [List.map_map]
      apply List.map_congr_left
      intro entry _
      simp only [Function.comp_apply, Entry.fillKeys, List.foldl_append, List.foldl_cons,
        List.foldl_nil, isTitled]
  | publish stage =>
      simp only [Build.filled, Generation.publish]
      split
      · exact made
      · exact ⟨made.biosCount, made.sorted, made.filter⟩
  | locateTitles | openTitles | askPlaceholder | addRecord | applyTitles | dropPlaceholder
  | reportComplete => exact made

end Generation

namespace Task

/-- The tasks from the sorting of the list on. -/
def finishing : List Task :=
  [.storeSorted, .publish .sortedList, .storeFilter, .publish .filterIndex] ++
    SearchField.all.flatMap (fun field => [.storeKeys field, .publish field.stage]) ++
    [.reportComplete]

/-- The tasks after the last record. -/
def closing : List Task :=
  .storeBiosCount :: .publish .biosCount :: .applyTitles :: .dropPlaceholder :: finishing

/-- The tasks from a record on. -/
def adding (index size : Nat) : List Task :=
  (List.range' index (size - index)).map .addRecord ++ closing

theorem schedule_eq (size : Nat) :
    schedule size = .locateTitles :: .openTitles :: .askPlaceholder :: adding 0 size := by
  simp [schedule, adding, closing, finishing, List.range_eq_range', SearchField.all]

theorem adding_of_lt {index size : Nat} (h : index < size) :
    adding index size = .addRecord index :: adding (index + 1) size := by
  have more : size - index = (size - (index + 1)) + 1 := by omega
  simp [adding, more, List.range'_succ]

theorem adding_self (size : Nat) : adding size size = closing := by
  simp [adding]

end Task

/-- The points of the schedule of a build over a catalog, with what the build holds at each. -/
inductive Build.Stands (catalog : Catalog) (build : Build) (generation : Generation) : Prop
  | starting (done : Nat) (early : done < 3)
      (todo : build.todo = (Task.schedule catalog.records.length).drop done)
      (draft : build.draft = {}) (bare : generation.Early catalog)
  | adding (index : Nat) (inside : index ≤ catalog.records.length)
      (todo : build.todo = Task.adding index catalog.records.length)
      (placeholder : build.placeholder = some catalog.placeholder)
      (draft : build.draft = catalog.draft (!build.isTitled) index)
      (bare : generation.Early catalog)
  | counted (todo : build.todo = .publish .biosCount :: .applyTitles :: .dropPlaceholder ::
        Task.finishing)
      (draft : build.draft = catalog.draft (!build.isTitled) catalog.records.length)
      (bare : generation.Early catalog)
  | announced (todo : build.todo = .applyTitles :: .dropPlaceholder :: Task.finishing)
      (draft : build.draft = catalog.draft (!build.isTitled) catalog.records.length)
      (bare : generation.Early catalog)
  | titled (titles : Option Bytes) (todo : build.todo = .dropPlaceholder :: Task.finishing)
      (isTitled : build.isTitled = titles.isSome)
      (draft : build.draft =
        { catalog.draft (!build.isTitled) catalog.records.length with
          entries := catalog.titledEntries titles })
      (bare : generation.Early catalog)
  | finishing (titles : Option Bytes) (todo : build.todo <:+ Task.finishing)
      (isTitled : build.isTitled = titles.isSome)
      (draft : build.draft =
        { catalog.draft (!build.isTitled) catalog.records.length with
          entries := catalog.workingList titles })
      (made : generation.MadeFrom catalog titles)

namespace Build

variable {catalog : Catalog} {build : Build} {generation : Generation} {task : Task}
  {todo : List Task}

/-- Opening a title file changes nothing else. -/
theorem perform_openTitles (source : Source) (tree : FileTree) (build : Build)
    (generation : Generation) (requests : Nat) :
    ∃ titles events, build.perform source tree .openTitles generation requests =
      .ok ⟨{ build with titles := titles }, generation, events⟩ := by
  simp only [perform, openTitles]
  split
  · exact ⟨build.titles, _, rfl⟩
  · split
    · exact ⟨_, _, rfl⟩
    · exact ⟨build.titles, _, rfl⟩

/-- Whatever an open title file says, it makes the titled entries of the catalog out of the draft. -/
theorem perform_applyTitles (source : Source) (tree : FileTree) (generation : Generation)
    (requests : Nat)
    (draft : build.draft = catalog.draft (!build.isTitled) catalog.records.length) :
    ∃ (titles : Option Bytes) (events : List Event), build.isTitled = titles.isSome ∧
      build.perform source tree .applyTitles generation requests =
        .ok ⟨{ build with draft := { build.draft with entries := catalog.titledEntries titles } },
          generation, events⟩ := by
  obtain opened | ⟨node, opened⟩ := build.titles.eq_none_or_eq_some
  · have bare : build.isTitled = false := by simp [isTitled, opened]
    have entries : build.draft.entries = catalog.titledEntries none := by
      rw [draft, bare]
      rfl
    have unchanged : build.applyOpenTitles tree = (build, []) := by simp [applyOpenTitles, opened]
    refine ⟨none, [], bare, ?_⟩
    simp only [perform]
    rw [unchanged, ← entries]
  · have titled : build.isTitled = true := by simp [isTitled, opened]
    have entries : ∀ bytes, inheritTitles (SystemMenu.applyTitles bytes build.draft.entries).entries =
        catalog.titledEntries (some bytes) := by
      intro bytes
      rw [draft, titled]
      rfl
    simp only [perform, applyOpenTitles, opened]
    exact ⟨some _, _, titled, by rw [entries]⟩

/-- A task does not fail, whatever the files are, and its build stands at a point of the schedule. -/
def Advances (catalog : Catalog) (build : Build) (generation : Generation) (task : Task) : Prop :=
  ∀ (tree : FileTree) (requests : Nat), ∃ result,
    build.perform catalog.source tree task generation requests = .ok result ∧
      result.build.Stands catalog result.generation

/-- The title file is found and opened, and the source is asked for the placeholder. -/
theorem advances_starting {done : Nat} (early : done < 3)
    (h : (Task.schedule catalog.records.length).drop done = task :: todo)
    (draft : build.draft = {}) (bare : generation.Early catalog) :
    Advances catalog { build with todo := todo } generation task := by
  intro tree requests
  rw [Task.schedule_eq] at h
  obtain rfl | rfl | rfl : done = 0 ∨ done = 1 ∨ done = 2 := by omega
  · cases h
    refine ⟨_, rfl, .starting 1 (by omega) ?_ draft bare⟩
    rw [Task.schedule_eq]
    rfl
  · cases h
    obtain ⟨titles, events, opened⟩ := perform_openTitles catalog.source tree
      { build with todo := .askPlaceholder :: Task.adding 0 catalog.records.length } generation
      requests
    refine ⟨_, opened, .starting 2 (by omega) ?_ draft bare⟩
    rw [Task.schedule_eq]
    rfl
  · cases h
    refine ⟨_, rfl, .adding 0 (Nat.zero_le _) rfl rfl ?_ bare⟩
    rw [Catalog.draft_zero]
    exact draft

/-- Records are added one after the other; after the last one BIOS sets are counted. -/
theorem advances_adding {index : Nat} (inside : index ≤ catalog.records.length)
    (h : Task.adding index catalog.records.length = task :: todo)
    (placeholder : build.placeholder = some catalog.placeholder)
    (draft : build.draft = catalog.draft (!build.isTitled) index) (bare : generation.Early catalog) :
    Advances catalog { build with todo := todo } generation task := by
  intro tree requests
  -- Either there is a record left, or the tasks after the last one come next.
  obtain before | rfl := Nat.lt_or_eq_of_le inside
  · rw [Task.adding_of_lt before] at h
    cases h
    have added := Catalog.addRecord_draft (List.getElem?_eq_getElem before) (!build.isTitled)
    rw [← draft, ← placeholder] at added
    refine ⟨⟨{ build with
        todo := Task.adding (index + 1) catalog.records.length
        draft := catalog.draft (!build.isTitled) (index + 1) }, generation, []⟩, ?_, ?_⟩
    · simp only [Build.perform]
      change (build.draft.addRecord _ build.placeholder (!build.isTitled) index >>= _) = _
      rw [added]
      rfl
    · exact .adding (index + 1) before rfl placeholder rfl bare
  · rw [Task.adding_self] at h
    cases h
    refine ⟨_, rfl, .counted rfl draft { bare with biosCount := ?_ }⟩
    intro count h
    obtain old | rfl := Generation.stored_or_new h
    · exact bare.biosCount count old
    · rw [draft]
      exact catalog.biosCount_draft (!build.isTitled)

/-- The title file is applied to the entries of all records. -/
theorem advances_announced
    (draft : build.draft = catalog.draft (!build.isTitled) catalog.records.length)
    (bare : generation.Early catalog) :
    Advances catalog { build with todo := .dropPlaceholder :: Task.finishing } generation
      .applyTitles := by
  intro tree requests
  let next : Build := { build with todo := .dropPlaceholder :: Task.finishing }
  have still : next.draft = catalog.draft (!next.isTitled) catalog.records.length := draft
  obtain ⟨titles, events, isTitled, applied⟩ :=
    perform_applyTitles catalog.source tree generation requests still
  refine ⟨_, applied, .titled titles rfl isTitled ?_ bare⟩
  rw [still]
  rfl

/-- From the sorting on the generation is filled, and the build keeps what it holds. -/
theorem advances_finishing {titles : Option Bytes} (h : build.todo = task :: todo)
    (left : build.todo <:+ Task.finishing) (isTitled : build.isTitled = titles.isSome)
    (draft : build.draft =
      { catalog.draft (!build.isTitled) catalog.records.length with
        entries := catalog.workingList titles })
    (made : generation.MadeFrom catalog titles) :
    Advances catalog { build with todo := todo } generation task := by
  intro tree requests
  rw [h] at left
  have rest : todo <:+ Task.finishing := (List.suffix_cons task todo).trans left
  have member : task ∈ Task.finishing := left.subset List.mem_cons_self
  have filled : (Build.filled { build with todo := todo } generation task).MadeFrom catalog
      titles := made.filled isTitled draft task
  -- The tasks that are left only fill the generation; the others are not among them.
  cases task with
  | storeBiosCount | storeSorted | storeFilter | storeKeys | publish | reportComplete =>
      exact ⟨_, rfl, .finishing titles rest isTitled draft filled⟩
  | locateTitles | openTitles | askPlaceholder | addRecord | applyTitles | dropPlaceholder =>
      simp [Task.finishing, SearchField.all] at member

namespace Stands

theorem start (catalog : Catalog) (number : Nat) (searchPath selector : String) :
    (Build.start number catalog.records.length searchPath selector).Stands catalog {} :=
  .starting 0 (by omega) rfl rfl (Generation.early_empty catalog)

/-- The next task of a build over a catalog does not fail, and leads to the next point. -/
theorem advances (stands : build.Stands catalog generation) (h : build.todo = task :: todo) :
    Advances catalog { build with todo := todo } generation task := by
  cases stands with
  | starting done early left draft bare => exact advances_starting early (left ▸ h) draft bare
  | adding index inside left placeholder draft bare =>
      exact advances_adding inside (left ▸ h) placeholder draft bare
  | counted left draft bare =>
      rw [left] at h
      cases h
      exact fun _ _ => ⟨_, rfl, .announced rfl draft (bare.publish .biosCount)⟩
  | announced left draft bare =>
      rw [left] at h
      cases h
      exact advances_announced draft bare
  | titled titles left isTitled draft bare =>
      rw [left] at h
      cases h
      intro tree requests
      refine ⟨_, rfl, .finishing titles List.suffix_rfl isTitled ?_ (bare.madeFrom titles)⟩
      simp only [draft]
      rfl
  | finishing titles left isTitled draft made =>
      exact advances_finishing h left isTitled draft made

end Stands

end Build

end SystemMenu
