import SystemMenu.Staging.Build

/-!
# What a generation holds

A generation is filled by one build, part by part. Every part is set once and stays as it is, apart from
the search keys, which are filled in later; and a part is there before the stage that announces it.

The second fact is read off the schedule alone: `Task.isPrepared` follows the stages whose data is there
through a list of tasks. So a change of the tasks changes `Build.filled` and nothing else here.

## Main statements

* `Build.perform_eq_ok`: what a task leaves behind, whatever the source answers.
* `Build.grows_filled`: no task takes anything away.
* `Build.holds_filled`: what is there after a task.
* `Task.isPrepared_schedule`: nothing is announced before it is there.
-/

namespace SystemMenu

/-- An entry with more search keys than before, and nothing else changed. -/
structure Entry.Grows (before after : Entry) : Prop where
  same : { after with keys := before.keys } = before
  keys : ∀ field key, before.keys field = some key → after.keys field = some key

namespace Entry.Grows

theorem refl (entry : Entry) : entry.Grows entry := ⟨rfl, fun _ _ h => h⟩

theorem trans {a b c : Entry} (first : a.Grows b) (second : b.Grows c) : a.Grows c where
  same := by
    have h := congrArg (fun entry : Entry => { entry with keys := a.keys }) second.same
    exact h.trans first.same
  keys field key h := second.keys field key (first.keys field key h)

/-- Filling in a key that was there already changes nothing, so keys only come. -/
theorem setKey (entry : Entry) (field : SearchField) (key : String) :
    entry.Grows (entry.setKey field key) := by
  unfold Entry.setKey
  split
  · exact refl entry
  · rename_i empty
    refine ⟨rfl, ?_⟩
    intro f k h
    have other : f ≠ field := by
      rintro rfl
      simp [h] at empty
    simpa [other] using h

end Entry.Grows

/-- A key that is filled in is there. -/
theorem Entry.isSome_keys_setKey (entry : Entry) (field : SearchField) (key : String) :
    ((entry.setKey field key).keys field).isSome := by
  unfold Entry.setKey
  split
  · assumption
  · simp

namespace Generation

/-- The data that a stage announces is there. -/
def Holds (generation : Generation) : Stage → Prop
  | .biosCount => generation.biosCount.isSome
  | .sortedList => generation.sorted.isSome
  | .filterIndex => generation.filter.isSome
  | .keys field =>
    ∃ entries, generation.sorted = some entries ∧ ∀ entry ∈ entries, (entry.keys field).isSome

/-- Stages were published in their order, and the data that they announce is there. -/
structure InOrder (generation : Generation) : Prop where
  published : generation.published <+: Stage.publicationOrder
  backed : ∀ stage ∈ generation.published, generation.Holds stage

/-- A generation later on: stages and search keys have come, and every part is as it was. -/
structure Grows (before after : Generation) : Prop where
  published : before.published <+: after.published
  biosCount : ∀ count, before.biosCount = some count → after.biosCount = some count
  filter : ∀ index, before.filter = some index → after.filter = some index
  sorted : ∀ entries, before.sorted = some entries →
    ∃ fill : Entry → Entry, (∀ entry : Entry, entry.Grows (fill entry)) ∧
      after.sorted = some (entries.map fill)

theorem inOrder_empty : InOrder {} := ⟨List.nil_prefix, by simp⟩

theorem Grows.refl (generation : Generation) : generation.Grows generation where
  published := List.prefix_rfl
  biosCount _ h := h
  filter _ h := h
  sorted entries h := ⟨id, Entry.Grows.refl, by simpa using h⟩

theorem Grows.trans {a b c : Generation} (first : a.Grows b) (second : b.Grows c) : a.Grows c where
  published := first.published.trans second.published
  biosCount count h := second.biosCount count (first.biosCount count h)
  filter index h := second.filter index (first.filter index h)
  sorted entries h := by
    obtain ⟨fill, grows, between⟩ := first.sorted entries h
    obtain ⟨refill, regrows, after⟩ := second.sorted _ between
    refine ⟨refill ∘ fill, fun entry => (grows entry).trans (regrows (fill entry)), ?_⟩
    rw [after, List.map_map]

/-- What is there stays there. -/
theorem Grows.holds {before after : Generation} (grows : before.Grows after) {stage : Stage}
    (h : before.Holds stage) : after.Holds stage := by
  cases stage with
  | biosCount =>
      obtain ⟨count, hcount⟩ := Option.isSome_iff_exists.1 h
      exact Option.isSome_iff_exists.2 ⟨count, grows.biosCount count hcount⟩
  | filterIndex =>
      obtain ⟨index, hindex⟩ := Option.isSome_iff_exists.1 h
      exact Option.isSome_iff_exists.2 ⟨index, grows.filter index hindex⟩
  | sortedList =>
      obtain ⟨entries, hentries⟩ := Option.isSome_iff_exists.1 h
      obtain ⟨fill, -, hafter⟩ := grows.sorted entries hentries
      exact Option.isSome_iff_exists.2 ⟨_, hafter⟩
  | keys field =>
      obtain ⟨entries, hentries, filled⟩ := h
      obtain ⟨fill, keeps, hafter⟩ := grows.sorted entries hentries
      refine ⟨_, hafter, ?_⟩
      intro entry member
      obtain ⟨old, oldMember, rfl⟩ := List.mem_map.1 member
      obtain ⟨key, hkey⟩ := Option.isSome_iff_exists.1 (filled old oldMember)
      exact Option.isSome_iff_exists.2 ⟨key, (keeps old).keys field key hkey⟩

end Generation

namespace Build

/-- What a task makes of the generation that its build fills. -/
def filled (build : Build) (generation : Generation) : Task → Generation
  | .storeBiosCount =>
    { generation with biosCount := some (generation.biosCount.getD build.draft.biosCount) }
  | .storeSorted =>
    { generation with sorted := some (generation.sorted.getD (sortEntries build.draft.entries)) }
  | .storeFilter =>
    { generation with filter := some (generation.filter.getD build.draft.filter.finalize) }
  | .storeKeys field =>
    { generation with
      sorted := generation.sorted.map
        (·.map fun entry => entry.setKey field (entry.keyFor build.isTitled field)) }
  | .publish stage => generation.publish stage
  | _ => generation

/-- A task that does not fail fills the generation, and its build goes on with the tasks after it. -/
theorem perform_eq_ok {source : Source} {tree : FileTree} {task : Task} {build : Build}
    {generation : Generation} {requests : Nat} {result : TaskResult}
    (h : build.perform source tree task generation requests = .ok result) :
    result.generation = build.filled generation task ∧ result.build.todo = build.todo ∧
      result.build.generation = build.generation := by
  cases task with
  | locateTitles | storeBiosCount | storeSorted | storeFilter | storeKeys | publish
  | reportComplete =>
      cases h
      exact ⟨rfl, rfl, rfl⟩
  | openTitles =>
      cases h
      refine ⟨rfl, ?_⟩
      split
      · exact ⟨rfl, rfl⟩
      · split <;> exact ⟨rfl, rfl⟩
  | applyTitles =>
      cases h
      refine ⟨rfl, ?_⟩
      split <;> exact ⟨rfl, rfl⟩
  | askPlaceholder | dropPlaceholder =>
      simp only [perform, bind, Except.bind] at h
      split at h
      · cases h
      · cases h
        exact ⟨rfl, rfl, rfl⟩
  | addRecord index =>
      simp only [perform, bind, Except.bind] at h
      split at h
      · cases h
      · cases h
        exact ⟨rfl, rfl, rfl⟩

/-- No task takes anything away. -/
theorem grows_filled (build : Build) (generation : Generation) (task : Task) :
    generation.Grows (build.filled generation task) := by
  cases task with
  | storeBiosCount =>
      refine { Generation.Grows.refl generation with biosCount := ?_ }
      intro count h
      simp [filled, h]
  | storeSorted =>
      refine { Generation.Grows.refl generation with sorted := ?_ }
      intro entries h
      exact ⟨id, Entry.Grows.refl, by simp [filled, h]⟩
  | storeFilter =>
      refine { Generation.Grows.refl generation with filter := ?_ }
      intro index h
      simp [filled, h]
  | storeKeys field =>
      refine { Generation.Grows.refl generation with sorted := ?_ }
      intro entries h
      refine ⟨fun entry => entry.setKey field (entry.keyFor build.isTitled field), ?_, ?_⟩
      · exact fun entry => .setKey entry field _
      · simp [filled, h]
  | publish stage =>
      simp only [filled, Generation.publish]
      split
      · exact .refl generation
      · exact { Generation.Grows.refl generation with published := List.prefix_append _ _ }
  | locateTitles | openTitles | askPlaceholder | addRecord | applyTitles | dropPlaceholder
  | reportComplete => exact .refl generation

end Build

namespace Task

/-- The stages whose data is there once a task is done, given those whose data was there before it.
Search keys are filled into a list, so there has to be one. -/
def provide (held : List Stage) : Task → List Stage
  | .storeBiosCount => .biosCount :: held
  | .storeSorted => .sortedList :: held
  | .storeFilter => .filterIndex :: held
  | .storeKeys field => if .sortedList ∈ held then .keys field :: held else held
  | _ => held

/-- The stage that a task publishes. -/
def stage? : Task → Option Stage
  | .publish stage => some stage
  | _ => none

/-- Some tasks publish no stage before its data is there. -/
def isPrepared (held : List Stage) : List Task → Bool
  | [] => true
  | task :: rest => task.stage?.all held.contains && isPrepared (task.provide held) rest

/-- The stages that some tasks have to publish. -/
def pending (tasks : List Task) : List Stage := tasks.filterMap stage?

/-- A build publishes every stage once, in the order of publication. -/
theorem pending_schedule (size : Nat) : pending (schedule size) = Stage.publicationOrder := by
  have records : pending ((List.range size).map addRecord) = [] := by
    simp [pending, List.filterMap_map, stage?]
  simp only [pending, schedule, List.filterMap_append] at records ⊢
  rw [records]
  rfl

/-- Making entries provides nothing. -/
theorem isPrepared_records (held : List Stage) (indices : List Nat) (rest : List Task) :
    isPrepared held (indices.map addRecord ++ rest) = isPrepared held rest := by
  induction indices with
  | nil => rfl
  | cons index others ih => simpa [isPrepared, stage?, provide] using ih

/-- No build publishes a stage before its data is there. -/
theorem isPrepared_schedule (size : Nat) : isPrepared [] (schedule size) = true := by
  simp only [schedule, List.append_assoc, List.cons_append, List.nil_append, isPrepared, stage?,
    provide, Option.all_none, Bool.true_and]
  rw [isPrepared_records]
  decide

end Task

/-- What is there before a task and what the task provides is there after it. -/
theorem Build.holds_filled (build : Build) {generation : Generation} {held : List Stage}
    (h : ∀ stage ∈ held, generation.Holds stage) (task : Task) :
    ∀ stage ∈ task.provide held, (build.filled generation task).Holds stage := by
  have kept : ∀ stage ∈ held, (build.filled generation task).Holds stage :=
    fun stage member => (build.grows_filled generation task).holds (h stage member)
  intro stage member
  cases task with
  | storeBiosCount | storeSorted | storeFilter =>
      obtain rfl | old := List.mem_cons.1 member
      · rfl
      · exact kept stage old
  | storeKeys field =>
      simp only [Task.provide] at member
      split at member
      · rename_i listed
        obtain rfl | old := List.mem_cons.1 member
        · obtain ⟨entries, hentries⟩ := Option.isSome_iff_exists.1 (h _ listed)
          refine ⟨entries.map fun entry => entry.setKey field (entry.keyFor build.isTitled field),
            by simp [filled, hentries], fun entry member => ?_⟩
          obtain ⟨bare, -, rfl⟩ := List.mem_map.1 member
          exact bare.isSome_keys_setKey field _
        · exact kept stage old
      · exact kept stage member
  | publish | locateTitles | openTitles | askPlaceholder | addRecord | applyTitles
  | dropPlaceholder | reportComplete => exact kept stage member

end SystemMenu
