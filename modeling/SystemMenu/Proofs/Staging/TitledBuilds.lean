import SystemMenu.Proofs.Staging.CompleteLists

/-!
# The title file of a build

While a build goes on over files that stay as they are, the title file that it applies is the first one
on its search path, and what it applies is what that file holds. So such a build leaves the generation
that the catalog and this file determine, whatever happened to the cache before it.

## Main statements

* `Build.titleFile?`: what the title file says that a build finds.
* `Build.Reads.next`: a task keeps to this file.
* `Cache.Faithful.built`: what a build leaves that is started and let go on.
-/

namespace SystemMenu

open Text.Utf8 (Bytes)

namespace Task

@[simp] theorem applyTitles_mem_adding (index size : Nat) : .applyTitles ∈ adding index size := by
  simp [adding, closing]

@[simp] theorem dropPlaceholder_mem_adding (index size : Nat) :
    .dropPlaceholder ∈ adding index size := by
  simp [adding, closing]

/-- The title file is looked for and opened before the first record. -/
@[simp] theorem not_mem_adding (index size : Nat) :
    .locateTitles ∉ adding index size ∧ .openTitles ∉ adding index size := by
  simp [adding, closing, finishing, SearchField.all]

/-- Nothing changes the list that is to be sorted once the sorting comes next. -/
@[simp] theorem not_mem_finishing : .locateTitles ∉ finishing ∧ .openTitles ∉ finishing ∧
    .applyTitles ∉ finishing ∧ .dropPlaceholder ∉ finishing := by
  simp [finishing, SearchField.all]

end Task

namespace Build

/-- What the title file says that is found. -/
def titleFile? (tree : FileTree) (searchPath selector : String) : Option Bytes :=
  (findTitles? tree searchPath selector).bind fun path => (tree.readBytes path).toOption

/-- What is found is a file, which can be opened and read. -/
theorem readable_of_findTitles? {tree : FileTree} {searchPath selector path : String}
    (found : findTitles? tree searchPath selector = some path) :
    ∃ node bytes, tree.openAt path = .ok node ∧ tree.readHandle node = .ok bytes ∧
      titleFile? tree searchPath selector = some bytes := by
  have isFile : tree.isFile path = true := by
    unfold findTitles? at found
    split at found
    · cases found
    · exact List.find?_some found
  unfold FileTree.isFile at isFile
  split at isFile
  · rename_i id opened
    refine ⟨.file id, tree.contents[id]?.getD [], opened, rfl, ?_⟩
    have read : tree.readBytes path = .ok (tree.contents[id]?.getD []) := by
      simp only [FileTree.readBytes, FileTree.openAt, opened]
      rfl
    simp [titleFile?, found, read, Except.toOption]
  · cases isFile

/-- A file that was found is opened. -/
theorem openTitles_eq {build : Build} {tree : FileTree} {searchPath selector : String}
    (located : build.titlePath = findTitles? tree searchPath selector)
    (unopened : build.titles = none) :
    (build.openTitles tree).1 =
      { build with
        titles := (findTitles? tree searchPath selector).bind fun path =>
          (tree.openAt path).toOption } := by
  cases found : findTitles? tree searchPath selector with
  | none =>
      simp only [openTitles, located, found, Option.bind_none]
      rw [← unopened, ← found, ← located]
  | some path =>
      obtain ⟨node, bytes, openAt, -⟩ := readable_of_findTitles? found
      simp [openTitles, located, found, openAt, Except.toOption]

/-- What the open file holds is applied. -/
theorem applyOpenTitles_eq {build : Build} {tree : FileTree} {searchPath selector : String}
    (opened : build.titles = (findTitles? tree searchPath selector).bind fun path =>
      (tree.openAt path).toOption) :
    (build.applyOpenTitles tree).1 =
      { build with
        draft := { build.draft with
          entries := (titleFile? tree searchPath selector).elim build.draft.entries fun bytes =>
            inheritTitles (applyTitles bytes build.draft.entries).entries } } := by
  cases found : findTitles? tree searchPath selector with
  | none =>
      have silent : titleFile? tree searchPath selector = none := by simp [titleFile?, found]
      have closed : build.titles = none := by simpa [found] using opened
      have unchanged : build.applyOpenTitles tree = (build, []) := by simp [applyOpenTitles, closed]
      rw [unchanged, silent]
      rfl
  | some path =>
      obtain ⟨node, bytes, openAt, read, holds⟩ := readable_of_findTitles? found
      simp [applyOpenTitles, opened, found, openAt, read, holds, Except.toOption]

/-- What a build over a catalog knows about the title file, while the files stay as they are. -/
structure Reads (catalog : Catalog) (tree : FileTree) (searchPath selector : String)
    (build : Build) : Prop where
  searchPath_eq : build.searchPath = searchPath
  selector_eq : build.selector = selector
  located : .locateTitles ∉ build.todo → build.titlePath = findTitles? tree searchPath selector
  unopened : .openTitles ∈ build.todo → build.titles = none
  opened : .openTitles ∉ build.todo → build.titles =
    (findTitles? tree searchPath selector).bind fun path => (tree.openAt path).toOption
  titled : .applyTitles ∉ build.todo → .dropPlaceholder ∈ build.todo →
    build.draft.entries = catalog.titledEntries (titleFile? tree searchPath selector)
  erased : .dropPlaceholder ∉ build.todo →
    build.draft.entries = catalog.workingList (titleFile? tree searchPath selector)

namespace Reads

variable {catalog : Catalog} {tree : FileTree} {searchPath selector : String} {build : Build}
  {generation : Generation} {task : Task} {todo : List Task}

theorem start (catalog : Catalog) (tree : FileTree) (number size : Nat)
    (searchPath selector : String) :
    (Build.start number size searchPath selector).Reads catalog tree searchPath selector where
  searchPath_eq := rfl
  selector_eq := rfl
  located absent := absurd (by simp [Build.start, Task.schedule]) absent
  unopened _ := rfl
  opened absent := absurd (by simp [Build.start, Task.schedule]) absent
  titled absent := absurd (by simp [Build.start, Task.schedule]) absent
  erased absent := absurd (by simp [Build.start, Task.schedule]) absent

/-- A build that has opened its title file is titled if there is one. -/
theorem isTitled_eq (reads : build.Reads catalog tree searchPath selector)
    (opened : .openTitles ∉ build.todo) :
    build.isTitled = (titleFile? tree searchPath selector).isSome := by
  rw [isTitled, reads.opened opened]
  cases found : findTitles? tree searchPath selector with
  | none => simp [titleFile?, found]
  | some path =>
      obtain ⟨node, bytes, openAt, -, holds⟩ := readable_of_findTitles? found
      simp [holds, openAt, Except.toOption]

/-- A task that has nothing to do with titles changes nothing of it. -/
theorem skip (reads : build.Reads catalog tree searchPath selector) (h : build.todo = task :: todo)
    (other : task ≠ .locateTitles ∧ task ≠ .openTitles ∧ task ≠ .applyTitles ∧
      task ≠ .dropPlaceholder) :
    ({ build with todo := todo } : Build).Reads catalog tree searchPath selector := by
  obtain ⟨notLocate, notOpen, notApply, notDrop⟩ := other
  have same : ∀ {kind : Task}, task ≠ kind → (kind ∈ build.todo ↔ kind ∈ todo) := by
    intro kind different
    rw [h, List.mem_cons]
    exact or_iff_right (Ne.symm different)
  refine ⟨reads.searchPath_eq, reads.selector_eq, ?_, ?_, ?_, ?_, ?_⟩
  · exact fun absent => reads.located (mt (same notLocate).1 absent)
  · exact fun left => reads.unopened ((same notOpen).2 left)
  · exact fun absent => reads.opened (mt (same notOpen).1 absent)
  · exact fun absent left => reads.titled (mt (same notApply).1 absent) ((same notDrop).2 left)
  · exact fun absent => reads.erased (mt (same notDrop).1 absent)

/-- The title file that is found and opened is the one that stays. -/
theorem next_starting {done requests : Nat} {result : TaskResult}
    (reads : build.Reads catalog tree searchPath selector) (early : done < 3)
    (left : build.todo = (Task.schedule catalog.records.length).drop done)
    (h : build.todo = task :: todo)
    (ok : ({ build with todo := todo } : Build).perform catalog.source tree task generation
      requests = .ok result) :
    result.build.Reads catalog tree searchPath selector := by
  rw [Task.schedule_eq] at left
  obtain rfl | rfl | rfl : done = 0 ∨ done = 1 ∨ done = 2 := by omega
  · cases left.symm.trans h
    have same : result.build = { build with
        todo := .openTitles :: .askPlaceholder :: Task.adding 0 catalog.records.length
        titlePath := findTitles? tree searchPath selector } := by
      rw [← reads.searchPath_eq, ← reads.selector_eq]
      cases ok
      rfl
    rw [same]
    refine ⟨reads.searchPath_eq, reads.selector_eq, fun _ => rfl, fun _ => ?_, ?_, ?_, ?_⟩
    · exact reads.unopened (by simp [left])
    all_goals exact fun absent => absurd (by simp) absent
  · cases left.symm.trans h
    let next : Build :=
      { build with todo := .askPlaceholder :: Task.adding 0 catalog.records.length }
    have located : next.titlePath = findTitles? tree searchPath selector :=
      reads.located (by simp [left])
    have unopened : next.titles = none := reads.unopened (by simp [left])
    have same : result.build = (next.openTitles tree).1 := by
      cases ok
      rfl
    rw [same, openTitles_eq located unopened]
    refine ⟨reads.searchPath_eq, reads.selector_eq, fun _ => located, ?_, fun _ => rfl, ?_, ?_⟩
    · exact fun left => absurd left (by simp [next])
    all_goals exact fun absent => absurd (by simp [next]) absent
  · cases left.symm.trans h
    have skipped := reads.skip h (by decide)
    cases ok
    exact ⟨skipped.searchPath_eq, skipped.selector_eq, skipped.located, skipped.unopened,
      skipped.opened, skipped.titled, skipped.erased⟩

/-- The entries that the title file makes are those of the file that was opened. -/
theorem next_announced {requests : Nat} {result : TaskResult}
    (reads : build.Reads catalog tree searchPath selector)
    (left : build.todo = .applyTitles :: .dropPlaceholder :: Task.finishing)
    (draft : build.draft = catalog.draft (!build.isTitled) catalog.records.length)
    (ok : ({ build with todo := .dropPlaceholder :: Task.finishing } : Build).perform catalog.source
      tree .applyTitles generation requests = .ok result) :
    result.build.Reads catalog tree searchPath selector := by
  let next : Build := { build with todo := .dropPlaceholder :: Task.finishing }
  have opened : next.titles = (findTitles? tree searchPath selector).bind fun path =>
      (tree.openAt path).toOption := reads.opened (by simp [left])
  have located := reads.located (by simp [left])
  have isTitled := reads.isTitled_eq (by simp [left])
  have same : result.build = (next.applyOpenTitles tree).1 := by
    cases ok
    rfl
  rw [same, applyOpenTitles_eq opened]
  refine ⟨reads.searchPath_eq, reads.selector_eq, fun _ => located, ?_, fun _ => opened,
    fun _ _ => ?_, ?_⟩
  · exact fun left => absurd left (by simp [next])
  · change Option.elim _ build.draft.entries _ = _
    rw [draft, isTitled]
    cases titleFile? tree searchPath selector <;> rfl
  · exact fun absent => absurd List.mem_cons_self absent

/-- A task keeps to the title file. -/
theorem next (stands : build.Stands catalog generation)
    (reads : build.Reads catalog tree searchPath selector) (h : build.todo = task :: todo)
    {requests : Nat} {result : TaskResult}
    (ok : ({ build with todo := todo } : Build).perform catalog.source tree task generation
      requests = .ok result) :
    result.build.Reads catalog tree searchPath selector := by
  cases stands with
  | starting done early left => exact next_starting reads early left h ok
  | adding index inside left =>
      obtain before | rfl := Nat.lt_or_eq_of_le inside
      · rw [Task.adding_of_lt before] at left
        cases left.symm.trans h
        have skipped := reads.skip h (by simp)
        simp only [perform, bind, Except.bind] at ok
        split at ok
        · cases ok
        · cases ok
          refine ⟨skipped.searchPath_eq, skipped.selector_eq, skipped.located, skipped.unopened,
            skipped.opened, ?_, ?_⟩
          all_goals exact fun absent => absurd (by simp) absent
      · rw [Task.adding_self] at left
        cases left.symm.trans h
        cases ok
        exact reads.skip h (by decide)
  | counted left =>
      cases left.symm.trans h
      cases ok
      exact reads.skip h (by decide)
  | announced left draft =>
      cases left.symm.trans h
      exact next_announced reads left draft ok
  | titled titles left isTitled draft bare =>
      cases left.symm.trans h
      have opened := reads.opened (by simp [left])
      have located := reads.located (by simp [left])
      have entries := reads.titled (by simp [left]) (by simp [left])
      cases ok
      refine ⟨reads.searchPath_eq, reads.selector_eq, fun _ => located, ?_, fun _ => opened, ?_, ?_⟩
      · exact fun left => absurd left (by simp)
      · exact fun _ left => absurd left (by simp)
      · intro _
        change build.draft.entries.eraseIdx catalog.placeholder = _
        rw [entries]
        rfl
  | finishing titles left =>
      rw [h] at left
      have member : task ∈ Task.finishing := left.subset List.mem_cons_self
      cases task with
      | storeBiosCount | storeSorted | storeFilter | storeKeys | publish | reportComplete =>
          cases ok
          exact reads.skip h (by simp)
      | locateTitles | openTitles | askPlaceholder | addRecord | applyTitles | dropPlaceholder =>
          simp [Task.finishing, SearchField.all] at member

end Reads

/-- What an ended build has filled is made from the title file that it read. -/
theorem Stands.madeFrom {catalog : Catalog} {tree : FileTree} {searchPath selector : String}
    {build : Build} {generation : Generation} (stands : build.Stands catalog generation)
    (reads : build.Reads catalog tree searchPath selector) (ended : build.todo = []) :
    generation.MadeFrom catalog (titleFile? tree searchPath selector) := by
  cases stands with
  | starting done early left =>
      rw [ended, Task.schedule_eq] at left
      obtain rfl | rfl | rfl : done = 0 ∨ done = 1 ∨ done = 2 := by omega
      all_goals cases left
  | adding index inside left =>
      have applies := Task.applyTitles_mem_adding index catalog.records.length
      rw [← left, ended] at applies
      cases applies
  | counted left | announced left | titled _ left => cases ended.symm.trans left
  | finishing titles left isTitled draft made =>
      have entries := reads.erased (by simp [ended])
      rw [draft] at entries
      replace entries : catalog.workingList titles = catalog.workingList _ := entries
      refine { made with sorted := ?_ }
      intro list stored
      rw [← entries, ← reads.isTitled_eq (by simp [ended]), isTitled]
      exact made.sorted list stored

end Build

namespace Cache.Faithful

variable {catalog : Catalog} {cache : Cache} {tree : FileTree} {searchPath selector : String}

/-- A task of a build keeps to the title file. -/
theorem reads_afterStep (faithful : cache.Faithful catalog) {build : Build}
    (known : cache.build = some build) (reads : build.Reads catalog tree searchPath selector) :
    ∃ next, (cache.afterStep tree).build = some next ∧
      next.Reads catalog tree searchPath selector := by
  obtain ⟨-, same⟩ | ⟨running, task, todo, _, hbuild, htodo, outcome⟩ := Cache.step_cases tree cache
  · exact ⟨build, by rw [same, known], reads⟩
  · obtain rfl : running = build := Option.some.inj (hbuild.symm.trans known)
    obtain ⟨number, -⟩ := faithful.sound.onTrack running hbuild
    have stands := faithful.stands running hbuild
    rw [← number] at stands
    rw [faithful.source] at outcome
    obtain ⟨message, failed, -⟩ | ⟨result, ok, h⟩ := outcome
    · obtain ⟨_, expected, -⟩ := stands.advances htodo tree cache.placeholderRequests
      rw [expected] at failed
      cases failed
    · exact ⟨result.build, by rw [h], reads.next stands htodo ok⟩

theorem reads_iterate (faithful : cache.Faithful catalog) {build : Build}
    (known : cache.build = some build) (reads : build.Reads catalog tree searchPath selector)
    (count : Nat) :
    ∃ next, ((Cache.afterStep tree)^[count] cache).build = some next ∧
      next.Reads catalog tree searchPath selector := by
  induction count with
  | zero => exact ⟨build, known, reads⟩
  | succ count ih =>
      obtain ⟨before, hbefore, readsBefore⟩ := ih
      rw [Function.iterate_succ_apply']
      exact (faithful.iterate tree count).reads_afterStep hbefore readsBefore

/-- A build that is started and let go on leaves the generation that the catalog and the title file
determine. -/
theorem built (faithful : cache.Faithful catalog) (ordered : catalog.Ordered)
    (idle : cache.started = false) (tree : FileTree) (searchPath selector : String) :
    (cache.beginAndProceed tree searchPath selector none).1.generation
        (cache.beginAndProceed tree searchPath selector none).1.current =
      Generation.complete catalog (Build.titleFile? tree searchPath selector) := by
  have begun := faithful.beginBuild searchPath selector
  have after : (cache.beginAndProceed tree searchPath selector none).1 =
      ((cache.beginBuild searchPath selector).1.proceed tree none).1 := by
    simp [Cache.beginAndProceed, idle]
  have started : (cache.beginBuild searchPath selector).1 =
      { cache with
        started := true
        buildsStarted := cache.buildsStarted + 1
        build := some (.start cache.current cache.source.size searchPath selector) } := by
    simp [Cache.beginBuild, idle]
  have proceeded := begun.proceed tree
  obtain ⟨build, known, reads⟩ := begun.reads_iterate (by rw [started]) (Build.Reads.start catalog tree
    cache.current cache.source.size searchPath selector)
    (cache.beginBuild searchPath selector).1.remaining
  rw [← advance_eq_iterate] at known
  change (Cache.proceed tree none _).1.build = some build at known
  have ended : build.todo = [] := by
    simpa [isBuilding, Build.isRunning, known] using
      isBuilding_proceed tree (cache.beginBuild searchPath selector).1
  have made := (proceeded.stands build known).madeFrom reads ended
  rw [after]
  refine made.eq_complete ordered (proceeded.sound.inOrder_generation _) ?_
  exact begun.offers_all (by rw [started]) tree

end Cache.Faithful

end SystemMenu
