import SystemMenu.Proofs.Listing.SystemList
import SystemMenu.Proofs.Staging.CatalogHistories

/-!
# What the shared list shows

The list that a cache over a catalog publishes is complete, strictly increasing and grouped, in every
generation, whatever callers did before, whatever the title file says and whenever the files changed.

## Main statements

* `Cache.Reachable.sort_order`: the order of the entries that are sorted.
* `Cache.Reachable.published_complete`: what the published list holds.
* `Cache.Reachable.published_groups`: how the list is grouped.
-/

namespace SystemMenu

open Text (collate)
open Text.Utf8 (Bytes)

/-- The number of BIOS sets is published before the list. -/
theorem Generation.InOrder.biosCount_mem {generation : Generation} (inOrder : generation.InOrder)
    (listed : Stage.sortedList ∈ generation.published) : Stage.biosCount ∈ generation.published := by
  obtain ⟨rest, split⟩ := inOrder.published
  -- A prefix of the order of publication that is not empty starts with this stage.
  cases hpublished : generation.published with
  | nil => simp [hpublished] at listed
  | cons first others =>
      rw [hpublished] at split
      obtain rfl : first = .biosCount := (List.cons.inj split).1
      exact List.mem_cons_self

theorem Generation.mem_published {generation : Generation} {stages : List Stage} {stage : Stage}
    (offered : generation.offers stages = true) (member : stage ∈ stages) :
    stage ∈ generation.published := by
  rw [offers, List.all_eq_true] at offered
  exact List.contains_iff_mem.1 (offered stage member)

/-- A list that is published was stored. -/
theorem Generation.InOrder.exists_sorted {generation : Generation} (inOrder : generation.InOrder)
    (listed : Stage.sortedList ∈ generation.published) :
    ∃ list, generation.sorted = some list :=
  Option.isSome_iff_exists.1 (inOrder.backed _ listed)

/-- A list that was stored is a list of the catalog in display order. -/
theorem Generation.MadeFrom.lists {catalog : Catalog} {titles : Option Bytes}
    {generation : Generation} (made : generation.MadeFrom catalog titles) (ordered : catalog.Ordered)
    {list : List Entry} (h : generation.sorted = some list) :
    catalog.Lists list ∧ list.Pairwise fun a b => compareEntries a b = .lt := by
  obtain ⟨fields, rfl⟩ := made.sorted list h
  have grows := Entry.Grows.fillKeys titles.isSome fields
  have working := Catalog.lists_workingList ordered titles
  constructor
  · exact (working.perm (sortEntries_perm _)).map_grows grows
  · rw [List.pairwise_map]
    apply working.coherent.pairwise_sortEntries.imp
    intro a b before
    rw [compareEntries_of_grows (grows a) (grows b)]
    exact before

/-- Records with every kind of parent: none, one that sorts after its clone, a BIOS set, the placeholder,
an unknown one and the record itself. -/
def Catalog.family : Catalog where
  records := [placeholderRecord,
    { name := "apac", description := "Alpha", parent := some "pac" },
    { name := "board", description := "Board", traits := { biosRoot := true } },
    { name := "cart", description := "Cartridge", parent := some "board" },
    { name := "lost", description := "Lost", parent := some "found" },
    { name := "pac", description := "Zeta" },
    { name := "self", description := "Self", parent := some "self" },
    { name := "void", description := "Void", parent := some placeholderName }]
  placeholder := 0

theorem Catalog.ofRecords_family : ofRecords family.records = .ok family := by
  refine ofRecords_eq_ok ?_ ⟨?_, placeholderRecord, rfl, rfl⟩
  · decide +kernel
  · rw [Increasing]
    decide +kernel

namespace Cache.Reachable

variable {records : List SystemRecord} {catalog : Catalog} {cache : Cache}

/-- Entries that are about to be sorted are compared group by group and member by member, and a clone
is grouped under the name and short name of its parent. This is a strict order in which only the same
entry is equal to an entry. -/
theorem sort_order (accepted : Catalog.ofRecords records = .ok catalog)
    (reachable : Reachable catalog.source cache) {build : Build} (running : cache.build = some build)
    (sorting : build.todo.head? = some .storeSorted) :
    (∀ a ∈ build.draft.entries, ∀ b ∈ build.draft.entries,
      compareEntries a b =
        ((collate a.groupDisplayName b.groupDisplayName).then <|
          (compare a.groupName b.groupName).then <|
            (compare a.isClone b.isClone).then <|
              (collate a.displayName b.displayName).then <|
                compare a.shortname b.shortname)) ∧
      (∀ clone ∈ build.draft.entries, ∀ parent ∈ build.draft.entries, clone.isClone = true →
        clone.record.parent = some parent.shortname →
          clone.groupDisplayName = parent.displayName ∧ clone.groupName = parent.shortname) ∧
      (∀ a ∈ build.draft.entries, ∀ b ∈ build.draft.entries,
        a.groupName = b.groupName → a.groupDisplayName = b.groupDisplayName) ∧
      (∀ a ∈ build.draft.entries, ∀ b ∈ build.draft.entries,
        compareEntries b a = (compareEntries a b).swap) ∧
      (∀ a ∈ build.draft.entries, ∀ b ∈ build.draft.entries, ∀ c ∈ build.draft.entries,
        compareEntries a b = .lt → compareEntries b c = .lt → compareEntries a c = .lt) ∧
      (∀ a ∈ build.draft.entries, ∀ b ∈ build.draft.entries, compareEntries a b = .eq ↔ a = b) ∧
      (build.draft.entries.map Entry.shortname).Nodup := by
  have ordered := Catalog.ordered_of_ofRecords accepted
  have stands := reachable.faithful.stands build running
  obtain ⟨titles, entries⟩ := stands.entries_eq sorting
  rw [entries]
  have coherent := Catalog.coherent_workingList ordered titles
  refine ⟨?_, ?_, ?_, ?_, ?_, ?_, ?_⟩
  · intro a ha b hb
    rw [coherent.compareEntries_eq ha hb, compareByGroup_eq_then]
  · intro clone hclone parent hparent isClone named
    obtain ⟨title, titled⟩ := coherent.titled
    have name : clone.parentName = parent.shortname := by simp [Entry.parentName, named]
    constructor
    · rw [Entry.groupDisplayName, if_pos isClone, (titled clone hclone).parent isClone, name,
        (titled parent hparent).own]
    · rw [Entry.groupName, if_pos isClone, name]
  · intro a ha b hb
    exact coherent.groupDisplayName_eq ha hb
  · intro a _ b _
    exact compareEntries_swap a b
  · intro a ha b hb c hc
    exact coherent.compareEntries_lt_trans ha hb hc
  · intro a ha b hb
    exact coherent.compareEntries_eq_eq_iff ha hb
  · rw [List.Nodup, List.pairwise_map]
    exact coherent.distinct

theorem sort_order_family :
    ∃ cache build, Reachable Catalog.family.source cache ∧ cache.build = some build ∧
      build.todo.head? = some .storeSorted ∧
      build.draft.entries.map Entry.record = Catalog.family.listed ∧
      ∀ a ∈ build.draft.entries, ∀ b ∈ build.draft.entries, compareEntries a b = .eq ↔ a = b := by
  obtain ⟨cache, build, reachable, running, sorting⟩ :=
    exists_sorting Catalog.family "" "" (.empty [])
  obtain ⟨titles, entries⟩ := (reachable.faithful.stands build running).entries_eq sorting
  obtain ⟨-, -, -, -, -, strict, -⟩ := sort_order Catalog.ofRecords_family reachable running sorting
  refine ⟨cache, build, reachable, running, sorting, ?_, strict⟩
  rw [entries, Catalog.record_workingList]

/-- A build that is let go on publishes everything. Whatever list is published holds every record but
the placeholder once, in strictly increasing order, and no other arrangement of it passes for
ordered. -/
theorem published_complete (accepted : Catalog.ofRecords records = .ok catalog)
    (reachable : Reachable catalog.source cache) :
    (∀ searchPath selector tree,
      ((cache.beginBuild searchPath selector).1.proceed tree none).1.offers Stage.all = true) ∧
    ∀ number, (cache.generation number).offers [.sortedList] = true →
      ∃ list, (cache.generation number).sorted = some list ∧
        (∀ index, (list.map Entry.index).count index =
          if index < catalog.records.length ∧ index ≠ catalog.placeholder then 1 else 0) ∧
        (∀ entry ∈ list,
          catalog.source.recordAt entry.index = .ok entry.record ∧
          catalog.source.cloneOf entry.index = .ok (catalog.cloneOf? entry.index) ∧
          entry.isClone = (catalog.cloneOf? entry.index).isSome) ∧
        (cache.generation number).biosCount =
          some (list.countP fun entry => entry.record.traits.biosRoot) ∧
        (list.Pairwise fun a b => compareEntries a b = .lt) ∧
        orderViolation? list = none ∧
        ∀ other, other.Perm list → other ≠ list → orderViolation? other ≠ none := by
  have ordered := Catalog.ordered_of_ofRecords accepted
  constructor
  · intro searchPath selector tree
    have begun := reachable.faithful.beginBuild searchPath selector
    refine begun.offers_all ?_ tree
    simp only [Cache.beginBuild]
    split
    · assumption
    · rfl
  · intro number offered
    have listed := Generation.mem_published offered (List.mem_singleton_self _)
    have inOrder := reachable.faithful.sound.inOrder_generation number
    obtain ⟨titles, made⟩ := reachable.faithful.made number
    obtain ⟨list, stored⟩ := inOrder.exists_sorted listed
    obtain ⟨count, counted⟩ :=
      Option.isSome_iff_exists.1 (inOrder.backed _ (inOrder.biosCount_mem listed))
    obtain ⟨lists, increasing⟩ := made.lists ordered stored
    refine ⟨list, stored, lists.count_index, fun entry member => lists.source_answers member, ?_,
      increasing, Coherent.orderViolation?_eq_none increasing, ?_⟩
    · rw [counted, made.biosCount count counted, lists.countP_record fun record =>
        record.traits.biosRoot]
    · intro other same different
      exact lists.coherent.orderViolation?_ne_none increasing same different

theorem published_complete_family :
    ∃ cache list, Reachable Catalog.family.source cache ∧
      (cache.generation cache.current).offers [.sortedList] = true ∧
      (cache.generation cache.current).sorted = some list ∧
      (list.map Entry.index).count 0 = 0 ∧ (list.map Entry.index).count 7 = 1 ∧
      (list.map Entry.index).count 8 = 0 ∧ orderViolation? list = none := by
  obtain ⟨cache, reachable, offered⟩ := exists_published Catalog.family "" "" (.empty [])
  have listed : (cache.generation cache.current).offers [.sortedList] = true := by
    simpa [Generation.offers] using Generation.mem_published offered (by decide)
  obtain ⟨-, complete⟩ := published_complete Catalog.ofRecords_family reachable
  obtain ⟨list, stored, count, -, -, -, right, -⟩ := complete cache.current listed
  exact ⟨cache, list, reachable, listed, stored, count 0, count 7, count 8, right⟩

/-- Entries of one group stand together, the one that is no clone first and the clones after it in the
order of their own names; groups stand in the order of their names. -/
theorem published_groups (accepted : Catalog.ofRecords records = .ok catalog)
    (reachable : Reachable catalog.source cache) {number : Nat} {list : List Entry}
    (stored : (cache.generation number).sorted = some list) :
    (∀ i j k (_ : i < list.length) (_ : j < list.length) (_ : k < list.length), i < j → j < k →
      list[i].groupName = list[k].groupName → list[j].groupName = list[i].groupName) ∧
    (∀ i j (_ : i < list.length) (_ : j < list.length), i < j →
      list[i].groupName = list[j].groupName →
        list[j].isClone = true ∧ list[i].groupDisplayName = list[j].groupDisplayName ∧
          (list[i].isClone = true →
            (collate list[i].displayName list[j].displayName).then
              (compare list[i].shortname list[j].shortname) = .lt)) ∧
    (∀ i j (_ : i < list.length) (_ : j < list.length), i < j →
      list[i].groupName ≠ list[j].groupName →
        (collate list[i].groupDisplayName list[j].groupDisplayName).then
          (compare list[i].groupName list[j].groupName) = .lt) ∧
    (∀ i j (_ : i < list.length) (_ : j < list.length), list[i].isClone = false →
      list[j].isClone = true → list[j].record.parent = some list[i].shortname →
        i < j ∧ ∀ k (_ : k < list.length), i < k → k < j →
          list[k].isClone = true ∧ list[k].record.parent = some list[i].shortname) := by
  obtain ⟨titles, made⟩ := reachable.faithful.made number
  obtain ⟨lists, increasing⟩ := made.lists (Catalog.ordered_of_ofRecords accepted) stored
  refine ⟨?_, ?_, ?_, ?_⟩
  · intro i j k _ _ hk hij hjk same
    exact lists.coherent.groupName_between increasing hij hjk hk same
  · intro i j _ hj hij same
    obtain ⟨follower, siblings⟩ := lists.coherent.member_order increasing hij hj same
    exact ⟨follower, lists.coherent.groupDisplayName_eq (List.getElem_mem _) (List.getElem_mem _)
      same, siblings⟩
  · intro i j _ hj hij different
    exact lists.coherent.group_order increasing hij hj different
  · intro i j hi hj head clone parent
    have name : list[j].parentName = list[i].shortname := by simp [Entry.parentName, parent]
    obtain ⟨before, between⟩ := lists.coherent.clones_follow increasing hi hj head clone name
    refine ⟨before, ?_⟩
    intro k _ hik hkj
    obtain ⟨isClone, own⟩ := between k hik hkj
    refine ⟨isClone, ?_⟩
    rw [← own]
    exact lists.parent_of_isClone (List.getElem_mem _) isClone

theorem published_groups_family :
    ∃ cache list, Reachable Catalog.family.source cache ∧
      (cache.generation cache.current).sorted = some list ∧
      (list.map Entry.record).Perm Catalog.family.listed ∧
      ∀ i j (_ : i < list.length) (_ : j < list.length), list[i].isClone = false →
        list[j].isClone = true → list[j].record.parent = some list[i].shortname → i < j := by
  obtain ⟨cache, reachable, offered⟩ := exists_published Catalog.family "" "" (.empty [])
  obtain ⟨list, stored⟩ := (reachable.faithful.sound.inOrder_generation cache.current).exists_sorted
    (Generation.mem_published offered (by decide))
  obtain ⟨titles, made⟩ := reachable.faithful.made cache.current
  obtain ⟨lists, -⟩ := made.lists (Catalog.ordered_of_ofRecords Catalog.ofRecords_family) stored
  obtain ⟨-, -, -, follow⟩ := published_groups Catalog.ofRecords_family reachable stored
  refine ⟨cache, list, reachable, stored, lists.records, ?_⟩
  intro i j hi hj head clone parent
  exact (follow i j hi hj head clone parent).1

end Cache.Reachable

end SystemMenu
