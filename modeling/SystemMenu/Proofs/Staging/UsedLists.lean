import Mathlib.Data.List.Nodup
import SystemMenu.Proofs.Staging.PublishedList
import SystemMenu.Proofs.Staging.Uses

/-!
# The lists of a cache in use

Whatever callers told the entries of a list, the list still stands for the records of the catalog, and so
does the list that another cache over the same catalog publishes.

## Main statements

* `Cache.InUse.offers_all`: everything comes to be published.
* `Cache.InUse.listsTold`: every list is a list of the catalog.
* `Catalog.ListsTold.eq_of_shortname`: a system is listed once.
* `Catalog.ListsTold.exists_same`: what one list has every other list has, too.
-/

namespace SystemMenu

/-- The list is published before the filter index. -/
theorem Generation.InOrder.sortedList_mem {generation : Generation} (inOrder : generation.InOrder)
    (offered : Stage.filterIndex ∈ generation.published) : Stage.sortedList ∈ generation.published := by
  have before : ∀ count ≤ Stage.publicationOrder.length,
      Stage.filterIndex ∈ Stage.publicationOrder.take count →
        Stage.sortedList ∈ Stage.publicationOrder.take count := by decide
  have start := inOrder.published
  rw [List.prefix_iff_eq_take.1 start] at offered ⊢
  exact before _ start.length_le offered

namespace Catalog

/-- A list of the catalog, apart from what its entries were told. -/
def ListsTold (catalog : Catalog) (list : List Entry) : Prop :=
  catalog.Lists (list.map (Entry.mark fun _ => false))

namespace ListsTold

variable {catalog : Catalog} {list other : List Entry}

/-- The records of the list are those that the catalog lists. -/
theorem map_record_perm (lists : catalog.ListsTold list) :
    (list.map Entry.record).Perm catalog.listed := by
  have records := lists.records
  rw [List.map_map] at records
  exact records

/-- Every entry stands for a record of the catalog, and it is a clone if the record is one. -/
theorem of_mem (lists : catalog.ListsTold list) {entry : Entry} (member : entry ∈ list) :
    entry.record ∈ catalog.records ∧ entry.isClone = catalog.isClone entry.record := by
  have unmarked : entry.mark (fun _ => false) ∈ list.map (Entry.mark fun _ => false) :=
    List.mem_map_of_mem member
  have own := lists.own _ unmarked
  have clone := lists.clones _ unmarked
  exact ⟨List.mem_of_getElem? own, clone⟩

/-- No short name occurs twice. -/
theorem nodup_shortname (lists : catalog.ListsTold list) : (list.map Entry.shortname).Nodup := by
  have apart := lists.coherent.distinct
  rw [List.pairwise_map] at apart
  exact List.pairwise_map.2 apart

/-- A system is listed once. -/
theorem eq_of_shortname (lists : catalog.ListsTold list) {a b : Entry} (aMember : a ∈ list)
    (bMember : b ∈ list) (same : a.shortname = b.shortname) : a = b :=
  List.inj_on_of_nodup_map lists.nodup_shortname aMember bMember same

/-- What one list has another list of the catalog has, too. -/
theorem exists_same (lists : catalog.ListsTold list) (others : catalog.ListsTold other)
    {entry : Entry} (member : entry ∈ list) :
    ∃ same ∈ other, same.record = entry.record ∧ same.isClone = entry.isClone := by
  have records := lists.map_record_perm.trans others.map_record_perm.symm
  obtain ⟨same, sameMember, record⟩ :=
    List.mem_map.1 (records.mem_iff.1 (List.mem_map_of_mem member))
  refine ⟨same, sameMember, record, ?_⟩
  rw [(lists.of_mem member).2, (others.of_mem sameMember).2, record]

end ListsTold

end Catalog

namespace Cache

variable {catalog : Catalog} {cache other : Cache}

/-- Over a catalog everything comes to be published if a build is started and let go on. -/
theorem InUse.offers_all (inUse : InUse catalog.source cache) (ordered : catalog.Ordered)
    (searchPath selector : String) (tree : FileTree) :
    ((cache.beginBuild searchPath selector).1.proceed tree none).1.offers Stage.all = true := by
  have begun := (inUse.faithful ordered).beginBuild searchPath selector
  rw [← unmarked_beginBuild] at begun
  have started : (cache.beginBuild searchPath selector).1.unmarked.started = true := by
    change (cache.beginBuild searchPath selector).1.started = true
    simp only [Cache.beginBuild]
    split
    · assumption
    · rfl
  -- What entries were told makes no difference to what is published.
  have all := begun.offers_all started tree
  rw [← begun.unmarked_proceed ordered tree, offers, current_unmarked, generation_unmarked] at all
  exact all

/-- The current list is that of the current generation, once it is published. -/
theorem sortedList?_eq_some_iff {number : Nat} :
    cache.sortedList? = some number ↔
      Stage.sortedList ∈ cache.published ∧ cache.current = number := by
  simp [sortedList?, offers, Generation.offers, published]

/-- A list that is published is stored. -/
theorem Sound.isSome_sorted (sound : cache.Sound) {number : Nat}
    (current : cache.sortedList? = some number) : (cache.generation number).sorted.isSome := by
  obtain ⟨listed, rfl⟩ := sortedList?_eq_some_iff.1 current
  exact (sound.inOrder_generation cache.current).backed _ listed

/-- A list that was stored is a list of the catalog, apart from what its entries were told. -/
theorem InUse.listsTold (inUse : InUse catalog.source cache) (ordered : catalog.Ordered)
    {number : Nat} {list : List Entry} (stored : (cache.generation number).sorted = some list) :
    catalog.ListsTold list := by
  obtain ⟨titles, made⟩ := (inUse.faithful ordered).made number
  rw [generation_unmarked] at made
  have unmarked : (cache.generation number).unmarked.sorted =
      some (list.map (Entry.mark fun _ => false)) := by
    simp [Generation.unmarked, Generation.mark, stored]
  exact (made.lists ordered unmarked).1

/-- So is the current list. -/
theorem InUse.lists (inUse : InUse catalog.source cache) (ordered : catalog.Ordered) {number : Nat}
    (current : cache.sortedList? = some number) : catalog.ListsTold (cache.entries number) := by
  obtain ⟨list, stored⟩ := Option.isSome_iff_exists.1 (inUse.sound.isSome_sorted current)
  have entries : cache.entries number = list := by rw [entries, stored, Option.getD_some]
  rw [entries]
  exact inUse.listsTold ordered stored

/-- Every entry stands for a record of the catalog, and it is a clone if the record is one. -/
theorem InUse.of_mem_sortedList (inUse : InUse catalog.source cache) (ordered : catalog.Ordered)
    {number : Nat} (current : cache.sortedList? = some number) {entry : Entry}
    (member : entry ∈ cache.entries number) :
    entry.record ∈ catalog.records ∧ entry.isClone = catalog.isClone entry.record :=
  (inUse.lists ordered current).of_mem member

/-- A system is listed once. -/
theorem InUse.eq_of_shortname (inUse : InUse catalog.source cache) (ordered : catalog.Ordered)
    {number : Nat} (current : cache.sortedList? = some number) {a b : Entry}
    (aMember : a ∈ cache.entries number) (bMember : b ∈ cache.entries number)
    (same : a.shortname = b.shortname) : a = b :=
  (inUse.lists ordered current).eq_of_shortname aMember bMember same

/-- What one list has the other has, too, whatever happened in between. -/
theorem InUse.exists_same (inUse : InUse catalog.source cache) (others : InUse catalog.source other)
    (ordered : catalog.Ordered) {number next : Nat} (current : cache.sortedList? = some number)
    (listed : other.sortedList? = some next) {entry : Entry}
    (member : entry ∈ cache.entries number) :
    ∃ same ∈ other.entries next, same.record = entry.record ∧ same.isClone = entry.isClone :=
  (inUse.lists ordered current).exists_same (others.lists ordered listed) member

end Cache

end SystemMenu
