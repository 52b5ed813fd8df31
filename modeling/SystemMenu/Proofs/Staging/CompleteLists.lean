import Mathlib.Data.List.Perm.Subperm
import SystemMenu.Proofs.Listing.Retitling
import SystemMenu.Proofs.Staging.PublishedList

/-!
# What a complete build leaves

A generation whose stages are all published is determined by the catalog and by what the title file says:
nothing else of the history shows. Every entry then has all its search keys, and those of its reading go
with the reading.

## Main statements

* `Entry.keys_fillKeys`: the keys that filling in leaves.
* `Catalog.fresh_workingList`: no key is there before the list is sorted, apart from those of readings.
* `Generation.MadeFrom.eq_complete`: what is there once all stages are published.
-/

namespace SystemMenu

open Text.Utf8 (Bytes)

namespace Entry

/-- An entry with all its search keys. -/
def withKeys (titled : Bool) (entry : Entry) : Entry :=
  { entry with keys := fun field => some (entry.keyFor titled field) }

@[simp] theorem keyFor_setKey (entry : Entry) (field other : SearchField) (key : String)
    (titled : Bool) : (entry.setKey field key).keyFor titled other = entry.keyFor titled other := by
  unfold setKey
  split <;> rfl

/-- A key is what it was before, or what is filled in for its kind. -/
theorem keys_fillKeys (titled : Bool) (fields : List SearchField) (entry : Entry)
    (field : SearchField) :
    (entry.fillKeys titled fields).keys field =
      (entry.keys field).or (if field ∈ fields then some (entry.keyFor titled field) else none) := by
  induction fields generalizing entry with
  | nil => simp [fillKeys]
  | cons first rest ih =>
      change ((entry.setKey first (entry.keyFor titled first)).fillKeys titled rest).keys field = _
      rw [ih, keyFor_setKey]
      by_cases here : field = first
      · subst here
        cases known : entry.keys field <;> simp [setKey, known]
      · have other : (entry.setKey first (entry.keyFor titled first)).keys field =
            entry.keys field := by
          unfold setKey
          split <;> simp [here]
        simp [other, here]

/-- Filling in keys of all kinds gives all keys, where none was there. -/
theorem fillKeys_eq_withKeys {titled : Bool} {fields : List SearchField} {entry : Entry}
    (keyless : entry.keys = fun _ => none)
    (all : ∀ field, ((entry.fillKeys titled fields).keys field).isSome) :
    entry.fillKeys titled fields = entry.withKeys titled := by
  have keys : (entry.fillKeys titled fields).keys = (entry.withKeys titled).keys := by
    funext field
    have some := all field
    rw [keys_fillKeys, keyless] at some ⊢
    split at some
    · rename_i member
      simp [member, withKeys]
    · cases some
  have same := (Entry.Grows.fillKeys titled fields entry).same
  calc entry.fillKeys titled fields
      = { { entry.fillKeys titled fields with keys := entry.keys } with
          keys := (entry.fillKeys titled fields).keys } := rfl
    _ = entry.withKeys titled := by rw [same, keys]; rfl

/-- An entry as a title file leaves it: it has no search keys but those of its reading, and it has not
been told whether its media is there. -/
structure Fresh (entry : Entry) : Prop where
  available : entry.available = false
  keys : entry.keys = fun _ => none
  readingKey : entry.readingKey =
    if entry.reading = "" then "" else Text.searchKey entry.reading
  manufacturerReadingKey : entry.manufacturerReadingKey =
    if entry.reading = "" then ""
    else Text.searchKeyJoined entry.record.manufacturer entry.reading

namespace Fresh

variable {entry : Entry}

theorem takeTitle (fresh : entry.Fresh) (title : String) : (entry.takeTitle title).Fresh := by
  unfold Entry.takeTitle
  split
  · exact fresh
  · exact ⟨fresh.available, fresh.keys, fresh.readingKey, fresh.manufacturerReadingKey⟩

theorem takeReading (fresh : entry.Fresh) (reading : String) :
    (entry.takeReading reading).Fresh := by
  unfold Entry.takeReading
  split
  · exact fresh
  · rename_i taken
    obtain ⟨said, -⟩ := not_or.1 taken
    exact ⟨fresh.available, fresh.keys, (if_neg said).symm, (if_neg said).symm⟩

theorem fillTitle (fresh : entry.Fresh) : entry.fillTitle.Fresh := by
  unfold Entry.fillTitle
  split
  · exact ⟨fresh.available, fresh.keys, fresh.readingKey, fresh.manufacturerReadingKey⟩
  · exact fresh

theorem namedBy (fresh : entry.Fresh) (bytes : Bytes) : (entry.namedBy bytes).Fresh :=
  ((fresh.takeTitle _).takeReading _).fillTitle

theorem inheritTitle (fresh : entry.Fresh) (entries : List Entry) :
    (inheritTitle entries entry).Fresh := by
  unfold SystemMenu.inheritTitle
  split
  · exact fresh
  · split <;> exact ⟨fresh.available, fresh.keys, fresh.readingKey, fresh.manufacturerReadingKey⟩

end Fresh

end Entry

namespace Catalog

variable {catalog : Catalog}

theorem fresh_draft (catalog : Catalog) (copyTitles : Bool) (count : Nat) :
    ∀ entry ∈ (catalog.draft copyTitles count).entries, entry.Fresh := by
  intro entry member
  obtain ⟨index, _, rfl⟩ := List.mem_mapIdx.1 member
  unfold entryOf
  split <;> exact ⟨rfl, rfl, rfl, rfl⟩

/-- Before the list is sorted no search key is there but those of readings. -/
theorem fresh_workingList (ordered : catalog.Ordered) (titles : Option Bytes) :
    ∀ entry ∈ catalog.workingList titles, entry.Fresh := by
  intro entry member
  have titled : entry ∈ catalog.titledEntries titles := List.mem_of_mem_eraseIdx member
  cases titles with
  | none => exact fresh_draft catalog _ _ entry titled
  | some bytes =>
      obtain ⟨named, namedMember, rfl⟩ := List.mem_map.1 titled
      rw [entries_applyTitles ((Enumerates.draft catalog false).increasing ordered)] at namedMember
      obtain ⟨bare, bareMember, rfl⟩ := List.mem_map.1 namedMember
      exact ((fresh_draft catalog _ _ bare bareMember).namedBy bytes).inheritTitle _

end Catalog

namespace Generation

variable {catalog : Catalog} {titles : Option Bytes} {generation : Generation}

/-- What a build leaves that has published all stages. -/
def complete (catalog : Catalog) (titles : Option Bytes) : Generation where
  published := Stage.publicationOrder
  biosCount := some (catalog.listed.countP fun record => record.traits.biosRoot)
  sorted := some ((sortEntries (catalog.workingList titles)).map (Entry.withKeys titles.isSome))
  filter := some (Catalog.collected catalog.listed).finalize

/-- If every stage is published, they were published in their order. -/
theorem InOrder.published_eq (inOrder : generation.InOrder)
    (offered : generation.offers Stage.all = true) :
    generation.published = Stage.publicationOrder := by
  have all : Stage.publicationOrder ⊆ generation.published := by
    intro stage member
    exact mem_published offered (Stage.publicationOrder_perm_all.mem_iff.1 member)
  have distinct : Stage.publicationOrder.Nodup := by decide
  exact inOrder.published.eq_of_length_le (distinct.subperm all).length_le

/-- A generation whose stages are all published holds what the catalog and the title file make, and
nothing else. -/
theorem MadeFrom.eq_complete (made : generation.MadeFrom catalog titles) (ordered : catalog.Ordered)
    (inOrder : generation.InOrder) (offered : generation.offers Stage.all = true) :
    generation = complete catalog titles := by
  have holds : ∀ stage ∈ Stage.all, generation.Holds stage :=
    fun stage member => inOrder.backed stage (mem_published offered member)
  obtain ⟨count, counted⟩ := Option.isSome_iff_exists.1 (holds .biosCount (by decide))
  obtain ⟨index, indexed⟩ := Option.isSome_iff_exists.1 (holds .filterIndex (by decide))
  obtain ⟨list, stored⟩ := Option.isSome_iff_exists.1 (holds .sortedList (by decide))
  obtain ⟨fields, rfl⟩ := made.sorted list stored
  have keyed : (sortEntries (catalog.workingList titles)).map (Entry.fillKeys titles.isSome fields) =
      (sortEntries (catalog.workingList titles)).map (Entry.withKeys titles.isSome) := by
    apply List.map_congr_left
    intro entry member
    have fresh := catalog.fresh_workingList ordered titles entry
      ((sortEntries_perm _).mem_iff.1 member)
    apply Entry.fillKeys_eq_withKeys fresh.keys
    intro field
    obtain ⟨entries, hentries, filled⟩ := holds (.keys field) (by cases field <;> decide)
    rw [stored] at hentries
    cases hentries
    exact filled _ (List.mem_map_of_mem member)
  have published := inOrder.published_eq offered
  rw [keyed] at stored
  rw [made.biosCount count counted] at counted
  rw [made.filter index indexed] at indexed
  cases generation
  simp_all [complete]

end Generation

/-- Once all stages are published, the current list is that of the current generation. -/
theorem Cache.sortedList?_of_complete {cache : Cache} (offered : cache.offers Stage.all = true) :
    cache.sortedList? = some cache.current := by
  have listed := Generation.mem_published offered (by decide : Stage.sortedList ∈ Stage.all)
  simp [sortedList?, offers, Generation.offers, listed]

end SystemMenu
