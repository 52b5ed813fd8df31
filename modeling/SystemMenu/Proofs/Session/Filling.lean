import Mathlib.Data.List.Nodup
import SystemMenu.Proofs.Ranking.ExactMatch
import SystemMenu.Session.Basic

/-!
# What a menu lists

Whether a menu shows favorites, the best matches of a search or all systems: the systems that it lists
stand in the list that it was filled from, are accepted by the filter, and each is listed once. What the
ranker keeps afterwards is this list.

## Main statements

* `Favorites.Distinct.add`, `Favorites.Distinct.remove`: no two favorites are for the same.
* `Session.rankedItems_eq`: the results are the first accepted candidates.
* `Session.exists_fill_search`: what a search for a name lists first.
* `Session.filled_fill`: what a menu is filled with.
-/

namespace SystemMenu

namespace Favorites

variable {favorites : Favorites}

/-- No two favorites have the same system and software. -/
def Distinct (favorites : Favorites) : Prop := (favorites.items.map Favorite.key).Nodup

theorem contains_eq_true_iff (favorites : Favorites) (shortname : String) (software : Option String) :
    favorites.contains shortname software = true ↔
      (shortname, software) ∈ favorites.items.map Favorite.key := by
  simp [contains]

theorem Distinct.add (distinct : favorites.Distinct) (favorite : Favorite) :
    (favorites.add favorite).1.Distinct := by
  unfold Favorites.add
  split
  · exact distinct
  · rename_i new
    rw [contains_eq_true_iff] at new
    rw [Distinct, List.map_append, List.nodup_append']
    refine ⟨distinct, List.nodup_singleton _, ?_⟩
    rw [List.map_singleton, List.disjoint_singleton]
    exact new

theorem Distinct.remove (distinct : favorites.Distinct) (shortname : String)
    (software : Option String) : (favorites.remove shortname software).1.Distinct :=
  distinct.sublist (List.filter_sublist.map _)

theorem distinct_ofList (items : List Favorite) : (ofList items).Distinct := by
  suffices h : ∀ favorites : Favorites, favorites.Distinct →
      (items.foldl (fun favorites favorite => (favorites.add favorite).1) favorites).Distinct from
    h {} List.nodup_nil
  induction items with
  | nil => exact fun _ distinct => distinct
  | cons first rest ih => exact fun _ distinct => ih _ (distinct.add first)

end Favorites

/-- The position that a system item stands for. -/
def MenuItem.position? : MenuItem → Option Nat
  | system position => some position
  | configuration _ | software _ => none

theorem MenuItem.position?_eq_some_iff {item : MenuItem} {position : Nat} :
    item.position? = some position ↔ item = .system position := by
  cases item <;> simp [position?]

/-- The positions of systems are those that they were listed for. -/
theorem MenuItem.filterMap_position?_system (positions : List Nat) :
    (positions.map system).filterMap position? = positions := by
  rw [List.filterMap_map]
  exact List.filterMap_some

/-- While there is a current list, a ranker that keeps this list or none ranks this list. -/
theorem Ranker.rank?_eq {ranker : Ranker} {cache : Cache} {number : Nat}
    (current : cache.sortedList? = some number)
    (ranked : ranker.snapshot = none ∨ ranker.snapshot = some number) (query : String) :
    ranker.rank? cache query = some (ranker.rankGeneration cache number query) := by
  obtain none | same := ranked
  · rw [rank?, none, current]
    rfl
  · rw [rank?, same]
    rfl

namespace Session

/-- The systems of a filled menu: they are accepted, each is listed once, and there is nothing to
configure among them. The ranker keeps their list, if it keeps any. -/
structure Filled (filter : Filter) (favorites : Favorites) (entries : List Entry) (number : Nat)
    (systems : List MenuItem) (ranker : Ranker) : Prop where
  accepted : ∀ position, .system position ∈ systems →
    ∃ entry, entries[position]? = some entry ∧ filter.accepts favorites.isFavorite entry = true
  distinct : (systems.filterMap MenuItem.position?).Nodup
  plain : ∀ target, .configuration target ∉ systems
  ranked : ranker.snapshot = none ∨ ranker.snapshot = some number

theorem mem_acceptedPositions_iff {filter : Filter} {favorites : Favorites} {entries : List Entry}
    {positions : List Nat} {position : Nat} :
    position ∈ acceptedPositions filter favorites entries positions ↔
      position ∈ positions ∧
        ∃ entry, entries[position]? = some entry ∧
          filter.accepts favorites.isFavorite entry = true := by
  rw [acceptedPositions, List.mem_filter, Option.any_eq_true]

theorem of_position?_eq_some {entries : List Entry} {shortname : String} {position : Nat}
    (h : position? entries shortname = some position) :
    ∃ entry, entries[position]? = some entry ∧ entry.shortname = shortname := by
  obtain ⟨inside, named, -⟩ := List.findIdx?_eq_some_iff_getElem.1 h
  exact ⟨entries[position], List.getElem?_eq_getElem inside, by simpa using named⟩

section Fill

variable {filter : Filter} {favorites : Favorites} {entries : List Entry} {number : Nat}
  {ranker : Ranker}

/-- Some of the accepted positions, each listed once. -/
theorem filled_of_positions {positions chosen : List Nat} (distinct : positions.Nodup)
    (sublist : chosen.Sublist (acceptedPositions filter favorites entries positions))
    (ranked : ranker.snapshot = none ∨ ranker.snapshot = some number) :
    Filled filter favorites entries number (chosen.map .system) ranker where
  accepted position member := by
    obtain ⟨same, sameMember, equal⟩ := List.mem_map.1 member
    cases equal
    exact (mem_acceptedPositions_iff.1 (sublist.subset sameMember)).2
  distinct := by
    rw [MenuItem.filterMap_position?_system]
    exact distinct.sublist (sublist.trans List.filter_sublist)
  plain target member := by
    obtain ⟨_, -, equal⟩ := List.mem_map.1 member
    cases equal
  ranked := ranked

/-- A system item for a favorite stands for the system alone. -/
theorem of_favoriteItem_eq_system {favorite : Favorite} {position : Nat}
    (h : favoriteItem entries favorite = .system position) :
    favorite.software = none ∧
      ∃ entry, entries[position]? = some entry ∧ entry.shortname = favorite.shortname := by
  simp only [favoriteItem] at h
  split at h
  · rename_i found
    cases h
    split at found
    · rename_i alone
      exact ⟨Option.isNone_iff_eq_none.1 alone, of_position?_eq_some found⟩
    · cases found
  · cases h

/-- Favorites for different systems stand at different positions. -/
theorem filled_favorites (distinct : favorites.Distinct)
    (ranked : ranker.snapshot = none ∨ ranker.snapshot = some number) :
    Filled .favorites favorites entries number (favorites.sorted.map (favoriteItem entries))
      ranker where
  accepted position member := by
    obtain ⟨favorite, favoriteMember, item⟩ := List.mem_map.1 member
    obtain ⟨alone, entry, here, named⟩ := of_favoriteItem_eq_system item
    refine ⟨entry, here, ?_⟩
    change favorites.contains entry.shortname none = true
    rw [Favorites.contains_eq_true_iff, named, ← alone]
    exact List.mem_map_of_mem ((favorites.sorted_perm).mem_iff.1 favoriteMember)
  distinct := by
    have keys : (favorites.sorted.map Favorite.key).Nodup :=
      ((favorites.sorted_perm.map _).nodup_iff).2 distinct
    rw [List.filterMap_map, List.Nodup, List.pairwise_filterMap]
    rw [List.Nodup, List.pairwise_map] at keys
    apply keys.imp
    intro a b different i hi j hj same
    -- Two favorites at one position would be for the same system, both without software.
    obtain ⟨aloneA, entryA, hereA, namedA⟩ :=
      of_favoriteItem_eq_system (MenuItem.position?_eq_some_iff.1 hi)
    obtain ⟨aloneB, entryB, hereB, namedB⟩ :=
      of_favoriteItem_eq_system (MenuItem.position?_eq_some_iff.1 hj)
    rw [same, hereB] at hereA
    cases hereA
    exact different (Prod.ext (namedA.symm.trans namedB) (aloneA.trans aloneB.symm))
  plain target member := by
    obtain ⟨favorite, -, item⟩ := List.mem_map.1 member
    simp only [favoriteItem] at item
    split at item <;> cases item
  ranked := ranked

end Fill

/-- A search lists the first accepted systems of a ranking of the list. -/
theorem fill_search {session : Session} {cache : Cache} {number : Nat} (favorites : Favorites)
    (current : cache.sortedList? = some number)
    (ranked : session.ranker.snapshot = none ∨ session.ranker.snapshot = some number)
    (systems : session.showsFavorites = false) (search : session.search ≠ "") :
    (session.fill cache favorites number).1 =
      session.rankedItems favorites (cache.entries number)
        (Ranking.rankEntries session.ranker.metric session.search cache.published
          (cache.entries number)) := by
  rw [fill, if_neg (by simp [systems]), if_pos search, Ranker.rank?_eq current ranked]
  rfl

/-- The results of a search are the first candidates that the filter accepts. -/
theorem rankedItems_eq (session : Session) (favorites : Favorites) (entries : List Entry)
    (candidates : List Ranking.Candidate) :
    session.rankedItems favorites entries candidates =
      ((candidates.filter fun candidate => (entries[candidate.position]?).any
          (session.filter.accepts favorites.isFavorite)).take session.maxVisibleResults).map
        fun candidate => .system candidate.position := by
  rw [rankedItems, acceptedPositions, List.filter_map, ← List.map_take, List.map_map]
  rfl

/-- If the query is a key of an accepted system, it is one of the system that a search lists first. -/
theorem exists_fill_search {session : Session} {cache : Cache} {number : Nat} (favorites : Favorites)
    (current : cache.sortedList? = some number)
    (ranked : session.ranker.snapshot = none ∨ session.ranker.snapshot = some number)
    (systems : session.showsFavorites = false) (search : session.search ≠ "") {position : Nat}
    {entry : Entry} (here : (cache.entries number)[position]? = some entry)
    (accepted : session.filter.accepts favorites.isFavorite entry = true)
    (key : Text.searchKey session.search ∈ Ranking.searchKeys cache.published entry) :
    ∃ first rest found, (session.fill cache favorites number).1 =
        ((first :: rest).take session.maxVisibleResults).map .system ∧
      (cache.entries number)[first]? = some found ∧
      Text.searchKey session.search ∈ Ranking.searchKeys cache.published found := by
  have candidate : ⟨0, position⟩ ∈ Ranking.rankEntries session.ranker.metric session.search
      cache.published (cache.entries number) :=
    (Ranking.mem_rankEntries_iff ..).2 ⟨entry, here, ((Ranking.scoreEntry_eq_zero_iff ..).2 key).symm⟩
  have shown : ⟨0, position⟩ ∈ (Ranking.rankEntries session.ranker.metric session.search
      cache.published (cache.entries number)).filter fun candidate =>
        ((cache.entries number)[candidate.position]?).any
          (session.filter.accepts favorites.isFavorite) :=
    List.mem_filter.2 ⟨candidate, (Option.any_eq_true ..).2 ⟨entry, here, accepted⟩⟩
  obtain ⟨first, rest, candidates⟩ := List.exists_cons_of_ne_nil (List.ne_nil_of_mem shown)
  have some := candidates ▸ List.filter_sublist
  obtain ⟨found, there, score⟩ :=
    (Ranking.mem_rankEntries_iff ..).1 (some.subset List.mem_cons_self)
  have exactly := Ranking.score_first_eq_zero _ _ _ _ some (candidates ▸ shown) rfl
  refine ⟨first.position, rest.map Ranking.Candidate.position, found, ?_, there,
    (Ranking.scoreEntry_eq_zero_iff ..).1 (score.symm.trans exactly)⟩
  rw [fill_search favorites current ranked systems search, rankedItems_eq, candidates,
    ← List.map_cons, ← List.map_take, List.map_map]
  rfl

/-- Without a search text all accepted systems are listed. -/
theorem fill_all {session : Session} (cache : Cache) (favorites : Favorites) (number : Nat)
    (systems : session.showsFavorites = false) (search : session.search = "") :
    (session.fill cache favorites number).1 =
      session.listedItems favorites (cache.entries number) := by
  rw [fill, if_neg (by simp [systems]), if_neg (by simp [search])]

/-- After the menu was filled from the current list, the ranker keeps this list, if it keeps any. -/
theorem ranked_fill {session : Session} {cache : Cache} {number : Nat} (favorites : Favorites)
    (current : cache.sortedList? = some number)
    (ranked : session.ranker.snapshot = none ∨ session.ranker.snapshot = some number) :
    (session.fill cache favorites number).2.snapshot = none ∨
      (session.fill cache favorites number).2.snapshot = some number := by
  unfold fill
  split
  · exact ranked
  · split
    · rw [Ranker.rank?_eq current ranked]
      exact .inr rfl
    · exact ranked

/-- Whatever a menu shows, it is filled with accepted systems of the list, each of them once, and the
ranker keeps this list, if it keeps any. -/
theorem filled_fill (session : Session) {cache : Cache} {favorites : Favorites} {number : Nat}
    (current : cache.sortedList? = some number) (distinct : favorites.Distinct)
    (ranked : session.ranker.snapshot = none ∨ session.ranker.snapshot = some number) :
    Filled session.filter favorites (cache.entries number) number
      (session.fill cache favorites number).1 (session.fill cache favorites number).2 := by
  unfold fill
  split
  · rename_i shows
    rw [show session.filter = .favorites by simpa [showsFavorites] using shows]
    exact filled_favorites distinct ranked
  · split
    · rw [Ranker.rank?_eq current ranked]
      refine filled_of_positions ?_ (List.take_sublist _ _) (.inr rfl)
      exact (Ranking.position_rankEntries_perm ..).nodup_iff.2 List.nodup_range
    · exact filled_of_positions List.nodup_range (.refl _) ranked

end Session

end SystemMenu
