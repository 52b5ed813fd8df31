import Mathlib.Algebra.Order.Ring.Unbundled.Rat
import Mathlib.Order.Bounds.Basic
import SystemMenu.Proofs.Ranking.ExactMatch

/-!
# What a score is

The keys of an entry are tried one after the other, and the search ends at the first exact match. What
comes out is the least distance of the query to all keys that can be read, whatever their order: a key
after an exact match could not be nearer. So a score can be told from the set of these keys alone, and
keys that become readable later can only lower it.

## Main statements

* `Ranking.isLeast_leastDistance`: giving up at an exact match loses nothing.
* `Ranking.mem_searchKeys_iff`: the keys that are tried are those that can be read.
* `Ranking.scoreEntry_least`: a score as the least of one and some distances.
-/

namespace SystemMenu

open Score (Metric)

namespace Ranking

/-- A text can be read as a key of an entry once some stages are published: a key of its reading always
can, any other once its stage is among them and it has been filled in. An empty key is none. -/
def Readable (published : List Stage) (entry : Entry) (key : String) : Prop :=
  key ≠ "" ∧ (key = entry.readingKey ∨ key = entry.manufacturerReadingKey ∨
    ∃ field : SearchField, field.stage ∈ published ∧ entry.keys field = some key)

theorem publishedKey_eq_iff {published : List Stage} {entry : Entry} {field : SearchField}
    {key : String} (said : key ≠ "") :
    publishedKey published entry field = key ↔
      field.stage ∈ published ∧ entry.keys field = some key := by
  unfold publishedKey
  split
  · rename_i offered
    rw [List.contains_iff_mem] at offered
    cases filled : entry.keys field with
    | none => simp [said.symm]
    | some other => simp [offered]
  · rename_i missing
    rw [List.contains_iff_mem] at missing
    simp [missing, said.symm]

/-- The keys that are tried are those that can be read. -/
theorem mem_searchKeys_iff {published : List Stage} {entry : Entry} {key : String} :
    key ∈ searchKeys published entry ↔ Readable published entry key := by
  by_cases empty : key = ""
  · simp [searchKeys, Readable, empty]
  · have filled : ∀ field, publishedKey published entry field = key ↔
        field.stage ∈ published ∧ entry.keys field = some key :=
      fun _ => publishedKey_eq_iff empty
    constructor
    · intro tried
      refine ⟨empty, ?_⟩
      have among := (List.mem_filter.1 tried).1
      simp only [List.mem_cons, List.not_mem_nil, or_false, eq_comm (a := key), filled] at among
      rcases among with h | h | h | h | h | h | h
      · exact .inr (.inr ⟨_, h⟩)
      · exact .inl h.symm
      · exact .inr (.inl h.symm)
      all_goals exact .inr (.inr ⟨_, h⟩)
    · rintro ⟨-, rfl | rfl | ⟨field, h⟩⟩
      · simp [searchKeys, empty]
      · simp [searchKeys, empty]
      · rw [← filled] at h
        subst h
        cases field <;> simp [searchKeys, empty]

/-- The search with the next key goes on with the lesser of the bound and its distance. -/
theorem leastDistance_cons (metric : Metric) (query : String) (bound : Rat) (key : String)
    (rest : List String) :
    leastDistance metric query bound (key :: rest) =
      if min bound (metric.distance query key) = 0 then 0
      else leastDistance metric query (min bound (metric.distance query key)) rest := by
  have lesser : (if metric.distance query key < bound then metric.distance query key else bound) =
      min bound (metric.distance query key) := by
    rw [min_comm, min_def_lt]
  simp only [leastDistance, lesser]
  split
  · assumption
  · rfl

/-- Giving up at an exact match loses nothing: the search finds the least of the bound and all
distances. -/
theorem isLeast_leastDistance (metric : Metric) (query : String) {bound : Rat} (nonneg : 0 ≤ bound)
    (keys : List String) :
    IsLeast (insert bound (metric.distance query '' {key | key ∈ keys}))
      (leastDistance metric query bound keys) := by
  induction keys generalizing bound with
  | nil => simp [leastDistance]
  | cons key rest ih =>
      have apart := metric.distance_nonneg query key
      have all : insert bound (metric.distance query '' {other | other ∈ key :: rest}) =
          insert bound (insert (metric.distance query key)
            (metric.distance query '' {other | other ∈ rest})) := by
        rw [← Set.image_insert_eq]
        congr
        ext other
        exact List.mem_cons
      rw [all, leastDistance_cons]
      split
      · rename_i exactly
        constructor
        · obtain first | first := min_choice bound (metric.distance query key)
          · exact .inl (exactly.symm.trans first)
          · exact .inr (.inl (exactly.symm.trans first))
        · rintro value (rfl | rfl | ⟨other, -, rfl⟩)
          · exact nonneg
          · exact apart
          · exact metric.distance_nonneg query other
      · obtain ⟨found, least⟩ := ih (le_min nonneg apart)
        constructor
        · obtain first | among := found
          · rw [first]
            obtain lesser | lesser := min_choice bound (metric.distance query key)
            · exact .inl lesser
            · exact .inr (.inl lesser)
          · exact .inr (.inr among)
        · have below := least (Set.mem_insert _ _)
          rintro value (rfl | rfl | among)
          · exact below.trans (min_le_left _ _)
          · exact below.trans (min_le_right _ _)
          · exact least (.inr among)

/-- The score of an entry is the least of one and the distances to the keys that can be read. -/
theorem isLeast_scoreEntry (metric : Metric) (query : String) (published : List Stage)
    (entry : Entry) :
    IsLeast (insert 1 (metric.distance query '' {key | Readable published entry key}))
      (scoreEntry metric query published entry) := by
  have least := isLeast_leastDistance metric query (by decide : (0 : Rat) ≤ 1)
    (searchKeys published entry)
  simp only [mem_searchKeys_iff] at least
  exact least

/-- What can be read stays readable when more stages are published. -/
theorem Readable.mono {published later : List Stage} (more : published ⊆ later) {entry : Entry}
    {key : String} (readable : Readable published entry key) : Readable later entry key := by
  obtain ⟨said, reading | manufacturer | ⟨field, offered, filled⟩⟩ := readable
  · exact ⟨said, .inl reading⟩
  · exact ⟨said, .inr (.inl manufacturer)⟩
  · exact ⟨said, .inr (.inr ⟨field, more offered, filled⟩)⟩

/-- Entries agree in what can be read of them if they agree in what is published. -/
theorem readable_congr {published : List Stage} {entry other : Entry}
    (reading : other.readingKey = entry.readingKey)
    (manufacturer : other.manufacturerReadingKey = entry.manufacturerReadingKey)
    (same : ∀ field : SearchField, field.stage ∈ published → other.keys field = entry.keys field)
    (key : String) : Readable published other key ↔ Readable published entry key := by
  have filled : ∀ field : SearchField,
      (field.stage ∈ published ∧ other.keys field = some key) ↔
        field.stage ∈ published ∧ entry.keys field = some key := by
    intro field
    apply and_congr_right
    intro offered
    rw [same field offered]
  simp only [Readable, reading, manufacturer, filled]

/-- A score is the least of one and the distances of the query to the keys that can be read, in whatever
order they are tried. It lies between zero and one, and is zero exactly if the query is one of these
keys, so never for an empty query. It does not depend on keys that are not published yet, and publishing
more never raises it. -/
theorem scoreEntry_least (metric : Metric) (query : String) (published : List Stage)
    (entry : Entry) :
    IsLeast (insert 1 (metric.distance query '' {key | Readable published entry key}))
      (scoreEntry metric query published entry) ∧
    (∀ keys : List String, keys.Perm (searchKeys published entry) →
      leastDistance metric query 1 keys = scoreEntry metric query published entry) ∧
    (0 ≤ scoreEntry metric query published entry ∧ scoreEntry metric query published entry ≤ 1) ∧
    (scoreEntry metric query published entry = 0 ↔ Readable published entry query) ∧
    scoreEntry metric "" published entry ≠ 0 ∧
    (∀ other : Entry, other.readingKey = entry.readingKey →
      other.manufacturerReadingKey = entry.manufacturerReadingKey →
      (∀ field : SearchField, field.stage ∈ published → other.keys field = entry.keys field) →
        scoreEntry metric query published other = scoreEntry metric query published entry) ∧
    ∀ later : List Stage, published ⊆ later →
      scoreEntry metric query later entry ≤ scoreEntry metric query published entry := by
  have least := isLeast_scoreEntry metric query published entry
  refine ⟨least, fun keys perm => ?_, ⟨?_, ?_⟩, ?_, ?_, fun other reading manufacturer same => ?_,
    fun later more => ?_⟩
  · have reordered := isLeast_leastDistance metric query (by decide : (0 : Rat) ≤ 1) keys
    simp only [perm.mem_iff, mem_searchKeys_iff] at reordered
    exact reordered.unique least
  · exact leastDistance_nonneg metric query (by decide) _
  · exact least.2 (Set.mem_insert _ _)
  · rw [scoreEntry_eq_zero_iff, mem_searchKeys_iff]
  · rw [Ne, scoreEntry_eq_zero_iff, mem_searchKeys_iff]
    exact fun readable => readable.1 rfl
  · have others := isLeast_scoreEntry metric query published other
    simp only [readable_congr reading manufacturer same] at others
    exact others.unique least
  · apply least.mono (isLeast_scoreEntry metric query later entry)
    apply Set.insert_subset_insert
    exact Set.image_mono fun key readable => readable.mono more

end Ranking

end SystemMenu
