import SystemMenu.Proofs.Listing.Sorting
import SystemMenu.Proofs.Text.Collation

/-!
# Groups in display order

A group is an entry that is no clone, together with the clones that name it as their parent. The
comparison of two entries looks at different names in different cases. It agrees with one fixed order,
group by group and then member by member, as soon as entries are titled coherently: one function from
short names to titles gives every entry its own name and every clone the name of its parent.

## Main statements

* `compareEntries_swap`: the comparison turned round.
* `compareEntries_eq_compareByGroup`: the cases of the comparison are one order.
* `Coherent.pairwise_sortEntries`: sorting gives a strictly increasing list.
* `Coherent.orderViolation?_ne_none`: no other arrangement is free of violations.
* `Coherent.groupName_between`, `Coherent.member_order`, `Coherent.group_order`: groups stand together.
-/

namespace SystemMenu

open Text (CollationKey collate)

/-- The name by which the group of an entry is sorted. -/
def Entry.groupDisplayName (entry : Entry) : String :=
  if entry.isClone then entry.parentDisplayName else entry.displayName

/-- Order of groups: by their names, then by their short names. -/
def compareGroups : Entry → Entry → Ordering :=
  compareLex (compareOn fun entry => CollationKey.ofText entry.groupDisplayName)
    (compareOn Entry.groupName)

/-- Order within a group: clones last, then by the own names, then by the short names. -/
def compareMembers : Entry → Entry → Ordering :=
  compareLex (compareOn Entry.isClone) <|
    compareLex (compareOn fun entry => CollationKey.ofText entry.displayName)
      (compareOn Entry.shortname)

/-- Group by group, and member by member within a group. -/
def compareByGroup : Entry → Entry → Ordering := compareLex compareGroups compareMembers

instance : Std.TransCmp compareGroups :=
  inferInstanceAs (Std.TransCmp (compareLex _ _))

instance : Std.TransCmp compareMembers :=
  inferInstanceAs (Std.TransCmp (compareLex _ _))

instance : Std.TransCmp compareByGroup :=
  inferInstanceAs (Std.TransCmp (compareLex _ _))

theorem compareGroups_eq_then (a b : Entry) :
    compareGroups a b =
      (collate a.groupDisplayName b.groupDisplayName).then (compare a.groupName b.groupName) := rfl

/-- The order by groups written out. -/
theorem compareByGroup_eq_then (a b : Entry) :
    compareByGroup a b = (collate a.groupDisplayName b.groupDisplayName).then
      ((compare a.groupName b.groupName).then
        ((compare a.isClone b.isClone).then
          ((collate a.displayName b.displayName).then (compare a.shortname b.shortname)))) :=
  Ordering.then_assoc _ _ _

/-- An entry and, if it is a clone, its parent are named as a function from short names says. -/
structure Entry.TitledBy (title : String → String) (entry : Entry) : Prop where
  own : entry.displayName = title entry.shortname
  parent : entry.isClone = true → entry.parentDisplayName = title entry.parentName

theorem Entry.TitledBy.group {title : String → String} {entry : Entry}
    (titled : entry.TitledBy title) : entry.groupDisplayName = title entry.groupName := by
  cases h : entry.isClone with
  | false => simpa [groupDisplayName, groupName, h] using titled.own
  | true => simpa [groupDisplayName, groupName, h] using titled.parent h

/-- Ties are decided in one way, whatever the names were. -/
theorem breakTies_swap (byName : Ordering) (a b : Entry) :
    breakTies byName.swap b b.sortKeys a a.sortKeys =
      (breakTies byName a a.sortKeys b b.sortKeys).swap := by
  simp only [breakTies, Ordering.swap_then]
  rw [Std.OrientedOrd.eq_swap (a := b.groupName), Std.OrientedOrd.eq_swap (a := b.isClone),
    Std.OrientedOrd.eq_swap (a := b.sortKeys.display),
    Std.OrientedOrd.eq_swap (a := b.shortname)]

/-- Comparing two entries the other way round gives the opposite, however they are titled. -/
theorem compareEntries_swap (a b : Entry) : compareEntries b a = (compareEntries a b).swap := by
  have swap : ∀ k l : CollationKey, compare k l = (compare l k).swap :=
    fun _ _ => Std.OrientedOrd.eq_swap
  cases ha : a.isClone <;> cases hb : b.isClone <;> simp only [compareEntries, compareKeyed, ha, hb]
  · rw [swap, breakTies_swap]
  · split
    · rename_i h
      rw [if_pos h.symm, Ordering.swap_lt]
    · rename_i h
      rw [if_neg (Ne.symm h), swap, breakTies_swap]
  · split
    · rename_i h
      rw [if_pos h.symm, Ordering.swap_gt]
    · rename_i h
      rw [if_neg (Ne.symm h), swap, breakTies_swap]
  · split
    · rename_i h
      rw [if_pos h.symm, swap, breakTies_swap]
    · rename_i h
      rw [if_neg (Ne.symm h), swap, breakTies_swap]

/-- On coherently titled entries the cases of the comparison are one order. -/
theorem compareEntries_eq_compareByGroup {title : String → String} {a b : Entry}
    (ha : a.TitledBy title) (hb : b.TitledBy title) : compareEntries a b = compareByGroup a b := by
  rw [compareByGroup_eq_then]
  cases hac : a.isClone <;> cases hbc : b.isClone
  · simp [compareEntries, compareKeyed, breakTies, collate, Entry.groupDisplayName, Entry.sortKeys,
      hac, hbc]
  · -- The parent's own name is the name under which its clone is sorted.
    by_cases own : a.shortname = b.parentName
    · have named : a.displayName = b.parentDisplayName := by rw [ha.own, hb.parent hbc, own]
      simp [compareEntries, compareKeyed, collate, Entry.groupDisplayName, Entry.groupName, hac, hbc,
        own, named]
      rfl
    · simp [compareEntries, compareKeyed, breakTies, collate, Entry.groupDisplayName, Entry.sortKeys,
        hac, hbc, own]
  · by_cases own : a.parentName = b.shortname
    · have named : a.parentDisplayName = b.displayName := by rw [ha.parent hac, hb.own, own]
      simp [compareEntries, compareKeyed, collate, Entry.groupDisplayName, Entry.groupName, hac, hbc,
        own, named]
      rfl
    · simp [compareEntries, compareKeyed, breakTies, collate, Entry.groupDisplayName, Entry.sortKeys,
        hac, hbc, own]
  · -- Siblings have the same parent, and so the same name of their group.
    by_cases siblings : a.parentName = b.parentName
    · have named : a.parentDisplayName = b.parentDisplayName := by
        rw [ha.parent hac, hb.parent hbc, siblings]
      simp [compareEntries, compareKeyed, breakTies, collate, Entry.groupDisplayName, Entry.groupName,
        Entry.sortKeys, hac, hbc, siblings, named, ← Ordering.then_assoc]
    · simp [compareEntries, compareKeyed, breakTies, collate, Entry.groupDisplayName, Entry.sortKeys,
        hac, hbc, siblings]

/-- Entries with different short names, titled by one function. -/
structure Coherent (entries : List Entry) : Prop where
  titled : ∃ title : String → String, ∀ entry ∈ entries, entry.TitledBy title
  distinct : entries.Pairwise fun a b => a.shortname ≠ b.shortname

namespace Coherent

variable {entries other : List Entry} {a b c : Entry}

theorem perm (coherent : Coherent entries) (same : other.Perm entries) : Coherent other where
  titled := by
    obtain ⟨title, titled⟩ := coherent.titled
    exact ⟨title, fun entry member => titled entry (same.mem_iff.1 member)⟩
  distinct := (same.pairwise_iff fun h => h.symm).2 coherent.distinct

theorem compareEntries_eq (coherent : Coherent entries) (ha : a ∈ entries) (hb : b ∈ entries) :
    compareEntries a b = compareByGroup a b := by
  obtain ⟨title, titled⟩ := coherent.titled
  exact compareEntries_eq_compareByGroup (titled a ha) (titled b hb)

theorem groupDisplayName_eq (coherent : Coherent entries) (ha : a ∈ entries) (hb : b ∈ entries)
    (h : a.groupName = b.groupName) : a.groupDisplayName = b.groupDisplayName := by
  obtain ⟨title, titled⟩ := coherent.titled
  rw [(titled a ha).group, (titled b hb).group, h]

/-- A short name stands for one entry. -/
theorem eq_of_shortname (coherent : Coherent entries) (ha : a ∈ entries) (hb : b ∈ entries)
    (h : a.shortname = b.shortname) : a = b := by
  obtain ⟨i, hi, rfl⟩ := List.mem_iff_getElem.1 ha
  obtain ⟨j, hj, rfl⟩ := List.mem_iff_getElem.1 hb
  have pairs := List.pairwise_iff_getElem.1 coherent.distinct
  rcases Nat.lt_trichotomy i j with before | same | after
  · exact absurd h (pairs i j hi hj before)
  · subst same
    rfl
  · exact absurd h.symm (pairs j i hj hi after)

/-- Only the same entry is equal in display order. -/
theorem eq_of_compareByGroup_eq (coherent : Coherent entries) (ha : a ∈ entries) (hb : b ∈ entries)
    (h : compareByGroup a b = .eq) : a = b := by
  simp only [compareByGroup_eq_then, Ordering.then_eq_eq, Std.LawfulEqOrd.compare_eq_iff_eq] at h
  exact coherent.eq_of_shortname ha hb h.2.2.2.2

theorem compareEntries_eq_eq_iff (coherent : Coherent entries) (ha : a ∈ entries)
    (hb : b ∈ entries) : compareEntries a b = .eq ↔ a = b := by
  rw [coherent.compareEntries_eq ha hb]
  constructor
  · exact coherent.eq_of_compareByGroup_eq ha hb
  · rintro rfl
    exact Std.ReflCmp.compare_self

theorem compareEntries_lt_trans (coherent : Coherent entries) (ha : a ∈ entries) (hb : b ∈ entries)
    (hc : c ∈ entries) (hab : compareEntries a b = .lt) (hbc : compareEntries b c = .lt) :
    compareEntries a c = .lt := by
  rw [coherent.compareEntries_eq ha hb] at hab
  rw [coherent.compareEntries_eq hb hc] at hbc
  rw [coherent.compareEntries_eq ha hc]
  exact Std.TransCmp.lt_trans hab hbc

/-- Sorting coherent entries gives a strictly increasing list, not only increasing neighbours. -/
theorem pairwise_sortEntries (coherent : Coherent entries) :
    (sortEntries entries).Pairwise fun a b => compareEntries a b = .lt := by
  have sorted := coherent.perm (sortEntries_perm entries)
  have increasing : (sortEntries entries).Pairwise fun a b => (compareByGroup a b).isLE := by
    rw [sortEntries_eq_arrange]
    have same : arrange (fun a b => compareEntries a b = .lt) entries =
        arrange (fun a b => compareByGroup a b = .lt) entries :=
      arrange_congr fun a ha b hb => by rw [coherent.compareEntries_eq ha hb]
    rw [same]
    exact pairwise_arrange entries
  refine (increasing.and sorted.distinct).imp_of_mem fun {a b} ha hb ⟨le, different⟩ => ?_
  rw [sorted.compareEntries_eq ha hb]
  have ne : compareByGroup a b ≠ .eq := fun eq =>
    different (congrArg Entry.shortname (sorted.eq_of_compareByGroup_eq ha hb eq))
  cases h : compareByGroup a b <;> simp_all

/-- An increasing list has no violation. -/
theorem orderViolation?_eq_none
    (increasing : entries.Pairwise fun a b => compareEntries a b = .lt) :
    orderViolation? entries = none := by
  refine (orderViolation?_eq_none_iff entries).2 (increasing.imp fun {a b} before => ?_).isChain
  rw [compareEntries_swap, before]
  decide

/-- Every other arrangement of an increasing list has a violation between neighbours. -/
theorem orderViolation?_ne_none (coherent : Coherent entries)
    (increasing : entries.Pairwise fun a b => compareEntries a b = .lt)
    (same : other.Perm entries) (different : other ≠ entries) : orderViolation? other ≠ none := by
  intro none
  apply different
  have arranged := coherent.perm same
  -- Neighbours in the right order are enough, since the order is transitive on these entries.
  have chain : other.IsChain fun a b => (compareByGroup a b).isLE := by
    refine ((orderViolation?_eq_none_iff other).1 none).imp_of_mem_imp fun a b ha hb right => ?_
    rw [compareEntries_swap, arranged.compareEntries_eq ha hb] at right
    cases h : compareByGroup a b <;> simp_all
  have : Trans (fun a b : Entry => (compareByGroup a b).isLE = true)
      (fun a b => (compareByGroup a b).isLE = true)
      (fun a b => (compareByGroup a b).isLE = true) := ⟨Std.TransCmp.isLE_trans⟩
  refine List.Perm.eq_of_pairwise (fun a b ha hb hab hba => ?_) chain.pairwise
    (increasing.imp_of_mem fun {a b} ha hb before => ?_) same
  · exact coherent.eq_of_compareByGroup_eq (same.mem_iff.1 ha) hb
      (Std.OrientedCmp.isLE_antisymm hab hba)
  · rw [← coherent.compareEntries_eq ha hb, before]
    rfl

end Coherent

section Blocks

variable {entries : List Entry}

/-- Entries of one group have nothing but entries of that group between them. -/
theorem Coherent.groupName_between (coherent : Coherent entries)
    (increasing : entries.Pairwise fun a b => compareEntries a b = .lt) {i j k : Nat} (hij : i < j)
    (hjk : j < k) (hk : k < entries.length)
    (same : entries[i].groupName = entries[k].groupName) :
    entries[j].groupName = entries[i].groupName := by
  have le : ∀ m n (hmn : m < n) (hn : n < entries.length),
      (compareGroups entries[m] entries[n]).isLE := by
    intro m n hmn hn
    have before := List.pairwise_iff_getElem.1 increasing m n (by omega) hn hmn
    rw [coherent.compareEntries_eq (List.getElem_mem _) (List.getElem_mem _)] at before
    have either := Ordering.then_eq_lt.1 before
    cases h : compareGroups entries[m] entries[n] <;> simp_all
  -- Both ends are equal as groups, so what stands between them is, too.
  have ends : compareGroups entries[k] entries[i] = .eq := by
    have titles := coherent.groupDisplayName_eq (List.getElem_mem _) (List.getElem_mem _) same
    rw [compareGroups_eq_then, Ordering.then_eq_eq, Text.collate_eq_eq_iff,
      Std.LawfulEqOrd.compare_eq_iff_eq]
    exact ⟨titles.symm, same.symm⟩
  have back : (compareGroups entries[j] entries[i]).isLE :=
    Std.TransCmp.isLE_trans (le j k hjk hk) (by simp [ends])
  have equal := Std.OrientedCmp.isLE_antisymm back (le i j hij (by omega))
  rw [compareGroups_eq_then, Ordering.then_eq_eq] at equal
  exact Std.LawfulEqOrd.eq_of_compare equal.2

/-- Within a group only clones follow, in the order of their own names and short names. -/
theorem Coherent.member_order (coherent : Coherent entries)
    (increasing : entries.Pairwise fun a b => compareEntries a b = .lt) {i j : Nat} (hij : i < j)
    (hj : j < entries.length) (same : entries[i].groupName = entries[j].groupName) :
    entries[j].isClone = true ∧
      (entries[i].isClone = true →
        (collate entries[i].displayName entries[j].displayName).then
          (compare entries[i].shortname entries[j].shortname) = .lt) := by
  have before := List.pairwise_iff_getElem.1 increasing i j (by omega) hj hij
  have titles := coherent.groupDisplayName_eq (List.getElem_mem _) (List.getElem_mem _) same
  rw [coherent.compareEntries_eq (List.getElem_mem _) (List.getElem_mem _), compareByGroup_eq_then,
    titles, same, Text.collate_eq_eq_iff.2 rfl, Std.ReflOrd.compare_self, Ordering.eq_then,
    Ordering.eq_then] at before
  cases hclone : entries[j].isClone with
  | true =>
      refine ⟨rfl, ?_⟩
      intro sibling
      rw [hclone, sibling, Std.ReflOrd.compare_self, Ordering.eq_then] at before
      exact before
  | false =>
      -- A second entry that is no clone would have the short name of the group, as the first has.
      exfalso
      rw [hclone] at before
      cases hfirst : entries[i].isClone with
      | true =>
          rw [hfirst] at before
          cases before
      | false =>
          have names : entries[i].shortname = entries[j].shortname := by
            simpa [Entry.groupName, hclone, hfirst] using same
          exact List.pairwise_iff_getElem.1 coherent.distinct i j (by omega) hj hij names

/-- Groups follow each other in the order of their names and short names. -/
theorem Coherent.group_order (coherent : Coherent entries)
    (increasing : entries.Pairwise fun a b => compareEntries a b = .lt) {i j : Nat} (hij : i < j)
    (hj : j < entries.length) (different : entries[i].groupName ≠ entries[j].groupName) :
    (collate entries[i].groupDisplayName entries[j].groupDisplayName).then
      (compare entries[i].groupName entries[j].groupName) = .lt := by
  have before := List.pairwise_iff_getElem.1 increasing i j (by omega) hj hij
  rw [coherent.compareEntries_eq (List.getElem_mem _) (List.getElem_mem _)] at before
  obtain lt | ⟨eq, -⟩ := Ordering.then_eq_lt.1 before
  · exact lt
  · rw [compareGroups_eq_then, Ordering.then_eq_eq] at eq
    exact absurd (Std.LawfulEqOrd.eq_of_compare eq.2) different

/-- Between an entry that is no clone and a clone of it stand clones of it only. -/
theorem Coherent.clones_follow (coherent : Coherent entries)
    (increasing : entries.Pairwise fun a b => compareEntries a b = .lt) {i j : Nat}
    (hi : i < entries.length) (hj : j < entries.length) (head : entries[i].isClone = false)
    (clone : entries[j].isClone = true) (parent : entries[j].parentName = entries[i].shortname) :
    i < j ∧ ∀ k (_ : i < k) (_ : k < j),
      entries[k].isClone = true ∧ entries[k].parentName = entries[i].shortname := by
  have group : entries[i].groupName = entries[j].groupName := by
    simp [Entry.groupName, head, clone, parent]
  have follows : i < j := by
    rcases Nat.lt_trichotomy i j with before | same | after
    · exact before
    · subst same
      rw [head] at clone
      cases clone
    · have := (coherent.member_order increasing after hi group.symm).1
      rw [head] at this
      cases this
  refine ⟨follows, ?_⟩
  intro k hik hkj
  have between := coherent.groupName_between increasing hik hkj hj group
  have isClone := (coherent.member_order increasing hik (by omega) between.symm).1
  refine ⟨isClone, ?_⟩
  simpa [Entry.groupName, head, isClone] using between

end Blocks

end SystemMenu
