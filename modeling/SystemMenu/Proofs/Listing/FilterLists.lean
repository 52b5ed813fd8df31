import Mathlib.Data.List.Induction
import SystemMenu.Proofs.Listing.FilterText
import SystemMenu.Proofs.Text.Collation
import SystemMenu.Proofs.Text.SearchKeys

/-!
# Lists of the filter menus

Finalizing takes the collected values over in any order, sorts them together with those that were there,
and removes repetitions that stand next to each other. Since values that are equal in the order are equal,
all repetitions stand next to each other, and a list in strict order is determined by its values.

What is collected is kept in sets, which have no order of their own. `FilterIndex.Run` allows for every
order at every call.

## Main statements

* `FilterIndex.pairwise_eraseReps`: removing repetitions from a sorted list leaves a strict order.
* `FilterIndex.Run.mem_companies`, `FilterIndex.Run.mem_years`: what is known after some calls.
* `FilterIndex.Run.keeps_lists`: collecting changes no list.
* `FilterIndex.Run.lists_by_values`: the lists after finalizing.
-/

namespace SystemMenu

namespace FilterIndex

section Sorting

variable {cmp : String → String → Ordering}

/-- Values that were passed over are put back in front. -/
theorem eraseReps_loop (first : String) (rest kept : List String) :
    List.eraseRepsBy.loop (fun a b => a == b) first rest kept =
      kept.reverse ++ (first :: rest).eraseReps := by
  induction rest generalizing first kept with
  | nil => simp [List.eraseReps, List.eraseRepsBy, List.eraseRepsBy.loop]
  | cons next others ih =>
      rw [List.eraseReps, List.eraseRepsBy, List.eraseRepsBy.loop, List.eraseRepsBy.loop]
      split
      · rw [ih, ih]
        rfl
      · rw [ih, ih]
        simp

/-- Of two equal neighbours one is removed. -/
theorem eraseReps_cons_cons (first next : String) (rest : List String) :
    (first :: next :: rest).eraseReps =
      if first = next then (next :: rest).eraseReps else first :: (next :: rest).eraseReps := by
  rw [List.eraseReps, List.eraseRepsBy, List.eraseRepsBy.loop]
  split
  · rename_i same
    obtain rfl := beq_iff_eq.1 same
    rw [if_pos rfl]
    exact eraseReps_loop first rest []
  · rename_i other
    rw [if_neg (by simpa using other)]
    exact eraseReps_loop next rest [first]

/-- Where only equal values are equal in the order, removing repetitions from a sorted list leaves a strict
order. -/
theorem pairwise_eraseReps [Std.TransCmp cmp] [Std.LawfulEqCmp cmp] {values : List String}
    (sorted : values.Pairwise fun a b => (cmp a b).isLE) :
    values.eraseReps.Pairwise fun a b => cmp a b = .lt := by
  induction values with
  | nil => exact List.Pairwise.nil
  | cons first rest ih =>
      obtain ⟨least, sortedRest⟩ := List.pairwise_cons.1 sorted
      cases rest with
      | nil => exact List.pairwise_singleton _ first
      | cons next others =>
          rw [eraseReps_cons_cons]
          split
          · exact ih sortedRest
          · rename_i different
            refine List.pairwise_cons.2 ⟨fun value member => ?_, ih sortedRest⟩
            have before : cmp first next = .lt :=
              lt_of_isLE_of_ne (least next List.mem_cons_self) different
            obtain rfl | later := List.mem_cons.1 (mem_eraseReps.1 member)
            · exact before
            · exact Std.TransCmp.lt_of_lt_of_isLE before ((List.pairwise_cons.1 sortedRest).1 value later)

end Sorting

/-- Companies come in strict dictionary order. -/
theorem manufacturers_finalize_strict (index : FilterIndex) :
    index.finalize.manufacturers.Pairwise fun a b => Text.collate a b = .lt := by
  rw [finalize, Text.sortCollated_eq_mergeSort]
  exact pairwise_eraseReps (pairwise_mergeSort_isLE _)

/-- Years come in strict order by code point. -/
theorem years_finalize_strict (index : FilterIndex) : index.finalize.years.Pairwise (· < ·) := by
  have strict : index.finalize.years.Pairwise fun a b => compare a b = .lt :=
    pairwise_eraseReps (pairwise_mergeSort_isLE _)
  exact strict.imp compareOfLessAndEq_eq_lt.1

/-- Collecting a year changes no list. -/
theorem lists_addYear (index : FilterIndex) (year : String) :
    (index.addYear year).manufacturers = index.manufacturers ∧
      (index.addYear year).years = index.years := by
  rw [addYear]
  split <;> exact ⟨rfl, rfl⟩

/-- What can be done to collect values and to list them. -/
inductive Call where
  | addManufacturer (credit : String)
  | addYear (year : String)
  | finalize
  deriving Repr, DecidableEq

/-- What a call makes of an index. -/
def call (index : FilterIndex) : Call → FilterIndex
  | .addManufacturer credit => index.addManufacturer credit
  | .addYear year => index.addYear year
  | .finalize => index.finalize

/-- The same index, with what was collected in any order. -/
structure Alike (index other : FilterIndex) : Prop where
  newManufacturers : other.newManufacturers.Perm index.newManufacturers
  newYears : other.newYears.Perm index.newYears
  manufacturers : other.manufacturers = index.manufacturers
  years : other.years = index.years

theorem Alike.refl (index : FilterIndex) : index.Alike index := ⟨.refl _, .refl _, rfl, rfl⟩

/-- What calls can make of an index, when each finds the collected values in any order. -/
inductive Run (start : FilterIndex) : List Call → FilterIndex → Prop
  | nil : Run start [] start
  | call {calls : List Call} {index found : FilterIndex} (before : Run start calls index)
      (alike : index.Alike found) (call : Call) : Run start (calls ++ [call]) (found.call call)

/-- One of the calls collects a credit that names a company. -/
def NamesCompany (calls : List Call) (company : String) : Prop :=
  ∃ credit, .addManufacturer credit ∈ calls ∧ company ∈ Credits.companies credit

/-- One of the calls collects a year, which is not blank; blanks around it do not count. -/
def NamesYear (calls : List Call) (year : String) : Prop :=
  year ≠ "" ∧ ∃ text, .addYear text ∈ calls ∧ Text.trimmed text = year

namespace Run

variable {start index : FilterIndex} {calls : List Call}

/-- The last call finds what the calls before it have made. -/
theorem exists_found {last : Call} (run : Run start (calls ++ [last]) index) :
    ∃ before found, Run start calls before ∧ before.Alike found ∧ index = found.call last := by
  generalize all : calls ++ [last] = made at run
  cases run with
  | nil => simp at all
  | call before alike call =>
      obtain ⟨rfl, rfl⟩ := List.append_singleton_inj.1 all
      exact ⟨_, _, before, alike, rfl⟩

/-- Calls that find the collected values as they were left. -/
theorem of_foldl (start : FilterIndex) (calls : List Call) :
    Run start calls (calls.foldl FilterIndex.call start) := by
  induction calls using List.reverseRecOn with
  | nil => exact .nil
  | append_singleton rest last ih =>
      rw [List.foldl_append]
      exact .call ih (.refl _) last

/-- All companies of the collected credits are listed or waiting to be. -/
theorem mem_companies (run : Run {} calls index) {company : String} :
    company ∈ index.manufacturers ∨ company ∈ index.newManufacturers ↔
      NamesCompany calls company := by
  induction run with
  | nil => simp [NamesCompany]
  | @call calls index found before alike call ih =>
      rw [← alike.manufacturers, ← alike.newManufacturers.mem_iff] at ih
      cases call with
      | addManufacturer credit =>
          have added : company ∈ (found.addManufacturer credit).newManufacturers ↔ _ :=
            mem_newManufacturers_addManufacturer
          change company ∈ found.manufacturers ∨
            company ∈ (found.addManufacturer credit).newManufacturers ↔ _
          rw [added, ← or_assoc, ih]
          simp [NamesCompany, or_and_right, exists_or]
      | addYear year =>
          change company ∈ (found.addYear year).manufacturers ∨
            company ∈ (found.addYear year).newManufacturers ↔ _
          rw [(found.lists_addYear year).1, newManufacturers_addYear, ih]
          simp [NamesCompany]
      | finalize =>
          change company ∈ found.finalize.manufacturers ∨ company ∈ ([] : List String) ↔ _
          rw [mem_manufacturers_finalize, ih]
          simp [NamesCompany]

/-- All collected years are listed or waiting to be. -/
theorem mem_years (run : Run {} calls index) {year : String} :
    year ∈ index.years ∨ year ∈ index.newYears ↔ NamesYear calls year := by
  induction run with
  | nil => simp [NamesYear]
  | @call calls index found before alike call ih =>
      rw [← alike.years, ← alike.newYears.mem_iff] at ih
      cases call with
      | addManufacturer credit =>
          change year ∈ found.years ∨ year ∈ found.newYears ↔ _
          rw [ih]
          simp [NamesYear]
      | addYear text =>
          change year ∈ (found.addYear text).years ∨ year ∈ (found.addYear text).newYears ↔ _
          rw [(found.lists_addYear text).2, mem_newYears_addYear, ← or_assoc, ih]
          simp [NamesYear, or_and_right, exists_or, and_or_left]
      | finalize =>
          change year ∈ found.finalize.years ∨ year ∈ ([] : List String) ↔ _
          rw [mem_years_finalize, ih]
          simp [NamesYear]

/-- Collecting changes no list. -/
theorem keeps_lists (run : Run start calls index) (collecting : .finalize ∉ calls) :
    index.manufacturers = start.manufacturers ∧ index.years = start.years := by
  induction run with
  | nil => exact ⟨rfl, rfl⟩
  | @call calls index found before alike call ih =>
      obtain ⟨manufacturers, years⟩ := ih fun member => collecting (List.mem_append_left _ member)
      rw [← manufacturers, ← years, ← alike.manufacturers, ← alike.years]
      cases call with
      | addManufacturer credit => exact ⟨rfl, rfl⟩
      | addYear year => exact found.lists_addYear year
      | finalize => exact absurd (List.mem_append_right _ List.mem_cons_self) collecting

/-- The companies after finalizing. -/
theorem manufacturers_finalized (run : Run {} (calls ++ [.finalize]) index) :
    (index.manufacturers.Pairwise fun a b => Text.collate a b = .lt) ∧
      ∀ company, company ∈ index.manufacturers ↔ NamesCompany calls company := by
  obtain ⟨before, found, earlier, alike, rfl⟩ := run.exists_found
  refine ⟨manufacturers_finalize_strict found, fun company => ?_⟩
  rw [← earlier.mem_companies, ← alike.manufacturers, ← alike.newManufacturers.mem_iff]
  exact mem_manufacturers_finalize

/-- The years after finalizing. -/
theorem years_finalized (run : Run {} (calls ++ [.finalize]) index) :
    index.years.Pairwise (· < ·) ∧ ∀ year, year ∈ index.years ↔ NamesYear calls year := by
  obtain ⟨before, found, earlier, alike, rfl⟩ := run.exists_found
  refine ⟨years_finalize_strict found, fun year => ?_⟩
  rw [← earlier.mem_years, ← alike.years, ← alike.newYears.mem_iff]
  exact mem_years_finalize

/-- Whatever calls were made, and in whatever order each of them found the collected values: after
finalizing, the companies are those of all credits since the beginning, in strict dictionary order, and
the years are those that are not blank, without blanks around them and in strict order by code point.
Collecting more leaves both lists as they are until the next time. So calls that collect the same values
make the same lists, however these were ordered, repeated or finalized before. -/
theorem lists_by_values (run : Run {} (calls ++ [.finalize]) index) :
    ((index.manufacturers.Pairwise fun a b => Text.collate a b = .lt) ∧
      ∀ company, company ∈ index.manufacturers ↔ NamesCompany calls company) ∧
    (index.years.Pairwise (· < ·) ∧ ∀ year, year ∈ index.years ↔ NamesYear calls year) ∧
    (∀ start more next, Run start more next → .finalize ∉ more →
      next.manufacturers = start.manufacturers ∧ next.years = start.years) ∧
    ∀ others other, Run {} (others ++ [.finalize]) other →
      ((∀ company, NamesCompany others company ↔ NamesCompany calls company) →
        other.manufacturers = index.manufacturers) ∧
      ((∀ year, NamesYear others year ↔ NamesYear calls year) → other.years = index.years) := by
  obtain ⟨companiesStrict, companies⟩ := run.manufacturers_finalized
  obtain ⟨yearsStrict, years⟩ := run.years_finalized
  refine ⟨⟨companiesStrict, companies⟩, ⟨yearsStrict, years⟩, fun start more next => keeps_lists,
    fun others other otherRun => ⟨fun same => ?_, fun same => ?_⟩⟩
  · obtain ⟨strict, members⟩ := otherRun.manufacturers_finalized
    refine eq_of_pairwise_lt strict companiesStrict fun company => ?_
    rw [members, companies, same]
  · obtain ⟨strict, members⟩ := otherRun.years_finalized
    refine strict.eq_of_mem_iff yearsStrict fun year => ?_
    rw [members, years, same]

/-- Calls that collect the same company in three credits and the same year twice, with an earlier
finalization. -/
def repeatedCalls : List Call :=
  [.addManufacturer "taito", .addManufacturer "Capcom (Nintendo license)", .addYear "198?", .finalize,
    .addManufacturer "Atari / Capcom", .addYear " 1985", .addYear "198? "]

/-- The values that were collected last are found in the reverse order. -/
theorem lists_by_values_repeatedCalls :
    ∃ index, Run {} (repeatedCalls ++ [.finalize]) index ∧
      index.manufacturers = ["Atari", "Capcom", "taito"] ∧ index.years = ["1985", "198?"] := by
  let before := repeatedCalls.foldl FilterIndex.call {}
  let found : FilterIndex :=
    { before with
      newManufacturers := before.newManufacturers.reverse
      newYears := before.newYears.reverse }
  have alike : before.Alike found := ⟨List.reverse_perm _, List.reverse_perm _, rfl, rfl⟩
  have run : Run {} (repeatedCalls ++ [.finalize]) (found.call .finalize) :=
    .call (of_foldl {} repeatedCalls) alike .finalize
  obtain ⟨⟨companiesStrict, companies⟩, ⟨yearsStrict, years⟩, -⟩ := run.lists_by_values
  -- Without the tables of decompositions, which these names do not need.
  have inOrder : ["Atari", "Capcom", "taito"].Pairwise fun a b => Text.collate a b = .lt := by
    simp (disch := decide) only [List.pairwise_cons, List.forall_mem_cons, Text.collate,
      Text.CollationKey.ofText, Text.canonicalForm_eq_reorder]
    decide +kernel
  refine ⟨_, run, eq_of_pairwise_lt companiesStrict inOrder fun company => ?_,
    yearsStrict.eq_of_mem_iff (by decide +kernel) fun year => ?_⟩
  · have taito : Credits.companies "taito" = ["taito"] := by decide +kernel
    have capcom : Credits.companies "Capcom (Nintendo license)" = ["Capcom"] := by decide +kernel
    have atari : Credits.companies "Atari / Capcom" = ["Atari", "Capcom"] := by decide +kernel
    rw [companies]
    simp only [NamesCompany, repeatedCalls, List.mem_cons, reduceCtorEq, Call.addManufacturer.injEq,
      false_or, or_and_right, exists_or, exists_eq_left, taito, capcom, atari]
    grind
  · have bare : Text.trimmed "198?" = "198?" := by decide +kernel
    have led : Text.trimmed " 1985" = "1985" := by decide +kernel
    have followed : Text.trimmed "198? " = "198?" := by decide +kernel
    rw [years]
    simp only [NamesYear, repeatedCalls, List.mem_cons, reduceCtorEq, Call.addYear.injEq, false_or,
      or_and_right, exists_or, exists_eq_left, bare, led, followed]
    grind

end Run

end FilterIndex

end SystemMenu
