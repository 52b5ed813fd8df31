import Mathlib.Data.List.Induction
import SystemMenu.Proofs.Listing.FilterText
import SystemMenu.Proofs.Staging.UsedLists

/-!
# Filter menus and their filters

The menus offer what was collected from the records of the catalog, and the published list stands for the
same records. A company is cut out of a credit in the same way for its menu and for its filter, so each
company that is offered selects something, and nothing else does. A year is offered without the blanks
around it but compared with them, so the two agree on a list only if no year in it has any.

## Main statements

* `Catalog.mem_manufacturers_collected`, `Catalog.mem_years_collected`: what is collected from records.
* `Cache.InUse.filterIndex_eq`: the menus offer what the catalog says.
* `Cache.InUse.manufacturer_menu`: companies that are offered are those that select something.
* `Cache.InUse.year_menu`: when years that are offered are those that select something.
-/

namespace SystemMenu

namespace Catalog

/-- One more record is collected after those before it. -/
theorem collected_concat (records : List SystemRecord) (record : SystemRecord) :
    collected (records ++ [record]) =
      ((collected records).addManufacturer record.manufacturer).addYear record.year := by
  rw [collected, List.foldl_append]
  rfl

/-- Everything that is collected from records can be the value of a filter. -/
theorem tidy_collected (records : List SystemRecord) : (collected records).Tidy := by
  induction records using List.reverseRecOn with
  | nil => exact FilterIndex.tidy_empty
  | append_singleton rest record ih =>
      rw [collected_concat]
      exact (ih.addManufacturer record.manufacturer).addYear record.year

/-- Nothing is offered before everything is collected. -/
theorem lists_collected (records : List SystemRecord) :
    (collected records).manufacturers = [] ∧ (collected records).years = [] := by
  induction records using List.reverseRecOn with
  | nil => exact ⟨rfl, rfl⟩
  | append_singleton rest record ih =>
      rw [collected_concat, FilterIndex.addYear]
      split <;> exact ih

/-- The companies on offer are those that the records are credited to. -/
theorem mem_manufacturers_collected {records : List SystemRecord} {company : String} :
    company ∈ (collected records).finalize.manufacturers ↔
      ∃ record ∈ records, company ∈ Credits.companies record.manufacturer := by
  rw [FilterIndex.mem_manufacturers_finalize, (lists_collected records).1]
  induction records using List.reverseRecOn with
  | nil => simp [collected]
  | append_singleton rest record ih =>
      rw [collected_concat, FilterIndex.newManufacturers_addYear,
        FilterIndex.mem_newManufacturers_addManufacturer, ← or_assoc, ih]
      simp [or_and_right, exists_or]

/-- The years on offer are those of the records, without blanks around them. -/
theorem mem_years_collected {records : List SystemRecord} {year : String} :
    year ∈ (collected records).finalize.years ↔
      year ≠ "" ∧ ∃ record ∈ records, Text.trimmed record.year = year := by
  rw [FilterIndex.mem_years_finalize, (lists_collected records).2]
  induction records using List.reverseRecOn with
  | nil => simp [collected]
  | append_singleton rest record ih =>
      rw [collected_concat, FilterIndex.mem_newYears_addYear,
        FilterIndex.newYears_addManufacturer, ← or_assoc, ih]
      simp [or_and_right, exists_or, and_or_left]

end Catalog

namespace Cache

variable {catalog : Catalog} {cache : Cache}

/-- The menus are those of the current generation, once they are published. -/
theorem filterIndex?_eq_some_iff {index : FilterIndex} :
    cache.filterIndex? = some index ↔ Stage.filterIndex ∈ cache.published ∧
      (cache.generation cache.current).filter.getD {} = index := by
  simp [filterIndex?, offers, Generation.offers, published]

/-- What the menus offer is what was collected from the records of the catalog. -/
theorem InUse.filterIndex_eq (inUse : InUse catalog.source cache) (ordered : catalog.Ordered)
    {index : FilterIndex} (published : cache.filterIndex? = some index) :
    index = (Catalog.collected catalog.listed).finalize := by
  obtain ⟨titles, made⟩ := (inUse.faithful ordered).made cache.current
  rw [generation_unmarked] at made
  obtain ⟨announced, rfl⟩ := filterIndex?_eq_some_iff.1 published
  obtain ⟨index, stored⟩ := Option.isSome_iff_exists.1
    ((inUse.sound.inOrder_generation cache.current).backed _ announced)
  rw [stored, Option.getD_some]
  exact made.filter index stored

/-- Every value that the filter menus offer can be read back. -/
theorem InUse.tidy_filterIndex (inUse : InUse catalog.source cache) (ordered : catalog.Ordered)
    {index : FilterIndex} (published : cache.filterIndex? = some index) : index.Tidy := by
  rw [inUse.filterIndex_eq ordered published]
  exact (Catalog.tidy_collected _).finalize

/-- There is a list where there are filter menus. -/
theorem InUse.sortedList?_of_filterIndex? {source : Source} (inUse : InUse source cache)
    {index : FilterIndex} (published : cache.filterIndex? = some index) :
    cache.sortedList? = some cache.current := by
  obtain ⟨announced, -⟩ := filterIndex?_eq_some_iff.1 published
  have listed := (inUse.sound.inOrder_generation cache.current).sortedList_mem announced
  exact sortedList?_eq_some_iff.2 ⟨listed, rfl⟩

/-- The filter menus come up if a build is started and let go on. -/
theorem InUse.isSome_filterIndex? (inUse : InUse catalog.source cache) (ordered : catalog.Ordered)
    (searchPath selector : String) (tree : FileTree) :
    ((cache.beginBuild searchPath selector).1.proceed tree none).1.filterIndex?.isSome = true := by
  have all := inUse.offers_all ordered searchPath selector tree
  have announced := Generation.mem_published all (by decide : Stage.filterIndex ∈ Stage.all)
  exact Option.isSome_iff_exists.2 ⟨_, filterIndex?_eq_some_iff.2 ⟨announced, rfl⟩⟩

/-- Over every catalog in order there is a cache that offers filters. -/
theorem exists_filterIndex (ordered : catalog.Ordered) :
    ∃ cache index, InUse catalog.source cache ∧ cache.filterIndex? = some index := by
  have begun : Reachable catalog.source ((new catalog.source).beginBuild "" "").1 :=
    .move (.beginBuild "" "") .new
  obtain ⟨index, published⟩ :=
    Option.isSome_iff_exists.1 (InUse.new.isSome_filterIndex? ordered "" "" (.empty []))
  exact ⟨_, index, (begun.proceed (.empty [])).inUse, published⟩

/-- A property of records holds for some entry of the list if it does for a record of the catalog. -/
theorem InUse.exists_entry_iff (inUse : InUse catalog.source cache) (ordered : catalog.Ordered)
    {number : Nat} (current : cache.sortedList? = some number) (p : SystemRecord → Prop) :
    (∃ entry ∈ cache.entries number, p entry.record) ↔ ∃ record ∈ catalog.listed, p record := by
  have records := (inUse.lists ordered current).map_record_perm
  constructor
  · rintro ⟨entry, member, holds⟩
    exact ⟨entry.record, records.mem_iff.1 (List.mem_map_of_mem member), holds⟩
  · rintro ⟨record, member, holds⟩
    obtain ⟨entry, here, rfl⟩ := List.mem_map.1 (records.mem_iff.2 member)
    exact ⟨entry, here, holds⟩

/-- A company is offered if an entry of the list is credited to it. -/
theorem InUse.mem_manufacturers_iff (inUse : InUse catalog.source cache) (ordered : catalog.Ordered)
    {index : FilterIndex} (published : cache.filterIndex? = some index) {company : String} :
    company ∈ index.manufacturers ↔ ∃ entry ∈ cache.entries cache.current,
      company ∈ Credits.companies entry.record.manufacturer := by
  rw [inUse.filterIndex_eq ordered published, Catalog.mem_manufacturers_collected,
    inUse.exists_entry_iff ordered (inUse.sortedList?_of_filterIndex? published)
      (fun record => company ∈ Credits.companies record.manufacturer)]

/-- A year is offered if an entry of the list has it, with or without blanks around it. -/
theorem InUse.mem_years_iff (inUse : InUse catalog.source cache) (ordered : catalog.Ordered)
    {index : FilterIndex} (published : cache.filterIndex? = some index) {year : String} :
    year ∈ index.years ↔
      year ≠ "" ∧ ∃ entry ∈ cache.entries cache.current, Text.trimmed entry.record.year = year := by
  rw [inUse.filterIndex_eq ordered published, Catalog.mem_years_collected,
    inUse.exists_entry_iff ordered (inUse.sortedList?_of_filterIndex? published)
      (fun record => Text.trimmed record.year = year)]

end Cache

/-- Records with companies that are hard to tell apart, and a year with a blank after it. -/
def Catalog.credits : Catalog where
  records := [placeholderRecord,
    { name := "gee", description := "Gee", year := "1982",
      manufacturer := "Namco/Sega (bootleg) / (prototype)" },
    { name := "pong", description := "Pong", year := "1972 ",
      manufacturer := "\u00a0Atari, Inc. (Midway/Sega license)\u2003 / Namco (Japan) Ltd." }]
  placeholder := 0

theorem Catalog.ofRecords_credits : ofRecords credits.records = .ok credits := by
  refine ofRecords_eq_ok ?_ ⟨?_, placeholderRecord, rfl, rfl⟩
  · decide +kernel
  · rw [Increasing]
    decide +kernel

namespace Cache.InUse

variable {records : List SystemRecord} {catalog : Catalog} {cache : Cache}

/-- The menu of companies comes up once a build is let go on. Where it is, so is the list, a company is in
the menu exactly if its filter accepts an entry of the list, and that filter can be saved: its text is
read back as the same filter. -/
theorem manufacturer_menu (accepted : Catalog.ofRecords records = .ok catalog)
    (inUse : InUse catalog.source cache) :
    (∀ searchPath selector tree,
      ((cache.beginBuild searchPath selector).1.proceed tree none).1.filterIndex?.isSome = true) ∧
    ∀ index, cache.filterIndex? = some index →
      ∃ number, cache.sortedList? = some number ∧ ∀ company,
        (∀ isFavorite, company ∈ index.manufacturers ↔ ∃ entry ∈ cache.entries number,
          (Filter.manufacturer company).accepts isFavorite entry = true) ∧
        (company ∈ index.manufacturers →
          Filter.parse? (Filter.manufacturer company).text = some (.manufacturer company)) := by
  have ordered := Catalog.ordered_of_ofRecords accepted
  refine ⟨inUse.isSome_filterIndex? ordered, ?_⟩
  intro index published
  refine ⟨cache.current, inUse.sortedList?_of_filterIndex? published, ?_⟩
  intro company
  constructor
  · intro isFavorite
    rw [inUse.mem_manufacturers_iff ordered published]
    simp [Filter.accepts]
  · intro member
    have offered : (Filter.manufacturer company).OfferedBy index := .manufacturer member
    exact Filter.parse?_text (offered.isTidy (inUse.tidy_filterIndex ordered published))

theorem manufacturer_menu_credits :
    ∃ cache index number, InUse Catalog.credits.source cache ∧ cache.filterIndex? = some index ∧
      cache.sortedList? = some number ∧ "Atari, Inc." ∈ index.manufacturers ∧
      "Namco/Sega" ∈ index.manufacturers ∧ "Sega" ∉ index.manufacturers ∧
      Filter.parse? (Filter.manufacturer "Atari, Inc.").text = some (.manufacturer "Atari, Inc.") := by
  have ordered := Catalog.ordered_of_ofRecords Catalog.ofRecords_credits
  obtain ⟨cache, index, inUse, published⟩ := exists_filterIndex ordered
  obtain ⟨-, menu⟩ := manufacturer_menu Catalog.ofRecords_credits inUse
  obtain ⟨number, current, agrees⟩ := menu index published
  have offered : ∀ company, company ∈ index.manufacturers ↔ ∃ record ∈ Catalog.credits.listed,
      company ∈ Credits.companies record.manufacturer := by
    intro company
    rw [← inUse.exists_entry_iff ordered current
      fun record => company ∈ Credits.companies record.manufacturer]
    simpa [Filter.accepts] using (agrees company).1 fun _ => false
  have atari : "Atari, Inc." ∈ index.manufacturers := (offered _).2 (by decide +kernel)
  exact ⟨cache, index, number, inUse, published, current, atari, (offered _).2 (by decide +kernel),
    fun sega => absurd ((offered _).1 sega) (by decide +kernel), (agrees _).2 atari⟩

/-- The menu of years holds the years of the list without the blanks around them. A year that has none is
accepted by the filter of its own item; one that has some is accepted by no filter of the menu. So the
menu agrees with its filters if and only if no year in the list has blanks around it. -/
theorem year_menu (accepted : Catalog.ofRecords records = .ok catalog)
    (inUse : InUse catalog.source cache) {index : FilterIndex}
    (published : cache.filterIndex? = some index) (isFavorite : String → Bool) :
    ∃ number, cache.sortedList? = some number ∧
      (∀ year, year ∈ index.years ↔
        year ≠ "" ∧ ∃ entry ∈ cache.entries number, Text.trimmed entry.record.year = year) ∧
      (∀ entry ∈ cache.entries number, Text.trimmed entry.record.year ≠ "" →
        ((∃ year ∈ index.years, (Filter.year year).accepts isFavorite entry = true) ↔
          Text.trimmed entry.record.year = entry.record.year)) ∧
      ((∀ year ∈ index.years, ∃ entry ∈ cache.entries number,
          (Filter.year year).accepts isFavorite entry = true) ∧
        (∀ entry ∈ cache.entries number, Text.trimmed entry.record.year ≠ "" →
          ∃ year ∈ index.years, (Filter.year year).accepts isFavorite entry = true) ↔
        ∀ entry ∈ cache.entries number, Text.trimmed entry.record.year ≠ "" →
          Text.trimmed entry.record.year = entry.record.year) := by
  have ordered := Catalog.ordered_of_ofRecords accepted
  have tidy := inUse.tidy_filterIndex ordered published
  have years : ∀ year, year ∈ index.years ↔ year ≠ "" ∧
      ∃ entry ∈ cache.entries cache.current, Text.trimmed entry.record.year = year :=
    fun _ => inUse.mem_years_iff ordered published
  have own : ∀ entry ∈ cache.entries cache.current, Text.trimmed entry.record.year ≠ "" →
      ((∃ year ∈ index.years, (Filter.year year).accepts isFavorite entry = true) ↔
        Text.trimmed entry.record.year = entry.record.year) := by
    intro entry member said
    constructor
    · rintro ⟨year, offered, accepts⟩
      have same : entry.record.year = year := by simpa [Filter.accepts] using accepts
      rw [same, Text.trimmed, (tidy year (.inr (.inr (.inr offered)))).2.trim_eq,
        String.ofList_toList]
    · intro same
      exact ⟨_, (years _).2 ⟨said, entry, member, rfl⟩, by simp [Filter.accepts, same]⟩
  refine ⟨cache.current, inUse.sortedList?_of_filterIndex? published, years, own, ?_, ?_⟩
  · rintro ⟨-, every⟩ entry member said
    exact (own entry member said).1 (every entry member said)
  · intro same
    constructor
    · intro year offered
      obtain ⟨said, entry, member, rfl⟩ := (years year).1 offered
      exact ⟨entry, member, by simp [Filter.accepts, same entry member said]⟩
    · intro entry member said
      exact (own entry member said).2 (same entry member said)

theorem year_menu_credits :
    ∃ cache index number, InUse Catalog.credits.source cache ∧ cache.filterIndex? = some index ∧
      cache.sortedList? = some number ∧ "1972" ∈ index.years ∧ "1982" ∈ index.years ∧
      "1972 " ∉ index.years := by
  have ordered := Catalog.ordered_of_ofRecords Catalog.ofRecords_credits
  obtain ⟨cache, index, inUse, published⟩ := exists_filterIndex ordered
  obtain ⟨number, current, years, -⟩ :=
    year_menu Catalog.ofRecords_credits inUse published fun _ => false
  have offered : ∀ year, year ∈ index.years ↔ year ≠ "" ∧ ∃ record ∈ Catalog.credits.listed,
      Text.trimmed record.year = year := by
    intro year
    rw [← inUse.exists_entry_iff ordered current fun record => Text.trimmed record.year = year]
    exact years year
  exact ⟨cache, index, number, inUse, published, current, (offered _).2 (by decide +kernel),
    (offered _).2 (by decide +kernel), fun padded => absurd ((offered _).1 padded) (by decide +kernel)⟩

/-- A year with a blank after it is offered, and choosing it selects nothing. -/
theorem year_selects_nothing :
    ∃ cache index number, InUse Catalog.credits.source cache ∧ cache.filterIndex? = some index ∧
      cache.sortedList? = some number ∧ "1972" ∈ index.years ∧
      ¬∃ entry ∈ cache.entries number, ∃ isFavorite : String → Bool,
        (Filter.year "1972").accepts isFavorite entry = true := by
  have ordered := Catalog.ordered_of_ofRecords Catalog.ofRecords_credits
  obtain ⟨cache, index, inUse, published⟩ := exists_filterIndex ordered
  have current := inUse.sortedList?_of_filterIndex? published
  refine ⟨cache, index, cache.current, inUse, published, current, ?_, ?_⟩
  · rw [inUse.mem_years_iff ordered published,
      inUse.exists_entry_iff ordered current fun record => Text.trimmed record.year = "1972"]
    decide +kernel
  · rintro ⟨entry, member, _, accepts⟩
    have same : ∃ record ∈ Catalog.credits.listed, record.year = "1972" :=
      (inUse.exists_entry_iff ordered current fun record => record.year = "1972").1
        ⟨entry, member, by simpa [Filter.accepts] using accepts⟩
    exact absurd same (by decide +kernel)

end Cache.InUse

end SystemMenu
