import Mathlib.Data.List.TakeWhile
import SystemMenu.Listing.Filter
import SystemMenu.Proofs.Text.Collation

/-!
# Filters as text

A filter that is saved as text is read back as it was, provided its value has no blanks at its ends and is
not empty. Every value that a menu can offer is like that, and so is every value that was read from text.

## Main statements

* `Text.Tidy`, `Text.tidy_trim`: texts without blanks at their ends.
* `FilterIndex.mem_manufacturers_finalize`, `FilterIndex.mem_years_finalize`: what the filter menus offer.
* `FilterIndex.Tidy.finalize`: offered values can be read back.
* `Filter.parse?_text`, `Filter.read_back`: reading back a filter.
-/

namespace SystemMenu

namespace Text

/-- A text does not start or end with a blank. -/
structure Tidy (text : List Char) : Prop where
  first : ∀ c, text.head? = some c → isBlank c = false
  last : ∀ c, text.getLast? = some c → isBlank c = false

/-- What is left after leading blanks does not start with one. -/
theorem head?_trimStart (text : List Char) :
    ∀ c, (trimStart text).head? = some c → isBlank c = false := by
  intro c h
  have stop := List.head?_dropWhile_not isBlank text
  rw [trimStart] at h
  rw [h] at stop
  simpa using stop

/-- Only blanks are left out at the end of a text. -/
theorem trimEnd_append (text : List Char) :
    ∃ blanks, trimEnd text ++ blanks = text ∧ ∀ c ∈ blanks, isBlank c = true := by
  refine ⟨(text.reverse.takeWhile isBlank).reverse, ?_, ?_⟩
  · rw [trimEnd, dropEndWhile, ← List.reverse_append, List.takeWhile_append_dropWhile,
      List.reverse_reverse]
  · intro c member
    exact List.mem_takeWhile_imp (List.mem_reverse.1 member)

/-- A text without blanks at its end is the start of the text. -/
theorem trimEnd_isPrefix (text : List Char) : trimEnd text <+: text := by
  obtain ⟨blanks, whole, -⟩ := trimEnd_append text
  exact ⟨blanks, whole⟩

theorem getLast?_trimEnd (text : List Char) :
    ∀ c, (trimEnd text).getLast? = some c → isBlank c = false := by
  intro c h
  rw [trimEnd, dropEndWhile, List.getLast?_reverse] at h
  exact head?_trimStart text.reverse c h

/-- The start of a text that starts without a blank does so, too. -/
theorem head?_of_isPrefix {before text : List Char} (start : before <+: text)
    (first : ∀ c, text.head? = some c → isBlank c = false) :
    ∀ c, before.head? = some c → isBlank c = false := by
  intro c h
  obtain ⟨rest, rfl⟩ := start
  exact first c (by rw [List.head?_append, h, Option.some_or])

/-- The start of a text that starts without a blank is tidy once its end is trimmed. -/
theorem tidy_trimEnd {text : List Char}
    (first : ∀ c, text.head? = some c → isBlank c = false) : Tidy (trimEnd text) where
  first := head?_of_isPrefix (trimEnd_isPrefix text) first
  last := getLast?_trimEnd text

theorem tidy_trim (text : List Char) : Tidy (trim text) := tidy_trimEnd (head?_trimStart text)

/-- A text that does not start with a blank has no leading blanks. -/
theorem dropWhile_isBlank_eq {text : List Char} (first : ∀ c, text.head? = some c → isBlank c = false) :
    text.dropWhile isBlank = text := by
  cases text with
  | nil => rfl
  | cons c rest => rw [List.dropWhile_cons_of_neg (by simp [first c rfl])]

/-- Trimming a tidy text changes nothing. -/
theorem Tidy.trimEnd_eq {text : List Char} (tidy : Tidy text) : trimEnd text = text := by
  have ending : text.reverse.dropWhile isBlank = text.reverse := by
    apply dropWhile_isBlank_eq
    rw [List.head?_reverse]
    exact tidy.last
  rw [trimEnd, dropEndWhile, ending, List.reverse_reverse]

theorem Tidy.trim_eq {text : List Char} (tidy : Tidy text) : trim text = text := by
  rw [trim, trimStart, dropWhile_isBlank_eq tidy.first, tidy.trimEnd_eq]

/-- A text with a character that is no blank is not trimmed away. -/
theorem trim_cons_ne_nil {c : Char} (solid : isBlank c = false) (rest : List Char) :
    trim (c :: rest) ≠ [] := by
  rw [trim, trimStart, List.dropWhile_cons_of_neg (by simp [solid]), trimEnd, dropEndWhile]
  intro gone
  rw [List.reverse_eq_nil_iff, List.dropWhile_eq_nil_iff] at gone
  have blank := gone c (by simp)
  rw [solid] at blank
  cases blank

/-- A cut is made at the first separator. -/
theorem cutAtFirst?_append {α : Type} {isSeparator : α → Bool} {before : List α} (separator : α)
    (after : List α) (none : ∀ x ∈ before, isSeparator x = false)
    (here : isSeparator separator = true) :
    cutAtFirst? isSeparator (before ++ separator :: after) = some (before, after) := by
  induction before with
  | nil => simp [cutAtFirst?, here]
  | cons x rest ih =>
      have first := none x List.mem_cons_self
      simp [cutAtFirst?, first, ih fun y member => none y (List.mem_cons_of_mem x member)]

end Text

/-- A text that a filter can have as its value: it is not empty and has no blanks at its ends. -/
def Filter.IsValue (value : String) : Prop := value ≠ "" ∧ Text.Tidy value.toList

namespace Credits

theorem afterOpening?_suffix {text before : List Char} (h : afterOpening? text = some before) :
    before <:+ text := by
  fun_induction afterOpening? text with
  | case1 => cases h
  | case2 rest =>
      cases h
      exact (List.suffix_cons ' ' before).trans (List.suffix_cons '(' _)
  | case3 c rest _ ih => exact (ih h).trans (List.suffix_cons c rest)

/-- A company's name has no blanks at its ends, with a remark after it or without. -/
theorem tidy_withoutRemark (part : List Char) : Text.Tidy (withoutRemark part) := by
  have name := Text.tidy_trim part
  simp only [withoutRemark]
  split
  · rename_i backwards written
    split
    · rename_i before opening
      -- What stands before the remark is the start of the name.
      have start : before.reverse <+: Text.trim part := by
        rw [← List.reverse_suffix, List.reverse_reverse, written]
        exact afterOpening?_suffix opening
      exact Text.tidy_trimEnd (Text.head?_of_isPrefix start name.first)
    · exact name
  · exact name

theorem isValue_of_mem_companies {credit company : String} (h : company ∈ companies credit) :
    Filter.IsValue company := by
  obtain ⟨name, member, rfl⟩ := List.mem_map.1 h
  obtain ⟨part, said⟩ := List.mem_filter.1 member
  obtain ⟨text, -, rfl⟩ := List.mem_map.1 part
  refine ⟨?_, ?_⟩
  · intro empty
    have nil : withoutRemark text = [] := by simpa using congrArg String.toList empty
    simp [nil] at said
  · rw [String.toList_ofList]
    exact tidy_withoutRemark text

end Credits

namespace FilterIndex

/-- Everything that was collected or is offered can be the value of a filter. -/
def Tidy (index : FilterIndex) : Prop :=
  ∀ value, value ∈ index.newManufacturers ∨ value ∈ index.newYears ∨
    value ∈ index.manufacturers ∨ value ∈ index.years → Filter.IsValue value

variable {index : FilterIndex}

theorem mem_collect {values : List String} {value other : String} :
    other ∈ collect values value ↔ other ∈ values ∨ other = value := by
  unfold collect
  split
  · rename_i known
    constructor
    · exact .inl
    · rintro (old | rfl)
      · exact old
      · exact known
  · rw [List.mem_append, List.mem_singleton]

theorem mem_foldl_collect {added values : List String} {value : String} :
    value ∈ added.foldl collect values ↔ value ∈ values ∨ value ∈ added := by
  induction added generalizing values with
  | nil => simp
  | cons first rest ih => rw [List.foldl_cons, ih, mem_collect, List.mem_cons, or_assoc]

theorem mem_newManufacturers_addManufacturer {credit company : String} :
    company ∈ (index.addManufacturer credit).newManufacturers ↔
      company ∈ index.newManufacturers ∨ company ∈ Credits.companies credit :=
  mem_foldl_collect

theorem mem_newYears_addYear {year value : String} :
    value ∈ (index.addYear year).newYears ↔
      value ∈ index.newYears ∨ value ≠ "" ∧ Text.trimmed year = value := by
  simp only [FilterIndex.addYear]
  split
  · rename_i blank
    rw [blank]
    simp +contextual
  · rename_i said
    rw [mem_collect]
    refine or_congr Iff.rfl ⟨?_, fun here => here.2.symm⟩
    rintro rfl
    exact ⟨said, rfl⟩

theorem newYears_addManufacturer (index : FilterIndex) (credit : String) :
    (index.addManufacturer credit).newYears = index.newYears := rfl

theorem newManufacturers_addYear (index : FilterIndex) (year : String) :
    (index.addYear year).newManufacturers = index.newManufacturers := by
  simp only [FilterIndex.addYear]
  split <;> rfl

theorem Tidy.addManufacturer (tidy : index.Tidy) (credit : String) :
    (index.addManufacturer credit).Tidy := by
  intro value member
  obtain collected | others := member
  · obtain old | company := mem_newManufacturers_addManufacturer.1 collected
    · exact tidy value (.inl old)
    · exact Credits.isValue_of_mem_companies company
  · exact tidy value (.inr others)

theorem Tidy.addYear (tidy : index.Tidy) (year : String) : (index.addYear year).Tidy := by
  simp only [FilterIndex.addYear]
  split
  · exact tidy
  · rename_i said
    intro value member
    obtain manufacturer | collected | others := member
    · exact tidy value (.inl manufacturer)
    · obtain old | rfl := mem_collect.1 collected
      · exact tidy value (.inr (.inl old))
      · refine ⟨said, ?_⟩
        rw [Text.trimmed, String.toList_ofList]
        exact Text.tidy_trim _
    · exact tidy value (.inr (.inr others))

/-- Taking repetitions out loses no value and adds none. -/
theorem mem_eraseReps {values : List String} {value : String} :
    value ∈ values.eraseReps ↔ value ∈ values := by
  have loop : ∀ (first : String) (rest kept : List String),
      value ∈ List.eraseRepsBy.loop (fun a b => a == b) first rest kept ↔
        value = first ∨ value ∈ rest ∨ value ∈ kept := by
    intro first rest kept
    fun_induction List.eraseRepsBy.loop (fun a b : String => a == b) first rest kept <;> grind
  cases values with
  | nil => rfl
  | cons first rest =>
      rw [List.eraseReps, List.eraseRepsBy, loop, List.mem_cons]
      simp

/-- Sorting as a dictionary does only moves texts. -/
theorem mem_sortCollated {values : List String} {value : String} :
    value ∈ Text.sortCollated values ↔ value ∈ values := by
  rw [Text.sortCollated_eq_mergeSort, (List.mergeSort_perm _ _).mem_iff]

theorem mem_manufacturers_finalize {company : String} :
    company ∈ index.finalize.manufacturers ↔
      company ∈ index.manufacturers ∨ company ∈ index.newManufacturers := by
  rw [FilterIndex.finalize, mem_eraseReps, mem_sortCollated, List.mem_append]

theorem mem_years_finalize {year : String} :
    year ∈ index.finalize.years ↔ year ∈ index.years ∨ year ∈ index.newYears := by
  rw [FilterIndex.finalize, mem_eraseReps, sortByCode, (List.mergeSort_perm _ _).mem_iff,
    List.mem_append]

/-- The lists offer what was collected and what they offered before. -/
theorem Tidy.finalize (tidy : index.Tidy) : index.finalize.Tidy := by
  intro value member
  obtain manufacturer | year | manufacturer | year := member
  · cases manufacturer
  · cases year
  · obtain old | new := mem_manufacturers_finalize.1 manufacturer
    · exact tidy value (.inr (.inr (.inl old)))
    · exact tidy value (.inl new)
  · obtain old | new := mem_years_finalize.1 year
    · exact tidy value (.inr (.inr (.inr old)))
    · exact tidy value (.inr (.inl new))

theorem tidy_empty : Tidy {} := by simp [Tidy]

end FilterIndex

namespace Filter

/-- The value of a filter, if it has one, can be read back. -/
def IsTidy (filter : Filter) : Prop := ∀ value, filter.value? = some value → IsValue value

/-- A filter with a value that a menu offers. -/
inductive OfferedBy (index : FilterIndex) : Filter → Prop
  | manufacturer {company : String} (member : company ∈ index.manufacturers) :
      OfferedBy index (.manufacturer company)
  | year {value : String} (member : value ∈ index.years) : OfferedBy index (.year value)

theorem OfferedBy.isTidy {index : FilterIndex} {filter : Filter} (offered : filter.OfferedBy index)
    (tidy : index.Tidy) : filter.IsTidy := by
  intro value has
  cases offered with
  | manufacturer member =>
      cases has
      exact tidy _ (.inr (.inr (.inl member)))
  | year member =>
      cases has
      exact tidy _ (.inr (.inr (.inr member)))

/-- The value of a filter that is made of parts is the one that was given. -/
theorem value?_of_ofParts? {name : String} {value : Option String} {filter : Filter}
    (h : ofParts? name value = some filter) : filter.value? = none ∨ filter.value? = value := by
  unfold ofParts? at h
  split at h
  · obtain ⟨company, rfl, rfl⟩ := Option.map_eq_some_iff.1 h
    exact .inr rfl
  · split at h
    · obtain ⟨year, rfl, rfl⟩ := Option.map_eq_some_iff.1 h
      exact .inr rfl
    · have member := List.mem_of_find?_eq_some h
      have plain : ∀ filter ∈ simple, filter.value? = none := by decide
      exact .inl (plain filter member)

/-- Every filter that was read from text can be read back. -/
theorem isTidy_of_parse? {text : String} {filter : Filter} (h : parse? text = some filter) :
    filter.IsTidy := by
  intro value has
  unfold parse? at h
  split at h
  · obtain none | given := value?_of_ofParts? h
    · rw [none] at has
      cases has
    · rw [given, Option.filter_eq_some_iff] at has
      obtain ⟨trimmed, said⟩ := has
      cases trimmed
      refine ⟨by simpa using said, ?_⟩
      rw [String.toList_ofList]
      exact Text.tidy_trim _
  · obtain none | given := value?_of_ofParts? h
    · rw [none] at has
      cases has
    · rw [given] at has
      cases has

/-- A filter with a value is read back from its name and the value. -/
theorem parse?_joined {name value : String} (plain : ',' ∉ name.toList)
    (trimmed : Text.trim name.toList = name.toList) (valid : IsValue value) :
    parse? (name ++ "," ++ value) = ofParts? name (some value) := by
  have cut : Text.cutAtFirst? (· = ',') (name ++ "," ++ value).toList =
      some (name.toList, value.toList) := by
    rw [String.toList_append, String.toList_append, List.append_assoc]
    refine Text.cutAtFirst?_append ',' value.toList (fun c member => ?_) rfl
    simpa using ne_of_mem_of_not_mem member plain
  have said : (some value).filter (· ≠ "") = some value := by simp [valid.1]
  simp only [parse?, cut, trimmed, valid.2.trim_eq, String.ofList_toList, said]

/-- Reading back the text of a filter gives the filter. -/
theorem parse?_text {filter : Filter} (tidy : filter.IsTidy) : parse? filter.text = some filter := by
  cases filter with
  | manufacturer company =>
      change parse? ("Manufacturer" ++ "," ++ company) = _
      exact parse?_joined (by decide) (by decide) (tidy company rfl)
  | year value =>
      change parse? ("Year" ++ "," ++ value) = _
      exact parse?_joined (by decide) (by decide) (tidy value rfl)
  | all | available | unavailable | working | notWorking | mechanical | notMechanical | favorites
  | bios | notBios | parents | clones | saveSupported | saveUnsupported | vertical | horizontal =>
      decide +kernel

/-- A filter without a value can be read back, and one with a value if that can be. -/
theorem isTidy_iff {filter : Filter} :
    filter.IsTidy ↔
      filter.value? = none ∨ ∃ value, filter.value? = some value ∧ IsValue value := by
  rw [IsTidy]
  cases filter.value? with
  | none => simp
  | some value => simp

/-- The text of a filter starts with a letter of its name. -/
theorem trimmed_text_ne_empty (filter : Filter) : Text.trimmed filter.text ≠ "" := by
  have letter : ∃ c rest, filter.text.toList = c :: rest ∧ Text.isBlank c = false := by
    cases filter with
    | manufacturer company =>
        exact ⟨'M', "anufacturer".toList ++ ",".toList ++ company.toList,
          by simp [text, value?, name, String.toList_append], by decide⟩
    | year value =>
        exact ⟨'Y', "ear".toList ++ ",".toList ++ value.toList,
          by simp [text, value?, name, String.toList_append], by decide⟩
    | all | available | unavailable | working | notWorking | mechanical | notMechanical | favorites
    | bios | notBios | parents | clones | saveSupported | saveUnsupported | vertical | horizontal =>
        exact ⟨_, _, rfl, by decide⟩
  obtain ⟨c, rest, written, solid⟩ := letter
  intro empty
  rw [Text.trimmed, written] at empty
  exact Text.trim_cons_ne_nil solid rest (by simpa using congrArg String.toList empty)

/-- Whatever is read as a filter is written as a text that is read as the same filter. A filter comes
back from its text if and only if it has no value or its value is not empty and has no blanks at its
ends; commas in the value, or the name of another filter, make no difference. -/
theorem read_back :
    (∀ (text : String) (filter : Filter), parse? text = some filter →
      parse? filter.text = some filter) ∧
    ∀ filter : Filter, parse? filter.text = some filter ↔
      filter.value? = none ∨ ∃ value, filter.value? = some value ∧ value ≠ "" ∧
        (∀ c, value.toList.head? = some c → Text.isBlank c = false) ∧
        ∀ c, value.toList.getLast? = some c → Text.isBlank c = false := by
  refine ⟨fun text filter read => parse?_text (isTidy_of_parse? read), fun filter => ?_⟩
  have comesBack : parse? filter.text = some filter ↔ filter.IsTidy :=
    ⟨isTidy_of_parse?, parse?_text⟩
  rw [comesBack, isTidy_iff]
  constructor
  · rintro (none | ⟨value, has, said, tidy⟩)
    · exact .inl none
    · exact .inr ⟨value, has, said, tidy.first, tidy.last⟩
  · rintro (none | ⟨value, has, said, first, last⟩)
    · exact .inl none
    · exact .inr ⟨value, has, said, first, last⟩

example : parse? "Manufacturer, Year,1980 " = some (.manufacturer "Year,1980") := by decide +kernel

end Filter

end SystemMenu
