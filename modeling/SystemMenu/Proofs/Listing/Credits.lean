import Mathlib.Data.List.Infix
import SystemMenu.Proofs.Listing.FilterText

/-!
# The companies of a joined credit

A credit is joined from companies, some of them with a remark in parentheses. Its names are those of its
parts, one part after the other. A part has no other name than its company, unless its remark holds a
separator, at which it is split, or an opening parenthesis after a space, at which the name is cut off
instead of at the start of the remark. It does not matter what else a remark holds, or whether its
parentheses are balanced.

## Main statements

* `splitCredit_append`: a credit is split between its parts.
* `companyNames_ne_nil`, `two_le_length_companyNames`: how many names there are at least.
* `Credit.withoutRemark_remarked`: where the name of a part ends.
* `Credit.companyNames_text_iff`: when a part has its company as its only name.
* `companies_joined`: when the names of a joined credit are the companies.
-/

namespace SystemMenu

namespace Text

variable {text : List Char} {c : Char}

/-- Characters that are no blanks are not trimmed away. -/
theorem mem_dropWhile_isBlank (member : c ∈ text) (solid : isBlank c = false) :
    c ∈ text.dropWhile isBlank := by
  rw [← List.takeWhile_append_dropWhile (p := isBlank) (l := text), List.mem_append] at member
  obtain taken | dropped := member
  · have blank := List.mem_takeWhile_imp taken
    rw [solid] at blank
    cases blank
  · exact dropped

theorem mem_trimEnd (member : c ∈ text) (solid : isBlank c = false) : c ∈ trimEnd text :=
  List.mem_reverse.2 (mem_dropWhile_isBlank (List.mem_reverse.2 member) solid)

theorem mem_trim (member : c ∈ text) (solid : isBlank c = false) : c ∈ trim text :=
  mem_trimEnd (mem_dropWhile_isBlank member solid) solid

end Text

namespace Credits

/-- What stands between two companies. -/
def separator : List Char := [' ', '/', ' ']

/-- What stands between a company and its remark. -/
def opening : List Char := [' ', '(']

section Splitting

theorem splitCredit_ne_nil (text : List Char) : splitCredit text ≠ [] := by
  unfold splitCredit
  split
  · simp
  · simp
  · split <;> simp

theorem splitCredit_separator (rest : List Char) :
    splitCredit (separator ++ rest) = [] :: splitCredit rest := rfl

/-- A character that does not begin a separator belongs to the first part. -/
theorem splitCredit_cons {c : Char} {rest : List Char} (other : ¬separator <+: c :: rest) :
    splitCredit (c :: rest) = (splitCredit rest).modifyHead (c :: ·) := by
  have parts := splitCredit_ne_nil rest
  rw [splitCredit]
  · split
    · contradiction
    · rename_i split
      rw [split]
      rfl
  · rintro after rfl rfl
    exact other (List.prefix_append separator after)

/-- A credit without a separator is not split. -/
theorem splitCredit_eq_singleton {text : List Char} (whole : ¬separator <:+: text) :
    splitCredit text = [text] := by
  induction text with
  | nil => rfl
  | cons c rest ih =>
      rw [List.infix_cons_iff, not_or] at whole
      rw [splitCredit_cons whole.1, ih whole.2]
      rfl

/-- What follows cannot make a character begin a separator, unless it is the end of the text before and this
ends with the beginning of a separator. -/
theorem not_separator_begins {c : Char} {rest : List Char} (other : ¬separator <+: c :: rest)
    (apart : ¬[' ', '/'] <:+ c :: rest) (after : List Char) :
    ¬separator <+: c :: (rest ++ separator ++ after) := by
  match rest with
  | [] => simp [separator]
  | [x] =>
      intro begins
      obtain ⟨rfl, rfl⟩ : ' ' = c ∧ '/' = x := by simpa [separator] using begins
      exact apart (List.suffix_refl _)
  | x :: y :: later =>
      intro begins
      apply other
      simpa [separator] using begins

/-- A credit is split at a separator, unless the text before ends with the beginning of another one. -/
theorem splitCredit_append {before : List Char} (apart : ¬[' ', '/'] <:+ before) (after : List Char) :
    splitCredit (before ++ separator ++ after) = splitCredit before ++ splitCredit after := by
  fun_induction splitCredit before with
  | case1 => exact splitCredit_separator after
  | case2 rest ih =>
      have later : ¬[' ', '/'] <:+ rest := fun ends =>
        apart (ends.trans (List.suffix_append separator rest))
      exact congrArg ([] :: ·) (ih later)
  | case3 c rest other none => exact absurd none (splitCredit_ne_nil rest)
  | case4 c rest other part others parts ih =>
      have begins : ¬separator <+: c :: rest := by
        rintro ⟨later, same⟩
        cases same
        exact other later rfl rfl
      have later : ¬[' ', '/'] <:+ rest := fun ends => apart (ends.trans (List.suffix_cons c rest))
      rw [List.cons_append, List.cons_append,
        splitCredit_cons (not_separator_begins begins apart after), ih later, parts]
      rfl

/-- A character that is no part of a separator is in some part. -/
theorem exists_mem_splitCredit {text : List Char} {c : Char} (member : c ∈ text) (noSpace : c ≠ ' ')
    (noSlash : c ≠ '/') : ∃ part ∈ splitCredit text, c ∈ part := by
  fun_induction splitCredit text with
  | case1 => cases member
  | case2 rest ih =>
      simp only [List.mem_cons, noSpace, noSlash, false_or] at member
      obtain ⟨part, among, inside⟩ := ih member
      exact ⟨part, List.mem_cons_of_mem _ among, inside⟩
  | case3 first rest other none => exact absurd none (splitCredit_ne_nil rest)
  | case4 first rest other part others parts ih =>
      obtain rfl | later := List.mem_cons.1 member
      · exact ⟨_, List.mem_cons_self, List.mem_cons_self⟩
      · obtain ⟨holder, among, inside⟩ := ih later
        rw [parts] at among
        obtain rfl | among := List.mem_cons.1 among
        · exact ⟨_, List.mem_cons_self, List.mem_cons_of_mem _ inside⟩
        · exact ⟨holder, List.mem_cons_of_mem _ among, inside⟩

/-- A credit with a separator has one before which no other one begins. -/
theorem exists_splitting {text : List Char} (inside : separator <:+: text) :
    ∃ before after, text = before ++ separator ++ after ∧ ¬[' ', '/'] <:+ before := by
  obtain ⟨before, after, rfl⟩ := inside
  induction hlength : before.length using Nat.strong_induction_on generalizing before after with
  | _ length ih =>
      by_cases ends : [' ', '/'] <:+ before
      · obtain ⟨earlier, rfl⟩ := ends
        have shorter : earlier.length < length := by
          rw [← hlength]
          simp
        obtain ⟨first, rest, same, apart⟩ := ih _ shorter earlier ('/' :: ' ' :: after) rfl
        exact ⟨first, rest, by simpa [separator] using same, apart⟩
      · exact ⟨before, after, rfl, ends⟩

end Splitting

section Names

/-- Of a text written backwards, what is found follows an opening parenthesis. -/
theorem afterOpening?_eq_some {text before : List Char} (h : afterOpening? text = some before) :
    opening.reverse ++ before <:+ text := by
  fun_induction afterOpening? text with
  | case1 => cases h
  | case2 rest =>
      cases h
      exact List.suffix_refl _
  | case3 c rest _ ih => exact (ih h).trans (List.suffix_cons c rest)

theorem afterOpening?_eq_none_iff {text : List Char} :
    afterOpening? text = none ↔ ¬opening.reverse <:+: text := by
  constructor
  · intro none inside
    fun_induction afterOpening? text with
    | case1 => simp [opening] at inside
    | case2 rest => cases none
    | case3 c rest other ih =>
        obtain begins | later := List.infix_cons_iff.1 inside
        · obtain ⟨after, same⟩ := begins
          cases same
          exact other after rfl rfl
        · exact ih none later
  · intro apart
    cases found : afterOpening? text with
    | none => rfl
    | some before =>
        exact absurd ((List.prefix_append _ before).isInfix.trans (afterOpening?_eq_some found).isInfix)
          apart

/-- An opening parenthesis is found in the text before another one, or else it is the other one. -/
theorem afterOpening?_append (front before : List Char) :
    afterOpening? (front ++ opening.reverse ++ before) =
      some (((afterOpening? front).map (· ++ opening.reverse)).getD [] ++ before) := by
  fun_induction afterOpening? front with
  | case1 => rfl
  | case2 rest => rfl
  | case3 c rest other ih =>
      rw [List.cons_append, List.cons_append, afterOpening?, ih]
      rintro after rfl begins
      cases rest with
      | nil => simp [opening] at begins
      | cons x later =>
          cases begins
          exact other later rfl rfl

/-- Every part that is not blank has a name. -/
theorem withoutRemark_ne_nil {part : List Char} {c : Char} (member : c ∈ part)
    (solid : Text.isBlank c = false) : withoutRemark part ≠ [] := by
  have said := List.ne_nil_of_mem (Text.mem_trim member solid)
  have tidy := Text.tidy_trim part
  simp only [withoutRemark]
  split
  · rename_i backwards written
    split
    · rename_i before found
      -- The name starts before the opening parenthesis, since it does not start with a blank.
      have start : before.reverse ++ opening <+: Text.trim part := by
        rw [← List.reverse_suffix, written]
        simpa using afterOpening?_eq_some found
      obtain ⟨rest, name⟩ := start
      cases first : before.reverse with
      | nil =>
          have blank := tidy.first ' ' (by rw [← name, first]; rfl)
          cases blank
      | cons x later =>
          refine List.ne_nil_of_mem (Text.mem_trimEnd List.mem_cons_self (tidy.first x ?_))
          rw [← name, first]
          rfl
    · exact said
  · exact said

/-- A credit with a character that is no part of a separator has a name. -/
theorem companyNames_ne_nil {text : List Char} {c : Char} (member : c ∈ text)
    (solid : Text.isBlank c = false) (noSlash : c ≠ '/') : companyNames text ≠ [] := by
  have noSpace : c ≠ ' ' := by
    rintro rfl
    cases solid
  obtain ⟨part, among, inside⟩ := exists_mem_splitCredit member noSpace noSlash
  have name : withoutRemark part ∈ companyNames text :=
    List.mem_filter.2 ⟨List.mem_map_of_mem among, by simpa using withoutRemark_ne_nil inside solid⟩
  exact List.ne_nil_of_mem name

theorem companyNames_append {before : List Char} (apart : ¬[' ', '/'] <:+ before)
    (after : List Char) :
    companyNames (before ++ separator ++ after) = companyNames before ++ companyNames after := by
  rw [companyNames, splitCredit_append apart, List.map_append, List.filter_append]
  rfl

/-- A credit that has a name and is not split has one name. -/
theorem companyNames_eq_singleton {text : List Char} (whole : ¬separator <:+: text)
    (named : companyNames text ≠ []) : companyNames text = [withoutRemark text] := by
  rw [companyNames, splitCredit_eq_singleton whole, List.map_singleton] at named ⊢
  by_cases empty : withoutRemark text = []
  · simp [empty] at named
  · simp [empty]

/-- A credit with a separator between two characters that are no part of it has at least two names. -/
theorem two_le_length_companyNames {text : List Char} {first last : Char}
    (start : text.head? = some first) (firstSolid : Text.isBlank first = false)
    (firstNoSlash : first ≠ '/') (ending : text.getLast? = some last)
    (lastSolid : Text.isBlank last = false) (lastNoSlash : last ≠ '/')
    (inside : separator <:+: text) : 2 ≤ (companyNames text).length := by
  obtain ⟨before, after, rfl, apart⟩ := exists_splitting inside
  have inBefore : first ∈ before := by
    cases before with
    | nil =>
        cases start
        cases firstSolid
    | cons x rest =>
        cases start
        exact List.mem_cons_self
  have inAfter : last ∈ after := by
    rw [List.getLast?_append] at ending
    cases found : after.getLast? with
    | none =>
        rw [List.getLast?_eq_none_iff.1 found] at ending
        simp [separator] at ending
        subst ending
        cases lastSolid
    | some x =>
        rw [found] at ending
        cases ending
        exact List.mem_of_getLast? found
  have one := List.length_pos_of_ne_nil (companyNames_ne_nil inBefore firstSolid firstNoSlash)
  have other := List.length_pos_of_ne_nil (companyNames_ne_nil inAfter lastSolid lastNoSlash)
  rw [companyNames_append apart, List.length_append]
  omega

end Names

/-- A company as it stands in a credit, with a remark after it, if there is one. -/
structure Credit where
  company : String
  remark : Option String := none
  said : company ≠ ""
  tidy : Text.Tidy company.toList
  plain : ∀ c ∈ company.toList, c ≠ '/' ∧ c ≠ '(' ∧ c ≠ ')'

namespace Credit

/-- The company with its remark in parentheses. -/
def text (credit : Credit) : String :=
  match credit.remark with
  | none => credit.company
  | some remark => credit.company ++ " (" ++ remark ++ ")"

/-- The remark holds no separator and no opening parenthesis after a space. -/
def IsClear (credit : Credit) : Prop :=
  ∀ remark, credit.remark = some remark →
    ¬separator <:+: remark.toList ∧ ¬opening <:+: remark.toList

/-- A company with a remark, as a list of characters. -/
def remarked (company remark : List Char) : List Char := company ++ opening ++ remark ++ [')']

/-- A company alone is its own name. -/
theorem withoutRemark_company {company : List Char} (tidy : Text.Tidy company)
    (plain : ')' ∉ company) : withoutRemark company = company := by
  simp only [withoutRemark, tidy.trim_eq]
  split
  · rename_i backwards written
    refine absurd ?_ plain
    rw [← List.mem_reverse, written]
    exact List.mem_cons_self
  · rfl

section Remarked

variable {company remark : List Char}

/-- No separator begins in a company. -/
theorem separator_infix_append_iff (plain : '/' ∉ company) :
    separator <:+: company ++ opening ++ remark ↔ separator <:+: remark := by
  induction company with
  | nil => simp [List.infix_cons_iff, separator, opening]
  | cons c rest ih =>
      rw [List.mem_cons, not_or] at plain
      have begins : ¬separator <+: c :: (rest ++ opening ++ remark) := by
        intro begins
        cases rest with
        | nil => simp [separator, opening] at begins
        | cons x later =>
            obtain ⟨-, slash, -⟩ : ' ' = c ∧ '/' = x ∧ _ := by simpa [separator] using begins
            exact plain.2 (List.mem_cons.2 (.inl slash))
      rw [List.cons_append, List.cons_append, List.infix_cons_iff, or_iff_right begins, ih plain.2]

/-- A separator in a credit is one in the remark. -/
theorem separator_infix_remarked_iff (plain : '/' ∉ company) :
    separator <:+: remarked company remark ↔ separator <:+: remark := by
  have closing : ¬separator <:+ company ++ opening ++ remark ++ [')'] := by
    rintro ⟨front, same⟩
    have last := congrArg List.getLast? same
    simp [separator] at last
  rw [remarked, List.infix_concat_iff, or_iff_right closing, separator_infix_append_iff plain]

/-- The name of a part is what stands before the last opening parenthesis: in the remark, or where the
remark starts. -/
theorem withoutRemark_remarked (said : company ≠ []) (tidy : Text.Tidy company) :
    withoutRemark (remarked company remark) =
      Text.trimEnd (company ++ (((afterOpening? (')' :: remark.reverse)).map
        (· ++ opening.reverse)).getD []).reverse) := by
  have name : Text.Tidy (remarked company remark) := by
    constructor
    · intro c first
      apply tidy.first c
      cases company with
      | nil => exact absurd rfl said
      | cons x rest => exact first
    · intro c last
      simp only [remarked, List.getLast?_concat, Option.some.injEq] at last
      subst last
      rfl
  have backwards : (remarked company remark).reverse =
      ')' :: (remark.reverse ++ opening.reverse ++ company.reverse) := by
    simp [remarked]
  have found : afterOpening? (')' :: (remark.reverse ++ opening.reverse ++ company.reverse)) = _ :=
    afterOpening?_append (')' :: remark.reverse) company.reverse
  simp only [withoutRemark, name.trim_eq, backwards, found]
  rw [List.reverse_append, List.reverse_reverse]

/-- The name of a part is its company if and only if no opening parenthesis follows a space in the remark. -/
theorem withoutRemark_remarked_eq_iff (said : company ≠ []) (tidy : Text.Tidy company)
    (plain : '(' ∉ company) :
    withoutRemark (remarked company remark) = company ↔ ¬opening <:+: remark := by
  have backwards : opening.reverse <:+: ')' :: remark.reverse ↔ opening <:+: remark := by
    rw [List.infix_cons_iff, List.reverse_infix, or_iff_right (by simp [opening])]
  rw [withoutRemark_remarked said tidy]
  cases found : afterOpening? (')' :: remark.reverse) with
  | none =>
      rw [afterOpening?_eq_none_iff, backwards] at found
      simp [found, tidy.trimEnd_eq]
  | some before =>
      have inside : opening <:+: remark := by
        rw [← backwards]
        by_contra apart
        rw [afterOpening?_eq_none_iff.2 apart] at found
        cases found
      -- The parenthesis is not trimmed away, and there is none in the company.
      have parenthesis : '(' ∈ Text.trimEnd (company ++ (before ++ opening.reverse).reverse) :=
        Text.mem_trimEnd (by simp [opening]) rfl
      simp only [inside, not_true_eq_false, iff_false, Option.map_some, Option.getD_some]
      intro same
      rw [same] at parenthesis
      exact plain parenthesis

end Remarked

variable (credit : Credit)

theorem toList_text_of_some {remark : String} (said : credit.remark = some remark) :
    credit.text.toList = remarked credit.company.toList remark.toList := by
  simp [text, said, remarked, opening]

theorem toList_company_ne_nil : credit.company.toList ≠ [] := by
  simpa using credit.said

theorem slash_not_mem : '/' ∉ credit.company.toList := fun member => (credit.plain _ member).1 rfl

/-- A credit does not end with the beginning of a separator. -/
theorem apart_text : ¬[' ', '/'] <:+ credit.text.toList := by
  cases said : credit.remark with
  | none =>
      rw [text, said]
      exact fun ends => credit.slash_not_mem (ends.subset (by decide))
  | some remark =>
      rw [credit.toList_text_of_some said]
      rintro ⟨front, same⟩
      have last := congrArg List.getLast? same
      simp [remarked] at last

/-- A credit starts as its company does. -/
theorem exists_head_text :
    ∃ first, credit.text.toList.head? = some first ∧ Text.isBlank first = false ∧ first ≠ '/' := by
  obtain ⟨first, rest, company⟩ := List.exists_cons_of_ne_nil credit.toList_company_ne_nil
  have member : first ∈ credit.company.toList := by
    rw [company]
    exact List.mem_cons_self
  refine ⟨first, ?_, credit.tidy.first first (by rw [company]; rfl), (credit.plain first member).1⟩
  cases said : credit.remark with
  | none => rw [text, said, company, List.head?_cons]
  | some remark =>
      rw [credit.toList_text_of_some said, company]
      rfl

/-- Every credit has a name. -/
theorem companyNames_text_ne_nil : companyNames credit.text.toList ≠ [] := by
  obtain ⟨first, start, solid, noSlash⟩ := credit.exists_head_text
  exact companyNames_ne_nil (List.mem_of_head? start) solid noSlash

/-- The only name of a credit is its company if and only if its remark is clear. -/
theorem companyNames_text_iff :
    companyNames credit.text.toList = [credit.company.toList] ↔ credit.IsClear := by
  have named := credit.companyNames_text_ne_nil
  cases said : credit.remark with
  | none =>
      have alone : credit.text = credit.company := by rw [text, said]
      have whole : ¬separator <:+: credit.company.toList :=
        fun inside => credit.slash_not_mem (inside.subset (by decide))
      rw [alone] at named ⊢
      rw [companyNames_eq_singleton whole named, withoutRemark_company credit.tidy
        fun member => (credit.plain _ member).2.2 rfl]
      simp [IsClear, said]
  | some remark =>
      have clear : credit.IsClear ↔ ¬separator <:+: remark.toList ∧ ¬opening <:+: remark.toList := by
        simp [IsClear, said]
      rw [clear]
      by_cases inside : separator <:+: remark.toList
      · obtain ⟨first, start, solid, noSlash⟩ := credit.exists_head_text
        have ending : credit.text.toList.getLast? = some ')' := by
          rw [credit.toList_text_of_some said, remarked, List.getLast?_concat]
        have two := two_le_length_companyNames start solid noSlash ending rfl (by decide) (by
          rwa [credit.toList_text_of_some said, separator_infix_remarked_iff credit.slash_not_mem])
        constructor
        · intro one
          rw [one, List.length_singleton] at two
          exact absurd two (by decide)
        · exact fun clear => absurd inside clear.1
      · have whole : ¬separator <:+: credit.text.toList := by
          rwa [credit.toList_text_of_some said, separator_infix_remarked_iff credit.slash_not_mem]
        rw [companyNames_eq_singleton whole named, credit.toList_text_of_some said,
          List.singleton_inj, withoutRemark_remarked_eq_iff credit.toList_company_ne_nil credit.tidy
            fun member => (credit.plain _ member).2.1 rfl]
        simp [inside]

end Credit

/-- The credit of some companies with their remarks. -/
def joined (credits : List Credit) : String := " / ".intercalate (credits.map Credit.text)

theorem toList_joined (credits : List Credit) :
    (joined credits).toList =
      separator.intercalate (credits.map fun credit => credit.text.toList) := by
  rw [joined, String.toList_intercalate, List.map_map]
  rfl

/-- The names of a joined credit are the names of its parts. -/
theorem companyNames_joined (credits : List Credit) :
    companyNames (joined credits).toList =
      credits.flatMap fun credit => companyNames credit.text.toList := by
  rw [toList_joined]
  induction credits with
  | nil => rfl
  | cons credit rest ih =>
      cases rest with
      | nil => simp
      | cons next later =>
          rw [List.map_cons, List.map_cons, List.intercalate_cons_cons,
            companyNames_append credit.apart_text, List.flatMap_cons, ← ih]
          rfl

section Images

variable {α β : Type} {images : α → List β} {given : α → β} {xs : List α}

theorem length_le_length_flatMap (some : ∀ x ∈ xs, images x ≠ []) :
    xs.length ≤ (xs.flatMap images).length := by
  induction xs with
  | nil => exact Nat.le_refl 0
  | cons x rest ih =>
      have first := List.length_pos_of_ne_nil (some x List.mem_cons_self)
      have later := ih fun y member => some y (List.mem_cons_of_mem x member)
      rw [List.flatMap_cons, List.length_append, List.length_cons]
      omega

/-- If every member has an image, then all images are the given ones, in order, if and only if every member
has the given one as its only image. -/
theorem flatMap_eq_map_iff (some : ∀ x ∈ xs, images x ≠ []) :
    xs.flatMap images = xs.map given ↔ ∀ x ∈ xs, images x = [given x] := by
  induction xs with
  | nil => simp
  | cons x rest ih =>
      have later : ∀ y ∈ rest, images y ≠ [] := fun y member => some y (List.mem_cons_of_mem x member)
      rw [List.flatMap_cons, List.map_cons, List.forall_mem_cons, ← ih later]
      constructor
      · intro same
        obtain ⟨first, more, here⟩ := List.exists_cons_of_ne_nil (some x List.mem_cons_self)
        rw [here, List.cons_append, List.cons.injEq] at same
        -- One image more would be one too many, since every other member has one, too.
        have none : more = [] := by
          have length := congrArg List.length same.2
          rw [List.length_append, List.length_map] at length
          have least := length_le_length_flatMap later
          exact List.eq_nil_of_length_eq_zero (by omega)
        rw [none, List.nil_append] at same
        exact ⟨by rw [here, same.1, none], same.2⟩
      · rintro ⟨here, same⟩
        rw [here, same, List.singleton_append]

end Images

/-- A joined credit has the names of its parts, and each part has at least one. So the names are the
companies in order if and only if no remark holds a separator or an opening parenthesis after a space,
whatever else it holds. -/
theorem companies_joined (credits : List Credit) :
    (companies (joined credits) = credits.flatMap fun credit => companies credit.text) ∧
    (∀ credit ∈ credits, companies credit.text ≠ []) ∧
    (companies (joined credits) = credits.map Credit.company ↔
      ∀ credit ∈ credits, ∀ remark, credit.remark = some remark →
        ¬separator <:+: remark.toList ∧ ¬opening <:+: remark.toList) := by
  have named : ∀ credit ∈ credits, companies credit.text ≠ [] := by
    intro credit _
    rw [companies, Ne, List.map_eq_nil_iff]
    exact credit.companyNames_text_ne_nil
  have parts : companies (joined credits) = credits.flatMap fun credit => companies credit.text := by
    rw [companies, companyNames_joined, List.map_flatMap]
    rfl
  refine ⟨parts, named, ?_⟩
  rw [parts, flatMap_eq_map_iff named]
  refine forall₂_congr fun credit _ => Iff.trans ?_ credit.companyNames_text_iff
  have company : [credit.company] = [credit.company.toList].map String.ofList := by simp
  have injective : Function.Injective String.ofList := fun _ _ same => String.ofList_injective same
  rw [companies, company, (List.map_injective_iff.2 injective).eq_iff]

/-- The parentheses of a text are balanced if some have been opened before it. -/
def isBalanced : Nat → List Char → Bool
  | opened, [] => opened = 0
  | opened, '(' :: rest => isBalanced (opened + 1) rest
  | 0, ')' :: _ => false
  | opened + 1, ')' :: rest => isBalanced opened rest
  | opened, _ :: rest => isBalanced opened rest

/-- A company with some remark. -/
def namco (remark : String) : Credit where
  company := "Namco"
  remark := some remark
  said := by decide
  tidy := by
    constructor
    · rintro c ⟨⟩
      rfl
    · rintro c ⟨⟩
      rfl
  plain := by simp

/-- A remark that has parentheses or a separator itself stays in the names in part. -/
theorem remark_not_dropped :
    isBalanced 0 "Midway (US) license".toList = true ∧
    companies (joined [namco "Midway (US) license"]) = ["Namco (Midway"] ∧
    isBalanced 0 "Midway / Bally license".toList = true ∧
    companies (joined [namco "Midway / Bally license"]) = ["Namco (Midway", "Bally license)"] ∧
    [namco "Midway (US) license"].map Credit.company = ["Namco"] ∧
    [namco "Midway / Bally license"].map Credit.company = ["Namco"] := by
  refine ⟨by decide, by decide +kernel, by decide, by decide +kernel, rfl, rfl⟩

end Credits

end SystemMenu
