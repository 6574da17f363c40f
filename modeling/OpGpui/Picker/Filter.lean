import Mathlib.Logic.Relation
import OpGpui.Rust.Lowercase
import OpGpui.Picker.Row

/-!
# What the filter keeps

One query keeps no more rows than another, in every list, exactly if it contains the
other once both are trimmed and lowercased (`filter_subset_iff`). Two laws one expects
of a filter come down to that: typing on narrows the list (`typing_narrows_iff`), and case
does not matter (`filtering_is_case_insensitive_iff`). Both hold except around a capital
sigma at the end of a word. The query is lowercased on its own, so that a word that ends
with the query need not end in the title.
-/

namespace Picker

open Rust

section Keys

variable [Rust.UnicodeTables] {s t query : String}

omit [Rust.UnicodeTables] in
theorem contains_iff {text pattern : String} :
    contains text pattern = true ↔ pattern.toList <:+: text.toList := decide_eq_true_iff

omit [Rust.UnicodeTables] in
theorem contains_empty (text : String) : contains text "" = true :=
  contains_iff.mpr List.nil_infix

/-- A row is kept if its title or its detail contains the key of the query. -/
theorem Row.matchesQuery_iff {row : Row} {key : String} : row.matchesQuery key = true ↔
    contains (toLowercase row.title) key = true ∨ contains (toLowercase row.detail) key = true := by
  simp only [Row.matchesQuery, Bool.or_eq_true, decide_eq_true_eq, or_assoc]
  constructor
  · rintro (rfl | kept)
    · exact .inl (contains_empty _)
    · exact kept
  · exact .inr

/-- A row that shows a text and nothing else. -/
def Row.titled (text : String) : Row := .vault (.new "" text)

theorem Row.titled_matchesQuery_iff {text key : String} :
    (Row.titled text).matchesQuery key = true ↔ contains (toLowercase text) key = true := by
  rw [Row.matchesQuery_iff]
  constructor
  · rintro (kept | kept)
    · exact kept
    · have empty : key.toList = [] := List.infix_nil.mp (contains_iff.mp kept)
      rw [String.toList_inj.mp (empty.trans String.toList_empty.symm)]
      exact contains_empty _
  · exact .inl

theorem filteredRowIndices_titled {text : String} : 0 ∈ filteredRowIndices [Row.titled text] query ↔
    contains (toLowercase text) (toLowercase (trim query)) = true := by
  rw [mem_filteredRowIndices, ← Row.titled_matchesQuery_iff]
  simp

/-- The rows one query keeps are among those of another, in every list, exactly if the
one contains the other, both of them trimmed and in lowercase. -/
theorem filter_subset_iff :
    (∀ rows, ∀ ix ∈ filteredRowIndices rows s, ix ∈ filteredRowIndices rows t) ↔
      contains (toLowercase (trim s)) (toLowercase (trim t)) = true := by
  constructor
  · intro narrower
    apply filteredRowIndices_titled.mp
    apply narrower
    exact filteredRowIndices_titled.mpr (contains_iff.mpr List.infix_rfl)
  · intro within rows ix member
    obtain ⟨row, found, kept⟩ := mem_filteredRowIndices.mp member
    refine mem_filteredRowIndices.mpr ⟨row, found, ?_⟩
    rw [Row.matchesQuery_iff, contains_iff, contains_iff] at kept ⊢
    exact kept.imp (contains_iff.mp within).trans (contains_iff.mp within).trans

/-- Two queries keep the same rows of every list exactly if they have one key. -/
theorem filter_eq_iff : (∀ rows, filteredRowIndices rows s = filteredRowIndices rows t) ↔
    toLowercase (trim s) = toLowercase (trim t) := by
  constructor
  · intro same
    have forward : contains (toLowercase (trim s)) (toLowercase (trim t)) = true := by
      refine filter_subset_iff.mp fun rows ix member => ?_
      rwa [← same rows]
    have backward : contains (toLowercase (trim t)) (toLowercase (trim s)) = true := by
      refine filter_subset_iff.mp fun rows ix member => ?_
      rwa [same rows]
    exact String.toList_inj.mp (List.infix_antisymm (contains_iff.mp backward) (contains_iff.mp forward))
  · intro same rows
    simp only [filteredRowIndices, same]

/-- Every final capital sigma of a text is one of the other text too. -/
def KeepsFinalSigmas (s t : String) : Prop :=
  ∀ position, FinalSigmaAt [] s.toList position → FinalSigmaAt [] t.toList position

/-- Typing the text after the query brings back no row that the query hides. -/
def Narrows (query text : String) : Prop :=
  ∀ rows, ∀ ix ∈ filteredRowIndices rows (query ++ text), ix ∈ filteredRowIndices rows query

omit [Rust.UnicodeTables] in
/-- The trimming of a query stays in front when one types on. -/
theorem toList_trim_append (query text : String) :
    ∃ more, (trim (query ++ text)).toList = (trim query).toList ++ more := by
  obtain ⟨more, continued⟩ := Trim.trim_prefix_append isWhitespace query.toList text.toList
  refine ⟨more, ?_⟩
  rw [toList_trim, toList_trim, String.toList_append, continued]

theorem narrows_of_keepsFinalSigmas {text : String}
    (kept : KeepsFinalSigmas (trim query) (trim (query ++ text))) : Narrows query text := by
  obtain ⟨more, continued⟩ := toList_trim_append query text
  refine filter_subset_iff.mpr (contains_iff.mpr ?_)
  rw [toList_toLowercase, toList_toLowercase, continued]
  apply List.IsPrefix.isInfix
  apply lowercaseFrom_prefix
  rwa [← continued]

/-- A text without a sigma adds no ς, so that the ς of a final sigma is found nowhere
else. -/
theorem keepsFinalSigmas_of_narrows (laws : LawfulTables) {text : String}
    (sigmaless : Sigmaless text.toList) (narrows : Narrows query text) :
    KeepsFinalSigmas (trim query) (trim (query ++ text)) := by
  have found := contains_iff.mp (filter_subset_iff.mp narrows)
  intro position final
  have some : Trim.trim isWhitespace query.toList ≠ [] := by
    intro empty
    rw [toList_trim, empty] at final
    exact not_finalSigmaAt_nil final
  have started := Trim.trim_append_prefix isWhitespace text.toList some
  obtain ⟨more, continued⟩ := toList_trim_append query text
  rw [← String.toList_append, ← toList_trim, ← toList_trim, continued,
    List.prefix_append_right_inj] at started
  rw [toList_toLowercase, toList_toLowercase, continued] at found
  rw [continued]
  refine finalSigmaAt_append_of_count ?_ (found.sublist.count_le _) final
  exact ((sigmaless_blank laws (Trim.blank_rtakeWhile _ _)).append sigmaless).mono started

/-- Typing narrows the list, up to a final sigma. It does whatever is typed if and only if
the query does not end with a capital sigma that ends a word. It does for one further text
if every capital sigma that ends a word of the query still does, and only then, if the text
itself adds no sigma in which the ς of the query could be found again. -/
theorem typing_narrows_iff (laws : LawfulTables) {letter : Char} (plain : PlainLetter letter)
    (query : String) :
    ((∀ text, Narrows query text) ↔ ¬ EndsInSigma query.toList) ∧
    ∀ text, (KeepsFinalSigmas (trim query) (trim (query ++ text)) → Narrows query text) ∧
      (Sigmaless text.toList →
        (Narrows query text ↔ KeepsFinalSigmas (trim query) (trim (query ++ text)))) := by
  refine ⟨⟨?_, ?_⟩, fun text => ⟨narrows_of_keepsFinalSigmas, fun sigmaless => ?_⟩⟩
  · intro narrows ends
    obtain ⟨position, final, lost⟩ := exists_not_finalSigmaAt_trim laws ends plain
    have alone : (String.singleton letter).toList = [letter] := String.toList_singleton letter
    have kept := keepsFinalSigmas_of_narrows laws (by rw [alone]; exact plain.sigmaless)
      (narrows (String.singleton letter)) position
    rw [toList_trim, toList_trim, String.toList_append, alone] at kept
    exact lost (kept final)
  · intro bounded text
    apply narrows_of_keepsFinalSigmas
    intro position final
    rw [toList_trim] at final ⊢
    rw [String.toList_append]
    exact finalSigmaAt_trim_append laws bounded final
  · exact ⟨keepsFinalSigmas_of_narrows laws sigmaless, narrows_of_keepsFinalSigmas⟩

end Keys

section Thesaurus

local instance thesaurusTables : UnicodeTables := .greek

/-- A word with a sigma in the middle is hidden on the way to typing it. -/
theorem thesaurus_hidden :
    0 ∈ filteredRowIndices [Row.titled "ΘΗΣΑΥΡΟΣ"] ("ΘΗΣ" ++ "ΑΥΡΟΣ") ∧
      0 ∉ filteredRowIndices [Row.titled "ΘΗΣΑΥΡΟΣ"] "ΘΗΣ" := by
  decide +kernel

theorem plainLetter_alpha : PlainLetter 'Α' where
  visible := by decide
  cased := by decide +kernel
  counted := by decide +kernel
  sigmaless := by
    intro c member
    obtain rfl := List.mem_singleton.mp member
    exact ⟨by decide, by decide +kernel⟩

/-- Nothing typed after ΘΗ brings a row back. After ΘΗΣ something does, for one Α, but not a
blank. -/
theorem typing_narrows_thesaurus : (∀ text, Narrows "ΘΗ" text) ∧
    (¬ ∀ text, Narrows "ΘΗΣ" text) ∧ ¬ Narrows "ΘΗΣ" "Α" ∧ Narrows "ΘΗΣ" " " := by
  have small : "ΘΗ".toList = ['Θ', 'Η'] := by decide +kernel
  have single : "Α".toList = ['Α'] := by decide +kernel
  have ends : EndsInSigma "ΘΗΣ".toList :=
    ⟨['Θ', 'Η'], [], by decide +kernel, by decide +kernel, by simp⟩
  have continued := typing_narrows_iff lawfulTables_greek plainLetter_alpha "ΘΗΣ"
  refine ⟨?_, ?_, ?_, ?_⟩
  · refine (typing_narrows_iff lawfulTables_greek plainLetter_alpha "ΘΗ").1.mpr ?_
    rintro ⟨front, back, whole, _⟩
    have sigma : 'Σ' ∈ "ΘΗ".toList := by simp [whole]
    rw [small] at sigma
    revert sigma
    decide
  · intro narrows
    exact continued.1.mp narrows ends
  · intro narrows
    have lost := ((continued.2 "Α").2 (single ▸ plainLetter_alpha.sigmaless)).mp narrows 2
    revert lost
    simp only [FinalSigmaAt]
    decide +kernel
  · apply (continued.2 " ").1
    have same : trim ("ΘΗΣ" ++ " ") = trim "ΘΗΣ" := by decide +kernel
    rw [same]
    exact fun position final => final

/-- In ΑΣΑΣ the first sigma ends no word any more, and the ς of ΑΣ is found at the second. -/
example : Narrows "ΑΣ" "ΑΣ" ∧ ¬ KeepsFinalSigmas (trim "ΑΣ") (trim ("ΑΣ" ++ "ΑΣ")) := by
  refine ⟨filter_subset_iff.mpr (by decide +kernel), ?_⟩
  intro kept
  have lost := kept 1
  revert lost
  simp only [FinalSigmaAt]
  decide +kernel

end Thesaurus

/-- A row with some of its title, description and category replaced. -/
inductive Row.Recased (replaced : String → String → Prop) : Row → Row → Prop
  | vault {entry : Vault} {title description : String}
      (of_title : Relation.ReflGen replaced entry.title title)
      (of_description : Relation.ReflGen replaced entry.description description) :
      Recased replaced (.vault entry) (.vault { entry with title, description })
  | item {entry : Item} {title category : String}
      (of_title : Relation.ReflGen replaced entry.title title)
      (of_category : Relation.ReflGen replaced entry.category category) :
      Recased replaced (.item entry) (.item { entry with title, category })
  | field {entry : Field} {title : String} (of_title : Relation.ReflGen replaced entry.title title) :
      Recased replaced (.field entry) (.field { entry with title })

section Replaced

variable [Rust.UnicodeTables] {s t : String} {replaced : String → String → Prop}

theorem toLowercase_eq_of_replaced (same : ∀ s t, replaced s t → toLowercase s = toLowercase t)
    (replacement : Relation.ReflGen replaced s t) : toLowercase s = toLowercase t := by
  cases replacement with
  | refl => rfl
  | single replacement => exact same s t replacement

theorem eq_empty_iff_of_replaced (variants : ∀ s t, replaced s t → CaseVariants s t)
    (replacement : Relation.ReflGen replaced s t) : s = "" ↔ t = "" := by
  cases replacement with
  | refl => rfl
  | single replacement =>
      have lengths := List.Forall₂.length_eq (variants s t replacement)
      have empty_iff (text : String) : text = "" ↔ text.toList.length = 0 := by
        rw [← String.toList_inj, String.toList_empty, List.length_eq_zero_iff]
      rw [empty_iff, empty_iff, lengths]

/-- A row keeps the lowercase forms of what it shows. -/
theorem Row.Recased.lowercase {row row' : Row} (recased : Row.Recased replaced row row')
    (variants : ∀ s t, replaced s t → CaseVariants s t)
    (same : ∀ s t, replaced s t → toLowercase s = toLowercase t) :
    toLowercase row.title = toLowercase row'.title ∧
      toLowercase row.detail = toLowercase row'.detail := by
  cases recased with
  | @vault entry title description of_title of_description =>
      refine ⟨toLowercase_eq_of_replaced same of_title, ?_⟩
      have empty_iff := eq_empty_iff_of_replaced variants of_description
      simp only [Row.detail]
      by_cases empty : entry.description = ""
      · rw [if_neg (not_not.mpr empty), if_neg (not_not.mpr (empty_iff.mp empty))]
      · rw [if_pos empty, if_pos (mt empty_iff.mpr empty)]
        exact toLowercase_eq_of_replaced same of_description
  | item of_title of_category =>
      exact ⟨toLowercase_eq_of_replaced same of_title, toLowercase_eq_of_replaced same of_category⟩
  | field of_title => exact ⟨toLowercase_eq_of_replaced same of_title, rfl⟩

/-- Rows that match alike are filtered alike. -/
theorem filteredRowIndices_congr {rows rows' : List Row}
    (alike : List.Forall₂ (fun row row' => ∀ key, row.matchesQuery key = row'.matchesQuery key)
      rows rows') (query : String) : filteredRowIndices rows query = filteredRowIndices rows' query := by
  simp only [filteredRowIndices]
  generalize 0 = start
  induction alike generalizing start with
  | nil => rfl
  | @cons row row' _ _ same _ ih =>
      rw [List.zipIdx_cons, List.zipIdx_cons, List.filterMap_cons, List.filterMap_cons, same, ih]

/-- Case does not matter to the filter, up to final sigmas. A collection of case variants
may replace each other as queries, and as titles, descriptions and categories of any
rows, without a change in what is kept, if and only if they have their final capital
sigmas at the same positions. -/
theorem filtering_is_case_insensitive_iff (laws : LawfulTables)
    (variants : ∀ s t, replaced s t → CaseVariants s t) :
    ((∀ s t, replaced s t → ∀ rows, filteredRowIndices rows s = filteredRowIndices rows t) ↔
      ∀ s t, replaced s t → SameFinalSigmas s t) ∧
    ((∀ rows rows', List.Forall₂ (Row.Recased replaced) rows rows' →
        ∀ query, filteredRowIndices rows query = filteredRowIndices rows' query) ↔
      ∀ s t, replaced s t → SameFinalSigmas s t) := by
  refine ⟨forall₃_congr fun s t replacement => ?_, ?_, ?_⟩
  · rw [filter_eq_iff, toLowercase_trim_eq_iff laws (variants s t replacement)]
  · intro unchanged s t replacement
    have shown : 0 ∈ filteredRowIndices [Row.titled s] s :=
      filteredRowIndices_titled.mpr (contains_toLowercase_trim laws s)
    rw [unchanged [Row.titled s] [Row.titled t]
      (.cons (.vault (.single replacement) .refl) .nil) s] at shown
    rw [← toLowercase_trim_eq_iff laws (variants s t replacement)]
    exact toLowercase_trim_eq_of_contains laws (variants s t replacement)
      (filteredRowIndices_titled.mp shown)
  · intro finals rows rows' recased
    have same : ∀ s t, replaced s t → toLowercase s = toLowercase t := fun s t replacement =>
      (toLowercase_eq_iff laws (variants s t replacement)).mpr (finals s t replacement)
    apply filteredRowIndices_congr
    refine recased.imp fun row row' recased key => ?_
    obtain ⟨title, detail⟩ := recased.lowercase variants same
    simp only [Row.matchesQuery, title, detail]

end Replaced

section Signage

local instance signageTables : UnicodeTables := .greek

/-- A search in small letters finds what one in capitals does not. -/
theorem signage_hidden : CaseVariants "ΟΔΟΣ" "οδοσ" ∧
    filteredRowIndices [Row.titled "ΟΔΟΣΗΜΑΝΣΗ"] "ΟΔΟΣ" = [] ∧
    filteredRowIndices [Row.titled "ΟΔΟΣΗΜΑΝΣΗ"] "οδοσ" = [0] := by
  have capitals : "ΟΔΟΣ".toList = ['Ο', 'Δ', 'Ο', 'Σ'] := by decide +kernel
  have small : "οδοσ".toList = ['ο', 'δ', 'ο', 'σ'] := by decide +kernel
  refine ⟨?_, by decide +kernel, by decide +kernel⟩
  rw [CaseVariants, capitals, small]
  exact .cons (by decide) (.cons (by decide) (.cons (by decide) (.cons (by decide) .nil)))

/-- Without a capital sigma, case does not matter. -/
theorem filtering_is_case_insensitive_engine :
    (∀ rows, filteredRowIndices rows "engine" = filteredRowIndices rows "ENGINE") ∧
    ∀ query, filteredRowIndices [Row.titled "engine"] query =
      filteredRowIndices [Row.titled "ENGINE"] query := by
  have small : "engine".toList = ['e', 'n', 'g', 'i', 'n', 'e'] := by decide +kernel
  have capitals : "ENGINE".toList = ['E', 'N', 'G', 'I', 'N', 'E'] := by decide +kernel
  have variants : CaseVariants "engine" "ENGINE" := by
    rw [CaseVariants, small, capitals]
    exact .cons (by decide) (.cons (by decide) (.cons (by decide) (.cons (by decide)
      (.cons (by decide) (.cons (by decide) .nil)))))
  have none {text : List Char} (absent : 'Σ' ∉ text) (position : Nat) :
      ¬ FinalSigmaAt [] text position :=
    fun final => absent (List.mem_of_getElem? final.1)
  have finals : SameFinalSigmas "engine" "ENGINE" := by
    intro position
    rw [small, capitals]
    exact iff_of_false (none (by decide) position) (none (by decide) position)
  have insensitive := @filtering_is_case_insensitive_iff signageTables
    (fun s t => s = "engine" ∧ t = "ENGINE") lawfulTables_greek
    (by rintro s t ⟨rfl, rfl⟩; exact variants)
  have same : ∀ s t, s = "engine" ∧ t = "ENGINE" → SameFinalSigmas s t := by
    rintro s t ⟨rfl, rfl⟩
    exact finals
  exact ⟨insensitive.1.mpr same "engine" "ENGINE" ⟨rfl, rfl⟩,
    insensitive.2.mpr same _ _ (.cons (.vault (.single ⟨rfl, rfl⟩) .refl) .nil)⟩

end Signage

end Picker
