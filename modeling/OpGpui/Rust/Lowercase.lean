import OpGpui.Library.Trim
import OpGpui.Rust.Str

/-!
# Lowercasing a text in context

`str::to_lowercase` maps every character by itself, except that a capital sigma at the
end of a word becomes ς. Two things follow. A text that is continued keeps its lowercase
form as a prefix as long as no sigma stops being final (`lowercaseFrom_prefix`), and one
stops being final only if the text ends in its word (`finalSigmaAt_trim_append`). And texts
that agree up to case agree in lowercase exactly if they have the same final
sigmas (`lowercaseFrom_eq_iff`). White space bounds a word, so that trimming a text
trims its lowercase form (`lowercaseFrom_between_blanks`).
-/

namespace Rust

open Trim

/-- What the tables say about white space and the capital sigma. -/
structure LawfulTables [UnicodeTables] : Prop where
  sigma : UnicodeTables.toLowercase 'Σ' = ['σ']
  blank : ∀ c, isWhitespace c = true → UnicodeTables.toLowercase c = [c] ∧
    UnicodeTables.cased c = false ∧ UnicodeTables.caseIgnorable c = false
  visible : ∀ c, isWhitespace c = false → UnicodeTables.toLowercase c ≠ [] ∧
    ∀ d ∈ UnicodeTables.toLowercase c, isWhitespace d = false

section Sigma

variable [UnicodeTables]

/-- The capital sigma at a position of a text ends a word. The characters of `before`
stand in front of the text, in reverse. -/
def FinalSigmaAt (before text : List Char) (position : Nat) : Prop :=
  text[position]? = some 'Σ' ∧
    caseIgnorableThenCased ((text.take position).reverse ++ before) = true ∧
    caseIgnorableThenCased (text.drop (position + 1)) = false

/-- Characters that agree up to case. -/
abbrev SameCase (c d : Char) : Prop := UnicodeTables.toLowercase c = UnicodeTables.toLowercase d

/-- The lowercase form of one character between others. -/
def lowercaseOne (before : List Char) (c : Char) (rest : List Char) : List Char :=
  if c = 'Σ' then [mapUppercaseSigma before rest] else UnicodeTables.toLowercase c

variable {before rest text more blank : List Char} {c : Char} {position : Nat}

theorem lowercaseFrom_cons : lowercaseFrom before (c :: rest) =
    lowercaseOne before c rest ++ lowercaseFrom (c :: before) rest := rfl

theorem mapUppercaseSigma_eq_iff : mapUppercaseSigma before rest = 'ς' ↔
    caseIgnorableThenCased before = true ∧ caseIgnorableThenCased rest = false := by
  have other : ('σ' : Char) ≠ 'ς' := by decide
  simp [mapUppercaseSigma, other]

theorem mapUppercaseSigma_eq_or (before rest : List Char) :
    mapUppercaseSigma before rest = 'ς' ∨ mapUppercaseSigma before rest = 'σ' := by
  simp only [mapUppercaseSigma]
  split
  · exact .inl rfl
  · exact .inr rfl

/-- The rule has two outcomes. -/
theorem mapUppercaseSigma_congr {before' rest' : List Char}
    (final_iff : mapUppercaseSigma before rest = 'ς' ↔ mapUppercaseSigma before' rest' = 'ς') :
    mapUppercaseSigma before rest = mapUppercaseSigma before' rest' := by
  obtain here | here := mapUppercaseSigma_eq_or before rest
  · rw [here, final_iff.mp here]
  · obtain there | there := mapUppercaseSigma_eq_or before' rest'
    · rw [final_iff.mpr there, there]
    · rw [here, there]

theorem finalSigmaAt_zero :
    FinalSigmaAt before (c :: rest) 0 ↔ c = 'Σ' ∧ mapUppercaseSigma before rest = 'ς' := by
  simp [FinalSigmaAt, mapUppercaseSigma_eq_iff]

theorem finalSigmaAt_succ : FinalSigmaAt before (c :: rest) (position + 1) ↔
    FinalSigmaAt (c :: before) rest position := by
  simp [FinalSigmaAt]

theorem not_finalSigmaAt_nil : ¬ FinalSigmaAt before [] position := by
  simp [FinalSigmaAt]

/-- Ignorable characters are looked through. -/
theorem caseIgnorableThenCased_ignorable
    (skipped : ∀ c ∈ text, UnicodeTables.caseIgnorable c = true) :
    caseIgnorableThenCased (text ++ more) = caseIgnorableThenCased more := by
  simp only [caseIgnorableThenCased, List.dropWhile_append_of_pos skipped]

/-- Any other character decides, whatever follows. -/
theorem caseIgnorableThenCased_stopped (stop : ∃ c ∈ text, UnicodeTables.caseIgnorable c ≠ true) :
    caseIgnorableThenCased (text ++ more) = caseIgnorableThenCased text := by
  obtain ⟨c, member, counted⟩ := stop
  simp only [caseIgnorableThenCased, List.dropWhile_append]
  cases found : text.dropWhile UnicodeTables.caseIgnorable with
  | nil => exact absurd (List.dropWhile_eq_nil_iff.mp found c member) counted
  | cons d others => rfl

theorem ignorable_or_stopped (text : List Char) :
    (∀ c ∈ text, UnicodeTables.caseIgnorable c = true) ∨
      ∃ c ∈ text, UnicodeTables.caseIgnorable c ≠ true := by
  by_cases stop : ∃ c ∈ text, UnicodeTables.caseIgnorable c ≠ true
  · exact .inr stop
  · exact .inl (by simpa using stop)

theorem caseIgnorableThenCased_of_ignorable
    (skipped : ∀ c ∈ text, UnicodeTables.caseIgnorable c = true) :
    caseIgnorableThenCased text = false := by
  rw [← List.append_nil text, caseIgnorableThenCased_ignorable skipped]
  rfl

/-- A word that goes on goes on whatever follows. -/
theorem caseIgnorableThenCased_append (goesOn : caseIgnorableThenCased rest = true) :
    caseIgnorableThenCased (rest ++ more) = true := by
  obtain skipped | stop := ignorable_or_stopped rest
  · rw [caseIgnorableThenCased_of_ignorable skipped] at goesOn
    cases goesOn
  · rw [caseIgnorableThenCased_stopped stop, goesOn]

/-- A sigma that is final in spite of what follows is final without it. -/
theorem mapUppercaseSigma_of_append (final : mapUppercaseSigma before (rest ++ more) = 'ς') :
    mapUppercaseSigma before rest = 'ς' := by
  obtain ⟨word, ended⟩ := mapUppercaseSigma_eq_iff.mp final
  refine mapUppercaseSigma_eq_iff.mpr ⟨word, ?_⟩
  by_contra goesOn
  rw [caseIgnorableThenCased_append (Bool.not_eq_false _ ▸ goesOn)] at ended
  cases ended

/-- A text keeps its lowercase form when it is continued, unless a final sigma of it is
final no more. -/
theorem lowercaseFrom_prefix
    (kept : ∀ position, FinalSigmaAt before text position →
      FinalSigmaAt before (text ++ more) position) :
    lowercaseFrom before text <+: lowercaseFrom before (text ++ more) := by
  induction text generalizing before with
  | nil => exact List.nil_prefix
  | cons c rest ih =>
      have same : lowercaseOne before c rest = lowercaseOne before c (rest ++ more) := by
        by_cases sigma : c = 'Σ'
        · rw [lowercaseOne, lowercaseOne, if_pos sigma, if_pos sigma]
          rw [mapUppercaseSigma_congr ⟨?_, mapUppercaseSigma_of_append⟩]
          intro final
          exact (finalSigmaAt_zero.mp (kept 0 (finalSigmaAt_zero.mpr ⟨sigma, final⟩))).2
        · rw [lowercaseOne, lowercaseOne, if_neg sigma, if_neg sigma]
      rw [List.cons_append, lowercaseFrom_cons, lowercaseFrom_cons, same,
        List.prefix_append_right_inj]
      apply ih
      intro position final
      exact finalSigmaAt_succ.mp (kept (position + 1) (finalSigmaAt_succ.mpr final))

/-- One capital sigma in lowercase, between two texts that agree up to case. -/
theorem lowercaseOne_eq_iff {before' rest' : List Char} {d : Char}
    (sigma : UnicodeTables.toLowercase 'Σ' = ['σ']) (same : SameCase c d) :
    lowercaseOne before c rest = lowercaseOne before' d rest' ↔
      (FinalSigmaAt before (c :: rest) 0 ↔ FinalSigmaAt before' (d :: rest') 0) := by
  rw [finalSigmaAt_zero, finalSigmaAt_zero]
  have small : ('σ' : Char) ≠ 'ς' := by decide
  by_cases capital : c = 'Σ' <;> by_cases capital' : d = 'Σ'
  · rw [lowercaseOne, lowercaseOne, if_pos capital, if_pos capital', List.singleton_inj]
    simp only [capital, capital', true_and]
    exact ⟨fun equal => by rw [equal], mapUppercaseSigma_congr⟩
  · subst capital
    obtain here | here := mapUppercaseSigma_eq_or before rest <;>
      simp [lowercaseOne, capital', ← same, sigma, here, small, small.symm]
  · subst capital'
    obtain there | there := mapUppercaseSigma_eq_or before' rest' <;>
      simp [lowercaseOne, capital, same, sigma, there, small]
  · simp [lowercaseOne, capital, capital', same]

theorem length_lowercaseOne (before : List Char) (c : Char) (rest : List Char)
    (sigma : UnicodeTables.toLowercase 'Σ' = ['σ']) :
    (lowercaseOne before c rest).length = (UnicodeTables.toLowercase c).length := by
  by_cases capital : c = 'Σ'
  · simp [lowercaseOne, capital, sigma]
  · simp [lowercaseOne, capital]

/-- Texts that agree up to case have the same lowercase form exactly if they have the
same final sigmas. -/
theorem lowercaseFrom_eq_iff {before' text' : List Char}
    (sigma : UnicodeTables.toLowercase 'Σ' = ['σ']) (variants : List.Forall₂ SameCase text text') :
    lowercaseFrom before text = lowercaseFrom before' text' ↔
      ∀ position, FinalSigmaAt before text position ↔ FinalSigmaAt before' text' position := by
  induction variants generalizing before before' with
  | nil => simp [lowercaseFrom, not_finalSigmaAt_nil]
  | @cons c d rest rest' same _ ih =>
      have lengths : (lowercaseOne before c rest).length = (lowercaseOne before' d rest').length := by
        rw [length_lowercaseOne _ _ _ sigma, length_lowercaseOne _ _ _ sigma, same]
      rw [lowercaseFrom_cons, lowercaseFrom_cons]
      constructor
      · intro equal
        obtain ⟨first, others⟩ := List.append_inj equal lengths
        intro position
        cases position with
        | zero => exact (lowercaseOne_eq_iff sigma same).mp first
        | succ position =>
            rw [finalSigmaAt_succ, finalSigmaAt_succ]
            exact ih.mp others position
      · intro finals
        have first := (lowercaseOne_eq_iff sigma same).mpr (finals 0)
        have others : lowercaseFrom (c :: before) rest = lowercaseFrom (d :: before') rest' := by
          refine ih.mpr fun position => ?_
          rw [← finalSigmaAt_succ, ← finalSigmaAt_succ]
          exact finals (position + 1)
        rw [first, others]

end Sigma

section Blank

variable [UnicodeTables] {before text blank front back : List Char} {c : Char}

theorem caseIgnorableThenCased_blank_cons (laws : LawfulTables) (space : isWhitespace c = true)
    (text : List Char) : caseIgnorableThenCased (c :: text) = false := by
  obtain ⟨_, uncased, seen⟩ := laws.blank c space
  simp [caseIgnorableThenCased, uncased, seen]

/-- White space ends a word on either side. -/
theorem caseIgnorableThenCased_append_blank (laws : LawfulTables)
    (isBlank : Blank isWhitespace blank) (text : List Char) :
    caseIgnorableThenCased (text ++ blank) = caseIgnorableThenCased text := by
  have alone : caseIgnorableThenCased blank = false := by
    cases blank with
    | nil => rfl
    | cons c blank =>
        exact caseIgnorableThenCased_blank_cons laws (isBlank c List.mem_cons_self) blank
  obtain skipped | stop := ignorable_or_stopped text
  · rw [caseIgnorableThenCased_ignorable skipped, caseIgnorableThenCased_of_ignorable skipped, alone]
  · exact caseIgnorableThenCased_stopped stop

/-- White space is its own lowercase form. -/
theorem lowercaseFrom_blank_append (laws : LawfulTables) (isBlank : Blank isWhitespace blank)
    (before text : List Char) :
    lowercaseFrom before (blank ++ text) = blank ++ lowercaseFrom (blank.reverse ++ before) text := by
  induction blank generalizing before with
  | nil => rfl
  | cons c blank ih =>
      have space := isBlank c List.mem_cons_self
      have other : c ≠ 'Σ' := by
        rintro rfl
        exact absurd space (by decide)
      rw [List.cons_append, lowercaseFrom_cons, lowercaseOne, if_neg other, (laws.blank c space).1,
        ih (fun d member => isBlank d (List.mem_cons_of_mem c member))]
      simp

/-- White space around a text does not change how the text is lowercased. -/
theorem lowercaseFrom_append_blank (laws : LawfulTables) (isBlank : Blank isWhitespace front)
    (isBlank' : Blank isWhitespace back) (before text : List Char) :
    lowercaseFrom (before ++ front) (text ++ back) = lowercaseFrom before text ++ back := by
  induction text generalizing before with
  | nil => simpa [lowercaseFrom] using
      lowercaseFrom_blank_append laws isBlank' (before ++ front) []
  | cons c rest ih =>
      have same : lowercaseOne (before ++ front) c (rest ++ back) = lowercaseOne before c rest := by
        simp only [lowercaseOne, mapUppercaseSigma,
          caseIgnorableThenCased_append_blank laws isBlank,
          caseIgnorableThenCased_append_blank laws isBlank']
      rw [List.cons_append, lowercaseFrom_cons, lowercaseFrom_cons, same, List.append_assoc]
      exact congrArg _ (ih (c :: before))

theorem lowercaseFrom_between_blanks (laws : LawfulTables) (isBlank : Blank isWhitespace front)
    (isBlank' : Blank isWhitespace back) :
    lowercaseFrom [] (front ++ text ++ back) = front ++ lowercaseFrom [] text ++ back := by
  have inside := lowercaseFrom_append_blank laws isBlank.reverse isBlank' [] text
  rw [List.append_assoc, lowercaseFrom_blank_append laws isBlank, List.append_nil]
  rw [List.nil_append] at inside
  rw [inside, List.append_assoc]

/-- The lowercase form of a visible character is visible. -/
theorem lowercaseOne_visible (laws : LawfulTables) (visible : isWhitespace c = false)
    (before rest : List Char) :
    lowercaseOne before c rest ≠ [] ∧ ∀ d ∈ lowercaseOne before c rest, isWhitespace d = false := by
  by_cases capital : c = 'Σ'
  · rw [lowercaseOne, if_pos capital]
    refine ⟨List.cons_ne_nil _ _, ?_⟩
    intro d member
    obtain rfl := List.mem_singleton.mp member
    obtain final | inner := mapUppercaseSigma_eq_or before rest
    · rw [final]
      decide
    · rw [inner]
      decide
  · rw [lowercaseOne, if_neg capital]
    exact laws.visible c visible

theorem lowercaseFrom_concat (before text : List Char) (c : Char) :
    ∃ front, lowercaseFrom before (text ++ [c]) =
      front ++ lowercaseOne (text.reverse ++ before) c [] := by
  induction text generalizing before with
  | nil => exact ⟨[], by simp [lowercaseFrom_cons, lowercaseFrom]⟩
  | cons d rest ih =>
      obtain ⟨front, eq⟩ := ih (d :: before)
      refine ⟨lowercaseOne before d (rest ++ [c]) ++ front, ?_⟩
      rw [List.cons_append, lowercaseFrom_cons, eq]
      simp

/-- A text without white space at its ends is lowercased to one without. -/
theorem tight_lowercaseFrom (laws : LawfulTables) (tight : Tight isWhitespace text) :
    Tight isWhitespace (lowercaseFrom [] text) := by
  constructor
  · intro d first
    cases text with
    | nil => cases first
    | cons c rest =>
        obtain ⟨some, visible⟩ := lowercaseOne_visible laws (tight.head c rfl) [] rest
        rw [lowercaseFrom_cons, List.head?_append_of_ne_nil _ some] at first
        exact visible d (List.mem_of_mem_head? first)
  · intro d last
    obtain rfl | ⟨front, c, rfl⟩ := text.eq_nil_or_concat'
    · cases last
    · obtain ⟨start, eq⟩ := lowercaseFrom_concat [] front c
      obtain ⟨some, visible⟩ := lowercaseOne_visible laws (tight.last c List.getLast?_concat)
        (front.reverse ++ []) []
      rw [eq, List.getLast?_append_of_ne_nil _ some] at last
      exact visible d (List.mem_of_mem_getLast? last)

end Blank

section Continued

variable [UnicodeTables] {before rest text more front back : List Char} {c : Char} {position : Nat}

/-- No character of the text can become ς. -/
def Sigmaless (text : List Char) : Prop :=
  ∀ c ∈ text, c ≠ 'Σ' ∧ 'ς' ∉ UnicodeTables.toLowercase c

/-- The text ends with a capital sigma that ends a word, or with one and characters that the
rule skips. -/
def EndsInSigma (text : List Char) : Prop :=
  ∃ front back, text = front ++ 'Σ' :: back ∧ caseIgnorableThenCased front.reverse = true ∧
    ∀ c ∈ back, UnicodeTables.caseIgnorable c = true

/-- A letter that goes on with a word and is no sigma. -/
structure PlainLetter (c : Char) : Prop where
  visible : isWhitespace c = false
  cased : UnicodeTables.cased c = true
  counted : UnicodeTables.caseIgnorable c = false
  sigmaless : Sigmaless [c]

theorem Sigmaless.append (first : Sigmaless text) (second : Sigmaless more) :
    Sigmaless (text ++ more) := by
  intro c member
  exact (List.mem_append.mp member).elim (first c) (second c)

theorem Sigmaless.mono (sigmaless : Sigmaless text) (started : more <+: text) :
    Sigmaless more :=
  fun c member => sigmaless c (started.subset member)

theorem sigmaless_blank (laws : LawfulTables) (isBlank : Blank isWhitespace text) :
    Sigmaless text := by
  intro c member
  have space := isBlank c member
  refine ⟨?_, ?_⟩
  · rintro rfl
    exact absurd space (by decide)
  · rw [(laws.blank c space).1, List.mem_singleton]
    rintro rfl
    exact absurd space (by decide)

theorem count_lowercaseFrom_sigmaless (sigmaless : Sigmaless text) :
    (lowercaseFrom before text).count 'ς' = 0 := by
  induction text generalizing before with
  | nil => rfl
  | cons c rest ih =>
      obtain ⟨other, small⟩ := sigmaless c List.mem_cons_self
      rw [lowercaseFrom_cons, List.count_append, lowercaseOne, if_neg other,
        List.count_eq_zero_of_not_mem small,
        ih fun d member => sigmaless d (List.mem_cons_of_mem c member)]

theorem count_lowercaseOne_append_le (before : List Char) (c : Char) (rest more : List Char) :
    (lowercaseOne before c (rest ++ more)).count 'ς' ≤ (lowercaseOne before c rest).count 'ς' := by
  simp only [lowercaseOne]
  split
  · obtain final | inner := mapUppercaseSigma_eq_or before (rest ++ more)
    · rw [final, mapUppercaseSigma_of_append final]
    · rw [inner]
      exact Nat.zero_le _
  · exact le_rfl

/-- A text that goes on without a sigma gains no ς. -/
theorem count_lowercaseFrom_append_le (sigmaless : Sigmaless more) :
    (lowercaseFrom before (text ++ more)).count 'ς' ≤ (lowercaseFrom before text).count 'ς' := by
  induction text generalizing before with
  | nil => exact (count_lowercaseFrom_sigmaless sigmaless).trans_le (Nat.zero_le _)
  | cons c rest ih =>
      rw [List.cons_append, lowercaseFrom_cons, lowercaseFrom_cons, List.count_append,
        List.count_append]
      exact Nat.add_le_add (count_lowercaseOne_append_le before c rest more) ih

/-- If it loses none either, its final sigmas are still final. -/
theorem finalSigmaAt_append_of_count (sigmaless : Sigmaless more)
    (none_lost : (lowercaseFrom before text).count 'ς' ≤
      (lowercaseFrom before (text ++ more)).count 'ς')
    (final : FinalSigmaAt before text position) : FinalSigmaAt before (text ++ more) position := by
  induction text generalizing before position with
  | nil => exact absurd final not_finalSigmaAt_nil
  | cons c rest ih =>
      have here := count_lowercaseOne_append_le before c rest more
      have later : (lowercaseFrom (c :: before) (rest ++ more)).count 'ς' ≤
          (lowercaseFrom (c :: before) rest).count 'ς' := count_lowercaseFrom_append_le sigmaless
      rw [List.cons_append] at none_lost ⊢
      rw [lowercaseFrom_cons, lowercaseFrom_cons, List.count_append, List.count_append] at none_lost
      cases position with
      | zero =>
          obtain ⟨sigma, ended⟩ := finalSigmaAt_zero.mp final
          refine finalSigmaAt_zero.mpr ⟨sigma, ?_⟩
          have one : (lowercaseOne before c rest).count 'ς' = 1 := by
            rw [lowercaseOne, if_pos sigma, ended]
            rfl
          obtain still | lost := mapUppercaseSigma_eq_or before (rest ++ more)
          · exact still
          · have none : (lowercaseOne before c (rest ++ more)).count 'ς' = 0 := by
              rw [lowercaseOne, if_pos sigma, lost]
              decide
            omega
      | succ position =>
          refine finalSigmaAt_succ.mpr (ih ?_ (finalSigmaAt_succ.mp final))
          omega

theorem finalSigmaAt_append : FinalSigmaAt [] (front ++ 'Σ' :: back) front.length ↔
    caseIgnorableThenCased front.reverse = true ∧ caseIgnorableThenCased back = false := by
  simp [FinalSigmaAt]

theorem FinalSigmaAt.split (final : FinalSigmaAt [] text position) :
    ∃ front back, text = front ++ 'Σ' :: back ∧ position = front.length := by
  obtain ⟨inside, sigma⟩ := List.getElem?_eq_some_iff.mp final.1
  refine ⟨text.take position, text.drop (position + 1), ?_, by simp [inside.le]⟩
  rw [← sigma, List.cons_getElem_drop_succ, List.take_append_drop]

/-- Unless the text ends in its word, a final sigma of its trimming stays one. -/
theorem finalSigmaAt_trim_append (laws : LawfulTables) (bounded : ¬ EndsInSigma text)
    (final : FinalSigmaAt [] (Trim.trim isWhitespace text) position) :
    FinalSigmaAt [] (Trim.trim isWhitespace (text ++ more)) position := by
  obtain ⟨front, back, core, rfl⟩ := final.split
  rw [core, finalSigmaAt_append] at final
  have some : Trim.trim isWhitespace text ≠ [] := by simp [core]
  obtain ⟨rest, continued⟩ := trim_prefix_append isWhitespace text more
  have started := trim_append_prefix isWhitespace more some
  rw [← continued, List.prefix_append_right_inj] at started
  rw [← continued, core, List.append_assoc, List.cons_append, finalSigmaAt_append]
  refine ⟨final.1, ?_⟩
  obtain skipped | stop := ignorable_or_stopped back
  -- The word of this sigma reaches the end of what is left after trimming.
  · rw [caseIgnorableThenCased_ignorable skipped]
    cases trailing : (text.dropWhile isWhitespace).rtakeWhile isWhitespace with
    | nil =>
        have whole := append_trim_append isWhitespace text
        rw [trailing, core, List.append_nil, ← List.append_assoc] at whole
        refine absurd ⟨_, back, whole.symm, ?_, skipped⟩ bounded
        rw [List.reverse_append]
        exact caseIgnorableThenCased_append final.1
    | cons c blanks =>
        cases rest with
        | nil => rfl
        | cons d rest =>
            rw [trailing, List.cons_append, List.cons_prefix_cons] at started
            have member : c ∈ (text.dropWhile isWhitespace).rtakeWhile isWhitespace :=
              trailing ▸ List.mem_cons_self
            rw [started.1]
            exact caseIgnorableThenCased_blank_cons laws (blank_rtakeWhile _ _ c member) rest
  · rw [caseIgnorableThenCased_stopped stop, final.2]

/-- Otherwise the next letter ends that. -/
theorem exists_not_finalSigmaAt_trim (laws : LawfulTables) (ends : EndsInSigma text)
    (plain : PlainLetter c) : ∃ position,
      FinalSigmaAt [] (Trim.trim isWhitespace text) position ∧
        ¬ FinalSigmaAt [] (Trim.trim isWhitespace (text ++ [c])) position := by
  obtain ⟨front, back, rfl, word, skipped⟩ := ends
  have visible : ∀ d ∈ 'Σ' :: back, isWhitespace d = false := by
    intro d member
    obtain rfl | ignorable := List.mem_cons.mp member
    · decide
    · by_contra space
      have counted := (laws.blank d (Bool.not_eq_false _ ▸ space)).2.2
      rw [skipped d ignorable] at counted
      cases counted
  have visible' : ∀ d ∈ 'Σ' :: (back ++ [c]), isWhitespace d = false := by
    intro d member
    rw [← List.cons_append, List.mem_append, List.mem_singleton] at member
    obtain inside | rfl := member
    · exact visible d inside
    · exact plain.visible
  refine ⟨(front.dropWhile isWhitespace).length, ?_, ?_⟩
  · rw [trim_append_visible (List.cons_ne_nil _ _) visible, finalSigmaAt_append]
    constructor
    · rw [← List.takeWhile_append_dropWhile (p := isWhitespace) (l := front), List.reverse_append,
        caseIgnorableThenCased_append_blank laws (blank_takeWhile _ _).reverse] at word
      exact word
    · exact caseIgnorableThenCased_of_ignorable skipped
  · rw [List.append_assoc, List.cons_append, trim_append_visible (List.cons_ne_nil _ _) visible',
      finalSigmaAt_append, caseIgnorableThenCased_ignorable skipped]
    rintro ⟨_, ended⟩
    simp [caseIgnorableThenCased, plain.cased, plain.counted] at ended

end Continued

section Variants

variable [UnicodeTables] {s t : String}

/-- Texts of one length that agree, character by character, up to case. -/
def CaseVariants (s t : String) : Prop := List.Forall₂ SameCase s.toList t.toList

/-- The capital sigmas that end a word stand at the same positions of both texts. -/
def SameFinalSigmas (s t : String) : Prop :=
  ∀ position, FinalSigmaAt [] s.toList position ↔ FinalSigmaAt [] t.toList position

omit [UnicodeTables] in
theorem toList_trim : (trim s).toList = Trim.trim isWhitespace s.toList := String.toList_ofList

theorem toList_toLowercase : (toLowercase s).toList = lowercaseFrom [] s.toList := String.toList_ofList

theorem toLowercase_inj_iff :
    toLowercase s = toLowercase t ↔ lowercaseFrom [] s.toList = lowercaseFrom [] t.toList := by
  rw [← String.toList_inj, toList_toLowercase, toList_toLowercase]

/-- Characters that agree up to case are both white space or neither. -/
theorem LawfulTables.isWhitespace_eq (laws : LawfulTables) {c d : Char} (same : SameCase c d) :
    isWhitespace c = isWhitespace d := by
  cases space : isWhitespace c <;> cases space' : isWhitespace d
  · rfl
  · have visible := (laws.visible c space).2 d (by simp [same, (laws.blank d space').1])
    rw [visible] at space'
    cases space'
  · have visible := (laws.visible d space').2 c (by simp [← same, (laws.blank c space).1])
    rw [visible] at space
    cases space
  · rfl

/-- White space that agrees up to case is the same. -/
theorem eq_of_blank (laws : LawfulTables) {blank blank' : List Char}
    (isBlank : Blank isWhitespace blank) (variants : List.Forall₂ SameCase blank blank') :
    blank = blank' := by
  induction variants with
  | nil => rfl
  | @cons c d blank blank' same _ ih =>
      have space := isBlank c List.mem_cons_self
      have space' : isWhitespace d = true := laws.isWhitespace_eq same ▸ space
      have image : [c] = [d] := by rw [← (laws.blank c space).1, same, (laws.blank d space').1]
      rw [(List.cons.inj image).1, ih fun e member => isBlank e (List.mem_cons_of_mem c member)]

theorem length_lowercaseFrom (laws : LawfulTables) {text text' : List Char}
    (variants : List.Forall₂ SameCase text text') (before before' : List Char) :
    (lowercaseFrom before text).length = (lowercaseFrom before' text').length := by
  induction variants generalizing before before' with
  | nil => rfl
  | @cons c d rest rest' same _ ih =>
      rw [lowercaseFrom_cons, lowercaseFrom_cons, List.length_append, List.length_append,
        length_lowercaseOne _ _ _ laws.sigma, length_lowercaseOne _ _ _ laws.sigma, same,
        ih (c :: before) (d :: before')]

theorem toLowercase_eq_iff (laws : LawfulTables) (variants : CaseVariants s t) :
    toLowercase s = toLowercase t ↔ SameFinalSigmas s t := by
  rw [toLowercase_inj_iff]
  exact lowercaseFrom_eq_iff laws.sigma variants

/-- The lowercase form of a text is that of its trimming between the same white space. -/
theorem lowercaseFrom_trim (laws : LawfulTables) (text : List Char) :
    lowercaseFrom [] text = text.takeWhile isWhitespace ++
      lowercaseFrom [] (Trim.trim isWhitespace text) ++
      (text.dropWhile isWhitespace).rtakeWhile isWhitespace := by
  rw [← lowercaseFrom_between_blanks laws (blank_takeWhile _ _) (blank_rtakeWhile _ _),
    append_trim_append]

/-- Trimming loses no difference in case. -/
theorem toLowercase_trim_eq_iff (laws : LawfulTables) (variants : CaseVariants s t) :
    toLowercase (trim s) = toLowercase (trim t) ↔ SameFinalSigmas s t := by
  have respects : ∀ c d, SameCase c d → isWhitespace c = isWhitespace d :=
    fun _ _ => laws.isWhitespace_eq
  have front : s.toList.takeWhile isWhitespace = t.toList.takeWhile isWhitespace :=
    eq_of_blank laws (blank_takeWhile _ _) (forall₂_takeWhile respects variants)
  have back : (s.toList.dropWhile isWhitespace).rtakeWhile isWhitespace =
      (t.toList.dropWhile isWhitespace).rtakeWhile isWhitespace :=
    eq_of_blank laws (blank_rtakeWhile _ _)
      (forall₂_rtakeWhile respects (forall₂_dropWhile respects variants))
  rw [← toLowercase_eq_iff laws variants, toLowercase_inj_iff, toLowercase_inj_iff, toList_trim,
    toList_trim, lowercaseFrom_trim laws s.toList, lowercaseFrom_trim laws t.toList, front, back,
    List.append_cancel_right_eq, List.append_cancel_left_eq]

/-- A text contains its trimming in lowercase as well. -/
theorem contains_toLowercase_trim (laws : LawfulTables) (s : String) :
    contains (toLowercase s) (toLowercase (trim s)) = true := by
  rw [contains, toList_toLowercase, toList_toLowercase, toList_trim, lowercaseFrom_trim laws s.toList]
  exact decide_eq_true (List.infix_append _ _ _)

/-- A text that contains the trimming of one of its case variants, both in lowercase,
contains its own there. -/
theorem toLowercase_trim_eq_of_contains (laws : LawfulTables) (variants : CaseVariants s t)
    (found : contains (toLowercase t) (toLowercase (trim s)) = true) :
    toLowercase (trim s) = toLowercase (trim t) := by
  rw [contains, toList_toLowercase, toList_toLowercase, toList_trim, decide_eq_true_eq,
    lowercaseFrom_trim laws t.toList] at found
  rw [toLowercase_inj_iff, toList_trim, toList_trim]
  apply (tight_lowercaseFrom laws (tight_trim _ _)).eq_of_within (blank_takeWhile _ _)
    (blank_rtakeWhile _ _) found
  exact length_lowercaseFrom laws (forall₂_trim (fun _ _ => laws.isWhitespace_eq) variants) [] []

end Variants

section Greek

/-- The capitals of ASCII and of unaccented Greek, each 32 below its small letter. -/
def isCapital (c : Char) : Bool :=
  (0x41 ≤ c.toNat && c.toNat ≤ 0x5A) ||
    (0x391 ≤ c.toNat && c.toNat ≤ 0x3A9 && c.toNat ≠ 0x3A2)

/-- The tables on ASCII and unaccented Greek text. -/
@[reducible] def UnicodeTables.greek : UnicodeTables where
  toLowercase c := if isCapital c then [Char.ofNat (c.toNat + 32)] else [c]
  cased c := isCapital c || (0x61 ≤ c.toNat && c.toNat ≤ 0x7A) ||
    (0x3B1 ≤ c.toNat && c.toNat ≤ 0x3C9)
  caseIgnorable c := [0x27, 0x2E, 0x3A, 0x5E, 0x60].contains c.toNat
  debugEscaped c := c.toNat < 0x20 || c.toNat = 0x7F

theorem toNat_ofNat {n : Nat} (valid : n < 0xD800) : (Char.ofNat n).toNat = n := by
  have scalar : n.isValidChar := .inl valid
  rw [Char.ofNat, dif_pos scalar]
  rfl

theorem lawfulTables_greek : @LawfulTables .greek := by
  have lowercase (c : Char) : UnicodeTables.greek.toLowercase c =
      if isCapital c then [Char.ofNat (c.toNat + 32)] else [c] := rfl
  refine @LawfulTables.mk .greek rfl ?_ ?_
  · intro c space
    simp only [isWhitespace, Bool.or_eq_true, Bool.and_eq_true, decide_eq_true_eq] at space
    have small : isCapital c = false := by
      simp [isCapital]
      omega
    refine ⟨?_, ?_, ?_⟩
    · rw [lowercase, small]
      rfl
    · change (isCapital c || (0x61 ≤ c.toNat && c.toNat ≤ 0x7A) ||
        (0x3B1 ≤ c.toNat && c.toNat ≤ 0x3C9)) = false
      simp [small]
      omega
    · change [0x27, 0x2E, 0x3A, 0x5E, 0x60].contains c.toNat = false
      simp
      omega
  · intro c visible
    rw [lowercase]
    by_cases capital : isCapital c = true
    · rw [if_pos capital]
      refine ⟨List.cons_ne_nil _ _, ?_⟩
      intro d member
      obtain rfl := List.mem_singleton.mp member
      simp only [isCapital, Bool.or_eq_true, Bool.and_eq_true, decide_eq_true_eq] at capital
      simp only [isWhitespace, toNat_ofNat (n := c.toNat + 32) (by omega)]
      simp
      omega
    · rw [if_neg capital]
      refine ⟨List.cons_ne_nil _ _, ?_⟩
      intro d member
      obtain rfl := List.mem_singleton.mp member
      exact visible

end Greek

end Rust
