import Mathlib.Data.List.DropRight
import Mathlib.Data.List.Forall2
import Mathlib.Data.List.Infix

/-!
# Trimming both ends of a list

`trim p` removes the longest ends on which `p` holds. What is left is `Tight`, and a
tight list inside another one stays inside when that one is trimmed. Lists that are
pairwise related are trimmed at the same places, if the relation respects `p`.
-/

namespace Trim

variable {α β : Type*} {p : α → Bool} {q : β → Bool} {xs ys core front back : List α}

/-- What is left of a list when both ends are removed as far as `p` holds. -/
def trim (p : α → Bool) (xs : List α) : List α := (xs.dropWhile p).rdropWhile p

/-- Neither end can be removed. -/
structure Tight (p : α → Bool) (xs : List α) : Prop where
  head : ∀ x ∈ xs.head?, p x = false
  last : ∀ x ∈ xs.getLast?, p x = false

/-- Everywhere `p` holds. -/
def Blank (p : α → Bool) (xs : List α) : Prop := ∀ x ∈ xs, p x = true

theorem Blank.reverse (blank : Blank p xs) : Blank p xs.reverse :=
  fun x member => blank x (List.mem_reverse.mp member)

theorem blank_takeWhile (p : α → Bool) (xs : List α) : Blank p (xs.takeWhile p) :=
  fun _ member => List.mem_takeWhile_imp member

/-- A list is its trimming between two blank ends. -/
theorem append_trim_append (p : α → Bool) (xs : List α) :
    xs.takeWhile p ++ trim p xs ++ (xs.dropWhile p).rtakeWhile p = xs := by
  rw [trim, List.append_assoc, List.rdropWhile_append_rtakeWhile, List.takeWhile_append_dropWhile]

theorem blank_rtakeWhile (p : α → Bool) (xs : List α) : Blank p (xs.rtakeWhile p) :=
  fun _ member => List.mem_rtakeWhile_imp member

theorem rdropWhile_prefix_append (p : α → Bool) (xs ys : List α) :
    xs.rdropWhile p <+: (xs ++ ys).rdropWhile p := by
  rw [← List.reverse_suffix, List.rdropWhile, List.rdropWhile, List.reverse_reverse,
    List.reverse_reverse, List.reverse_append, List.dropWhile_append]
  split
  · exact List.suffix_rfl
  · exact (List.dropWhile_suffix p).trans (List.suffix_append _ _)

/-- What is appended to a list cannot shorten its trimming. -/
theorem trim_prefix_append (p : α → Bool) (xs ys : List α) : trim p xs <+: trim p (xs ++ ys) := by
  rw [trim, trim, List.dropWhile_append]
  split
  · rename_i empty
    rw [List.isEmpty_iff.mp empty]
    exact List.nil_prefix
  · exact rdropWhile_prefix_append p _ _

/-- What is left of a list stays in front when the list goes on, with nothing between. -/
theorem trim_append_prefix (p : α → Bool) (ys : List α) (some : trim p xs ≠ []) :
    trim p (xs ++ ys) <+: trim p xs ++ ((xs.dropWhile p).rtakeWhile p ++ ys) := by
  have kept : xs.dropWhile p ≠ [] := by
    intro dropped
    rw [trim, dropped, List.rdropWhile_nil] at some
    exact some rfl
  rw [← List.append_assoc, trim, trim, List.rdropWhile_append_rtakeWhile, List.dropWhile_append,
    if_neg (mt List.isEmpty_iff.mp kept)]
  exact List.rdropWhile_prefix p _

/-- Nothing is removed behind what stays. -/
theorem trim_append_visible (some : core ≠ []) (visible : ∀ x ∈ core, p x = false) :
    trim p (xs ++ core) = xs.dropWhile p ++ core := by
  obtain ⟨x, rest, rfl⟩ := List.exists_cons_of_ne_nil some
  have dropped : (xs ++ x :: rest).dropWhile p = xs.dropWhile p ++ x :: rest := by
    rw [List.dropWhile_append]
    split
    · rename_i empty
      rw [List.isEmpty_iff.mp empty, List.dropWhile_cons, visible x List.mem_cons_self]
      rfl
    · rfl
  rw [trim, dropped, List.rdropWhile_eq_self_iff]
  intro nonempty
  rw [List.getLast_append_of_ne_nil _ some, visible _ (List.getLast_mem some)]
  exact Bool.false_ne_true

theorem not_of_head?_dropWhile {x : α} (first : x ∈ (xs.dropWhile p).head?) : p x = false := by
  have stopped := List.head?_dropWhile_not p xs
  rw [Option.mem_def.mp first] at stopped
  exact stopped

theorem tight_trim (p : α → Bool) (xs : List α) : Tight p (trim p xs) := by
  constructor
  · intro x first
    obtain ⟨rest, started⟩ : trim p xs <+: xs.dropWhile p := List.rdropWhile_prefix p _
    refine not_of_head?_dropWhile (?_ : x ∈ (xs.dropWhile p).head?)
    rw [← started]
    exact List.mem_head?_append_of_mem_head? first
  · intro x last
    rw [trim, List.rdropWhile, List.getLast?_reverse] at last
    exact not_of_head?_dropWhile last

/-- A tight list inside another one stays inside when that one is trimmed. -/
theorem Tight.infix_trim (tight : Tight p core) (within : core <:+: xs) : core <:+: trim p xs := by
  obtain ⟨front, back, rfl⟩ := within
  cases core with
  | nil => exact List.nil_infix
  | cons c core =>
      have first : p c = false := tight.head c rfl
      obtain ⟨front', dropped⟩ : ∃ front', (front ++ (c :: core) ++ back).dropWhile p =
          front' ++ ((c :: core) ++ back) := by
        rw [List.append_assoc, List.dropWhile_append]
        split
        · exact ⟨[], by simp [first]⟩
        · exact ⟨_, rfl⟩
      have whole : (front' ++ (c :: core)).rdropWhile p = front' ++ (c :: core) := by
        rw [List.rdropWhile_eq_self_iff]
        intro nonempty
        have last := tight.last _ (List.getLast?_eq_getLast_of_ne_nil (List.cons_ne_nil c core))
        simp [last]
      have kept := rdropWhile_prefix_append p (front' ++ (c :: core)) back
      rw [whole] at kept
      rw [trim, dropped, ← List.append_assoc]
      exact (List.suffix_append front' (c :: core)).isInfix.trans kept.isInfix

theorem rdropWhile_append_blank (after : Blank p back) :
    (xs ++ back).rdropWhile p = xs.rdropWhile p := by
  rw [List.rdropWhile, List.reverse_append, List.dropWhile_append_of_pos after.reverse]
  rfl

/-- Blank ends are removed. -/
theorem trim_blank_append_blank (before : Blank p front) (after : Blank p back) :
    trim p (front ++ xs ++ back) <:+: xs := by
  rw [trim, List.append_assoc, List.dropWhile_append_of_pos before, List.dropWhile_append]
  split
  · rw [List.dropWhile_eq_nil_iff.mpr after, List.rdropWhile_nil]
    exact List.nil_infix
  · rw [rdropWhile_append_blank after]
    exact (List.rdropWhile_prefix p _).isInfix.trans (List.dropWhile_suffix p).isInfix

/-- A tight list inside another one of its length between blank ends is that one. -/
theorem Tight.eq_of_within (tight : Tight p core) (before : Blank p front) (after : Blank p back)
    (within : core <:+: front ++ xs ++ back) (length : core.length = xs.length) : core = xs :=
  ((tight.infix_trim within).trans (trim_blank_append_blank before after)).eq_of_length length

section Related

variable {R : α → β → Prop} {zs : List β}

theorem forall₂_takeWhile (respects : ∀ x z, R x z → p x = q z) (related : List.Forall₂ R xs zs) :
    List.Forall₂ R (xs.takeWhile p) (zs.takeWhile q) := by
  induction related with
  | nil => exact .nil
  | @cons x z xs zs same rest ih =>
      rw [List.takeWhile_cons, List.takeWhile_cons, respects x z same]
      split
      · exact .cons same ih
      · exact .nil

theorem forall₂_dropWhile (respects : ∀ x z, R x z → p x = q z) (related : List.Forall₂ R xs zs) :
    List.Forall₂ R (xs.dropWhile p) (zs.dropWhile q) := by
  induction related with
  | nil => exact .nil
  | @cons x z xs zs same rest ih =>
      rw [List.dropWhile_cons, List.dropWhile_cons, respects x z same]
      split
      · exact ih
      · exact .cons same rest

theorem forall₂_trim (respects : ∀ x z, R x z → p x = q z) (related : List.Forall₂ R xs zs) :
    List.Forall₂ R (trim p xs) (trim q zs) := by
  have dropped := forall₂_dropWhile respects related
  exact List.rel_reverse (forall₂_dropWhile respects (List.rel_reverse dropped))

theorem forall₂_rtakeWhile (respects : ∀ x z, R x z → p x = q z) (related : List.Forall₂ R xs zs) :
    List.Forall₂ R (xs.rtakeWhile p) (zs.rtakeWhile q) :=
  List.rel_reverse (forall₂_takeWhile respects (List.rel_reverse related))

end Related

end Trim
