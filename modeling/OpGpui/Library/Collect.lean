import Mathlib.Data.List.Forall2
import Mathlib.Tactic.Common

/-!
# Collecting fallible results

A traversal that stops at its first failure succeeds exactly when every element
does. `mapM_eq_ok_iff` pairs the elements with what was collected for them, which
is how a caller learns something about every element of a list it received whole.
-/

namespace Collect

variable {ε α β : Type} {xs : List α} {ys : List β}

/-- What was collected stands against the elements one by one. -/
theorem mapM_eq_ok_iff {f : α → Except ε β} :
    xs.mapM f = .ok ys ↔ List.Forall₂ (fun x y => f x = .ok y) xs ys := by
  induction xs generalizing ys with
  | nil => simp [pure, Except.pure, eq_comm]
  | cons x xs ih =>
      rw [List.mapM_cons, List.forall₂_cons_left_iff]
      constructor
      · intro collected
        cases head : f x with
        | error error => simp [head, bind, Except.bind] at collected
        | ok y =>
            cases rest : xs.mapM f with
            | error error => simp [head, rest, bind, Except.bind] at collected
            | ok zs =>
                refine ⟨y, zs, rfl, ih.mp rest, ?_⟩
                simpa [head, rest, bind, Except.bind, pure, Except.pure, eq_comm] using collected
      · rintro ⟨y, zs, head, rest, rfl⟩
        simp [head, ih.mpr rest, bind, Except.bind, pure, Except.pure]

theorem exists_of_mem_right {R : α → β → Prop} (pairs : List.Forall₂ R xs ys) {y : β}
    (member : y ∈ ys) : ∃ x ∈ xs, R x y := by
  induction pairs with
  | nil => cases member
  | cons head _ ih =>
      obtain rfl | later := List.mem_cons.mp member
      · exact ⟨_, .head _, head⟩
      · obtain ⟨x, inside, related⟩ := ih later
        exact ⟨x, .tail _ inside, related⟩

theorem exists_mapM_eq_ok_iff {f : α → Except ε β} :
    (∃ ys, xs.mapM f = .ok ys) ↔ ∀ x ∈ xs, ∃ y, f x = .ok y := by
  constructor
  · rintro ⟨ys, collected⟩
    have pairs := mapM_eq_ok_iff.mp collected
    clear collected
    induction pairs with
    | nil => simp
    | @cons x y xs ys head _ ih => simpa using ⟨⟨y, head⟩, ih⟩
  · intro each
    induction xs with
    | nil => exact ⟨[], rfl⟩
    | cons x xs ih =>
        obtain ⟨y, head⟩ := each x (.head _)
        obtain ⟨ys, rest⟩ := ih fun z member => each z (.tail _ member)
        exact ⟨y :: ys, mapM_eq_ok_iff.mpr (.cons head (mapM_eq_ok_iff.mp rest))⟩

theorem forM_eq_ok_iff {f : α → Except ε PUnit} :
    xs.forM f = .ok () ↔ ∀ x ∈ xs, f x = .ok () := by
  induction xs with
  | nil => simp [pure, Except.pure]
  | cons x xs ih =>
      simp only [List.forM_eq_forM, List.forM_cons, List.mem_cons, forall_eq_or_imp] at ih ⊢
      cases f x with
      | error error => simp [bind, Except.bind]
      | ok _ => simpa [bind, Except.bind] using ih

theorem exists_of_forM_eq_error {f : α → Except ε PUnit} {error : ε}
    (failed : xs.forM f = .error error) : ∃ x ∈ xs, f x = .error error := by
  induction xs with
  | nil => cases failed
  | cons x xs ih =>
      simp only [List.forM_eq_forM, List.forM_cons] at ih failed
      cases check : f x with
      | error other =>
          obtain rfl : other = error := by simpa [check, bind, Except.bind] using failed
          exact ⟨x, .head _, check⟩
      | ok _ =>
          obtain ⟨y, member, same⟩ := ih (by simpa [check, bind, Except.bind] using failed)
          exact ⟨y, .tail _ member, same⟩

theorem forall₂_of_mapM_eq_some {f : α → Option β} (read : xs.mapM f = some ys) :
    List.Forall₂ (fun x y => f x = some y) xs ys := by
  induction xs generalizing ys with
  | nil =>
      obtain rfl : [] = ys := Option.some.inj read
      exact .nil
  | cons x xs ih =>
      rw [List.mapM_cons] at read
      obtain ⟨y, head, read⟩ := Option.bind_eq_some_iff.mp read
      obtain ⟨zs, rest, read⟩ := Option.bind_eq_some_iff.mp read
      obtain rfl := Option.some.inj read
      exact .cons head (ih rest)

/-- A list is collected from what it was printed from, element by element. -/
theorem mapM_eq_some_iff {f : α → Option β} {print : β → α}
    (inverse : ∀ x y, f x = some y ↔ x = print y) : xs.mapM f = some ys ↔ xs = ys.map print := by
  induction xs generalizing ys with
  | nil => cases ys <;> simp
  | cons x xs ih =>
      simp only [List.mapM_cons, Option.bind_eq_bind, Option.bind_eq_some_iff, inverse, ih,
        Option.pure_def, Option.some.injEq]
      constructor
      · rintro ⟨y, rfl, zs, rfl, rfl⟩
        rfl
      · intro printed
        cases ys with
        | nil => cases printed
        | cons y ys =>
            obtain ⟨rfl, rfl⟩ := List.cons.inj printed
            exact ⟨y, rfl, ys, rfl, rfl⟩

theorem exists_mapM_eq_some {f : α → Option β} (each : ∀ x ∈ xs, ∃ y, f x = some y) :
    ∃ ys, xs.mapM f = some ys := by
  induction xs with
  | nil => exact ⟨[], rfl⟩
  | cons x xs ih =>
      obtain ⟨y, head⟩ := each x (.head _)
      obtain ⟨ys, rest⟩ := ih fun z member => each z (.tail _ member)
      exact ⟨y :: ys, by simp [head, rest]⟩

theorem mapError_map_eq_ok_iff {δ : Type} {result : Except ε α} {f : α → β} {g : ε → δ} {value : β} :
    (result.map f).mapError g = .ok value ↔ ∃ a, result = .ok a ∧ f a = value := by
  cases result <;> simp [Except.map, Except.mapError]

end Collect
