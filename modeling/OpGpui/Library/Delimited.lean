import Mathlib.Data.List.Basic

/-!
# Lists divided by a separator

`List.splitOn` divides a list at every separator and `splitOnce` at the first
one. Joining pieces that avoid the separator is uniquely decodable, which
`splitOn_eq_iff` and `splitOnce_eq_some_iff` state as equivalences: a proof about
a concatenated text names its pieces and never follows the scan.
-/

namespace Delimited

variable {α : Type*} [DecidableEq α] {a b : α} {xs ys : List α}

/-- Divide at the first separator; `none` when there is none. -/
def splitOnce (a : α) : List α → Option (List α × List α)
  | [] => none
  | x :: xs => if x = a then some ([], xs) else (splitOnce a xs).map fun (ys, zs) => (x :: ys, zs)

@[simp] theorem splitOnce_eq_none_iff : splitOnce a xs = none ↔ a ∉ xs := by
  induction xs with
  | nil => simp [splitOnce]
  | cons x xs ih =>
      by_cases h : x = a
      · simp [splitOnce, h]
      · simp [splitOnce, h, ih, Ne.symm h]

theorem splitOnce_append_cons (fresh : a ∉ xs) : splitOnce a (xs ++ a :: ys) = some (xs, ys) := by
  induction xs with
  | nil => simp [splitOnce]
  | cons x xs ih =>
      simp only [List.mem_cons, not_or] at fresh
      simp [splitOnce, Ne.symm fresh.1, ih fresh.2]

theorem splitOnce_eq_some_iff {zs : List α} :
    splitOnce a zs = some (xs, ys) ↔ a ∉ xs ∧ zs = xs ++ a :: ys := by
  constructor
  · intro h
    induction zs generalizing xs with
    | nil => simp [splitOnce] at h
    | cons z zs ih =>
        by_cases same : z = a
        · simp only [splitOnce, same, if_true, Option.some.injEq, Prod.mk.injEq] at h
          obtain ⟨rfl, rfl⟩ := h
          simp [same]
        · simp only [splitOnce, same, if_false] at h
          obtain ⟨⟨front, back⟩, found, eq⟩ := Option.map_eq_some_iff.mp h
          obtain ⟨rfl, rfl⟩ := Prod.mk.inj eq
          obtain ⟨fresh, rfl⟩ := ih found
          exact ⟨by simp [Ne.symm same, fresh], rfl⟩
  · rintro ⟨fresh, rfl⟩
    exact splitOnce_append_cons fresh

/-- The pieces of a division avoid the separator. -/
theorem not_mem_of_mem_splitOn {piece : List α} (h : piece ∈ xs.splitOn a) : a ∉ piece := by
  induction xs generalizing piece with
  | nil =>
      simp only [List.splitOn_nil, List.mem_singleton] at h
      simp [h]
  | cons x xs ih =>
      rw [List.splitOn_cons_eq_if_modifyHead] at h
      split at h
      · obtain rfl | rest := List.mem_cons.mp h
        · simp
        · exact ih rest
      · rename_i other
        cases pieces : xs.splitOn a with
        | nil => exact absurd pieces (List.splitOn_ne_nil a xs)
        | cons first rest =>
            rw [pieces] at h ih
            obtain rfl | later := List.mem_cons.mp h
            · have ne : x ≠ a := by simpa using other
              simpa [Ne.symm ne] using ih (List.mem_cons_self ..)
            · exact ih (List.mem_cons_of_mem _ later)

/-- Division inverts joining, and nothing else divides into these pieces. -/
theorem splitOn_eq_iff {pieces : List (List α)} :
    xs.splitOn a = pieces ↔
      pieces ≠ [] ∧ (∀ piece ∈ pieces, a ∉ piece) ∧ xs = [a].intercalate pieces := by
  constructor
  · rintro rfl
    exact ⟨List.splitOn_ne_nil a xs, fun _ => not_mem_of_mem_splitOn,
      (List.intercalate_splitOn a).symm⟩
  · rintro ⟨some, fresh, rfl⟩
    exact List.splitOn_intercalate a fresh some

omit [DecidableEq α] in
/-- A separator that stands in no piece stands in the joined list only if it is
the joining one. -/
theorem mem_intercalate {pieces : List (List α)} :
    b ∈ [a].intercalate pieces ↔
      (b = a ∧ 2 ≤ pieces.length) ∨ ∃ piece ∈ pieces, b ∈ piece := by
  induction pieces with
  | nil => simp
  | cons first rest ih =>
      cases rest with
      | nil => simp
      | cons second rest =>
          rw [List.intercalate_cons_cons]
          simp only [List.mem_append, List.mem_singleton, ih]
          simp only [List.mem_cons, List.length_cons]
          grind

omit [DecidableEq α] in
/-- A joined pair has a second reading exactly where the separator also stands inside
one of its parts. -/
theorem append_cons_eq_append_cons_iff {zs ws : List α} :
    xs ++ a :: ys = zs ++ a :: ws ↔ (xs = zs ∧ ys = ws) ∨
      (∃ middle, zs = xs ++ a :: middle ∧ ys = middle ++ a :: ws) ∨
      ∃ middle, xs = zs ++ a :: middle ∧ ws = middle ++ a :: ys := by
  rw [List.append_eq_append_iff]
  constructor
  · rintro (⟨gap, rfl, eq⟩ | ⟨gap, rfl, eq⟩)
    · cases gap with
      | nil => exact .inl ⟨by simp, (List.cons.inj eq).2⟩
      | cons b middle =>
          obtain ⟨rfl, rfl⟩ := List.cons.inj eq
          exact .inr (.inl ⟨middle, rfl, rfl⟩)
    · cases gap with
      | nil => exact .inl ⟨by simp, (List.cons.inj eq).2.symm⟩
      | cons b middle =>
          obtain ⟨rfl, rfl⟩ := List.cons.inj eq
          exact .inr (.inr ⟨middle, rfl, rfl⟩)
  · rintro (⟨rfl, rfl⟩ | ⟨middle, rfl, rfl⟩ | ⟨middle, rfl, rfl⟩)
    · exact .inl ⟨[], by simp⟩
    · exact .inl ⟨a :: middle, rfl, rfl⟩
    · exact .inr ⟨a :: middle, rfl, rfl⟩

end Delimited
