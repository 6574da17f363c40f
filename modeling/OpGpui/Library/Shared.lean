import Mathlib.Data.List.Perm.Basic

/-!
# Shared values and weak references

A heap of values that are shared by counting their owners. A cell lives as long as its
strong count is positive; the address of a cell may be kept without owning it, and
`upgrade` makes an owner of such a weak reference while the cell lives. Addresses are
never used again, because a weak reference keeps its cell allocated.

`Counted` says what the counts mean: they are the numbers of owners. Every operation
keeps it, and under it a reference can be upgraded exactly while somebody owns the cell.
-/

namespace Shared

/-- A shared value with its strong count. -/
structure Cell (α : Type*) where
  value : α
  strong : Nat

/-- All cells ever allocated, in order; the address of a cell is its place. -/
structure Heap (α : Type*) where
  cells : List (Cell α)

namespace Heap

variable {α : Type*} {heap after : Heap α} {owners rest : List Nat} {address other : Nat} {value : α}

def empty : Heap α := ⟨[]⟩

/-- How many cells were ever allocated. -/
def size (heap : Heap α) : Nat := heap.cells.length

/-- The strong count of a cell. -/
def strong (heap : Heap α) (address : Nat) : Nat := (heap.cells[address]?.map Cell.strong).getD 0

/-- Change the strong count of a cell. -/
def count (heap : Heap α) (address : Nat) (change : Nat → Nat) : Heap α :=
  ⟨heap.cells.modify address fun cell => { cell with strong := change cell.strong }⟩

/-- Allocate a cell with one owner. -/
def new (heap : Heap α) (value : α) : Nat × Heap α :=
  (heap.size, ⟨heap.cells ++ [⟨value, 1⟩]⟩)

/-- One more owner of a cell, if the cell lives. -/
def upgrade (heap : Heap α) (address : Nat) : Option (Heap α) :=
  if heap.strong address = 0 then none else some (heap.count address (· + 1))

/-- One owner less. -/
def drop (heap : Heap α) (address : Nat) : Heap α := heap.count address (· - 1)

/-- Changing the count of a cell that was allocated, or in a way that keeps zero. -/
theorem strong_count (heap : Heap α) (address : Nat) (change : Nat → Nat)
    (kept : address < heap.size ∨ change 0 = 0) (other : Nat) :
    (heap.count address change).strong other =
      if address = other then change (heap.strong other) else heap.strong other := by
  simp only [strong, count, List.getElem?_modify]
  cases found : heap.cells[other]? with
  | none =>
      by_cases same : address = other
      · have outside : ¬ address < heap.size := by
          rw [same]
          exact Nat.not_lt_of_le (List.getElem?_eq_none_iff.mp found)
        simp [same, kept.resolve_left outside]
      · simp [same]
  | some cell => by_cases same : address = other <;> simp [same]

theorem strong_new (heap : Heap α) (value : α) (other : Nat) :
    (heap.new value).2.strong other = if heap.size = other then 1 else heap.strong other := by
  simp only [strong, new]
  obtain before | same | after := Nat.lt_trichotomy other heap.size
  · rw [List.getElem?_append_left before, if_neg (Nat.ne_of_gt before)]
  · rw [if_pos same.symm, same, size, List.getElem?_concat_length]
    rfl
  · have longer : (heap.cells ++ [(⟨value, 1⟩ : Cell α)]).length ≤ other := by
      rw [List.length_append]
      exact after
    rw [List.getElem?_eq_none longer, List.getElem?_eq_none (Nat.le_of_lt after),
      if_neg (Nat.ne_of_lt after)]

theorem lt_size_of_strong (alive : heap.strong address ≠ 0) : address < heap.size := by
  by_contra outside
  exact alive (by simp [strong, List.getElem?_eq_none (Nat.le_of_not_lt outside)])

@[simp] theorem size_count (heap : Heap α) (address : Nat) (change : Nat → Nat) :
    (heap.count address change).size = heap.size := by
  simp [size, count]

theorem size_upgrade (upgraded : heap.upgrade address = some after) : after.size = heap.size := by
  simp only [upgrade, Option.ite_none_left_eq_some, Option.some.injEq] at upgraded
  obtain ⟨_, rfl⟩ := upgraded
  exact heap.size_count _ _

@[simp] theorem size_drop (heap : Heap α) (address : Nat) : (heap.drop address).size = heap.size :=
  heap.size_count _ _

@[simp] theorem size_new (heap : Heap α) (value : α) :
    (heap.new value).2.size = heap.size + 1 := by
  simp [size, new]

/-- The strong count of every cell is the number of its owners. -/
def Counted (heap : Heap α) (owners : List Nat) : Prop :=
  ∀ address, heap.strong address = owners.count address

namespace Counted

theorem empty : Counted (empty : Heap α) [] := fun _ => rfl

theorem new (counted : Counted heap owners) (value : α) :
    Counted (heap.new value).2 (heap.size :: owners) := by
  intro other
  rw [strong_new, List.count_cons, ← counted other]
  by_cases same : heap.size = other
  · have fresh : heap.strong other = 0 := by
      by_contra alive
      exact absurd (lt_size_of_strong alive) (by omega)
    simp [same, fresh]
  · simp [same]

theorem upgrade (counted : Counted heap owners) (upgraded : heap.upgrade address = some after) :
    Counted after (address :: owners) := by
  simp only [Heap.upgrade, Option.ite_none_left_eq_some, Option.some.injEq] at upgraded
  obtain ⟨alive, rfl⟩ := upgraded
  intro other
  rw [strong_count _ _ _ (.inl (lt_size_of_strong alive)), List.count_cons, ← counted other]
  by_cases same : address = other <;> simp [same]

theorem drop (counted : Counted heap owners) (owned : owners.Perm (address :: rest)) :
    Counted (heap.drop address) rest := by
  intro other
  have before := counted other
  rw [owned.count_eq, List.count_cons] at before
  rw [Heap.drop, strong_count _ _ _ (.inr rfl), before]
  by_cases same : address = other <;> simp [same]

/-- A weak reference is dead exactly when nobody owns its cell. -/
theorem upgrade_eq_none_iff (counted : Counted heap owners) :
    heap.upgrade address = none ↔ address ∉ owners := by
  simp [Heap.upgrade, counted address, List.count_eq_zero]

end Counted

end Heap

end Shared
