import Mathlib.Algebra.Ring.Nat
import Mathlib.Data.List.Nodup

/-!
# Numbered background tasks and the latest request

Tasks are numbered in the order they are spawned. A pool keeps the ones that
have not been delivered yet, in no particular order of completion. Its numbering
is proof-only: programs compare a stamp of bounded width instead.

`stamp_eq_iff` says how long the bounded stamp may stand for the number, and
`Cell` is the purpose of such a guard stated on its own: a cell accepts the
outcome of the latest request and ignores every other delivery.
-/

namespace Pool

/-- The 64-bit stamp of the `n`-th task. -/
def stamp (n : Nat) : UInt64 := UInt64.ofNat n

theorem stamp_succ (n : Nat) : stamp (n + 1) = stamp n + 1 := by
  simp [stamp]

/-- Two stamps agree only for the same number, as long as fewer than `2 ^ 64`
tasks were spawned between them. -/
theorem stamp_eq_iff {n m : Nat} (order : n ≤ m) (lag : m - n < 2 ^ 64) :
    stamp n = stamp m ↔ n = m := by
  constructor
  · intro h
    have same : n % 2 ^ 64 = m % 2 ^ 64 := by
      simpa [stamp] using congrArg UInt64.toNat h
    omega
  · rintro rfl
    rfl

end Pool

/-- Spawned tasks: how many so far, and the numbered ones still to be delivered. -/
structure Pool (α : Type*) where
  started : Nat
  pending : List (Nat × α)

namespace Pool

variable {α : Type*} {p : Pool α} {n : Nat} {a b : α}

def empty : Pool α := ⟨0, []⟩

/-- Number a new task and keep it as pending. -/
def spawn (p : Pool α) (a : α) : Pool α :=
  ⟨p.started + 1, p.pending ++ [(p.started + 1, a)]⟩

/-- Spawn several tasks in order. -/
def spawnAll (p : Pool α) (as : List α) : Pool α := as.foldl spawn p

/-- The pending task of that number, if it is still to be delivered. -/
def find (p : Pool α) (n : Nat) : Option α :=
  (p.pending.find? (·.1 = n)).map (·.2)

/-- Take a task off the pool; its number is not used again. -/
def remove (p : Pool α) (n : Nat) : Pool α :=
  { p with pending := p.pending.filter (·.1 ≠ n) }

/-- Change one pending task in place. -/
def update (p : Pool α) (n : Nat) (f : α → α) : Pool α :=
  { p with pending := p.pending.map fun entry => if entry.1 = n then (n, f entry.2) else entry }

@[simp] theorem spawn_started (p : Pool α) (a : α) : (p.spawn a).started = p.started + 1 := rfl

@[simp] theorem remove_started (p : Pool α) (n : Nat) : (p.remove n).started = p.started := rfl

@[simp] theorem spawnAll_nil (p : Pool α) : p.spawnAll [] = p := rfl

theorem mem_spawn {entry : Nat × α} :
    entry ∈ (p.spawn a).pending ↔ entry ∈ p.pending ∨ entry = (p.started + 1, a) := by
  simp [spawn]

theorem mem_remove {entry : Nat × α} :
    entry ∈ (p.remove n).pending ↔ entry ∈ p.pending ∧ entry.1 ≠ n := by
  simp [remove]

theorem mem_of_find (h : p.find n = some a) : (n, a) ∈ p.pending := by
  obtain ⟨entry, found, rfl⟩ := Option.map_eq_some_iff.mp h
  have number : entry.1 = n := by simpa using List.find?_some found
  simpa [← number] using List.mem_of_find?_eq_some found

theorem find_isSome (member : (n, a) ∈ p.pending) : (p.find n).isSome := by
  simp only [find, Option.isSome_map, List.find?_isSome]
  exact ⟨(n, a), member, by simp⟩

/-- An updated entry keeps its number and either its task or the new one. -/
theorem of_mem_update {f : α → α} {entry : Nat × α} (h : entry ∈ (p.update n f).pending) :
    entry ∈ p.pending ∨ ∃ a, (n, a) ∈ p.pending ∧ entry = (n, f a) := by
  obtain ⟨old, member, rfl⟩ := List.mem_map.mp h
  by_cases same : old.1 = n
  · exact .inr ⟨old.2, by simpa [← same] using member, by simp [same]⟩
  · exact .inl (by simpa [same] using member)

/-- No number is lost in an update. -/
theorem exists_mem_update {m : Nat} (f : α → α) (h : (m, a) ∈ p.pending) :
    ∃ b, (m, b) ∈ (p.update n f).pending := by
  by_cases same : m = n
  · exact ⟨f a, List.mem_map.mpr ⟨_, h, by simp [same]⟩⟩
  · exact ⟨a, List.mem_map.mpr ⟨_, h, by simp [same]⟩⟩

/-- Pending numbers were all handed out, and each is pending once. -/
structure Numbered (p : Pool α) : Prop where
  bound : ∀ entry ∈ p.pending, entry.1 ≤ p.started
  unique : (p.pending.map Prod.fst).Nodup

theorem numbered_empty : Numbered (empty : Pool α) := ⟨by simp [empty], by simp [empty]⟩

theorem Numbered.spawn (h : Numbered p) (a : α) : Numbered (p.spawn a) := by
  refine ⟨?_, ?_⟩
  · intro entry member
    obtain old | rfl := mem_spawn.mp member
    · exact Nat.le_succ_of_le (h.bound entry old)
    · exact Nat.le_refl _
  · have fresh : p.started + 1 ∉ p.pending.map Prod.fst := by
      intro member
      obtain ⟨entry, inPool, number⟩ := List.mem_map.mp member
      have := h.bound entry inPool
      omega
    simpa [Pool.spawn, List.nodup_append] using ⟨h.unique, fun entry a member eq =>
      fresh (List.mem_map.mpr ⟨_, member, eq⟩)⟩

theorem Numbered.remove (h : Numbered p) (n : Nat) : Numbered (p.remove n) := by
  refine ⟨fun entry member => h.bound entry (mem_remove.mp member).1, ?_⟩
  exact h.unique.sublist (List.filter_sublist.map Prod.fst)

theorem Numbered.update (h : Numbered p) (n : Nat) (f : α → α) : Numbered (p.update n f) := by
  have numbers : ((p.update n f).pending).map Prod.fst = p.pending.map Prod.fst := by
    simp only [Pool.update, List.map_map]
    apply List.map_congr_left
    intro entry _
    by_cases same : entry.1 = n <;> simp [same]
  refine ⟨?_, numbers ▸ h.unique⟩
  intro entry member
  obtain old | ⟨a, old, rfl⟩ := of_mem_update member
  · exact h.bound entry old
  · exact h.bound (n, a) old

/-- Taking off a pending task leaves the others. -/
theorem perm_remove (h : Numbered p) (found : p.find n = some a) :
    p.pending.Perm ((n, a) :: (p.remove n).pending) := by
  obtain ⟨front, back, split⟩ := List.append_of_mem (mem_of_find found)
  have unique : ∀ entry ∈ front ++ back, entry.1 ≠ n := by
    have once := h.unique
    rw [split, List.map_append, List.map_cons, List.nodup_middle] at once
    intro entry member same
    have listed : entry.1 ∈ (front ++ back).map Prod.fst := List.mem_map_of_mem member
    rw [same, List.map_append] at listed
    exact (List.nodup_cons.mp once).1 listed
  have others : (p.remove n).pending = front ++ back := by
    simp only [remove, split, List.filter_append, List.filter_cons]
    simp only [ne_eq, not_true_eq_false, decide_false, Bool.false_eq_true, if_false]
    rw [← List.filter_append, List.filter_eq_self]
    simpa using fun entry task member => unique (entry, task) (List.mem_append.mpr member)
  rw [others, split]
  exact List.perm_middle

/-- A number names at most one pending task. -/
theorem Numbered.task_unique (h : Numbered p) (first : (n, a) ∈ p.pending)
    (second : (n, b) ∈ p.pending) : a = b := by
  have same := List.inj_on_of_nodup_map h.unique first second rfl
  exact congrArg Prod.snd same

/-- Every pending task is found by its number. -/
theorem Numbered.find_eq_iff (h : Numbered p) : p.find n = some a ↔ (n, a) ∈ p.pending := by
  refine ⟨mem_of_find, fun member => ?_⟩
  obtain ⟨b, found⟩ := Option.isSome_iff_exists.mp (find_isSome member)
  rw [found, h.task_unique (mem_of_find found) member]

theorem Numbered.find_update (h : Numbered p) (f : α → α) (found : p.find n = some a) :
    (p.update n f).find n = some (f a) := by
  rw [(h.update n f).find_eq_iff]
  exact List.mem_map.mpr ⟨_, mem_of_find found, by simp⟩

/-- An update that takes a task out of a count takes one off it at least. -/
theorem countP_update (counted : α → Bool) (f : α → α) (found : p.find n = some a)
    (was : counted a = true) (done : ∀ b, counted (f b) = false) :
    (p.update n f).pending.countP (fun entry => counted entry.2) + 1 ≤
      p.pending.countP fun entry => counted entry.2 := by
  obtain ⟨front, back, split⟩ := List.append_of_mem (mem_of_find found)
  have fewer : ∀ entry : Nat × α, counted (if entry.1 = n then (n, f entry.2) else entry).2 = true →
      counted entry.2 = true := by
    intro entry
    split
    · simp [done]
    · exact id
  have others : ∀ entries : List (Nat × α),
      (entries.map fun entry => if entry.1 = n then (n, f entry.2) else entry).countP
        (fun entry => counted entry.2) ≤ entries.countP fun entry => counted entry.2 := by
    intro entries
    rw [List.countP_map]
    exact List.countP_mono_left fun entry _ => fewer entry
  have before := others front
  have after := others back
  simp only [update, split, List.map_append, List.map_cons, List.countP_append, List.countP_cons,
    if_true, done, was, Bool.false_eq_true, if_false]
  omega

end Pool

/-- What a latest-request guard is for: the current request and the outcome
accepted for it, `none` while that outcome is awaited. -/
structure Cell (ρ ω : Type*) where
  started : Nat
  request : ρ
  outcome : Option ω

namespace Cell

variable {ρ ω : Type*}

/-- A new request supersedes the current one and forgets its outcome. -/
def start (c : Cell ρ ω) (request : ρ) : Cell ρ ω := ⟨c.started + 1, request, none⟩

/-- Only the outcome of the latest request is accepted. -/
def finish (c : Cell ρ ω) (n : Nat) (outcome : ω) : Cell ρ ω :=
  if n = c.started then { c with outcome := some outcome } else c

end Cell
