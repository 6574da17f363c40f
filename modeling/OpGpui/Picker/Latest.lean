import OpGpui.Picker.System

/-!
# The latest load wins, and is never lost

The guard of a load is a 64-bit generation and a level. `Ordered` ties the generation
to the number of the load, under the one assumption that fewer than `2 ^ 64` loads
start while one is under way (`timelyStep`). A system that keeps it is a `Cell`: it
accepts the outcome of the latest load and of no other.
-/

namespace Picker

open Machine

namespace System

/-- No load is delivered after `2 ^ 64` others were started. -/
def Timely (s : System) : Event → Prop
  | .complete number => s.tasks.started - number < 2 ^ 64
  | _ => True

instance (s : System) : (event : Event) → Decidable (s.Timely event)
  | .complete number => inferInstanceAs (Decidable (s.tasks.started - number < 2 ^ 64))
  | .act _ | .answer _ _ | .paint _ _ | .click _ => isTrue trivial

variable {s t : System} {event : Event} {number : Nat}

/-- Numbers, generations and requests belong together, and the picker is waiting
exactly while the latest load is under way. -/
structure Ordered (s : System) : Prop extends Recorded s where
  generation : s.picker.generation = Pool.stamp s.tasks.started
  stamped : ∀ entry ∈ s.tasks.pending, entry.2.load.generation = Pool.stamp entry.1
  latest : ∀ entry ∈ s.tasks.pending, entry.1 = s.tasks.started →
    entry.2.load.request = s.picker.request ∧ s.picker.loadState = .loading
  awaited : s.picker.loadState = .loading →
    ∃ task, (s.tasks.started, task) ∈ s.tasks.pending

namespace Ordered

theorem start : Ordered System.start := by
  have only : System.start.tasks.pending = [(1, ⟨⟨1, .vaults⟩, none⟩)] := rfl
  refine ⟨Recorded.start, rfl, ?_, ?_, ?_⟩
  · rw [only]
    intro entry member
    obtain rfl := List.mem_singleton.mp member
    rfl
  · rw [only]
    intro entry member _
    obtain rfl := List.mem_singleton.mp member
    exact ⟨rfl, rfl⟩
  · intro _
    exact ⟨_, .head _⟩

/-- A load that has just been started is the latest, and is awaited. -/
theorem spawn {request : LoadRequest} (ordered : s.Ordered)
    (loads : t.picker = (s.picker.load request).1) (calls : t.calls = s.calls)
    (tasks : t.tasks = s.tasks.spawn ⟨⟨s.picker.generation + 1, request⟩, none⟩) : t.Ordered := by
  refine ⟨ordered.toRecorded.spawn tasks calls, ?_, ?_, ?_, ?_⟩
  · rw [loads, tasks, Pool.spawn_started, Pool.stamp_succ, ← ordered.generation]
    rfl
  · rw [tasks]
    intro entry member
    obtain old | rfl := Pool.mem_spawn.mp member
    · exact ordered.stamped entry old
    · rw [Pool.stamp_succ, ← ordered.generation]
  · rw [tasks, loads]
    intro entry member newest
    obtain old | rfl := Pool.mem_spawn.mp member
    · have bound := ordered.numbered.bound entry old
      rw [Pool.spawn_started] at newest
      omega
    · exact ⟨rfl, rfl⟩
  · rw [tasks]
    intro _
    exact ⟨_, Pool.mem_spawn.mpr (.inr rfl)⟩

theorem answer {load : Load} (ordered : s.Ordered) (provider : SecretProvider)
    (found : s.tasks.find number = some ⟨load, none⟩) :
    (s.answer number load.request provider).Ordered := by
  refine ⟨ordered.toRecorded.answer provider found, ordered.generation, ?_, ?_, ?_⟩
  · intro entry member
    obtain ⟨old, waiting, number, load⟩ := of_mem_answer member
    rw [← number, ← load]
    exact ordered.stamped old waiting
  · intro entry member newest
    obtain ⟨old, waiting, number, load⟩ := of_mem_answer member
    rw [← load]
    exact ordered.latest old waiting (number.trans newest)
  · intro loading
    obtain ⟨task, waiting⟩ := ordered.awaited loading
    exact Pool.exists_mem_update _ waiting

variable [Rust.UnicodeTables]

theorem apply {outcome : SecretPicker × Effects} (ordered : s.Ordered)
    (done : s.picker.Does outcome) : (s.apply outcome).Ordered := by
  obtain ⟨tasks, generation, request, _, loadState, _⟩ | ⟨request, _, picker, tasks⟩ :=
    apply_cases done
  · refine ⟨ordered.toRecorded.apply done, ?_, ?_, ?_, ?_⟩
    · rw [tasks, generation]
      exact ordered.generation
    · rw [tasks]
      exact ordered.stamped
    · rw [tasks, request, loadState]
      exact ordered.latest
    · rw [tasks, loadState]
      exact ordered.awaited
  · exact ordered.spawn picker rfl tasks

/-- Both guards recognize the latest load. -/
theorem complete_latest {load : Load} {result : ProviderResult (List Row)} (ordered : s.Ordered)
    (pending : (number, ⟨load, some result⟩) ∈ s.tasks.pending)
    (newest : number = s.tasks.started) :
    load.request = s.picker.request ∧ s.picker.loadState = .loading ∧
      s.picker.complete load result = s.picker.finish result := by
  obtain ⟨request, loading⟩ := ordered.latest _ pending newest
  have generation : load.generation = s.picker.generation := by
    rw [ordered.stamped _ pending, ordered.generation, newest]
  refine ⟨request, loading, ?_⟩
  simp only at request generation
  simp [SecretPicker.complete, request, generation]

/-- The generation rejects every other load. -/
theorem complete_stale {load : Load} {result : ProviderResult (List Row)} (ordered : s.Ordered)
    (pending : (number, ⟨load, some result⟩) ∈ s.tasks.pending)
    (timely : s.tasks.started - number < 2 ^ 64) (superseded : number ≠ s.tasks.started) :
    s.picker.complete load result = s.picker := by
  have bound := ordered.numbered.bound _ pending
  have other : s.picker.generation ≠ load.generation := by
    intro same
    have stamps : Pool.stamp number = Pool.stamp s.tasks.started := by
      rw [← ordered.generation, same]
      exact (ordered.stamped _ pending).symm
    exact superseded ((Pool.stamp_eq_iff bound timely).mp stamps)
  simp [SecretPicker.complete, other]

theorem finish_not_loading (picker : SecretPicker)
    (result : ProviderResult (List Row)) : (picker.finish result).loadState ≠ .loading := by
  cases result <;> simp [SecretPicker.finish, SecretPicker.rebuildFilter]

theorem deliver {load : Load} {result : ProviderResult (List Row)} (ordered : s.Ordered)
    (found : s.tasks.find number = some ⟨load, some result⟩)
    (timely : s.tasks.started - number < 2 ^ 64) : (s.deliver number load result).Ordered := by
  have pending := Pool.mem_of_find found
  have earlier : ∀ entry ∈ (s.tasks.remove number).pending,
      entry ∈ s.tasks.pending ∧ entry.1 ≠ number := fun _ => Pool.mem_remove.mp
  have generation : (s.picker.complete load result).generation = s.picker.generation := by
    obtain eq | ⟨_, _, eq⟩ := s.picker.complete_cases load result
    · rw [eq]
    · rw [eq]
      cases result <;> rfl
  refine ⟨ordered.toRecorded.deliver, generation.trans ordered.generation, ?_, ?_, ?_⟩
  · exact fun entry member => ordered.stamped entry (earlier entry member).1
  · intro entry member newest
    obtain ⟨old, other⟩ := earlier entry member
    have superseded : number ≠ s.tasks.started := fun same => other (newest.trans same.symm)
    have unchanged := ordered.complete_stale pending timely superseded
    simp only [System.deliver, unchanged]
    exact ordered.latest entry old newest
  · intro loading
    by_cases newest : number = s.tasks.started
    · obtain ⟨_, _, eq⟩ := ordered.complete_latest pending newest
      simp only [System.deliver, eq] at loading
      exact absurd loading (finish_not_loading _ _)
    · have unchanged := ordered.complete_stale pending timely newest
      simp only [System.deliver, unchanged] at loading
      obtain ⟨task, waiting⟩ := ordered.awaited loading
      exact ⟨task, Pool.mem_remove.mpr ⟨waiting, fun same => newest same.symm⟩⟩

end Ordered

variable [Rust.UnicodeTables]

def timelyStep (s : System) (event : Event) : Option System :=
  if s.Timely event then s.step event else none

theorem timelyStep_eq_some_iff :
    s.timelyStep event = some t ↔ s.Timely event ∧ s.step event = some t := by
  simp [timelyStep]

theorem run_of_timely {events : List Event} (run : Run timelyStep s events t) :
    Run step s events t := by
  induction run with
  | nil => exact .nil _
  | cons head _ ih => exact .cons (timelyStep_eq_some_iff.mp head).2 ih

/-- Every timely event keeps the order. -/
theorem Ordered.step (ordered : s.Ordered) (h : s.timelyStep event = some t) : t.Ordered := by
  obtain ⟨timely, done⟩ := timelyStep_eq_some_iff.mp h
  obtain ⟨outcome, does, rfl⟩ | ⟨number, load, provider, rfl, found, rfl⟩ |
      ⟨number, load, result, rfl, found, rfl⟩ | ⟨first, count, body, rfl, _, rfl⟩ := step_cases done
  · exact ordered.apply does
  · exact ordered.answer provider found
  · exact ordered.deliver found timely
  · exact ⟨⟨ordered.numbered, ordered.answered⟩, ordered.generation, ordered.stamped,
      ordered.latest, ordered.awaited⟩

theorem Ordered.run {events : List Event} (run : Run timelyStep System.start events s) : s.Ordered :=
  run.invariant (fun _ _ _ ordered h => ordered.step h) Ordered.start

/-- The outcome a picker shows, if the load it waits for has ended. -/
def outcome (s : System) : Option (ProviderResult (List Row)) :=
  match s.picker.loadState with
  | .loading => none
  | .ready => some (.ok s.picker.rows)
  | .failed error => some (.error error)

/-- What remains of a system when only requests and outcomes count. -/
def cell (s : System) : Cell LoadRequest (ProviderResult (List Row)) :=
  ⟨s.tasks.started, s.picker.request, s.outcome⟩

/-- Delivering a load is finishing that request of the cell. -/
theorem deliver_cell {load : Load} {result : ProviderResult (List Row)} (ordered : s.Ordered)
    (found : s.tasks.find number = some ⟨load, some result⟩)
    (timely : s.tasks.started - number < 2 ^ 64) :
    (s.deliver number load result).cell = s.cell.finish number result := by
  have pending := Pool.mem_of_find found
  simp only [Cell.finish]
  split
  · rename_i newest
    obtain ⟨_, _, eq⟩ := ordered.complete_latest pending newest
    cases result <;> simp [cell, outcome, deliver, eq, SecretPicker.finish, SecretPicker.rebuildFilter]
  · rename_i superseded
    have unchanged := ordered.complete_stale pending timely superseded
    simp [cell, outcome, deliver, unchanged]

/-- A timely system refines a cell: each event starts one request, finishes one, or
does nothing to it. -/
theorem refines_cell (ordered : s.Ordered) (h : s.timelyStep event = some t) :
    t.cell = s.cell ∨ (∃ request, t.cell = s.cell.start request) ∨
      ∃ number result, event = .complete number ∧ t.cell = s.cell.finish number result := by
  obtain ⟨timely, done⟩ := timelyStep_eq_some_iff.mp h
  obtain ⟨outcome, does, rfl⟩ | ⟨number, load, provider, rfl, found, rfl⟩ |
      ⟨number, load, result, rfl, found, rfl⟩ | ⟨first, count, body, rfl, _, rfl⟩ := step_cases done
  · obtain ⟨tasks, _, request, _, loadState, rows⟩ | ⟨request, _, picker, tasks⟩ := apply_cases does
    · refine .inl ?_
      simp only [cell, System.outcome, tasks, request, loadState, rows]
    · refine .inr (.inl ⟨request, ?_⟩)
      simp only [cell, System.outcome, tasks, picker]
      rfl
  · exact .inl rfl
  · exact .inr (.inr ⟨number, result, rfl, deliver_cell ordered found timely⟩)
  · exact .inl rfl

end System

section SecondLoad

local instance secondLoadTables : Rust.UnicodeTables := .ascii

end SecondLoad

end Picker
