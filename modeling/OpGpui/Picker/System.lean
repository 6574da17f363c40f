import OpGpui.Library.Pool
import OpGpui.Picker.Invariant

/-!
# A picker among its loads, its frames and its provider

`System` puts the picker where it runs: loads wait in a pool, numbered in the order
they were started; the provider answers a load at some moment, with whatever it would
answer then; an answered load is delivered at some later moment; frames are painted
from the state of the moment, and a click runs the listener of a painted row. These
events interleave in any order. A superseded load is delivered like any other.

The history of provider calls and emitted events is kept, so that the rows on show
can be traced to the answers they came from.
-/

namespace Picker

open Sdk Machine

/-- A load that has not been delivered, with the provider's answer if it has run. -/
structure Pending where
  load : Load
  result : Option (ProviderResult (List Row))

/-- A provider call: the load it was made for, and the provider at that moment. -/
structure Call where
  number : Nat
  request : LoadRequest
  provider : SecretProvider

/-- The provider's answer, as rows. -/
def Call.result (call : Call) : ProviderResult (List Row) := call.request.run call.provider

structure System where
  picker : SecretPicker
  tasks : Pool Pending
  calls : List Call
  emitted : List SecretPickerEvent
  frame : List PaintedRow

inductive Event where
  | act (action : Action)
  /-- Load `number` runs in the background and asks the provider. -/
  | answer (number : Nat) (provider : SecretProvider)
  /-- Load `number`, having run, is delivered to the picker. -/
  | complete (number : Nat)
  /-- A frame with the visible rows from `first` on, `count` of them. -/
  | paint (first count : Nat)
  /-- A click on the painted row at that place of the frame. -/
  | click (place : Nat)

namespace System

/-- Take over the outcome of a call on the picker. -/
def apply (s : System) (outcome : SecretPicker × Effects) : System :=
  { s with
    picker := outcome.1
    tasks := s.tasks.spawnAll (outcome.2.spawned.map (⟨·, none⟩))
    emitted := s.emitted ++ outcome.2.emitted }

/-- Record the provider's answer to a load. -/
def answer (s : System) (number : Nat) (request : LoadRequest) (provider : SecretProvider) :
    System :=
  { s with
    tasks := s.tasks.update number fun task =>
      { task with result := some (request.run provider) }
    calls := s.calls ++ [⟨number, request, provider⟩] }

/-- A picker that has just been created. -/
def start : System :=
  apply ⟨SecretPicker.withTheme.1, .empty, [], [], []⟩ SecretPicker.withTheme

variable {s t : System} {event : Event}

/-- The load of a pending task does not change when the provider answers one. -/
theorem of_mem_answer {number : Nat} {request : LoadRequest} {provider : SecretProvider}
    {entry : Nat × Pending} (member : entry ∈ (s.answer number request provider).tasks.pending) :
    ∃ old ∈ s.tasks.pending, old.1 = entry.1 ∧ old.2.load = entry.2.load := by
  obtain old | ⟨task, old, rfl⟩ := Pool.of_mem_update member
  · exact ⟨entry, old, rfl, rfl⟩
  · exact ⟨(number, task), old, rfl, rfl⟩

/-- Pending tasks are numbered, and every result comes from the call made for it. -/
structure Recorded (s : System) : Prop where
  numbered : s.tasks.Numbered
  answered : ∀ entry ∈ s.tasks.pending, ∀ result, entry.2.result = some result →
    ∃ call ∈ s.calls, call.number = entry.1 ∧ call.request = entry.2.load.request ∧
      call.result = result

namespace Recorded

variable {number : Nat} {load : Load}

theorem spawn (recorded : s.Recorded) (tasks : t.tasks = s.tasks.spawn ⟨load, none⟩)
    (calls : t.calls = s.calls) : t.Recorded := by
  refine ⟨?_, ?_⟩
  · rw [tasks]
    exact recorded.numbered.spawn _
  · rw [tasks, calls]
    intro entry member result held
    obtain old | rfl := Pool.mem_spawn.mp member
    · exact recorded.answered entry old result held
    · cases held

theorem start : System.start.Recorded := by
  have empty : Recorded ⟨SecretPicker.withTheme.1, .empty, [], [], []⟩ := by
    refine ⟨Pool.numbered_empty, ?_⟩
    intro entry member
    cases member
  exact empty.spawn rfl rfl

theorem answer (recorded : s.Recorded) (provider : SecretProvider)
    (found : s.tasks.find number = some ⟨load, none⟩) :
    (s.answer number load.request provider).Recorded := by
  refine ⟨?_, ?_⟩
  · change (s.tasks.update number fun task =>
      { task with result := some (load.request.run provider) }).Numbered
    exact recorded.numbered.update number _
  · intro entry member result held
    obtain old | ⟨task, old, rfl⟩ := Pool.of_mem_update member
    · obtain ⟨call, made, own⟩ := recorded.answered entry old result held
      exact ⟨call, List.mem_append_left _ made, own⟩
    · obtain rfl := recorded.numbered.task_unique old (Pool.mem_of_find found)
      refine ⟨⟨number, load.request, provider⟩, by simp [System.answer], rfl, rfl, ?_⟩
      exact Option.some.inj held

end Recorded

variable [Rust.UnicodeTables]

/-- Deliver an answered load. -/
def deliver (s : System) (number : Nat) (load : Load) (result : ProviderResult (List Row)) : System :=
  { s with picker := s.picker.complete load result, tasks := s.tasks.remove number }

/-- A load runs once and is delivered once. GPUI asks for visible positions only, and
clicks reach painted rows only. -/
def step (s : System) : Event → Option System
  | .act action => some (s.apply (s.picker.perform action))
  | .answer number provider =>
      match s.tasks.find number with
      | some ⟨load, none⟩ => some (s.answer number load.request provider)
      | _ => none
  | .complete number =>
      match s.tasks.find number with
      | some ⟨load, some result⟩ => some (s.deliver number load result)
      | _ => none
  | .paint first count =>
      if first + count ≤ s.picker.filteredRows.length then
        (s.picker.renderBody first count).map fun body => { s with frame := body.rows }
      else none
  | .click place =>
      s.frame[place]?.map fun painted => s.apply (s.picker.activateVisibleIx painted.onClick)

/-- Everything an event can do. -/
theorem step_cases (h : s.step event = some t) :
    (∃ outcome, s.picker.Does outcome ∧ t = s.apply outcome) ∨
      (∃ number load provider, event = .answer number provider ∧
        s.tasks.find number = some ⟨load, none⟩ ∧ t = s.answer number load.request provider) ∨
      (∃ number load result, event = .complete number ∧
        s.tasks.find number = some ⟨load, some result⟩ ∧ t = s.deliver number load result) ∨
      ∃ first count body, event = .paint first count ∧
        s.picker.renderBody first count = some body ∧ t = { s with frame := body.rows } := by
  cases event with
  | act action =>
      obtain rfl := Option.some.inj h
      exact .inl ⟨_, s.picker.does_perform action, rfl⟩
  | answer number provider =>
      simp only [step] at h
      split at h
      · rename_i load found
        obtain rfl := Option.some.inj h
        exact .inr (.inl ⟨_, load, _, rfl, found, rfl⟩)
      · cases h
  | complete number =>
      simp only [step] at h
      split at h
      · rename_i load result found
        obtain rfl := Option.some.inj h
        exact .inr (.inr (.inl ⟨_, load, result, rfl, found, rfl⟩))
      · cases h
  | paint first count =>
      simp only [step] at h
      split at h
      · obtain ⟨body, painted, rfl⟩ := Option.map_eq_some_iff.mp h
        exact .inr (.inr (.inr ⟨_, _, body, rfl, painted, rfl⟩))
      · cases h
  | click place =>
      obtain ⟨painted, _, rfl⟩ := Option.map_eq_some_iff.mp h
      exact .inl ⟨_, s.picker.does_click painted.onClick, rfl⟩

/-- An outcome either leaves the loads alone, or starts one. -/
theorem apply_cases {outcome : SecretPicker × Effects} (done : s.picker.Does outcome) :
    ((s.apply outcome).tasks = s.tasks ∧
        (s.apply outcome).picker.generation = s.picker.generation ∧
        (s.apply outcome).picker.request = s.picker.request ∧
        (s.apply outcome).picker.level = s.picker.level ∧
        (s.apply outcome).picker.loadState = s.picker.loadState ∧
        (s.apply outcome).picker.rows = s.picker.rows) ∨
      ∃ request, s.picker.Opens request ∧ (s.apply outcome).picker = (s.picker.load request).1 ∧
        (s.apply outcome).tasks = s.tasks.spawn ⟨⟨s.picker.generation + 1, request⟩, none⟩ := by
  obtain ⟨idle, kept⟩ | ⟨request, allowed, rfl⟩ := done.keeps_or_loads
  · exact .inl ⟨by simp [apply, idle], kept⟩
  · exact .inr ⟨request, allowed, rfl, rfl⟩

theorem Recorded.apply {outcome : SecretPicker × Effects} (recorded : s.Recorded)
    (done : s.picker.Does outcome) : (s.apply outcome).Recorded := by
  obtain ⟨tasks, _⟩ | ⟨request, _, _, tasks⟩ := apply_cases done
  · refine ⟨?_, ?_⟩
    · rw [tasks]
      exact recorded.numbered
    · rw [tasks]
      exact recorded.answered
  · exact recorded.spawn tasks rfl

theorem Recorded.deliver {number : Nat} {load : Load} {result : ProviderResult (List Row)}
    (recorded : s.Recorded) : (s.deliver number load result).Recorded := by
  refine ⟨recorded.numbered.remove number, ?_⟩
  intro entry member
  exact recorded.answered entry (Pool.mem_remove.mp member).1

/-- The fields of the picker agree in every state a system reaches. -/
theorem consistent_step (consistent : s.picker.Consistent) (h : s.step event = some t) :
    t.picker.Consistent := by
  obtain ⟨outcome, does, rfl⟩ | ⟨number, load, provider, rfl, _, rfl⟩ |
      ⟨number, load, result, rfl, _, rfl⟩ | ⟨first, count, body, rfl, _, rfl⟩ := step_cases h
  · exact consistent.does does
  · exact consistent
  · exact consistent.complete load result
  · exact consistent

theorem consistent_run {events : List Event} (run : Run step start events s) :
    s.picker.Consistent :=
  run.invariant (P := fun s => s.picker.Consistent)
    (fun _ _ _ consistent h => consistent_step consistent h) (SecretPicker.Consistent.load _ _)

end System

end Picker
