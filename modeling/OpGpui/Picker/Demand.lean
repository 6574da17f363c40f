import OpGpui.Picker.Desktop

/-!
# Messages on demand

The picker asks for nothing on its own. A load is started by a key or a click that may
lead to another listing, and costs three messages at most; typing, moving the selection,
painting and the end of a load cost none (`traffic_on_demand`). A load that waits to run
is the potential from which its messages are paid.
-/

namespace Picker

open Serde Sdk Machine

/-- The actions that may start a load. -/
def Action.mayLoad : Action → Bool
  | .confirm | .cancel | .goBack | .eraseQueryCharacter | .retry => true
  | .selectPrevious | .selectNext | .selectFirst | .selectLast | .keyDown _ => false

def Event.mayLoad : Event → Bool
  | .act action => action.mayLoad
  | .click _ => true
  | .answer _ _ | .complete _ | .paint _ _ => false

/-- The events that ask for something: of the user, and of the application. -/
def DesktopEvent.demands : DesktopEvent → Bool
  | .picker event => event.mayLoad
  | .run _ _ => false
  | .host _ _ => true

namespace SecretPicker

variable {picker : SecretPicker}

/-- Typing and moving the selection start none. -/
theorem perform_idle [Rust.UnicodeTables] {action : Action} (stays : action.mayLoad = false) :
    (picker.perform action).2.spawned = [] := by
  cases action with
  | confirm | cancel | goBack | eraseQueryCharacter | retry => cases stays
  | selectPrevious | selectNext | selectFirst | selectLast => rfl
  | keyDown event =>
      rw [perform, onKeyDown_silent]
      rfl

end SecretPicker

namespace System

/-- The loads that have not run. -/
def waiting (s : System) : Nat := s.tasks.pending.countP fun entry => entry.2.result.isNone

variable [Rust.UnicodeTables] {s t : System} {event : Event}

/-- What the picker does adds one load at most, and none without spawning it. -/
theorem waiting_apply {outcome : SecretPicker × Effects} (does : s.picker.Does outcome) :
    (s.apply outcome).waiting ≤ s.waiting + 1 ∧
      (outcome.2.spawned = [] → (s.apply outcome).waiting = s.waiting) := by
  refine ⟨?_, fun idle => ?_⟩
  · obtain ⟨tasks, _⟩ | ⟨request, _, _, tasks⟩ := apply_cases does
    · simp [waiting, tasks]
    · simp [waiting, tasks, Pool.spawn]
  · simp [waiting, apply, idle]

omit [Rust.UnicodeTables] in
theorem waiting_answer {number : Nat} {load : Load} {provider : SecretProvider}
    (found : s.tasks.find number = some ⟨load, none⟩) :
    (s.answer number load.request provider).waiting + 1 ≤ s.waiting :=
  s.tasks.countP_update (fun task : Pending => task.result.isNone)
    (fun task => { task with result := some (load.request.run provider) }) found rfl fun _ => rfl

/-- Apart from the answers, an event adds a load only if it may. -/
theorem waiting_step (unasked : ∀ number provider, event ≠ .answer number provider)
    (h : s.step event = some t) : t.waiting ≤ event.mayLoad.toNat + s.waiting := by
  cases event with
  | act action =>
      obtain rfl := Option.some.inj h
      obtain ⟨one, none⟩ := waiting_apply (s.picker.does_perform action)
      cases loads : action.mayLoad with
      | true =>
          simp only [Event.mayLoad, loads, Bool.toNat_true]
          omega
      | false =>
          rw [none (SecretPicker.perform_idle loads)]
          exact Nat.le_add_left ..
  | answer number provider => exact absurd rfl (unasked number provider)
  | complete number =>
      simp only [step] at h
      split at h
      · obtain rfl := Option.some.inj h
        simp only [Event.mayLoad, Bool.toNat_false, Nat.zero_add]
        exact List.Sublist.countP_le List.filter_sublist
      · cases h
  | paint first count =>
      simp only [step] at h
      split at h
      · obtain ⟨body, _, rfl⟩ := Option.map_eq_some_iff.mp h
        exact Nat.le_add_left ..
      · cases h
  | click place =>
      obtain ⟨painted, _, rfl⟩ := Option.map_eq_some_iff.mp h
      have one := (waiting_apply (s.picker.does_click painted.onClick)).1
      simp only [Event.mayLoad, Bool.toNat_true]
      omega

end System

namespace Desktop

variable [Codec] [Target] [Rust.UnicodeTables] {s t : Desktop} {event : DesktopEvent}
variable {events : List DesktopEvent}

omit [Rust.UnicodeTables] in
/-- A call of the application sends three messages at most. -/
theorem perform_sends (operation : Operation) (client : ClientInner) :
    ∃ sent, (operation.perform client).2.transport.log = client.transport.log ++ sent ∧
      sent.length ≤ 3 := by
  cases sends : operation.invocation with
  | none =>
      obtain rfl := Operation.invocation_eq_none_iff.mp sends
      rw [Operation.perform_close]
      cases held : client.clientId with
      | none =>
          rw [ClientInner.releaseLocked_closed held]
          exact ⟨[], (List.append_nil _).symm, Nat.zero_le _⟩
      | some id =>
          rw [ClientInner.releaseLocked_open held]
          exact ⟨[_], rfl, by simp⟩
  | some call =>
      rw [Operation.perform_invocation sends]
      obtain ⟨_, _, sent, log, course⟩ := client.invokeBytes_course call.1 call.2
      exact ⟨sent, log, course.length_le⟩

/-- An event sends three messages at most, for its own demand or for a load that waited. -/
theorem step_sends (h : s.step event = some t) :
    ∃ sent, t.client.transport.log = s.client.transport.log ++ sent ∧
      sent.length + 3 * t.system.waiting ≤ 3 * event.demands.toNat + 3 * s.system.waiting := by
  obtain ⟨own, system, rfl, moved, _, rfl⟩ | ⟨number, load, answers, rfl, found, rfl⟩ |
      ⟨operation, answers, rfl, rfl⟩ := step_cases h
  · have unasked : ∀ number provider, own ≠ .answer number provider := by
      rintro number provider rfl
      cases h
    have waits := System.waiting_step unasked moved
    refine ⟨[], (List.append_nil _).symm, ?_⟩
    simp only [DesktopEvent.demands, List.length_nil]
    omega
  · obtain ⟨sent, _, log, _, _, discreet, _⟩ := s.runLoad_visit number load.request answers
    have few := discreet.few
    have ran : (s.runLoad number load.request answers).system.waiting + 1 ≤ s.system.waiting :=
      System.waiting_answer found
    refine ⟨sent, log, ?_⟩
    simp only [DesktopEvent.demands, Bool.toNat_false]
    omega
  · obtain ⟨sent, log, few⟩ := perform_sends operation (s.client.listen answers)
    refine ⟨sent, log, ?_⟩
    change sent.length + 3 * s.system.waiting ≤ _
    simp only [DesktopEvent.demands, Bool.toNat_true]
    omega

/-- The messages of a run are paid for by its demands. -/
theorem log_le (run : Run Desktop.step s events t) :
    t.client.transport.log.length + 3 * t.system.waiting ≤
      3 * events.countP DesktopEvent.demands +
        (s.client.transport.log.length + 3 * s.system.waiting) := by
  refine run.amortized (fun s => s.client.transport.log.length + 3 * s.system.waiting) 3
    DesktopEvent.demands ?_
  intro before event after h
  obtain ⟨sent, log, paid⟩ := step_sends h
  simp only [log, List.length_append]
  omega

/-- Messages are sent on demand. Whatever else happens between, each load that waits, each
key or click that may load and each call of the application is worth three messages, and
nothing else sends any. -/
theorem traffic_on_demand (run : Run Desktop.step s events t) :
    ∃ sent, t.client.transport.log = s.client.transport.log ++ sent ∧
      sent.length + 3 * t.system.waiting ≤
        3 * events.countP DesktopEvent.demands + 3 * s.system.waiting := by
  have grows : s.client.transport.log <+: t.client.transport.log := by
    refine run.invariant (P := fun t => s.client.transport.log <+: t.client.transport.log) ?_
      (List.prefix_refl _)
    intro before event after grown h
    obtain ⟨sent, log, _⟩ := step_sends h
    exact grown.trans ⟨sent, log.symm⟩
  obtain ⟨sent, log⟩ := grows
  have paid := log_le run
  refine ⟨sent, log.symm, ?_⟩
  simp only [← log, List.length_append] at paid
  omega

end Desktop

section Idling

local instance idlingCodec : Codec := browsingCodec

local instance idlingTarget : Target := .linux

local instance idlingTables : Rust.UnicodeTables := .ascii

/-- The rows arrive, are painted, and the user types and moves among them. -/
def idling : List DesktopEvent :=
  [.picker (.complete 1), .picker (.act (.keyDown ⟨false, false, some "va"⟩)), .picker (.paint 0 1),
    .picker (.act .selectNext)]

/-- A picker that idles is silent. -/
theorem traffic_on_demand_idling : ∃ s t,
    Run Desktop.step (.start deskClient) [.run 1 (saying browsedVaults)] s ∧
    Run Desktop.step s idling t ∧ t.system.frame.map PaintedRow.title = ["Vault"] ∧
    t.client.transport.log = s.client.transport.log := by
  have reached : ([DesktopEvent.run 1 (saying browsedVaults)].foldlM Desktop.step
      (.start deskClient)).any (fun s => s.system.waiting = 0 &&
        (idling.foldlM Desktop.step s).any fun t : Desktop =>
          t.system.frame.map PaintedRow.title = ["Vault"]) = true := by
    decide +kernel
  obtain ⟨s, folded, holds⟩ := (Option.any_eq_true _ _).mp reached
  simp only [Bool.and_eq_true, decide_eq_true_eq] at holds
  obtain ⟨none, continued⟩ := holds
  obtain ⟨t, refolded, shown⟩ := (Option.any_eq_true _ _).mp continued
  have rest := Run.iff_foldlM.mpr refolded
  obtain ⟨sent, log, bounded⟩ := Desktop.traffic_on_demand rest
  have silent : idling.countP DesktopEvent.demands = 0 := rfl
  obtain rfl : sent = [] := List.length_eq_zero_iff.mp (by omega)
  exact ⟨s, t, Run.iff_foldlM.mpr folded, rest, of_decide_eq_true shown, log.trans (List.append_nil _)⟩

end Idling

end Picker
