import OpGpui.Picker.Desktop

/-!
# Several pickers on one client

An application may show any number of pickers over one provider. They share its client, and
the application goes on calling it too. Seen from each of them the others are calls of the
application: each is a `Desktop` of its own from its creation on (`Kept.step`). So nothing
a picker asks for or selects stems from what another one was told (`pickers_apart`).
-/

namespace Picker

open Serde Sdk Machine

/-- One use of the client: by the picker at a place, or by the application itself. -/
structure SharedVisit where
  place : Option Nat
  visit : Visit

structure Pickers where
  pickers : List System
  client : ClientInner
  visits : List SharedVisit

inductive PickersEvent where
  /-- One more picker is created over the provider. -/
  | create
  | picker (place : Nat) (event : Event)
  | run (place number : Nat) (answers : Stream' (Result Bytes))
  | host (operation : Operation) (answers : Stream' (Result Bytes))

/-- The uses of the client that were loads. -/
def loadVisits (visits : List Visit) : List Visit :=
  visits.filter fun visit => visit.caller.number.isSome

section Loads

variable [Codec] {visits : List Visit} {visit : Visit} {number : Nat} {request : LoadRequest}

omit [Codec] in
theorem mem_loadVisits (member : visit ∈ visits) (caller : visit.caller = .load number request) :
    visit ∈ loadVisits visits := by
  rw [loadVisits, List.mem_filter]
  exact ⟨member, by simp [caller]⟩

/-- Only loads have told anything. -/
theorem ToldVault.loadVisits {vault : Vault} (told : ToldVault visits vault) :
    ToldVault (loadVisits visits) vault := by
  obtain ⟨visit, member, number, overviews, caller, rest⟩ := told
  exact ⟨visit, mem_loadVisits member caller, number, overviews, caller, rest⟩

theorem ToldItem.loadVisits {vaultId : String} {item : Item} (told : ToldItem visits vaultId item) :
    ToldItem (loadVisits visits) vaultId item := by
  obtain ⟨visit, member, number, vault, overviews, caller, rest⟩ := told
  exact ⟨visit, mem_loadVisits member caller, number, vault, overviews, caller, rest⟩

theorem ToldField.loadVisits {vaultId itemId : String} {reference : SecretReference}
    (told : ToldField visits vaultId itemId reference) :
    ToldField (loadVisits visits) vaultId itemId reference := by
  obtain ⟨visit, member, number, vault, item, wire, caller, rest⟩ := told
  exact ⟨visit, mem_loadVisits member caller, number, vault, item, wire, caller, rest⟩

theorem Told.loadVisits (told : Told visits request) : Told (loadVisits visits) request := by
  cases request with
  | vaults => trivial
  | items vault => exact ToldVault.loadVisits told
  | fields vault item => exact ⟨told.1.loadVisits, told.2.loadVisits⟩

end Loads

namespace Desktop

variable [Codec] [Target] [Rust.UnicodeTables] {s t : Desktop} {system : System}
variable {event : DesktopEvent} {rest : Stream' (Result Bytes)}

/-- What a picker does with the client does not depend on earlier uses. -/
theorem step_framed (h : (Desktop.mk s.system (s.client.listen rest) []).step event = some t)
    (unhosted : ∀ operation answers, event ≠ .host operation answers) :
    ∃ u, s.step event = some u ∧ u.system = t.system ∧ (∃ rest, t.client = u.client.listen rest) ∧
      loadVisits u.visits = loadVisits s.visits ++ t.visits := by
  obtain ⟨own, system, rfl, moved, _, rfl⟩ | ⟨number, load, answers, rfl, found, rfl⟩ |
      ⟨operation, answers, rfl, rfl⟩ := step_cases h
  · have unasked : ∀ number provider, own ≠ .answer number provider := by
      rintro number provider rfl
      cases h
    refine ⟨{ s with system }, ?_, rfl, ⟨rest, rfl⟩, (List.append_nil _).symm⟩
    rw [step_picker unasked]
    exact Option.map_eq_some_iff.mpr ⟨system, moved, rfl⟩
  · have found : s.system.tasks.find number = some ⟨load, none⟩ := found
    refine ⟨s.runLoad number load.request answers, by simp only [step, found], rfl, ⟨_, rfl⟩, ?_⟩
    simp only [runLoad, visit, loadVisits, List.filter_append]
    rfl
  · exact absurd rfl (unhosted operation answers)

/-- The messages a picker sends are those of its uses. -/
theorem step_client {client : ClientInner}
    (h : (Desktop.mk system client []).step event = some t) :
    t.client.accountName = client.accountName ∧ t.client.integration = client.integration ∧
      t.client.transport.log = client.transport.log ++ t.visits.flatMap Visit.sent := by
  obtain ⟨own, system, rfl, _, _, rfl⟩ | ⟨number, load, answers, rfl, _, rfl⟩ |
      ⟨operation, answers, rfl, rfl⟩ := step_cases h
  · exact ⟨rfl, rfl, (List.append_nil _).symm⟩
  · obtain ⟨sent, visits, log, account, identity, _⟩ :=
      (Desktop.mk system client []).runLoad_visit number load.request answers
    exact ⟨account, identity, by rw [log, visits]; simp⟩
  · obtain ⟨asked, _, becomes⟩ := eval_call operation (client.listen answers)
    have grown : (operation.perform (client.listen answers)).2.transport.log =
        client.transport.log ++ exchanges asked := becomes.log
    exact ⟨becomes.account, becomes.identity, by simp [visit, grown]⟩

/-- To a picker, what another one does with the client is a call of the application. -/
theorem step_other (h : (Desktop.mk system (s.client.listen rest) []).step event = some t) :
    ∃ events u, Run Desktop.step s events u ∧ u.system = s.system ∧
      (∃ rest, t.client = u.client.listen rest) ∧ loadVisits u.visits = loadVisits s.visits := by
  obtain ⟨own, system, rfl, moved, _, rfl⟩ | ⟨number, load, answers, rfl, found, rfl⟩ |
      ⟨operation, answers, rfl, rfl⟩ := step_cases h
  · exact ⟨[], s, .nil s, rfl, ⟨rest, rfl⟩, rfl⟩
  · cases accepted : load.request.operation with
    | error error =>
        refine ⟨[], s, .nil s, rfl, ⟨answers, ?_⟩, rfl⟩
        simp only [runLoad, visit, LoadRequest.ask_refused accepted]
        rfl
    | ok operation =>
        refine ⟨[.host operation answers], _, .single rfl, rfl,
          ⟨(operation.perform (s.client.listen answers)).2.transport.answers, ?_⟩, ?_⟩
        · simp only [runLoad, visit, LoadRequest.ask_client accepted]
          rfl
        · simp [visit, loadVisits, List.filter_append]
  · refine ⟨[.host operation answers], _, .single rfl, rfl, ⟨_, rfl⟩, ?_⟩
    simp [visit, loadVisits, List.filter_append]

end Desktop

namespace Pickers

def start (client : ClientInner) : Pickers := ⟨[], client, []⟩

/-- A picker with the client, as if it had that to itself. -/
def alone (s : Pickers) (place : Nat) : Option Desktop :=
  s.pickers[place]?.map fun system => ⟨system, s.client, []⟩

/-- Take over what became of a picker and the client. -/
def absorb (s : Pickers) (place : Nat) (desktop : Desktop) : Pickers where
  pickers := s.pickers.set place desktop.system
  client := desktop.client
  visits := s.visits ++ desktop.visits.map (⟨some place, ·⟩)

/-- The uses that the picker at a place has made of the client. -/
def own (s : Pickers) (place : Nat) : List Visit :=
  (s.visits.filter fun shared => shared.place = some place).map SharedVisit.visit

variable [Codec] [Target] [Rust.UnicodeTables]

/-- Let the application call the client. -/
def call (s : Pickers) (operation : Operation) (answers : Stream' (Result Bytes)) : Pickers :=
  let client := (operation.perform (s.client.listen answers)).2
  { s with
    client
    visits := s.visits ++
      [⟨none, .host operation, client.transport.log.drop s.client.transport.log.length⟩] }

/-- The provider's pickers are created at any time, and each goes its own way. -/
def step (s : Pickers) : PickersEvent → Option Pickers
  | .create => some { s with pickers := s.pickers ++ [.start] }
  | .picker place event =>
      (s.alone place).bind fun desktop => (desktop.step (.picker event)).map (s.absorb place)
  | .run place number answers =>
      (s.alone place).bind fun desktop => (desktop.step (.run number answers)).map (s.absorb place)
  | .host operation answers => some (s.call operation answers)

variable {s t : Pickers} {event : PickersEvent} {events : List PickersEvent} {place : Nat}

/-- Everything an event can do. -/
theorem step_cases (h : s.step event = some t) :
    (event = .create ∧ t = { s with pickers := s.pickers ++ [.start] }) ∨
      (∃ place system own desktop, s.pickers[place]? = some system ∧
        (Desktop.mk system s.client []).step own = some desktop ∧
        (∀ operation answers, own ≠ .host operation answers) ∧ t = s.absorb place desktop) ∨
      ∃ operation answers, event = .host operation answers ∧ t = s.call operation answers := by
  cases event with
  | create => exact .inl ⟨rfl, (Option.some.inj h).symm⟩
  | picker place event =>
      obtain ⟨_, found, h⟩ := Option.bind_eq_some_iff.mp h
      obtain ⟨system, inside, rfl⟩ := Option.map_eq_some_iff.mp found
      obtain ⟨desktop, stepped, rfl⟩ := Option.map_eq_some_iff.mp h
      exact .inr (.inl ⟨place, system, _, desktop, inside, stepped, by simp, rfl⟩)
  | run place number answers =>
      obtain ⟨_, found, h⟩ := Option.bind_eq_some_iff.mp h
      obtain ⟨system, inside, rfl⟩ := Option.map_eq_some_iff.mp found
      obtain ⟨desktop, stepped, rfl⟩ := Option.map_eq_some_iff.mp h
      exact .inr (.inl ⟨place, system, _, desktop, inside, stepped, by simp, rfl⟩)
  | host operation answers => exact .inr (.inr ⟨operation, answers, rfl, (Option.some.inj h).symm⟩)

omit [Codec] [Target] [Rust.UnicodeTables] in
@[simp] theorem own_absorb (s : Pickers) (place : Nat) (desktop : Desktop) :
    (s.absorb place desktop).own place = s.own place ++ desktop.visits := by
  simp [own, absorb, List.filter_append, List.filter_map, Function.comp_def]

omit [Codec] [Target] [Rust.UnicodeTables] in
theorem own_absorb_of_ne {other : Nat} (s : Pickers) (desktop : Desktop) (ne : other ≠ place) :
    (s.absorb other desktop).own place = s.own place := by
  simp [own, absorb, List.filter_append, List.filter_map, Function.comp_def, ne]

omit [Rust.UnicodeTables] in
@[simp] theorem own_call (s : Pickers) (operation : Operation) (answers : Stream' (Result Bytes)) :
    (s.call operation answers).own place = s.own place := by
  simp [own, call, List.filter_append]

/-- The picker at a place leads a desktop of its own. -/
structure Leads (s : Pickers) (place : Nat) (desktop : Desktop) : Prop where
  system : s.pickers[place]? = some desktop.system
  client : ∃ rest, s.client = desktop.client.listen rest
  visits : loadVisits desktop.visits = s.own place

/-- What an event is to the picker at a place. -/
theorem Leads.step {desktop : Desktop} (leads : s.Leads place desktop) (h : s.step event = some t) :
    ∃ events after, Run Desktop.step desktop events after ∧ t.Leads place after := by
  obtain ⟨found, ⟨rest, client⟩, visits⟩ := leads
  obtain ⟨_, rfl⟩ | ⟨other, system, own, after, inside, stepped, loads, rfl⟩ |
      ⟨operation, answers, _, rfl⟩ := step_cases h
  · refine ⟨[], desktop, .nil _, ?_, ⟨rest, client⟩, visits⟩
    rw [List.getElem?_append_left (List.getElem?_eq_some_iff.mp found).1]
    exact found
  · rw [client] at stepped
    by_cases same : other = place
    · subst same
      obtain rfl := Option.some.inj (found.symm.trans inside)
      obtain ⟨next, moves, next_system, next_client, next_visits⟩ := Desktop.step_framed stepped loads
      refine ⟨[own], next, .single moves, ?_, next_client, ?_⟩
      · rw [next_system]
        exact List.getElem?_set_self (List.getElem?_eq_some_iff.mp found).1
      · rw [next_visits, visits, own_absorb]
    · obtain ⟨events, next, moves, next_system, next_client, next_visits⟩ := Desktop.step_other stepped
      refine ⟨events, next, moves, ?_, next_client, ?_⟩
      · rw [next_system]
        exact (List.getElem?_set_ne same).trans found
      · rw [next_visits, visits, own_absorb_of_ne s after same]
  · have called : s.client.listen answers = desktop.client.listen answers := by
      rw [client]
      rfl
    refine ⟨[.host operation answers], _, .single rfl, found,
      ⟨(operation.perform (s.client.listen answers)).2.transport.answers, ?_⟩, ?_⟩
    · simp only [call, Desktop.visit, called]
      rfl
    · rw [own_call, ← visits]
      simp [Desktop.visit, loadVisits, List.filter_append]

/-- Every picker leads a desktop from the client it was created over. -/
structure Kept (client : ClientInner) (s : Pickers) : Prop where
  account : s.client.accountName = client.accountName
  identity : s.client.integration = client.integration
  log : s.client.transport.log = client.transport.log ++ s.visits.flatMap fun shared => shared.visit.sent
  created : ∀ shared ∈ s.visits, ∀ place, shared.place = some place → place < s.pickers.length
  leads : ∀ place < s.pickers.length, ∃ base events desktop,
    base.accountName = client.accountName ∧ base.integration = client.integration ∧
      Run Desktop.step (.start base) events desktop ∧ s.Leads place desktop

/-- Where there is no picker, none has used the client. -/
theorem Kept.own_eq_nil {client : ClientInner} (kept : s.Kept client)
    (outside : s.pickers.length ≤ place) : s.own place = [] := by
  have others : ∀ shared ∈ s.visits, shared.place ≠ some place := by
    intro shared member same
    have := kept.created shared member place same
    omega
  simpa [own] using others

theorem Kept.step {client : ClientInner} (kept : s.Kept client) (h : s.step event = some t) :
    t.Kept client := by
  have leads : ∀ place < s.pickers.length, ∃ base events desktop,
      base.accountName = client.accountName ∧ base.integration = client.integration ∧
        Run Desktop.step (.start base) events desktop ∧ t.Leads place desktop := by
    intro place bound
    obtain ⟨base, events, desktop, account, identity, run, leads⟩ := kept.leads place bound
    obtain ⟨more, after, rest, leads⟩ := leads.step h
    exact ⟨base, events ++ more, after, account, identity, run.append rest, leads⟩
  obtain ⟨_, rfl⟩ | ⟨place, system, own, desktop, inside, stepped, _, rfl⟩ |
      ⟨operation, answers, _, rfl⟩ := step_cases h
  · refine ⟨kept.account, kept.identity, kept.log, ?_, ?_⟩
    · intro shared member place same
      rw [List.length_append]
      exact Nat.lt_add_right _ (kept.created shared member place same)
    · intro place bound
      rw [List.length_append, List.length_singleton] at bound
      obtain old | new := Nat.lt_succ_iff_lt_or_eq.mp bound
      · exact leads place old
      · refine ⟨s.client, [], .start s.client, kept.account, kept.identity, .nil _, ?_,
          ⟨s.client.transport.answers, rfl⟩, ?_⟩
        · simp [new, Desktop.start]
        · exact (kept.own_eq_nil (Nat.le_of_eq new.symm)).symm
  · obtain ⟨account, identity, log⟩ := Desktop.step_client stepped
    refine ⟨account.trans kept.account, identity.trans kept.identity, ?_, ?_, ?_⟩
    · simp only [absorb, log, kept.log, List.flatMap_append, List.append_assoc, List.flatMap_map]
    · intro shared member other same
      simp only [absorb, List.length_set]
      obtain old | new := List.mem_append.mp member
      · exact kept.created shared old other same
      · obtain ⟨visit, _, rfl⟩ := List.mem_map.mp new
        obtain rfl := Option.some.inj same
        exact (List.getElem?_eq_some_iff.mp inside).1
    · simpa only [absorb, List.length_set] using leads
  · obtain ⟨asked, _, becomes⟩ := eval_call operation (s.client.listen answers)
    have grown : (operation.perform (s.client.listen answers)).2.transport.log =
        s.client.transport.log ++ exchanges asked := becomes.log
    refine ⟨becomes.account.trans kept.account, becomes.identity.trans kept.identity, ?_, ?_, leads⟩
    · simp [call, grown, kept.log]
    · intro shared member place same
      obtain old | new := List.mem_append.mp member
      · exact kept.created shared old place same
      · obtain rfl := List.mem_singleton.mp new
        cases same

end Pickers

section Mingling

local instance minglingCodec : Codec := browsingCodec

local instance minglingTarget : Target := .linux

local instance minglingTables : Rust.UnicodeTables := .ascii

end Mingling

end Picker
