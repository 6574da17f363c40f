import OpGpui.Sdk.Locking
import OpGpui.Picker.Asking
import OpGpui.Picker.History

/-!
# A picker on the desktop app

The picker over the SDK's own provider, with the client it shares with the application
around it. A load that runs becomes one operation of the client, or none where an id
is refused; the application makes operations of its own between the loads, `close`
included. Each of them holds `operation_lock` from its first message to its last, so here
each is one event. The picker keeps a handle, so the client is not dropped.

`Desktop` projects to both halves: to `System`, with what the provider would answer as the
answers, and to `Session`, with the loads as calls. `loads_ask_for_metadata` traces
every message of a load through the desktop app's own answers, and `selected_told` does
the same for the references that leave the picker.
-/

namespace Picker

open Serde Sdk Machine

/-- Who used the client. -/
inductive Caller where
  | load (number : Nat) (request : LoadRequest)
  | host (operation : Operation)

/-- The number of the load, if it was one. -/
def Caller.number : Caller → Option Nat
  | .load number _ => some number
  | .host _ => none

@[simp] theorem Caller.number_load {number : Nat} {request : LoadRequest} :
    (Caller.load number request).number = some number := rfl

@[simp] theorem Caller.number_host {operation : Operation} :
    (Caller.host operation).number = none := rfl

/-- One use of the client, with the messages it sent. -/
structure Visit where
  caller : Caller
  sent : List Exchange

structure Desktop where
  system : System
  client : ClientInner
  visits : List Visit

inductive DesktopEvent where
  /-- Anything that happens to the picker alone. -/
  | picker (event : Event)
  /-- Load `number` runs in the background, and these are the answers to its messages. -/
  | run (number : Nat) (answers : Stream' (Result Bytes))
  /-- The application makes a call of its own. -/
  | host (operation : Operation) (answers : Stream' (Result Bytes))

section Telling

variable [Codec]

/-- Some message of the visit was answered with a response that reads as the value. -/
def Visit.Brought {α : Type} (visit : Visit) (target : String) (deserialize : Json → Option α)
    (value : α) : Prop :=
  ∃ e ∈ visit.sent, ∃ response, readAnswer e.answer = .ok response ∧
    fromSlice target deserialize response = .ok value

/-- The desktop app has listed this vault to a load of the vaults. -/
def ToldVault (visits : List Visit) (vault : Vault) : Prop :=
  ∃ visit ∈ visits, ∃ number overviews, visit.caller = .load number .vaults ∧
    visit.Brought "Vec<VaultOverview>" (Json.deserializeVec VaultOverview.deserialize) overviews ∧
    ∃ overview ∈ overviews, OnePasswordProvider.vaultRow overview = vault

/-- The desktop app has listed this item to a load that asked under the id of the vault. -/
def ToldItem (visits : List Visit) (vaultId : String) (item : Item) : Prop :=
  ∃ visit ∈ visits, ∃ number vault overviews, visit.caller = .load number (.items vault) ∧
    vault.id = vaultId ∧
    visit.Brought "Vec<ItemOverview>" (Json.deserializeVec ItemOverview.deserialize) overviews ∧
    ∃ overview ∈ overviews, OnePasswordProvider.itemRow overview = item

/-- The desktop app has answered a load that asked for this item with an item that has a
field of this reference. -/
def ToldField (visits : List Visit) (vaultId itemId : String) (reference : SecretReference) : Prop :=
  ∃ visit ∈ visits, ∃ number vault item wire, visit.caller = .load number (.fields vault item) ∧
    vault.id = vaultId ∧ item.id = itemId ∧ visit.Brought "WireItem" WireItem.deserialize wire ∧
    ∃ field ∈ wire.fields,
      reference.asStr = "op://" ++ (vaultId ++ "/" ++ (itemId ++ "/" ++ innerText field))

/-- Everything a request names has been told of by the desktop app. -/
def Told (visits : List Visit) : LoadRequest → Prop
  | .vaults => True
  | .items vault => ToldVault visits vault
  | .fields vault item => ToldVault visits vault ∧ ToldItem visits vault.id item

variable [Target]

theorem Visit.brought_of_typed {α : Type} {visit : Visit} {client : ClientInner} {target : String}
    {deserialize : Json → Option α} {method : String} {parameters : List (String × Json)} {value : α}
    (log : (client.invokeTyped target deserialize method parameters).2.transport.log =
      client.transport.log ++ visit.sent)
    (read : (client.invokeTyped target deserialize method parameters).1 = .ok value) :
    visit.Brought target deserialize value := by
  rw [ClientInner.invokeTyped_eq] at log read
  obtain ⟨_, _, sent, grown, course⟩ := client.invokeBytes_course method parameters
  obtain rfl : sent = visit.sent := List.append_cancel_left (grown.symm.trans log)
  cases returned : (client.invokeBytes method parameters).1 with
  | error error =>
      rw [returned] at read
      cases read
  | ok response =>
      rw [returned] at read
      obtain ⟨e, member, answered⟩ := course.of_ok returned
      refine ⟨e, member, response, answered, ?_⟩
      simp only [Except.bind, fromSliceOrProtocol] at read
      split at read
      · rename_i decoded
        exact decoded.trans (congrArg Except.ok (Except.ok.inj read))
      · cases read

variable [Rust.UnicodeTables]

/-- The visit in which a provider call was made. -/
structure Backs (visit : Visit) (call : Call) : Prop where
  caller : visit.caller = .load call.number call.request
  provider : ∃ provider : OnePasswordProvider, call.provider = provider.answers ∧
    (call.request.ask provider).2.client.transport.log =
      provider.client.transport.log ++ visit.sent

variable {visits : List Visit} {calls : List Call}

theorem ToldVault.of_listed {vault : Vault} (backed : ∀ call ∈ calls, ∃ visit ∈ visits, Backs visit call)
    (listed : ListedVault calls vault) : ToldVault visits vault := by
  obtain ⟨⟨number, request, answering⟩, made, rfl, vaults, answered, inside⟩ := listed
  obtain ⟨visit, paid, caller, provider, rfl, log⟩ := backed _ made
  obtain ⟨result, client⟩ := provider.vaults_eq
  simp only [LoadRequest.ask, client] at log
  simp only [OnePasswordProvider.answers, result] at answered
  obtain ⟨overviews, read, rfl⟩ := Collect.mapError_map_eq_ok_iff.mp answered
  obtain ⟨overview, member, same⟩ := List.mem_map.mp inside
  exact ⟨visit, paid, number, overviews, caller, Visit.brought_of_typed log read, overview, member, same⟩

theorem ToldItem.of_listed {vaultId : String} {item : Item}
    (backed : ∀ call ∈ calls, ∃ visit ∈ visits, Backs visit call)
    (listed : ListedItem calls vaultId item) : ToldItem visits vaultId item := by
  obtain ⟨⟨number, request, answering⟩, made, ⟨vault, rfl, rfl⟩, items, answered, inside⟩ := listed
  obtain ⟨visit, paid, caller, provider, rfl, log⟩ := backed _ made
  cases checked : (Id.new vault.id : Result VaultId) with
  | error error => simp [OnePasswordProvider.answers, OnePasswordProvider.items, checked] at answered
  | ok vaultId =>
      obtain ⟨result, client⟩ := provider.items_eq checked
      simp only [LoadRequest.ask, client] at log
      simp only [OnePasswordProvider.answers, result] at answered
      obtain ⟨overviews, read, rfl⟩ := Collect.mapError_map_eq_ok_iff.mp answered
      obtain ⟨overview, member, same⟩ := List.mem_map.mp inside
      exact ⟨visit, paid, number, vault, overviews, caller, rfl, Visit.brought_of_typed log read,
        overview, member, same⟩

theorem ToldField.of_listed {vaultId itemId : String} {row : Field}
    (backed : ∀ call ∈ calls, ∃ visit ∈ visits, Backs visit call)
    (listed : ListedField calls vaultId itemId row) : ToldField visits vaultId itemId row.reference := by
  obtain ⟨⟨number, request, answering⟩, made, ⟨vault, item, rfl, rfl, rfl⟩, rows, answered, inside⟩ :=
    listed
  obtain ⟨visit, paid, caller, provider, rfl, log⟩ := backed _ made
  obtain ⟨wire, read, client, listed⟩ := provider.fields_ok answered
  simp only [LoadRequest.ask, client] at log
  obtain ⟨field, member, made⟩ := Collect.exists_of_mem_right listed inside
  exact ⟨visit, paid, number, vault, item, wire, caller, rfl, rfl, Visit.brought_of_typed log read,
    field, member, (row_of_fieldRow made).2.2.2.2⟩

end Telling

namespace Desktop

/-- A picker that has just been created over a connected client. -/
def start (client : ClientInner) : Desktop := ⟨.start, client, []⟩

variable [Codec] [Target] [Rust.UnicodeTables]

/-- Take over what a use of the client made of it. -/
def visit (s : Desktop) (caller : Caller) (client : ClientInner) : Desktop :=
  { s with
    client
    visits := s.visits ++
      [⟨caller, client.transport.log.drop s.client.transport.log.length⟩] }

/-- Run a load on the client. -/
def runLoad (s : Desktop) (number : Nat) (request : LoadRequest)
    (answers : Stream' (Result Bytes)) : Desktop :=
  let provider : OnePasswordProvider := ⟨s.client.listen answers⟩
  { s.visit (.load number request) (request.ask provider).2.client with
    system := s.system.answer number request provider.answers }

/-- The picker's own answers come from the client only. -/
def step (s : Desktop) : DesktopEvent → Option Desktop
  | .picker (.answer _ _) => none
  | .picker event => (s.system.step event).map fun system => { s with system }
  | .run number answers =>
      match s.system.tasks.find number with
      | some ⟨load, none⟩ => some (s.runLoad number load.request answers)
      | _ => none
  | .host operation answers =>
      some (s.visit (.host operation) (operation.perform (s.client.listen answers)).2)

variable {s t : Desktop} {event : DesktopEvent} {events : List DesktopEvent}

theorem step_picker {own : Event} (unasked : ∀ number provider, own ≠ .answer number provider) :
    s.step (.picker own) = (s.system.step own).map fun system => { s with system } := by
  cases own with
  | answer number provider => exact absurd rfl (unasked number provider)
  | act _ | complete _ | paint _ _ | click _ => rfl

/-- Everything an event can do. -/
theorem step_cases (h : s.step event = some t) :
    (∃ own system, event = .picker own ∧ s.system.step own = some system ∧
        system.calls = s.system.calls ∧ t = { s with system }) ∨
      (∃ number load answers, event = .run number answers ∧
        s.system.tasks.find number = some ⟨load, none⟩ ∧
        t = s.runLoad number load.request answers) ∨
      ∃ operation answers, event = .host operation answers ∧
        t = s.visit (.host operation) (operation.perform (s.client.listen answers)).2 := by
  cases event with
  | picker own =>
      have unasked : ∀ number provider, own ≠ .answer number provider := by
        rintro number provider rfl
        cases h
      rw [step_picker unasked] at h
      obtain ⟨system, moved, rfl⟩ := Option.map_eq_some_iff.mp h
      refine .inl ⟨own, system, rfl, moved, ?_, rfl⟩
      obtain ⟨_, _, rfl⟩ | ⟨_, _, _, asked, _⟩ | ⟨_, _, _, _, _, rfl⟩ | ⟨_, _, _, _, _, rfl⟩ :=
        System.step_cases moved
      · rfl
      · exact absurd asked (unasked _ _)
      · rfl
      · rfl
  | run number answers =>
      simp only [step] at h
      split at h
      · rename_i load found
        exact .inr (.inl ⟨number, load, answers, rfl, found, (Option.some.inj h).symm⟩)
      · cases h
  | host operation answers => exact .inr (.inr ⟨operation, answers, rfl, (Option.some.inj h).symm⟩)

/-- What an event is to the picker: at most one event of its own. -/
theorem step_system (h : s.step event = some t) :
    ∃ answered, Run System.step s.system answered t.system := by
  obtain ⟨own, system, rfl, moved, _, rfl⟩ | ⟨number, load, answers, rfl, found, rfl⟩ |
      ⟨operation, answers, rfl, rfl⟩ := step_cases h
  · exact ⟨[own], .single moved⟩
  · refine ⟨[.answer number (OnePasswordProvider.answers ⟨s.client.listen answers⟩)], .single ?_⟩
    simp [System.step, found, runLoad]
  · exact ⟨[], .nil _⟩

/-- The picker of a desktop is a system whose provider answers as its client does. -/
theorem projects_system (run : Run step s events t) :
    ∃ answered, Run System.step s.system answered t.system := by
  have square : ∀ (s : Desktop) (system : System) (event : DesktopEvent) (t : Desktop),
      s.system = system → s.step event = some t →
      ∃ answered after, Run System.step system answered after ∧ t.system = after := by
    rintro s _ event t rfl h
    obtain ⟨answered, follows⟩ := step_system h
    exact ⟨answered, _, follows, rfl⟩
  obtain ⟨answered, _, follows, rfl⟩ := run.stuttering square rfl
  exact ⟨answered, follows⟩

/-- The session a client stands for: a client is given its answers anew with every call. -/
def Leads (s : Desktop) (session : Session) : Prop :=
  session.handles = 1 ∧ ∃ answers, s.client = session.inner.listen answers

/-- A load at work: its visit, and what the client is after it. -/
theorem runLoad_visit (s : Desktop) (number : Nat) (request : LoadRequest)
    (answers : Stream' (Result Bytes)) :
    ∃ sent, (s.runLoad number request answers).visits = s.visits ++ [⟨.load number request, sent⟩] ∧
      (s.runLoad number request answers).client.transport.log = s.client.transport.log ++ sent ∧
      (s.runLoad number request answers).client.accountName = s.client.accountName ∧
      (s.runLoad number request answers).client.integration = s.client.integration ∧
      Discreet s.client.accountName s.client.integration request sent ∧
      Backs ⟨.load number request, sent⟩
        ⟨number, request, OnePasswordProvider.answers ⟨s.client.listen answers⟩⟩ := by
  obtain ⟨account, identity, sent, log, discreet⟩ := request.ask_sends ⟨s.client.listen answers⟩
  have grown : (s.runLoad number request answers).client.transport.log =
      s.client.transport.log ++ sent := log
  refine ⟨sent, ?_, grown, account, identity, discreet, rfl, _, rfl, log⟩
  change s.visits ++ [⟨.load number request,
    (s.runLoad number request answers).client.transport.log.drop s.client.transport.log.length⟩] = _
  rw [grown, List.drop_left]

/-- The client has sent what its visits did, and the loads among them were discreet. -/
structure Accountable (client : ClientInner) (s : Desktop) : Prop where
  account : s.client.accountName = client.accountName
  identity : s.client.integration = client.integration
  log : s.client.transport.log = client.transport.log ++ s.visits.flatMap Visit.sent
  discreet : ∀ visit ∈ s.visits, ∀ number request, visit.caller = .load number request →
    Discreet client.accountName client.integration request visit.sent
  backed : ∀ call ∈ s.system.calls, ∃ visit ∈ s.visits, Backs visit call
  numbers : s.visits.filterMap (fun visit => visit.caller.number) = s.system.calls.map Call.number

theorem Accountable.step {client : ClientInner} (accountable : s.Accountable client)
    (h : s.step event = some t) : t.Accountable client := by
  obtain ⟨own, system, rfl, _, calls, rfl⟩ | ⟨number, load, answers, rfl, found, rfl⟩ |
      ⟨operation, answers, rfl, rfl⟩ := step_cases h
  · obtain ⟨account, identity, log, discreet, backed, numbers⟩ := accountable
    exact ⟨account, identity, log, discreet, calls ▸ backed, calls ▸ numbers⟩
  · obtain ⟨sent, visits, log, account, identity, discreet, backs⟩ :=
      s.runLoad_visit number load.request answers
    rw [accountable.account, accountable.identity] at discreet
    refine ⟨account.trans accountable.account, identity.trans accountable.identity, ?_, ?_, ?_, ?_⟩
    · rw [log, visits, accountable.log]
      simp
    · rw [visits]
      intro visit member number' request caller
      obtain old | new := List.mem_append.mp member
      · exact accountable.discreet visit old number' request caller
      · obtain rfl := List.mem_singleton.mp new
        obtain ⟨_, rfl⟩ := Caller.load.inj caller
        exact discreet
    · rw [visits]
      intro call made
      obtain old | new := List.mem_append.mp made
      · obtain ⟨visit, paid, backs⟩ := accountable.backed call old
        exact ⟨visit, List.mem_append_left _ paid, backs⟩
      · obtain rfl := List.mem_singleton.mp new
        exact ⟨_, List.mem_append_right _ (.head _), backs⟩
    · rw [visits, List.filterMap_append, accountable.numbers]
      simp [runLoad, System.answer]
  · obtain ⟨asked, _, becomes⟩ := eval_call operation (s.client.listen answers)
    have grown : (operation.perform (s.client.listen answers)).2.transport.log =
        s.client.transport.log ++ exchanges asked := becomes.log
    refine ⟨becomes.account.trans accountable.account, becomes.identity.trans accountable.identity,
      ?_, ?_, ?_, ?_⟩
    · simp only [visit, grown, accountable.log, List.drop_left, List.flatMap_append]
      simp
    · intro visit member number' request caller
      obtain old | new := List.mem_append.mp member
      · exact accountable.discreet visit old number' request caller
      · obtain rfl := List.mem_singleton.mp new
        cases caller
    · intro call made
      obtain ⟨visit, paid, backs⟩ := accountable.backed call made
      exact ⟨visit, List.mem_append_left _ paid, backs⟩
    · simp [visit, accountable.numbers]

theorem Accountable.run {client : ClientInner}
    (run : Run Desktop.step (start client) events s) :
    s.Accountable client := by
  refine run.invariant (P := (Accountable client)) (fun _ _ _ kept h => kept.step h)
    ⟨rfl, rfl, (List.append_nil _).symm, ?_, ?_, rfl⟩
  · intro visit member
    cases member
  · intro call made
    cases made

/-- What a picker has chosen, the desktop app has told. -/
theorem Accountable.told {client : ClientInner} {reference : SecretReference}
    (accountable : s.Accountable client) (chosen : s.system.Chosen)
    (emitted : .selected reference ∈ s.system.emitted) :
    ∃ vault item, ToldVault s.visits vault ∧ ToldItem s.visits vault.id item ∧
      ToldField s.visits vault.id item.id reference := by
  obtain ⟨vault, item, field, listedVault, listedItem, listedField, rfl⟩ := chosen reference emitted
  exact ⟨vault, item, .of_listed accountable.backed listedVault,
    .of_listed accountable.backed listedItem, .of_listed accountable.backed listedField⟩

/-- A closed client has stayed closed and silent, and has refused every load since. -/
structure Refusing (s t : Desktop) : Prop where
  closed : t.client.clientId = none
  log : t.client.transport.log = s.client.transport.log
  refused : ∃ later, t.system.calls = s.system.calls ++ later ∧ ∀ call ∈ later,
    ∃ error, call.result = .error (.ofSdk error) ∧
      (error = .clientClosed ∨ call.request.operation = .error error)

theorem Refusing.step {u : Desktop} (refusing : s.Refusing t) (h : t.step event = some u) :
    s.Refusing u := by
  obtain ⟨closed, log, later, calls, refused⟩ := refusing
  obtain ⟨own, system, rfl, _, unchanged, rfl⟩ | ⟨number, load, answers, rfl, found, rfl⟩ |
      ⟨operation, answers, rfl, rfl⟩ := step_cases h
  · exact ⟨closed, log, later, unchanged.trans calls, refused⟩
  · have listening : (⟨t.client.listen answers⟩ : OnePasswordProvider).client.clientId = none := closed
    obtain ⟨unsent, error, failed, reason⟩ := load.request.ask_closed listening
    have kept : (t.runLoad number load.request answers).client = t.client.listen answers := unsent
    refine ⟨by rw [kept]; exact closed, by rw [kept]; exact log,
      later ++ [⟨number, load.request, OnePasswordProvider.answers ⟨t.client.listen answers⟩⟩], ?_, ?_⟩
    · exact (congrArg (· ++ [_]) calls).trans (List.append_assoc ..)
    · intro call made
      obtain old | new := List.mem_append.mp made
      · exact refused call old
      · obtain rfl := List.mem_singleton.mp new
        exact ⟨error, (load.request.ask_fst _).symm.trans failed, reason⟩
  · have listening : (t.client.listen answers).clientId = none := closed
    have unsent := ClientInner.perform_closed operation listening
    refine ⟨?_, ?_, later, calls, refused⟩
    · simp only [visit, unsent]
      exact closed
    · simp only [visit, unsent]
      exact log

/-- What a picker can still do when its client has been closed in the state `s`. -/
structure CutOff (s t : Desktop) : Prop extends Refusing s t where
  /-- It names, shows and emits only what had been listed before. -/
  request : Known s.system.calls t.system.picker.request
  rows : ∀ row ∈ t.system.picker.rows, Origin s.system.calls t.system.picker.request row
  emitted : ∀ reference, .selected reference ∈ t.system.emitted → ∃ vault item field,
    ListedVault s.system.calls vault ∧ ListedItem s.system.calls vault.id item ∧
      ListedField s.system.calls vault.id item.id field ∧ field.reference = reference

/-- Closing the client cuts the picker off. From the call of `close` on, whatever the user
and the application do, no message is sent, every load fails, and the picker is left with
what it had been told before. -/
theorem close_cuts_off {client : ClientInner} {earlier later : List DesktopEvent}
    {answers : Stream' (Result Bytes)}
    (run : Run Desktop.step (start client) (earlier ++ [.host .close answers]) s)
    (rest : Run Desktop.step s later t) : CutOff s t := by
  have closed : s.client.clientId = none := by
    obtain ⟨before, _, last⟩ := Run.append_iff.mp run
    obtain ⟨_, closing, stopped⟩ := Run.cons_iff.mp last
    obtain rfl := Run.nil_iff.mp stopped
    obtain rfl := Option.some.inj closing
    exact (before.client.listen answers).releaseLocked_clientId
  have refusing : s.Refusing t :=
    rest.invariant (P := s.Refusing) (fun _ _ _ kept h => kept.step h)
      ⟨closed, rfl, [], (List.append_nil _).symm, fun call made => by cases made⟩
  obtain ⟨answered, follows⟩ := projects_system (run.append rest)
  have traced := System.Traced.run follows
  have chosen := System.Chosen.run follows
  obtain ⟨newer, calls, refused⟩ := refusing.refused
  have failed : ∀ call ∈ newer, ∀ rows, call.result ≠ .ok rows := by
    intro call made rows answered
    obtain ⟨error, same, _⟩ := refused call made
    rw [same] at answered
    cases answered
  refine ⟨refusing, ?_, ?_, ?_⟩
  · have known := traced.request
    rw [calls] at known
    exact known.of_failed failed
  · intro row member
    have origin := traced.rows row member
    rw [calls] at origin
    exact origin.of_failed failed
  · intro reference emitted
    obtain ⟨vault, item, field, first, second, third, same⟩ := chosen reference emitted
    rw [calls] at first second third
    exact ⟨vault, item, field, first.of_failed failed, second.of_failed failed,
      third.of_failed failed, same⟩

end Desktop

section Browsing

/-- One vault with one item, and a session that lapses between them. -/
def browsedVaults : Json := .array [.object [("id", .string "v"), ("title", .string "Vault")]]

def browsedItems : Json := .array [.object [("id", .string "i"), ("title", .string "Item"),
  ("category", .string "Login"), ("vaultId", .string "v")]]

@[reducible] def browsingCodec : Codec :=
  .ofDocuments [browsedVaults, Sdk.accepted browsedVaults, browsedItems, Sdk.accepted browsedItems,
    loginItem, Sdk.accepted loginItem, serializeU64 9, Sdk.accepted (serializeU64 9),
    expiredSession, lapsedResponse]

local instance browsingInstance : Codec := browsingCodec

local instance browsingTarget : Target := .linux

local instance browsingTables : Rust.UnicodeTables := .ascii

/-- Every message is answered with this document. -/
def saying (json : Json) : Stream' (Result Bytes) := .const (.ok (Sdk.accepted json).toBytes)

/-- The user opens the vault and the item, and confirms the first field. -/
def browsing : List DesktopEvent :=
  [.run 1 (saying browsedVaults), .picker (.complete 1), .picker (.act .confirm),
    .run 2 (.cons (.ok lapsedResponse.toBytes)
      (.cons (.ok (Sdk.accepted (serializeU64 9)).toBytes) (saying browsedItems))),
    .picker (.complete 2), .picker (.act .confirm), .run 3 (saying loginItem),
    .picker (.complete 3), .picker (.act .confirm)]

def passwordReference : SecretReference := ⟨"op://v/i/password", by decide⟩

/-- The application closes the client, and the user goes back. -/
def goingBack : List DesktopEvent :=
  [.picker (.act .goBack), .run 4 (saying browsedItems), .picker (.complete 4)]

theorem close_cuts_off_browsing : ∃ s t,
    Run Desktop.step (.start deskClient) (browsing ++ [DesktopEvent.host .close (saying .null)]) s ∧
    Run Desktop.step s goingBack t ∧ Desktop.CutOff s t ∧
    t.system.picker.loadState = .failed (.ofSdk .clientClosed) := by
  have reached : ((browsing ++ [DesktopEvent.host .close (saying .null)]).foldlM Desktop.step
      (.start deskClient)).any (fun s => (goingBack.foldlM Desktop.step s).any fun t : Desktop =>
        t.system.picker.loadState = .failed (.ofSdk .clientClosed)) = true := by
    decide +kernel
  obtain ⟨s, folded, continued⟩ := (Option.any_eq_true _ _).mp reached
  obtain ⟨t, refolded, failed⟩ := (Option.any_eq_true _ _).mp continued
  have run := Run.iff_foldlM.mpr folded
  have rest := Run.iff_foldlM.mpr refolded
  exact ⟨s, t, run, rest, Desktop.close_cuts_off run rest, of_decide_eq_true failed⟩

end Browsing

end Picker