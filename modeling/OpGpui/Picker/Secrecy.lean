import OpGpui.Sdk.Redaction
import OpGpui.Picker.Desktop

/-!
# Values never reach the picker

Two runs of a desktop are told the same story except for the values in it: the items the
app answers differ in members the client does not name, and what the application resolves
is something else. Then the picker, its pending loads, what it has emitted and painted, and
every request sent to the desktop app are the same. So none of them depends on a value.
-/

namespace Picker

open Serde Sdk Machine

/-- Two systems that differ at most in what their providers would have answered. -/
structure System.SameScreen (s s' : System) : Prop where
  picker : s'.picker = s.picker
  tasks : s'.tasks = s.tasks
  emitted : s'.emitted = s.emitted
  frame : s'.frame = s.frame

/-- What a visit looks like to the desktop app. -/
def Visit.asked (visit : Visit) : Caller × List Request :=
  (visit.caller, visit.sent.map Exchange.request)

/-- Two desktops no value tells apart. -/
structure SameView (s s' : Desktop) : Prop where
  screen : s.system.SameScreen s'.system
  session : SameSession s.client s'.client
  asked : s'.visits.map Visit.asked = s.visits.map Visit.asked

theorem SameView.refl (s : Desktop) : SameView s s :=
  ⟨⟨rfl, rfl, rfl, rfl⟩, ⟨rfl, rfl, rfl⟩, rfl⟩

section Stories

variable [Rust.UnicodeTables]

theorem System.SameScreen.step {s s' t : System} {event : Event} (same : s.SameScreen s')
    (unasked : ∀ number provider, event ≠ .answer number provider) (h : s.step event = some t) :
    ∃ t', s'.step event = some t' ∧ t.SameScreen t' := by
  obtain ⟨picker, tasks, calls, emitted, frame⟩ := s
  obtain ⟨picker', tasks', calls', emitted', frame'⟩ := s'
  obtain ⟨rfl, rfl, rfl, rfl⟩ := same
  cases event with
  | act action =>
      obtain rfl := Option.some.inj h
      exact ⟨_, rfl, rfl, rfl, rfl, rfl⟩
  | answer number provider => exact absurd rfl (unasked number provider)
  | complete number =>
      simp only [System.step] at h ⊢
      split at h
      · rename_i load result found
        obtain rfl := Option.some.inj h
        exact ⟨System.deliver ⟨_, _, calls', _, _⟩ number load result, rfl, rfl, rfl, rfl, rfl⟩
      · cases h
  | paint first count =>
      simp only [System.step] at h ⊢
      split at h
      · rename_i inside
        obtain ⟨body, painted, rfl⟩ := Option.map_eq_some_iff.mp h
        rw [if_pos inside]
        exact ⟨_, Option.map_eq_some_iff.mpr ⟨body, painted, rfl⟩, rfl, rfl, rfl, rfl⟩
      · cases h
  | click place =>
      obtain ⟨painted, found, rfl⟩ := Option.map_eq_some_iff.mp h
      exact ⟨_, Option.map_eq_some_iff.mpr ⟨painted, found, rfl⟩, rfl, rfl, rfl, rfl⟩

variable [Codec] [Target]

namespace Desktop

/-- A second telling of a run: values may differ in the answers to a load or to a call of
the application, and nothing else does. -/
inductive Retelling : Desktop → List DesktopEvent → List DesktopEvent → Prop where
  | done {s} : Retelling s [] []
  | picker {s t event events events'} (h : s.step (.picker event) = some t)
      (rest : Retelling t events events') :
      Retelling s (.picker event :: events) (.picker event :: events')
  | load {s t number load answers answers' events events'}
      (found : s.system.tasks.find number = some ⟨load, none⟩)
      (retold : ∀ operation, load.request.operation = .ok operation →
        Retold operation answers answers')
      (h : s.step (.run number answers) = some t) (rest : Retelling t events events') :
      Retelling s (.run number answers :: events) (.run number answers' :: events')
  | host {s t operation answers answers' events events'}
      (retold : Retold operation answers answers')
      (h : s.step (.host operation answers) = some t) (rest : Retelling t events events') :
      Retelling s (.host operation answers :: events) (.host operation answers' :: events')

variable {s s' t : Desktop} {events told told' : List DesktopEvent}

/-- A run may be told as it was, up to some point. -/
theorem Retelling.after (run : Run Desktop.step s events t) (rest : Retelling t told told') :
    Retelling s (events ++ told) (events ++ told') := by
  induction run with
  | nil => exact rest
  | @cons s event u events t h _ ih =>
      cases event with
      | picker own => exact .picker h (ih rest)
      | run number answers =>
          obtain ⟨_, _, impossible, _⟩ | ⟨_, load, _, same, found, _⟩ | ⟨_, _, impossible, _⟩ :=
            step_cases h
          · cases impossible
          · cases same
            exact .load found (fun operation _ => .refl operation answers) h (ih rest)
          · cases impossible
      | host operation answers => exact .host (.refl operation answers) h (ih rest)

omit [Rust.UnicodeTables] [Codec] [Target] in
/-- A visit adds the same requests to both desktops. -/
theorem asked_visit {caller : Caller} {client client' : ClientInner}
    (same : s'.visits.map Visit.asked = s.visits.map Visit.asked)
    (requests : SameRequests s.client client s'.client client') :
    (s'.visit caller client').visits.map Visit.asked = (s.visit caller client).visits.map Visit.asked := by
  obtain ⟨sent, sent', log, log', requests⟩ := requests
  simp [visit, log, log', same, Visit.asked, requests]

/-- A load returns the same rows, and asks for them in the same way. -/
theorem ask_retold {request : LoadRequest} {answers answers' : Stream' (Result Bytes)}
    (same : SameSession s.client s'.client)
    (retold : ∀ operation, request.operation = .ok operation → Retold operation answers answers') :
    (request.ask ⟨s'.client.listen answers'⟩).1 = (request.ask ⟨s.client.listen answers⟩).1 ∧
      SameSession (request.ask ⟨s.client.listen answers⟩).2.client
        (request.ask ⟨s'.client.listen answers'⟩).2.client ∧
      SameRequests s.client (request.ask ⟨s.client.listen answers⟩).2.client
        s'.client (request.ask ⟨s'.client.listen answers'⟩).2.client := by
  have listening : SameSession (s.client.listen answers) (s'.client.listen answers') :=
    ⟨same.account, same.identity, same.clientId⟩
  cases accepted : request.operation with
  | error error =>
      rw [LoadRequest.ask_refused accepted, LoadRequest.ask_refused accepted]
      exact ⟨rfl, listening, [], [], (List.append_nil _).symm, (List.append_nil _).symm, rfl⟩
  | ok operation =>
      obtain ⟨session, requests, reply⟩ := perform_retold listening (retold operation accepted)
      refine ⟨LoadRequest.ask_congr accepted (reply ?_), ?_, ?_⟩
      · rintro reference rfl
        have invoked := LoadRequest.invocation_operation accepted
        cases request <;> simp [LoadRequest.invocation, Operation.invocation] at invoked
      · rw [LoadRequest.ask_client accepted, LoadRequest.ask_client accepted]
        exact session
      · rw [LoadRequest.ask_client accepted, LoadRequest.ask_client accepted]
        exact requests

/-- Values never reach the picker. -/
theorem values_unseen {events' : List DesktopEvent} (run : Run Desktop.step s events t)
    (retelling : Retelling s events events') (same : SameView s s') :
    ∃ t', Run Desktop.step s' events' t' ∧ SameView t t' := by
  induction retelling generalizing s' t with
  | done =>
      obtain rfl := Run.nil_iff.mp run
      exact ⟨s', .nil _, same⟩
  | @picker s u event events events' h rest ih =>
      obtain ⟨_, first, others⟩ := Run.cons_iff.mp run
      obtain rfl := Option.some.inj (h.symm.trans first)
      have unasked : ∀ number provider, event ≠ .answer number provider := by
        rintro number provider rfl
        cases h
      rw [step_picker unasked] at h
      obtain ⟨system, moved, rfl⟩ := Option.map_eq_some_iff.mp h
      obtain ⟨system', moved', screen⟩ := same.screen.step unasked moved
      have h' : s'.step (.picker event) = some { s' with system := system' } := by
        rw [step_picker unasked, moved']
        rfl
      have same' : SameView { s with system } { s' with system := system' } :=
        ⟨screen, same.session, same.asked⟩
      obtain ⟨t', run', view⟩ := ih others same'
      exact ⟨t', .cons h' run', view⟩
  | @load s u number load answers answers' events events' found retold h rest ih =>
      obtain ⟨_, first, others⟩ := Run.cons_iff.mp run
      obtain rfl := Option.some.inj (h.symm.trans first)
      have waiting : s'.system.tasks.find number = some ⟨load, none⟩ := by
        rw [same.screen.tasks, found]
      have h' : s'.step (.run number answers') = some (s'.runLoad number load.request answers') := by
        simp only [step, waiting]
      obtain rfl : s.runLoad number load.request answers = u := by simpa [step, found] using h
      obtain ⟨result, session, requests⟩ := ask_retold same.session retold
      have answered : load.request.run (OnePasswordProvider.answers ⟨s'.client.listen answers'⟩) =
          load.request.run (OnePasswordProvider.answers ⟨s.client.listen answers⟩) := by
        rw [← LoadRequest.ask_fst, ← LoadRequest.ask_fst, result]
      have same' : SameView (s.runLoad number load.request answers)
          (s'.runLoad number load.request answers') :=
        ⟨⟨same.screen.picker, by simp [runLoad, System.answer, answered, same.screen.tasks],
          same.screen.emitted, same.screen.frame⟩, session, asked_visit same.asked requests⟩
      obtain ⟨t', run', view⟩ := ih others same'
      exact ⟨t', .cons h' run', view⟩
  | @host s u operation answers answers' events events' retold h rest ih =>
      obtain ⟨_, first, others⟩ := Run.cons_iff.mp run
      obtain rfl := Option.some.inj (h.symm.trans first)
      obtain rfl := Option.some.inj h
      have listening : SameSession (s.client.listen answers) (s'.client.listen answers') :=
        ⟨same.session.account, same.session.identity, same.session.clientId⟩
      obtain ⟨session, requests, _⟩ := perform_retold listening retold
      have same' : SameView
          (s.visit (.host operation) (operation.perform (s.client.listen answers)).2)
          (s'.visit (.host operation) (operation.perform (s'.client.listen answers')).2) :=
        ⟨same.screen, session, asked_visit same.asked requests⟩
      obtain ⟨t', run', view⟩ := ih others same'
      exact ⟨t', .cons rfl run', view⟩

end Desktop

end Stories

section Telling

/-- An item with one field, and a value in it. -/
def valuedItem (value : String) : Json := .object [
  ("fields", .array [.object [("id", .string "password"), ("title", .string "password"),
    ("value", .string value), ("fieldType", .string "Concealed")]])]

local instance tellingCodec : Codec :=
  .ofDocuments [browsedVaults, Sdk.accepted browsedVaults, browsedItems, Sdk.accepted browsedItems,
    valuedItem "one", Sdk.accepted (valuedItem "one"), valuedItem "two",
    Sdk.accepted (valuedItem "two"), .string "one", Sdk.accepted (.string "one"), .string "two",
    Sdk.accepted (.string "two")]

local instance tellingTarget : Target := .linux

local instance tellingTables : Rust.UnicodeTables := .ascii

/-- The user comes to the fields of an item. -/
def comingToFields : List DesktopEvent :=
  [.run 1 (saying browsedVaults), .picker (.complete 1), .picker (.act .confirm),
    .run 2 (saying browsedItems), .picker (.complete 2), .picker (.act .confirm)]

/-- The answer to one message. -/
def sayingOnce (json : Json) : Stream' (Result Bytes) :=
  .cons (.ok (Sdk.accepted json).toBytes) (.const (.error .channelClosed))

/-- Every later message goes unanswered. -/
theorem sayingOnce_succ (json : Json) (n : Nat) :
    (sayingOnce json).get (n + 1) = .error .channelClosed := rfl

/-- The fields are listed, and one is chosen. -/
def choosing : List DesktopEvent := [.picker (.complete 3), .picker (.act .confirm)]

/-- The item is told with a value, and the application resolves the reference to it. -/
def telling (value : String) : List DesktopEvent :=
  comingToFields ++ .run 3 (sayingOnce (valuedItem value)) :: (choosing ++
    [.host (.resolve passwordReference) (sayingOnce (.string value))])

/-- The item is the same whatever the value. -/
theorem redactItem_valuedItem (value : String) : redactItem (valuedItem value) = .object [
    ("fields", .array [.object [("id", .string "password"), ("title", .string "password"),
      ("fieldType", .string "Concealed")]])] := by
  simp [valuedItem, redactItem, keepNamed, redactMember, mapItems, redactField]

theorem valuedItem_retold (vaultId : VaultId) (itemId : ItemId) :
    Retold (.fields vaultId itemId) (sayingOnce (valuedItem "one")) (sayingOnce (valuedItem "two")) := by
  have decoded : WireItem.deserialize (valuedItem "one") =
      some ⟨[⟨⟨"password"⟩, "password", none, ⟨"Concealed"⟩⟩], []⟩ := rfl
  have first : Codec.document (valuedItem "one").toBytes = some (valuedItem "one") :=
    Codec.ofDocuments_document (by decide +kernel) (by simp)
  have second : Codec.document (valuedItem "two").toBytes = some (valuedItem "two") :=
    Codec.ofDocuments_document (by decide +kernel) (by simp)
  have read : readAnswer ((sayingOnce (valuedItem "one")).get 0) = .ok (valuedItem "one").toBytes := by
    decide +kernel
  have reread : readAnswer ((sayingOnce (valuedItem "two")).get 0) =
      .ok (valuedItem "two").toBytes := by
    decide +kernel
  refine ⟨(sayingOnce_succ _ 0).trans (sayingOnce_succ _ 0).symm, fun n => ?_⟩
  cases n with
  | zero =>
      exact .inr ⟨_, _, read, reread, _, _, _, first, second,
        (redactItem_valuedItem "one").trans (redactItem_valuedItem "two").symm, decoded⟩
  | succ n => exact .inl ((sayingOnce_succ _ n).trans (sayingOnce_succ _ n).symm)

theorem value_retold (reference : SecretReference) :
    Retold (.resolve reference) (sayingOnce (.string "one")) (sayingOnce (.string "two")) := by
  refine ⟨(sayingOnce_succ _ 0).trans (sayingOnce_succ _ 0).symm, fun n => ?_⟩
  cases n with
  | zero =>
      exact .inr ⟨(Json.string "one").toBytes, (Json.string "two").toBytes, by decide +kernel,
        by decide +kernel, trivial⟩
  | succ n => exact .inl ((sayingOnce_succ _ n).trans (sayingOnce_succ _ n).symm)

def browsedVault : Vault := ⟨"v", "Vault", "", some 0⟩

def browsedItem : Item := ⟨"i", "v", "Item", "Login"⟩

/-- The load of the fields, and its end in the first telling. -/
theorem telling_reached : ∃ s generation t, Run Desktop.step (.start deskClient) comingToFields s ∧
    s.system.tasks.find 3 = some ⟨⟨generation, .fields browsedVault browsedItem⟩, none⟩ ∧
    Run Desktop.step (s.runLoad 3 (.fields browsedVault browsedItem)
      (sayingOnce (valuedItem "one"))) choosing t ∧
    t.system.emitted = [.selected passwordReference] := by
  have reached : (comingToFields.foldlM Desktop.step (.start deskClient)).any (fun s =>
      ((s.system.tasks.find 3).any fun task =>
        task.load.request = .fields browsedVault browsedItem && task.result.isNone) &&
      (choosing.foldlM Desktop.step (s.runLoad 3 (.fields browsedVault browsedItem)
        (sayingOnce (valuedItem "one")))).any fun t : Desktop =>
          t.system.emitted = [.selected passwordReference]) = true := by
    decide +kernel
  obtain ⟨s, folded, holds⟩ := (Option.any_eq_true _ _).mp reached
  obtain ⟨waiting, chosen⟩ := Bool.and_eq_true_iff.mp holds
  obtain ⟨⟨⟨generation, request⟩, result⟩, found, held⟩ := (Option.any_eq_true _ _).mp waiting
  obtain ⟨t, refolded, emitted⟩ := (Option.any_eq_true _ _).mp chosen
  simp only [Bool.and_eq_true, decide_eq_true_eq, Option.isNone_iff_eq_none] at held
  obtain ⟨rfl, rfl⟩ := held
  exact ⟨s, generation, t, Run.iff_foldlM.mpr folded, found, Run.iff_foldlM.mpr refolded,
    of_decide_eq_true emitted⟩

/-- Two values, and one picture. -/
theorem values_unseen_telling : ∃ t t', Run Desktop.step (.start deskClient) (telling "one") t ∧
    Run Desktop.step (.start deskClient) (telling "two") t' ∧ SameView t t' ∧
    t'.system.emitted = [.selected passwordReference] := by
  obtain ⟨s, generation, t, coming, found, chosen, emitted⟩ := telling_reached
  have asking : s.step (.run 3 (sayingOnce (valuedItem "one"))) =
      some (s.runLoad 3 (.fields browsedVault browsedItem) (sayingOnce (valuedItem "one"))) := by
    simp only [Desktop.step, found]
  have resolving : Run Desktop.step t
      [.host (.resolve passwordReference) (sayingOnce (.string "one"))] _ := .single rfl
  have run := coming.append (.cons asking (chosen.append resolving))
  have retelling : Desktop.Retelling (.start deskClient) (telling "one") (telling "two") := by
    refine .after coming (.load found ?_ asking (.after chosen (.host (value_retold _) rfl .done)))
    intro operation accepted
    obtain ⟨vaultId, itemId, _, _, rfl⟩ := LoadRequest.operation_fields_eq_ok_iff.mp accepted
    exact valuedItem_retold vaultId itemId
  obtain ⟨t', run', view⟩ := Desktop.values_unseen run retelling (.refl _)
  exact ⟨_, t', run, run', view, view.screen.emitted.trans emitted⟩

end Telling

end Picker
