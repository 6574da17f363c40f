import OpGpui.Sdk.Course

/-!
# What the client retains of an item

The answer to `ItemsGet` holds the values of the fields, under members the client does
not name. `redactItem` leaves out every member it does not name; what the client makes
of an item is what it makes of the redacted item. `Restated` relates two answers that
differ in values only, and `perform_retold` is the consequence for a whole
operation: the same messages, the same session and, except for a resolved value,
the same reply.
-/

namespace Sdk

open Serde

section Members

variable {name : String} {names : List String} {members : List (String × Json)}

/-- The members with one of these names. -/
def keepNamed (names : List String) (members : List (String × Json)) : List (String × Json) :=
  members.filter fun entry => entry.1 ∈ names

theorem valuesNamed_keepNamed (named : name ∈ names) :
    valuesNamed name (keepNamed names members) = valuesNamed name members := by
  simp only [valuesNamed, keepNamed, List.filter_filter]
  congr 1
  apply List.filter_congr
  intro entry _
  by_cases same : entry.1 = name
  · simp [same, named]
  · simp [same]

/-- An object is read by name. -/
theorem fields_object (count : Nat) :
    (Json.object members).fields count = some fun _ name => valuesNamed name members := rfl

theorem defaulted_map {α : Type} {default : α} {deserialize : Json → Option α} {f : Json → Json}
    (values : List Json) : Json.defaulted default deserialize (values.map f) =
      Json.defaulted default (fun json => deserialize (f json)) values := by
  cases values with
  | nil => rfl
  | cons json others => cases others <;> rfl

/-- Change the elements of an array. -/
def mapItems (f : Json → Json) : Json → Json
  | .array items => .array (items.map f)
  | json => json

/-- A change no decoding of the elements sees is not seen in a list of them. -/
theorem deserializeVec_mapItems {α : Type} {deserialize : Json → Option α} {f : Json → Json}
    (unseen : ∀ json, deserialize (f json) = deserialize json) (json : Json) :
    Json.deserializeVec deserialize (mapItems f json) = Json.deserializeVec deserialize json := by
  cases json with
  | array items => simp [Json.deserializeVec, mapItems, List.mapM_map, Function.comp_def, unseen]
  | null | bool _ | number _ | string _ | object _ => rfl

end Members

/-- A field without the members the client does not name, its value among them. -/
def redactField : Json → Json
  | .object members => .object (keepNamed ["id", "title", "sectionId", "fieldType"] members)
  | json => json

def redactSection : Json → Json
  | .object members => .object (keepNamed ["id", "title"] members)
  | json => json

/-- A member of an item, under its name. -/
def redactMember (entry : String × Json) : String × Json :=
  (entry.1, mapItems (if entry.1 = "fields" then redactField else redactSection) entry.2)

def redactItem : Json → Json
  | .object members => .object ((keepNamed ["fields", "sections"] members).map redactMember)
  | .array (fields :: others) =>
      .array (mapItems redactField fields :: others.map (mapItems redactSection))
  | json => json

theorem WireField.deserialize_redactField (json : Json) :
    WireField.deserialize (redactField json) = WireField.deserialize json := by
  cases json with
  | object members =>
      simp only [redactField, WireField.deserialize, fields_object]
      simp [valuesNamed_keepNamed]
  | null | bool _ | number _ | string _ | array _ => rfl

theorem WireSection.deserialize_redactSection (json : Json) :
    WireSection.deserialize (redactSection json) = WireSection.deserialize json := by
  cases json with
  | object members =>
      simp only [redactSection, WireSection.deserialize, fields_object]
      simp [valuesNamed_keepNamed]
  | null | bool _ | number _ | string _ | array _ => rfl

theorem valuesNamed_redactMember (name : String) (members : List (String × Json)) :
    valuesNamed name (members.map redactMember) = (valuesNamed name members).map
      (mapItems (if name = "fields" then redactField else redactSection)) := by
  simp only [valuesNamed, List.filter_map, List.map_map]
  apply List.map_congr_left
  intro entry member
  obtain rfl : entry.1 = name := of_decide_eq_true (List.mem_filter.mp member).2
  rfl

/-- The client makes the same of an item without its values. -/
theorem WireItem.deserialize_redactItem (json : Json) :
    WireItem.deserialize (redactItem json) = WireItem.deserialize json := by
  have fields := deserializeVec_mapItems WireField.deserialize_redactField
  have sections := deserializeVec_mapItems WireSection.deserialize_redactSection
  cases json with
  | object members =>
      simp only [redactItem, WireItem.deserialize, fields_object, valuesNamed_redactMember]
      simp [valuesNamed_keepNamed, defaulted_map, fields, sections]
  | array items =>
      cases items with
      | nil => rfl
      | cons first others =>
          simp only [redactItem, WireItem.deserialize, Json.fields, List.length_cons,
            List.length_map]
          cases others with
          | nil => simp [Json.defaulted, fields]
          | cons second rest =>
              -- An array with a third element is no item.
              cases rest <;> simp [Json.defaulted, fields, sections]
  | null | bool _ | number _ | string _ => rfl

section Values

variable [Codec] {operation : Operation} {answer other : Result Bytes}
variable {answers answers' : Stream' (Result Bytes)}

/-- Two answers that differ in values only: two documents of one redacted item, or any
two successes of a resolution. -/
def Restated (operation : Operation) (answer other : Result Bytes) : Prop :=
  ∃ response response', readAnswer answer = .ok response ∧ readAnswer other = .ok response' ∧
    match operation with
    | .fields _ _ => ∃ json json' wire, Codec.document response = some json ∧
        Codec.document response' = some json' ∧ redactItem json = redactItem json' ∧
        WireItem.deserialize json = some wire
    | .resolve _ => True
    | _ => False

/-- The same answers to the messages of an operation, up to values. The second message of
an operation renews the session. -/
structure Retold (operation : Operation) (answers answers' : Stream' (Result Bytes)) : Prop where
  renewal : answers.get 1 = answers'.get 1
  restated : ∀ n, answers.get n = answers'.get n ∨
    Restated operation (answers.get n) (answers'.get n)

theorem Retold.refl (operation : Operation) (answers : Stream' (Result Bytes)) :
    Retold operation answers answers := ⟨rfl, fun _ => .inl rfl⟩

theorem Restated.reply (restated : Restated operation answer other)
    (unresolved : ∀ reference, operation ≠ .resolve reference) :
    operation.reply (readAnswer other) = operation.reply (readAnswer answer) := by
  obtain ⟨response, response', read, reread, differs⟩ := restated
  cases operation with
  | fields vaultId itemId =>
      obtain ⟨json, json', wire, document, document', same, decoded⟩ := differs
      have redecoded : WireItem.deserialize json' = some wire := by
        rw [← WireItem.deserialize_redactItem, ← same, WireItem.deserialize_redactItem, decoded]
      have first : fromSlice "WireItem" WireItem.deserialize response = .ok wire :=
        fromSlice_eq_ok_iff.mpr ⟨json, document, decoded⟩
      have second : fromSlice "WireItem" WireItem.deserialize response' = .ok wire :=
        fromSlice_eq_ok_iff.mpr ⟨json', document', redecoded⟩
      simp [Operation.reply, read, reread, Except.bind, fromSliceOrProtocol, first, second]
  | resolve reference => exact absurd rfl (unresolved reference)
  | vaults => exact differs.elim
  | items vaultId => exact differs.elim
  | close => exact differs.elim

theorem Retold.expired (retold : Retold operation answers answers') (n : Nat) :
    expired (readAnswer (answers'.get n)) = expired (readAnswer (answers.get n)) := by
  obtain same | ⟨response, response', read, reread, _⟩ := retold.restated n
  · rw [same]
  · rw [read, reread]
    rfl

theorem Retold.reply (retold : Retold operation answers answers')
    (unresolved : ∀ reference, operation ≠ .resolve reference) (n : Nat) :
    operation.reply (readAnswer (answers'.get n)) = operation.reply (readAnswer (answers.get n)) := by
  obtain same | restated := retold.restated n
  · rw [same]
  · exact restated.reply unresolved

variable [Target] {inner inner' : ClientInner}

/-- Two clients that hold the same session under the same identity. -/
structure SameSession (inner inner' : ClientInner) : Prop where
  account : inner'.accountName = inner.accountName
  identity : inner'.integration = inner.integration
  clientId : inner'.clientId = inner.clientId

/-- The requests of the messages one client and another have added are the same. -/
def SameRequests (inner after inner' after' : ClientInner) : Prop :=
  ∃ sent sent', after.transport.log = inner.transport.log ++ sent ∧
    after'.transport.log = inner'.transport.log ++ sent' ∧
    sent'.map Exchange.request = sent.map Exchange.request

theorem invokeBytes_retold (method : String) (parameters : List (String × Json))
    (same : SameSession inner inner')
    (retold : Retold operation inner.transport.answers inner'.transport.answers) :
    SameSession (inner.invokeBytes method parameters).2 (inner'.invokeBytes method parameters).2 ∧
      SameRequests inner (inner.invokeBytes method parameters).2
        inner' (inner'.invokeBytes method parameters).2 ∧
      ((∀ reference, operation ≠ .resolve reference) →
        operation.reply (inner'.invokeBytes method parameters).1 =
          operation.reply (inner.invokeBytes method parameters).1) := by
  obtain ⟨account, identity, clientId⟩ := same
  have first : Sdk.expired (readAnswer inner'.nextAnswer) = Sdk.expired (readAnswer inner.nextAnswer) :=
    retold.expired 0
  obtain ⟨closed, eq⟩ |
      ⟨id, held, ⟨answered, eq⟩ | ⟨error, lapsed, failed, eq⟩ | ⟨next, lapsed, opened, eq⟩⟩ :=
    inner.invokeBytes_cases method parameters
  · rw [eq, ClientInner.invokeBytes_closed (clientId.trans closed)]
    exact ⟨⟨account, identity, clientId⟩, ⟨[], [], by simp, by simp, rfl⟩, fun _ => rfl⟩
  · rw [eq, ClientInner.invokeBytes_answered (clientId.trans held) (first.trans answered), account]
    exact ⟨⟨account, identity, clientId⟩, ⟨_, _, rfl, rfl, rfl⟩,
      fun unresolved => retold.reply unresolved 0⟩
  · have failed' : readSession (inner'.transport.answers.get 1) = .error error := by
      rw [← retold.renewal, failed]
    rw [eq, ClientInner.invokeBytes_notRenewed (clientId.trans held) (first.trans lapsed) failed',
      account, identity]
    exact ⟨⟨account, identity, clientId⟩,
      ⟨_, _, List.append_assoc .., List.append_assoc .., rfl⟩, fun _ => rfl⟩
  · have opened' : readSession (inner'.transport.answers.get 1) = .ok next := by
      rw [← retold.renewal, opened]
    rw [eq, ClientInner.invokeBytes_renewed (clientId.trans held) (first.trans lapsed) opened',
      account, identity]
    exact ⟨⟨account, identity, rfl⟩,
      ⟨_, _, (List.append_assoc ..).trans (List.append_assoc ..),
        (List.append_assoc ..).trans (List.append_assoc ..), rfl⟩,
      fun unresolved => retold.reply unresolved 2⟩

/-- An operation does the same whatever values it meets. -/
theorem perform_retold (same : SameSession inner inner')
    (retold : Retold operation inner.transport.answers inner'.transport.answers) :
    SameSession (operation.perform inner).2 (operation.perform inner').2 ∧
      SameRequests inner (operation.perform inner).2 inner' (operation.perform inner').2 ∧
      ((∀ reference, operation ≠ .resolve reference) →
        (operation.perform inner').1 = (operation.perform inner).1) := by
  cases sends : operation.invocation with
  | some call =>
      obtain ⟨session, requests, reply⟩ := invokeBytes_retold call.1 call.2 same retold
      rw [Operation.perform_invocation sends, Operation.perform_invocation sends]
      exact ⟨session, requests, reply⟩
  | none =>
      obtain rfl := Operation.invocation_eq_none_iff.mp sends
      obtain ⟨account, identity, clientId⟩ := same
      rw [Operation.perform_close, Operation.perform_close]
      cases held : inner.clientId with
      | none =>
          rw [ClientInner.releaseLocked_closed held,
            ClientInner.releaseLocked_closed (clientId.trans held)]
          exact ⟨⟨account, identity, clientId⟩, ⟨[], [], by simp, by simp, rfl⟩, fun _ => rfl⟩
      | some id =>
          rw [ClientInner.releaseLocked_open held,
            ClientInner.releaseLocked_open (clientId.trans held)]
          exact ⟨⟨account, identity, rfl⟩, ⟨_, _, rfl, rfl, by simp [exchange, account]⟩,
            fun unresolved => retold.reply unresolved 0⟩

end Values

end Sdk
