import OpGpui.Sdk.Ledger

/-!
# What one operation does

Each function of the client is described once, by the messages it sends and the
client it leaves behind. `ClientInner.sent` is the client after one message. A call
on an open client has three courses, decided by its first two answers, and
`invokeBytes_answered`, `invokeBytes_notRenewed` and `invokeBytes_renewed` give the
complete result of each. Everything after this module cites these equations.

An `Operation` names one of the public calls. All but `close` send the same
kind of message, so they differ only in their `invocation` and in how they read
the response.
-/

namespace Sdk

open Serde

variable [Codec]

/-- The client after one message: its answer is used up and the log has grown. -/
def ClientInner.sent (inner : ClientInner) (request : Request) : ClientInner :=
  { inner with transport := (inner.transport.call request).2 }

/-- The answer the next message will get. -/
def ClientInner.nextAnswer (inner : ClientInner) : Result Bytes := inner.transport.answers.head

namespace ClientInner

variable {inner : ClientInner} {request : Request} {id renewed : UInt64} {error : Error}
variable {method : String} {parameters : List (String × Json)}

@[simp] theorem sent_clientId : (inner.sent request).clientId = inner.clientId := rfl

@[simp] theorem sent_accountName : (inner.sent request).accountName = inner.accountName := rfl

@[simp] theorem sent_integration : (inner.sent request).integration = inner.integration := rfl

@[simp] theorem sent_log : (inner.sent request).transport.log =
    inner.transport.log ++ [exchange request inner.nextAnswer] := rfl

@[simp] theorem sent_nextAnswer :
    (inner.sent request).nextAnswer = inner.transport.answers.get 1 := rfl

@[simp] theorem sent_answers :
    (inner.sent request).transport.answers = inner.transport.answers.tail := rfl

theorem send_eq (kind : String) (payload : Bytes) :
    inner.send kind payload =
      (readAnswer inner.nextAnswer, inner.sent ⟨kind, inner.accountName, payload⟩) := by
  unfold send readAnswer nextAnswer Transport.call sent
  cases answer : inner.transport.answers.head <;> simp [Transport.call, answer]

theorem invokeOnce_eq :
    inner.invokeOnce id method parameters = (readAnswer inner.nextAnswer,
      inner.sent (invokeRequest inner.accountName id method parameters)) := by
  simp only [invokeOnce]
  rw [send_eq]
  rfl

theorem releaseLocked_closed (closed : inner.clientId = none) :
    inner.releaseLocked = (.ok (), inner) := by
  simp [releaseLocked, closed]

/-- The session is given up whatever the answer to its release. -/
theorem releaseLocked_open (held : inner.clientId = some id) :
    inner.releaseLocked = ((readAnswer inner.nextAnswer).map fun _ => (),
      { inner with clientId := none }.sent (releaseRequest inner.accountName id)) := by
  have answer : ({ inner with clientId := none } : ClientInner).nextAnswer = inner.nextAnswer := rfl
  simp only [releaseLocked]
  simp only [held, send_eq, answer]
  cases readAnswer inner.nextAnswer <;> rfl

/-- Dropping the last handle sends what `close` would, and discards its result. -/
theorem drop_eq : inner.drop = inner.releaseLocked.2 := by
  cases held : inner.clientId with
  | none => simp [drop, releaseLocked, held]
  | some id =>
      rw [releaseLocked_open held]
      simp only [drop, held, send_eq]
      rfl

variable [Target]

theorem initializeSession_eq :
    inner.initializeSession = (readSession inner.nextAnswer,
      inner.sent (initRequest inner.accountName inner.integration)) := by
  simp only [initializeSession, readSession]
  rw [send_eq]
  cases readAnswer inner.nextAnswer <;> rfl

theorem invokeBytes_closed (closed : inner.clientId = none) :
    inner.invokeBytes method parameters = (.error .clientClosed, inner) := by
  simp [invokeBytes, currentClientId, closed]

/-- Any first answer but an expired session is the result. -/
theorem invokeBytes_answered (held : inner.clientId = some id)
    (answered : expired (readAnswer inner.nextAnswer) = false) :
    inner.invokeBytes method parameters = (readAnswer inner.nextAnswer,
      inner.sent (invokeRequest inner.accountName id method parameters)) := by
  simp only [invokeBytes, currentClientId, held, invokeOnce_eq]
  cases read : readAnswer inner.nextAnswer with
  | ok response => rfl
  | error error =>
      rw [read] at answered
      simp [show error.isSessionExpired = false from answered]

/-- A failed renewal is the result, and the stored id stays. -/
theorem invokeBytes_notRenewed (held : inner.clientId = some id)
    (lapsed : expired (readAnswer inner.nextAnswer) = true)
    (failed : readSession (inner.transport.answers.get 1) = .error error) :
    inner.invokeBytes method parameters = (.error error,
      (inner.sent (invokeRequest inner.accountName id method parameters)).sent
        (initRequest inner.accountName inner.integration)) := by
  simp only [invokeBytes, currentClientId, held, invokeOnce_eq]
  cases read : readAnswer inner.nextAnswer with
  | ok response => simp [read, expired] at lapsed
  | error error =>
      rw [read] at lapsed
      simp only [show error.isSessionExpired = true from lapsed, if_true, initializeSession_eq,
        sent_nextAnswer, failed, sent_accountName, sent_integration]

/-- A renewal is stored, and the same call is made once more for it. -/
theorem invokeBytes_renewed (held : inner.clientId = some id)
    (lapsed : expired (readAnswer inner.nextAnswer) = true)
    (opened : readSession (inner.transport.answers.get 1) = .ok renewed) :
    inner.invokeBytes method parameters = (readAnswer (inner.transport.answers.get 2),
      { (inner.sent (invokeRequest inner.accountName id method parameters)).sent
          (initRequest inner.accountName inner.integration) with
        clientId := some renewed }.sent
          (invokeRequest inner.accountName renewed method parameters)) := by
  simp only [invokeBytes, currentClientId, held, invokeOnce_eq]
  cases read : readAnswer inner.nextAnswer with
  | ok response => simp [read, expired] at lapsed
  | error error =>
      rw [read] at lapsed
      simp only [show error.isSessionExpired = true from lapsed, if_true, initializeSession_eq,
        sent_nextAnswer, opened, sent_accountName, sent_integration]
      rfl

theorem invokeTyped_eq {α : Type} {target : String} {deserialize : Json → Option α} :
    inner.invokeTyped target deserialize method parameters =
      ((inner.invokeBytes method parameters).1.bind (fromSliceOrProtocol target deserialize),
        (inner.invokeBytes method parameters).2) := by
  simp only [invokeTyped]
  cases inner.invokeBytes method parameters with
  | mk result after => cases result <;> rfl

end ClientInner

/-- The public calls on a client. -/
inductive Operation where
  | vaults
  | items (vaultId : VaultId)
  | fields (vaultId : VaultId) (itemId : ItemId)
  | resolve (reference : SecretReference)
  | close

/-- What a call returns to its caller. -/
inductive Reply where
  | vaults (result : Result (List VaultOverview))
  | items (result : Result (List ItemOverview))
  | fields (result : Result (List FieldOverview))
  | resolve (result : Result SecretValue)
  | close (result : Result Unit)

namespace Operation

variable [Target] {operation : Operation} {inner : ClientInner} {method : String}
variable {parameters : List (String × Json)}

/-- Run the operation, with the reply it gives and the client it leaves behind. -/
def perform (operation : Operation) (inner : ClientInner) : Reply × ClientInner :=
  match operation with
  | .vaults => (.vaults inner.vaults.1, inner.vaults.2)
  | .items vaultId => (.items (inner.items vaultId).1, (inner.items vaultId).2)
  | .fields vaultId itemId =>
      (.fields (inner.fields vaultId itemId).1, (inner.fields vaultId itemId).2)
  | .resolve reference => (.resolve (inner.resolve reference).1, (inner.resolve reference).2)
  | .close => (.close inner.close.1, inner.close.2)

/-- The method and parameters of the operation's `invoke`; `close` sends none. -/
def invocation : Operation → Option (String × List (String × Json))
  | .vaults => some ("VaultsList", [("params", .null)])
  | .items vaultId => some ("ItemsList", [("vault_id", .string vaultId.asStr), ("filters", .array [])])
  | .fields vaultId itemId =>
      some ("ItemsGet", [("vault_id", .string vaultId.asStr), ("item_id", .string itemId.asStr)])
  | .resolve reference => some ("SecretsResolve", [("secret_reference", .string reference.asStr)])
  | .close => none

/-- How the operation reads the bytes its `invoke` returned. -/
def reply (operation : Operation) (response : Result Bytes) : Reply :=
  match operation with
  | .vaults => .vaults (response.bind (fromSliceOrProtocol "Vec<VaultOverview>"
      (Json.deserializeVec VaultOverview.deserialize)))
  | .items _ => .items (response.bind (fromSliceOrProtocol "Vec<ItemOverview>"
      (Json.deserializeVec ItemOverview.deserialize)))
  | .fields _ _ => .fields
      ((response.bind (fromSliceOrProtocol "WireItem" WireItem.deserialize)).map fun item =>
        item.fields.map (ClientInner.fieldOverview item.sections))
  | .resolve _ => .resolve
      ((response.bind (fromSliceOrProtocol "String" Json.deserializeString)).map SecretValue.mk)
  | .close => .close (response.map fun _ => ())

/-- Every operation but `close` is its one `invoke`, read in its own way. -/
theorem perform_invocation (sends : operation.invocation = some (method, parameters)) :
    operation.perform inner =
      (operation.reply (inner.invokeBytes method parameters).1,
        (inner.invokeBytes method parameters).2) := by
  cases operation with
  | vaults =>
      obtain ⟨rfl, rfl⟩ := Prod.mk.inj (Option.some.inj sends)
      simp [perform, reply, ClientInner.vaults, ClientInner.invokeTyped_eq]
  | items vaultId =>
      obtain ⟨rfl, rfl⟩ := Prod.mk.inj (Option.some.inj sends)
      simp [perform, reply, ClientInner.items, ClientInner.invokeTyped_eq]
  | fields vaultId itemId =>
      obtain ⟨rfl, rfl⟩ := Prod.mk.inj (Option.some.inj sends)
      simp only [perform, reply, ClientInner.fields, ClientInner.invokeTyped_eq]
      cases (inner.invokeBytes "ItemsGet" _).1.bind
        (fromSliceOrProtocol "WireItem" WireItem.deserialize) <;> rfl
  | resolve reference =>
      obtain ⟨rfl, rfl⟩ := Prod.mk.inj (Option.some.inj sends)
      simp only [perform, reply, ClientInner.resolve, ClientInner.invokeTyped_eq]
      cases (inner.invokeBytes "SecretsResolve" _).1.bind
        (fromSliceOrProtocol "String" Json.deserializeString) <;> rfl
  | close => cases sends

theorem perform_close : close.perform inner = (.close inner.releaseLocked.1, inner.releaseLocked.2) :=
  rfl

omit [Codec] [Target] in
/-- Only `close` sends no `invoke`. -/
theorem invocation_eq_none_iff : operation.invocation = none ↔ operation = .close := by
  cases operation <;> simp [invocation]

end Operation

end Sdk
