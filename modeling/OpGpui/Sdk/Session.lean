import OpGpui.Library.Run
import OpGpui.Serde.Print
import OpGpui.Sdk.Operation

/-!
# Runs of a connected client

`Session` is one client with its handles: clones share the client, every call is
made through some live handle in the order the calls acquire `operation_lock`, and
dropping the last handle drops the client. The transport may answer each message
of each call, and of the final drop, with anything.

Every step extends the message history by a rule of `Ledger`, so the properties of
legal histories hold along every run: `session_discipline` for the ids messages
carry and the bounded retry, `released_once` for the end of the session.
-/

namespace Sdk

open Serde Machine

/-- One call as its caller sees it, and whether the client is open after it. -/
structure Observed where
  operation : Operation
  reply : Reply
  isOpen : Bool

/-- A client with the number of its live handles and the calls made so far. -/
structure Session where
  inner : ClientInner
  handles : Nat
  history : List Observed

/-- What can happen to a client. A drop brings the answer to the message it may send. -/
inductive Event where
  | clone
  | call (operation : Operation) (answers : Stream' (Result Bytes))
  | drop (answers : Stream' (Result Bytes))

/-- A transport on which this client has sent nothing yet. -/
def Transport.fresh (answers : Stream' (Result Bytes)) : Transport := ⟨answers, []⟩

section Runs

variable [Codec] [Target]

namespace Session

/-- A client just connected, behind its first handle. -/
def start (inner : ClientInner) : Session := ⟨inner, 1, []⟩

def call (s : Session) (operation : Operation) (answers : Stream' (Result Bytes)) : Session :=
  let (reply, inner) := operation.perform (s.inner.listen answers)
  { s with inner, history := s.history ++ [⟨operation, reply, inner.isOpen⟩] }

/-- Only the last handle takes the client with it. -/
def dropHandle (s : Session) (answers : Stream' (Result Bytes)) : Session :=
  if s.handles = 1 then { s with inner := (s.inner.listen answers).drop, handles := 0 }
  else { s with handles := s.handles - 1 }

/-- Without a live handle nothing can happen any more. -/
def step (s : Session) (event : Event) : Option Session :=
  if s.handles = 0 then none
  else
    match event with
    | .clone => some { s with handles := s.handles + 1 }
    | .call operation answers => some (s.call operation answers)
    | .drop answers => some (s.dropHandle answers)

end Session

/-- What a client that has been closed replies. -/
def Operation.closedReply : Operation → Reply
  | .vaults => .vaults (.error .clientClosed)
  | .items _ => .items (.error .clientClosed)
  | .fields _ _ => .fields (.error .clientClosed)
  | .resolve _ => .resolve (.error .clientClosed)
  | .close => .close (.ok ())

/-- The call an event makes, if it is one. -/
def Event.operation : Event → Option Operation
  | .call operation _ => some operation
  | _ => none

/-- The answer decodes to the remote error that starts a renewal. -/
def SessionExpired (answer : Result Bytes) : Prop :=
  ∃ message, readAnswer answer = .error (.remote "DesktopSessionExpired" message)

omit [Target] in
theorem expired_iff {answer : Result Bytes} :
    expired (readAnswer answer) = true ↔ SessionExpired answer := by
  simp only [SessionExpired]
  cases readAnswer answer with
  | ok response => simp [expired]
  | error error => simp [expired, Error.isSessionExpired_iff]

namespace ClientInner

variable {accountName : String} {integration : IntegrationInfo} {inner : ClientInner}
variable {method : String} {parameters : List (String × Json)} {operation : Operation}

/-- The four courses of a call, closed clients included. -/
theorem invokeBytes_cases (inner : ClientInner) (method : String)
    (parameters : List (String × Json)) :
    (inner.clientId = none ∧
        inner.invokeBytes method parameters = (.error .clientClosed, inner)) ∨
      ∃ id, inner.clientId = some id ∧
        ((expired (readAnswer inner.nextAnswer) = false ∧
            inner.invokeBytes method parameters = (readAnswer inner.nextAnswer,
              inner.sent (invokeRequest inner.accountName id method parameters))) ∨
          (∃ error, expired (readAnswer inner.nextAnswer) = true ∧
            readSession (inner.transport.answers.get 1) = .error error ∧
            inner.invokeBytes method parameters = (.error error,
              (inner.sent (invokeRequest inner.accountName id method parameters)).sent
                (initRequest inner.accountName inner.integration))) ∨
          ∃ next, expired (readAnswer inner.nextAnswer) = true ∧
            readSession (inner.transport.answers.get 1) = .ok next ∧
            inner.invokeBytes method parameters = (readAnswer (inner.transport.answers.get 2),
              { (inner.sent (invokeRequest inner.accountName id method parameters)).sent
                  (initRequest inner.accountName inner.integration) with
                clientId := some next }.sent
                  (invokeRequest inner.accountName next method parameters))) := by
  cases held : inner.clientId with
  | none => exact .inl ⟨rfl, invokeBytes_closed held⟩
  | some id =>
      refine .inr ⟨id, rfl, ?_⟩
      cases lapsed : expired (readAnswer inner.nextAnswer) with
      | false => exact .inl ⟨rfl, invokeBytes_answered held lapsed⟩
      | true =>
          cases opened : readSession (inner.transport.answers.get 1) with
          | error error => exact .inr (.inl ⟨error, rfl, rfl, invokeBytes_notRenewed held lapsed opened⟩)
          | ok next => exact .inr (.inr ⟨next, rfl, rfl, invokeBytes_renewed held lapsed opened⟩)

/-- The identity of a client and a legal message history leading to its session. -/
structure Legal (accountName : String) (integration : IntegrationInfo) (inner : ClientInner) :
    Prop where
  account : inner.accountName = accountName
  identity : inner.integration = integration
  ledger : Ledger accountName integration inner.transport.log inner.clientId

theorem Legal.listen (legal : Legal accountName integration inner)
    (answers : Stream' (Result Bytes)) : Legal accountName integration (inner.listen answers) :=
  ⟨legal.account, legal.identity, legal.ledger⟩

theorem Legal.invokeBytes (legal : Legal accountName integration inner) :
    Legal accountName integration (inner.invokeBytes method parameters).2 := by
  obtain ⟨rfl, rfl, ledger⟩ := legal
  obtain ⟨_, eq⟩ |
      ⟨id, held, ⟨answered, eq⟩ | ⟨error, lapsed, failed, eq⟩ | ⟨next, lapsed, opened, eq⟩⟩ :=
    invokeBytes_cases inner method parameters
  · rw [eq]
    exact ⟨rfl, rfl, ledger⟩
  · rw [held] at ledger
    rw [eq]
    exact ⟨rfl, rfl, by simpa [held] using ledger.answered answered⟩
  · rw [held] at ledger
    rw [eq]
    exact ⟨rfl, rfl, by simpa [held] using ledger.notRenewed lapsed failed⟩
  · rw [held] at ledger
    rw [eq]
    exact ⟨rfl, rfl, by simpa using ledger.renewed lapsed opened⟩

/-- Releasing keeps the history legal and leaves no session behind. -/
theorem Legal.releaseLocked (legal : Legal accountName integration inner) :
    Legal accountName integration inner.releaseLocked.2 ∧
      inner.releaseLocked.2.clientId = none := by
  obtain ⟨rfl, rfl, ledger⟩ := legal
  cases held : inner.clientId with
  | none =>
      rw [releaseLocked_closed held]
      exact ⟨⟨rfl, rfl, ledger⟩, held⟩
  | some id =>
      rw [held] at ledger
      rw [releaseLocked_open held]
      exact ⟨⟨rfl, rfl, by simpa using ledger.released⟩, rfl⟩

theorem Legal.perform (legal : Legal accountName integration inner) :
    Legal accountName integration (operation.perform inner).2 := by
  cases sends : operation.invocation with
  | none =>
      obtain rfl := Operation.invocation_eq_none_iff.mp sends
      exact legal.releaseLocked.1
  | some call =>
      rw [Operation.perform_invocation sends]
      exact legal.invokeBytes

/-- A closed client answers every call itself, and is left as it was. -/
theorem perform_closed (operation : Operation) (closed : inner.clientId = none) :
    operation.perform inner = (operation.closedReply, inner) := by
  cases sends : operation.invocation with
  | none =>
      obtain rfl := Operation.invocation_eq_none_iff.mp sends
      rw [Operation.perform_close, releaseLocked_closed closed]
      rfl
  | some call =>
      rw [Operation.perform_invocation sends, invokeBytes_closed closed]
      cases operation <;> first | rfl | cases sends

end ClientInner

namespace Session

variable {accountName : String} {integration : IntegrationInfo} {s t : Session} {event : Event}

/-- The state every run keeps: a legal history, and no session without a handle. -/
structure Kept (accountName : String) (integration : IntegrationInfo) (s : Session) : Prop where
  legal : s.inner.Legal accountName integration
  dropped : s.handles = 0 → s.inner.clientId = none

/-- Everything an event can do. -/
theorem step_cases (h : s.step event = some t) :
    s.handles ≠ 0 ∧
      ((event = .clone ∧ t = { s with handles := s.handles + 1 }) ∨
        (∃ operation answers, event = .call operation answers ∧ t = s.call operation answers) ∨
        ∃ answers, event = .drop answers ∧ t = s.dropHandle answers) := by
  simp only [step] at h
  split at h
  · contradiction
  · rename_i live
    refine ⟨live, ?_⟩
    cases event with
    | clone => exact .inl ⟨rfl, (Option.some.inj h).symm⟩
    | call operation answers => exact .inr (.inl ⟨_, _, rfl, (Option.some.inj h).symm⟩)
    | drop answers => exact .inr (.inr ⟨_, rfl, (Option.some.inj h).symm⟩)

theorem Kept.step (kept : Kept accountName integration s) (h : s.step event = some t) :
    Kept accountName integration t := by
  obtain ⟨live, ⟨_, rfl⟩ | ⟨operation, answers, _, rfl⟩ | ⟨answers, _, rfl⟩⟩ := step_cases h
  · exact ⟨kept.legal, fun none => absurd none (Nat.succ_ne_zero _)⟩
  · exact ⟨(kept.legal.listen answers).perform, fun none => absurd none live⟩
  · simp only [dropHandle]
    split
    · have released := (kept.legal.listen answers).releaseLocked
      rw [← ClientInner.drop_eq] at released
      exact ⟨released.1, fun _ => released.2⟩
    · exact ⟨kept.legal, fun none => absurd none (show s.handles - 1 ≠ 0 by omega)⟩

/-- What is left of a call on a closed client is its reply. -/
theorem call_closed {operation : Operation} {answers : Stream' (Result Bytes)}
    (closed : s.inner.clientId = none) :
    s.call operation answers = { s with
      inner := s.inner.listen answers
      history := s.history ++ [⟨operation, operation.closedReply, false⟩] } := by
  have listening : (s.inner.listen answers).clientId = none := closed
  have unsent := ClientInner.perform_closed operation listening
  have shut : (s.inner.listen answers).isOpen = false := by
    simp [ClientInner.isOpen, ClientInner.listen, closed]
  simp only [call, unsent, shut]

theorem Kept.run {events : List Event} (kept : Kept accountName integration s)
    (run : Run Session.step s events t) : Kept accountName integration t :=
  run.invariant (fun _ _ _ kept h => kept.step h) kept

/-- A client whose last handle is gone has sent its only release last. -/
theorem Kept.released (kept : Kept accountName integration s) (gone : s.handles = 0) :
    ∃ front last id, s.inner.transport.log = front ++ [last] ∧ latestSession front = some id ∧
      last.request = releaseRequest accountName id ∧
      ∀ e ∈ front, e.request.kind ≠ "release_client" := by
  obtain ⟨⟨_, _, ledger⟩, dropped⟩ := kept
  rw [dropped gone] at ledger
  exact ledger.release_last

end Session

/-- The configuration is missing or blank somewhere. -/
def ClientBuilder.Incomplete (builder : ClientBuilder) : Prop :=
  (∀ accountName, builder.accountName = some accountName → Rust.trim accountName = "") ∨
    builder.integration = none ∨ ∃ integration, builder.integration = some integration ∧
      (Rust.trim integration.name = "" ∨ Rust.trim integration.version = "")

section Connect

variable {builder : ClientBuilder} {answers : Stream' (Result Bytes)} {inner : ClientInner}
variable {error : Error}

/-- With a complete configuration, connecting sends one `init_client`, and its answer
decides. -/
theorem connectWithTransport_complete (accountName : String) (integration : IntegrationInfo)
    (answers : Stream' (Result Bytes)) (named : Rust.trim accountName ≠ "")
    (name : Rust.trim integration.name ≠ "") (version : Rust.trim integration.version ≠ "") :
    (ClientBuilder.mk (some accountName) (some integration)).connectWithTransport (.fresh answers) =
      ((readSession answers.head).map fun id => ⟨⟨answers.tail,
          [exchange (initRequest accountName integration) answers.head]⟩,
            accountName, integration, some id⟩,
        ⟨answers.tail, [exchange (initRequest accountName integration) answers.head]⟩) := by
  have head : (ClientInner.mk (.fresh answers) accountName integration none).nextAnswer =
    answers.head := rfl
  simp only [ClientBuilder.connectWithTransport, required, ne_eq, named, not_false_eq_true, if_true,
    name, if_false, version, ClientInner.initializeSession_eq, head]
  cases readSession answers.head <;> rfl

/-- Connecting either fails before it sends anything, for want of configuration, or
sends one `init_client` and is decided by its answer. -/
theorem connectWithTransport_cases (builder : ClientBuilder)
    (answers : Stream' (Result Bytes)) :
    (∃ field, builder.connectWithTransport (.fresh answers) =
        (.error (.missingConfiguration field), .fresh answers)) ∨
      ∃ accountName integration, builder.accountName = some accountName ∧
        builder.integration = some integration ∧ ¬ builder.Incomplete ∧
        builder.connectWithTransport (.fresh answers) =
          ((readSession answers.head).map fun id => ⟨⟨answers.tail,
              [exchange (initRequest accountName integration) answers.head]⟩,
                accountName, integration, some id⟩,
            ⟨answers.tail, [exchange (initRequest accountName integration) answers.head]⟩) := by
  obtain ⟨accountName, integration⟩ := builder
  simp only [ClientBuilder.Incomplete]
  cases accountName with
  | none => exact .inl ⟨_, rfl⟩
  | some accountName =>
      by_cases named : Rust.trim accountName = ""
      · simp [ClientBuilder.connectWithTransport, required, named]
      cases integration with
      | none => simp [ClientBuilder.connectWithTransport, required, named]
      | some integration =>
          by_cases name : Rust.trim integration.name = ""
          · simp [ClientBuilder.connectWithTransport, required, named, name]
          by_cases version : Rust.trim integration.version = ""
          · simp [ClientBuilder.connectWithTransport, required, named, name, version]
          exact .inr ⟨accountName, integration, rfl, rfl, by simp [named, name, version],
            connectWithTransport_complete accountName integration answers named name version⟩

theorem connected_kept
    (connected : (builder.connectWithTransport (.fresh answers)).1 = .ok inner) :
    builder.accountName = some inner.accountName ∧
      Session.Kept inner.accountName inner.integration (.start inner) := by
  obtain ⟨field, eq⟩ | ⟨accountName, integration, named, _, _, eq⟩ :=
    connectWithTransport_cases builder answers
  · rw [eq] at connected
    cases connected
  · rw [eq] at connected
    cases opened : readSession answers.head with
    | error error => simp [opened, Except.map] at connected
    | ok id =>
        simp only [opened, Except.map, Except.ok.injEq] at connected
        subst connected
        exact ⟨named, ⟨rfl, rfl, .connected opened⟩, fun none => absurd none (by simp [Session.start])⟩

/-- Connecting sends no `release_client`, whether it fails or not. -/
theorem connect_releases_nothing (builder : ClientBuilder) (answers : Stream' (Result Bytes)) :
    ∀ e ∈ (builder.connectWithTransport (.fresh answers)).2.log,
      e.request.kind ≠ "release_client" := by
  intro e member
  obtain ⟨field, eq⟩ | ⟨accountName, integration, _, _, _, eq⟩ :=
    connectWithTransport_cases builder answers
  · rw [eq] at member
    cases member
  · rw [eq] at member
    obtain rfl := List.mem_singleton.mp member
    simp [exchange, initRequest]

end Connect

/-- One call on an open client, from the state before it to the state after it. The
messages it sends are decided by the first two of the answers it meets. -/
structure Session.Called (s t : Session) (operation : Operation) (method : String)
    (parameters : List (String × Json)) (answers : Stream' (Result Bytes)) (id : UInt64) :
    Prop where
  held : s.inner.clientId = some id
  answered : ¬ SessionExpired (answers.get 0) →
    t.inner.transport.log = s.inner.transport.log ++
        [exchange (invokeRequest s.inner.accountName id method parameters) (answers.get 0)] ∧
      t.inner.clientId = some id ∧
      t.history = s.history ++ [⟨operation, operation.reply (readAnswer (answers.get 0)), true⟩]
  notRenewed : ∀ error, SessionExpired (answers.get 0) →
    readSession (answers.get 1) = .error error →
    t.inner.transport.log = s.inner.transport.log ++
        [exchange (invokeRequest s.inner.accountName id method parameters) (answers.get 0),
          exchange (initRequest s.inner.accountName s.inner.integration) (answers.get 1)] ∧
      t.inner.clientId = some id ∧
      t.history = s.history ++ [⟨operation, operation.reply (.error error), true⟩]
  renewed : ∀ next, SessionExpired (answers.get 0) → readSession (answers.get 1) = .ok next →
    t.inner.transport.log = s.inner.transport.log ++
        [exchange (invokeRequest s.inner.accountName id method parameters) (answers.get 0),
          exchange (initRequest s.inner.accountName s.inner.integration) (answers.get 1),
          exchange (invokeRequest s.inner.accountName next method parameters) (answers.get 2)] ∧
      t.inner.clientId = some next ∧
      t.history = s.history ++ [⟨operation, operation.reply (readAnswer (answers.get 2)), true⟩]

/-- Every operation but `close` meets its answers in that order. -/
theorem Session.call_called {s : Session} {operation : Operation} {method : String}
    {parameters : List (String × Json)} {id : UInt64} (answers : Stream' (Result Bytes))
    (sends : operation.invocation = some (method, parameters))
    (held : s.inner.clientId = some id) :
    s.Called (s.call operation answers) operation method parameters answers id := by
  have listening : (s.inner.listen answers).clientId = some id := held
  refine ⟨held, ?_, ?_, ?_⟩
  · intro other
    have answered : expired (readAnswer (s.inner.listen answers).nextAnswer) = false :=
      Bool.eq_false_iff.mpr fun lapsed => other (expired_iff.mp lapsed)
    simp only [call, Operation.perform_invocation sends,
      ClientInner.invokeBytes_answered listening answered]
    exact ⟨rfl, held, by simp [ClientInner.isOpen, listening]; rfl⟩
  · intro error lapsed failed
    simp only [call, Operation.perform_invocation sends,
      ClientInner.invokeBytes_notRenewed listening (expired_iff.mpr lapsed) failed]
    refine ⟨?_, held, by simp [ClientInner.isOpen, listening]⟩
    simp only [ClientInner.sent_log, List.append_assoc]
    rfl
  · intro next lapsed opened
    simp only [call, Operation.perform_invocation sends,
      ClientInner.invokeBytes_renewed listening (expired_iff.mpr lapsed) opened]
    refine ⟨?_, rfl, by simp [ClientInner.isOpen]; rfl⟩
    simp only [ClientInner.sent_log, List.append_assoc]
    rfl

end Runs

section Renewing

/-- A successful response carrying a document. -/
def accepted (json : Json) : Json := (Response.mk true json.toBytes).arrayShape

/-- The payload that reports an expired session, and the response carrying it. -/
def expiredSession : Json :=
  .object [("name", .string "DesktopSessionExpired"), ("message", .string "locked")]

def lapsedResponse : Json := (Response.mk false expiredSession.toBytes).arrayShape

/-- A codec for two sessions, an expiry between them, and an empty list of vaults. -/
@[reducible] def sessionCodec : Codec :=
  .ofDocuments [serializeU64 7, accepted (serializeU64 7), serializeU64 9, accepted (serializeU64 9),
    .array [], accepted (.array []), expiredSession, lapsedResponse]

local instance renewingCodec : Codec := sessionCodec

local instance renewingTarget : Target := .linux

/-- The client `deskBuilder` connects when its session is 7. -/
def deskClient : ClientInner where
  transport := ⟨.const (.ok []),
    [exchange (initRequest "desk" ⟨"App", "1.0"⟩) (.ok (accepted (serializeU64 7)).toBytes)]⟩
  accountName := "desk"
  integration := ⟨"App", "1.0"⟩
  clientId := some 7

end Renewing

end Sdk
