import OpGpui.Library.Monitor
import OpGpui.Sdk.Session

/-!
# The client behind its operation lock

What a thread does between taking `operation_lock` and giving it back, in the steps that
other threads may come between: each access of the stored id, under the mutex of its own,
and each message. Reading the response is part of the last step; it concerns nobody else.

Connecting and dropping run the same way. They take no `operation_lock`, and need none:
no other thread has the client yet, or any more.

`perform` of an operation is its program run to the end without interruption
(`eval_call`).
-/

namespace Sdk

open Serde Machine

/-- The part of the client that changes is its id. -/
abbrev Guarded (ρ : Type) := Program (Option UInt64) Request (Result Bytes) ρ

/-- What a thread does with a client. -/
inductive Work where
  | connect
  | call (operation : Operation)
  | drop

/-- What the thread has in the end. -/
inductive Outcome where
  | connected (result : Result Unit)
  | replied (reply : Reply)
  | dropped

/-- The work was a connection that succeeded. -/
def Outcome.isConnected : Outcome → Bool
  | .connected (.ok _) => true
  | _ => false

theorem Outcome.isConnected_iff {outcome : Outcome} :
    outcome.isConnected = true ↔ outcome = .connected (.ok ()) := by
  cases outcome with
  | connected result => cases result <;> simp [isConnected]
  | replied reply => simp [isConnected]
  | dropped => simp [isConnected]

variable [Codec] [Target]

section Programs

variable {ρ : Type}

/-- `invoke_bytes`, with what its caller makes of the response. -/
def invokeBytesGuarded (accountName : String) (integration : IntegrationInfo) (method : String)
    (parameters : List (String × Json)) (finish : Result Bytes → ρ) : Guarded ρ :=
  .access id fun
    | none => .done (finish (.error .clientClosed))
    | some clientId =>
        .ask (invokeRequest accountName clientId method parameters) fun answer =>
          match readAnswer answer with
          | .error error =>
              if error.isSessionExpired then
                .ask (initRequest accountName integration) fun answer =>
                  match readSession answer with
                  | .error error => .done (finish (.error error))
                  | .ok renewed =>
                      .access (fun _ => some renewed) fun _ =>
                        .ask (invokeRequest accountName renewed method parameters) fun answer =>
                          .done (finish (readAnswer answer))
              else .done (finish (.error error))
          | .ok response => .done (finish (.ok response))

/-- `release_locked`: the id is taken before the message is sent. -/
def releaseLockedGuarded (accountName : String) (finish : Result Unit → ρ) : Guarded ρ :=
  .access (fun _ => none) fun
    | none => .done (finish (.ok ()))
    | some clientId =>
        .ask (releaseRequest accountName clientId) fun answer =>
          .done (finish ((readAnswer answer).map fun _ => ()))

/-- The end of `connect_with_transport`, on a configuration that passed its checks. A
client that was not initialized holds no session, and is dropped in silence. -/
def initializeGuarded (accountName : String) (integration : IntegrationInfo)
    (finish : Result Unit → ρ) : Guarded ρ :=
  .ask (initRequest accountName integration) fun answer =>
    match readSession answer with
    | .error error => .done (finish (.error error))
    | .ok clientId => .access (fun _ => some clientId) fun _ => .done (finish (.ok ()))

end Programs

/-- The program of each kind of work. -/
def Work.program (accountName : String) (integration : IntegrationInfo) : Work → Guarded Outcome
  | .connect => initializeGuarded accountName integration .connected
  | .call operation =>
      match operation.invocation with
      | some (method, parameters) =>
          invokeBytesGuarded accountName integration method parameters fun response =>
            .replied (operation.reply response)
      | none => releaseLockedGuarded accountName fun result => .replied (.close result)
  | .drop => releaseLockedGuarded accountName fun _ => .dropped

/-- Requests with their answers, as they are logged. -/
def exchanges (asked : List (Request × Result Bytes)) : List Exchange :=
  asked.map fun (request, answer) => exchange request answer

omit [Target] in
@[simp] theorem exchanges_nil : exchanges [] = [] := rfl

omit [Target] in
@[simp] theorem exchanges_cons {request : Request} {answer : Result Bytes}
    {asked : List (Request × Result Bytes)} :
    exchanges ((request, answer) :: asked) = exchange request answer :: exchanges asked := rfl

omit [Target] in
@[simp] theorem exchanges_append {first rest : List (Request × Result Bytes)} :
    exchanges (first ++ rest) = exchanges first ++ exchanges rest := List.map_append

/-- What becomes of a client when some work has been done on it, and has asked that. -/
structure Becomes (inner after : ClientInner) (asked : List (Request × Result Bytes)) : Prop where
  account : after.accountName = inner.accountName
  identity : after.integration = inner.integration
  log : after.transport.log = inner.transport.log ++ exchanges asked

section Bridge

variable {ρ : Type} {inner : ClientInner} {method : String} {parameters : List (String × Json)}

/-- `invoke_bytes` without interruption. -/
theorem eval_invokeBytes (finish : Result Bytes → ρ) (inner : ClientInner) :
    ∃ asked, (invokeBytesGuarded inner.accountName inner.integration method parameters finish).eval
        inner.clientId inner.transport.answers =
          (finish (inner.invokeBytes method parameters).1,
            (inner.invokeBytes method parameters).2.clientId, asked) ∧
      Becomes inner (inner.invokeBytes method parameters).2 asked := by
  obtain ⟨closed, eq⟩ |
      ⟨id, held, ⟨answered, eq⟩ | ⟨error, lapsed, failed, eq⟩ | ⟨next, lapsed, opened, eq⟩⟩ :=
    inner.invokeBytes_cases method parameters
  · rw [eq]
    refine ⟨[], ?_, rfl, rfl, by simp⟩
    simp only [invokeBytesGuarded, closed, Program.eval]
    rfl
  · rw [eq]
    refine ⟨[(invokeRequest inner.accountName id method parameters, inner.nextAnswer)], ?_, rfl, rfl,
      by simp⟩
    simp only [invokeBytesGuarded, held, Program.eval, ClientInner.nextAnswer] at answered ⊢
    cases read : readAnswer inner.transport.answers.head with
    | ok response => simp [Program.eval, held]
    | error error =>
        rw [read] at answered
        simp [show error.isSessionExpired = false from answered, Program.eval, held]
  · rw [eq]
    refine ⟨[(invokeRequest inner.accountName id method parameters, inner.nextAnswer),
      (initRequest inner.accountName inner.integration, inner.transport.answers.get 1)], ?_, rfl, rfl,
      by simp [List.append_assoc]⟩
    simp only [invokeBytesGuarded, held, Program.eval, ClientInner.nextAnswer] at lapsed failed ⊢
    cases read : readAnswer inner.transport.answers.head with
    | ok response => simp [read, expired] at lapsed
    | error error' =>
        rw [read] at lapsed
        have second : inner.transport.answers.tail.head = inner.transport.answers.get 1 := rfl
        simp [show error'.isSessionExpired = true from lapsed, Program.eval, second, failed, held]
  · rw [eq]
    refine ⟨[(invokeRequest inner.accountName id method parameters, inner.nextAnswer),
      (initRequest inner.accountName inner.integration, inner.transport.answers.get 1),
      (invokeRequest inner.accountName next method parameters, inner.transport.answers.get 2)], ?_,
      rfl, rfl, ?_⟩
    · simp only [invokeBytesGuarded, held, Program.eval, ClientInner.nextAnswer] at lapsed opened ⊢
      cases read : readAnswer inner.transport.answers.head with
      | ok response => simp [read, expired] at lapsed
      | error error' =>
          rw [read] at lapsed
          have second : inner.transport.answers.tail.head = inner.transport.answers.get 1 := rfl
          have third : inner.transport.answers.tail.tail.head = inner.transport.answers.get 2 := rfl
          simp [show error'.isSessionExpired = true from lapsed, Program.eval, second, opened, third]
    · simp only [ClientInner.sent_log, List.append_assoc, exchanges_cons, exchanges_nil]
      rfl

omit [Target] in
/-- `release_locked` without interruption. -/
theorem eval_releaseLocked (finish : Result Unit → ρ) (inner : ClientInner) :
    ∃ asked, (releaseLockedGuarded inner.accountName finish).eval inner.clientId
        inner.transport.answers =
          (finish inner.releaseLocked.1, inner.releaseLocked.2.clientId, asked) ∧
      Becomes inner inner.releaseLocked.2 asked := by
  cases held : inner.clientId with
  | none =>
      rw [ClientInner.releaseLocked_closed held]
      refine ⟨[], ?_, rfl, rfl, by simp⟩
      simp only [releaseLockedGuarded, Program.eval, held]
  | some id =>
      rw [ClientInner.releaseLocked_open held]
      exact ⟨[(releaseRequest inner.accountName id, inner.nextAnswer)], rfl, rfl, rfl, by simp; rfl⟩

/-- An operation is its program, run without interruption. -/
theorem eval_call (operation : Operation) (inner : ClientInner) :
    ∃ asked, ((Work.call operation).program inner.accountName inner.integration).eval inner.clientId
        inner.transport.answers =
          (.replied (operation.perform inner).1, (operation.perform inner).2.clientId, asked) ∧
      Becomes inner (operation.perform inner).2 asked := by
  cases sends : operation.invocation with
  | none =>
      obtain rfl := Operation.invocation_eq_none_iff.mp sends
      rw [Operation.perform_close]
      exact eval_releaseLocked (fun result => Outcome.replied (.close result)) inner
  | some call =>
      rw [Operation.perform_invocation sends]
      simp only [Work.program, sends]
      exact eval_invokeBytes (fun response => Outcome.replied (operation.reply response)) inner

/-- Dropping a client is its program, run without interruption. -/
theorem eval_drop (inner : ClientInner) :
    ∃ asked, (Work.drop.program inner.accountName inner.integration).eval inner.clientId
        inner.transport.answers = (.dropped, inner.drop.clientId, asked) ∧
      Becomes inner inner.drop asked := by
  rw [ClientInner.drop_eq]
  exact eval_releaseLocked (fun _ => Outcome.dropped) inner

/-- Connecting is one question, and its answer decides. -/
theorem eval_connect (accountName : String) (integration : IntegrationInfo)
    (answers : Stream' (Result Bytes)) :
    (Work.connect.program accountName integration).eval none answers =
      (.connected ((readSession answers.head).map fun _ => ()), (readSession answers.head).toOption,
        [(initRequest accountName integration, answers.head)]) := by
  simp only [Work.program, initializeGuarded, Program.eval]
  cases readSession answers.head <;> rfl

end Bridge

end Sdk
