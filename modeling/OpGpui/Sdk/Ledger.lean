import OpGpui.Sdk.Client

/-!
# The message history of one client

`Ledger` is the protocol on its own: the message histories a client may have,
together with the session it holds at the end of each. It is a statement about
logs and says nothing of how the code keeps its id. A history starts with the
`init_client` that opened the session, grows by whole calls, and is closed by one
`release_client` after which no rule applies.

The session a log leads to can also be read off the log itself, as the id of the
last `init_client` that was answered with one (`latestSession`). The two agree.
-/

namespace Sdk

open Serde

variable [Codec] {accountName : String} {integration : IntegrationInfo}
variable {log front back : List Exchange} {e : Exchange} {current : Option UInt64} {id : UInt64}

/-- The session after one more message: only an `init_client` answered with an id
replaces it. -/
def advance (current : Option UInt64) (e : Exchange) : Option UInt64 :=
  if e.request.kind = "init_client" then
    match readSession e.answer with
    | .ok id => some id
    | .error _ => current
  else current

/-- The id of the most recent `init_client` whose answer decoded to one. -/
def latestSession (log : List Exchange) : Option UInt64 := log.foldl advance none

@[simp] theorem advance_invoke {method : String} {parameters : List (String × Json)}
    {answer : Result Bytes} :
    advance current (exchange (invokeRequest accountName id method parameters) answer) =
      current := rfl

theorem latestSession_append :
    latestSession (front ++ back) = back.foldl advance (latestSession front) :=
  List.foldl_append

variable [Target]

theorem advance_init {answer : Result Bytes} :
    advance current (exchange (initRequest accountName integration) answer) =
      match readSession answer with
      | .ok id => some id
      | .error _ => current := rfl

/-- Legal histories of a client, with the session held at the end. -/
inductive Ledger (accountName : String) (integration : IntegrationInfo) :
    List Exchange → Option UInt64 → Prop where
  | connected {answer id} : readSession answer = .ok id →
      Ledger accountName integration [exchange (initRequest accountName integration) answer]
        (some id)
  | answered {log id method parameters answer} :
      Ledger accountName integration log (some id) → expired (readAnswer answer) = false →
      Ledger accountName integration
        (log ++ [exchange (invokeRequest accountName id method parameters) answer]) (some id)
  | notRenewed {log id method parameters answer renewal error} :
      Ledger accountName integration log (some id) → expired (readAnswer answer) = true →
      readSession renewal = .error error →
      Ledger accountName integration
        (log ++ [exchange (invokeRequest accountName id method parameters) answer,
          exchange (initRequest accountName integration) renewal]) (some id)
  | renewed {log id next method parameters answer renewal retry} :
      Ledger accountName integration log (some id) → expired (readAnswer answer) = true →
      readSession renewal = .ok next →
      Ledger accountName integration
        (log ++ [exchange (invokeRequest accountName id method parameters) answer,
          exchange (initRequest accountName integration) renewal,
          exchange (invokeRequest accountName next method parameters) retry]) (some next)
  | released {log id answer} :
      Ledger accountName integration log (some id) →
      Ledger accountName integration
        (log ++ [exchange (releaseRequest accountName id) answer]) none

namespace Ledger

/-- Every message is sent under the client's own account. -/
theorem accountName_eq (ledger : Ledger accountName integration log current) :
    ∀ e ∈ log, e.request.accountName = accountName := by
  induction ledger with
  | connected _ => simp [exchange, initRequest]
  | answered _ _ ih => simpa [exchange, invokeRequest, or_imp, forall_and] using ih
  | notRenewed _ _ _ ih =>
      simpa [exchange, invokeRequest, initRequest, or_imp, forall_and] using ih
  | renewed _ _ _ ih =>
      simpa [exchange, invokeRequest, initRequest, or_imp, forall_and] using ih
  | released _ ih => simpa [exchange, releaseRequest, or_imp, forall_and] using ih

/-- A client that is open holds the session its log leads to. -/
theorem latestSession_eq (ledger : Ledger accountName integration log current) :
    ∀ id, current = some id → latestSession log = some id := by
  induction ledger with
  | connected opened =>
      rintro _ ⟨⟩
      simp [latestSession, advance_init, opened]
  | answered _ _ ih =>
      rintro _ ⟨⟩
      rw [latestSession_append, ih _ rfl]
      rfl
  | notRenewed _ _ failed ih =>
      rintro _ ⟨⟩
      rw [latestSession_append, ih _ rfl]
      simp [advance_init, failed]
  | renewed _ _ opened ih =>
      rintro _ ⟨⟩
      rw [latestSession_append, ih _ rfl]
      simp [advance_init, opened]
  | released _ _ =>
      intro id h
      cases h

/-- While a session is held, none has been released. -/
theorem no_release (ledger : Ledger accountName integration log current) :
    ∀ id, current = some id → ∀ e ∈ log, e.request.kind ≠ "release_client" := by
  induction ledger with
  | connected _ => simp [exchange, initRequest]
  | answered _ _ ih => simpa [exchange, invokeRequest, or_imp, forall_and] using ih _ rfl
  | notRenewed _ _ _ ih =>
      simpa [exchange, invokeRequest, initRequest, or_imp, forall_and] using ih _ rfl
  | renewed _ _ _ ih =>
      simpa [exchange, invokeRequest, initRequest, or_imp, forall_and] using ih _ rfl
  | released _ _ =>
      intro id h
      cases h

/-- A closed history ends with its only release, of the latest session. -/
theorem release_last (ledger : Ledger accountName integration log none) :
    ∃ front last id, log = front ++ [last] ∧ latestSession front = some id ∧
      last.request = releaseRequest accountName id ∧
      ∀ e ∈ front, e.request.kind ≠ "release_client" := by
  cases ledger with
  | released held =>
      exact ⟨_, _, _, rfl, held.latestSession_eq _ rfl, rfl, held.no_release _ rfl⟩

end Ledger

end Sdk
