import OpGpui.Serde.Print
import OpGpui.Sdk.Session

/-!
# Session renewal

What starts a renewal, and what it leaves behind. An answer starts one when its
payload still carries the name `DesktopSessionExpired` after decoding;
`name_survives_iff` says for which payloads a name does. A renewal that succeeds
is invisible to callers: `renewal_transparent` compares any run without renewals
with the same run after any of its messages have been made to renew first.
-/

namespace Sdk

open Serde Machine

section Names

variable [Codec] [Target] {bytes payload : Bytes} {name : String} {members : List (String × Json)}

/-- The failure is reported under its own name, with some message; and if that is
the name of an expired session, an open client that receives it opens a new one. -/
structure NameSurvives (bytes : Bytes) (name : String) : Prop where
  reported : ∃ message, message ≠ "" ∧ decodeResponse bytes = .error (.remote name message)
  expires : name = "DesktopSessionExpired" →
    ∀ error, decodeResponse bytes = .error error → error.isSessionExpired = true
  renews : name = "DesktopSessionExpired" →
    ∀ (inner : ClientInner) id method parameters, inner.clientId = some id →
      inner.nextAnswer = .ok bytes →
      ∃ later, (inner.invokeBytes method parameters).2.transport.log = inner.transport.log ++
        exchange (invokeRequest inner.accountName id method parameters) (.ok bytes) ::
          exchange (initRequest inner.accountName inner.integration)
            (inner.transport.answers.get 1) :: later

/-- An open client that meets an expired session asks for a new one at once. -/
theorem ClientInner.invokeBytes_renews {inner : ClientInner} {id : UInt64} (method : String)
    (parameters : List (String × Json)) (held : inner.clientId = some id)
    (lapsed : expired (readAnswer inner.nextAnswer) = true) :
    ∃ later, (inner.invokeBytes method parameters).2.transport.log = inner.transport.log ++
      exchange (invokeRequest inner.accountName id method parameters) inner.nextAnswer ::
        exchange (initRequest inner.accountName inner.integration)
          (inner.transport.answers.get 1) :: later := by
  cases opened : readSession (inner.transport.answers.get 1) with
  | error error =>
      rw [invokeBytes_notRenewed held lapsed opened]
      exact ⟨[], by simp [ClientInner.nextAnswer]⟩
  | ok next =>
      rw [invokeBytes_renewed held lapsed opened]
      exact ⟨_, by simp [ClientInner.nextAnswer]; rfl⟩

/-- Reporting the name is all that is needed. -/
theorem NameSurvives.of_reported
    (reported : ∃ message, message ≠ "" ∧ decodeResponse bytes = .error (.remote name message)) :
    NameSurvives bytes name := by
  obtain ⟨message, some, eq⟩ := reported
  refine ⟨⟨message, some, eq⟩, ?_, ?_⟩
  · rintro rfl error same
    rw [eq] at same
    exact Error.isSessionExpired_iff.mpr ⟨message, (Except.error.inj same).symm⟩
  · rintro rfl inner id method parameters held answer
    have lapsed : expired (readAnswer inner.nextAnswer) = true := by
      rw [expired_iff, answer]
      exact ⟨message, eq⟩
    obtain ⟨later, sent⟩ := ClientInner.invokeBytes_renews method parameters held lapsed
    exact ⟨later, by rw [sent, answer]⟩

/-- A remote name survives decoding exactly when the message beside it is absent or
a string; except that the fallback for everything else happens to be called
`Unknown` itself. -/
theorem name_survives_iff (failure : NamedFailure bytes payload name members) :
    NameSurvives bytes name ↔ MessageReadable members ∨ name = "Unknown" := by
  constructor
  · intro survives
    by_contra! lost
    obtain ⟨unreadable, other⟩ := lost
    obtain ⟨message, _, eq⟩ := survives.reported
    obtain ⟨raw, _, fallback⟩ := failure.unknown_of_not_readable unreadable
    rw [fallback] at eq
    exact other (Error.remote.inj (Except.error.inj eq)).1.symm
  · rintro (readable | rfl)
    · exact .of_reported (failure.remote_of_readable readable)
    · by_cases readable : MessageReadable members
      · exact .of_reported (failure.remote_of_readable readable)
      · exact .of_reported (failure.unknown_of_not_readable readable)

end Names

section NullMessage

/-- A payload that names an expired session, with `null` for the message. -/
def nullMessage : List (String × Json) :=
  [("name", .string "DesktopSessionExpired"), ("message", .null)]

/-- The failed response carrying it. -/
def nullMessageResponse : Json := (Response.mk false (Json.toBytes (.object nullMessage))).arrayShape

/-- A codec that knows the payload and the response above. -/
local instance nullMessageCodec : Codec :=
  .ofDocuments [.object nullMessage, nullMessageResponse]

local instance nullMessageTarget : Target := .linux

theorem nullMessage_failure :
    NamedFailure nullMessageResponse.toBytes (Json.toBytes (.object nullMessage))
      "DesktopSessionExpired" nullMessage where
  envelope := fromSlice_eq_ok_iff.mpr
    ⟨_, Codec.ofDocuments_document (by decide +kernel) (.tail _ (.head _)),
      Response.deserialize_arrayShape _⟩
  document := Codec.ofDocuments_document (by decide +kernel) (.head _)
  name_once := rfl
  name_ne := by decide

theorem name_survives_iff_nullMessage :
    NameSurvives nullMessageResponse.toBytes "DesktopSessionExpired" ↔
      MessageReadable nullMessage ∨ "DesktopSessionExpired" = "Unknown" :=
  name_survives_iff nullMessage_failure

/-- Beside a `null` message the name is lost, and with it the renewal. -/
theorem name_lost_beside_null :
    NamedFailure nullMessageResponse.toBytes (Json.toBytes (.object nullMessage))
        "DesktopSessionExpired" nullMessage ∧
      expired (decodeResponse nullMessageResponse.toBytes) = false ∧
      ¬ NameSurvives nullMessageResponse.toBytes "DesktopSessionExpired" := by
  have unreadable : ¬ MessageReadable nullMessage := by
    rintro (absent | ⟨message, single⟩)
    · cases absent
    · cases single
  obtain ⟨message, _, fallback⟩ := nullMessage_failure.unknown_of_not_readable unreadable
  refine ⟨nullMessage_failure, ?_, ?_⟩
  · rw [fallback]
    rfl
  · rintro ⟨⟨message, _, eq⟩, _, _⟩
    rw [fallback] at eq
    simp at eq

end NullMessage

section Transparency

variable [Codec] [Target]

/-- How a session lapses before one message: the answer that reports it expired,
and the answer to the renewal. -/
structure Lapse where
  expiry : Result Bytes
  opened : Result Bytes

/-- The report is one, and the renewal yields an id. -/
structure Lapse.Renewed (lapse : Lapse) : Prop where
  reported : SessionExpired lapse.expiry
  opens : ∃ id, readSession lapse.opened = .ok id

/-- The same event with a lapse before its `invoke`, if it sends one. -/
def Event.after (event : Event) (lapse : Option Lapse) : Event :=
  match event, lapse with
  | .call operation answers, some lapse =>
      if operation.invocation.isSome then
        .call operation (.cons lapse.expiry (.cons lapse.opened answers))
      else .call operation answers
  | event, _ => event

namespace Session

variable {s t u : Session} {event : Event} {operation : Operation}
variable {answers : Stream' (Result Bytes)}

/-- The states of two runs that callers cannot tell apart. -/
structure Alike (s t : Session) : Prop where
  history : t.history = s.history
  handles : t.handles = s.handles
  isOpen : t.inner.isOpen = s.inner.isOpen

/-- No `invoke` of this client has been answered with an expired session. -/
def Unexpired (s : Session) : Prop :=
  ∀ e ∈ s.inner.transport.log, e.request.kind = "invoke" → ¬ SessionExpired e.answer

/-- Calls and drops only add messages. -/
theorem step_log (h : s.step event = some t) :
    s.inner.transport.log <+: t.inner.transport.log := by
  have released : ∀ inner : ClientInner,
      inner.transport.log <+: inner.releaseLocked.2.transport.log := by
    intro inner
    cases held : inner.clientId with
    | none => rw [ClientInner.releaseLocked_closed held]
    | some id => simp [ClientInner.releaseLocked_open held]
  obtain ⟨_, ⟨_, rfl⟩ | ⟨operation, answers, _, rfl⟩ | ⟨answers, _, rfl⟩⟩ := step_cases h
  · exact List.prefix_refl _
  · change (s.inner.listen answers).transport.log <+: (operation.perform _).2.transport.log
    cases sends : operation.invocation with
    | none =>
        obtain rfl := Operation.invocation_eq_none_iff.mp sends
        exact released _
    | some call =>
        rw [Operation.perform_invocation sends]
        obtain ⟨_, eq⟩ | ⟨_, _, ⟨_, eq⟩ | ⟨_, _, _, eq⟩ | ⟨_, _, _, eq⟩⟩ :=
          ClientInner.invokeBytes_cases (s.inner.listen answers) call.1 call.2
        all_goals simp [eq]
  · simp only [dropHandle]
    split
    · rw [ClientInner.drop_eq]
      exact released (s.inner.listen answers)
    · exact List.prefix_refl _

/-- An open client whose history stays free of expired sessions was answered at once. -/
theorem Unexpired.answered {method : String} {parameters : List (String × Json)} {id : UInt64}
    (unexpired : (s.call operation answers).Unexpired)
    (called : s.Called (s.call operation answers) operation method parameters answers id) :
    ¬ SessionExpired (answers.get 0) := by
  intro lapsed
  have sent : exchange (invokeRequest s.inner.accountName id method parameters) (answers.get 0) ∈
      (s.call operation answers).inner.transport.log := by
    cases opened : readSession (answers.get 1) with
    | error error => simp [(called.notRenewed error lapsed opened).1]
    | ok next => simp [(called.renewed next lapsed opened).1]
  exact unexpired _ sent rfl lapsed

/-- What `close` gives its caller depends on whether the client is still open. -/
theorem call_close (s : Session) (answers : Stream' (Result Bytes)) :
    (s.call .close answers).history = s.history ++ [⟨.close, .close
        (if s.inner.isOpen then (readAnswer (answers.get 0)).map fun _ => () else .ok ()), false⟩] ∧
      (s.call .close answers).inner.isOpen = false := by
  cases held : s.inner.clientId with
  | none =>
      rw [call_closed held]
      simp [ClientInner.isOpen, ClientInner.listen, held, Operation.closedReply]
  | some id =>
      have listening : (s.inner.listen answers).clientId = some id := held
      simp only [call, Operation.perform_close, ClientInner.releaseLocked_open listening]
      simp [ClientInner.isOpen, held]
      rfl

/-- Two open clients whose calls come to the same reply stay alike. -/
theorem Alike.call_of_history {answers' : Stream' (Result Bytes)} {observed : Observed}
    {id id' : UInt64} (alike : Alike s t)
    (history : (s.call operation answers).history = s.history ++ [observed])
    (history' : (t.call operation answers').history = t.history ++ [observed])
    (held : (s.call operation answers).inner.clientId = some id)
    (held' : (t.call operation answers').inner.clientId = some id') :
    Alike (s.call operation answers) (t.call operation answers') := by
  refine ⟨?_, alike.handles, ?_⟩
  · rw [history, history', alike.history]
  · simp [ClientInner.isOpen, held, held']

/-- An open client comes to the same reply, whether or not its session lapses first. -/
theorem Alike.call_open {lapse : Option Lapse} {method : String}
    {parameters : List (String × Json)} {id : UInt64} (alike : Alike s t)
    (sends : operation.invocation = some (method, parameters)) (held : s.inner.clientId = some id)
    (answered : ¬ SessionExpired (answers.get 0)) (renewed : ∀ l ∈ lapse, l.Renewed) :
    ∃ answers', (Event.call operation answers).after lapse = .call operation answers' ∧
      Alike (s.call operation answers) (t.call operation answers') := by
  obtain ⟨id', held'⟩ : ∃ id', t.inner.clientId = some id' := by
    have opened := alike.isOpen
    rw [ClientInner.isOpen, ClientInner.isOpen, held] at opened
    exact Option.isSome_iff_exists.mp opened
  obtain ⟨_, stays, history⟩ := (call_called answers sends held).answered answered
  cases lapse with
  | none =>
      obtain ⟨_, stays', history'⟩ := (call_called answers sends held').answered answered
      exact ⟨answers, rfl, alike.call_of_history history history' stays stays'⟩
  | some lapse =>
      obtain ⟨reported, next, opens⟩ := renewed lapse rfl
      -- The retry meets the answer the first run gave at once.
      obtain ⟨_, stays', history'⟩ := (call_called
        (.cons lapse.expiry (.cons lapse.opened answers)) sends held').renewed next reported opens
      exact ⟨.cons lapse.expiry (.cons lapse.opened answers), by simp [Event.after, sends],
        alike.call_of_history history history' stays stays'⟩

/-- Clients that are closed need no answers to reply alike. -/
theorem Alike.call_closed {answers' : Stream' (Result Bytes)} (alike : Alike s t)
    (closed : s.inner.clientId = none) :
    Alike (s.call operation answers) (t.call operation answers') := by
  have closed' : t.inner.clientId = none := by
    simpa [ClientInner.isOpen, closed] using alike.isOpen
  rw [Session.call_closed closed, Session.call_closed closed']
  exact ⟨by rw [alike.history], alike.handles, alike.isOpen⟩

/-- `close` sees no more of a client than whether it is open. -/
theorem Alike.close (alike : Alike s t) (answers : Stream' (Result Bytes)) :
    Alike (s.call .close answers) (t.call .close answers) := by
  obtain ⟨history, closed⟩ := s.call_close answers
  obtain ⟨history', closed'⟩ := t.call_close answers
  refine ⟨?_, alike.handles, closed'.trans closed.symm⟩
  rw [history, history', alike.history, alike.isOpen]

/-- A lapse before its message does not change what a call gives its caller. -/
theorem Alike.call {lapse : Option Lapse} (alike : Alike s t)
    (renewed : ∀ l ∈ lapse, l.Renewed) (unexpired : (s.call operation answers).Unexpired) :
    ∃ answers', (Event.call operation answers).after lapse = .call operation answers' ∧
      Alike (s.call operation answers) (t.call operation answers') := by
  cases sends : operation.invocation with
  | none =>
      obtain rfl := Operation.invocation_eq_none_iff.mp sends
      exact ⟨answers, by cases lapse <;> rfl, alike.close answers⟩
  | some call =>
      cases held : s.inner.clientId with
      | none =>
          cases lapse with
          | none => exact ⟨answers, rfl, alike.call_closed held⟩
          | some lapse => exact ⟨.cons lapse.expiry (.cons lapse.opened answers),
              by simp [Event.after, sends], alike.call_closed held⟩
      | some id =>
          have answered := unexpired.answered (call_called answers sends held)
          exact alike.call_open sends held answered renewed

/-- A dropped client is closed, whether or not it was open. -/
theorem drop_isOpen (s : Session) (answers : Stream' (Result Bytes)) :
    (s.inner.listen answers).drop.isOpen = false := by
  rw [ClientInner.drop_eq]
  exact (s.call_close answers).2

/-- One step of a run with lapses. -/
theorem Alike.step {lapse : Option Lapse} (alike : Alike s t) (renewed : ∀ l ∈ lapse, l.Renewed)
    (h : s.step event = some u) (unexpired : u.Unexpired) :
    ∃ v, t.step (event.after lapse) = some v ∧ Alike u v := by
  obtain ⟨live, done⟩ := step_cases h
  have live' : t.handles ≠ 0 := alike.handles ▸ live
  obtain ⟨rfl, rfl⟩ | ⟨operation, answers, rfl, rfl⟩ | ⟨answers, rfl, rfl⟩ := done
  · refine ⟨{ t with handles := t.handles + 1 },
      by cases lapse <;> simp [Event.after, step, live'], ?_⟩
    exact ⟨alike.history, congrArg (· + 1) alike.handles, alike.isOpen⟩
  · obtain ⟨answers', same, calls⟩ := alike.call renewed unexpired
    exact ⟨_, by simp [same, step, live'], calls⟩
  · refine ⟨t.dropHandle answers, by cases lapse <;> simp [Event.after, step, live'], ?_⟩
    simp only [dropHandle]
    rw [alike.handles]
    split
    · exact ⟨alike.history, rfl, (t.drop_isOpen answers).trans (s.drop_isOpen answers).symm⟩
    · exact ⟨alike.history, rfl, alike.isOpen⟩

end Session

/-- Session renewal is transparent to callers. Take any run of a client in which no
`invoke` is answered with an expired session, and make any of its calls meet an
expired session and a successful renewal first: the callers get the same results in
the same order, and the client is open or closed after each of them as it was. -/
theorem renewal_transparent {start s : Session} (plan : List (Event × Option Lapse))
    (run : Run Session.step start (plan.map Prod.fst) s) (unexpired : s.Unexpired)
    (renewed : ∀ entry ∈ plan, ∀ lapse ∈ entry.2, lapse.Renewed) :
    ∃ t, Run Session.step start (plan.map fun entry => entry.1.after entry.2) t ∧
      t.history = s.history ∧ t.inner.isOpen = s.inner.isOpen := by
  have events : List.Forall₂
      (fun event event' => ∃ lapse : Option Lapse, (∀ l ∈ lapse, l.Renewed) ∧
        event' = event.after lapse)
      (plan.map Prod.fst) (plan.map fun entry => entry.1.after entry.2) := by
    rw [List.forall₂_map_left_iff, List.forall₂_map_right_iff, List.forall₂_same]
    exact fun entry member => ⟨entry.2, renewed entry member, rfl⟩
  have inherited : ∀ s event t, Session.step s event = some t → t.Unexpired → s.Unexpired :=
    fun _ _ _ h promise e member => promise e ((Session.step_log h).subset member)
  have square : ∀ u v event event' w, Session.Alike u v →
      (∃ lapse : Option Lapse, (∀ l ∈ lapse, l.Renewed) ∧ event' = event.after lapse) →
      Session.step u event = some w → w.Unexpired →
      ∃ x, Session.step v event' = some x ∧ Session.Alike w x := by
    rintro u v event _ w alike ⟨lapse, genuine, rfl⟩ h promise
    exact alike.step genuine h promise
  obtain ⟨t, run', alike⟩ := run.simulated inherited square unexpired ⟨rfl, rfl, rfl⟩ events
  exact ⟨t, run', alike.history, alike.isOpen⟩

end Transparency

section Lapsing

local instance lapsingCodec : Codec := sessionCodec

local instance lapsingTarget : Target := .linux

/-- The vaults are listed at once. -/
def listing : Stream' (Result Bytes) := .const (.ok (accepted (.array [])).toBytes)

/-- The session lapses before they are. -/
def listingLapse : Lapse :=
  ⟨.ok lapsedResponse.toBytes, .ok (accepted (serializeU64 9)).toBytes⟩

theorem listing_unexpired : ((Session.start deskClient).call .vaults listing).Unexpired := by
  have atOnce : ¬ SessionExpired (listing.get 0) := by
    rw [← expired_iff]
    decide +kernel
  have called : (Session.start deskClient).Called _ .vaults _ _ listing _ :=
    Session.call_called listing rfl rfl
  intro e member kind
  rw [(called.answered atOnce).1] at member
  obtain rfl | rfl : e = _ ∨ e = _ := by simpa [Session.start, deskClient] using member
  · simp [exchange, initRequest] at kind
  · exact atOnce

theorem renewal_transparent_listing :
    ∃ t, Run Session.step (.start deskClient)
        [(Event.call .vaults listing).after (some listingLapse)] t ∧
      t.history = ((Session.start deskClient).call .vaults listing).history ∧
      t.inner.isOpen = ((Session.start deskClient).call .vaults listing).inner.isOpen :=
  renewal_transparent [(.call .vaults listing, some listingLapse)] (.single rfl)
    listing_unexpired (by
      rintro entry member lapse chosen
      obtain rfl := List.mem_singleton.mp member
      obtain rfl := Option.some.inj chosen
      exact ⟨expired_iff.mp (by decide +kernel), 9, by decide +kernel⟩)

end Lapsing

end Sdk
