import OpGpui.Sdk.Session

/-!
# The course of one call

All a call on a client sends, with the answers it met, the bytes it returned and the id
it left behind. There are four courses, and each call takes one of them.
-/

namespace Sdk

open Serde

variable [Codec] [Target]

/-- The messages of one call, between the id before and the id after it. -/
inductive Course (accountName : String) (integration : IntegrationInfo) (method : String)
    (parameters : List (String × Json)) :
    Option UInt64 → List Exchange → Result Bytes → Option UInt64 → Prop
  | closed : Course accountName integration method parameters none [] (.error .clientClosed) none
  | answered {id : UInt64} {answer : Result Bytes} (answered : expired (readAnswer answer) = false) :
      Course accountName integration method parameters (some id)
        [exchange (invokeRequest accountName id method parameters) answer] (readAnswer answer)
        (some id)
  | notRenewed {id : UInt64} {answer renewal : Result Bytes} {error : Error}
      (lapsed : expired (readAnswer answer) = true) (failed : readSession renewal = .error error) :
      Course accountName integration method parameters (some id)
        [exchange (invokeRequest accountName id method parameters) answer,
          exchange (initRequest accountName integration) renewal] (.error error) (some id)
  | renewed {id next : UInt64} {answer renewal retry : Result Bytes}
      (lapsed : expired (readAnswer answer) = true) (opened : readSession renewal = .ok next) :
      Course accountName integration method parameters (some id)
        [exchange (invokeRequest accountName id method parameters) answer,
          exchange (initRequest accountName integration) renewal,
          exchange (invokeRequest accountName next method parameters) retry] (readAnswer retry)
        (some next)

namespace Course

variable {accountName : String} {integration : IntegrationInfo} {method : String}
variable {parameters : List (String × Json)} {id after : Option UInt64} {sent : List Exchange}
variable {result : Result Bytes} {response : Bytes}

/-- Every message of a course invokes the method of the call, or renews the session. -/
theorem request (course : Course accountName integration method parameters id sent result after) :
    ∀ e ∈ sent, e.request = initRequest accountName integration ∨
      ∃ id, e.request = invokeRequest accountName id method parameters := by
  intro e member
  cases course with
  | closed => cases member
  | answered _ =>
      obtain rfl := List.mem_singleton.mp member
      exact .inr ⟨_, rfl⟩
  | notRenewed _ _ =>
      obtain rfl | second := List.mem_cons.mp member
      · exact .inr ⟨_, rfl⟩
      · obtain rfl := List.mem_singleton.mp second
        exact .inl rfl
  | renewed _ _ =>
      obtain rfl | later := List.mem_cons.mp member
      · exact .inr ⟨_, rfl⟩
      · obtain rfl | last := List.mem_cons.mp later
        · exact .inl rfl
        · obtain rfl := List.mem_singleton.mp last
          exact .inr ⟨_, rfl⟩

theorem length_le (course : Course accountName integration method parameters id sent result after) :
    sent.length ≤ 3 := by
  cases course <;> simp

/-- A call never closes the client. -/
theorem stays_open (course : Course accountName integration method parameters id sent result after)
    (held : id ≠ none) : after ≠ none := by
  cases course with
  | closed => exact held
  | answered _ | notRenewed _ _ | renewed _ _ => simp

/-- What a call returns was the answer to one of its messages. -/
theorem of_ok (course : Course accountName integration method parameters id sent result after)
    (returned : result = .ok response) : ∃ e ∈ sent, readAnswer e.answer = .ok response := by
  cases course with
  | closed => cases returned
  | answered _ => exact ⟨_, List.mem_cons_self, returned⟩
  | notRenewed _ _ => cases returned
  | renewed _ _ => exact ⟨_, List.mem_cons_of_mem _ (List.mem_cons_of_mem _ (.head _)), returned⟩

end Course

/-- Every call takes one of the courses. -/
theorem ClientInner.invokeBytes_course (inner : ClientInner) (method : String)
    (parameters : List (String × Json)) :
    (inner.invokeBytes method parameters).2.accountName = inner.accountName ∧
      (inner.invokeBytes method parameters).2.integration = inner.integration ∧
      ∃ sent, (inner.invokeBytes method parameters).2.transport.log =
          inner.transport.log ++ sent ∧
        Course inner.accountName inner.integration method parameters inner.clientId sent
          (inner.invokeBytes method parameters).1 (inner.invokeBytes method parameters).2.clientId := by
  obtain ⟨closed, eq⟩ |
      ⟨id, held, ⟨answered, eq⟩ | ⟨error, lapsed, failed, eq⟩ | ⟨next, lapsed, opened, eq⟩⟩ :=
    inner.invokeBytes_cases method parameters
  · rw [eq]
    refine ⟨rfl, rfl, [], (List.append_nil _).symm, ?_⟩
    simp only [closed]
    exact .closed
  · rw [eq]
    refine ⟨rfl, rfl, _, rfl, ?_⟩
    simp only [held, sent_clientId]
    exact .answered answered
  · rw [eq]
    refine ⟨rfl, rfl, _, List.append_assoc .., ?_⟩
    simp only [held, sent_clientId]
    exact .notRenewed lapsed failed
  · rw [eq]
    refine ⟨rfl, rfl, _, (List.append_assoc ..).trans (List.append_assoc ..), ?_⟩
    simp only [held, sent_clientId]
    exact .renewed lapsed opened

omit [Target] in
/-- A release leaves no session, whatever its course. -/
theorem ClientInner.releaseLocked_clientId (inner : ClientInner) :
    inner.releaseLocked.2.clientId = none := by
  cases held : inner.clientId with
  | none => rw [releaseLocked_closed held, held]
  | some id => rw [releaseLocked_open held, sent_clientId]

end Sdk
