import OpGpui.Sdk.Locking

/-!
# One client among its threads

`Threaded` is a client from its connection to its end, shared by any number of threads.
Threads call it through their handles, clone and drop these, and wait for the lock; the
one inside makes its accesses and messages one by one, and the others come between them.
The last handle is dropped by a thread that has it to itself.

`threads_lead_a_session` is the refinement: what the threads have been replied, what the
client has sent and the id it holds are those of a `Session`, which makes the same calls
one after the other. So whatever holds of sessions holds of clients among threads.
-/

namespace Sdk

open Serde Machine

/-- A client and the number of its live handles. Before it is connected there are none. -/
structure Threaded where
  handles : Nat
  monitor : Monitor (Option UInt64) Work Request (Result Bytes) Outcome

/-- The configuration passes the checks of `connect_with_transport`. -/
structure Complete (accountName : String) (integration : IntegrationInfo) : Prop where
  account : Rust.trim accountName ≠ ""
  name : Rust.trim integration.name ≠ ""
  version : Rust.trim integration.version ≠ ""

namespace Threaded

inductive Event where
  | connect
  | clone
  | call (operation : Operation)
  | drop
  | enter (number : Nat)
  | access
  | answer (answer : Result Bytes)
  | leave

def start : Threaded := ⟨0, .idle none⟩

/-- The thread inside is about to return a connected client, which is its first handle. -/
def connects (s : Threaded) : Bool :=
  match s.monitor.inside with
  | some ⟨_, .connect, .done (.connected (.ok _))⟩ => true
  | _ => false

variable [Codec] [Target] {accountName : String} {integration : IntegrationInfo}
variable {s t : Threaded} {event : Event}

def act (accountName : String) (integration : IntegrationInfo) (s : Threaded)
    (event : Monitor.Event Work (Result Bytes)) : Option Threaded :=
  (s.monitor.step (Work.program accountName integration) event).map fun monitor =>
    { s with monitor }

/-- Connecting happens once, and first; calls need a handle, and so does a drop. -/
def step (accountName : String) (integration : IntegrationInfo) (s : Threaded) :
    Event → Option Threaded
  | .connect =>
      if s.monitor.waiting.started = 0 then s.act accountName integration (.call .connect) else none
  | .clone => if s.handles = 0 then none else some { s with handles := s.handles + 1 }
  | .call operation =>
      if s.handles = 0 then none else s.act accountName integration (.call (.call operation))
  | .drop =>
      if s.handles = 0 then none
      else if s.handles = 1 then
        -- a call in progress borrows a handle, so the last one is not dropped under it
        if s.monitor.pending.isEmpty then
          { s with handles := 0 }.act accountName integration (.call .drop)
        else none
      else some { s with handles := s.handles - 1 }
  | .enter number => s.act accountName integration (.enter number)
  | .access => s.act accountName integration .access
  | .answer answer => s.act accountName integration (.answer answer)
  | .leave =>
      (s.act accountName integration .leave).map fun t =>
        if s.connects then { t with handles := 1 } else t

theorem act_eq_some_iff {event : Monitor.Event Work (Result Bytes)} :
    s.act accountName integration event = some t ↔
      s.monitor.step (Work.program accountName integration) event = some t.monitor ∧
        t.handles = s.handles := by
  obtain ⟨handles, monitor⟩ := t
  simp only [act, Option.map_eq_some_iff, Threaded.mk.injEq]
  constructor
  · rintro ⟨_, stepped, rfl, rfl⟩
    exact ⟨stepped, rfl⟩
  · rintro ⟨stepped, rfl⟩
    exact ⟨_, stepped, rfl, rfl⟩

/-- Every event leaves the monitor alone or is a step of it, and an answer is one. -/
theorem step_monitor (h : s.step accountName integration event = some t) :
    (t.monitor = s.monitor ∧ ∀ answer, event ≠ .answer answer) ∨
      ∃ own, s.monitor.step (Work.program accountName integration) own = some t.monitor ∧
        ∀ answer, own = .answer answer ↔ event = .answer answer := by
  cases event with
  | clone =>
      simp only [step] at h
      split at h
      · cases h
      · obtain rfl := Option.some.inj h
        exact .inl ⟨rfl, nofun⟩
  | drop =>
      simp only [step] at h
      split at h
      · cases h
      · split at h
        · split at h
          · exact .inr ⟨_, (act_eq_some_iff.mp h).1, by simp⟩
          · cases h
        · obtain rfl := Option.some.inj h
          exact .inl ⟨rfl, nofun⟩
  | leave =>
      obtain ⟨u, left, rfl⟩ := Option.map_eq_some_iff.mp h
      refine .inr ⟨.leave, ?_, by simp⟩
      split <;> exact (act_eq_some_iff.mp left).1
  | connect =>
      simp only [step] at h
      split at h
      · exact .inr ⟨_, (act_eq_some_iff.mp h).1, by simp⟩
      · cases h
  | call operation =>
      simp only [step] at h
      split at h
      · cases h
      · exact .inr ⟨_, (act_eq_some_iff.mp h).1, by simp⟩
  | enter number => exact .inr ⟨_, (act_eq_some_iff.mp h).1, by simp⟩
  | access => exact .inr ⟨_, (act_eq_some_iff.mp h).1, by simp⟩
  | answer answer => exact .inr ⟨_, (act_eq_some_iff.mp h).1, by simp⟩

end Threaded

/-- Work that a handle is needed for. -/
def Work.IsCall (work : Work) : Prop := ∃ operation, work = .call operation

theorem Work.IsCall.ne_drop {work : Work} (isCall : work.IsCall) : work ≠ .drop := by
  obtain ⟨operation, rfl⟩ := isCall
  exact Work.noConfusion

section Replies

variable [Codec] [Target] {accountName : String} {integration : IntegrationInfo}
variable {own : List (Request × Result Bytes)} {id after : Option UInt64} {outcome : Outcome}

/-- A client that holds this id, in front of these answers. -/
def ClientInner.holding (accountName : String) (integration : IntegrationInfo)
    (id : Option UInt64) (answers : Stream' (Result Bytes)) : ClientInner :=
  ⟨⟨answers, []⟩, accountName, integration, id⟩

/-- The answers of a course, with nothing of interest after them. -/
def answersOf (own : List (Request × Result Bytes)) : Stream' (Result Bytes) :=
  own.map Prod.snd ++ₛ Stream'.const (.error .clientClosed)

theorem connect_outcome
    (course : (Work.connect.program accountName integration).Reaches none own (.done outcome) after) :
    outcome = .connected ((readSession (answersOf own).head).map fun _ => ()) ∧
      after = (readSession (answersOf own).head).toOption ∧
      own = [(initRequest accountName integration, (answersOf own).head)] := by
  have whole := course.eval (Stream'.const (.error .clientClosed))
  rw [show own.map Prod.snd ++ₛ Stream'.const (.error .clientClosed) = answersOf own from rfl,
    eval_connect] at whole
  obtain ⟨first, second⟩ := Prod.mk.inj whole
  obtain ⟨second, third⟩ := Prod.mk.inj second
  exact ⟨first.symm, second.symm, third.symm⟩

theorem drop_outcome
    (course : (Work.drop.program accountName integration).Reaches id own (.done outcome) after) :
    outcome = .dropped := by
  obtain ⟨asked, eq, _⟩ := eval_drop (.holding accountName integration id (answersOf own))
  have whole := course.eval (Stream'.const (.error .clientClosed))
  exact (Prod.mk.inj (whole.symm.trans eq)).1

end Replies

namespace Threaded

section Stages

variable {s t : Threaded}

/-- How far a client has come in its life. -/
inductive Stage (s : Threaded) : Prop
  | fresh (unheld : s.handles = 0) (idle : s.monitor.pending = []) (served : s.monitor.served = [])
  | connecting (unheld : s.handles = 0) (only : s.monitor.pending = [.connect])
      (served : s.monitor.served = [])
  | failed {number : Nat} {error : Error} (unheld : s.handles = 0) (idle : s.monitor.pending = [])
      (served : s.monitor.served = [⟨number, .connect, .connected (.error error)⟩])
  | live {number : Nat} {calls : List (Served Work Outcome)} (held : s.handles ≠ 0)
      (pending : ∀ work ∈ s.monitor.pending, work.IsCall)
      (calling : ∀ call ∈ calls, call.operation.IsCall)
      (served : s.monitor.served = ⟨number, .connect, .connected (.ok ())⟩ :: calls)
  | dropping {number : Nat} {calls : List (Served Work Outcome)} (unheld : s.handles = 0)
      (only : s.monitor.pending = [.drop]) (calling : ∀ call ∈ calls, call.operation.IsCall)
      (served : s.monitor.served = ⟨number, .connect, .connected (.ok ())⟩ :: calls)
  | dropped {number last : Nat} {calls : List (Served Work Outcome)} (unheld : s.handles = 0)
      (idle : s.monitor.pending = []) (calling : ∀ call ∈ calls, call.operation.IsCall)
      (served : s.monitor.served =
        ⟨number, .connect, .connected (.ok ())⟩ :: (calls ++ [⟨last, .drop, .dropped⟩]))

namespace Stage

/-- Whoever enters or goes on, the stage stays. -/
theorem permuted (stage : s.Stage) (handles : t.handles = s.handles)
    (pending : t.monitor.pending.Perm s.monitor.pending)
    (served : t.monitor.served = s.monitor.served) : t.Stage := by
  cases stage with
  | fresh unheld idle none =>
      exact .fresh (handles.trans unheld) (by simpa [idle] using pending) (served.trans none)
  | connecting unheld only none =>
      exact .connecting (handles.trans unheld) (by simpa [only] using pending) (served.trans none)
  | failed unheld idle once =>
      exact .failed (handles.trans unheld) (by simpa [idle] using pending) (served.trans once)
  | live held calls calling since =>
      exact .live (handles ▸ held) (fun work member => calls work (pending.mem_iff.mp member)) calling
        (served.trans since)
  | dropping unheld only calling since =>
      exact .dropping (handles.trans unheld) (by simpa [only] using pending) calling
        (served.trans since)
  | dropped unheld idle calling since =>
      exact .dropped (handles.trans unheld) (by simpa [idle] using pending) calling
        (served.trans since)

/-- A client with a handle has been connected, and only calls are under way. -/
theorem live_of_handles (stage : s.Stage) (held : s.handles ≠ 0) :
    (∀ work ∈ s.monitor.pending, work.IsCall) ∧ ∃ number calls,
      (∀ call ∈ calls, call.operation.IsCall) ∧
      s.monitor.served = ⟨number, .connect, .connected (.ok ())⟩ :: calls := by
  cases stage with
  | live _ pending calling served => exact ⟨pending, _, _, calling, served⟩
  | fresh unheld _ _ => exact absurd unheld held
  | connecting unheld _ _ => exact absurd unheld held
  | failed unheld _ _ => exact absurd unheld held
  | dropping unheld _ _ _ => exact absurd unheld held
  | dropped unheld _ _ _ => exact absurd unheld held

end Stage

end Stages

variable [Codec] [Target] {accountName : String} {integration : IntegrationInfo}
variable {s t : Threaded} {event : Event}

/-- What every event keeps. -/
structure Kept (accountName : String) (integration : IntegrationInfo) (s : Threaded) : Prop where
  accounted : s.monitor.Accounted
  linear : Monitor.Linear (Work.program accountName integration) none s.monitor
  stage : s.Stage

/-- What changes when work is called for. -/
theorem called {work : Work} (accounted : s.monitor.Accounted)
    (called : s.act accountName integration (.call work) = some t) :
    t.monitor.pending.Perm (work :: s.monitor.pending) ∧ t.monitor.served = s.monitor.served ∧
      t.handles = s.handles := by
  obtain ⟨done, handles⟩ := act_eq_some_iff.mp called
  obtain ⟨_, same, pending, served⟩ | ⟨_, _, _, other⟩ | ⟨_, _, _, impossible, _⟩ :=
    Monitor.pending_step accounted.numbered done
  · cases same
    exact ⟨pending, served, handles⟩
  · exact absurd rfl (other work)
  · cases impossible

namespace Kept

theorem start : Kept accountName integration start :=
  ⟨.idle none, .idle none, .fresh rfl rfl rfl⟩

/-- The stage after the thread inside has left. -/
theorem left {u : Threaded} (kept : Kept accountName integration s)
    (left : s.act accountName integration .leave = some u) :
    Stage (if s.connects then { u with handles := 1 } else u) := by
  obtain ⟨done, handles⟩ := act_eq_some_iff.mp left
  obtain ⟨_, impossible, _⟩ | ⟨_, _, other⟩ | ⟨number, work, outcome, _, inside, pending, served⟩ :=
    Monitor.pending_step kept.accounted.numbered done
  · cases impossible
  · exact absurd rfl other.1
  obtain ⟨asked, own, base, serial, course, _⟩ := kept.linear.held inside
  cases kept.stage with
  | fresh _ idle _ => simp [idle] at pending
  | failed _ idle _ => simp [idle] at pending
  | dropped _ idle _ _ => simp [idle] at pending
  | connecting unheld only none =>
      rw [only, List.singleton_perm, List.cons.injEq] at pending
      obtain ⟨rfl, idle⟩ := pending
      rw [none] at serial
      obtain ⟨_, rfl⟩ := serial.first
      obtain ⟨rfl, _, _⟩ := connect_outcome course
      rw [none, List.nil_append] at served
      cases answered : readSession (answersOf own).head with
      | error error =>
          rw [answered] at inside served
          have other : s.connects = false := by simp [connects, inside, Except.map]
          rw [other, if_neg Bool.false_ne_true]
          exact .failed (handles.trans unheld) idle.symm served
      | ok id =>
          rw [answered] at inside served
          have connected : s.connects = true := by simp [connects, inside, Except.map]
          rw [connected, if_pos rfl]
          refine .live Nat.one_ne_zero ?_ ?_ served
          · intro work member
            simp [← idle] at member
          · intro call member
            cases member
  | live held calls calling since =>
      have own : work.IsCall := calls work (pending.mem_iff.mpr List.mem_cons_self)
      obtain ⟨operation, rfl⟩ := own
      have other : s.connects = false := by simp [connects, inside]
      rw [other, if_neg Bool.false_ne_true]
      refine .live (handles ▸ held) ?_ ?_ (served.trans (by rw [since, List.cons_append]))
      · exact fun work member => calls work (pending.mem_iff.mpr (List.mem_cons_of_mem _ member))
      · intro call member
        obtain old | new := List.mem_append.mp member
        · exact calling call old
        · obtain rfl := List.mem_singleton.mp new
          exact ⟨operation, rfl⟩
  | dropping unheld only calling since =>
      rw [only, List.singleton_perm, List.cons.injEq] at pending
      obtain ⟨rfl, idle⟩ := pending
      obtain rfl := drop_outcome course
      have other : s.connects = false := by simp [connects, inside]
      rw [other, if_neg Bool.false_ne_true]
      exact .dropped (handles.trans unheld) idle.symm calling
        (served.trans (by rw [since, List.cons_append]))

/-- Entering, accessing and being answered change no stage. -/
theorem stage_of_act {own : Monitor.Event Work (Result Bytes)}
    (kept : Kept accountName integration s) (acts : s.act accountName integration own = some t)
    (quiet : own ≠ .leave) (silent : ∀ work, own ≠ .call work) : t.Stage := by
  obtain ⟨done, handles⟩ := act_eq_some_iff.mp acts
  obtain ⟨work, same, _⟩ | ⟨pending, served, _⟩ | ⟨_, _, _, same, _⟩ :=
    Monitor.pending_step kept.accounted.numbered done
  · exact absurd same (silent work)
  · exact kept.stage.permuted handles pending served
  · exact absurd same quiet

theorem stage_step (kept : Kept accountName integration s)
    (h : s.step accountName integration event = some t) : t.Stage := by
  cases event with
  | connect =>
      simp only [Threaded.step] at h
      split at h
      · rename_i unused
        obtain ⟨pending, served, handles⟩ := called kept.accounted h
        have none := kept.accounted.length
        rw [unused, Nat.add_eq_zero_iff, List.length_eq_zero_iff, List.length_eq_zero_iff] at none
        rw [none.1, List.perm_singleton] at pending
        refine .connecting (handles.trans ?_) pending (served.trans none.2)
        by_contra held
        obtain ⟨_, _, _, _, since⟩ := kept.stage.live_of_handles held
        rw [none.2] at since
        cases since
      · cases h
  | clone =>
      simp only [Threaded.step] at h
      split at h
      · cases h
      · rename_i held
        obtain rfl := Option.some.inj h
        obtain ⟨pending, _, _, calling, since⟩ := kept.stage.live_of_handles held
        exact .live (Nat.succ_ne_zero _) pending calling since
  | call operation =>
      simp only [Threaded.step] at h
      split at h
      · cases h
      · rename_i held
        obtain ⟨calls, _, _, calling, since⟩ := kept.stage.live_of_handles held
        obtain ⟨pending, served, handles⟩ := called kept.accounted h
        refine .live (handles ▸ held) ?_ calling (served.trans since)
        intro work member
        obtain rfl | old := List.mem_cons.mp (pending.mem_iff.mp member)
        · exact ⟨operation, rfl⟩
        · exact calls work old
  | drop =>
      simp only [Threaded.step] at h
      split at h
      · cases h
      · rename_i held
        obtain ⟨calls, _, _, calling, since⟩ := kept.stage.live_of_handles held
        split at h
        · split at h
          · rename_i quiet
            have alone : ({ s with handles := 0 } : Threaded).monitor.Accounted := kept.accounted
            obtain ⟨pending, served, handles⟩ := called alone h
            have idle : ({ s with handles := 0 } : Threaded).monitor.pending = [] :=
              List.isEmpty_iff.mp quiet
            rw [idle, List.perm_singleton] at pending
            exact .dropping handles pending calling (served.trans since)
          · cases h
        · obtain rfl := Option.some.inj h
          exact .live (by dsimp only; omega) calls calling since
  | enter number => exact kept.stage_of_act h nofun nofun
  | access => exact kept.stage_of_act h nofun nofun
  | answer answer => exact kept.stage_of_act h nofun nofun
  | leave =>
      obtain ⟨u, left, rfl⟩ := Option.map_eq_some_iff.mp h
      exact kept.left left

theorem step (kept : Kept accountName integration s)
    (h : s.step accountName integration event = some t) : Kept accountName integration t := by
  have stage := kept.stage_step h
  obtain ⟨same, _⟩ | ⟨own, done, _⟩ := step_monitor h
  · exact ⟨same ▸ kept.accounted, same ▸ kept.linear, stage⟩
  · exact ⟨kept.accounted.step done, kept.linear.step done, stage⟩

theorem run {events : List Event}
    (run : Run (Threaded.step accountName integration) Threaded.start events s) :
    Kept accountName integration s :=
  run.invariant (fun _ _ _ kept h => kept.step h) start

end Kept

end Threaded

/-- The calls that were replied to, with their replies. -/
def repliedTo (served : List (Served Work Outcome)) : List (Operation × Reply) :=
  served.filterMap fun call =>
    match call.operation, call.reply with
    | .call operation, .replied reply => some (operation, reply)
    | _, _ => none

@[simp] theorem repliedTo_append {first rest : List (Served Work Outcome)} :
    repliedTo (first ++ rest) = repliedTo first ++ repliedTo rest := List.filterMap_append

@[simp] theorem repliedTo_call {number : Nat} {operation : Operation} {reply : Reply} :
    repliedTo [⟨number, .call operation, .replied reply⟩] = [(operation, reply)] := rfl

@[simp] theorem repliedTo_drop {number : Nat} :
    repliedTo [⟨number, .drop, .dropped⟩] = [] := rfl

section Refinement

variable [Codec] [Target] {accountName : String} {integration : IntegrationInfo}
variable {served : List (Served Work Outcome)} {asked own : List (Request × Result Bytes)}
variable {id after : Option UInt64} {outcome : Outcome} {number : Nat}

/-- A session with the same calls in the same order, that sent and holds the same. -/
structure Session.Mirrors (s : Session) (accountName : String) (integration : IntegrationInfo)
    (served : List (Served Work Outcome)) (asked : List (Request × Result Bytes))
    (id : Option UInt64) : Prop where
  account : s.inner.accountName = accountName
  identity : s.inner.integration = integration
  held : s.inner.clientId = id
  log : s.inner.transport.log = exchanges asked
  history : (s.history.map fun call => (call.operation, call.reply)) = repliedTo served

/-- Such a session can be led, by a client that has connected with this configuration. -/
def LedAlone (accountName : String) (integration : IntegrationInfo)
    (served : List (Served Work Outcome)) (asked : List (Request × Result Bytes))
    (id : Option UInt64) (handles : Nat) : Prop :=
  ∃ answers inner events s,
    (ClientBuilder.mk (some accountName) (some integration)).connectWithTransport (.fresh answers) =
      (.ok inner, inner.transport) ∧
    Run Session.step (.start inner) events s ∧ s.Mirrors accountName integration served asked id ∧
    s.handles = handles

namespace LedAlone

theorem connect (complete : Complete accountName integration)
    (course : (Work.connect.program accountName integration).Reaches none own
      (.done (.connected (.ok ()))) after) :
    LedAlone accountName integration [⟨number, .connect, .connected (.ok ())⟩] own after 1 := by
  obtain ⟨answered, rfl, asked⟩ := connect_outcome course
  have eq := connectWithTransport_complete accountName integration (answersOf own) complete.account
    complete.name complete.version
  cases opened : readSession (answersOf own).head with
  | error error => simp [opened, Except.map] at answered
  | ok id =>
      rw [opened] at eq
      refine ⟨answersOf own, _, [], _, eq, .nil _, ⟨rfl, rfl, rfl, ?_, rfl⟩, rfl⟩
      rw [asked]
      rfl

theorem call {operation : Operation} (led : LedAlone accountName integration served asked id 1)
    (course : ((Work.call operation).program accountName integration).Reaches id own (.done outcome)
      after) :
    LedAlone accountName integration (served ++ [⟨number, .call operation, outcome⟩]) (asked ++ own)
      after 1 := by
  obtain ⟨answers, inner, events, s, connected, run, ⟨account, identity, held, log, history⟩, one⟩ :=
    led
  obtain ⟨_, eq, account', identity', log'⟩ :=
    eval_call operation (s.inner.listen (answersOf own))
  have whole := course.eval (Stream'.const (.error .clientClosed))
  rw [show (s.inner.listen (answersOf own)).accountName = accountName from account,
    show (s.inner.listen (answersOf own)).integration = integration from identity,
    show (s.inner.listen (answersOf own)).clientId = id from held] at eq
  obtain ⟨rfl, second⟩ := Prod.mk.inj (whole.symm.trans eq)
  obtain ⟨rfl, rfl⟩ := Prod.mk.inj second
  have stepped : s.step (.call operation (answersOf own)) =
      some (s.call operation (answersOf own)) := by simp [Session.step, one]
  refine ⟨answers, inner, events ++ [.call operation (answersOf own)],
    s.call operation (answersOf own), connected, run.append (.single stepped),
    ⟨account'.trans account, identity'.trans identity, rfl, ?_, ?_⟩, one⟩
  · rw [exchanges_append, ← log]
    exact log'
  · simp [Session.call, ← history]

theorem drop (led : LedAlone accountName integration served asked id 1)
    (course : (Work.drop.program accountName integration).Reaches id own (.done outcome) after) :
    LedAlone accountName integration (served ++ [⟨number, .drop, outcome⟩]) (asked ++ own) after 0 := by
  obtain ⟨answers, inner, events, s, connected, run, ⟨account, identity, held, log, history⟩, one⟩ :=
    led
  obtain ⟨_, eq, account', identity', log'⟩ := eval_drop (s.inner.listen (answersOf own))
  have whole := course.eval (Stream'.const (.error .clientClosed))
  rw [show (s.inner.listen (answersOf own)).accountName = accountName from account,
    show (s.inner.listen (answersOf own)).integration = integration from identity,
    show (s.inner.listen (answersOf own)).clientId = id from held] at eq
  obtain ⟨rfl, second⟩ := Prod.mk.inj (whole.symm.trans eq)
  obtain ⟨rfl, rfl⟩ := Prod.mk.inj second
  have stepped : s.step (.drop (answersOf own)) =
      some { s with inner := (s.inner.listen (answersOf own)).drop, handles := 0 } := by
    simp [Session.step, Session.dropHandle, one]
  refine ⟨answers, inner, events ++ [.drop (answersOf own)], _, connected,
    run.append (.single stepped), ⟨account'.trans account, identity'.trans identity, rfl, ?_, ?_⟩, rfl⟩
  · rw [exchanges_append, ← log]
    exact log'
  · rw [repliedTo_append, repliedTo_drop, List.append_nil]
    exact history

/-- A serial course that begins with a connection and goes on with calls. -/
theorem of_serial (complete : Complete accountName integration)
    {calls : List (Served Work Outcome)}
    (calling : ∀ call ∈ calls, call.operation.IsCall)
    (serial : Monitor.Serial (Work.program accountName integration) none
      (⟨number, .connect, .connected (.ok ())⟩ :: calls) asked id) :
    LedAlone accountName integration (⟨number, .connect, .connected (.ok ())⟩ :: calls) asked id 1 := by
  induction calls using List.reverseRecOn generalizing asked id with
  | nil =>
      rw [← List.nil_append [_]] at serial
      obtain ⟨before, own, base, rfl, earlier, course⟩ := serial.last
      obtain ⟨rfl, rfl⟩ := earlier.first
      exact connect complete course
  | append_singleton calls call ih =>
      obtain ⟨last, work, outcome⟩ := call
      obtain ⟨operation, rfl⟩ : work.IsCall := calling ⟨last, work, outcome⟩ (by simp)
      rw [← List.cons_append] at serial ⊢
      obtain ⟨before, own, base, rfl, earlier, course⟩ := serial.last
      have led := ih (fun call member => calling call (List.mem_append_left _ member)) earlier
      exact led.call course

end LedAlone

/-- The legal history of a session led alone. -/
theorem LedAlone.ledger {handles : Nat}
    (led : LedAlone accountName integration served asked id handles) :
    Ledger accountName integration (exchanges asked) id := by
  obtain ⟨answers, inner, events, s, connected, run, ⟨account, identity, held, log, _⟩, _⟩ := led
  obtain ⟨_, kept⟩ := connected_kept (congrArg Prod.fst connected)
  obtain ⟨same, same', ledger⟩ := (kept.run run).legal
  rwa [← same, ← same', account, identity, held, log] at ledger

/-- The session that the threads of a client lead together. -/
theorem Threaded.Kept.leads {s : Threaded} (kept : Kept accountName integration s)
    (complete : Complete accountName integration)
    (connected : ∃ call ∈ s.monitor.served, call.reply = .connected (.ok ())) :
    ∃ asked own id handles, s.monitor.asked = asked ++ own ∧
      LedAlone accountName integration s.monitor.served asked id handles ∧
      (s.monitor.inside = none → own = [] ∧ s.monitor.object = id) ∧
      (handles = 0 ↔ ∃ call ∈ s.monitor.served, call.operation = .drop) ∧
      s.monitor.numbers.Perm (List.range' 1 s.monitor.waiting.started) := by
  obtain ⟨asked, own, id, questions, serial, free⟩ := kept.linear.serial
  cases kept.stage with
  | fresh _ _ none => simp [none] at connected
  | connecting _ _ none => simp [none] at connected
  | failed _ _ once => simp [once] at connected
  | live _ _ calling since | dropping _ _ calling since =>
      rw [since] at serial
      refine ⟨asked, own, id, 1, questions, since ▸ .of_serial complete calling serial, free, ?_,
        kept.accounted.every⟩
      simp only [Nat.one_ne_zero, false_iff, since, List.mem_cons, exists_eq_or_imp, reduceCtorEq,
        false_or, not_exists, not_and]
      exact fun call member => (calling call member).ne_drop
  | dropped _ _ calling since =>
      rw [since, ← List.cons_append] at serial
      obtain ⟨before, last, base, rfl, earlier, course⟩ := serial.last
      refine ⟨before ++ last, own, id, 0, questions, ?_, free, by simp [since], kept.accounted.every⟩
      rw [since, ← List.cons_append]
      exact (LedAlone.of_serial complete calling earlier).drop course

/-- Nothing is replied to after the drop, and nothing waits then. -/
theorem Threaded.Kept.drop_last {s : Threaded} (kept : Kept accountName integration s)
    {front back : List (Served Work Outcome)} {call : Served Work Outcome}
    (cut : s.monitor.served = front ++ call :: back) (dropped : call.operation = .drop) :
    back = [] ∧ s.monitor.pending = [] := by
  have member : call ∈ s.monitor.served := by simp [cut]
  cases kept.stage with
  | fresh _ _ none | connecting _ _ none => simp [none] at member
  | failed _ _ once =>
      rw [once, List.mem_singleton] at member
      rw [member] at dropped
      cases dropped
  | live _ _ calling since | dropping _ _ calling since =>
      rw [since] at member
      obtain rfl | called := List.mem_cons.mp member
      · cases dropped
      · exact absurd dropped (calling call called).ne_drop
  | dropped _ idle calling since =>
      refine ⟨?_, idle⟩
      obtain rfl | ⟨others, last, rfl⟩ := back.eq_nil_or_concat'
      · rfl
      -- Whatever is not the last reply is that to the connection, or to a call.
      · rw [since, ← List.cons_append, ← List.cons_append, ← List.append_assoc] at cut
        have earlier := (List.append_inj' cut rfl).1
        have among : call ∈ front ++ call :: others := by simp
        rw [← earlier] at among
        obtain rfl | called := List.mem_cons.mp among
        · cases dropped
        · exact absurd dropped (calling call called).ne_drop

/-- Threads lead a session. However the threads of a client interleave, the calls that
have been replied to, the messages sent for them and the id the client was left with are
those of a session that a single caller could have led, making the same calls one after
the other in the order in which they left the lock. Only the thread inside, if there is
one, has sent more than that session. Every call waits, runs or has been replied to, and
only one of these, once; and the session ends with the drop of the client, when that has
been done, which is the last of all that was replied to. -/
theorem threads_lead_a_session {events : List Threaded.Event} {s : Threaded}
    (complete : Complete accountName integration)
    (run : Run (Threaded.step accountName integration) .start events s)
    (connected : ∃ call ∈ s.monitor.served, call.reply = .connected (.ok ())) :
    (∃ asked own id handles, s.monitor.asked = asked ++ own ∧
      LedAlone accountName integration s.monitor.served asked id handles ∧
      (s.monitor.inside = none → own = [] ∧ s.monitor.object = id) ∧
      (handles = 0 ↔ ∃ call ∈ s.monitor.served, call.operation = .drop) ∧
      s.monitor.numbers.Perm (List.range' 1 s.monitor.waiting.started)) ∧
    ∀ front call back, s.monitor.served = front ++ call :: back → call.operation = .drop →
      back = [] ∧ s.monitor.pending = [] :=
  have kept := Threaded.Kept.run run
  ⟨kept.leads complete connected, fun _ _ _ => kept.drop_last⟩

end Refinement

section Overtaking

local instance overtakingCodec : Codec := sessionCodec

local instance overtakingTarget : Target := .linux

/-- Once connected, a client is called by two threads. The second overtakes the first,
which has just entered when the events end. -/
def overtaking : List Threaded.Event :=
  [.connect, .enter 1, .answer (.ok (accepted (serializeU64 7)).toBytes), .access, .leave,
    .call .vaults, .call .close, .enter 3, .access, .answer (.ok []), .leave, .enter 2]

theorem threads_lead_a_session_overtaking :
    ∃ s, Run (Threaded.step "desk" ⟨"App", "1.0"⟩) .start overtaking s ∧
      s.monitor.served.map Served.number = [1, 3] ∧
      ∃ asked own id handles, s.monitor.asked = asked ++ own ∧
        LedAlone "desk" ⟨"App", "1.0"⟩ s.monitor.served asked id handles := by
  have reached : (overtaking.foldlM (Threaded.step "desk" ⟨"App", "1.0"⟩) .start).any (fun s =>
      s.monitor.served.map Served.number = [1, 3] &&
        s.monitor.served.any fun call => call.reply.isConnected) = true := by decide +kernel
  obtain ⟨s, folded, holds⟩ := (Option.any_eq_true _ _).mp reached
  simp only [Bool.and_eq_true, decide_eq_true_eq, List.any_eq_true, Outcome.isConnected_iff] at holds
  have run := Run.iff_foldlM.mpr folded
  have complete : Complete "desk" ⟨"App", "1.0"⟩ := ⟨by decide, by decide, by decide⟩
  obtain ⟨⟨asked, own, id, handles, questions, led, _⟩, _⟩ :=
    threads_lead_a_session complete run holds.2
  exact ⟨s, run, holds.1, asked, own, id, handles, questions, led⟩

end Overtaking

end Sdk
