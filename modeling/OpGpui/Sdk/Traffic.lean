import OpGpui.Sdk.Symbols
import OpGpui.Sdk.Threaded

/-!
# Clients that share their libraries

Any number of clients, each with its threads and its operation lock, and any number of
loaded libraries, each with its `call_lock`. A client sends its messages through its own
library, which others may use as well. A call takes the lock of the library, is in
`send_message` for a while, copies and frees the response and gives the lock back; any
other thread may act between these steps.

Whatever the interleaving, the calls through one library follow each other whole and
leave no buffer behind (`foreign_calls_serial`), each client finds its own legal history
among them (`shared_library_legal`), and somebody can always go on (`never_stuck`).
-/

namespace Sdk

open Serde Machine

/-- A call through a library, by the client that made it. -/
structure Sent (C : Type) where
  client : C
  input : Bytes
  reply : SendReply

namespace Sent

variable {C : Type}

def trace (sent : Sent C) : List Foreign := callTrace sent.input sent.reply

def result (sent : Sent C) : Result Bytes := (callSymbols sent.reply).2

/-- Whole calls, one after the other, leave no buffer behind. -/
theorem outstanding_calls (calls : List (Sent C)) :
    outstanding (calls.flatMap trace) = some [] := by
  induction calls with
  | nil => rfl
  | cons sent calls ih =>
      have whole : outstanding sent.trace = some [] := outstanding_callTrace
      rw [List.flatMap_cons, outstanding_append whole, ih]

end Sent

/-- How far the thread that holds a `call_lock` has come. -/
inductive Calling where
  | locked (input : Bytes)
  | sending (input : Bytes)
  | returned (input : Bytes) (reply : SendReply)
  | finished (input : Bytes) (reply : SendReply)

namespace Calling

def input : Calling → Bytes
  | .locked input => input
  | .sending input => input
  | .returned input _ => input
  | .finished input _ => input

/-- What has happened at the boundary since the lock was taken. -/
def trace : Calling → List Foreign
  | .locked _ => []
  | .sending input => [.sendMessage input]
  | .returned input reply => [.sendMessage input, .returned reply]
  | .finished input reply => callTrace input reply

/-- Only a response that has not been copied yet is outstanding. -/
def buffers : Calling → List Buffer
  | .returned _ reply => reply.output.toList
  | _ => []

theorem outstanding_trace (calling : Calling) :
    outstanding calling.trace = some calling.buffers := by
  cases calling with
  | locked input => rfl
  | sending input => rfl
  | returned input reply => exact outstanding_returned
  | finished input reply => exact outstanding_callTrace

end Calling

/-- A loaded library: who holds its `call_lock`, what has happened at its boundary, and
the calls that have been completed. -/
structure Channel (C : Type) where
  holder : Option (C × Calling)
  trace : List Foreign
  completed : List (Sent C)

/-- Which library each client was connected through, and who it connected as. -/
structure Layout (C L : Type) where
  library : C → L
  accountName : C → String
  integration : C → IntegrationInfo

structure Traffic (C L : Type) where
  clients : C → Threaded
  channels : L → Channel C

/-- The request the thread inside a client wants answered. -/
def Threaded.asks (s : Threaded) : Option Request :=
  match s.monitor.inside with
  | some ⟨_, _, .ask request _⟩ => some request
  | _ => none

namespace Threaded

variable [Codec] [Target] {accountName : String} {integration : IntegrationInfo}
variable {s t : Threaded} {event : Event} {request : Request} {answer : Result Bytes}

omit [Codec] [Target] in
theorem asks_eq_some_iff : s.asks = some request ↔
    ∃ number work rest, s.monitor.inside = some ⟨number, work, .ask request rest⟩ := by
  simp only [asks]
  split
  · rename_i number work other rest inside
    simp only [inside, Option.some.injEq, Running.mk.injEq, Program.ask.injEq]
    constructor
    · rintro rfl
      exact ⟨number, work, rest, rfl, rfl, rfl, rfl⟩
    · rintro ⟨_, _, _, _, _, same, _⟩
      exact same
  · rename_i unasked
    simp only [reduceCtorEq, false_iff]
    rintro ⟨number, work, rest, inside⟩
    exact unasked _ _ _ _ inside

/-- Without an answer nothing is asked, and what is asked stays so. -/
theorem step_unanswered (h : s.step accountName integration event = some t)
    (unanswered : ∀ answer, event ≠ .answer answer) :
    t.monitor.asked = s.monitor.asked ∧
      ∀ request, s.asks = some request → t.asks = some request := by
  obtain ⟨same, _⟩ | ⟨own, done, answers⟩ := step_monitor h
  · simp only [asks, same]
    exact ⟨trivial, fun _ asked => asked⟩
  · obtain ⟨asked, waits⟩ := Monitor.step_unanswered done
      fun answer same => unanswered answer ((answers answer).mp same)
    refine ⟨asked, ?_⟩
    intro request asks
    obtain ⟨number, work, rest, inside⟩ := asks_eq_some_iff.mp asks
    exact asks_eq_some_iff.mpr ⟨number, work, rest, (waits _ _ _ _ inside).trans inside⟩

/-- An answer goes to the request of the thread inside. -/
theorem step_answer (h : s.step accountName integration (.answer answer) = some t) :
    ∃ request, s.asks = some request ∧
      t.monitor.asked = s.monitor.asked ++ [(request, answer)] := by
  obtain ⟨done, _⟩ := act_eq_some_iff.mp h
  obtain ⟨number, work, request, rest, inside, eq⟩ := Monitor.step_answer_eq_some_iff.mp done
  exact ⟨request, asks_eq_some_iff.mpr ⟨number, work, rest, inside⟩, by rw [eq]⟩

/-- A thread that asks can be answered anything. -/
theorem answer_isSome (accountName : String) (integration : IntegrationInfo)
    (asks : s.asks = some request) (answer : Result Bytes) :
    (s.step accountName integration (.answer answer)).isSome := by
  obtain ⟨number, work, rest, inside⟩ := asks_eq_some_iff.mp asks
  simp [step, act, Monitor.step, inside]

end Threaded

namespace Traffic

variable {C L : Type}

inductive Event (C L : Type) where
  /-- A step of a client that needs no answer. -/
  | client (client : C) (event : Threaded.Event)
  /-- An empty request is answered without a call. -/
  | refuse (client : C)
  | lock (client : C)
  | send (library : L)
  | returned (library : L) (reply : SendReply)
  | finish (library : L)
  | unlock (library : L)

/-- The threads begin something new, instead of going on. -/
def Event.demands : Event C L → Bool
  | .client _ .connect => true
  | .client _ .clone => true
  | .client _ (.call _) => true
  | .client _ .drop => true
  | _ => false

/-- The event is a step of this client, or of a call through its library. -/
def Event.concerns (layout : Layout C L) (client : C) : Event C L → Prop
  | .client other _ | .refuse other | .lock other => other = client
  | .send library | .returned library _ | .finish library | .unlock library =>
      library = layout.library client

def start : Traffic C L := ⟨fun _ => .start, fun _ => ⟨none, [], []⟩⟩

variable [DecidableEq C] [DecidableEq L]

def setClient (s : Traffic C L) (client : C) (threaded : Threaded) : Traffic C L :=
  { s with clients := Function.update s.clients client threaded }

def setChannel (s : Traffic C L) (library : L) (channel : Channel C) : Traffic C L :=
  { s with channels := Function.update s.channels library channel }

variable [Codec] [Target]

/-- Answer the thread inside a client. -/
def answer (layout : Layout C L) (s : Traffic C L) (client : C) (answer : Result Bytes) :
    Option (Traffic C L) :=
  ((s.clients client).step (layout.accountName client) (layout.integration client)
    (.answer answer)).map (s.setClient client)

def step (layout : Layout C L) (s : Traffic C L) : Event C L → Option (Traffic C L)
  | .client _ (.answer _) => none
  | .client client event =>
      ((s.clients client).step (layout.accountName client) (layout.integration client) event).map
        (s.setClient client)
  | .refuse client =>
      match (s.clients client).asks with
      | some request =>
          if encodeRequest request = [] then s.answer layout client (.error emptyRequest) else none
      | none => none
  | .lock client =>
      match (s.clients client).asks, (s.channels (layout.library client)).holder with
      | some request, none =>
          if encodeRequest request = [] then none
          else some (s.setChannel (layout.library client)
            { s.channels (layout.library client) with
              holder := some (client, .locked (encodeRequest request)) })
      | _, _ => none
  | .send library =>
      match (s.channels library).holder with
      | some (client, .locked input) => some (s.setChannel library
          { s.channels library with
            holder := some (client, .sending input)
            trace := (s.channels library).trace ++ [.sendMessage input] })
      | _ => none
  | .returned library reply =>
      match (s.channels library).holder with
      | some (client, .sending input) => some (s.setChannel library
          { s.channels library with
            holder := some (client, .returned input reply)
            trace := (s.channels library).trace ++ [.returned reply] })
      | _ => none
  | .finish library =>
      match (s.channels library).holder with
      | some (client, .returned input reply) => some (s.setChannel library
          { s.channels library with
            holder := some (client, .finished input reply)
            trace := (s.channels library).trace ++ (callSymbols reply).1 })
      | _ => none
  | .unlock library =>
      match (s.channels library).holder with
      | some (client, .finished input reply) =>
          (s.answer layout client (callSymbols reply).2).map fun t =>
            t.setChannel library
              { s.channels library with
                holder := none
                completed := (s.channels library).completed ++ [⟨client, input, reply⟩] }
      | _ => none

section Steps

variable {layout : Layout C L} {s t : Traffic C L} {event : Event C L} {client other : C}
variable {library : L}

omit [DecidableEq L] [Codec] [Target] in
@[simp] theorem setClient_channels {threaded : Threaded} :
    (s.setClient client threaded).channels = s.channels := rfl

omit [DecidableEq C] [Codec] [Target] in
@[simp] theorem setChannel_clients {channel : Channel C} :
    (s.setChannel library channel).clients = s.clients := rfl

omit [DecidableEq L] in
theorem answer_eq_some_iff {answer : Result Bytes} : s.answer layout client answer = some t ↔
    ∃ threaded, (s.clients client).step (layout.accountName client) (layout.integration client)
      (.answer answer) = some threaded ∧ s.setClient client threaded = t :=
  Option.map_eq_some_iff

/-- The calls one client has made through its library, with their results. -/
def callsOf (completed : List (Sent C)) (client : C) : List (Bytes × Result Bytes) :=
  (completed.filter (·.client = client)).map fun sent => (sent.input, sent.result)

/-- The requests of a client that are not empty, as they travelled, with their answers. -/
def travelled (asked : List (Request × Result Bytes)) : List (Bytes × Result Bytes) :=
  (asked.map fun (request, answer) => (encodeRequest request, answer)).filter (·.1 ≠ [])

/-- Who holds a lock asks for an answer through it, and every channel is the record of
the calls made through it. -/
structure Sound (layout : Layout C L) (s : Traffic C L) : Prop where
  kept : ∀ client, (s.clients client).Kept (layout.accountName client) (layout.integration client)
  holding : ∀ library client calling, (s.channels library).holder = some (client, calling) →
    layout.library client = library ∧ calling.input ≠ [] ∧
      ∃ request, (s.clients client).asks = some request ∧ encodeRequest request = calling.input
  traced : ∀ library, (s.channels library).trace =
    (s.channels library).completed.flatMap Sent.trace ++
      (s.channels library).holder.elim [] fun held => held.2.trace
  own : ∀ library, ∀ sent ∈ (s.channels library).completed, layout.library sent.client = library
  answered : ∀ client, travelled (s.clients client).monitor.asked =
    callsOf (s.channels (layout.library client)).completed client

omit [Target] in
theorem travelled_append {asked : List (Request × Result Bytes)} {request : Request}
    {answer : Result Bytes} : travelled (asked ++ [(request, answer)]) = travelled asked ++
      if encodeRequest request = [] then [] else [(encodeRequest request, answer)] := by
  by_cases empty : encodeRequest request = [] <;> simp [travelled, empty]

omit [DecidableEq L] [Codec] [Target] in
theorem callsOf_append {completed : List (Sent C)} {sent : Sent C} :
    callsOf (completed ++ [sent]) client = callsOf completed client ++
      if sent.client = client then [(sent.input, sent.result)] else [] := by
  by_cases own : sent.client = client <;> simp [callsOf, own]

namespace Sound

omit [DecidableEq L] in
theorem start (layout : Layout C L) : Sound layout start :=
  ⟨fun _ => .start, nofun, fun _ => rfl, nofun, fun _ => rfl⟩

omit [DecidableEq L] in
/-- A client goes on without an answer. -/
theorem go_on {own : Threaded.Event} {threaded : Threaded} (sound : Sound layout s)
    (stepped : (s.clients client).step (layout.accountName client) (layout.integration client) own =
      some threaded) (unanswered : ∀ answer, own ≠ .answer answer) :
    Sound layout (s.setClient client threaded) := by
  obtain ⟨asked, waits⟩ := Threaded.step_unanswered stepped unanswered
  refine ⟨?_, ?_, sound.traced, sound.own, ?_⟩
  · intro other
    by_cases same : other = client
    · subst same
      simp only [setClient, Function.update_self]
      exact (sound.kept other).step stepped
    · simp only [setClient, Function.update_of_ne same]
      exact sound.kept other
  · intro library other calling held
    obtain ⟨through, filled, request, asks, travels⟩ := sound.holding library other calling held
    refine ⟨through, filled, request, ?_, travels⟩
    by_cases same : other = client
    · subst same
      simp only [setClient, Function.update_self]
      exact waits request asks
    · simp only [setClient, Function.update_of_ne same]
      exact asks
  · intro other
    by_cases same : other = client
    · subst same
      simp only [setClient, Function.update_self, asked]
      exact sound.answered other
    · simp only [setClient, Function.update_of_ne same]
      exact sound.answered other

/-- The thread that holds a lock goes on, or one takes it. -/
theorem channel {channel : Channel C} {calling : Calling} {request : Request}
    (sound : Sound layout s) (holder : channel.holder = some (client, calling))
    (completed : channel.completed = (s.channels library).completed)
    (traced : channel.trace = (s.channels library).completed.flatMap Sent.trace ++ calling.trace)
    (through : layout.library client = library) (filled : calling.input ≠ [])
    (asks : (s.clients client).asks = some request)
    (travels : encodeRequest request = calling.input) :
    Sound layout (s.setChannel library channel) := by
  refine ⟨sound.kept, ?_, ?_, ?_, ?_⟩
  · intro other client' calling' held
    by_cases same : other = library
    · subst same
      simp only [setChannel, Function.update_self, holder, Option.some.injEq, Prod.mk.injEq] at held
      obtain ⟨rfl, rfl⟩ := held
      exact ⟨through, filled, request, asks, travels⟩
    · simp only [setChannel, Function.update_of_ne same] at held
      exact sound.holding other client' calling' held
  · intro other
    by_cases same : other = library
    · subst same
      simp only [setChannel, Function.update_self, holder, completed, traced, Option.elim]
    · simp only [setChannel, Function.update_of_ne same]
      exact sound.traced other
  · intro other
    by_cases same : other = library
    · subst same
      simp only [setChannel, Function.update_self, completed]
      exact sound.own other
    · simp only [setChannel, Function.update_of_ne same]
      exact sound.own other
  · intro other
    by_cases same : layout.library other = library
    · subst same
      simp only [setChannel, Function.update_self, completed]
      exact sound.answered other
    · simp only [setChannel, Function.update_of_ne same]
      exact sound.answered other

/-- The thread that holds a lock takes the next step of its call. -/
theorem proceed {calling next : Calling} {more : List Foreign} (sound : Sound layout s)
    (held : (s.channels library).holder = some (client, calling))
    (input : next.input = calling.input) (grows : next.trace = calling.trace ++ more) :
    Sound layout (s.setChannel library
      { s.channels library with
        holder := some (client, next)
        trace := (s.channels library).trace ++ more }) := by
  obtain ⟨through, filled, request, asks, travels⟩ := sound.holding _ _ _ held
  have traced := sound.traced library
  rw [held, Option.elim] at traced
  refine sound.channel rfl rfl ?_ through (input ▸ filled) asks (travels.trans input.symm)
  rw [traced, grows, List.append_assoc]

omit [DecidableEq L] in
/-- A client that holds no lock, because it asks something empty, is refused. -/
theorem refuse {threaded : Threaded} {request : Request} {answer : Result Bytes}
    (sound : Sound layout s) (asks : (s.clients client).asks = some request)
    (empty : encodeRequest request = [])
    (stepped : (s.clients client).step (layout.accountName client) (layout.integration client)
      (.answer answer) = some threaded) : Sound layout (s.setClient client threaded) := by
  obtain ⟨_, same, asked⟩ := Threaded.step_answer stepped
  obtain rfl := Option.some.inj (asks.symm.trans same)
  refine ⟨?_, ?_, sound.traced, sound.own, ?_⟩
  · intro other
    by_cases same : other = client
    · subst same
      simp only [setClient, Function.update_self]
      exact (sound.kept other).step stepped
    · simp only [setClient, Function.update_of_ne same]
      exact sound.kept other
  · intro library other calling held
    obtain ⟨through, filled, request, asks', travels⟩ := sound.holding library other calling held
    have different : other ≠ client := by
      rintro rfl
      obtain rfl := Option.some.inj (asks.symm.trans asks')
      exact filled (travels.symm.trans empty)
    simp only [setClient, Function.update_of_ne different]
    exact ⟨through, filled, request, asks', travels⟩
  · intro other
    by_cases same : other = client
    · subst same
      simp only [setClient, Function.update_self, asked, travelled_append, empty, if_true,
        List.append_nil]
      exact sound.answered other
    · simp only [setClient, Function.update_of_ne same]
      exact sound.answered other

/-- The call is completed: its client is answered, and the lock is free again. -/
theorem unlock {threaded : Threaded} {input : Bytes} {reply : SendReply} (sound : Sound layout s)
    (held : (s.channels library).holder = some (client, .finished input reply))
    (stepped : (s.clients client).step (layout.accountName client) (layout.integration client)
      (.answer (callSymbols reply).2) = some threaded) :
    Sound layout ((s.setClient client threaded).setChannel library
      { s.channels library with
        holder := none
        completed := (s.channels library).completed ++ [⟨client, input, reply⟩] }) := by
  obtain ⟨rfl, filled, request, asks, travels⟩ := sound.holding _ _ _ held
  obtain ⟨_, same, asked⟩ := Threaded.step_answer stepped
  obtain rfl := Option.some.inj (asks.symm.trans same)
  simp only [Calling.input] at filled travels
  refine ⟨?_, ?_, ?_, ?_, ?_⟩
  · intro other
    by_cases same : other = client
    · subst same
      simp only [setChannel, setClient, Function.update_self]
      exact (sound.kept other).step stepped
    · simp only [setChannel, setClient, Function.update_of_ne same]
      exact sound.kept other
  · intro library other calling held'
    by_cases same : library = layout.library client
    · subst same
      simp only [setChannel, Function.update_self, reduceCtorEq] at held'
    · simp only [setChannel, setClient, Function.update_of_ne same] at held' ⊢
      obtain ⟨through, filled', request', asks', travels'⟩ := sound.holding library other calling held'
      have different : other ≠ client := by
        rintro rfl
        exact same through.symm
      rw [Function.update_of_ne different]
      exact ⟨through, filled', request', asks', travels'⟩
  · intro library
    by_cases same : library = layout.library client
    · subst same
      simp only [setChannel, Function.update_self, Option.elim, List.append_nil,
        List.flatMap_append, List.flatMap_cons, List.flatMap_nil]
      rw [sound.traced, held]
      rfl
    · simp only [setChannel, setClient, Function.update_of_ne same]
      exact sound.traced library
  · intro library
    by_cases same : library = layout.library client
    · subst same
      simp only [setChannel, Function.update_self]
      intro sent member
      obtain old | new := List.mem_append.mp member
      · exact sound.own _ sent old
      · obtain rfl := List.mem_singleton.mp new
        rfl
    · simp only [setChannel, setClient, Function.update_of_ne same]
      exact sound.own library
  · intro other
    by_cases same : other = client
    · subst same
      simp only [setChannel, setClient, Function.update_self, asked, travelled_append,
        callsOf_append, travels, filled, if_false, if_true, sound.answered]
      rfl
    · have different : client ≠ other := fun eq => same eq.symm
      simp only [setChannel, setClient, Function.update_of_ne same]
      by_cases shared : layout.library other = layout.library client
      · rw [shared, Function.update_self]
        simp only [callsOf_append, different, if_false, List.append_nil]
        rw [sound.answered, shared]
      · rw [Function.update_of_ne shared]
        exact sound.answered other

end Sound

/-- A client that goes on by itself. -/
theorem step_client_eq_some_iff {own : Threaded.Event} :
    s.step layout (.client client own) = some t ↔ (∀ answer, own ≠ .answer answer) ∧
      ∃ threaded, (s.clients client).step (layout.accountName client) (layout.integration client)
        own = some threaded ∧ s.setClient client threaded = t := by
  cases own with
  | answer answer => simp [step]
  | _ => simp [step, Option.map_eq_some_iff]

/-- Everything a step through a library can do. -/
theorem Sound.step (sound : Sound layout s) (h : s.step layout event = some t) :
    Sound layout t := by
  cases event with
  | client client own =>
      obtain ⟨unanswered, threaded, stepped, rfl⟩ := step_client_eq_some_iff.mp h
      exact sound.go_on stepped unanswered
  | refuse client =>
      simp only [Traffic.step] at h
      split at h
      · rename_i request asks
        split at h
        · rename_i empty
          obtain ⟨threaded, stepped, rfl⟩ := answer_eq_some_iff.mp h
          exact sound.refuse asks empty stepped
        · cases h
      · cases h
  | lock client =>
      simp only [Traffic.step] at h
      split at h
      · rename_i request asks free
        split at h
        · cases h
        · rename_i filled
          obtain rfl := Option.some.inj h
          have traced := sound.traced (layout.library client)
          rw [free] at traced
          exact sound.channel rfl rfl traced rfl filled asks rfl
      · cases h
  | send library =>
      simp only [Traffic.step] at h
      split at h
      · rename_i client input held
        obtain rfl := Option.some.inj h
        exact sound.proceed held rfl rfl
      · cases h
  | returned library reply =>
      simp only [Traffic.step] at h
      split at h
      · rename_i client input held
        obtain rfl := Option.some.inj h
        exact sound.proceed held rfl rfl
      · cases h
  | finish library =>
      simp only [Traffic.step] at h
      split at h
      · rename_i client input reply held
        obtain rfl := Option.some.inj h
        exact sound.proceed held rfl rfl
      · cases h
  | unlock library =>
      simp only [Traffic.step] at h
      split at h
      · rename_i client input reply held
        obtain ⟨u, answered, rfl⟩ := Option.map_eq_some_iff.mp h
        obtain ⟨threaded, stepped, rfl⟩ := answer_eq_some_iff.mp answered
        exact sound.unlock held stepped
      · cases h

theorem Sound.run {events : List (Event C L)} (run : Run (Traffic.step layout) Traffic.start events s) :
    Sound layout s :=
  run.invariant (fun _ _ _ sound h => sound.step h) (.start layout)

end Steps

section Results

variable {layout : Layout C L} {s : Traffic C L} {events : List (Event C L)}

/-- Calls through one library never overlap, and leave nothing behind. However its clients
and their threads interleave, what has happened at the boundary of a library is a
sequence of whole calls, each by a client of the library, and after them the beginning of
at most one, of the thread that holds the lock. Every buffer that was handed out was
read, if at all, and given back, with the address, length and capacity it came with, and
only once, before the next call; only a response that was just returned is outstanding. -/
theorem foreign_calls_serial (run : Run (Traffic.step layout) .start events s) (library : L) :
    ∃ calls : List (Sent C), (∀ sent ∈ calls, layout.library sent.client = library) ∧
      ((s.channels library).holder = none ∧
          (s.channels library).trace = calls.flatMap Sent.trace ∧
          outstanding (s.channels library).trace = some [] ∨
        ∃ client calling, (s.channels library).holder = some (client, calling) ∧
          layout.library client = library ∧
          (s.channels library).trace = calls.flatMap Sent.trace ++ calling.trace ∧
          outstanding (s.channels library).trace = some calling.buffers) := by
  have sound := Sound.run run
  have balanced := Sent.outstanding_calls (s.channels library).completed
  refine ⟨(s.channels library).completed, sound.own library, ?_⟩
  have traced := sound.traced library
  cases held : (s.channels library).holder with
  | none =>
      rw [held, Option.elim, List.append_nil] at traced
      exact .inl ⟨rfl, traced, traced ▸ balanced⟩
  | some holder =>
      obtain ⟨client, calling⟩ := holder
      rw [held, Option.elim] at traced
      refine .inr ⟨client, calling, rfl, (sound.holding _ _ _ held).1, traced, ?_⟩
      rw [traced, outstanding_append balanced]
      exact calling.outstanding_trace

/-- Each client of a library has a legal history there. What has happened at the boundary of
the library are its completed calls, in their order, and the beginning of at most one more.
Those of them that a connected client made are its messages with the answers it got, with
nothing missing or twice, however many other clients send theirs in between. They are a
legal history of its own. Only the thread inside the client, if there is one, has sent more,
for the operation it is at. -/
theorem shared_library_legal (printed : ∀ request, encodeRequest request ≠ [])
    (run : Run (Traffic.step layout) .start events s) (client : C)
    (complete : Complete (layout.accountName client) (layout.integration client))
    (connected : ∃ call ∈ (s.clients client).monitor.served, call.reply = .connected (.ok ())) :
    ∃ history own current,
      Ledger (layout.accountName client) (layout.integration client) history current ∧
      exchanges (s.clients client).monitor.asked = history ++ own ∧
      callsOf (s.channels (layout.library client)).completed client =
        (history ++ own).map (fun e => (e.input, e.answer)) ∧
      (s.channels (layout.library client)).trace =
        (s.channels (layout.library client)).completed.flatMap Sent.trace ++
          ((s.channels (layout.library client)).holder.elim [] fun held => held.2.trace) ∧
      ((s.clients client).monitor.inside = none →
        own = [] ∧ (s.clients client).monitor.object = current) := by
  have sound := Sound.run run
  obtain ⟨asked, own, id, handles, questions, led, free, _⟩ :=
    (sound.kept client).leads complete connected
  have sent : exchanges (s.clients client).monitor.asked = exchanges asked ++ exchanges own := by
    rw [questions, exchanges_append]
  refine ⟨exchanges asked, exchanges own, id, led.ledger, sent, ?_, sound.traced _, ?_⟩
  · have all : ∀ travel ∈ (s.clients client).monitor.asked.map
        (fun (request, answer) => (encodeRequest request, answer)), decide (travel.1 ≠ []) = true := by
      intro travel member
      obtain ⟨entry, _, rfl⟩ := List.mem_map.mp member
      exact decide_eq_true (printed entry.1)
    rw [← sound.answered, ← sent]
    simp only [travelled, exchanges, List.filter_eq_self.mpr all, List.map_map]
    rfl
  · intro idle
    obtain ⟨rfl, held⟩ := free idle
    exact ⟨rfl, held⟩

/-- No client is ever stuck. As long as some work waits for a client or runs in it, a
thread of that client can go on, or the one that holds the lock of its library can:
nobody waits for a lock held by somebody who waits for another. -/
theorem never_stuck (run : Run (Traffic.step layout) .start events s) (client : C)
    (busy : (s.clients client).monitor.pending ≠ []) :
    ∃ event, event.demands = false ∧ event.concerns layout client ∧
      (s.step layout event).isSome := by
  have sound := Sound.run run
  have acts {own : Monitor.Event Work (Result Bytes)}
      (enabled : ((s.clients client).monitor.step
        (Work.program (layout.accountName client) (layout.integration client)) own).isSome) :
      ((s.clients client).act (layout.accountName client) (layout.integration client) own).isSome := by
    rwa [Threaded.act, Option.isSome_map]
  obtain ⟨number, enters⟩ | accesses | leaves | ⟨number, work, request, rest, inside⟩ :=
    Monitor.busy_cases
      (Work.program (layout.accountName client) (layout.integration client)) busy
  · exact ⟨.client client (.enter number), rfl, rfl, by
      simpa [step, Threaded.step] using acts enters⟩
  · exact ⟨.client client .access, rfl, rfl, by simpa [step, Threaded.step] using acts accesses⟩
  · exact ⟨.client client .leave, rfl, rfl, by simpa [step, Threaded.step] using acts leaves⟩
  have asks : (s.clients client).asks = some request :=
    Threaded.asks_eq_some_iff.mpr ⟨number, work, rest, inside⟩
  by_cases empty : encodeRequest request = []
  · have answered := Threaded.answer_isSome (layout.accountName client)
      (layout.integration client) asks (.error emptyRequest)
    exact ⟨.refuse client, rfl, rfl, by simpa [step, asks, empty, answer] using answered⟩
  cases held : (s.channels (layout.library client)).holder with
  | none => exact ⟨.lock client, rfl, rfl, by simp [step, asks, held, empty]⟩
  | some holder =>
      obtain ⟨other, calling⟩ := holder
      obtain ⟨_, _, request', asks', _⟩ := sound.holding _ _ _ held
      cases calling with
      | locked input => exact ⟨.send (layout.library client), rfl, rfl, by simp [step, held]⟩
      | sending input =>
          exact ⟨.returned (layout.library client) ⟨0, none⟩, rfl, rfl, by simp [step, held]⟩
      | returned input reply =>
          exact ⟨.finish (layout.library client), rfl, rfl, by simp [step, held]⟩
      | finished input reply =>
          have answered := Threaded.answer_isSome (layout.accountName other)
            (layout.integration other) asks' (callSymbols reply).2
          exact ⟨.unlock (layout.library client), rfl, rfl, by simpa [step, held, answer] using answered⟩

end Results

end Traffic

namespace Traffic

section Sharing

local instance sharingCodec : Codec := sessionCodec

local instance sharingTarget : Target := .linux

/-- Nothing is printed as nothing. -/
theorem sharing_printed (request : Request) : encodeRequest request ≠ [] := by
  have opens : String.utf8EncodeChar (Char.ofNat 0x7B) ≠ [] := by decide
  have first : encodeRequest request = Json.toBytes request.serialize := rfl
  simp only [first, Json.toBytes, Request.serialize, Json.render, List.cons_append,
    List.flatMap_cons]
  exact fun nothing => opens (List.append_eq_nil_iff.mp nothing).1

/-- Two clients of one library. -/
def sharedLayout : Layout Bool Unit :=
  ⟨fun _ => (), fun client => if client then "desk" else "home", fun _ => ⟨"App", "1.0"⟩⟩

/-- A response with the id of a session. -/
def sessionReply (id : UInt64) : SendReply :=
  ⟨0, some ⟨16, 64, (accepted (serializeU64 id)).toBytes.take 255,
    Nat.lt_of_le_of_lt (List.length_take_le ..) (by decide)⟩⟩

/-- Both clients connect. The first is through, and the second in the middle of its call. -/
def sharing : List (Event Bool Unit) :=
  [.client false .connect, .client true .connect, .client true (.enter 1),
    .client false (.enter 1), .lock false, .send (), .returned () (sessionReply 7), .finish (),
    .unlock (), .lock true, .client false .access, .send (), .client false .leave,
    .returned () (sessionReply 9)]

theorem sharing_reached : ∃ s, Run (Traffic.step sharedLayout) .start sharing s ∧
    (∃ call ∈ (s.clients false).monitor.served, call.reply = .connected (.ok ())) ∧
    (s.channels ()).trace.length = 6 ∧ (s.clients true).monitor.pending ≠ [] := by
  have reached : (sharing.foldlM (Traffic.step sharedLayout) .start).any (fun s =>
      ((s.clients false).monitor.served.any fun call => call.reply.isConnected) &&
        (s.channels ()).trace.length = 6 && !(s.clients true).monitor.pending.isEmpty) = true := by
    decide +kernel
  obtain ⟨s, folded, holds⟩ := (Option.any_eq_true _ _).mp reached
  simp only [Bool.and_eq_true, List.any_eq_true, Outcome.isConnected_iff, Bool.not_eq_true',
    List.isEmpty_eq_false_iff, decide_eq_true_eq] at holds
  exact ⟨s, Run.iff_foldlM.mpr folded, holds.1.1, holds.1.2, holds.2⟩

/-- The second call is under way, and its response is outstanding or given back. -/
theorem foreign_calls_serial_sharing : ∃ s, Run (Traffic.step sharedLayout) .start sharing s ∧
    (s.channels ()).trace.length = 6 ∧ ∃ buffers, outstanding (s.channels ()).trace = some buffers := by
  obtain ⟨s, run, _, traced, _⟩ := sharing_reached
  obtain ⟨calls, _, ⟨_, _, balanced⟩ | ⟨client, calling, _, _, _, open_⟩⟩ :=
    foreign_calls_serial run ()
  · exact ⟨s, run, traced, _, balanced⟩
  · exact ⟨s, run, traced, _, open_⟩

/-- The first client has its own history in the middle of the traffic: the messages it asked
to be sent. -/
theorem shared_library_legal_sharing : ∃ s, Run (Traffic.step sharedLayout) .start sharing s ∧
    ∃ history own current, Ledger "home" ⟨"App", "1.0"⟩ history current ∧
      exchanges (s.clients false).monitor.asked = history ++ own ∧
      callsOf (s.channels ()).completed false =
        (history ++ own).map fun e => (e.input, e.answer) := by
  obtain ⟨s, run, connected, _, _⟩ := sharing_reached
  have complete : Complete "home" ⟨"App", "1.0"⟩ := ⟨by decide, by decide, by decide⟩
  obtain ⟨history, own, current, ledger, sent, calls, _⟩ :=
    shared_library_legal sharing_printed run false complete connected
  exact ⟨s, run, history, own, current, ledger, sent, calls⟩

/-- The second client can go on. -/
theorem never_stuck_sharing : ∃ s, Run (Traffic.step sharedLayout) .start sharing s ∧
    ∃ event, event.demands = false ∧ event.concerns sharedLayout true ∧
      (s.step sharedLayout event).isSome := by
  obtain ⟨s, run, _, _, busy⟩ := sharing_reached
  exact ⟨s, run, never_stuck run true busy⟩

end Sharing

end Traffic

end Sdk
