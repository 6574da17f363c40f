import Mathlib.Data.Stream.Init
import OpGpui.Library.Pool

/-!
# Objects behind a lock

A monitor is an object whose operations run one at a time, under a lock. Any number of
callers may wait for the lock, which any of them may get next. The one that has it runs
a `Program`: it accesses the protected state, asks the outside and waits for the answer,
and finally leaves with a reply. Calls, entries, accesses, answers and departures of
different callers interleave in any order.

`Serial` is the same object without concurrency: one operation runs to its end before
the next begins. A monitor stays `Linear`: nothing else can be observed of it than that its
replies, its questions and its state are those of a serial course, in the order in which
the operations left. And it stays `Accounted`: no call is lost or served twice.
-/

namespace Machine

variable {σ ω ν α ρ : Type}

/-- What a caller does while it holds the lock. -/
inductive Program (σ ν α ρ : Type) where
  | done (reply : ρ)
  | access (update : σ → σ) (rest : σ → Program σ ν α ρ)
  | ask (query : ν) (rest : α → Program σ ν α ρ)

namespace Program

variable {p q : Program σ ν α ρ} {s t u : σ} {reply : ρ} {own : List (ν × α)}

/-- The part of a program's course that leads from one point of it to another, with the
questions asked on the way and their answers. -/
inductive Reaches : Program σ ν α ρ → σ → List (ν × α) → Program σ ν α ρ → σ → Prop
  | here (p : Program σ ν α ρ) (s : σ) : Reaches p s [] p s
  | access {update : σ → σ} {rest : σ → Program σ ν α ρ} {s t : σ} {own : List (ν × α)}
      {q : Program σ ν α ρ} (later : Reaches (rest s) (update s) own q t) :
      Reaches (.access update rest) s own q t
  | ask {query : ν} {answer : α} {rest : α → Program σ ν α ρ} {s t : σ} {own : List (ν × α)}
      {q : Program σ ν α ρ} (later : Reaches (rest answer) s own q t) :
      Reaches (.ask query rest) s ((query, answer) :: own) q t

namespace Reaches

/-- One more access at the end of the course. -/
theorem then_access {update : σ → σ} {rest : σ → Program σ ν α ρ}
    (course : Reaches p s own (.access update rest) t) : Reaches p s own (rest t) (update t) := by
  generalize eq : Program.access update rest = q at course
  induction course with
  | here =>
      subst eq
      exact .access (.here _ _)
  | access _ ih => exact .access (ih eq)
  | ask _ ih => exact .ask (ih eq)

/-- One more question at the end of the course. -/
theorem then_ask {query : ν} {rest : α → Program σ ν α ρ} (answer : α)
    (course : Reaches p s own (.ask query rest) t) :
    Reaches p s (own ++ [(query, answer)]) (rest answer) t := by
  generalize eq : Program.ask query rest = q at course
  induction course with
  | here =>
      subst eq
      exact .ask (.here _ _)
  | access _ ih => exact .access (ih eq)
  | ask _ ih => exact .ask (ih eq)

end Reaches

/-- The whole course of a program whose questions are answered from a stream. -/
def eval : Program σ ν α ρ → σ → Stream' α → ρ × σ × List (ν × α)
  | .done reply, s, _ => (reply, s, [])
  | .access update rest, s, answers => (rest s).eval (update s) answers
  | .ask query rest, s, answers =>
      let (reply, t, asked) := (rest answers.head).eval s answers.tail
      (reply, t, (query, answers.head) :: asked)

/-- A course that has come to its end is the one its own answers lead to. -/
theorem Reaches.eval (course : Reaches p s own (.done reply) t) (answers : Stream' α) :
    p.eval s (own.map Prod.snd ++ₛ answers) = (reply, t, own) := by
  generalize eq : Program.done reply = q at course
  induction course with
  | here =>
      subst eq
      rfl
  | access _ ih => exact ih eq
  | ask _ ih => simp [Program.eval, Stream'.cons_append_stream, ih eq]

end Program

/-- A call that has been served: its number, what it asked for and what it got. -/
structure Served (ω ρ : Type) where
  number : Nat
  operation : ω
  reply : ρ

/-- The caller that holds the lock, and what it has still to do. -/
structure Running (σ ω ν α ρ : Type) where
  number : Nat
  operation : ω
  rest : Program σ ν α ρ

structure Monitor (σ ω ν α ρ : Type) where
  object : σ
  waiting : Pool ω
  inside : Option (Running σ ω ν α ρ)
  asked : List (ν × α)
  served : List (Served ω ρ)

namespace Monitor

variable {program : ω → Program σ ν α ρ} {m after : Monitor σ ω ν α ρ} {start base t : σ}
variable {served : List (Served ω ρ)} {asked own : List (ν × α)}

inductive Event (ω α : Type) where
  | call (operation : ω)
  | enter (number : Nat)
  | access
  | answer (answer : α)
  | leave

/-- A monitor nobody has called yet. -/
def idle (object : σ) : Monitor σ ω ν α ρ := ⟨object, .empty, none, [], []⟩

/-- Only the caller inside goes on, and only a waiting one can enter. -/
def step (program : ω → Program σ ν α ρ) (m : Monitor σ ω ν α ρ) :
    Event ω α → Option (Monitor σ ω ν α ρ)
  | .call operation => some { m with waiting := m.waiting.spawn operation }
  | .enter number =>
      match m.inside, m.waiting.find number with
      | none, some operation => some { m with
          waiting := m.waiting.remove number
          inside := some ⟨number, operation, program operation⟩ }
      | _, _ => none
  | .access =>
      match m.inside with
      | some ⟨number, operation, .access update rest⟩ => some { m with
          object := update m.object
          inside := some ⟨number, operation, rest m.object⟩ }
      | _ => none
  | .answer answer =>
      match m.inside with
      | some ⟨number, operation, .ask query rest⟩ => some { m with
          inside := some ⟨number, operation, rest answer⟩
          asked := m.asked ++ [(query, answer)] }
      | _ => none
  | .leave =>
      match m.inside with
      | some ⟨number, operation, .done reply⟩ => some { m with
          inside := none
          served := m.served ++ [⟨number, operation, reply⟩] }
      | _ => none

/-- Everything an event can do. -/
theorem step_cases {event : Event ω α} (h : m.step program event = some after) :
    (∃ operation, event = .call operation ∧
        after = { m with waiting := m.waiting.spawn operation }) ∨
      (∃ number operation, event = .enter number ∧ m.inside = none ∧
        m.waiting.find number = some operation ∧
        after = { m with
          waiting := m.waiting.remove number
          inside := some ⟨number, operation, program operation⟩ }) ∨
      (∃ number operation update rest, event = .access ∧
        m.inside = some ⟨number, operation, .access update rest⟩ ∧
        after = { m with
          object := update m.object
          inside := some ⟨number, operation, rest m.object⟩ }) ∨
      (∃ number operation query rest answer, event = .answer answer ∧
        m.inside = some ⟨number, operation, .ask query rest⟩ ∧
        after = { m with
          inside := some ⟨number, operation, rest answer⟩
          asked := m.asked ++ [(query, answer)] }) ∨
      ∃ number operation reply, event = .leave ∧
        m.inside = some ⟨number, operation, .done reply⟩ ∧
        after = { m with
          inside := none
          served := m.served ++ [⟨number, operation, reply⟩] } := by
  cases event with
  | call operation => exact .inl ⟨operation, rfl, (Option.some.inj h).symm⟩
  | enter number =>
      simp only [step] at h
      split at h
      · rename_i operation free found
        exact .inr (.inl ⟨number, operation, rfl, free, found, (Option.some.inj h).symm⟩)
      · cases h
  | access =>
      simp only [step] at h
      split at h
      · rename_i number operation update rest held
        exact .inr (.inr (.inl ⟨number, operation, update, rest, rfl, held,
          (Option.some.inj h).symm⟩))
      · cases h
  | answer answer =>
      simp only [step] at h
      split at h
      · rename_i number operation query rest held
        exact .inr (.inr (.inr (.inl ⟨number, operation, query, rest, answer, rfl, held,
          (Option.some.inj h).symm⟩)))
      · cases h
  | leave =>
      simp only [step] at h
      split at h
      · rename_i number operation reply held
        exact .inr (.inr (.inr (.inr ⟨number, operation, reply, rfl, held,
          (Option.some.inj h).symm⟩)))
      · cases h

/-- Nothing but an answer is heard of by a caller that waits for one. -/
theorem step_unanswered {event : Event ω α} (h : m.step program event = some after)
    (unanswered : ∀ answer, event ≠ .answer answer) : after.asked = m.asked ∧
      ∀ number operation query rest, m.inside = some ⟨number, operation, .ask query rest⟩ →
        after.inside = m.inside := by
  obtain ⟨operation, _, rfl⟩ | ⟨number, operation, _, free, _, rfl⟩ |
      ⟨number, operation, update, rest, _, inside, rfl⟩ |
      ⟨number, operation, query, rest, answer, rfl, _, _⟩ |
      ⟨number, operation, reply, _, inside, rfl⟩ := step_cases h
  · exact ⟨rfl, fun _ _ _ _ _ => rfl⟩
  · exact ⟨rfl, fun _ _ _ _ asks => by rw [free] at asks; cases asks⟩
  · exact ⟨rfl, fun _ _ _ _ asks => by rw [inside] at asks; cases asks⟩
  · exact absurd rfl (unanswered answer)
  · exact ⟨rfl, fun _ _ _ _ asks => by rw [inside] at asks; cases asks⟩

/-- An answer goes to the question of the caller inside. -/
theorem step_answer_eq_some_iff {answer : α} : m.step program (.answer answer) = some after ↔
    ∃ number operation query rest, m.inside = some ⟨number, operation, .ask query rest⟩ ∧
      after = { m with
        inside := some ⟨number, operation, rest answer⟩
        asked := m.asked ++ [(query, answer)] } := by
  constructor
  · intro h
    obtain ⟨_, impossible, _⟩ | ⟨_, _, impossible, _⟩ | ⟨_, _, _, _, impossible, _⟩ |
        ⟨number, operation, query, rest, _, same, inside, rfl⟩ | ⟨_, _, _, impossible, _⟩ :=
      step_cases h
    · cases impossible
    · cases impossible
    · cases impossible
    · cases same
      exact ⟨number, operation, query, rest, inside, rfl⟩
    · cases impossible
  · rintro ⟨number, operation, query, rest, inside, rfl⟩
    simp only [step, inside]

/-- One operation after the other, each run to its end. -/
inductive Serial (program : ω → Program σ ν α ρ) (start : σ) :
    List (Served ω ρ) → List (ν × α) → σ → Prop
  | nil : Serial program start [] [] start
  | snoc {served : List (Served ω ρ)} {asked own : List (ν × α)} {base t : σ} {number : Nat}
      {operation : ω} {reply : ρ} (earlier : Serial program start served asked base)
      (course : (program operation).Reaches base own (.done reply) t) :
      Serial program start (served ++ [⟨number, operation, reply⟩]) (asked ++ own) t

/-- A serial course before its last operation, and that operation. -/
theorem Serial.last {operation : ω} {reply : ρ} {number : Nat}
    (serial : Serial program start (served ++ [⟨number, operation, reply⟩]) asked t) :
    ∃ before own base, asked = before ++ own ∧ Serial program start served before base ∧
      (program operation).Reaches base own (.done reply) t := by
  generalize eq : served ++ [⟨number, operation, reply⟩] = whole at serial
  cases serial with
  | nil => simp at eq
  | snoc earlier course =>
      obtain ⟨rfl, same⟩ := List.append_inj' eq rfl
      obtain ⟨rfl, rfl, rfl⟩ := Served.mk.inj (List.cons.inj same).1
      exact ⟨_, _, _, rfl, earlier, course⟩

/-- Before the first operation nothing has happened. -/
theorem Serial.first (serial : Serial program start [] asked t) : asked = [] ∧ t = start := by
  generalize eq : ([] : List (Served ω ρ)) = whole at serial
  cases serial with
  | nil => exact ⟨rfl, rfl⟩
  | snoc _ _ => simp at eq

/-- The monitor as a serial course, with the caller inside part of the way through its
operation. -/
inductive Linear (program : ω → Program σ ν α ρ) (start : σ) (m : Monitor σ ω ν α ρ) : Prop
  | free (serial : Serial program start m.served m.asked m.object) (free : m.inside = none)
  | busy {asked own : List (ν × α)} {base : σ} {running : Running σ ω ν α ρ}
      (serial : Serial program start m.served asked base)
      (held : m.inside = some running)
      (course : (program running.operation).Reaches base own running.rest m.object)
      (questions : m.asked = asked ++ own)

namespace Linear

theorem idle (start : σ) : Linear program start (idle start) := .free .nil rfl

/-- The caller inside, and the serial course before it. -/
theorem held (linear : Linear program start m) {running : Running σ ω ν α ρ}
    (inside : m.inside = some running) : ∃ asked own base, Serial program start m.served asked base ∧
      (program running.operation).Reaches base own running.rest m.object ∧
      m.asked = asked ++ own := by
  cases linear with
  | free serial free => rw [free] at inside; cases inside
  | busy serial held course questions =>
      obtain rfl := Option.some.inj (held.symm.trans inside)
      exact ⟨_, _, _, serial, course, questions⟩

theorem serial_of_free (linear : Linear program start m) (free : m.inside = none) :
    Serial program start m.served m.asked m.object := by
  cases linear with
  | free serial _ => exact serial
  | busy _ held _ _ => rw [free] at held; cases held

/-- The serial course of what has been served. Only the caller inside has done more. -/
theorem serial (linear : Linear program start m) : ∃ asked own base, m.asked = asked ++ own ∧
    Serial program start m.served asked base ∧ (m.inside = none → own = [] ∧ m.object = base) := by
  cases linear with
  | free serial free => exact ⟨_, [], _, (List.append_nil _).symm, serial, fun _ => ⟨rfl, rfl⟩⟩
  | busy serial held _ questions =>
      exact ⟨_, _, _, questions, serial, fun free => by rw [free] at held; cases held⟩

theorem step {event : Event ω α} (linear : Linear program start m)
    (h : m.step program event = some after) : Linear program start after := by
  obtain ⟨operation, _, rfl⟩ | ⟨number, operation, _, free, _, rfl⟩ |
      ⟨number, operation, update, rest, _, inside, rfl⟩ |
      ⟨number, operation, query, rest, answer, _, inside, rfl⟩ |
      ⟨number, operation, reply, _, inside, rfl⟩ := step_cases h
  · cases linear with
    | free serial free => exact .free serial free
    | busy serial held course questions => exact .busy serial held course questions
  · exact .busy (linear.serial_of_free free) rfl (.here _ _) (List.append_nil _).symm
  · obtain ⟨asked, own, base, serial, course, questions⟩ := linear.held inside
    exact .busy serial rfl course.then_access questions
  · obtain ⟨asked, own, base, serial, course, questions⟩ := linear.held inside
    refine .busy serial rfl (course.then_ask answer) ?_
    simp [questions]
  · obtain ⟨asked, own, base, serial, course, questions⟩ := linear.held inside
    refine .free ?_ rfl
    rw [questions]
    exact serial.snoc course

end Linear

/-- The operations that wait or run. -/
def pending (m : Monitor σ ω ν α ρ) : List ω :=
  m.waiting.pending.map Prod.snd ++ m.inside.toList.map Running.operation

/-- While some operation is under way, a caller can enter, or the one inside can go on,
unless it waits for an answer. -/
theorem busy_cases (program : ω → Program σ ν α ρ) (busy : m.pending ≠ []) :
    (∃ number, (m.step program (.enter number)).isSome) ∨ (m.step program .access).isSome ∨
      (m.step program .leave).isSome ∨
      ∃ number operation query rest, m.inside = some ⟨number, operation, .ask query rest⟩ := by
  cases inside : m.inside with
  | none =>
      have waiting : m.waiting.pending ≠ [] := by simpa [pending, inside] using busy
      obtain ⟨⟨number, operation⟩, member⟩ := List.exists_mem_of_ne_nil _ waiting
      obtain ⟨found, eq⟩ := Option.isSome_iff_exists.mp (Pool.find_isSome member)
      exact .inl ⟨number, by simp [step, inside, eq]⟩
  | some running =>
      obtain ⟨number, operation, rest⟩ := running
      cases rest with
      | done reply => exact .inr (.inr (.inl (by simp [step, inside])))
      | access update rest => exact .inr (.inl (by simp [step, inside]))
      | ask query rest => exact .inr (.inr (.inr ⟨number, operation, query, rest, rfl⟩))

/-- What an event does to the operations that are under way. -/
theorem pending_step {event : Event ω α} (numbered : m.waiting.Numbered)
    (h : m.step program event = some after) :
    (∃ operation, event = .call operation ∧ after.pending.Perm (operation :: m.pending) ∧
        after.served = m.served) ∨
      (after.pending.Perm m.pending ∧ after.served = m.served ∧ event ≠ .leave ∧
        ∀ operation, event ≠ .call operation) ∨
      ∃ number operation reply, event = .leave ∧
        m.inside = some ⟨number, operation, .done reply⟩ ∧
        m.pending.Perm (operation :: after.pending) ∧
        after.served = m.served ++ [⟨number, operation, reply⟩] := by
  obtain ⟨operation, rfl, rfl⟩ | ⟨number, operation, rfl, free, found, rfl⟩ |
      ⟨number, operation, update, rest, rfl, inside, rfl⟩ |
      ⟨number, operation, query, rest, answer, rfl, inside, rfl⟩ |
      ⟨number, operation, reply, rfl, inside, rfl⟩ := step_cases h
  · refine .inl ⟨operation, rfl, ?_, rfl⟩
    simp only [pending, Pool.spawn, List.map_append, List.map_cons, List.map_nil, List.append_assoc]
    exact List.perm_middle
  · refine .inr (.inl ⟨?_, rfl, by simp, by simp⟩)
    have entered := (Pool.perm_remove numbered found).map Prod.snd
    simp only [pending, free, Option.toList_none, List.map_nil, List.append_nil,
      Option.toList_some, List.map_cons]
    exact List.perm_append_comm.trans entered.symm
  · exact .inr (.inl ⟨by simp [pending, inside], rfl, by simp, by simp⟩)
  · exact .inr (.inl ⟨by simp [pending, inside], rfl, by simp, by simp⟩)
  · refine .inr (.inr ⟨number, operation, reply, rfl, inside, ?_, rfl⟩)
    simp only [pending, inside, Option.toList_some, List.map_cons, List.map_nil, Option.toList_none,
      List.append_nil]
    exact List.perm_append_comm

/-- The numbers of the calls that wait, run or have been served. -/
def numbers (m : Monitor σ ω ν α ρ) : List Nat :=
  m.waiting.pending.map Prod.fst ++ m.inside.toList.map Running.number ++
    m.served.map Served.number

/-- Every call waits, runs or has been served, and only one of these, once. -/
structure Accounted (m : Monitor σ ω ν α ρ) : Prop where
  numbered : m.waiting.Numbered
  every : m.numbers.Perm (List.range' 1 m.waiting.started)

namespace Accounted

theorem idle (start : σ) : Accounted (Monitor.idle start : Monitor σ ω ν α ρ) :=
  ⟨Pool.numbered_empty, .nil⟩

theorem step {event : Event ω α} (accounted : m.Accounted)
    (h : m.step program event = some after) : after.Accounted := by
  obtain ⟨numbered, every⟩ := accounted
  obtain ⟨operation, _, rfl⟩ | ⟨number, operation, _, free, found, rfl⟩ |
      ⟨number, operation, update, rest, _, inside, rfl⟩ |
      ⟨number, operation, query, rest, answer, _, inside, rfl⟩ |
      ⟨number, operation, reply, _, inside, rfl⟩ := step_cases h
  · refine ⟨numbered.spawn operation, ?_⟩
    have fresh : (List.range' 1 (m.waiting.started + 1)) =
        List.range' 1 m.waiting.started ++ [m.waiting.started + 1] := by
      rw [List.range'_1_concat, Nat.add_comm 1]
    rw [Pool.spawn_started, fresh]
    refine List.Perm.trans ?_ (every.append_right _)
    simp only [numbers, Pool.spawn, List.map_append, List.map_cons, List.map_nil,
      List.append_assoc]
    exact (List.perm_append_comm.trans (by simp)).append_left _
  · refine ⟨numbered.remove number, ?_⟩
    have entered := Pool.perm_remove numbered found
    refine List.Perm.trans ?_ every
    simp only [numbers, free, Option.toList_none, List.map_nil, List.append_nil,
      Option.toList_some, List.map_cons]
    exact ((List.perm_append_comm.trans (entered.map Prod.fst).symm)).append_right _
  · refine ⟨numbered, ?_⟩
    simpa [numbers, inside] using every
  · refine ⟨numbered, ?_⟩
    simpa [numbers, inside] using every
  · refine ⟨numbered, ?_⟩
    refine List.Perm.trans ?_ every
    simp only [numbers, inside, Option.toList_none, List.map_nil, List.append_nil, List.map_append,
      Option.toList_some, List.map_cons, List.append_assoc]
    exact List.perm_append_comm.append_left _

/-- The number of calls so far. -/
theorem length (accounted : m.Accounted) :
    m.pending.length + m.served.length = m.waiting.started := by
  have counted := accounted.every.length_eq
  simpa [numbers, pending, Nat.add_assoc] using counted

end Accounted

end Monitor

end Machine
