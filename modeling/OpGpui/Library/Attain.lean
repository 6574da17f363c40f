import OpGpui.Library.Run

/-!
# What a machine can be led to

`Attains step allowed P Q` is a promise of progress: from every state of `P`, some run of
allowed events leads to a state of `Q`. Such promises compose like the contracts of a
sequential program, and the events of the run are theirs, not the environment's: nothing
is said about runs in which other events come in between.
-/

namespace Machine

variable {σ ε : Type*}

def Attains (step : σ → ε → Option σ) (allowed : ε → Prop) (P Q : σ → Prop) : Prop :=
  ∀ s, P s → ∃ es t, Run step s es t ∧ (∀ e ∈ es, allowed e) ∧ Q t

namespace Attains

variable {step : σ → ε → Option σ} {allowed : ε → Prop} {P Q R : σ → Prop}

/-- A single event keeps the promise. -/
theorem single {e : ε} (permitted : allowed e) (can : ∀ s, P s → ∃ t, step s e = some t ∧ Q t) :
    Attains step allowed P Q := by
  intro s start
  obtain ⟨t, stepped, final⟩ := can s start
  refine ⟨[e], t, .single stepped, ?_, final⟩
  intro other member
  rwa [List.mem_singleton.mp member]

theorem seq (first : Attains step allowed P Q) (rest : Attains step allowed Q R) :
    Attains step allowed P R := by
  intro s start
  obtain ⟨es, u, run, permitted, middle⟩ := first s start
  obtain ⟨fs, t, run', permitted', final⟩ := rest u middle
  refine ⟨es ++ fs, t, run.append run', ?_, final⟩
  intro e member
  exact (List.mem_append.mp member).elim (permitted e) (permitted' e)

end Attains

end Machine
