import Mathlib.Data.List.Forall2

/-!
# Finite runs of partial event machines

A machine is a partial step function: `step s e` is the state after event `e`,
or `none` when `e` cannot happen in `s`. `Run step s es t` follows the events
`es` in order. Nothing here fixes what the states or events are.

`Run.invariant` packages the usual induction: a predicate kept by every single
step is kept by every run. `Run.related` is its two-state form, for facts that
compare the ends of a run, and `Run.amortized` its form with a potential. `Run.simulated` moves a run of one machine to another
along a relation on states and a relation on events. Its side condition may look
at the end of the concrete run, provided it is inherited by every earlier state.
`Run.stuttering` is the simulation in which one step may be matched by any number.

A `Chronicle` is a list of what happened in which every entry is justified by the
entries before it.
-/

namespace Machine

variable {σ τ ε ι : Type*}

/-- The events `es`, taken in order, lead from the first state to the second. -/
inductive Run (step : σ → ε → Option σ) : σ → List ε → σ → Prop where
  | nil (s) : Run step s [] s
  | cons {s e u es t} : step s e = some u → Run step u es t → Run step s (e :: es) t

namespace Run

variable {step : σ → ε → Option σ} {s t u : σ} {e : ε} {es fs : List ε}

@[simp] theorem nil_iff : Run step s [] t ↔ s = t := by
  constructor
  · intro h
    cases h
    rfl
  · rintro rfl
    exact .nil s

theorem cons_iff : Run step s (e :: es) t ↔ ∃ u, step s e = some u ∧ Run step u es t := by
  constructor
  · intro h
    cases h with
    | cons first rest => exact ⟨_, first, rest⟩
  · rintro ⟨u, first, rest⟩
    exact .cons first rest

theorem single (h : step s e = some t) : Run step s [e] t := .cons h (.nil t)

theorem append (first : Run step s es u) (rest : Run step u fs t) :
    Run step s (es ++ fs) t := by
  induction first with
  | nil => exact rest
  | cons head _ ih => exact .cons head (ih rest)

/-- Every cut of the event list is a state the run passes through. -/
theorem append_iff : Run step s (es ++ fs) t ↔ ∃ u, Run step s es u ∧ Run step u fs t := by
  constructor
  · intro h
    induction es generalizing s with
    | nil => exact ⟨s, .nil s, h⟩
    | cons e es ih =>
        obtain ⟨v, head, tail⟩ := cons_iff.mp h
        obtain ⟨u, middle, rest⟩ := ih tail
        exact ⟨u, .cons head middle, rest⟩
  · rintro ⟨u, first, rest⟩
    exact first.append rest

/-- Runs of given events can be computed. -/
theorem iff_foldlM : Run step s es t ↔ es.foldlM step s = some t := by
  induction es generalizing s with
  | nil => simp
  | cons e es ih =>
      rw [cons_iff, List.foldlM_cons, Option.bind_eq_bind, Option.bind_eq_some_iff]
      simp only [ih]

/-- A predicate kept by every step is kept by every run. -/
theorem invariant {P : σ → Prop} (kept : ∀ s e t, P s → step s e = some t → P t)
    (run : Run step s es t) (start : P s) : P t := by
  induction run with
  | nil => exact start
  | cons head _ ih => exact ih (kept _ _ _ start head)

/-- A preorder that contains every single step relates the ends of every run. -/
theorem related {R : σ → σ → Prop} (refl : ∀ s, R s s)
    (trans : ∀ s t u, R s t → R t u → R s u) (kept : ∀ s e t, step s e = some t → R s t)
    (run : Run step s es t) : R s t := by
  induction run with
  | nil => exact refl _
  | cons head _ ih => exact trans _ _ _ (kept _ _ _ head) ih

/-- If a step raises the potential at a demand only, and by the price of it, then a run
raises it by the price of its demands. -/
theorem amortized (potential : σ → Nat) (price : Nat) (demands : ε → Bool)
    (paid : ∀ s e t, step s e = some t → potential t ≤ price * (demands e).toNat + potential s)
    (run : Run step s es t) : potential t ≤ price * es.countP demands + potential s := by
  induction run with
  | nil => simp
  | @cons s e u es t head _ ih =>
      have first := paid _ _ _ head
      rw [List.countP_cons, Nat.mul_add]
      cases demanded : demands e with
      | true =>
          simp only [demanded, Bool.toNat_true, if_true] at first ⊢
          omega
      | false =>
          simp only [demanded, Bool.toNat_false, Bool.false_eq_true, if_false] at first ⊢
          omega

/-- Move a run along a simulation. `good` is a promise about the end of the
concrete run; the simulation may use it at the end of each single step. -/
theorem simulated {step' : τ → ι → Option τ} {R : σ → τ → Prop} {E : ε → ι → Prop}
    {good : σ → Prop} (inherited : ∀ s e t, step s e = some t → good t → good s)
    (square : ∀ s s' e e' t, R s s' → E e e' → step s e = some t → good t →
      ∃ t', step' s' e' = some t' ∧ R t t')
    {s' : τ} {es' : List ι} (run : Run step s es t) (promise : good t)
    (start : R s s') (events : List.Forall₂ E es es') :
    ∃ t', Run step' s' es' t' ∧ R t t' := by
  induction run generalizing s' es' with
  | nil =>
      cases events
      exact ⟨s', .nil s', start⟩
  | @cons _ _ u _ t head rest ih =>
      cases events with
      | cons same others =>
          have promised : good u :=
            rest.related (R := fun a b => good b → good a) (fun _ h => h)
              (fun _ _ _ first second h => first (second h))
              (fun _ _ _ h => inherited _ _ _ h) promise
          obtain ⟨u', head', middle⟩ := square _ _ _ _ _ start same head promised
          obtain ⟨t', rest', final⟩ := ih promise middle others
          exact ⟨t', .cons head' rest', final⟩

/-- Move a run to a machine that matches each step by a run of its own. -/
theorem stuttering {step' : τ → ι → Option τ} {R : σ → τ → Prop}
    (square : ∀ s s' e t, R s s' → step s e = some t → ∃ es' t', Run step' s' es' t' ∧ R t t')
    {s' : τ} (run : Run step s es t) (start : R s s') :
    ∃ es' t', Run step' s' es' t' ∧ R t t' := by
  induction run generalizing s' with
  | nil => exact ⟨[], s', .nil s', start⟩
  | cons head _ ih =>
      obtain ⟨first, u', head', middle⟩ := square _ _ _ _ start head
      obtain ⟨others, t', rest', final⟩ := ih middle
      exact ⟨first ++ others, t', head'.append rest', final⟩

end Run

/-- Every entry of the list is justified by the entries before it. -/
def Chronicle {α : Type*} (justified : List α → α → Prop) (entries : List α) : Prop :=
  ∀ before entry after, entries = before ++ entry :: after → justified before entry

namespace Chronicle

variable {α : Type*} {justified : List α → α → Prop} {entries : List α} {entry : α}

theorem nil : Chronicle justified [] := by
  intro before entry after cut
  simp at cut

/-- A chronicle grows by what it justifies. -/
theorem concat (chronicle : Chronicle justified entries) (next : justified entries entry) :
    Chronicle justified (entries ++ [entry]) := by
  intro before last after cut
  obtain rfl | ⟨front, final, rfl⟩ := List.eq_nil_or_concat after
  · obtain ⟨rfl, same⟩ := List.append_inj' cut rfl
    obtain rfl := (List.cons.inj same).1
    exact next
  · rw [List.concat_eq_append, ← List.cons_append, ← List.append_assoc] at cut
    exact chronicle before last front (List.append_inj' cut rfl).1

end Chronicle

end Machine
