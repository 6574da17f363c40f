import OpGpui.Library.Run

/-!
# Machines that answer

A total machine with an output for every input. `after` is the state some inputs lead
to, and `outputs` what was answered on the way. `run_iff` reads such a machine as a
machine without outputs, whose every event can happen.
-/

namespace Machine

variable {σ ι ω : Type*} {respond : σ → ι → σ × ω} {s t : σ} {xs ys : List ι}

/-- The state after some inputs. -/
def after (respond : σ → ι → σ × ω) (s : σ) : List ι → σ
  | [] => s
  | x :: xs => after respond (respond s x).1 xs

/-- The answers to some inputs. -/
def outputs (respond : σ → ι → σ × ω) (s : σ) : List ι → List ω
  | [] => []
  | x :: xs => (respond s x).2 :: outputs respond (respond s x).1 xs

theorem after_append : after respond s (xs ++ ys) = after respond (after respond s xs) ys := by
  induction xs generalizing s with
  | nil => rfl
  | cons x xs ih => exact ih

theorem outputs_append : outputs respond s (xs ++ ys) =
    outputs respond s xs ++ outputs respond (after respond s xs) ys := by
  induction xs generalizing s with
  | nil => rfl
  | cons x xs ih => exact congrArg _ ih

theorem run_iff : Run (fun s x => some (respond s x).1) s xs t ↔ after respond s xs = t := by
  induction xs generalizing s with
  | nil => exact Run.nil_iff
  | cons x xs ih =>
      rw [Run.cons_iff, after]
      constructor
      · rintro ⟨u, head, rest⟩
        obtain rfl := Option.some.inj head
        exact ih.mp rest
      · intro reached
        exact ⟨_, rfl, ih.mpr reached⟩

end Machine
