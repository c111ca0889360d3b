import Mathlib.Algebra.Ring.Nat

namespace DashcamStats

universe u v

variable {State : Type u} {Event : Type v}

/-- The finite runs of a labelled step relation in which every step meets `ok`. -/
inductive Run (step : State → Event → State → Prop) (ok : State → Event → Prop) :
    State → List Event → State → Prop
  | refl {s : State} : Run step ok s [] s
  | tail {s t u : State} {es : List Event} {e : Event} :
      Run step ok s es t → ok t e → step t e u → Run step ok s (es ++ [e]) u

def anyStep (_ : State) (_ : Event) : Prop := True

instance (s : State) (e : Event) : Decidable (anyStep s e) := .isTrue trivial

variable {step : State → Event → State → Prop} {ok ok' : State → Event → Prop}
variable {s t u : State} {es fs : List Event}

theorem Run.invariant (Inv : State → Prop)
    (preserved : ∀ s e t, Inv s → ok s e → step s e t → Inv t)
    (run : Run step ok s es t) (start : Inv s) : Inv t := by
  induction run with
  | refl => exact start
  | tail _ allowed stepped ih => exact preserved _ _ _ ih allowed stepped

/-- When, under an invariant, the steps that meet `ok` are exactly those that are kept and lead to
a good state, the runs that meet `ok` are exactly the runs of kept steps through good states. -/
theorem Run.iff_kept (Inv Good : State → Prop) (Kept : State → Event → State → Prop)
    (preserved : ∀ s e t, Inv s → step s e t → Inv t)
    (exact_at : ∀ s e t, Inv s → Good s → step s e t → (ok s e ↔ Good t ∧ Kept s e t))
    (start : Inv s) (good : Good s) :
    Run step ok s es t ↔
      Run (fun s e t => step s e t ∧ Good t ∧ Kept s e t) anyStep s es t := by
  constructor
  · intro run
    have held : Inv t ∧ Good t ∧
        Run (fun s e t => step s e t ∧ Good t ∧ Kept s e t) anyStep s es t := by
      induction run with
      | refl => exact ⟨start, good, .refl⟩
      | tail _ allowed stepped ih =>
        obtain ⟨kept, reached, before⟩ := ih
        have next := (exact_at _ _ _ kept reached stepped).mp allowed
        exact ⟨preserved _ _ _ kept stepped, next.1, .tail before trivial ⟨stepped, next⟩⟩
    exact held.2.2
  · intro run
    have held : Inv t ∧ Good t ∧ Run step ok s es t := by
      induction run with
      | refl => exact ⟨start, good, .refl⟩
      | tail _ _ stepped ih =>
        obtain ⟨kept, reached, before⟩ := ih
        have allowed := (exact_at _ _ _ kept reached stepped.1).mpr stepped.2
        exact ⟨preserved _ _ _ kept stepped.1, stepped.2.1, .tail before allowed stepped.1⟩
    exact held.2.2

/-- The case where nothing is asked of a step but the state it leads to. -/
theorem Run.iff_good (Inv Good : State → Prop)
    (preserved : ∀ s e t, Inv s → step s e t → Inv t)
    (exact_at : ∀ s e t, Inv s → Good s → step s e t → (ok s e ↔ Good t))
    (start : Inv s) (good : Good s) :
    Run step ok s es t ↔ Run (fun s e t => step s e t ∧ Good t) anyStep s es t := by
  have same : Run step ok s es t ↔
      Run (fun s e t => step s e t ∧ Good t ∧ True) anyStep s es t :=
    Run.iff_kept Inv Good (fun _ _ _ => True) preserved
      (fun s e t inv good stepped => by simpa using exact_at s e t inv good stepped) start good
  simpa using same

theorem Run.nil_eq (run : Run step ok s [] t) : s = t := by
  generalize none : ([] : List Event) = events at run
  cases run with
  | refl => rfl
  | tail _ _ _ => simp at none

theorem Run.step_of_singleton {e : Event} (run : Run step ok s [e] t) : step s e t := by
  generalize one : [e] = events at run
  cases run with
  | refl => simp at one
  | @tail _ _ before last first _ stepped =>
    cases before with
    | nil =>
      obtain rfl : e = last := by simpa using one
      rwa [first.nil_eq]
    | cons head rest => simp at one

theorem Run.append (first : Run step ok s es t) (second : Run step ok t fs u) :
    Run step ok s (es ++ fs) u := by
  induction second with
  | refl => simpa using first
  | tail _ allowed stepped ih =>
    rw [← List.append_assoc]
    exact .tail ih allowed stepped

/-- Where every step lowers a measure, a run is no longer than what it is lowered by. -/
theorem Run.length_le (Inv : State → Prop) (measure : State → ℕ)
    (lowers : ∀ s e t, Inv s → ok s e → step s e t → Inv t ∧ measure t < measure s)
    (run : Run step ok s es t) (start : Inv s) : Inv t ∧ es.length + measure t ≤ measure s := by
  induction run with
  | refl => simpa using start
  | tail _ allowed stepped ih =>
    obtain ⟨held, bound⟩ := ih
    obtain ⟨next, lower⟩ := lowers _ _ _ held allowed stepped
    refine ⟨next, ?_⟩
    simp only [List.length_append, List.length_singleton]
    omega

section Trace

variable (next : State → Event → Option State) (ok : State → Event → Prop)
variable [∀ s e, Decidable (ok s e)]

-- Take the events one after the other while each is possible and meets `ok`.
def trace : State → List Event → Option State
  | s, [] => some s
  | s, e :: es => if ok s e then (next s e).bind fun t => trace t es else none

theorem run_of_trace (traced : trace next ok s es = some t) :
    Run (fun s e t => next s e = some t) ok s es t := by
  induction es generalizing s with
  | nil =>
    obtain rfl : s = t := by simpa [trace] using traced
    exact .refl
  | cons e es ih =>
    by_cases allowed : ok s e
    · have traced : (next s e).bind (fun t => trace next ok t es) = some t := by
        simpa [trace, allowed] using traced
      obtain ⟨mid, stepped, rest⟩ := Option.bind_eq_some_iff.mp traced
      have first : Run (fun s e t => next s e = some t) ok s [e] mid := by
        simpa using Run.tail .refl allowed stepped
      simpa using first.append (ih rest)
    · simp [trace, allowed] at traced

end Trace

end DashcamStats
