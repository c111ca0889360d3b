import Mathlib.Logic.Relation

/-!
# Given events

The run of a step function on a list of events.
-/

namespace DashcamStats.Follow

open Relation

variable {E S : Type} {step : E → S → Option S}

def follow (step : E → S → Option S) : List E → S → Option S
  | [], s => some s
  | event :: rest, s => (step event s).bind (follow step rest)

theorem follow_run {events : List E} {s s' : S} (h : follow step events s = some s') :
    ReflTransGen (fun s s' => ∃ event ∈ events, step event s = some s') s s' := by
  induction events generalizing s with
  | nil => exact Option.some.inj h ▸ .refl
  | cons event rest ih =>
    obtain ⟨middle, first, later⟩ := Option.bind_eq_some_iff.mp h
    refine .head ⟨event, by simp, first⟩ (ReflTransGen.mono ?_ _ _ (ih later))
    rintro before after ⟨event, among, step⟩
    exact ⟨event, by simp [among], step⟩

theorem follow_any {events : List E} {s : S} {p : S → Bool}
    (h : (follow step events s).any p = true) : ∃ s',
      ReflTransGen (fun s s' => ∃ event ∈ events, step event s = some s') s s' ∧
        p s' = true := by
  cases followed : follow step events s with
  | none => simp [followed] at h
  | some s' => exact ⟨s', follow_run followed, by simpa [followed] using h⟩

end DashcamStats.Follow
