import Mathlib.Order.MinMax

/-!
# Sweeping intervals

Closed intervals are taken one after the other; the sweep stops at the first that leaves a gap.
-/

namespace DashcamStats.Intervals

universe u

variable {T : Type u} [LinearOrder T]

-- How far the intervals reach from `through`, if none leaves a gap.
def sweep (through : T) : List (T × T) → Option T
  | [] => some through
  | (lo, hi) :: rest => if through < lo then none else sweep (max through hi) rest

def Covered (spans : List (T × T)) (x : T) : Prop := ∃ span ∈ spans, span.1 ≤ x ∧ x ≤ span.2

theorem Covered.mono {spans spans' : List (T × T)} {x : T} (covered : Covered spans x)
    (kept : ∀ span ∈ spans, span ∈ spans') : Covered spans' x := by
  obtain ⟨span, member, inside⟩ := covered
  exact ⟨span, kept span member, inside⟩

theorem sweep_covers_after (spans : List (T × T)) (through reached : T)
    (swept : sweep through spans = some reached) (x : T) (after : through < x)
    (before : x ≤ reached) : Covered spans x := by
  induction spans generalizing through with
  | nil =>
    have same : through = reached := by simpa [sweep] using swept
    exact absurd (same ▸ after) (not_lt.mpr before)
  | cons span rest ih =>
    obtain ⟨lo, hi⟩ := span
    by_cases gap : through < lo
    · simp [sweep, gap] at swept
    · rw [sweep, if_neg gap] at swept
      -- either this interval already holds the instant or the rest of the sweep goes past it
      by_cases inside : x ≤ hi
      · exact ⟨(lo, hi), List.mem_cons_self, (not_lt.mp gap).trans after.le, inside⟩
      · have later : max through hi < x := max_lt after (not_le.mp inside)
        exact (ih (max through hi) swept later).mono fun _ => List.mem_cons_of_mem _

theorem sweep_map {S : Type*} [LinearOrder S] (f : T → S) (mono : StrictMono f) (through : T)
    (spans : List (T × T)) :
    sweep (f through) (spans.map (Prod.map f f)) = (sweep through spans).map f := by
  induction spans generalizing through with
  | nil => rfl
  | cons span rest ih =>
    obtain ⟨lo, hi⟩ := span
    have later := ih (max through hi)
    rw [mono.monotone.map_max] at later
    simp only [sweep, List.map_cons, Prod.map_apply, mono.lt_iff_lt, later]
    split <;> rfl

theorem eq_of_sweep_before {spans : List (T × T)} {through reached : T}
    (swept : sweep through spans = some reached) (before : ∀ span ∈ spans, through < span.1) :
    reached = through := by
  cases spans with
  | nil => exact (Option.some.inj swept).symm
  | cons span rest =>
    obtain ⟨lo, hi⟩ := span
    simp [sweep, before (lo, hi) List.mem_cons_self] at swept

theorem sweep_covers (spans : List (T × T)) (start reached : T)
    (swept : sweep start spans = some reached) (some_span : spans ≠ [])
    (ends_after : ∀ span ∈ spans, start < span.2) (x : T) (after : start ≤ x)
    (before : x ≤ reached) : Covered spans x := by
  rcases after.lt_or_eq with later | rfl
  · exact sweep_covers_after spans start reached swept x later before
  · cases spans with
    | nil => exact absurd rfl some_span
    | cons span rest =>
      obtain ⟨lo, hi⟩ := span
      have reaches : ¬ start < lo := by
        intro gap
        simp [sweep, gap] at swept
      have ends : start < hi := ends_after (lo, hi) List.mem_cons_self
      exact ⟨(lo, hi), List.mem_cons_self, not_lt.mp reaches, ends.le⟩

/-- A whole interval is covered when the sweep of intervals that end inside it or later does not
stop before its end. -/
theorem covered_of_reaches (spans : List (T × T)) (start stop : T) (ordered : start < stop)
    (ends_after : ∀ span ∈ spans, start < span.2)
    (reaches : (sweep start spans).any (fun reached => stop ≤ reached) = true) (x : T)
    (after : start ≤ x) (before : x ≤ stop) : Covered spans x := by
  obtain ⟨reached, swept, far⟩ := (Option.any_eq_true _ _).mp reaches
  have far : stop ≤ reached := of_decide_eq_true far
  have some_span : spans ≠ [] := by
    rintro rfl
    have same : start = reached := by simpa [sweep] using swept
    exact absurd (same ▸ far) (not_le.mpr ordered)
  exact sweep_covers spans start reached swept some_span ends_after x after (before.trans far)

end DashcamStats.Intervals
