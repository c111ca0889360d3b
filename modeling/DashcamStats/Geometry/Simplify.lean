import Mathlib.Tactic.FieldSimp
import Mathlib.Tactic.Ring
import DashcamStats.Library.Thinning

namespace DashcamStats.Geometry

def METRES_PER_DEGREE : ℚ := 111320

-- From the line through `a` and `b`, or from `a` where there is no line
def distanceSq (a b p : ℚ × ℚ) : ℚ :=
  let dx := b.1 - a.1
  let dy := b.2 - a.2
  let normSq := dx * dx + dy * dy
  let cross := b.1 * a.2 - b.2 * a.1
  if normSq = 0 then (p.1 - a.1) ^ 2 + (p.2 - a.2) ^ 2
  else (dy * p.1 - dx * p.2 + cross) ^ 2 / normSq

theorem distanceSq_nonneg (a b p : ℚ × ℚ) : 0 ≤ distanceSq a b p := by
  unfold distanceSq
  dsimp only
  split_ifs
  · positivity
  · exact div_nonneg (sq_nonneg _) (add_nonneg (mul_self_nonneg _) (mul_self_nonneg _))

def pointAt (points : List (ℚ × ℚ)) (index : ℕ) : ℚ × ℚ := points.getD index (0, 0)

def chordDistanceSq (points : List (ℚ × ℚ)) (first last index : ℕ) : ℚ :=
  distanceSq (pointAt points first) (pointAt points last) (pointAt points index)

theorem chordDistanceSq_nonneg (points : List (ℚ × ℚ)) (first last index : ℕ) :
    0 ≤ chordDistanceSq points first last index := distanceSq_nonneg _ _ _

def endsOnly (count : ℕ) : List Bool :=
  ((List.replicate count false).set 0 true).set (count - 1) true

def simplifyIndices (points : List (ℚ × ℚ)) (toleranceM : ℚ) : List ℕ :=
  if points.length < 3 ∨ toleranceM ≤ 0 then List.range points.length
  else
    let tolerance := toleranceM / METRES_PER_DEGREE
    let keep := Thinning.thin (chordDistanceSq points) (chordDistanceSq_nonneg points)
      (tolerance ^ 2) [(0, points.length - 1)] (endsOnly points.length)
    (List.range keep.length).filter fun index => decide (keep[index]? = some true)

-- The square of the distance from `p` to the point at `t` on the way from `a` to `b`
def awaySq (a b p : ℚ × ℚ) (t : ℚ) : ℚ :=
  (p.1 - (a.1 + t * (b.1 - a.1))) ^ 2 + (p.2 - (a.2 + t * (b.2 - a.2))) ^ 2

theorem project {x y u v : ℚ} (line : x * x + y * y ≠ 0) :
    (u - (x * u + y * v) / (x * x + y * y) * x) ^ 2 +
      (v - (x * u + y * v) / (x * x + y * y) * y) ^ 2 = (y * u - x * v) ^ 2 / (x * x + y * y) := by
  have line' : x ^ 2 + y ^ 2 ≠ 0 := by
    rwa [pow_two, pow_two]
  field_simp
  ring

theorem distanceSq_eq_away (a b p : ℚ × ℚ) : ∃ t, awaySq a b p t = distanceSq a b p := by
  unfold distanceSq
  dsimp only
  split_ifs with point
  · exact ⟨0, by simp [awaySq]⟩
  · refine ⟨((b.1 - a.1) * (p.1 - a.1) + (b.2 - a.2) * (p.2 - a.2)) /
      ((b.1 - a.1) * (b.1 - a.1) + (b.2 - a.2) * (b.2 - a.2)), ?_⟩
    have crossed : (b.2 - a.2) * p.1 - (b.1 - a.1) * p.2 + (b.1 * a.2 - b.2 * a.1) =
        (b.2 - a.2) * (p.1 - a.1) - (b.1 - a.1) * (p.2 - a.2) := by ring
    rw [awaySq, crossed, ← sub_sub, ← sub_sub]
    exact project point

-- The two indices are kept, and nothing is kept between them.
structure Encloses (kept : List ℕ) (j k index : ℕ) : Prop where
  left : j ∈ kept
  right : k ∈ kept
  after : j < index
  before : index < k
  next : ∀ m ∈ kept, ¬ (j < m ∧ m < k)

structure NearLines (points : List (ℚ × ℚ)) (toleranceM : ℚ) (kept : List ℕ) : Prop where
  ends : points ≠ [] → 0 ∈ kept ∧ points.length - 1 ∈ kept
  near : ∀ index < points.length, index ∉ kept → ∃ j k, Encloses kept j k index ∧
    ∃ t, awaySq (pointAt points j) (pointAt points k) (pointAt points index) t ≤
      (toleranceM / METRES_PER_DEGREE) ^ 2

theorem endsOnly_iff {count i : ℕ} (h : i < count) :
    (endsOnly count)[i]? = some true ↔ i = 0 ∨ i = count - 1 := by
  rw [endsOnly, List.getElem?_set, List.getElem?_set]
  simp only [List.length_set, List.length_replicate]
  by_cases last : count - 1 = i
  · simp [last, h]
  · by_cases zero : 0 = i
    · subst zero
      simp [last, h]
    · simp [last, zero, Ne.symm last, Ne.symm zero, h]

def spur : List (ℚ × ℚ) := [(0, 0), (0, 10), (0, 1)]

theorem spur_simplified : simplifyIndices spur 10 = [0, 2] := by
  have onLine : chordDistanceSq spur 0 2 1 = 0 := by
    norm_num [chordDistanceSq, distanceSq, pointAt, spur]
  have worst : Thinning.worstOf (chordDistanceSq spur) 0 2 = (1, 0) := by
    norm_num [Thinning.worstOf, Thinning.worstFrom, onLine]
  have still (keep : List Bool) : Thinning.thin (chordDistanceSq spur)
      (chordDistanceSq_nonneg spur) ((10 / METRES_PER_DEGREE) ^ 2) [(0, 2)] keep = keep := by
    rw [Thinning.thin, worst, dif_pos (by norm_num), if_neg (by norm_num [METRES_PER_DEGREE]),
      Thinning.thin]
  unfold simplifyIndices
  rw [if_neg (by norm_num [spur])]
  dsimp only
  rw [show spur.length - 1 = 2 from rfl, still]
  decide

end DashcamStats.Geometry
