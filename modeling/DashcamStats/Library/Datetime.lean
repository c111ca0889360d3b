import DashcamStats.Library.Binary64

/-!
# Moments

Moments and their differences as Python's `datetime` and `timedelta` have them, in microseconds.
-/

namespace DashcamStats.Datetime

-- `int(value)`
def truncate (q : ℚ) : ℤ := if 0 ≤ q then ⌊q⌋ else ⌈q⌉

-- `timedelta(seconds=value)`: the whole seconds are exact, the rest is multiplied as a float.
def timedelta (seconds : ℚ) : ℤ :=
  Binary64.nearestEven
    ((truncate seconds * 1000000 : ℤ) + Binary64.round (1000000 * (seconds - truncate seconds)))

def totalSeconds (delta : ℤ) : ℚ := Binary64.round (delta / 1000000)

-- `int(at.timestamp())`
def wholeSecond (at_ : ℤ) : ℤ := truncate (totalSeconds at_)

theorem truncate_mono {p q : ℚ} (h : p ≤ q) : truncate p ≤ truncate q := by
  unfold truncate
  split_ifs with low high high
  · exact Int.floor_le_floor h
  · exact absurd (low.trans h) high
  · have nonpos : ⌈p⌉ ≤ 0 := Int.ceil_le.mpr (by exact_mod_cast (not_le.mp low).le)
    exact nonpos.trans (Int.floor_nonneg.mpr high)
  · exact Int.ceil_le_ceil h

theorem wholeSecond_mono {a b : ℤ} (h : a ≤ b) : wholeSecond a ≤ wholeSecond b := by
  refine truncate_mono (Binary64.round_mono ?_)
  exact div_le_div_of_nonneg_right (by exact_mod_cast h) (by norm_num)

theorem lt_of_wholeSecond_lt {a b : ℤ} (h : wholeSecond a < wholeSecond b) : a < b := by
  by_contra less
  exact absurd (wholeSecond_mono (not_lt.mp less)) (not_le.mpr h)

theorem wholeSecond_whole {k : ℤ} (narrow : |k| < 2 ^ 53) : wholeSecond (k * 1000000) = k := by
  have exact_ : ((k * 1000000 : ℤ) : ℚ) / 1000000 = (k : ℤ) := by
    push_cast
    ring
  rw [wholeSecond, totalSeconds, exact_, Binary64.round_intCast narrow]
  unfold truncate
  split_ifs <;> simp

end DashcamStats.Datetime
