import Mathlib.Data.Int.Log
import Mathlib.Data.Rat.Floor
import Mathlib.Tactic.Positivity

namespace DashcamStats.Binary64

def nearestEven (q : ℚ) : ℤ :=
  if q - ⌊q⌋ < 1 / 2 then ⌊q⌋
  else if 1 / 2 < q - ⌊q⌋ then ⌊q⌋ + 1
  else if ⌊q⌋ % 2 = 0 then ⌊q⌋ else ⌊q⌋ + 1

theorem nearestEven_intCast (n : ℤ) : nearestEven n = n := by
  simp [nearestEven]

theorem nearestEven_nonneg {q : ℚ} (nonneg : 0 ≤ q) : 0 ≤ nearestEven q := by
  have low : 0 ≤ ⌊q⌋ := Int.floor_nonneg.mpr nonneg
  unfold nearestEven
  split_ifs <;> omega

/-- The exponent of the last of the 53 places of a binary64 number of this size; places
below the subnormal range do not exist. -/
def lastPlace (q : ℚ) : ℤ := max (Int.log 2 |q| - 52) (-1074)

def round (q : ℚ) : ℚ := nearestEven (q / 2 ^ lastPlace q) * 2 ^ lastPlace q

theorem place_pos (k : ℤ) : (0 : ℚ) < 2 ^ k := zpow_pos (by norm_num) k

theorem round_nonneg {q : ℚ} (nonneg : 0 ≤ q) : 0 ≤ round q := by
  have scaled : 0 ≤ nearestEven (q / 2 ^ lastPlace q) :=
    nearestEven_nonneg (div_nonneg nonneg (place_pos _).le)
  exact mul_nonneg (by exact_mod_cast scaled) (place_pos _).le

theorem lastPlace_le {m : ℤ} (k : ℤ) (nonzero : m ≠ 0) (narrow : |m| < 2 ^ 53)
    (small : -1074 ≤ k) : lastPlace (m * 2 ^ k) ≤ k := by
  refine max_le ?_ small
  have size : |(m * 2 ^ k : ℚ)| = |(m : ℚ)| * 2 ^ k := by
    rw [abs_mul, abs_of_pos (place_pos k)]
  have positive : 0 < |(m : ℚ)| * 2 ^ k := by
    have apart : (m : ℚ) ≠ 0 := by exact_mod_cast nonzero
    exact mul_pos (abs_pos.mpr apart) (place_pos k)
  have below : |(m : ℚ)| * 2 ^ k < ((2 : ℕ) : ℚ) ^ (53 + k) := by
    have narrow : |(m : ℚ)| < 2 ^ (53 : ℤ) := by exact_mod_cast narrow
    rw [Nat.cast_ofNat, zpow_add₀ (by norm_num)]
    exact mul_lt_mul_of_pos_right narrow (place_pos k)
  have exponent := (Int.lt_zpow_iff_log_lt (by norm_num) positive).mp below
  rw [size]
  omega

theorem round_of_representable {m k : ℤ} (narrow : |m| < 2 ^ 53) (small : -1074 ≤ k) :
    round (m * 2 ^ k) = m * 2 ^ k := by
  by_cases zero : m = 0
  · simp [zero, round, nearestEven]
  · have bound := lastPlace_le k zero narrow small
    have scaled : (m * 2 ^ k : ℚ) / 2 ^ lastPlace (m * 2 ^ k) =
        ((m * 2 ^ (k - lastPlace (m * 2 ^ k)).toNat : ℤ) : ℚ) := by
      have natural : ((k - lastPlace (m * 2 ^ k)).toNat : ℤ) = k - lastPlace (m * 2 ^ k) := by
        omega
      rw [mul_div_assoc, ← zpow_sub₀ (by norm_num), Int.cast_mul, Int.cast_pow, Int.cast_ofNat,
        ← zpow_natCast, natural]
    rw [round, scaled, nearestEven_intCast, ← scaled, div_mul_cancel₀ _ (place_pos _).ne']

theorem round_intCast {n : ℤ} (narrow : |n| < 2 ^ 53) : round n = n := by
  simpa using round_of_representable (k := 0) narrow (by omega)

theorem round_half {n : ℤ} (narrow : |n| < 2 ^ 53) : round (n / 2) = n / 2 := by
  have halved : (n / 2 : ℚ) = n * 2 ^ (-1 : ℤ) := by
    rw [zpow_neg_one]
    ring
  rw [halved]
  exact round_of_representable narrow (by omega)

theorem le_nearestEven {n : ℤ} {q : ℚ} (below : (n : ℚ) ≤ q) : n ≤ nearestEven q := by
  have floor : n ≤ ⌊q⌋ := Int.le_floor.mpr below
  unfold nearestEven
  split_ifs <;> omega

theorem nearestEven_le {n : ℤ} {q : ℚ} (above : q ≤ n) : nearestEven q ≤ n := by
  have floor : ⌊q⌋ ≤ n := by
    have cast : (⌊q⌋ : ℚ) ≤ n := (Int.floor_le q).trans above
    exact_mod_cast cast
  by_cases whole : ⌊q⌋ = n
  · -- The floor is the bound itself, so nothing is left to round up.
    have exact_value : q = n := le_antisymm above (whole ▸ Int.floor_le q)
    rw [exact_value, nearestEven_intCast]
  · unfold nearestEven
    split_ifs <;> omega

theorem abs_nearestEven_sub_le (q : ℚ) : |nearestEven q - q| ≤ 1 / 2 := by
  have low := Int.floor_le q
  have high := Int.lt_floor_add_one q
  unfold nearestEven
  split_ifs <;> rw [abs_le] <;> push_cast <;> constructor <;> linarith

-- What needs a last place above the units is at least `2 ^ 53`, and so is its rounding.
theorem two_pow_le_abs {q : ℚ} (coarse : 0 < lastPlace q) :
    (2 : ℚ) ^ (52 : ℕ) * 2 ^ lastPlace q ≤ |q| := by
  have exponent : lastPlace q = Int.log 2 |q| - 52 := by
    unfold lastPlace at *
    omega
  have nonzero : q ≠ 0 := by
    rintro rfl
    simp [lastPlace] at coarse
  have size := Int.zpow_log_le_self (b := 2) (r := |q|) (by norm_num) (abs_pos.mpr nonzero)
  rw [exponent, ← zpow_natCast, ← zpow_add₀ (by norm_num)]
  simpa using size

theorem unit_le_place {q : ℚ} (coarse : 0 < lastPlace q) : (2 : ℚ) ≤ 2 ^ lastPlace q := by
  calc (2 : ℚ) = 2 ^ (1 : ℤ) := by norm_num
    _ ≤ 2 ^ lastPlace q := zpow_le_zpow_right₀ (by norm_num) coarse

theorem intCast_eq_mul_place {q : ℚ} (n : ℤ) (fine : lastPlace q ≤ 0) :
    (n : ℚ) = ((n * 2 ^ (-lastPlace q).toNat : ℤ) : ℚ) * 2 ^ lastPlace q := by
  have natural : ((-lastPlace q).toNat : ℤ) = -lastPlace q := by omega
  rw [Int.cast_mul, Int.cast_pow, Int.cast_ofNat, ← zpow_natCast, natural, mul_assoc,
    ← zpow_add₀ (by norm_num), neg_add_cancel, zpow_zero, mul_one]

theorem intCast_le_round {n : ℤ} {q : ℚ} (narrow : |n| ≤ 2 ^ 53) (below : (n : ℚ) ≤ q) :
    (n : ℚ) ≤ round q := by
  have place := place_pos (lastPlace q)
  by_cases fine : lastPlace q ≤ 0
  · rw [intCast_eq_mul_place n fine] at below ⊢
    have scaled := le_nearestEven ((le_div_iff₀ place).mpr below)
    exact mul_le_mul_of_nonneg_right (by exact_mod_cast scaled) place.le
  · have coarse : 0 < lastPlace q := not_le.mp fine
    have size := two_pow_le_abs coarse
    have unit := unit_le_place coarse
    have bounded : -(2 : ℚ) ^ 53 ≤ n ∧ (n : ℚ) ≤ 2 ^ 53 := by
      rw [← abs_le]
      exact_mod_cast narrow
    by_cases positive : 0 ≤ q
    · rw [abs_of_nonneg positive] at size
      have scaled := le_nearestEven (n := 2 ^ 52) (q := q / 2 ^ lastPlace q)
        ((le_div_iff₀ place).mpr (by exact_mod_cast size))
      have bound : (2 : ℚ) ^ 52 * 2 ^ lastPlace q ≤ round q :=
        mul_le_mul_of_nonneg_right (by exact_mod_cast scaled) place.le
      linarith [bounded.2]
    · rw [abs_of_neg (not_le.mp positive)] at size
      have exact_bound : q = n ∧ (n : ℚ) = -2 ^ 53 := by
        constructor <;> linarith [bounded.1]
      have power : q = (-1 : ℤ) * 2 ^ (53 : ℤ) := by
        rw [exact_bound.1, exact_bound.2]
        norm_num
      rw [power, round_of_representable (by norm_num) (by norm_num), ← power]
      exact below

theorem round_le_intCast {n : ℤ} {q : ℚ} (narrow : |n| ≤ 2 ^ 53) (above : q ≤ n) :
    round q ≤ n := by
  have place := place_pos (lastPlace q)
  by_cases fine : lastPlace q ≤ 0
  · rw [intCast_eq_mul_place n fine] at above ⊢
    have scaled := nearestEven_le ((div_le_iff₀ place).mpr above)
    exact mul_le_mul_of_nonneg_right (by exact_mod_cast scaled) place.le
  · have coarse : 0 < lastPlace q := not_le.mp fine
    have size := two_pow_le_abs coarse
    have unit := unit_le_place coarse
    have bounded : -(2 : ℚ) ^ 53 ≤ n ∧ (n : ℚ) ≤ 2 ^ 53 := by
      rw [← abs_le]
      exact_mod_cast narrow
    by_cases positive : 0 ≤ q
    · rw [abs_of_nonneg positive] at size
      have exact_bound : q = n ∧ (n : ℚ) = 2 ^ 53 := by
        constructor <;> linarith [bounded.2]
      have power : q = (1 : ℤ) * 2 ^ (53 : ℤ) := by
        rw [exact_bound.1, exact_bound.2]
        norm_num
      rw [power, round_of_representable (by norm_num) (by norm_num), ← power]
      exact above
    · rw [abs_of_neg (not_le.mp positive)] at size
      have scaled := nearestEven_le (n := -2 ^ 52) (q := q / 2 ^ lastPlace q)
        ((div_le_iff₀ place).mpr (by push_cast; linarith))
      have bound : round q ≤ ((-2 ^ 52 : ℤ) : ℚ) * 2 ^ lastPlace q :=
        mul_le_mul_of_nonneg_right (by exact_mod_cast scaled) place.le
      push_cast at bound
      linarith [bounded.1]

theorem round_mem_Icc {least most : ℤ} {q : ℚ} (low : (least : ℚ) ≤ q) (high : q ≤ most)
    (narrow : |least| ≤ 2 ^ 53 ∧ |most| ≤ 2 ^ 53) :
    (least : ℚ) ≤ round q ∧ round q ≤ most :=
  ⟨intCast_le_round narrow.1 low, round_le_intCast narrow.2 high⟩

theorem lastPlace_le_of_lt {q : ℚ} {k : ℕ} (positive : 1 ≤ k) (small : |q| < 2 ^ k) :
    lastPlace q ≤ k - 53 := by
  by_cases zero : q = 0
  · rw [zero, lastPlace]
    simp
    omega
  · have size : |q| < ((2 : ℕ) : ℚ) ^ (k : ℤ) := by exact_mod_cast small
    have exponent := (Int.lt_zpow_iff_log_lt (by norm_num) (abs_pos.mpr zero)).mp size
    unfold lastPlace
    omega

-- Rounding a number below `2 ^ k` moves it by at most half of its last place.
theorem abs_round_sub_le {q : ℚ} {k : ℕ} (positive : 1 ≤ k) (small : |q| < 2 ^ k) :
    |round q - q| ≤ 2 ^ ((k : ℤ) - 53) / 2 := by
  have place := place_pos (lastPlace q)
  have fine : (2 : ℚ) ^ lastPlace q ≤ 2 ^ ((k : ℤ) - 53) :=
    zpow_le_zpow_right₀ (by norm_num) (lastPlace_le_of_lt positive small)
  have error := abs_nearestEven_sub_le (q / 2 ^ lastPlace q)
  have scaled : round q - q = (nearestEven (q / 2 ^ lastPlace q) - q / 2 ^ lastPlace q) *
      2 ^ lastPlace q := by
    rw [sub_mul, div_mul_cancel₀ _ place.ne', round]
  rw [scaled, abs_mul, abs_of_pos place]
  calc |(nearestEven (q / 2 ^ lastPlace q) : ℚ) - q / 2 ^ lastPlace q| * 2 ^ lastPlace q
      ≤ 1 / 2 * 2 ^ ((k : ℤ) - 53) := mul_le_mul error fine place.le (by norm_num)
    _ = 2 ^ ((k : ℤ) - 53) / 2 := by ring

theorem nearestEven_of_near {n : ℤ} {q : ℚ} (near : |q - n| < 1 / 2) : nearestEven q = n := by
  have bounds := abs_lt.mp near
  have error := abs_le.mp (abs_nearestEven_sub_le q)
  have above : (nearestEven q : ℚ) < n + 1 := by linarith
  have below : (n : ℚ) - 1 < nearestEven q := by linarith
  have above : nearestEven q < n + 1 := by exact_mod_cast above
  have below : n - 1 < nearestEven q := by exact_mod_cast below
  omega

theorem abs_lt_place (q : ℚ) : |q| < 2 ^ (lastPlace q + 53) := by
  have lower : Int.log 2 |q| + 1 ≤ lastPlace q + 53 := by
    have := le_max_left (Int.log 2 |q| - 52) (-1074)
    unfold lastPlace
    omega
  calc |q| < ((2 : ℕ) : ℚ) ^ (Int.log 2 |q| + 1) := Int.lt_zpow_succ_log_self (by norm_num) _
    _ = 2 ^ (Int.log 2 |q| + 1) := by norm_num
    _ ≤ 2 ^ (lastPlace q + 53) := zpow_le_zpow_right₀ (by norm_num) lower

theorem abs_nearestEven_le (q : ℚ) : |nearestEven (q / 2 ^ lastPlace q)| ≤ 2 ^ 53 := by
  have positive := place_pos (lastPlace q)
  have small : |q / 2 ^ lastPlace q| ≤ 2 ^ 53 := by
    rw [abs_div, abs_of_pos positive, div_le_iff₀ positive]
    have size := abs_lt_place q
    rw [zpow_add₀ (by norm_num)] at size
    have power : (2 : ℚ) ^ (53 : ℤ) = 2 ^ 53 := by norm_num
    rw [power, mul_comm] at size
    exact size.le
  obtain ⟨low, high⟩ := abs_le.mp small
  refine abs_le.mpr ⟨le_nearestEven ?_, nearestEven_le ?_⟩
  · exact_mod_cast low
  · exact_mod_cast high

theorem round_round (q : ℚ) : round (round q) = round q := by
  have least : -1074 ≤ lastPlace q := le_max_right _ _
  rcases (abs_nearestEven_le q).lt_or_eq with narrow | full
  · exact round_of_representable narrow least
  · have shifted : ∀ sign : ℤ, |sign| < 2 ^ 53 →
        nearestEven (q / 2 ^ lastPlace q) = sign * 2 ^ 53 → round (round q) = round q := by
      intro sign narrow same
      have value : round q = sign * 2 ^ (53 + lastPlace q) := by
        have power : (2 : ℚ) ^ (53 : ℤ) = 2 ^ 53 := by norm_num
        rw [zpow_add₀ (by norm_num), power]
        unfold round
        rw [same]
        push_cast
        ring
      rw [value]
      exact round_of_representable narrow (by omega)
    rcases abs_choice (nearestEven (q / 2 ^ lastPlace q)) with same | same
    · exact shifted 1 (by norm_num) (by omega)
    · exact shifted (-1) (by norm_num) (by omega)

theorem eq_intCast_of_coarse {q : ℚ} (fixed : round q = q) (coarse : 0 < lastPlace q) :
    ∃ n : ℤ, q = n := by
  refine ⟨nearestEven (q / 2 ^ lastPlace q) * 2 ^ (lastPlace q).toNat, ?_⟩
  have natural : ((lastPlace q).toNat : ℤ) = lastPlace q := by omega
  rw [Int.cast_mul, Int.cast_pow, Int.cast_ofNat, ← zpow_natCast, natural]
  exact fixed.symm

theorem abs_lt_of_fine {q : ℚ} (fine : lastPlace q ≤ 0) : |q| < 2 ^ 53 := by
  calc |q| < 2 ^ (lastPlace q + 53) := abs_lt_place q
    _ ≤ 2 ^ (53 : ℤ) := zpow_le_zpow_right₀ (by norm_num) (by omega)
    _ = 2 ^ 53 := by norm_num

theorem nearestEven_mono {p q : ℚ} (h : p ≤ q) : nearestEven p ≤ nearestEven q := by
  have floors : ⌊p⌋ ≤ ⌊q⌋ := Int.floor_le_floor h
  obtain same | less := eq_or_lt_of_le floors
  · unfold nearestEven
    rw [same]
    split_ifs <;> first | omega | linarith
  · have up : nearestEven p ≤ ⌊p⌋ + 1 := by
      unfold nearestEven
      split_ifs <;> omega
    have down : ⌊q⌋ ≤ nearestEven q := le_nearestEven (Int.floor_le q)
    omega

theorem nearestEven_neg (q : ℚ) : nearestEven (-q) = -nearestEven q := by
  by_cases whole : (⌊q⌋ : ℚ) = q
  · rw [← whole, ← Int.cast_neg, nearestEven_intCast, nearestEven_intCast]
  · have low := Int.floor_le q
    have high := Int.lt_floor_add_one q
    have floor : ⌊-q⌋ = -⌊q⌋ - 1 := by
      rw [Int.floor_eq_iff]
      push_cast
      have strict := lt_of_le_of_ne low whole
      constructor <;> linarith
    unfold nearestEven
    rw [floor]
    push_cast
    split_ifs <;> first | omega | linarith

theorem round_neg (q : ℚ) : round (-q) = -round q := by
  have place : lastPlace (-q) = lastPlace q := by
    unfold lastPlace
    rw [abs_neg]
  unfold round
  rw [place, neg_div, nearestEven_neg]
  push_cast
  ring

theorem places_mul (k : ℤ) : ((2 ^ 52 : ℕ) : ℚ) * 2 ^ (k - 52) = 2 ^ k := by
  rw [zpow_sub₀ (by norm_num)]
  norm_num
  ring

theorem round_mono_of_nonneg {p q : ℚ} (nonneg : 0 ≤ p) (h : p ≤ q) : round p ≤ round q := by
  obtain rfl | positive := eq_or_lt_of_le nonneg
  · have zero : round 0 = 0 := by exact_mod_cast @round_intCast 0 (by norm_num)
    rw [zero]
    exact round_nonneg h
  have large : 0 < q := positive.trans_le h
  have logs : Int.log 2 |p| ≤ Int.log 2 |q| := by
    rw [abs_of_pos positive, abs_of_pos large]
    exact Int.log_mono_right positive h
  have places : lastPlace p ≤ lastPlace q := max_le_max_right _ (by omega)
  obtain same | less := eq_or_lt_of_le places
  · unfold round
    rw [same]
    have scaled : p / 2 ^ lastPlace q ≤ q / 2 ^ lastPlace q :=
      div_le_div_of_nonneg_right h (place_pos _).le
    have order : (nearestEven (p / 2 ^ lastPlace q) : ℚ) ≤ nearestEven (q / 2 ^ lastPlace q) := by
      exact_mod_cast nearestEven_mono scaled
    exact mul_le_mul_of_nonneg_right order (place_pos _).le
  · -- the power of two at which the larger one's places begin lies between the two
    have above : lastPlace q = Int.log 2 |q| - 52 := by
      unfold lastPlace at less ⊢
      omega
    have below : Int.log 2 |p| < Int.log 2 |q| := by
      unfold lastPlace at less above
      omega
    have start : (2 : ℚ) ^ Int.log 2 |q| ≤ q := by
      rw [abs_of_pos large]
      exact_mod_cast Int.zpow_log_le_self (R := ℚ) (b := 2) (by norm_num) large
    have stop : p ≤ 2 ^ Int.log 2 |q| := by
      have next := Int.lt_zpow_succ_log_self (R := ℚ) (b := 2) (by norm_num) p
      rw [abs_of_pos positive] at below
      refine next.le.trans (zpow_le_zpow_right₀ (by norm_num) ?_)
      omega
    have lower : (2 : ℚ) ^ Int.log 2 |q| ≤ round q := by
      have count : ((2 ^ 52 : ℕ) : ℤ) ≤ nearestEven (q / 2 ^ lastPlace q) := by
        refine le_nearestEven ?_
        rw [le_div_iff₀ (place_pos _), above]
        exact_mod_cast (places_mul _).trans_le start
      have scaled := mul_le_mul_of_nonneg_right (show ((2 ^ 52 : ℕ) : ℚ) ≤
        nearestEven (q / 2 ^ lastPlace q) by exact_mod_cast count) (place_pos (lastPlace q)).le
      refine le_trans (le_of_eq ?_) scaled
      rw [above, places_mul]
    refine le_trans ?_ lower
    obtain ⟨d, gap⟩ : ∃ d : ℕ, Int.log 2 |q| = lastPlace p + d :=
      ⟨(Int.log 2 |q| - lastPlace p).toNat, by omega⟩
    have count : nearestEven (p / 2 ^ lastPlace p) ≤ ((2 ^ d : ℕ) : ℤ) := by
      refine nearestEven_le ?_
      rw [div_le_iff₀ (place_pos _)]
      refine stop.trans (le_of_eq ?_)
      rw [gap, zpow_add₀ (by norm_num)]
      push_cast
      rw [zpow_natCast]
      ring
    have scaled := mul_le_mul_of_nonneg_right (show (nearestEven (p / 2 ^ lastPlace p) : ℚ) ≤
      ((2 ^ d : ℕ) : ℚ) by exact_mod_cast count) (place_pos (lastPlace p)).le
    refine scaled.trans (le_of_eq ?_)
    rw [gap, zpow_add₀ (by norm_num)]
    push_cast
    rw [zpow_natCast]
    ring

theorem round_mono {p q : ℚ} (h : p ≤ q) : round p ≤ round q := by
  obtain nonneg | negative := le_total 0 p
  · exact round_mono_of_nonneg nonneg h
  · obtain above | below := le_total 0 q
    · have nonpos : round p ≤ 0 := by
        have flipped := round_nonneg (neg_nonneg.mpr negative)
        rw [round_neg] at flipped
        linarith
      exact nonpos.trans (round_nonneg above)
    · have flipped := round_mono_of_nonneg (neg_nonneg.mpr below) (neg_le_neg h)
      rw [round_neg, round_neg] at flipped
      linarith

end DashcamStats.Binary64
