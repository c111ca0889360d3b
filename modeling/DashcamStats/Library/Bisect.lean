import Mathlib.Order.Lattice

/-!
# Bisection

Where an element belongs in a sorted list, found by halving.
-/

namespace DashcamStats.Bisect

universe u

variable {T : Type u} [LinearOrder T]

def bisectLoop (xs : List T) (x : T) (lo hi : ℕ) : ℕ :=
  if lo < hi then
    let mid := (lo + hi) / 2
    if xs[mid]?.any (· < x) then bisectLoop xs x (mid + 1) hi else bisectLoop xs x lo mid
  else lo
termination_by hi - lo

def bisectLeft (xs : List T) (x : T) : ℕ := bisectLoop xs x 0 xs.length

-- What stands before `i` is less than `x`, and nothing else is.
def Splits (xs : List T) (x : T) (i : ℕ) : Prop := ∀ j (h : j < xs.length), xs[j] < x ↔ j < i

theorem bisectLoop_splits {xs : List T} {x : T} {lo hi : ℕ} (sorted : xs.Pairwise (· ≤ ·))
    (ordered : lo ≤ hi) (within : hi ≤ xs.length)
    (below : ∀ j (h : j < xs.length), j < lo → xs[j] < x)
    (above : ∀ j (h : j < xs.length), hi ≤ j → ¬ xs[j] < x) :
    bisectLoop xs x lo hi ≤ xs.length ∧ Splits xs x (bisectLoop xs x lo hi) := by
  fun_induction bisectLoop xs x lo hi with
  | case1 lo hi more mid less ih =>
    have inside : mid < xs.length := by omega
    have less : xs[mid] < x := by simpa [List.getElem?_eq_getElem inside] using less
    refine ih (by omega) within (fun j h before => ?_) above
    obtain earlier | rfl := Nat.lt_succ_iff_lt_or_eq.mp before
    · exact lt_of_le_of_lt (List.pairwise_iff_getElem.mp sorted j mid h inside earlier) less
    · exact less
  | case2 lo hi more mid notLess ih =>
    have inside : mid < xs.length := by omega
    have notLess : ¬ xs[mid] < x := by simpa [List.getElem?_eq_getElem inside] using notLess
    refine ih (by omega) (Nat.le_of_lt inside) below (fun j h after less => notLess ?_)
    obtain later | rfl := Nat.lt_or_eq_of_le after
    · exact lt_of_le_of_lt (List.pairwise_iff_getElem.mp sorted mid j inside h later) less
    · exact less
  | case3 lo hi done =>
    refine ⟨by omega, fun j h => ⟨fun less => ?_, below j h⟩⟩
    by_contra after
    exact above j h (by omega) less

theorem bisectLeft_splits {xs : List T} {x : T} (sorted : xs.Pairwise (· ≤ ·)) :
    bisectLeft xs x ≤ xs.length ∧ Splits xs x (bisectLeft xs x) :=
  bisectLoop_splits sorted (Nat.zero_le _) (Nat.le_refl _) (by simp) (fun j h after => by omega)

end DashcamStats.Bisect
