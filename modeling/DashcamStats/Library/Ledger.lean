import Mathlib.Order.Lattice

/-!
# Debts

A debt is incurred and settled at stamps of a logical clock. It is owed while no settlement is as
recent as the last time it was incurred.
-/

namespace DashcamStats

universe u

structure Ledger (Debt : Type u) where
  incurred : Debt → Nat
  settled : Debt → Nat

namespace Ledger

variable {Debt : Type u} {ledger : Ledger Debt} {debt other : Debt} {stamp : Nat}

def clear : Ledger Debt := ⟨fun _ => 0, fun _ => 0⟩

def Owes (ledger : Ledger Debt) (debt : Debt) : Prop := ledger.settled debt < ledger.incurred debt

instance : Decidable (ledger.Owes debt) := inferInstanceAs (Decidable (_ < _))

@[simp] theorem not_owes_clear : ¬ (clear : Ledger Debt).Owes debt := Nat.not_lt_zero 0

variable [DecidableEq Debt]

def incur (ledger : Ledger Debt) (debt : Debt) (stamp : Nat) : Ledger Debt :=
  { ledger with incurred := Function.update ledger.incurred debt stamp }

def settle (ledger : Ledger Debt) (debt : Debt) (stamp : Nat) : Ledger Debt :=
  { ledger with
    settled := Function.update ledger.settled debt (max (ledger.settled debt) stamp) }

theorem owes_incur (different : debt ≠ other) :
    (ledger.incur other stamp).Owes debt ↔ ledger.Owes debt := by
  simp [Owes, incur, different]

theorem incurred_incur (different : debt ≠ other) :
    (ledger.incur other stamp).incurred debt = ledger.incurred debt := by
  simp [incur, different]

theorem incurred_incur_le {bound : Nat} (held : ledger.incurred debt ≤ bound)
    (later : stamp ≤ bound) : (ledger.incur other stamp).incurred debt ≤ bound := by
  by_cases same : debt = other
  · subst same
    simpa [incur] using later
  · simpa [incur, same] using held

theorem owes_of_settle (owes : (ledger.settle other stamp).Owes debt) : ledger.Owes debt := by
  by_cases same : debt = other
  · subst same
    have below : max (ledger.settled debt) stamp < ledger.incurred debt := by
      simpa [Owes, settle] using owes
    exact lt_of_le_of_lt (le_max_left _ _) below
  · simpa [Owes, settle, same] using owes

theorem not_owes_settle (recent : ledger.incurred debt ≤ stamp) :
    ¬ (ledger.settle debt stamp).Owes debt := by
  simp [Owes, settle, recent]

end Ledger

end DashcamStats
