import DashcamStats.Reconciliation.Projection

namespace DashcamStats.Logger

open Bundle Reconciliation

namespace ObdPollPlan

def VERSION : ℤ := 7

def TARGET_CYCLE_MILLIS : ℤ := 5000

def fast : List ℕ := [0x04, 0x0C, 0x0D]

def medium : List ℕ := [0x0E, 0x10, 0x11, 0x03, 0x05, 0x06, 0x07, 0x0F, 0x14, 0x15]

def slow : List ℕ := [0x21, 0x01]

def staticOnce : List ℕ := [0x13, 0x1C]

def rotating (sequence : ℕ) : List ℕ :=
  (medium.zipIdx.filter fun entry => entry.2 % 3 = sequence % 3).map (·.1) ++
    (slow.zipIdx.filter fun entry => entry.2 * 4 + 1 = sequence % 12).map (·.1)

def requestedPids (sequence : ℕ) (supported : Finset ℕ) (diagnosticReserved : Bool) : List ℕ :=
  (fast ++
    if diagnosticReserved then if sequence % 3 = 1 then [0x10] else []
    else rotating sequence).filter (· ∈ supported)

def tier (pid : ℕ) : Option String :=
  if pid ∈ fast then some "fast"
  else if pid ∈ medium then some "medium"
  else if pid ∈ slow then some "slow"
  else if pid ∈ staticOnce then some "static"
  else none

variable {sequence pid : ℕ} {spec : SignalSpec}

theorem rotating_mod (sequence : ℕ) : rotating (sequence % 12) = rotating sequence := by
  simp [rotating, Nat.mod_mod_of_dvd]

-- Both sides repeat after twelve cycles.
theorem rotating_iff (member : spec ∈ SIGNALS_V4) (rotates : spec.tier ≠ "static")
    (source : spec.sourcePid = some pid) :
    pid ∈ fast ++ rotating sequence ↔
      sequence % spec.every = signalPhase spec (phasesOf VERSION) := by
  have divides : ∀ spec ∈ SIGNALS_V4, spec.every ∣ 12 := by decide
  have round : ∀ cycle < 12, ∀ spec ∈ SIGNALS_V4, spec.tier ≠ "static" →
      ∀ pid ∈ spec.sourcePid, (pid ∈ fast ++ rotating cycle ↔
        cycle % spec.every = signalPhase spec (phasesOf VERSION)) := by
    decide
  have same := round _ (Nat.mod_lt sequence (by omega)) spec member rotates pid source
  rwa [rotating_mod, Nat.mod_mod_of_dvd _ (divides spec member)] at same

theorem rotating_known (asked : pid ∈ fast ++ rotating sequence) :
    ∃ spec ∈ SIGNALS_V4, spec.tier ≠ "static" ∧ spec.sourcePid = some pid := by
  have round : ∀ cycle < 12, ∀ pid ∈ fast ++ rotating cycle,
      ∃ spec ∈ SIGNALS_V4, spec.tier ≠ "static" ∧ spec.sourcePid = some pid := by
    decide
  rw [← rotating_mod] at asked
  exact round _ (Nat.mod_lt _ (by omega)) pid asked

/-- In a cycle without a reservation the logger asks for what the server will look for in it: the
supported PID of each signal exactly at the signal's phase, and no PID without a signal. -/
theorem requestedPids_scheduled (sequence : ℕ) (supported : Finset ℕ) :
    (∀ spec ∈ (specsForPollPlan (.int VERSION)).2, spec.tier ≠ "static" →
      ∀ pid ∈ spec.sourcePid, (pid ∈ requestedPids sequence supported false ↔
        pid ∈ supported ∧ sequence % spec.every = signalPhase spec (phasesOf VERSION))) ∧
    ∀ pid ∈ requestedPids sequence supported false, ∃ spec ∈ (specsForPollPlan (.int VERSION)).2,
      spec.tier ≠ "static" ∧ spec.sourcePid = some pid := by
  have asked (pid : ℕ) : pid ∈ requestedPids sequence supported false ↔
      pid ∈ supported ∧ pid ∈ fast ++ rotating sequence := by
    simp [requestedPids, and_comm, and_or_left]
  constructor
  · intro spec member rotates pid source
    rw [asked, rotating_iff member rotates source]
  · intro pid member
    exact rotating_known ((asked pid).mp member).2

end ObdPollPlan

end DashcamStats.Logger
