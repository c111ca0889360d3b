import DashcamStats.Obd.Fuel
import DashcamStats.Obd.Moving

namespace DashcamStats.Obd

open Bundle Spans

structure Charge where
  rate : ℚ
  measuredAt : Time
  since : Time
  covered : ℚ

def Charge.span (charge : Charge) : ℚ × ℚ :=
  (seconds charge.since, seconds charge.since + charge.covered)

def Charge.litres (charge : Charge) : ℚ := charge.rate * charge.covered / 3600

theorem secondsBetween_pos {before now : Option Time}
    (positive : 0 < secondsBetween id before now) :
    ∃ a b, before = some a ∧ now = some b ∧
      secondsBetween id before now = seconds b - seconds a := by
  cases before with
  | none => simp [secondsBetween] at positive
  | some a =>
    cases now with
    | none => simp [secondsBetween] at positive
    | some b => exact ⟨a, b, rfl, rfl, seconds_sub b a⟩

namespace EstimatedFuelAccumulator

variable (acc : EstimatedFuelAccumulator) (o : Observation)

def timed : Bool := hasResponseTimes o.quality || acc.requireTiming

-- What `burnFrom` charges
def burnt (since : Option Time) (interval hold : ℚ) : Option Charge :=
  match acc.rate, acc.rateAt, since with
  | some rate, some measuredAt, some since =>
    let covered := min interval (max 0 (hold - seconds (since - measuredAt)))
    if 0 < covered then some ⟨rate, measuredAt, since, covered⟩ else none
  | _, _, _ => none

def effectiveAt : Option Time := match o.estimatedRate with
  | some _ => responseTime o.capturedAt o.quality 0x10 acc.requireTiming
  | none => some o.capturedAt

def effectiveInterval : ℚ := secondsBetween id acc.previousEffectiveAt (acc.effectiveAt o)

def reversed : Bool := acc.previousEffectiveAt.isSome && acc.effectiveInterval o ≤ 0

def timedInvalid : Bool :=
  fuelInvalid o || !hasAgeMap o.quality || (acc.effectiveAt o).isNone || acc.reversed o

def charge : Option Charge :=
  if acc.timed o then
    if acc.timedInvalid o || !(acc.contiguous id o && acc.previousTimed ≠ some false) ||
        acc.effectiveInterval o ≤ 0 then none
    else acc.burnt acc.previousEffectiveAt (acc.effectiveInterval o) (acc.mafCadenceS * (3 / 2))
  else if fuelInvalid o || !(acc.contiguous id o && acc.previousTimed ≠ some true) then none
  else acc.burnt acc.previousAt (acc.interval id o) (acc.nominalCycleS * 3 * (3 / 2))

def cadenceS : ℚ := if acc.timed o then acc.mafCadenceS else acc.nominalCycleS * 3

theorem burnFrom_kept (since : Option Time) (interval hold : ℚ) :
    (acc.burnFrom id since interval hold).rate = acc.rate ∧
      (acc.burnFrom id since interval hold).rateAt = acc.rateAt ∧
      (acc.burnFrom id since interval hold).nominalCycleS = acc.nominalCycleS ∧
      (acc.burnFrom id since interval hold).mafCadenceS = acc.mafCadenceS ∧
      (acc.burnFrom id since interval hold).requireTiming = acc.requireTiming := by
  unfold burnFrom burn
  dsimp only
  split
  · split <;> exact ⟨rfl, rfl, rfl, rfl, rfl⟩
  · exact ⟨rfl, rfl, rfl, rfl, rfl⟩

theorem burnFrom_litres (since now : Option Time) (hold : ℚ) :
    (acc.burnFrom id since (secondsBetween id since now) hold).litres =
      acc.litres + (acc.burnt since (secondsBetween id since now) hold).elim 0 Charge.litres := by
  unfold burnFrom burnt burn
  cases acc.rate with
  | none => simp
  | some rate =>
    cases acc.rateAt with
    | none => simp
    | some measuredAt =>
      cases since with
      | none => simp [secondsBetween]
      | some since =>
        dsimp only [id]
        rw [show secondsBetween id (some measuredAt) (some since) =
          seconds (since - measuredAt) from rfl]
        split <;> simp [Charge.litres]

theorem keepRate_kept (invalid : Bool) (since : Option Time) :
    (acc.keepRate o invalid since).litres = acc.litres ∧
      (acc.keepRate o invalid since).nominalCycleS = acc.nominalCycleS ∧
      (acc.keepRate o invalid since).mafCadenceS = acc.mafCadenceS ∧
      (acc.keepRate o invalid since).requireTiming = acc.requireTiming := by
  unfold keepRate
  split
  · split <;> exact ⟨rfl, rfl, rfl, rfl⟩
  · exact ⟨rfl, rfl, rfl, rfl⟩

def charged : EstimatedFuelAccumulator :=
  if acc.timed o then
    if acc.timedInvalid o || !(acc.contiguous id o && acc.previousTimed ≠ some false) ||
        acc.effectiveInterval o ≤ 0 then acc.clearRate
    else acc.burnFrom id acc.previousEffectiveAt (acc.effectiveInterval o)
      (acc.mafCadenceS * (3 / 2))
  else if fuelInvalid o || !(acc.contiguous id o && acc.previousTimed ≠ some true) then
    acc.clearRate
  else acc.burnFrom id acc.previousAt (acc.interval id o) (acc.nominalCycleS * 3 * (3 / 2))

def nextEffectiveAt : Option Time :=
  if acc.timed o then if acc.reversed o then some o.capturedAt else acc.effectiveAt o
  else some o.capturedAt

def invalid : Bool := if acc.timed o then acc.timedInvalid o else fuelInvalid o

theorem observe_eq : acc.observe id o =
    { ((acc.charged o).keepRate o (acc.invalid o) (acc.nextEffectiveAt o)) with
      previousEffectiveAt := acc.nextEffectiveAt o
      previousTimed := some (acc.timed o)
      previousAt := some o.capturedAt
      previousSequence := o.sequence
      previousDrive := o.drive } := by
  unfold observe charged invalid nextEffectiveAt timed
  split
  · rename_i given
    rw [given]
    rfl
  · rename_i given
    rw [Bool.eq_false_iff.mpr given]
    rfl

theorem observe_kept : (acc.observe id o).nominalCycleS = acc.nominalCycleS ∧
    (acc.observe id o).mafCadenceS = acc.mafCadenceS ∧
    (acc.observe id o).requireTiming = acc.requireTiming := by
  rw [observe_eq]
  dsimp only
  rw [(keepRate_kept _ _ _ _).2.1, (keepRate_kept _ _ _ _).2.2.1, (keepRate_kept _ _ _ _).2.2.2]
  unfold charged
  split
  · split
    · exact ⟨rfl, rfl, rfl⟩
    · exact (burnFrom_kept _ _ _ _).2.2
  · split
    · exact ⟨rfl, rfl, rfl⟩
    · exact (burnFrom_kept _ _ _ _).2.2

theorem observe_litres :
    (acc.observe id o).litres = acc.litres + (acc.charge o).elim 0 Charge.litres := by
  rw [observe_eq]
  dsimp only
  rw [(keepRate_kept _ _ _ _).1]
  unfold charged charge
  split
  · split
    · simp [clearRate]
    · exact burnFrom_litres _ _ _ _
  · split
    · simp [clearRate]
    · exact burnFrom_litres _ _ _ _

theorem observe_rate : ∀ r ∈ (acc.observe id o).rate, fuelInvalid o = false ∧
    ((o.estimatedRate = some r ∧ (acc.observe id o).rateAt =
        responseTime o.capturedAt o.quality 0x10 acc.requireTiming ∧
        (acc.observe id o).rateAt.isSome) ∨
      (acc.contiguous id o = true ∧ acc.rate = some r ∧
        (acc.observe id o).rateAt = acc.rateAt)) := by
  intro r kept
  rw [observe_eq] at kept ⊢
  dsimp only at kept ⊢
  have old : ∀ r ∈ (acc.charged o).rate, fuelInvalid o = false ∧ acc.contiguous id o = true ∧
      acc.rate = some r ∧ (acc.charged o).rateAt = acc.rateAt := by
    intro r kept
    unfold charged at kept ⊢
    split at kept <;> rename_i kind
    · split at kept <;> rename_i refused
      · cases kept
      · rw [if_pos kind, if_neg refused]
        rw [(burnFrom_kept _ _ _ _).1] at kept
        simp only [timedInvalid, Bool.or_eq_true, Bool.not_eq_true', Bool.and_eq_false_iff,
          decide_eq_true_eq, not_or, Bool.not_eq_true, Bool.not_eq_false] at refused
        exact ⟨refused.1.1.1.1.1, refused.1.2.1, kept, (burnFrom_kept _ _ _ _).2.1⟩
    · split at kept <;> rename_i refused
      · cases kept
      · rw [if_neg kind, if_neg refused]
        rw [(burnFrom_kept _ _ _ _).1] at kept
        simp only [Bool.or_eq_true, Bool.not_eq_true', Bool.and_eq_false_iff,
          not_or, Bool.not_eq_true, Bool.not_eq_false] at refused
        exact ⟨refused.1, refused.2.1, kept, (burnFrom_kept _ _ _ _).2.1⟩
  unfold keepRate at kept ⊢
  cases given : o.estimatedRate with
  | none =>
    rw [given] at kept
    obtain ⟨valid, rest⟩ := old r kept
    exact ⟨valid, .inr rest⟩
  | some rate =>
    rw [given] at kept
    dsimp only at kept ⊢
    split at kept <;> rename_i refused
    · rw [if_pos refused]
      obtain ⟨valid, rest⟩ := old r kept
      exact ⟨valid, .inr rest⟩
    · rw [if_neg refused]
      obtain rfl := Option.some.inj kept
      unfold invalid at refused
      unfold nextEffectiveAt
      split at refused <;> rename_i kind
      · simp only [timedInvalid, Bool.or_eq_true, not_or, Bool.not_eq_true] at refused
        rw [if_pos kind, if_neg (by simp [refused.2]), effectiveAt, given]
        have known := refused.1.2
        rw [effectiveAt, given] at known
        exact ⟨refused.1.1.1, .inl ⟨rfl, rfl, by simpa using known⟩⟩
      · rw [if_neg kind]
        simp only [timed, Bool.or_eq_true, not_or, Bool.not_eq_true] at kind
        have untimed : responseTime o.capturedAt o.quality 0x10 acc.requireTiming =
            some o.capturedAt := by
          unfold responseTime
          have none := kind.1
          unfold hasResponseTimes at none
          split
          · rename_i fields same
            rw [same] at none
            simp only [decide_eq_false_iff_not] at none
            rw [if_neg none, if_neg (by simp [kind.2])]
          · rw [if_neg (by simp [kind.2])]
        exact ⟨by simpa using refused, .inl ⟨rfl, untimed.symm, rfl⟩⟩

theorem burnt_spec {since now : Option Time} {hold : ℚ} {c : Charge}
    (given : acc.burnt since (secondsBetween id since now) hold = some c) :
    acc.rate = some c.rate ∧ acc.rateAt = some c.measuredAt ∧ since = some c.since ∧
      0 < c.covered ∧ c.span.2 ≤ seconds c.measuredAt + hold ∧
      ∃ t, now = some t ∧ c.span.2 ≤ seconds t := by
  unfold burnt at given
  split at given
  · rename_i rate measuredAt since rated at_
    dsimp only at given
    split at given
    · rename_i positive
      obtain rfl := Option.some.inj given
      have interval := positive.trans_le (min_le_left _ _)
      obtain ⟨a, t, same, rfl, length⟩ := secondsBetween_pos interval
      obtain rfl := Option.some.inj same
      refine ⟨rated, at_, rfl, positive, ?_, t, rfl, ?_⟩
      · have held := positive.trans_le (min_le_right _ _)
        have left : max 0 (hold - seconds (since - measuredAt)) =
            hold - seconds (since - measuredAt) :=
          max_eq_right (le_of_lt ((lt_max_iff.mp held).resolve_left (lt_irrefl _)))
        have most := min_le_right (secondsBetween id (some since) (some t))
          (max 0 (hold - seconds (since - measuredAt)))
        rw [left, seconds_sub] at most
        dsimp only [Charge.span]
        rw [left, seconds_sub]
        linarith
      · have most := min_le_left (secondsBetween id (some since) (some t))
          (max 0 (hold - seconds (since - measuredAt)))
        dsimp only [Charge.span]
        linarith
    · cases given
  · cases given

theorem charge_spec {c : Charge} (given : acc.charge o = some c) :
    fuelInvalid o = false ∧ acc.contiguous id o = true ∧ acc.rate = some c.rate ∧
      acc.rateAt = some c.measuredAt ∧ 0 < c.covered ∧
      c.span.2 ≤ seconds c.measuredAt + acc.cadenceS o * (3 / 2) ∧
      (acc.previousEffectiveAt = some c.since ∨
        acc.previousTimed ≠ some true ∧ acc.previousAt = some c.since) ∧
      ∃ t, acc.nextEffectiveAt o = some t ∧ c.span.2 ≤ seconds t := by
  unfold charge at given
  unfold cadenceS nextEffectiveAt
  split at given <;> rename_i kind
  · split at given <;> rename_i refused
    · cases given
    · simp only [timedInvalid, Bool.or_eq_true, Bool.not_eq_true', Bool.and_eq_false_iff,
        decide_eq_true_eq, not_or, Bool.not_eq_true, Bool.not_eq_false] at refused
      obtain ⟨rate, at_, since, positive, held, rest⟩ := burnt_spec acc given
      rw [if_pos kind, if_pos kind, if_neg (by simp [refused.1.1.2])]
      exact ⟨refused.1.1.1.1.1, refused.1.2.1, rate, at_, positive, held, .inl since, rest⟩
  · split at given <;> rename_i refused
    · cases given
    · simp only [Bool.or_eq_true, Bool.not_eq_true', Bool.and_eq_false_iff, decide_eq_false_iff_not,
        not_or, Bool.not_eq_true, Bool.not_eq_false, not_not] at refused
      obtain ⟨rate, at_, since, positive, held, rest⟩ := burnt_spec acc given
      rw [if_neg kind, if_neg kind]
      exact ⟨refused.1, refused.2.1, rate, at_, positive, held, .inr ⟨refused.2.2, since⟩, rest⟩

theorem nextEffectiveAt_spec (later : ∀ t ∈ acc.previousEffectiveAt, t < o.capturedAt) :
    (acc.previousEffectiveAt.isSome → (acc.nextEffectiveAt o).isSome) ∧
      ∀ e ∈ acc.nextEffectiveAt o, (∀ t ∈ acc.previousEffectiveAt, t < e) ∧ e ≤ o.capturedAt ∧
        (e = o.capturedAt ∨
          responseTime o.capturedAt o.quality 0x10 acc.requireTiming = some e) := by
  unfold nextEffectiveAt
  split
  · cases back : acc.reversed o with
    | true =>
      refine ⟨fun _ => rfl, fun e same => ?_⟩
      obtain rfl := Option.some.inj same
      exact ⟨later, le_rfl, .inl rfl⟩
    | false =>
      simp only [Bool.false_eq_true, if_false]
      have forward (known : acc.previousEffectiveAt.isSome) : 0 < acc.effectiveInterval o := by
        simpa [reversed, known] using back
      refine ⟨fun known => ?_, fun e same => ⟨fun t before => ?_, ?_⟩⟩
      · obtain ⟨-, b, -, now, -⟩ := secondsBetween_pos (forward known)
        simp [now]
      · obtain ⟨a, b, earlier, now, length⟩ :=
          secondsBetween_pos (forward (Option.isSome_iff_exists.mpr ⟨t, before⟩))
        have ahead := forward (Option.isSome_iff_exists.mpr ⟨t, before⟩)
        rw [effectiveInterval, length] at ahead
        obtain rfl := Option.some.inj (earlier.symm.trans before)
        obtain rfl := Option.some.inj (now.symm.trans same)
        exact lt_of_not_ge fun order => absurd (seconds_le.mpr order) (by linarith)
      · rw [Option.mem_def, effectiveAt] at same
        cases given : o.estimatedRate with
        | none =>
          rw [given] at same
          obtain rfl := Option.some.inj same
          exact ⟨le_rfl, .inl rfl⟩
        | some rate =>
          rw [given] at same
          exact ⟨responseTime_le same, .inr same⟩
  · refine ⟨fun _ => rfl, fun e same => ?_⟩
    obtain rfl := Option.some.inj same
    exact ⟨later, le_rfl, .inl rfl⟩

end EstimatedFuelAccumulator

end DashcamStats.Obd
