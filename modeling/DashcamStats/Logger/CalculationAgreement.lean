import DashcamStats.Logger.DriveCalculations

namespace DashcamStats.Logger

open Bundle

def Row.observation (row : Row) : Obd.Observation where
  drive := some row.drive
  sequence := some row.sequence
  capturedAt := 1000 * row.rowAt
  speed := row.speed
  rpm := row.rpm
  estimatedRate := row.estimatedRate
  status := some row.status
  quality := .obj row.quality

def Row.fuelRow (row : Row) : FuelRow where
  driveId := row.drive
  sequence := row.sequence
  capturedAt := row.rowAt
  estimatedRate := row.estimatedRate
  invalid := Obd.fuelInvalid row.observation ||
    (Obd.hasResponseTimes (.obj row.quality) && !Obd.hasAgeMap (.obj row.quality))
  responseAgeMillis := Obd.responseAge (itemOrNull row.quality Obd.responseAgesKey) 0x10
  timed := Obd.hasResponseTimes (.obj row.quality)

def micros (time : Option ℤ) : Option Time := time.map (1000 * ·)

@[simp] theorem micros_none : micros none = none := rfl

@[simp] theorem micros_some (time : ℤ) : micros (some time) = some (1000 * time) := rfl

@[simp] theorem isNone_micros (time : Option ℤ) : (micros time).isNone = time.isNone := by
  cases time <;> rfl

@[simp] theorem isSome_micros (time : Option ℤ) : (micros time).isSome = time.isSome := by
  cases time <;> rfl

theorem transportOk_eq (quality : Members) : transportOk quality = Obd.transportIsOk quality := by
  unfold transportOk Obd.transportIsOk
  cases quality.lookup "transport" with
  | none => rfl
  | some transport => cases transport <;> simp [Json.asString]

theorem hasResponseAges_eq (quality : Members) :
    hasResponseAges quality = Obd.hasResponseTimes (.obj quality) := rfl

theorem isLive_eq (status : String) (quality : Members) :
    isLive status quality = Obd.rowIsLive (some status) (.obj quality) := by
  simp [isLive, Obd.rowIsLive, transportOk_eq]

theorem intValue_of_byte {pid : ℤ} (low : 0 ≤ pid) (high : pid < 256) : intValue pid = pid := by
  unfold intValue
  omega

theorem missingPid_eq (textInt : String → Option ℤ) (row : Row) (pid : ℕ) :
    missingPid textInt row.quality pid = Obd.pidIsMissing (.obj row.quality) pid := by
  have bytes := row.missing_bytes
  simp only [missingPid, Obd.pidIsMissing]
  cases listed : itemOrNull row.quality "missing_pids" with
  | arr missing =>
    -- Every entry is a byte, which `optInt` reads as it is.
    rw [Bool.eq_iff_iff, List.any_eq_true, List.any_eq_true]
    apply exists_congr
    intro entry
    apply and_congr_right
    intro member
    obtain ⟨other, rfl, low, high⟩ := bytes missing listed entry member
    simp only [optInt, intValue_of_byte low high, Json.asNumber, decide_eq_true_eq,
      Option.some.injEq]
    norm_cast
  | _ => simp

theorem obdResponseAgeMillis_eq (quality : Members) (pid : ℕ) :
    obdResponseAgeMillis quality pid =
      Obd.responseAge (itemOrNull quality Obd.responseAgesKey) pid := rfl

theorem micros_obdResponseTime (rowAt : ℤ) (quality : Members) (pid : ℕ) (requireTiming : Bool) :
    micros (obdResponseTime rowAt quality pid requireTiming) =
      Obd.responseTime (1000 * rowAt) (.obj quality) pid requireTiming := by
  unfold obdResponseTime Obd.responseTime
  rw [obdResponseAgeMillis_eq]
  by_cases timed : Obd.responseAgesKey ∈ memberNames quality
  · have present : pidResponseAgesKey ∈ memberNames quality := timed
    simp only [present, timed, not_true_eq_false, ↓reduceIte]
    cases Obd.responseAge (itemOrNull quality Obd.responseAgesKey) pid with
    | none => rfl
    | some age => simp [micros, mul_sub]
  · have absent : pidResponseAgesKey ∉ memberNames quality := timed
    cases requireTiming <;> simp [absent, timed]

theorem secondsBetween_eq (rnd : ℚ → ℚ) (before now : Option ℤ) :
    Obd.secondsBetween rnd (micros before) (micros now) = secondsBetween rnd before now := by
  cases before with
  | none => cases now <;> rfl
  | some before =>
    cases now with
    | none => rfl
    | some now =>
      have scaled : ((1000 * now - 1000 * before : ℤ) : ℚ) / 1000000 =
          ((now - before : ℤ) : ℚ) / 1000 := by
        push_cast
        ring
      simp only [Obd.secondsBetween, Obd.totalSeconds, secondsBetween, micros_some, scaled]

-- A non-negative sequence number follows another on a `Long` as it does on the integers.
theorem nextLong_iff {before sequence : ℤ} (low : 0 ≤ before) (high : before < 2 ^ 63)
    (nonneg : 0 ≤ sequence) (long : sequence < 2 ^ 63) :
    sequence = nextLong before ↔ sequence = before + 1 := by
  have half : (2 : ℤ) ^ 63 = 9223372036854775808 := by norm_num
  have whole : (2 : ℤ) ^ 64 = 18446744073709551616 := by norm_num
  unfold nextLong
  rw [half] at high long ⊢
  rw [whole]
  omega

def MotionObservation.server (observation : MotionObservation) : Obd.MotionRow where
  drive := some observation.drive
  sequence := some observation.sequence
  rowAt := 1000 * observation.rowAt
  speedAt := micros observation.speedAt
  speed := observation.speed
  rpm := observation.rpm
  timed := observation.timed
  live := observation.live

def MotionObservation.Counted (observation : MotionObservation) : Prop :=
  0 ≤ observation.sequence ∧ observation.sequence < 2 ^ 63

theorem motionObservation_counted (textInt : String → Option ℤ) (requireTiming : Bool)
    (row : Row) : (motionObservation textInt requireTiming row).Counted :=
  ⟨row.sequence_nonneg, row.sequence_long⟩

theorem motionObservation_server (textInt : String → Option ℤ) (requireTiming : Bool)
    (row : Row) : (motionObservation textInt requireTiming row).server =
      Obd.motionRow requireTiming row.observation := by
  have readAt (pid : ℕ) (asked : Bool) :
      micros (if asked then obdResponseTime row.rowAt row.quality pid requireTiming else none) =
        if asked then Obd.responseTime (1000 * row.rowAt) (.obj row.quality) pid requireTiming
        else none := by
    cases asked
    · rfl
    · exact micros_obdResponseTime _ _ _ _
  have keepUnless (dropped : Bool) (time : Option ℤ) :
      micros (if dropped then none else time) = if dropped then none else micros time := by
    cases dropped <;> rfl
  have unread : (if row.rpm.isSome then obdResponseTime row.rowAt row.quality 0x0C requireTiming
      else none).isNone = (if row.rpm.isSome then
        Obd.responseTime (1000 * row.rowAt) (.obj row.quality) 0x0C requireTiming
      else none).isNone := by
    rw [← readAt, isNone_micros]
  unfold motionObservation Obd.motionRow MotionObservation.server
  simp only [keepUnless, readAt, unread]
  simp only [hasResponseAges_eq, isLive_eq, missingPid_eq]
  rfl

theorem contiguousRows_eq (rnd : ℚ → ℚ) (cycle : ℚ) {first row : MotionObservation}
    (before : first.Counted) (now : row.Counted) :
    contiguousRows rnd cycle first row =
      Obd.continuousRows rnd cycle first.server row.server := by
  have gap := secondsBetween_eq rnd (some first.rowAt) (some row.rowAt)
  have follows := nextLong_iff before.1 before.2 now.1 now.2
  simp only [micros_some, Obd.secondsBetween] at gap
  simp only [contiguousRows, Obd.continuousRows, MotionObservation.server, gap, follows,
    Option.some.injEq, Option.map_some, Option.isSome_some, Bool.and_true]

namespace TimedMotionAccumulator

def server (acc : TimedMotionAccumulator) : Obd.MotionAccumulator where
  cycleS := acc.nominalCycleSeconds
  requireTiming := acc.requireTiming
  distanceKm := acc.distanceKm
  distanceIntervals := acc.distanceIntervals
  idleS := acc.idleSeconds
  idleEvidence := acc.idleEvidence
  previous := acc.previous.map MotionObservation.server

def Counted (acc : TimedMotionAccumulator) : Prop :=
  ∀ first, acc.previous = some first → first.Counted

variable (textInt : String → Option ℤ) (rnd : ℚ → ℚ) (acc : TimedMotionAccumulator)

theorem addDistance_server (first row : MotionObservation) (gap : ℚ) :
    (acc.addDistance rnd first row gap).server =
      acc.server.addDistance rnd first.server row.server gap := by
  unfold addDistance Obd.MotionAccumulator.addDistance
  simp only [MotionObservation.server]
  cases first.speed with
  | none => rfl
  | some before => cases row.speed <;> rfl

theorem addIdle_server (first : MotionObservation) (gap : ℚ) :
    (acc.addIdle rnd first gap).server = acc.server.addIdle rnd first.server gap := by
  unfold addIdle Obd.MotionAccumulator.addIdle
  simp only [MotionObservation.server]
  cases first.rpm with
  | none => rfl
  | some rpm => cases first.speed <;> rfl

theorem join_server {first row : MotionObservation} (before : first.Counted)
    (now : row.Counted) :
    (acc.join rnd row first).server = acc.server.join rnd row.server first.server := by
  have gap := secondsBetween_eq rnd first.speedAt row.speedAt
  have contiguous := contiguousRows_eq rnd acc.nominalCycleSeconds before now
  unfold join Obd.MotionAccumulator.join
  simp only [← addDistance_server, ← addIdle_server, apply_ite server, contiguous]
  simp only [MotionObservation.server, gap]
  rfl

theorem observe_server (counted : acc.Counted) (row : Row) :
    (acc.observe textInt rnd row).server = acc.server.observe rnd row.observation := by
  have now := motionObservation_counted textInt acc.requireTiming row
  have read := motionObservation_server textInt acc.requireTiming row
  unfold observe Obd.MotionAccumulator.observe
  cases held : acc.previous with
  | none => simp [server, held, read]
  | some first =>
    have joined := acc.join_server rnd (counted first held) now
    simp only [server, held, read, Option.elim_some, Option.map_some] at joined ⊢
    rw [← joined]

theorem observe_counted (row : Row) : (acc.observe textInt rnd row).Counted := by
  intro first held
  obtain rfl : motionObservation textInt acc.requireTiming row = first := by
    simpa [observe] using held
  exact motionObservation_counted textInt acc.requireTiming row

theorem foldl_server (counted : acc.Counted) (rows : List Row) :
    (rows.foldl (observe textInt rnd) acc).server =
      (rows.map Row.observation).foldl (Obd.MotionAccumulator.observe rnd) acc.server := by
  induction rows generalizing acc with
  | nil => rfl
  | cons row rows ih =>
    rw [List.foldl_cons, ih _ (acc.observe_counted textInt rnd row),
      acc.observe_server textInt rnd counted row, List.map_cons, List.foldl_cons]

end TimedMotionAccumulator

namespace EstimatedFuelAccumulator

def server (acc : EstimatedFuelAccumulator) : Obd.EstimatedFuelAccumulator where
  nominalCycleS := acc.nominalCycleSeconds
  mafCadenceS := acc.nominalMafSeconds
  requireTiming := acc.requireTiming
  litres := acc.litres
  hasEvidence := acc.hasEvidence
  previousAt := micros acc.previousAt
  previousSequence := acc.previousSequence
  previousDrive := acc.previousDriveId
  rateAt := micros acc.rateAt
  rate := acc.rate
  previousEffectiveAt := micros acc.previousEffectiveAt
  previousTimed := acc.previousTimed

def Counted (acc : EstimatedFuelAccumulator) : Prop :=
  ∀ before, acc.previousSequence = some before → 0 ≤ before ∧ before < 2 ^ 63

variable (rnd : ℚ → ℚ) (acc : EstimatedFuelAccumulator) (row : Row)

theorem gap_eq : acc.server.interval rnd row.observation = acc.gap rnd row.fuelRow :=
  secondsBetween_eq rnd acc.previousAt (some row.rowAt)

theorem contiguous_eq (counted : acc.Counted) :
    acc.server.contiguous rnd row.observation = acc.contiguous rnd row.fuelRow := by
  have follows : (acc.previousSequence.isSome &&
      decide (some row.sequence = acc.previousSequence.map (· + 1))) =
        acc.previousSequence.any fun before => decide (row.sequence = nextLong before) := by
    cases held : acc.previousSequence with
    | none => rfl
    | some before =>
      have range := counted before held
      have next := nextLong_iff range.1 range.2 row.sequence_nonneg row.sequence_long
      simp [next]
  unfold Obd.EstimatedFuelAccumulator.contiguous contiguous
  rw [gap_eq]
  exact (Bool.and_assoc _ _ _).trans (congrArg _ follows)

theorem unusable_eq : acc.unusable row.fuelRow =
    (Obd.fuelInvalid row.observation ||
      ((Obd.hasResponseTimes (.obj row.quality) || acc.requireTiming) &&
        !Obd.hasAgeMap (.obj row.quality))) := by
  have unmapped (absent : Obd.hasResponseTimes (.obj row.quality) = false) :
      Obd.hasAgeMap (.obj row.quality) = false := by
    have missing : Obd.responseAgesKey ∉ memberNames row.quality := by
      simpa [Obd.hasResponseTimes] using absent
    simp [Obd.hasAgeMap, itemOrNull, lookup_eq_none missing]
  have negative : (Obd.fuelInvalid row.observation || row.estimatedRate.any (· < 0)) =
      Obd.fuelInvalid row.observation := by
    unfold Obd.fuelInvalid
    simp only [Row.observation, Bool.or_assoc, Bool.or_self]
  unfold unusable
  simp only [Row.fuelRow]
  rw [← negative]
  cases timed : Obd.hasResponseTimes (.obj row.quality) with
  | true => simp [Bool.or_comm, Bool.or_left_comm]
  | false =>
    simp [unmapped timed, Bool.or_comm, Bool.or_left_comm]

theorem responseAge_bounds {ages : Json} {pid : ℕ} {age : ℤ}
    (read : Obd.responseAge ages pid = some age) : 0 ≤ age ∧ age ≤ 60000 := by
  unfold Obd.responseAge at read
  split at read
  · split at read
    · split at read
      · rename_i range
        obtain rfl := Option.some.inj read
        exact range
      · cases read
    · cases read
  · cases read

theorem ageAt_eq (requireTiming : Bool)
    (timed : (Obd.hasResponseTimes (.obj row.quality) || requireTiming) = true) :
    micros ((row.fuelRow.responseAgeMillis.filter fun age => 0 ≤ age ∧ age ≤ 60000).map
        (row.rowAt - ·)) =
      Obd.responseTime (1000 * row.rowAt) (.obj row.quality) 0x10 requireTiming := by
  simp only [Row.fuelRow, Obd.responseTime]
  by_cases mapped : Obd.responseAgesKey ∈ memberNames row.quality
  · simp only [mapped, ↓reduceIte]
    cases read : Obd.responseAge (itemOrNull row.quality Obd.responseAgesKey) 0x10 with
    | none => rfl
    | some age => simp [micros, responseAge_bounds read, mul_sub]
  · have required : requireTiming = true := by
      simpa [Obd.hasResponseTimes, mapped] using timed
    simp [mapped, required, itemOrNull, lookup_eq_none mapped, Obd.responseAge]

@[simp] theorem server_rate : acc.server.rate = acc.rate := rfl

@[simp] theorem server_rateAt : acc.server.rateAt = micros acc.rateAt := rfl

theorem cover_server (drop : Bool) (since : Option ℤ) (gap hold : ℚ) :
    (acc.cover rnd drop since gap hold).server =
      if drop then acc.server.clearRate else acc.server.burnFrom rnd (micros since) gap hold := by
  cases drop with
  | true => rfl
  | false =>
    unfold cover Obd.EstimatedFuelAccumulator.burnFrom
    rw [server_rate, server_rateAt]
    cases held : acc.rate with
    | none => rfl
    | some rate =>
      cases since_when : acc.rateAt with
      | none => rfl
      | some rateAt =>
        have age := secondsBetween_eq rnd (some rateAt) since
        simp only [micros_some] at age
        simp only [micros_some, age, Obd.EstimatedFuelAccumulator.burn, max_comm (0 : ℚ),
          apply_ite server, Bool.false_eq_true, ↓reduceIte]
        simp only [server, held, since_when]

theorem keepRate_server (unusable : Bool) (since : Option ℤ) :
    (acc.keepRate row.fuelRow unusable since).server =
      acc.server.keepRate row.observation unusable (micros since) := by
  unfold keepRate Obd.EstimatedFuelAccumulator.keepRate
  simp only [Row.observation, Row.fuelRow]
  cases row.estimatedRate with
  | none => rfl
  | some rate => cases unusable <;> rfl

theorem observeTimed_server (counted : acc.Counted)
    (timed : (Obd.hasResponseTimes (.obj row.quality) || acc.requireTiming) = true) :
    (acc.observeTimed rnd row.fuelRow).server = acc.server.observeTimed rnd row.observation := by
  have unusable : acc.unusable row.fuelRow = (Obd.fuelInvalid row.observation ||
      !Obd.hasAgeMap row.observation.quality) := by
    rw [unusable_eq, timed, Bool.true_and]
    rfl
  unfold observeTimed Obd.EstimatedFuelAccumulator.observeTimed
  extract_lets effectiveAt contiguous effectiveGap reversed dropped settledAt covered left
    effectiveAt' contiguous' effectiveGap' reversed' dropped' settledAt' covered' left'
  have sameAt : effectiveAt' = micros effectiveAt := by
    have read := ageAt_eq row acc.requireTiming timed
    simp only [effectiveAt, effectiveAt', Row.observation, Row.fuelRow] at read ⊢
    cases row.estimatedRate with
    | none => rfl
    | some rate => exact read.symm
  have sameGap : effectiveGap' = effectiveGap := by
    simp only [effectiveGap', sameAt]
    exact secondsBetween_eq rnd acc.previousEffectiveAt effectiveAt
  have sameContiguous : contiguous' = contiguous := by
    simp only [contiguous', acc.contiguous_eq rnd row counted]
    rfl
  have sameReversed : reversed' = reversed := by
    simp only [reversed', sameGap, server, isSome_micros]
    rfl
  have sameDropped : dropped' = dropped := by
    simp only [dropped', dropped, sameReversed, sameAt, isNone_micros, unusable]
  have sameSettled : settledAt' = micros settledAt := by
    simp only [settledAt', settledAt, sameReversed, sameAt]
    cases reversed <;> rfl
  have sameCovered : covered' = covered.server := by
    simp only [covered', covered, cover_server, sameDropped, sameContiguous, sameGap]
    rfl
  have sameLeft : left' = left.server := by
    simp only [left', left, sameCovered, sameDropped, sameSettled, keepRate_server]
  simp only [sameLeft, sameSettled]
  rfl

theorem observeUntimed_server (counted : acc.Counted)
    (untimed : (Obd.hasResponseTimes (.obj row.quality) || acc.requireTiming) = false) :
    (acc.observeUntimed rnd row.fuelRow).server =
      acc.server.observeUntimed rnd row.observation := by
  have unusable : acc.unusable row.fuelRow = Obd.fuelInvalid row.observation := by
    rw [unusable_eq, untimed, Bool.false_and, Bool.or_false]
  unfold observeUntimed Obd.EstimatedFuelAccumulator.observeUntimed
  extract_lets contiguous dropped covered left contiguous' dropped' covered' left'
  have sameContiguous : contiguous' = contiguous := by
    simp only [contiguous', acc.contiguous_eq rnd row counted]
    rfl
  have sameDropped : dropped' = dropped := unusable.symm
  have sameCovered : covered' = covered.server := by
    simp only [covered', covered, cover_server, sameDropped, sameContiguous, gap_eq]
    rfl
  have sameLeft : left' = left.server := by
    simp only [left', left, sameCovered, sameDropped, keepRate_server]
    rfl
  simp only [sameLeft]
  rfl

theorem observe_server (counted : acc.Counted) :
    (acc.observe rnd row.fuelRow).server = acc.server.observe rnd row.observation := by
  unfold observe Obd.EstimatedFuelAccumulator.observe
  cases timed : Obd.hasResponseTimes (.obj row.quality) || acc.requireTiming with
  | true =>
    have sides := acc.observeTimed_server rnd row counted timed
    simpa [Row.fuelRow, Row.observation, server, timed] using sides
  | false =>
    have sides := acc.observeUntimed_server rnd row counted timed
    simpa [Row.fuelRow, Row.observation, server, timed] using sides

theorem observe_counted : (acc.observe rnd row.fuelRow).Counted := by
  have range := And.intro row.sequence_nonneg row.sequence_long
  intro before held
  unfold observe at held
  split at held
  · obtain rfl : row.sequence = before := Option.some.inj held
    exact range
  · obtain rfl : row.sequence = before := Option.some.inj held
    exact range

theorem foldl_server (counted : acc.Counted) (rows : List Row) :
    ((rows.map Row.fuelRow).foldl (observe rnd) acc).server =
      (rows.map Row.observation).foldl (Obd.EstimatedFuelAccumulator.observe rnd) acc.server := by
  induction rows generalizing acc with
  | nil => rfl
  | cons row rows ih =>
    rw [List.map_cons, List.foldl_cons, ih _ (acc.observe_counted rnd row),
      acc.observe_server rnd row counted, List.map_cons, List.foldl_cons]

end EstimatedFuelAccumulator

section Drives

variable (textInt : String → Option ℤ) (rnd : ℚ → ℚ) (cycle maf : ℚ) (requireTiming : Bool)
variable (rows : List Row)

def loggerMotion : TimedMotionAccumulator :=
  rows.foldl (TimedMotionAccumulator.observe textInt rnd)
    { nominalCycleSeconds := cycle, requireTiming }

def serverMotion : Obd.MotionAccumulator :=
  (rows.map Row.observation).foldl (Obd.MotionAccumulator.observe rnd)
    { cycleS := cycle, requireTiming }

def loggerFuel : EstimatedFuelAccumulator :=
  (rows.map Row.fuelRow).foldl (EstimatedFuelAccumulator.observe rnd)
    { nominalCycleSeconds := cycle, nominalMafSeconds := maf, requireTiming }

def serverFuel : Obd.EstimatedFuelAccumulator :=
  (rows.map Row.observation).foldl (Obd.EstimatedFuelAccumulator.observe rnd)
    { nominalCycleS := cycle, mafCadenceS := maf, requireTiming }

theorem motion_server : (loggerMotion textInt rnd cycle requireTiming rows).server =
    serverMotion rnd cycle requireTiming rows :=
  TimedMotionAccumulator.foldl_server textInt rnd _ (fun _ held => by cases held) rows

theorem fuel_server : (loggerFuel rnd cycle maf requireTiming rows).server =
    serverFuel rnd cycle maf requireTiming rows :=
  EstimatedFuelAccumulator.foldl_server rnd _ (fun _ held => by cases held) rows

structure Drive where
  distanceKm : ℚ
  distanceIntervals : ℕ
  idleS : ℚ
  idleEvidence : Bool
  litres : ℚ
  fuelEvidence : Bool
  deriving DecidableEq

def loggerDrive : Drive :=
  let motion := loggerMotion textInt rnd cycle requireTiming rows
  let fuel := loggerFuel rnd cycle maf requireTiming rows
  { distanceKm := motion.distanceKm
    distanceIntervals := motion.distanceIntervals
    idleS := motion.idleSeconds
    idleEvidence := motion.idleEvidence
    litres := fuel.litres
    fuelEvidence := fuel.hasEvidence }

def serverDrive : Drive :=
  let motion := serverMotion rnd cycle requireTiming rows
  let fuel := serverFuel rnd cycle maf requireTiming rows
  { distanceKm := motion.distanceKm
    distanceIntervals := motion.distanceIntervals
    idleS := motion.idleS
    idleEvidence := motion.idleEvidence
    litres := fuel.litres
    fuelEvidence := fuel.hasEvidence }

/-- Whatever the arithmetic, exact or rounded, the two report the same drive. -/
theorem drives_agree : loggerDrive textInt rnd cycle maf requireTiming rows =
    serverDrive rnd cycle maf requireTiming rows := by
  have motion := motion_server textInt rnd cycle requireTiming rows
  have fuel := fuel_server rnd cycle maf requireTiming rows
  simp only [loggerDrive, serverDrive, ← motion, ← fuel, TimedMotionAccumulator.server,
    EstimatedFuelAccumulator.server]

end Drives

end DashcamStats.Logger
