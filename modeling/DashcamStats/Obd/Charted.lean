import DashcamStats.Obd.Moving

namespace DashcamStats.Obd

open Bundle

inductive Signal
  | vehicleSpeed | engineRpm | massAirFlow | engineLoad | coolantTemperature
  | intakeAirTemperature | throttlePosition | timingAdvance | shortTermFuelTrimBank1
  | longTermFuelTrimBank1 | oxygenSensor1Voltage | oxygenSensor2Voltage | adapterVoltage
  | estimatedFuelRate | estimatedFuelConsumption
  deriving DecidableEq

-- `SIGNALS`
def Signal.pid : Signal → Option ℕ
  | .vehicleSpeed => some 0x0D
  | .engineRpm => some 0x0C
  | .massAirFlow => some 0x10
  | .engineLoad => some 0x04
  | .coolantTemperature => some 0x05
  | .intakeAirTemperature => some 0x0F
  | .throttlePosition => some 0x11
  | .timingAdvance => some 0x0E
  | .shortTermFuelTrimBank1 => some 0x06
  | .longTermFuelTrimBank1 => some 0x07
  | .oxygenSensor1Voltage => some 0x14
  | .oxygenSensor2Voltage => some 0x15
  | .adapterVoltage => none
  | .estimatedFuelRate => some 0x10
  | .estimatedFuelConsumption => some 0x10

inductive SignalTimeBasis
  | replyCompletion | legacyRow | rowRecorded | unknown
  deriving DecidableEq

structure SeriesSample where
  -- `Date.parse(sample.t)`
  t : ℤ
  sequence : ℤ
  ecuDataStatus : String
  quality : Json
  value : Signal → Option ℚ

structure SignalObservation where
  observedAt : Option ℤ
  basis : SignalTimeBasis
  deriving DecidableEq

namespace SeriesSample

variable (s : SeriesSample)

def transportSafe : Bool :=
  s.ecuDataStatus ≠ "last_known" &&
    match s.quality with
    | .obj quality =>
      match itemOrNull quality "transport" with
      | .null => true
      | transport => transport.asString = some "ok"
    | _ => true

-- An own number of the map that is an integer of at most a minute
def ageOf (pid : ℕ) : Option ℤ :=
  match s.quality with
  | .obj quality =>
    match itemOrNull quality responseAgesKey with
    | .obj ages =>
      match itemOrNull ages (hex2 pid) with
      | .int age => if 0 ≤ age ∧ age ≤ 60000 then some age else none
      | .float age => if age.den = 1 ∧ 0 ≤ age ∧ age ≤ 60000 then some age.num else none
      | _ => none
    | _ => none
  | _ => none

-- Without the last test, which only `estimated_fuel_consumption` is put to
def directObservation (signal : Signal) (pollPlanVersion : ℤ) : SignalObservation :=
  if (s.value signal).isNone ∨ s.transportSafe = false then ⟨none, .unknown⟩
  else
    match signal.pid with
    | none => ⟨some s.t, .rowRecorded⟩
    | some pid =>
      if pidIsMissing s.quality pid then ⟨none, .unknown⟩
      else
        match s.quality with
        | .obj _ =>
          if hasResponseTimes s.quality then
            match s.ageOf pid with
            | some age => ⟨some (s.t - age), .replyCompletion⟩
            | none => ⟨none, .unknown⟩
          else if pollPlanVersion ≤ 7 then ⟨some s.t, .legacyRow⟩
          else ⟨none, .unknown⟩
        | .null =>
          if pollPlanVersion ≤ 7 then ⟨some s.t, .legacyRow⟩ else ⟨none, .unknown⟩
        | _ => ⟨none, .unknown⟩

def signalObservation (signal : Signal) (pollPlanVersion : ℤ) : SignalObservation :=
  let observation := s.directObservation signal pollPlanVersion
  if signal = .estimatedFuelConsumption ∧ observation.basis = .replyCompletion ∧
      (s.directObservation .vehicleSpeed pollPlanVersion).observedAt = none then
    ⟨none, .unknown⟩
  else observation

def isSafeInteger (n : ℤ) : Bool := n ≤ 2 ^ 53 - 1 && -(2 ^ 53 - 1) ≤ n

-- A sequence is always there, so the rows are never untimed for want of one.
def rowsContinuous (previous current : SeriesSample) (nominalCycleS : ℚ) : Bool :=
  let dt : ℚ := (current.t - previous.t : ℤ) / 1000
  0 < nominalCycleS && previous.transportSafe && current.transportSafe &&
    isSafeInteger previous.sequence && 0 ≤ previous.sequence &&
    isSafeInteger current.sequence && current.sequence = previous.sequence + 1 &&
    0 < dt && dt ≤ nominalCycleS * (3 / 2)

end SeriesSample

structure TimelineRow where
  elapsedS : Option ℚ
  breakBefore : Bool

section

variable (signal : Signal) (pollPlanVersion : ℤ) (nominalCycleS : ℚ) (origin : ℤ)

-- `lastKnown`, behind one more sample
def known (last : Option ℤ) (s : SeriesSample) : Option ℤ :=
  match (s.signalObservation signal pollPlanVersion).observedAt with
  | some now => if last.all (· < now) then some now else last
  | none => last

def timelineRow (last : Option ℤ) (previous : Option SeriesSample) (s : SeriesSample) :
    TimelineRow :=
  let now := (s.signalObservation signal pollPlanVersion).observedAt
  let monotonic := now.any fun now => last.all (· < now)
  { elapsedS := if monotonic then now.map fun now => ((now - origin : ℤ) : ℚ) / 1000 else none
    breakBefore := previous.all (fun previous => !previous.rowsContinuous s nominalCycleS) ||
      ((s.value signal).isSome && now.isNone) || (now.isSome && !monotonic) }

-- The timeline of a whole drive, without a window
def timelineFrom : Option ℤ → Option SeriesSample → List SeriesSample → List TimelineRow
  | _, _, [] => []
  | last, previous, s :: rest =>
    timelineRow signal pollPlanVersion nominalCycleS origin last previous s ::
      timelineFrom (known signal pollPlanVersion last s) (some s) rest

def buildSignalTimings (samples : List SeriesSample) : List TimelineRow :=
  timelineFrom signal pollPlanVersion nominalCycleS origin none none samples

end

-- `interval('vehicle_speed', index)` where both speeds are there
def speedInterval (nominalCycleS cadenceS : ℚ) (samples : List SeriesSample)
    (timeline : List TimelineRow) (index : ℕ) : Option ℚ :=
  match index with
  | 0 => none
  | index + 1 =>
    match samples[index]?, samples[index + 1]?, timeline[index]?, timeline[index + 1]? with
    | some previous, some sample, some before, some row =>
      match row.elapsedS, before.elapsedS with
      | some current, some elapsed =>
        let dt := current - elapsed
        if row.breakBefore = false ∧ previous.rowsContinuous sample nominalCycleS ∧ 0 < dt ∧
            dt ≤ cadenceS * (3 / 2) ∧ (sample.value .vehicleSpeed).isSome ∧
            (previous.value .vehicleSpeed).isSome then
          some dt
        else none
      | _, _ => none
    | _, _, _, _ => none

-- The row that the server has of a sample
def SeriesSample.observation (drive : String) (s : SeriesSample) : Observation where
  drive := some drive
  sequence := some s.sequence
  capturedAt := 1000 * s.t
  speed := s.value .vehicleSpeed
  rpm := s.value .engineRpm
  estimatedRate := s.value .estimatedFuelRate
  status := some s.ecuDataStatus
  quality := s.quality

-- The interval that `observe` counts at a row, after those before it
def countedInterval (cycleS : ℚ) (requireTiming : Bool) (rows : List Observation) (index : ℕ) :
    Option ℚ :=
  rows[index]?.bind fun o =>
    (((unmoved cycleS requireTiming).observeAll (rows.take index)).stretch o).map fun stretch =>
      seconds (stretch.span.2 - stretch.span.1)

/-- What `_validate_sample` asks of the fields that are read here. -/
structure Accepted (s : SeriesSample) : Prop where
  status : s.ecuDataStatus = "live" ∨ s.ecuDataStatus = "last_known"
  sequence : 0 ≤ s.sequence
  quality : ∃ fields, s.quality = .obj fields ∧
    (∃ transport, fields.lookup "transport" = some (.str transport)) ∧
    ∀ ages, fields.lookup responseAgesKey = some ages → ∃ entries, ages = .obj entries ∧
      ∀ name age, entries.lookup name = some age → ∃ n : ℤ, age = .int n ∧ 0 ≤ n ∧ n ≤ 60000

namespace SeriesSample

variable {s : SeriesSample}

theorem transportSafe_eq (accepted : Accepted s) :
    s.transportSafe = rowIsLive (some s.ecuDataStatus) s.quality := by
  obtain ⟨fields, quality, ⟨transport, carried⟩, -⟩ := accepted.quality
  have safe : (s.ecuDataStatus ≠ "last_known" : Bool) =
      (some s.ecuDataStatus = some "live" : Bool) := by
    obtain live | last := accepted.status
    · simp [live]
    · simp [last]
  simp only [transportSafe, rowIsLive, quality, safe, transportIsOk, itemOrNull, carried,
    Option.getD_some, Option.all_some]

theorem ageOf_eq (accepted : Accepted s) {fields : Members} (quality : s.quality = .obj fields)
    (pid : ℕ) :
    s.ageOf pid = responseAge (itemOrNull fields responseAgesKey) pid := by
  obtain ⟨fields', quality', -, typed⟩ := accepted.quality
  obtain rfl : fields = fields' := by simpa [quality] using quality'
  cases carried : fields.lookup responseAgesKey with
  | none =>
    simp [ageOf, quality, responseAge, itemOrNull, carried]
  | some ages =>
    obtain ⟨entries, rfl, integers⟩ := typed ages carried
    simp only [ageOf, quality, responseAge, itemOrNull, carried, Option.getD_some]
    cases named : entries.lookup (hex2 pid) with
    | none => rfl
    | some age =>
      obtain ⟨n, rfl, -⟩ := integers _ _ named
      rfl

-- The age that the server reads, where the row tells it of the PID
def toldAge (s : SeriesSample) (signal : Signal) (pid : ℕ) : Option ℤ :=
  match s.quality with
  | .obj fields =>
    if (s.value signal).isSome ∧ rowIsLive (some s.ecuDataStatus) s.quality = true ∧
        pidIsMissing s.quality pid = false then
      responseAge (itemOrNull fields responseAgesKey) pid
    else none
  | _ => none

theorem observation_of_explicit (accepted : Accepted s) {signal : Signal} {pid : ℕ}
    (direct : signal ≠ .estimatedFuelConsumption) (read : signal.pid = some pid)
    (explicit : hasResponseTimes s.quality = true) (version : ℤ) :
    s.signalObservation signal version = (s.toldAge signal pid).elim ⟨none, .unknown⟩ fun age =>
      ⟨some (s.t - age), .replyCompletion⟩ := by
  obtain ⟨fields, quality, -, -⟩ := accepted.quality
  have whole : s.signalObservation signal version = s.directObservation signal version := by
    simp [signalObservation, direct]
  have age := ageOf_eq accepted quality pid
  rw [whole, directObservation, transportSafe_eq accepted, read]
  dsimp only
  rw [explicit, age]
  simp only [toldAge, quality]
  cases (s.value signal) with
  | none => simp
  | some value =>
    cases rowIsLive (some s.ecuDataStatus) (.obj fields) with
    | false => simp
    | true =>
      cases pidIsMissing (.obj fields) pid with
      | true => simp
      | false =>
        cases responseAge (itemOrNull fields responseAgesKey) pid <;> simp

theorem unexplicit_basis (signal : Signal) (untimed : hasResponseTimes s.quality = false)
    (version : ℤ) : (s.signalObservation signal version).basis ≠ .replyCompletion := by
  have direct : (s.directObservation signal version).basis ≠ .replyCompletion := by
    simp only [directObservation, untimed, Bool.false_eq_true, ↓reduceIte]
    repeat' split
    all_goals simp
  unfold signalObservation
  dsimp only
  split_ifs
  · simp
  · exact direct

/-- A time of the reply, exactly when the server has one, and then the same. -/
theorem reply_iff (accepted : Accepted s) {signal : Signal} {pid : ℕ}
    (direct : signal ≠ .estimatedFuelConsumption) (read : signal.pid = some pid)
    (present : (s.value signal).isSome) (version : ℤ) (requireTiming : Bool) (t : ℤ) :
    s.signalObservation signal version = ⟨some t, .replyCompletion⟩ ↔
      hasResponseTimes s.quality = true ∧
      rowIsLive (some s.ecuDataStatus) s.quality = true ∧ pidIsMissing s.quality pid = false ∧
      responseTime (1000 * s.t) s.quality pid requireTiming = some (1000 * t) := by
  obtain ⟨fields, quality, -, -⟩ := accepted.quality
  cases explicit : hasResponseTimes s.quality with
  | false =>
    refine iff_of_false (fun equal => unexplicit_basis signal explicit version ?_) (by simp)
    rw [equal]
  | true =>
    rw [observation_of_explicit accepted direct read explicit]
    have named : responseAgesKey ∈ memberNames fields := by
      simpa [hasResponseTimes, quality] using explicit
    simp only [toldAge, quality, present, responseTime, named, true_and, ↓reduceIte]
    by_cases told : rowIsLive (some s.ecuDataStatus) (.obj fields) = true ∧
        pidIsMissing (.obj fields) pid = false
    · rw [if_pos told]
      cases responseAge (itemOrNull fields responseAgesKey) pid with
      | none => simp
      | some age =>
        simp only [Option.elim_some, SignalObservation.mk.injEq, Option.some.injEq, and_true,
          told, Option.map_some, true_and]
        constructor <;> intro equal <;> linarith
    · rw [if_neg told]
      simp only [Option.elim_none]
      refine iff_of_false (by simp) fun ⟨live, missing, _⟩ => told ⟨live, missing⟩

-- When the speed was read, where that is known
def reply (version : ℤ) (s : SeriesSample) : Option ℤ :=
  (s.signalObservation .vehicleSpeed version).observedAt

theorem reply_eq (accepted : Accepted s) (explicit : hasResponseTimes s.quality = true)
    (version : ℤ) (requireTiming : Bool) (drive : String) :
    (motionRow requireTiming (s.observation drive)).speedAt =
      (s.reply version).map fun t => 1000 * t := by
  obtain ⟨fields, quality, -, -⟩ := accepted.quality
  have named : responseAgesKey ∈ memberNames fields := by
    simpa [hasResponseTimes, quality] using explicit
  rw [reply, observation_of_explicit accepted (by decide) rfl explicit]
  rw [quality] at explicit
  simp only [motionRow, observation, quality, explicit, Bool.true_or, Bool.true_and, Bool.not_true,
    Bool.or_false, toldAge, responseTime, named, ↓reduceIte]
  cases (s.value .vehicleSpeed) with
  | none => simp
  | some value =>
    cases rowIsLive (some s.ecuDataStatus) (.obj fields) with
    | false => simp
    | true =>
      cases pidIsMissing (.obj fields) 0x0D with
      | true => simp
      | false =>
        cases responseAge (itemOrNull fields responseAgesKey) 0x0D with
        | none => simp
        | some age => simp [mul_sub]

theorem live_of_reply {version u : ℤ} (replied : s.reply version = some u) :
    s.transportSafe = true ∧ (s.value .vehicleSpeed).isSome := by
  have kept : ¬((s.value .vehicleSpeed).isNone = true ∨ s.transportSafe = false) := by
    intro bad
    simp only [reply, signalObservation, directObservation, if_pos bad] at replied
    simp at replied
  rw [not_or] at kept
  exact ⟨by simpa using kept.2, by simpa [Option.isSome_iff_ne_none] using kept.1⟩

end SeriesSample

open SeriesSample

section

variable (cycleS : ℚ) (version : ℤ) (requireTiming : Bool) (drive : String) (origin : ℤ)

/-- The interval between the replies of two rows that follow each other, where the rows and the
replies are close enough. -/
def replyInterval (previous sample : SeriesSample) : Option ℚ :=
  match previous.reply version, sample.reply version with
  | some u, some w =>
    if sample.sequence = previous.sequence + 1 ∧
        (0 < ((sample.t - previous.t : ℤ) : ℚ) / 1000 ∧
          ((sample.t - previous.t : ℤ) : ℚ) / 1000 ≤ cycleS * (3 / 2)) ∧
        0 < ((w - u : ℤ) : ℚ) / 1000 ∧ ((w - u : ℤ) : ℚ) / 1000 ≤ cycleS * (3 / 2) then
      some (((w - u : ℤ) : ℚ) / 1000)
    else none
  | _, _ => none

/-- Every reply before is earlier than the reply of the row, and the sequence is a safe integer. -/
def Leads (before : List SeriesSample) (previous sample : SeriesSample) : Prop :=
  (∀ earlier ∈ before, ∀ t ∈ earlier.reply version, ∀ u ∈ previous.reply version, t < u) ∧
    isSafeInteger sample.sequence = true

theorem known_all (before : List SeriesSample) (last : Option ℤ) (u : ℤ) :
    ((before.foldl (known .vehicleSpeed version) last).all (· < u) = true) ↔
      last.all (· < u) = true ∧ ∀ earlier ∈ before, ∀ t ∈ earlier.reply version, t < u := by
  induction before generalizing last with
  | nil => simp
  | cons s rest ih =>
    rw [List.foldl_cons, ih, List.forall_mem_cons, ← and_assoc]
    refine and_congr_left fun _ => ?_
    unfold known reply
    cases (s.signalObservation .vehicleSpeed version).observedAt with
    | none => simp
    | some now =>
      cases last with
      | none => simp
      | some l =>
        by_cases later : l < now <;> simp [later] <;> omega

theorem timelineFrom_get (last : Option ℤ) (previous : Option SeriesSample)
    (samples : List SeriesSample) (i : ℕ) :
    (timelineFrom .vehicleSpeed version cycleS origin last previous samples)[i]? =
      samples[i]?.map (timelineRow .vehicleSpeed version cycleS origin
        ((samples.take i).foldl (known .vehicleSpeed version) last)
        (if i = 0 then previous else samples[i - 1]?)) := by
  induction samples generalizing last previous i with
  | nil => simp [timelineFrom]
  | cons s rest ih =>
    cases i with
    | zero => simp [timelineFrom]
    | succ i =>
      rw [timelineFrom, List.getElem?_cons_succ, ih]
      cases i <;> simp

theorem rowsContinuous_iff {previous sample : SeriesSample} {u w : ℤ}
    (accepted : Accepted previous) (first : previous.reply version = some u)
    (second : sample.reply version = some w) :
    previous.rowsContinuous sample cycleS = true ↔
      isSafeInteger sample.sequence = true ∧ sample.sequence = previous.sequence + 1 ∧
      0 < ((sample.t - previous.t : ℤ) : ℚ) / 1000 ∧
      ((sample.t - previous.t : ℤ) : ℚ) / 1000 ≤ cycleS * (3 / 2) := by
  have started := accepted.sequence
  simp only [rowsContinuous, (live_of_reply first).1, (live_of_reply second).1, Bool.and_true,
    Bool.and_eq_true, decide_eq_true_eq]
  constructor
  · rintro ⟨⟨⟨⟨⟨⟨-, -⟩, -⟩, safe⟩, next⟩, later⟩, near⟩
    exact ⟨safe, next, later, near⟩
  · rintro ⟨safe, next, later, near⟩
    have positive : 0 < cycleS := by linarith
    have safeBefore : isSafeInteger previous.sequence = true := by
      simp only [isSafeInteger, Bool.and_eq_true, decide_eq_true_eq] at safe ⊢
      omega
    exact ⟨⟨⟨⟨⟨⟨positive, safeBefore⟩, started⟩, safe⟩, next⟩, later⟩, near⟩

-- The browser counts an interval when the reply before it leads all that came earlier.
theorem speedInterval_eq_some {samples : List SeriesSample} {k : ℕ}
    {previous sample : SeriesSample} (accepted : Accepted previous)
    (before : samples[k]? = some previous) (here : samples[k + 1]? = some sample) (d : ℚ) :
    speedInterval cycleS cycleS samples
      (buildSignalTimings .vehicleSpeed version cycleS origin samples) (k + 1) = some d ↔
      Leads version (samples.take k) previous sample ∧
        replyInterval cycleS version previous sample = some d := by
  have first := timelineFrom_get cycleS version origin none none samples k
  have second := timelineFrom_get cycleS version origin none none samples (k + 1)
  have grown : samples.take (k + 1) = samples.take k ++ [previous] := by
    rw [List.take_add_one, before]
    rfl
  rw [before, Option.map_some] at first
  rw [here, Option.map_some, if_neg (Nat.succ_ne_zero k), Nat.add_sub_cancel, before, grown,
    List.foldl_append, List.foldl_cons, List.foldl_nil] at second
  have leads (u : ℤ) := known_all version (samples.take k) none u
  simp only [Option.all_none, true_and] at leads
  simp only [speedInterval, buildSignalTimings, before, here, first, second]
  generalize (samples.take k).foldl (known .vehicleSpeed version) none = last at leads ⊢
  cases replied : previous.reply version with
  | none =>
    have untimed : (previous.signalObservation .vehicleSpeed version).observedAt = none := replied
    simp [timelineRow, untimed, replyInterval, replied]
  | some u =>
    have timed : (previous.signalObservation .vehicleSpeed version).observedAt = some u := replied
    by_cases lead : last.all (· < u) = true
    · cases answered : sample.reply version with
      | none =>
        have untimed : (sample.signalObservation .vehicleSpeed version).observedAt = none :=
          answered
        simp [timelineRow, untimed, replyInterval, answered]
      | some w =>
        have now : (sample.signalObservation .vehicleSpeed version).observedAt = some w := answered
        have continuous := rowsContinuous_iff cycleS version accepted replied answered
        have led : Leads version (samples.take k) previous sample ↔
            isSafeInteger sample.sequence = true := by
          refine ⟨fun led => led.2, fun safe => ⟨fun earlier member t told v given => ?_, safe⟩⟩
          obtain rfl : u = v := Option.some.inj (replied.symm.trans given)
          exact (leads u).mp lead earlier member t told
        have next : known .vehicleSpeed version last previous = some u := by
          simp [known, timed, lead]
        have length : ((w - origin : ℤ) : ℚ) / 1000 - ((u - origin : ℤ) : ℚ) / 1000 =
            ((w - u : ℤ) : ℚ) / 1000 := by
          push_cast
          ring
        have positive : 0 < ((w - u : ℤ) : ℚ) / 1000 ↔ u < w := by
          rw [div_pos_iff_of_pos_right (by norm_num), Int.cast_pos, sub_pos]
        rw [led]
        simp only [timelineRow, timed, now, next, lead, Option.any_some, Option.all_some,
          Option.map_some, ↓reduceIte, replyInterval, replied, answered, positive,
          (live_of_reply replied).2, (live_of_reply answered).2]
        by_cases later : u < w
        · simp only [later, decide_true, ↓reduceIte, length, positive, Option.isNone_some,
            Option.isSome_some, Bool.and_false, Bool.not_true, Bool.or_false, Bool.not_eq_false',
            continuous, true_and, and_true]
          cases isSafeInteger sample.sequence <;> grind
        · simp [later]
    · have behind : ¬ Leads version (samples.take k) previous sample := fun led =>
        lead ((leads u).mpr fun earlier member t told => led.1 earlier member t told u replied)
      simp only [timelineRow, timed, Option.any_some, lead, Bool.false_eq_true, ↓reduceIte]
      refine iff_of_false ?_ fun both => behind both.1
      split <;> simp_all

theorem observeAll_append (rows : List Observation) (o : Observation) :
    ((unmoved cycleS requireTiming).observeAll (rows ++ [o])).cycleS = cycleS ∧
    ((unmoved cycleS requireTiming).observeAll (rows ++ [o])).requireTiming = requireTiming ∧
    ((unmoved cycleS requireTiming).observeAll (rows ++ [o])).previous =
      some (motionRow requireTiming o) := by
  have kept : ((unmoved cycleS requireTiming).observeAll rows).cycleS = cycleS ∧
      ((unmoved cycleS requireTiming).observeAll rows).requireTiming = requireTiming := by
    induction rows using List.reverseRecOn with
    | nil => exact ⟨rfl, rfl⟩
    | append_singleton rows o ih =>
      rw [MotionAccumulator.observeAll, List.foldl_append]
      have same := MotionAccumulator.observe_kept
        ((unmoved cycleS requireTiming).observeAll rows) o
      exact ⟨same.1.trans ih.1, same.2.trans ih.2⟩
  have step : (unmoved cycleS requireTiming).observeAll (rows ++ [o]) =
      ((unmoved cycleS requireTiming).observeAll rows).observe id o := by
    simp [MotionAccumulator.observeAll]
  have same := MotionAccumulator.observe_kept ((unmoved cycleS requireTiming).observeAll rows) o
  rw [step, MotionAccumulator.observe_previous, kept.2]
  exact ⟨same.1.trans kept.1, same.2.trans kept.2, rfl⟩

theorem totalSeconds_ms (a b : ℤ) :
    totalSeconds id (1000 * a - 1000 * b) = ((a - b : ℤ) : ℚ) / 1000 := by
  simp only [totalSeconds, id]
  push_cast
  ring

theorem continuousRows_iff {previous sample : SeriesSample} {u w : ℤ}
    (accepted : Accepted previous ∧ Accepted sample)
    (explicit : hasResponseTimes previous.quality = true ∧ hasResponseTimes sample.quality = true)
    (first : previous.reply version = some u) (second : sample.reply version = some w) :
    continuousRows id cycleS (motionRow requireTiming (previous.observation drive))
      (motionRow requireTiming (sample.observation drive)) = true ↔
      sample.sequence = previous.sequence + 1 ∧
      0 < ((sample.t - previous.t : ℤ) : ℚ) / 1000 ∧
      ((sample.t - previous.t : ℤ) : ℚ) / 1000 ≤ cycleS * (3 / 2) := by
  have live := transportSafe_eq accepted.1
  have live' := transportSafe_eq accepted.2
  rw [(live_of_reply first).1] at live
  rw [(live_of_reply second).1] at live'
  simp [continuousRows, motionRow, observation, explicit, ← live, ← live', totalSeconds_ms,
    and_assoc]

-- The server, which looks at the row before only
theorem countedInterval_eq {samples : List SeriesSample} {k : ℕ} {previous sample : SeriesSample}
    (accepted : ∀ s ∈ samples, Accepted s)
    (explicit : ∀ s ∈ samples, hasResponseTimes s.quality = true)
    (before : samples[k]? = some previous) (here : samples[k + 1]? = some sample) :
    countedInterval cycleS requireTiming (samples.map (observation drive)) (k + 1) =
      replyInterval cycleS version previous sample := by
  have previousMember := List.mem_of_getElem? before
  have sampleMember := List.mem_of_getElem? here
  have grown : (samples.map (observation drive)).take (k + 1) =
      (samples.take k).map (observation drive) ++ [previous.observation drive] := by
    rw [← List.map_take, List.take_add_one, before, List.map_append]
    rfl
  obtain ⟨cycle, timing, kept⟩ := observeAll_append cycleS requireTiming
    ((samples.take k).map (observation drive)) (previous.observation drive)
  have first := reply_eq (accepted _ previousMember) (explicit _ previousMember) version
    requireTiming drive
  have second := reply_eq (accepted _ sampleMember) (explicit _ sampleMember) version
    requireTiming drive
  rw [countedInterval, List.getElem?_map, here, Option.map_some, Option.bind_some, grown]
  simp only [MotionAccumulator.stretch, MotionAccumulator.joined, cycle, timing, kept,
    Option.bind_some, joins, first, second, replyInterval]
  cases replied : previous.reply version with
  | none => simp
  | some u =>
    cases answered : sample.reply version with
    | none => simp
    | some w =>
      have previousAccepted := accepted _ previousMember
      have sampleAccepted := accepted _ sampleMember
      have timed : (motionRow requireTiming (sample.observation drive)).timed = true := by
        simp [motionRow, observation, explicit _ sampleMember]
      obtain ⟨value, speed⟩ := Option.isSome_iff_exists.mp (live_of_reply replied).2
      obtain ⟨value', speed'⟩ := Option.isSome_iff_exists.mp (live_of_reply answered).2
      have moved : (motionRow requireTiming (previous.observation drive)).speed = some value :=
        speed
      have moved' : (sample.observation drive).speed = some value' := speed'
      have continuous := continuousRows_iff cycleS version requireTiming drive
        ⟨previousAccepted, sampleAccepted⟩
        ⟨explicit _ previousMember, explicit _ sampleMember⟩ replied answered
      simp only [Option.map_some, totalSeconds_ms, timed, ↓reduceIte, continuous, moved, moved']
      split_ifs with both both' both'
      · simp only [Option.map_some, seconds, totalSeconds_ms]
      · exact absurd ⟨both.1.1, both.1.2, both.2⟩ both'
      · exact absurd ⟨⟨both'.1, both'.2.1⟩, both'.2.2⟩ both
      · rfl

end

-- A row whose speed was answered `age` before it
def answered (sequence t age : ℤ) : SeriesSample where
  t := t
  sequence := sequence
  ecuDataStatus := "live"
  quality := .obj [("transport", .str "ok"), ("parser", .str "ok"), ("missing_pids", .arr []),
    (responseAgesKey, .obj [("0D", .int age)])]
  value
    | .vehicleSpeed => some 30
    | _ => none

theorem answered_accepted {sequence t age : ℤ} (started : 0 ≤ sequence)
    (bounds : 0 ≤ age ∧ age ≤ 60000) : Accepted (answered sequence t age) where
  status := .inl rfl
  sequence := started
  quality := by
    refine ⟨_, rfl, ⟨"ok", rfl⟩, fun ages carried => ?_⟩
    obtain rfl := Option.some.inj carried
    refine ⟨_, rfl, fun name value named => ⟨age, ?_, bounds⟩⟩
    rw [List.lookup_cons] at named
    split at named
    · exact (Option.some.inj named).symm
    · exact nomatch named

-- Replies at the seconds 10, 8 and 9
def outOfOrder : List SeriesSample :=
  [answered 1 10000 0, answered 2 12000 4000, answered 3 14000 5000]

theorem outOfOrder_accepted : ∀ s ∈ outOfOrder, Accepted s := by
  intro s member
  simp only [outOfOrder, List.mem_cons, List.not_mem_nil, or_false] at member
  obtain rfl | rfl | rfl := member <;> exact answered_accepted (by decide) (by decide)

end DashcamStats.Obd
