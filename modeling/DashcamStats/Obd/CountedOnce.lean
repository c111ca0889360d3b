import DashcamStats.Obd.Charged

namespace DashcamStats.Obd

open Bundle Spans

section

variable (nominalCycleS mafCadenceS : ℚ) (requireTiming : Bool) (rows : List Observation)

def unfuelled : EstimatedFuelAccumulator := { nominalCycleS, mafCadenceS, requireTiming }

def EstimatedFuelAccumulator.observeAll (acc : EstimatedFuelAccumulator)
    (rows : List Observation) : EstimatedFuelAccumulator :=
  rows.foldl (fun acc o => acc.observe id o) acc

def charges : List Charge :=
  collect (fun acc o => acc.observe id o) EstimatedFuelAccumulator.charge
    (unfuelled nominalCycleS mafCadenceS requireTiming) rows

def flowAt (o : Observation) : Option Time :=
  responseTime o.capturedAt o.quality 0x10 requireTiming

def Adjacent (a b : Observation) : Prop :=
  a.drive = b.drive ∧ a.sequence.isSome ∧ b.sequence = a.sequence.map (· + 1) ∧
    0 < seconds (b.capturedAt - a.capturedAt) ∧
    seconds (b.capturedAt - a.capturedAt) ≤ nominalCycleS * (3 / 2)

def MeasuredBy (rate : ℚ) (at_ : Time) : Prop :=
  ∃ before source between, rows = before ++ source :: between ∧
    source.estimatedRate = some rate ∧ flowAt requireTiming source = some at_ ∧
    (source :: between).IsChain (Adjacent nominalCycleS) ∧
    ∀ o ∈ source :: between, fuelInvalid o = false

variable {nominalCycleS mafCadenceS requireTiming rows}

theorem MeasuredBy.add {rate : ℚ} {at_ : Time} {o : Observation}
    (measured : MeasuredBy nominalCycleS requireTiming rows rate at_)
    (valid : fuelInvalid o = false) (near : ∀ last ∈ rows.getLast?, Adjacent nominalCycleS last o) :
    MeasuredBy nominalCycleS requireTiming (rows ++ [o]) rate at_ := by
  obtain ⟨before, source, between, rfl, given, known, chain, all⟩ := measured
  refine ⟨before, source, between ++ [o], by simp, given, known, ?_, ?_⟩
  · rw [← List.cons_append]
    refine List.isChain_append.mpr ⟨chain, List.isChain_singleton _, fun x last y first => ?_⟩
    obtain rfl : o = y := by simpa using first
    refine near x ?_
    rw [List.getLast?_append, Option.mem_def.mp last]
    rfl
  · intro x member
    rw [← List.cons_append] at member
    obtain old | new := List.mem_append.mp member
    · exact all x old
    · obtain rfl := List.mem_singleton.mp new
      exact valid

variable (nominalCycleS mafCadenceS requireTiming rows) in
structure Fuelled : Prop where
  params : let acc := (unfuelled nominalCycleS mafCadenceS requireTiming).observeAll rows
    acc.nominalCycleS = nominalCycleS ∧ acc.mafCadenceS = mafCadenceS ∧
      acc.requireTiming = requireTiming
  last : let acc := (unfuelled nominalCycleS mafCadenceS requireTiming).observeAll rows
    acc.previousAt = rows.getLast?.map (·.capturedAt) ∧
      acc.previousSequence = rows.getLast?.bind (·.sequence) ∧
      acc.previousDrive = rows.getLast?.bind (·.drive)
  untimed : let acc := (unfuelled nominalCycleS mafCadenceS requireTiming).observeAll rows
    acc.previousTimed ≠ some true → acc.previousEffectiveAt = acc.previousAt
  effective : ∀ t ∈ ((unfuelled nominalCycleS mafCadenceS requireTiming).observeAll
      rows).previousEffectiveAt,
    ∃ o ∈ rows, t ≤ o.capturedAt ∧ (t = o.capturedAt ∨ flowAt requireTiming o = some t)
  ends : ∀ c ∈ charges nominalCycleS mafCadenceS requireTiming rows, 0 < c.covered ∧
    (∃ o ∈ rows, c.since = o.capturedAt ∨ flowAt requireTiming o = some c.since) ∧
    ∃ t ∈ ((unfuelled nominalCycleS mafCadenceS requireTiming).observeAll rows).previousEffectiveAt,
      c.span.2 ≤ seconds t
  ordered : InOrder ((charges nominalCycleS mafCadenceS requireTiming rows).map Charge.span)
  held : ∀ rate ∈ ((unfuelled nominalCycleS mafCadenceS requireTiming).observeAll rows).rate,
    ∃ at_, ((unfuelled nominalCycleS mafCadenceS requireTiming).observeAll rows).rateAt = some at_ ∧
      MeasuredBy nominalCycleS requireTiming rows rate at_

theorem Fuelled.near (fuelled : Fuelled nominalCycleS mafCadenceS requireTiming rows)
    {o : Observation}
    (contiguous : ((unfuelled nominalCycleS mafCadenceS requireTiming).observeAll rows).contiguous
      id o = true) : ∀ last ∈ rows.getLast?, Adjacent nominalCycleS last o := by
  intro last final
  obtain ⟨nominal, -, -⟩ := fuelled.params
  obtain ⟨at_, sequence, drive⟩ := fuelled.last
  rw [Option.mem_def] at final
  rw [final] at at_ sequence drive
  simp only [EstimatedFuelAccumulator.contiguous, EstimatedFuelAccumulator.interval, at_, sequence,
    drive, nominal, Bool.and_eq_true, decide_eq_true_eq, Option.map_some, Option.bind_some,
    secondsBetween, id] at contiguous
  obtain ⟨⟨⟨⟨positive, short⟩, sameDrive⟩, known⟩, next⟩ := contiguous
  exact ⟨sameDrive, known, next, positive, short⟩

theorem Fuelled.add {o : Observation}
    (fuelled : Fuelled nominalCycleS mafCadenceS requireTiming rows)
    (later : ∀ earlier ∈ rows, earlier.capturedAt < o.capturedAt) :
    Fuelled nominalCycleS mafCadenceS requireTiming (rows ++ [o]) := by
  have near := fuelled.near (o := o)
  obtain ⟨⟨nominal, maf, timing⟩, last, untimed, effective, ends, ordered, held⟩ := fuelled
  have run : (unfuelled nominalCycleS mafCadenceS requireTiming).observeAll (rows ++ [o]) =
      ((unfuelled nominalCycleS mafCadenceS requireTiming).observeAll rows).observe id o := by
    simp [EstimatedFuelAccumulator.observeAll]
  have collected : charges nominalCycleS mafCadenceS requireTiming (rows ++ [o]) =
      charges nominalCycleS mafCadenceS requireTiming rows ++
        (((unfuelled nominalCycleS mafCadenceS requireTiming).observeAll rows).charge o).toList :=
    collect_append _ _ _
  generalize (unfuelled nominalCycleS mafCadenceS requireTiming).observeAll rows = acc at *
  dsimp only at *
  have onward := acc.nextEffectiveAt_spec o fun t before => by
    obtain ⟨r, member, early, -⟩ := effective t before
    exact early.trans_lt (later r member)
  have next : (acc.observe id o).previousEffectiveAt = acc.nextEffectiveAt o := by
    rw [EstimatedFuelAccumulator.observe_eq]
  have since {c : Charge} (given : acc.charge o = some c) :
      acc.previousEffectiveAt = some c.since := by
    obtain ⟨-, -, -, -, -, -, start | ⟨kind, start⟩, -⟩ := acc.charge_spec o given
    · exact start
    · rw [untimed kind, start]
  refine ⟨?_, ?_, ?_, ?_, ?_, ?_, ?_⟩
  · obtain ⟨sameNominal, sameMaf, sameTiming⟩ := acc.observe_kept o
    rw [run]
    exact ⟨sameNominal.trans nominal, sameMaf.trans maf, sameTiming.trans timing⟩
  · rw [run, EstimatedFuelAccumulator.observe_eq]
    simp
  · dsimp only
    rw [run, EstimatedFuelAccumulator.observe_eq]
    intro kind
    dsimp only at kind ⊢
    rw [EstimatedFuelAccumulator.nextEffectiveAt, if_neg (by simpa using kind)]
  · intro t now
    rw [run, next] at now
    obtain ⟨-, early, when⟩ := onward.2 t now
    exact ⟨o, by simp, early, by rwa [timing] at when⟩
  · intro c member
    rw [run, next]
    rw [collected] at member
    obtain old | new := List.mem_append.mp member
    · obtain ⟨positive, ⟨r, among, start⟩, t, before, stop⟩ := ends c old
      obtain ⟨e, now⟩ := Option.isSome_iff_exists.mp
        (onward.1 (Option.isSome_iff_exists.mpr ⟨t, before⟩))
      refine ⟨positive, ⟨r, List.mem_append_left _ among, start⟩, e, now, stop.trans ?_⟩
      exact seconds_le.mpr ((onward.2 e now).1 t before).le
    · rw [Option.mem_toList] at new
      obtain ⟨-, -, -, -, positive, -, -, t, now, stop⟩ := acc.charge_spec o new
      obtain ⟨r, among, -, start⟩ := effective c.since (since new)
      exact ⟨positive, ⟨r, List.mem_append_left _ among, start⟩, t, now, stop⟩
  · rw [collected, List.map_append]
    refine List.pairwise_append.mpr ⟨ordered, ?_, ?_⟩
    · cases acc.charge o <;> simp
    · intro c old d new
      obtain ⟨earlier, member, rfl⟩ := List.mem_map.mp old
      obtain ⟨charge, given, rfl⟩ := List.mem_map.mp new
      obtain ⟨-, -, t, before, stop⟩ := ends earlier member
      rw [Option.mem_toList] at given
      obtain rfl := Option.some.inj ((since given).symm.trans before)
      exact stop
  · intro rate kept
    rw [run] at kept ⊢
    obtain ⟨valid, ⟨given, measured, known⟩ | ⟨contiguous, before, same⟩⟩ :=
      acc.observe_rate o rate kept
    · obtain ⟨at_, value⟩ := Option.isSome_iff_exists.mp known
      rw [timing, value] at measured
      exact ⟨at_, value, rows, o, [], rfl, given, measured.symm, List.isChain_singleton _, by
        simpa using valid⟩
    · obtain ⟨at_, value, source⟩ := held rate before
      exact ⟨at_, same.trans value, source.add valid (near contiguous)⟩

theorem fuelled (increasing : rows.Pairwise fun a b => a.capturedAt < b.capturedAt) :
    Fuelled nominalCycleS mafCadenceS requireTiming rows := by
  induction rows using List.reverseRecOn with
  | nil =>
    exact ⟨⟨rfl, rfl, rfl⟩, ⟨rfl, rfl, rfl⟩, fun _ => rfl, nofun, by simp [charges, collect],
      List.Pairwise.nil, nofun⟩
  | append_singleton rows o ih =>
    obtain ⟨earlier, -, later⟩ := List.pairwise_append.mp increasing
    exact (ih earlier).add fun r member => later r member o (by simp)

end

section

variable (cycleS nominalCycleS mafCadenceS : ℚ) (requireTiming : Bool) (rows : List Observation)

structure MotionOnce : Prop where
  distance : ((unmoved cycleS requireTiming).observeAll rows).distanceKm =
    (((unmoved cycleS requireTiming).stretches rows).map fun s =>
      s.meanKmh * seconds (s.span.2 - s.span.1) / 3600).sum
  distances : Apart (((unmoved cycleS requireTiming).stretches rows).map (instants ·.span))
  idle : ((unmoved cycleS requireTiming).observeAll rows).idleS =
    total (((unmoved cycleS requireTiming).idles rows).map instants)
  idles : Apart (((unmoved cycleS requireTiming).idles rows).map instants)
  -- From the earliest measurement to the last capture
  bounded : ∀ lo hi, (∀ o ∈ rows, ∀ t ∈ measured requireTiming o, lo ≤ t) →
    (∀ o ∈ rows, o.capturedAt ≤ hi) → lo ≤ hi →
      ((unmoved cycleS requireTiming).observeAll rows).idleS ≤ seconds (hi - lo)

structure FuelOnce : Prop where
  litres : ((unfuelled nominalCycleS mafCadenceS requireTiming).observeAll rows).litres =
    ((charges nominalCycleS mafCadenceS requireTiming rows).map Charge.litres).sum
  charges : Apart ((charges nominalCycleS mafCadenceS requireTiming rows).map Charge.span)
  bounded : ∀ lo hi, (∀ o ∈ rows, lo ≤ o.capturedAt ∧ ∀ t ∈ flowAt requireTiming o, lo ≤ t) →
    (∀ o ∈ rows, o.capturedAt ≤ hi) → lo ≤ hi →
      ((Obd.charges nominalCycleS mafCadenceS requireTiming rows).map Charge.covered).sum ≤
        seconds (hi - lo)
  fresh : ∀ seen o rest, rows = seen ++ o :: rest →
    let acc := (unfuelled nominalCycleS mafCadenceS requireTiming).observeAll seen
    ∀ c ∈ acc.charge o, c.span.2 ≤ seconds c.measuredAt + 3 / 2 * acc.cadenceS o ∧
      MeasuredBy nominalCycleS requireTiming seen c.rate c.measuredAt ∧ fuelInvalid o = false ∧
      ∀ last ∈ seen.getLast?, Adjacent nominalCycleS last o

variable {cycleS nominalCycleS mafCadenceS requireTiming rows}

theorem motionOnce (onward : Onward cycleS requireTiming rows) :
    MotionOnce cycleS requireTiming rows := by
  obtain ⟨-, -, -, ends, ordered⟩ := observed onward
  have kept : (((unmoved cycleS requireTiming).stretches rows).map Stretch.span).Sublist
      (joinedAll cycleS requireTiming rows) :=
    collect_sublist Stretch.span MotionAccumulator.stretch_joined _ rows
  have distances :
      InOrder (((unmoved cycleS requireTiming).stretches rows).map (instants ·.span)) := by
    have sublist := kept.map instants
    rw [List.map_map] at sublist
    exact ordered.sublist sublist
  have within : ((unmoved cycleS requireTiming).idles rows).Sublist
      (joinedAll cycleS requireTiming rows) := by
    rw [← List.map_id ((unmoved cycleS requireTiming).idles rows)]
    exact collect_sublist id MotionAccumulator.idle_joined _ rows
  have idles : InOrder (((unmoved cycleS requireTiming).idles rows).map instants) :=
    ordered.sublist (within.map instants)
  have idle : ((unmoved cycleS requireTiming).observeAll rows).idleS =
      total (((unmoved cycleS requireTiming).idles rows).map instants) := by
    have sum := foldl_add MotionAccumulator.idleS
      (fun span : Time × Time => seconds (span.2 - span.1))
      MotionAccumulator.observe_idleS (unmoved cycleS requireTiming) rows
    refine sum.trans ?_
    simp only [total, List.map_map, Function.comp_def, instants, seconds_sub]
    exact zero_add _
  have distance := foldl_add MotionAccumulator.distanceKm
    (fun s : Stretch => s.meanKmh * seconds (s.span.2 - s.span.1) / 3600)
    MotionAccumulator.observe_distanceKm (unmoved cycleS requireTiming) rows
  refine ⟨distance.trans (zero_add _), distances.apart, idle, idles.apart,
    fun lo hi low high order => ?_⟩
  rw [idle, seconds_sub]
  refine idles.total_le (seconds_le.mpr order) fun c member => ?_
  obtain ⟨span, among, rfl⟩ := List.mem_map.mp member
  obtain ⟨forward, ⟨a, first, start⟩, b, last, stop⟩ := ends span (within.subset among)
  exact ⟨seconds_le.mpr (low a first _ start), seconds_le.mpr forward.le,
    seconds_le.mpr ((speedAt_le stop).trans (high b last))⟩

theorem fuelOnce (increasing : rows.Pairwise fun a b => a.capturedAt < b.capturedAt) :
    FuelOnce nominalCycleS mafCadenceS requireTiming rows := by
  have all : Fuelled nominalCycleS mafCadenceS requireTiming rows := fuelled increasing
  have litres := foldl_add EstimatedFuelAccumulator.litres Charge.litres
    EstimatedFuelAccumulator.observe_litres
    (unfuelled nominalCycleS mafCadenceS requireTiming) rows
  refine ⟨litres.trans (zero_add _), all.ordered.apart, fun lo hi low high order => ?_, ?_⟩
  · have covered : ((charges nominalCycleS mafCadenceS requireTiming rows).map
        Charge.covered).sum =
        total ((charges nominalCycleS mafCadenceS requireTiming rows).map Charge.span) := by
      simp [total, Function.comp_def, Charge.span]
    rw [covered, seconds_sub]
    refine all.ordered.total_le (seconds_le.mpr order) fun span member => ?_
    obtain ⟨c, among, rfl⟩ := List.mem_map.mp member
    obtain ⟨positive, ⟨o, here, start⟩, t, now, stop⟩ := all.ends c among
    obtain ⟨last, present, early, -⟩ := all.effective t now
    refine ⟨seconds_le.mpr ?_, by simpa [Charge.span] using positive.le,
      stop.trans (seconds_le.mpr (early.trans (high last present)))⟩
    obtain same | flow := start
    · exact same ▸ (low o here).1
    · exact (low o here).2 _ flow
  · rintro seen o rest rfl acc c given
    have before : Fuelled nominalCycleS mafCadenceS requireTiming seen :=
      fuelled (List.pairwise_append.mp increasing).1
    obtain ⟨valid, contiguous, rate, at_, -, late, -, -⟩ := acc.charge_spec o given
    obtain ⟨when, value, source⟩ := before.held c.rate rate
    obtain rfl := Option.some.inj (value.symm.trans at_)
    exact ⟨by linarith, source, valid, before.near contiguous⟩

/-- Fuel is charged once and in time; motion is counted once where each span begins no earlier than
a speed measured before. -/
theorem counted_once (increasing : rows.Pairwise fun a b => a.capturedAt < b.capturedAt) :
    FuelOnce nominalCycleS mafCadenceS requireTiming rows ∧
      (Onward cycleS requireTiming rows → MotionOnce cycleS requireTiming rows) :=
  ⟨fuelOnce increasing, motionOnce⟩

end

def standing (sequence : ℤ) (capturedS ageMs : ℤ) : Observation where
  drive := some "drive"
  sequence := some sequence
  capturedAt := capturedS * 1000000
  speed := some 0
  rpm := some 800
  estimatedRate := none
  status := some "live"
  quality := .obj [(responseAgesKey, .obj [("0D", .int ageMs), ("0C", .int ageMs)])]

def lateAnswers : List Observation :=
  [standing 0 0 0, standing 1 5 0, standing 2 10 7000, standing 3 15 7000]

theorem lateAnswers_not_once : ¬MotionOnce 5 false lateAnswers := by
  intro once
  have spans : (unmoved 5 false).idles lateAnswers = [(0, 5000000), (3000000, 8000000)] := by
    decide +kernel
  have apart := once.idles
  rw [spans] at apart
  have both := (List.pairwise_cons.mp apart).1 (instants (3000000, 8000000)) (by simp)
  exact Set.disjoint_left.mp both
    (show (4 : ℚ) ∈ Set.Ico _ _ by norm_num [instants, seconds, totalSeconds])
    (by norm_num [instants, seconds, totalSeconds])

theorem counted_once_standing : FuelOnce 5 15 false [standing 0 0 100, standing 1 5 100] ∧
    MotionOnce 5 false [standing 0 0 100, standing 1 5 100] := by
  obtain ⟨fuel, motion⟩ := @counted_once 5 5 15 false [standing 0 0 100, standing 1 5 100]
    (by decide +kernel)
  refine ⟨fuel, motion fun before a b after split _ r member => ?_⟩
  have short := congrArg List.length split
  simp only [List.length_append, List.length_cons, List.length_nil] at short
  obtain rfl := List.length_eq_zero_iff.mp (show before.length = 0 by omega)
  cases member

end DashcamStats.Obd
