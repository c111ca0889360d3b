import Mathlib.Tactic.Linarith
import DashcamStats.Status.Countdown

namespace DashcamStats.Status

/-- The ignition and the countdown property of the unit at every instant of the server's
monotonic clock. -/
structure HeadUnit where
  on : ℚ → Bool
  property : ℚ → ℤ
  -- What the unit's uptime is ahead.
  ahead : ℚ

def ChangesOnce {α : Type} (f : ℚ → α) (first last : ℚ) : Prop :=
  ∃ change, ∀ t, first ≤ t → t ≤ last → f t = if t < change then f first else f last

namespace HeadUnit

variable (u : HeadUnit)

def GoesOff (off : ℚ) : Prop :=
  u.on off = false ∧ ∃ before < off, ∀ t, before ≤ t → t < off → u.on t = true

def LastOff (off now : ℚ) : Prop :=
  u.GoesOff off ∧ off ≤ now ∧ ∀ other, u.GoesOff other → other ≤ now → other ≤ off

def remaining (off now : ℚ) : ℚ := u.property off - (now - off)

variable {u}

theorem not_goesOff {first last change other : ℚ}
    (changes : ∀ t, first ≤ t → t ≤ last → u.on t = if t < change then u.on first else u.on last)
    (off : u.on first = false) (after : first < other) (within : other ≤ last) :
    ¬u.GoesOff other := by
  rintro ⟨ended, before, earlier, started⟩
  have low : max before first < other := max_lt earlier after
  have on := started (max before first) (le_max_left _ _) low
  have at_low := changes (max before first) (le_max_right _ _) (by linarith)
  have at_other := changes other after.le within
  rw [on] at at_low
  rw [ended] at at_other
  split at at_low
  · rw [off] at at_low
    cases at_low
  next late =>
    have later : ¬other < change := fun soon => late (by linarith)
    rw [if_neg later, ← at_low] at at_other
    cases at_other

theorem LastOff.extend {off first last : ℚ} (timer : u.LastOff off first)
    (is_off : u.on first = false) (once : ChangesOnce u.on first last) (later : first ≤ last) :
    u.LastOff off last := by
  obtain ⟨change, changes⟩ := once
  refine ⟨timer.1, timer.2.1.trans later, fun other goes within => ?_⟩
  by_cases known : other ≤ first
  · exact timer.2.2 other goes known
  · exact absurd goes (not_goesOff changes is_off (not_le.mp known) within)

theorem LastOff.between {off before taken : ℚ} (timer : u.LastOff off before)
    (was_off : u.on before = false) (is_off : u.on taken = false)
    (once : ChangesOnce u.on (min before taken) (max before taken)) : u.LastOff off taken := by
  rcases le_total before taken with later | earlier
  · rw [min_eq_left later, max_eq_right later] at once
    exact timer.extend was_off once later
  · rw [min_eq_right earlier, max_eq_left earlier] at once
    obtain ⟨change, changes⟩ := once
    refine ⟨timer.1, ?_, fun other goes within => timer.2.2 other goes (within.trans earlier)⟩
    by_contra beyond
    exact not_goesOff changes is_off (not_le.mp beyond) timer.2.1 timer.1

theorem lastOff_of_pair {first last : ℚ} (was : u.on first = true) (is_off : u.on last = false)
    (once : ChangesOnce u.on first last) (later : first ≤ last) :
    ∃ off, u.LastOff off last ∧ first ≤ off := by
  obtain ⟨change, changes⟩ := once
  have after : first < change := by
    by_contra early
    have same := changes first le_rfl later
    rw [if_neg early, was, is_off] at same
    cases same
  have within : change ≤ last := by
    by_contra late
    have same := changes last later le_rfl
    rw [if_pos (not_le.mp late), was, is_off] at same
    cases same
  have ended : u.on change = false := by
    rw [changes change after.le within, if_neg (lt_irrefl _), is_off]
  refine ⟨change, ⟨⟨ended, first, after, fun t from_ before => ?_⟩, within,
    fun other goes reached => ?_⟩, after.le⟩
  · rw [changes t from_ (by linarith), if_pos before, was]
  · by_contra beyond
    have past := not_le.mp beyond
    have rest : ∀ t, change ≤ t → t ≤ last →
        u.on t = if t < change then u.on change else u.on last := by
      intro t start stop
      rw [changes t (after.le.trans start) stop, if_neg (not_lt.mpr start),
        if_neg (not_lt.mpr start)]
    exact not_goesOff rest ended past reached goes

end HeadUnit

namespace IngestStatus

variable {s : IngestStatus} {now : ℚ} {o : RuntimeObservation}

theorem lowerCeiling_eq (s : IngestStatus) (now : ℚ) :
    ∃ ceiling, s.lowerCeiling now = { s with operationalDeadline := ceiling } := by
  simp only [lowerCeiling]
  split
  · exact ⟨s.operationalDeadline, rfl⟩
  · exact ⟨_, rfl⟩

theorem observeOff_cases (s : IngestStatus) (now : ℚ) (o : RuntimeObservation) :
    s.observeOff now o = s ∨
      ∃ bracket elapsed next, o.validatedSleepDeadline = some (bracket, elapsed) ∧
        s.precedesOn bracket = false ∧
        s.nextEdge bracket = some next ∧
        s.observeOff now o = next.acceptEvidence now o bracket elapsed := by
  simp only [observeOff]
  split
  · exact .inl rfl
  next bracket elapsed valid =>
    split
    · exact .inl rfl
    next current =>
      split
      · exact .inl rfl
      next next following =>
        exact .inr ⟨bracket, elapsed, next, valid, by simpa using current, following, rfl⟩

def known (s : IngestStatus) (now : ℚ) (o : RuntimeObservation) : IngestStatus :=
  let kept := if !s.sameBoot o || !s.observationFresh now then s.clearObservedOff else s
  (if !s.sameBoot o then kept.clearBoot else kept).publish now o

def Paired (s : IngestStatus) (now : ℚ) (o : RuntimeObservation) : Prop :=
  s.sameBoot o = true ∧ s.observationFresh now = true ∧ s.observedIgnitionState = .on

instance (s : IngestStatus) (now : ℚ) (o : RuntimeObservation) : Decidable (s.Paired now o) :=
  inferInstanceAs (Decidable (_ ∧ _))

def settled (s : IngestStatus) (now : ℚ) (o : RuntimeObservation) : IngestStatus :=
  if o.ignitionState = .off ∧ s.Paired now o then (s.known now o).pairOff now o s.observedWindow
  else s.known now o

theorem published_eq (s : IngestStatus) (now : ℚ) (o : RuntimeObservation) :
    s.published now o =
      if o.ignitionState = .off then (s.settled now o).observeOff now o
      else (s.settled now o).observeOther o := by
  by_cases off : o.ignitionState = .off
  · by_cases paired : s.Paired now o
    · have all : (s.sameBoot o && s.observationFresh now && s.observedIgnitionState = .on) = true := by
        simp [paired.1, paired.2.1, paired.2.2]
      simp only [published, settled, off, paired, all, and_self, ↓reduceIte]
      rfl
    · have some_ : ¬(s.sameBoot o && s.observationFresh now && s.observedIgnitionState = .on) = true := by
        intro all
        simp only [Bool.and_eq_true, decide_eq_true_eq] at all
        exact paired ⟨all.1.1, all.1.2, all.2⟩
      simp only [published, settled, off, paired, some_, and_false, ↓reduceIte]
      rfl
  · simp only [published, settled, off, false_and, ↓reduceIte]
    rfl

def ServerEdge (s : IngestStatus) (now : ℚ) (o : RuntimeObservation) (off : ℚ) (window : ℤ) :
    Prop :=
  s.observationFresh now = true ∧
    ((o.ignitionState = .off ∧ s.observedIgnitionState = .on ∧ off = now ∧
        ∃ previous current, s.observedWindow = some previous ∧ o.sleepWindow = some current ∧
          window = min previous current) ∨
      (s.observedOff = some off ∧ s.observedOffQuietWindow = some window))

def refuses (s : IngestStatus) (o : RuntimeObservation) (bracket : Bracket) : Bool :=
  s.sameBoot o && (s.precedesOn bracket ||
    s.unitEdgeBounds.any fun bounds =>
      decide ((bracket.offLower, bracket.offUpper) ≠ bounds ∧ bracket.offLower ≤ bounds.2))

structure Settled (s : IngestStatus) (now : ℚ) (o : RuntimeObservation) (t : IngestStatus) :
    Prop where
  ignition : t.observedIgnitionState = o.ignitionState
  observed : t.unitObserved = some now
  window : t.observedWindow = o.sleepWindow
  server : ∀ off window, t.observedOff = some off → t.observedOffQuietWindow = some window →
    ServerEdge s now o off window

theorem known_server (s : IngestStatus) (now : ℚ) (o : RuntimeObservation) :
    (s.known now o).observedOff.isSome = true →
      s.observationFresh now = true ∧ (s.known now o).observedOff = s.observedOff ∧
        (s.known now o).observedOffQuietWindow = s.observedOffQuietWindow := by
  cases same : s.sameBoot o <;> cases fresh : s.observationFresh now <;>
    simp [known, same, fresh, publish, clearBoot, clearObservedOff]

theorem known_remembers {s : IngestStatus} {o : RuntimeObservation} (now : ℚ)
    (same : s.sameBoot o = true) :
    (s.known now o).lastObservedOnUptime = s.lastObservedOnUptime ∧
      (s.known now o).unitEdgeBounds = s.unitEdgeBounds := by
  cases fresh : s.observationFresh now <;> simp [known, same, fresh, publish, clearObservedOff]

theorem settled_spec (s : IngestStatus) (now : ℚ) (o : RuntimeObservation) :
    Settled s now o (s.settled now o) ∧ (s.settled now o).unitDeadline = none ∧
      (s.sameBoot o = true →
        (s.settled now o).lastObservedOnUptime = s.lastObservedOnUptime ∧
          (s.settled now o).unitEdgeBounds = s.unitEdgeBounds) := by
  simp only [settled]
  split
  next paired =>
    obtain ⟨off, same, fresh, on⟩ := paired
    refine ⟨⟨rfl, rfl, rfl, fun edge window there quiet => ⟨fresh, .inl ?_⟩⟩, rfl,
      known_remembers now⟩
    cases there
    simp only [pairOff] at quiet
    split at quiet
    next previous current was read =>
      cases quiet
      exact ⟨off, on, rfl, previous, current, was, read, rfl⟩
    · cases quiet
  · refine ⟨⟨rfl, rfl, rfl, fun edge window there quiet => ?_⟩, rfl, known_remembers now⟩
    obtain ⟨fresh, same, same'⟩ := known_server s now o (by simp [there])
    exact ⟨fresh, .inr ⟨same ▸ there, same' ▸ quiet⟩⟩

theorem not_refuses {t : IngestStatus} {bracket : Bracket}
    (remembered : s.sameBoot o = true → t.lastObservedOnUptime = s.lastObservedOnUptime ∧
      t.unitEdgeBounds = s.unitEdgeBounds)
    (current : t.precedesOn bracket = false) {next : IngestStatus}
    (following : t.nextEdge bracket = some next) : s.refuses o bracket = false := by
  cases same : s.sameBoot o with
  | false => simp [refuses, same]
  | true =>
    obtain ⟨on, bounds⟩ := remembered same
    rw [precedesOn, on] at current
    have recent : s.precedesOn bracket = false := current
    rw [nextEdge, bounds] at following
    cases accepted : s.unitEdgeBounds with
    | none => simp [refuses, recent, accepted]
    | some edge =>
      rw [accepted] at following
      by_cases equal : (bracket.offLower, bracket.offUpper) = edge
      · simp [refuses, recent, accepted, equal]
      · simp only [equal, ↓reduceIte] at following
        split at following
        next beyond => simpa [refuses, same, recent, accepted] using fun _ => beyond
        · cases following

theorem nextEdge_observed {bracket : Bracket} {next : IngestStatus}
    (following : s.nextEdge bracket = some next) :
    next.observedIgnitionState = s.observedIgnitionState ∧ next.unitObserved = s.unitObserved ∧
      next.observedWindow = s.observedWindow := by
  simp only [nextEdge] at following
  split at following
  · cases following
    exact ⟨rfl, rfl, rfl⟩
  · split at following
    · cases following
      exact ⟨rfl, rfl, rfl⟩
    · split at following
      · cases following
        exact ⟨rfl, rfl, rfl⟩
      · cases following

theorem observeOther_spec (s : IngestStatus) (o : RuntimeObservation) :
    ((s.observeOther o).observedIgnitionState = s.observedIgnitionState ∧
        (s.observeOther o).unitObserved = s.unitObserved ∧
        (s.observeOther o).observedWindow = s.observedWindow ∧
        (s.observeOther o).unitDeadline = s.unitDeadline) ∧
      (s.observeOther o).observedOff = none := by
  by_cases on : o.ignitionState = .on
  · simp [observeOther, on, clearObservedOff]
  · cases unit : s.operationalDeadlineFromUnit <;> simp [observeOther, on, unit, clearObservedOff]

theorem observe_spec (s : IngestStatus) (now : ℚ) (o : RuntimeObservation) :
    Settled s now o (s.observeUnitRuntime now o) ∧
      (∀ off window, (s.observeUnitRuntime now o).observedOff = some off →
        (s.observeUnitRuntime now o).observedOffQuietWindow = some window →
          o.ignitionState = .off) ∧
      ∀ deadline, (s.observeUnitRuntime now o).unitDeadline = some deadline →
        ∃ bracket elapsed, o.validatedSleepDeadline = some (bracket, elapsed) ∧
          s.refuses o bracket = false ∧
          deadline = now + bracket.window - (o.uptime - (bracket.offLower : ℚ) / 1000) -
            runtimeObservationTimeout := by
  obtain ⟨ceiling, last⟩ := lowerCeiling_eq (s.published now o) now
  rw [observeUnitRuntime, last]
  obtain ⟨spec, deadline, remembered⟩ := settled_spec s now o
  rw [published_eq]
  by_cases off : o.ignitionState = .off
  · rw [if_pos off]
    rcases observeOff_cases (s.settled now o) now o with
      same | ⟨bracket, elapsed, next, valid, current, following, accepted⟩
    · rw [same]
      refine ⟨⟨spec.ignition, spec.observed, spec.window, spec.server⟩, fun _ _ _ _ => off, ?_⟩
      intro other there
      rw [show _ = none from deadline] at there
      cases there
    · rw [accepted]
      obtain ⟨ignition, observed, window⟩ := nextEdge_observed following
      refine ⟨⟨ignition.trans spec.ignition, observed.trans spec.observed,
        window.trans spec.window, fun _ _ there => (by cases there)⟩,
        fun _ _ there => (by cases there), fun other there => ?_⟩
      exact ⟨bracket, elapsed, valid, not_refuses remembered current following,
        (Option.some.inj there).symm⟩
  · rw [if_neg off]
    obtain ⟨same, cleared⟩ := observeOther_spec (s.settled now o) o
    refine ⟨⟨same.1.trans spec.ignition, same.2.1.trans spec.observed,
      same.2.2.1.trans spec.window, fun _ _ there => ?_⟩, fun _ _ there => ?_, fun _ there => ?_⟩
    · rw [show _ = none from cleared] at there
      cases there
    · rw [show _ = none from cleared] at there
      cases there
    · rw [show _ = _ from same.2.2.2, deadline] at there
      cases there

end IngestStatus

structure World where
  status : IngestStatus
  clock : ℚ
  -- History: when the last successful observation was taken.
  taken : Option ℚ

inductive Event where
  | observe (o : RuntimeObservation) (taken : ℚ)
  | unitObservationFailed
  | setUnitOnline (online : Bool)
  | tick (clock : ℚ)

namespace World

def start (clock : ℚ) : World where
  status := .new
  clock := clock
  taken := none

def next (s : World) : Event → World
  | .observe o taken =>
    { s with status := s.status.observeUnitRuntime s.clock o, taken := some taken }
  | .unitObservationFailed => { s with status := s.status.unitObservationFailed }
  | .setUnitOnline online => { s with status := s.status.setUnitOnline online }
  | .tick clock => { s with clock := clock }

def step (s : World) (e : Event) (t : World) : Prop := t = s.next e

def Brackets (u : HeadUnit) (bracket : Bracket) (off : ℚ) : Prop :=
  (bracket.offLower : ℚ) / 1000 ≤ off + u.ahead ∧ off + u.ahead ≤ (bracket.offUpper : ℚ) / 1000 ∧
    bracket.window ≤ u.property off

structure TruthfulObservation (u : HeadUnit) (s : World) (o : RuntimeObservation) (taken : ℚ) :
    Prop where
  past : taken ≤ s.clock
  recent : s.clock ≤ taken + runtimeObservationTimeout
  uptime : o.uptime = taken + u.ahead
  on : o.ignitionState = .on → u.on taken = true
  off : o.ignitionState = .off → u.on taken = false
  window : ∀ window ∈ o.sleepWindow, window = u.property taken
  evidence : ∀ evidence ∈ o.sleepDeadlineEvidence, ∀ bracket ∈ evidence.bracket,
    ∃ off, u.GoesOff off ∧ off ≤ taken ∧ Brackets u bracket off
  ignition : ∀ before ∈ s.taken, ChangesOnce u.on (min before taken) (max before taken)
  property : ∀ before ∈ s.taken, ChangesOnce u.property (min before taken) (max before taken)
  since : ChangesOnce u.on taken s.clock

/-- The premises: truthful observations of a unit whose ignition and property change at most once
between them, and a clock that does not go back. -/
def Truthful (u : HeadUnit) (s : World) : Event → Prop
  | .observe o taken => TruthfulObservation u s o taken
  | .tick clock => s.clock ≤ clock ∧ ∀ before ∈ s.taken, ChangesOnce u.on before clock
  | _ => True

/-- An OFF observation follows an ON one that was taken before it, and a bracket that is not one
of the timer in force is known to be that of an earlier one. -/
def Careful (u : HeadUnit) (s : World) : Event → Prop
  | .observe o taken =>
    (s.status.observedIgnitionState = .on → o.ignitionState = .off →
        ∀ before ∈ s.taken, before ≤ taken) ∧
      ∀ bracket elapsed, o.validatedSleepDeadline = some (bracket, elapsed) →
        (∃ off, u.LastOff off taken ∧ Brackets u bracket off) ∨
          s.status.refuses o bracket = true
  | _ => True

structure Sound (u : HeadUnit) (s : World) : Prop where
  credible : ∀ estimate, s.status.credibleCountdownRemaining s.clock = some estimate →
    ∃ off, u.LastOff off s.clock ∧ estimate ≤ max 0 (u.remaining off s.clock)
  quieting : s.status.radioQuietingAllowed s.clock = true →
    ∃ off, u.LastOff off s.clock ∧ radioQuietMinRemaining < u.remaining off s.clock

def Bounds (u : HeadUnit) (s : World) (deadline : ℚ) : Prop :=
  ∃ taken off, s.taken = some taken ∧ u.on taken = false ∧ u.LastOff off taken ∧
    deadline ≤ off + u.property off

structure Inv (u : HeadUnit) (s : World) : Prop where
  server : ∀ off window, s.status.observedOff = some off →
    s.status.observedOffQuietWindow = some window →
      Bounds u s (off + window - radioQuietObservationMargin)
  unit : ∀ deadline, s.status.unitDeadline = some deadline → Bounds u s deadline
  on : s.status.observedIgnitionState = .on →
    ∃ taken published, s.taken = some taken ∧ s.status.unitObserved = some published ∧
      u.on taken = true ∧ published ≤ taken + runtimeObservationTimeout ∧
      ∀ window ∈ s.status.observedWindow, window = u.property taken
  clock : ∀ taken ∈ s.taken, taken ≤ s.clock ∧ ChangesOnce u.on taken s.clock

theorem inv_start (u : HeadUnit) (clock : ℚ) : (start clock).Inv u where
  server off window there := by cases there
  unit deadline there := by cases there
  on there := by cases there
  clock taken there := by cases there

section Reading

variable {u : HeadUnit} {s : World}

theorem Inv.candidate (inv : s.Inv u) {estimate : ℚ}
    (credible : s.status.credibleCountdownRemaining s.clock = some estimate) :
    ∃ deadline, Bounds u s deadline ∧ estimate ≤ max 0 (deadline - s.clock) := by
  simp only [IngestStatus.credibleCountdownRemaining] at credible
  split at credible
  · cases credible
  obtain ⟨member, least⟩ := List.min?_eq_some_iff.mp credible
  split at member
  · cases member
  next some_ =>
    rw [if_neg some_] at least
    cases unit : s.status.unitCountdownRemaining s.clock with
    | some left =>
      have below := least left (by simp [unit])
      simp only [IngestStatus.unitCountdownRemaining] at unit
      split at unit
      next deadline fresh known _ =>
        split at unit
        · cases unit
        · cases unit
          exact ⟨deadline, inv.unit deadline known, below⟩
      · cases unit
    | none =>
      cases server : s.status.serverCountdownRemaining s.clock with
      | none => simp [unit, server] at some_
      | some left =>
        have below := least left (by simp [unit, server])
        simp only [IngestStatus.serverCountdownRemaining] at server
        split at server
        next off window known quiet =>
          cases server
          refine ⟨_, inv.server off window known quiet, below.trans (le_of_eq ?_)⟩
          rw [sub_right_comm]
        · cases server

theorem Inv.sound (inv : s.Inv u) : s.Sound u := by
  have credible : ∀ estimate, s.status.credibleCountdownRemaining s.clock = some estimate →
      ∃ off, u.LastOff off s.clock ∧ estimate ≤ max 0 (u.remaining off s.clock) := by
    intro estimate there
    obtain ⟨deadline, ⟨taken, off, known, is_off, timer, bound⟩, below⟩ := inv.candidate there
    obtain ⟨past, once⟩ := inv.clock taken known
    refine ⟨off, timer.extend is_off once past, below.trans (max_le_max_left _ ?_)⟩
    simp only [HeadUnit.remaining]
    linarith
  refine ⟨credible, fun allowed => ?_⟩
  simp only [IngestStatus.radioQuietingAllowed] at allowed
  split at allowed
  next estimate there =>
    simp only [Bool.and_eq_true, decide_eq_true_eq] at allowed
    obtain ⟨off, timer, bound⟩ := credible estimate there
    refine ⟨off, timer, ?_⟩
    rcases lt_max_iff.mp (allowed.2.trans_le bound) with nothing | enough
    · norm_num [radioQuietMinRemaining] at nothing
    · exact enough
  · cases allowed

end Reading

section Observing

variable {u : HeadUnit} {s : World} {o : RuntimeObservation} {taken : ℚ}

theorem property_of_pair {first last off : ℚ} (once : ChangesOnce u.property first last)
    (after : first ≤ off) (within : off ≤ last) :
    min (u.property first) (u.property last) ≤ u.property off := by
  obtain ⟨change, changes⟩ := once
  rw [changes off after within]
  split
  · exact min_le_left _ _
  · exact min_le_right _ _

theorem validated_off {result : Bracket × ℤ} (valid : o.validatedSleepDeadline = some result) :
    o.ignitionState = .off := by
  simp only [RuntimeObservation.validatedSleepDeadline] at valid
  split at valid
  · cases valid
  · by_contra other
    rw [if_pos (.inl other)] at valid
    cases valid

theorem Inv.paired (inv : s.Inv u) (truthful : TruthfulObservation u s o taken)
    (ordered : o.ignitionState = .off → ∀ before ∈ s.taken, before ≤ taken)
    (off : o.ignitionState = .off)
    (fresh : s.status.observationFresh s.clock = true)
    (was_on : s.status.observedIgnitionState = .on) {previous current : ℤ}
    (was : s.status.observedWindow = some previous) (read : o.sleepWindow = some current) :
    ∃ edge, u.LastOff edge taken ∧
      s.clock + (min previous current : ℤ) - radioQuietObservationMargin ≤
        edge + u.property edge := by
  obtain ⟨before, published, known, observed, on, shortly, window⟩ := inv.on was_on
  have later := ordered off before known
  have ignition := truthful.ignition before known
  have property := truthful.property before known
  rw [min_eq_left later, max_eq_right later] at ignition property
  obtain ⟨edge, timer, after⟩ :=
    HeadUnit.lastOff_of_pair on (truthful.off off) ignition later
  have held := property_of_pair property after timer.2.1
  rw [← window previous was, ← truthful.window current read] at held
  have held : ((min previous current : ℤ) : ℚ) ≤ u.property edge := by exact_mod_cast held
  have young : s.clock - published ≤ unitObservationTtl := by
    simp only [IngestStatus.observationFresh, observed, Bool.and_eq_true, Option.any_some,
      decide_eq_true_eq] at fresh
    exact fresh.2
  refine ⟨edge, timer, ?_⟩
  simp only [radioQuietObservationMargin]
  linarith

theorem unit_bound (truthful : TruthfulObservation u s o taken) {bracket : Bracket} {off : ℚ}
    (brackets : Brackets u bracket off) :
    s.clock + bracket.window - (o.uptime - (bracket.offLower : ℚ) / 1000) -
      runtimeObservationTimeout ≤ off + u.property off := by
  have window : (bracket.window : ℚ) ≤ u.property off := by exact_mod_cast brackets.2.2
  rw [truthful.uptime]
  linarith [brackets.1, truthful.recent]

theorem inv_observe (inv : s.Inv u) (truthful : TruthfulObservation u s o taken)
    (careful : Careful u s (.observe o taken)) : (s.next (.observe o taken)).Inv u := by
  obtain ⟨spec, only_off, deadline⟩ := IngestStatus.observe_spec s.status s.clock o
  constructor
  case server =>
    intro off window there quiet
    have is_off := only_off off window there quiet
    obtain ⟨fresh, ⟨_, was_on, rfl, previous, current, was, read, rfl⟩ | ⟨kept, kept'⟩⟩ :=
      spec.server off window there quiet
    · obtain ⟨edge, timer, bound⟩ :=
        inv.paired truthful (careful.1 was_on) is_off fresh was_on was read
      exact ⟨taken, edge, rfl, truthful.off is_off, timer, bound⟩
    · obtain ⟨before, edge, known, was_off, timer, bound⟩ := inv.server off window kept kept'
      exact ⟨taken, edge, rfl, truthful.off is_off,
        timer.between was_off (truthful.off is_off) (truthful.ignition before known), bound⟩
  case unit =>
    intro last there
    obtain ⟨bracket, elapsed, valid, current, rfl⟩ := deadline last there
    rcases careful.2 bracket elapsed valid with ⟨off, timer, brackets⟩ | remembered
    · exact ⟨taken, off, rfl, truthful.off (validated_off valid), timer,
        unit_bound truthful brackets⟩
    · rw [current] at remembered
      cases remembered
  case on =>
    intro is_on
    refine ⟨taken, s.clock, rfl, spec.observed, truthful.on (spec.ignition ▸ is_on),
      truthful.recent, fun window there => truthful.window window ?_⟩
    rw [← spec.window]
    exact there
  case clock =>
    intro other known
    cases known
    exact ⟨truthful.past, truthful.since⟩

end Observing

theorem inv_step {u : HeadUnit} {s t : World} {e : Event} (inv : s.Inv u)
    (truthful : Truthful u s e) (careful : Careful u s e) (stepped : step s e t) : t.Inv u := by
  subst stepped
  cases e with
  | observe o taken => exact inv_observe inv truthful careful
  | unitObservationFailed =>
    exact ⟨fun _ _ there => (by cases there), fun _ there => (by cases there),
      fun there => (by cases there), inv.clock⟩
  | setUnitOnline online =>
    cases online with
    | true => exact ⟨inv.server, inv.unit, inv.on, inv.clock⟩
    | false =>
      exact ⟨fun _ _ there => (by cases there), fun _ there => (by cases there),
        fun there => (by cases there), inv.clock⟩
  | tick clock =>
    refine ⟨inv.server, inv.unit, inv.on, fun taken there => ⟨?_, truthful.2 taken there⟩⟩
    exact (inv.clock taken there).1.trans truthful.1

section Runs

theorem changesOnce_before (edge first last : ℚ) :
    ChangesOnce (fun t => decide (t < edge)) first last := by
  refine ⟨edge, fun t after within => ?_⟩
  by_cases early : t < edge
  · simp [early, after.trans_lt early]
  · simp [early, (not_lt.mp early).trans within]

theorem changesOnce_const (value : ℤ) (first last : ℚ) : ChangesOnce (fun _ => value) first last :=
  ⟨first, fun _ _ _ => by simp⟩

def observation (uptime : ℚ) (ignition : Ignition) (window : ℤ)
    (evidence : Option SleepDeadlineEvidence) : RuntimeObservation where
  bootId := some "boot"
  uptime := uptime
  ignitionState := ignition
  sleepWindow := some window
  bootCount := some 7
  sleepDeadlineEvidence := evidence

def parkedOnce : HeadUnit where
  on := fun t => decide (t < 100)
  property := fun _ => 1200
  ahead := 0

def parking : List Event :=
  [.tick 90, .observe (observation 90 .on 1200 none) 90, .tick 105,
    .observe (observation 105 .off 1200 none) 105, .tick 120]

def parkingEnd : World := parking.foldl next (start 0)

theorem parkedOnce_truthful {s : World} {taken : ℚ} {ignition : Ignition}
    (published : s.clock = taken) (on : ignition = .on → taken < 100)
    (off : ignition = .off → ¬taken < 100) :
    TruthfulObservation parkedOnce s (observation taken ignition 1200 none) taken where
  past := published ▸ le_rfl
  recent := by rw [published, runtimeObservationTimeout]; linarith
  uptime := (add_zero taken).symm
  on := fun is_on => by simpa [parkedOnce] using on is_on
  off := fun is_off => by simpa [parkedOnce] using off is_off
  window := fun window there => by cases there; rfl
  evidence := fun evidence there => by cases there
  ignition := fun before _ => changesOnce_before 100 _ _
  property := fun before _ => changesOnce_const 1200 _ _
  since := changesOnce_before 100 _ _

def twoTrips : HeadUnit where
  on := fun t => decide (t < 10 ∨ 50 ≤ t ∧ t < 54)
  property := fun t => if t < 53 then 1200 else 300
  ahead := 0

def straddling : SleepDeadlineEvidence where
  bootId := some "boot"
  bootCount := some 7
  observedElapsedMs := 56000
  ignitionOn := false
  bracket := some ⟨9000, 55000, 1200⟩

def secondTrip : List Event :=
  [.tick 52, .observe (observation 52 .on 1200 none) 52, .tick 62,
    .observe (observation 62 .off 300 (some straddling)) 62]

def secondTripEnd : World := secondTrip.foldl next (start 0)

theorem twoTrips_ignition : ChangesOnce twoTrips.on 52 62 := by
  refine ⟨54, fun t after _ => ?_⟩
  by_cases early : t < 54
  · have on : (50 : ℚ) ≤ t := by linarith
    simp only [twoTrips, early, on]
    norm_num
  · have late : ¬t < 10 := by linarith
    simp only [twoTrips, early, late]
    norm_num

theorem twoTrips_property : ChangesOnce twoTrips.property 52 62 := by
  refine ⟨53, fun t _ _ => ?_⟩
  simp only [twoTrips]
  norm_num

theorem secondTrip_run : Run step (Truthful twoTrips) (start 0) secondTrip secondTripEnd := by
  have awake : Run step (Truthful twoTrips) (start 0) [.tick 52] ((start 0).next (.tick 52)) :=
    .tail .refl ⟨by norm_num [start], fun before there => by cases there⟩ rfl
  refine .tail (.tail (.tail awake ?_ rfl) ?_ rfl) ?_ rfl
  · exact
      { past := le_rfl
        recent := by norm_num [next, runtimeObservationTimeout]
        uptime := (add_zero _).symm
        on := fun _ => by norm_num [twoTrips]
        off := fun off => by cases off
        window := fun window there => by cases there; norm_num [twoTrips]
        evidence := fun evidence there => by cases there
        ignition := fun before there => by cases there
        property := fun before there => by cases there
        since := ⟨52, fun t after within => by rw [le_antisymm within after]; simp [next]⟩ }
  · refine ⟨by norm_num [next, start], fun before there => ?_⟩
    cases there
    exact twoTrips_ignition
  · exact
      { past := le_rfl
        recent := by norm_num [next, runtimeObservationTimeout]
        uptime := (add_zero _).symm
        on := fun on => by cases on
        off := fun _ => by norm_num [twoTrips]
        window := fun window there => by cases there; norm_num [twoTrips]
        evidence := fun evidence there bracket some_ => by
          cases there
          cases some_
          refine ⟨10, ⟨by norm_num [twoTrips], 0, by norm_num, fun t _ before => ?_⟩,
            by norm_num, ?_⟩
          · simp [twoTrips, before]
          · norm_num [Brackets, twoTrips]
        ignition := fun before there => by
          cases there
          norm_num
          exact twoTrips_ignition
        property := fun before there => by
          cases there
          norm_num
          exact twoTrips_property
        since := ⟨62, fun t after within => by rw [le_antisymm within after]; simp [next]⟩ }

end Runs

end World

end DashcamStats.Status
