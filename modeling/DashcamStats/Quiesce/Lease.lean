import DashcamStats.Quiesce.Controller

namespace DashcamStats.Quiesce

universe u

variable {Bytes : Type u}

def Phase.found : Phase Bytes → Option IngestionRequest
  | .finished (.valid v) => some v
  | _ => none

def Control.written : Control Bytes → Option IngestionRequest
  | .replacing q _ _ => some q
  | _ => none

namespace Handshake

section Statements

variable (texts : ControlTexts Bytes) (s : Handshake Bytes)

def Acknowledged (id : String) : Prop :=
  ∃ node, s.disk.ack = some node ∧ texts.acks node.bytes = some id

def Names (node : Node Bytes) (id : String) : Prop :=
  (∃ q, texts.request node.bytes = some q ∧ q.requestId = id) ∨
    ∃ q, texts.lease node.bytes = some q ∧ q.requestId = id

structure Unknown (id : String) : Prop where
  request : ∀ node, s.disk.request = some node → ¬Names texts node id
  marker : ∀ node, s.disk.marker = some node → ¬Names texts node id
  ack : ¬s.Acknowledged texts id
  reader : ∀ v, s.reader = .finished (.valid v) → v.requestId ≠ id

-- Request ids are new, as those of `uuid4` are.
def Fresh : Signal → Prop
  | .requestQuiesce id _ _ => s.Unknown texts id
  | _ => True

/-- The operation judges the request by a clock reading more than the tolerated skew before its
stamp, or its file's. -/
def early (q : IngestionRequest) (node : Node Bytes) : Phase Bytes → Bool
  | .parsing now (.loading _) => decide (now + clockSkewSeconds * second < q.requestedAtUtc)
  | .ageing now => decide (now + clockSkewSeconds * second < node.modified)
  | _ => false

def JudgesEarly : Prop :=
  ∃ node q, s.disk.request = some node ∧ texts.request node.bytes = some q ∧
    s.Acknowledged texts q.requestId ∧ early q node s.reader = true

def Shortens : Prop :=
  ∃ q deadline, s.server.written = some q ∧ s.held = some (q.requestId, deadline) ∧
    s.clock ≤ deadline ∧ q.deadlineAtUtc < deadline

def Careful : Signal → Prop
  | .operate => ¬s.JudgesEarly texts
  | .serve _ => ¬s.Shortens
  | _ => True

/-- While the latest returned lease runs, the ready acknowledgement stays and no call has come
back with an absent request. -/
def Continuous : Prop :=
  ∀ id deadline, s.held = some (id, deadline) → s.clock ≤ deadline →
    s.Acknowledged texts id ∧ s.reader ≠ .finished .absent

instance (id : String) : Decidable (s.Acknowledged texts id) :=
  decidable_of_iff (s.disk.ack.any fun node => texts.acks node.bytes = some id) (by
    simp [Acknowledged, Option.any_eq_true])

instance (node : Node Bytes) (id : String) : Decidable (Names texts node id) :=
  decidable_of_iff ((texts.request node.bytes).any (fun q => q.requestId = id) ∨
    (texts.lease node.bytes).any fun q => q.requestId = id) (by
    simp [Names, Option.any_eq_true])

instance (id : String) : Decidable (s.Unknown texts id) :=
  decidable_of_iff ((s.disk.request.all fun node => ¬Names texts node id) ∧
    (s.disk.marker.all fun node => ¬Names texts node id) ∧ ¬s.Acknowledged texts id ∧
      (s.reader.found.all fun v => v.requestId ≠ id)) (by
    simp only [Option.all_eq_true, decide_eq_true_eq]
    constructor
    · rintro ⟨request, marker, ack, reader⟩
      exact ⟨request, marker, ack, fun v found => reader v (by rw [found]; rfl)⟩
    · intro unknown
      refine ⟨unknown.request, unknown.marker, unknown.ack, fun v found => unknown.reader v ?_⟩
      cases reader : s.reader with
      | finished outcome =>
        rw [reader] at found
        cases outcome <;> cases found
        rfl
      | _ =>
        rw [reader] at found
        cases found)

instance : Decidable (s.JudgesEarly texts) :=
  decidable_of_iff (s.disk.request.any fun node => (texts.request node.bytes).any fun q =>
    s.Acknowledged texts q.requestId ∧ early q node s.reader = true) (by
    simp [JudgesEarly, Option.any_eq_true])

instance : Decidable s.Shortens :=
  decidable_of_iff (s.server.written.any fun q => s.held.any fun held =>
    held.1 = q.requestId ∧ s.clock ≤ held.2 ∧ q.deadlineAtUtc < held.2) (by
    simp only [Shortens, Option.any_eq_true, Prod.exists, decide_eq_true_eq]
    constructor
    · rintro ⟨q, written, id, deadline, held, rfl, rest⟩
      exact ⟨q, deadline, written, held, rest⟩
    · rintro ⟨q, deadline, written, held, rest⟩
      exact ⟨q, written, q.requestId, deadline, held, rfl, rest⟩)

instance (e : Signal) : Decidable (s.Fresh texts e) :=
  match e with
  | .tick _ => .isTrue trivial
  | .call _ => .isTrue trivial
  | .operate => .isTrue trivial
  | .die => .isTrue trivial
  | .publishReady => .isTrue trivial
  | .requestQuiesce id _ _ => inferInstanceAs (Decidable (s.Unknown texts id))
  | .verifyQuiesce _ => .isTrue trivial
  | .renewQuiesce _ _ _ => .isTrue trivial
  | .resumeLogger => .isTrue trivial
  | .serve _ => .isTrue trivial
  | .skip => .isTrue trivial
  | .giveUp => .isTrue trivial

instance (e : Signal) : Decidable (s.Careful texts e) :=
  match e with
  | .tick _ => .isTrue trivial
  | .call _ => .isTrue trivial
  | .operate => inferInstanceAs (Decidable ¬s.JudgesEarly texts)
  | .die => .isTrue trivial
  | .publishReady => .isTrue trivial
  | .requestQuiesce _ _ _ => .isTrue trivial
  | .verifyQuiesce _ => .isTrue trivial
  | .renewQuiesce _ _ _ => .isTrue trivial
  | .resumeLogger => .isTrue trivial
  | .serve _ => inferInstanceAs (Decidable ¬s.Shortens)
  | .skip => .isTrue trivial
  | .giveUp => .isTrue trivial

end Statements

def Calm (q : IngestionRequest) : Phase Bytes → Prop
  | .dead => True
  | .finished (.valid v) => v.requestId = q.requestId
  | .finished .invalid => True
  | .looking _ _ => True
  | .parsing _ _ => True
  | .requiring _ _ => True
  | .ageing _ => True
  | _ => False

end Handshake

def Phase.now : Phase Bytes → Option ℤ
  | .looking now _ => some now
  | .parsing now _ => some now
  | .requiring now _ => some now
  | .ageing now => some now
  | _ => none

namespace Handshake

variable (texts : ControlTexts Bytes) (skew : ℤ)

def Installed (q : IngestionRequest) (node : Node Bytes) : Prop :=
  node.bytes = texts.body q ∧ node.regular = true ∧
    q.requestedAtUtc + skew - modifiedGrain ≤ node.modified

def Bounded (q : IngestionRequest) : Prop :=
  1 * second ≤ q.deadlineAtUtc - q.requestedAtUtc ∧ q.deadlineAtUtc - q.requestedAtUtc ≤ maxHold

structure Leased (s : Handshake Bytes) (q : IngestionRequest) : Prop where
  bounded : Bounded q
  stamped : q.requestedAtUtc ≤ s.clock
  request : ∀ node, s.disk.request = some node → Names texts node q.requestId →
    Installed texts skew q node
  marker : ∀ node, s.disk.marker = some node → Names texts node q.requestId →
    Installed texts skew q node ∧
      ∀ other, s.disk.request = some other → ¬Names texts other q.requestId
  ready : s.Acknowledged texts q.requestId → s.clock ≤ q.deadlineAtUtc →
    (∃ node, s.disk.request = some node ∧ Installed texts skew q node) ∧ Calm q s.reader
  valid : ∀ v, s.reader = .finished (.valid v) → v.requestId = q.requestId →
    s.clock ≤ q.deadlineAtUtc → ∃ node, s.disk.request = some node ∧ Installed texts skew q node

def Covered (s : Handshake Bytes) (q : IngestionRequest) : Prop :=
  s.clock ≤ q.deadlineAtUtc → s.Acknowledged texts q.requestId

structure Pending (s : Handshake Bytes) (q : IngestionRequest) : Prop where
  bounded : Bounded q
  stamped : q.requestedAtUtc ≤ s.clock
  unknown : s.Unknown texts q.requestId

def Extension (extend : Option (ℤ × ℤ)) : Prop :=
  ∀ hold minimum, extend = some (hold, minimum) → 1 * second ≤ hold ∧ hold ≤ maxHold

def Serving (s : Handshake Bytes) : Control Bytes → Prop
  | .idle => True
  | .absentRequest following _ => ∀ q, following = some q → Pending texts s q
  | .absentAck following _ => ∀ q, following = some q → Pending texts s q
  | .removingRequest following => ∀ q, following = some q → Pending texts s q
  | .removingAck following => ∀ q, following = some q → Pending texts s q
  | .publishing q => Pending texts s q
  | .readingBack q => s.lease = some q
  | .polling q => s.lease = some q
  | .answered q => s.lease = some q ∧ Covered texts s q
  | .reading _ extend => Extension extend
  | .readingAck id extend raw =>
    Extension extend ∧ (parseRequestDeadline texts raw id).isSome = true
  | .rereading id extend raw =>
    Extension extend ∧ (parseRequestDeadline texts raw id).isSome = true ∧
      ∀ p, s.lease = some p → p.requestId = id → Covered texts s p
  | .judging id extend raw =>
    Extension extend ∧
      ∀ p, s.lease = some p → p.requestId = id → Covered texts s p ∧ raw = texts.body p
  | .comparing _ q _ issued =>
    Bounded q ∧ q.requestedAtUtc ≤ s.clock ∧
      ∀ p, s.lease = some p → p.requestId = q.requestId →
        Covered texts s p ∧ issued + renewalTimeout ≤ p.deadlineAtUtc
  | .replacing q _ issued =>
    Bounded q ∧ q.requestedAtUtc ≤ s.clock ∧
      ∀ p, s.lease = some p → p.requestId = q.requestId →
        Covered texts s p ∧ issued + renewalTimeout ≤ p.deadlineAtUtc
  | .confirming q _ => ∀ p, s.lease = some p → p = q ∧ Covered texts s p
  | .renewed q _ => ∀ p, s.lease = some p → p = q ∧ Covered texts s p

structure Inv (s : Handshake Bytes) : Prop where
  past : ∀ now, s.reader.now = some now → now ≤ s.clock + skew
  leased : ∀ q, s.lease = some q → Leased texts skew s q
  held : ∀ id deadline, s.held = some (id, deadline) →
    ∃ q, s.lease = some q ∧ q.requestId = id ∧
      (s.clock ≤ deadline → deadline ≤ q.deadlineAtUtc ∧ Covered texts s q)
  serving : Serving texts s s.server

variable {texts skew} {s t : Handshake Bytes} {q : IngestionRequest}

theorem inv_start (disk : Disk Bytes) (clock : ℤ) : (start disk clock).Inv texts skew where
  past now running := by cases running
  leased q there := by cases there
  held id deadline there := by cases there
  serving := trivial

theorem Inv.continuous (inv : s.Inv texts skew) : s.Continuous texts := by
  intro id deadline held running
  obtain ⟨q, lease, rfl, covered⟩ := inv.held id deadline held
  obtain ⟨within, acknowledged⟩ := covered running
  have running : s.clock ≤ q.deadlineAtUtc := le_trans running within
  refine ⟨acknowledged running, fun absent => ?_⟩
  have calm := ((inv.leased q lease).ready (acknowledged running) running).2
  rw [absent] at calm
  exact calm

theorem names_of_installed {node : Node Bytes} (installed : Installed texts skew q node) :
    Names texts node q.requestId :=
  .inl ⟨q, by rw [installed.1, texts.request_body], rfl⟩

variable (texts skew) in
structure Frame (s t : Handshake Bytes) : Prop where
  lease : t.lease = s.lease
  held : t.held = s.held
  clock : s.clock ≤ t.clock
  unknown : ∀ id, s.Unknown texts id → t.Unknown texts id
  leased : ∀ q, s.lease = some q → Leased texts skew t q
  covered : ∀ q, s.lease = some q → Covered texts s q → Covered texts t q

theorem Pending.frame (frame : Frame texts skew s t)
    (pending : Pending texts s q) : Pending texts t q where
  bounded := pending.bounded
  stamped := le_trans pending.stamped frame.clock
  unknown := frame.unknown _ pending.unknown

theorem Serving.frame (frame : Frame texts skew s t)
    {server : Control Bytes} (serving : Serving texts s server) : Serving texts t server := by
  have covered : ∀ p, t.lease = some p → Covered texts s p → Covered texts t p := by
    rw [frame.lease]
    exact frame.covered
  cases server with
  | idle => trivial
  | absentRequest following removed => exact fun q there => (serving q there).frame frame
  | absentAck following removed => exact fun q there => (serving q there).frame frame
  | removingRequest following => exact fun q there => (serving q there).frame frame
  | removingAck following => exact fun q there => (serving q there).frame frame
  | publishing q => exact Pending.frame frame serving
  | readingBack q => exact frame.lease.trans serving
  | polling q => exact frame.lease.trans serving
  | answered q => exact ⟨frame.lease.trans serving.1, frame.covered q serving.1 serving.2⟩
  | reading id extend => exact serving
  | readingAck id extend raw => exact serving
  | rereading id extend raw =>
    refine ⟨serving.1, serving.2.1, fun p lease same => covered p lease ?_⟩
    exact serving.2.2 p (frame.lease ▸ lease) same
  | judging id extend raw =>
    refine ⟨serving.1, fun p lease same => ?_⟩
    obtain ⟨ready, equal⟩ := serving.2 p (frame.lease ▸ lease) same
    exact ⟨covered p lease ready, equal⟩
  | comparing raw q minimum issued =>
    refine ⟨serving.1, le_trans serving.2.1 frame.clock, fun p lease same => ?_⟩
    obtain ⟨ready, within⟩ := serving.2.2 p (frame.lease ▸ lease) same
    exact ⟨covered p lease ready, within⟩
  | replacing q minimum issued =>
    refine ⟨serving.1, le_trans serving.2.1 frame.clock, fun p lease same => ?_⟩
    obtain ⟨ready, within⟩ := serving.2.2 p (frame.lease ▸ lease) same
    exact ⟨covered p lease ready, within⟩
  | confirming q minimum =>
    intro p lease
    obtain ⟨same, ready⟩ := serving p (frame.lease ▸ lease)
    exact ⟨same, covered p lease ready⟩
  | renewed q minimum =>
    intro p lease
    obtain ⟨same, ready⟩ := serving p (frame.lease ▸ lease)
    exact ⟨same, covered p lease ready⟩

theorem Inv.frame (inv : s.Inv texts skew) (frame : Frame texts skew s t)
    (past : ∀ now, t.reader.now = some now → now ≤ t.clock + skew)
    (serving : Serving texts s t.server) : t.Inv texts skew where
  past := past
  leased q lease := frame.leased q (frame.lease ▸ lease)
  held id deadline held := by
    obtain ⟨q, lease, same, covered⟩ := inv.held id deadline (frame.held ▸ held)
    refine ⟨q, frame.lease.trans lease, same, fun running => ?_⟩
    obtain ⟨within, ready⟩ := covered (le_trans frame.clock running)
    exact ⟨within, frame.covered q lease ready⟩
  serving := serving.frame frame

theorem frame_tick (inv : s.Inv texts skew) {clock : ℤ} (later : s.clock ≤ clock) :
    Frame texts skew s { s with clock := clock } where
  lease := rfl
  held := rfl
  clock := later
  unknown id unknown := ⟨unknown.request, unknown.marker, unknown.ack, unknown.reader⟩
  leased q lease := by
    have leased := inv.leased q lease
    exact
      { bounded := leased.bounded
        stamped := le_trans leased.stamped later
        request := leased.request
        marker := leased.marker
        ready := fun ready running => leased.ready ready (le_trans later running)
        valid := fun v found same running => leased.valid v found same (le_trans later running) }
  covered q lease covered running := covered (le_trans later running)

theorem frame_reader (inv : s.Inv texts skew) {reader : Phase Bytes}
    (calm : ∀ q, Calm q reader) (nothing : ∀ v, reader ≠ .finished (.valid v)) :
    Frame texts skew s { s with reader := reader } where
  lease := rfl
  held := rfl
  clock := le_rfl
  unknown id unknown :=
    ⟨unknown.request, unknown.marker, unknown.ack, fun v found => absurd found (nothing v)⟩
  leased q lease := by
    have leased := inv.leased q lease
    exact
      { bounded := leased.bounded
        stamped := leased.stamped
        request := leased.request
        marker := leased.marker
        ready := fun ready running => ⟨(leased.ready ready running).1, calm q⟩
        valid := fun v found => absurd found (nothing v) }
  covered q lease covered := covered

theorem frame_publishReady (inv : s.Inv texts skew) {v : IngestionRequest} {modified : ℤ}
    (found : s.reader = .finished (.valid v)) :
    Frame texts skew s
      { s with disk := { s.disk with ack := some ⟨texts.ready v.requestId, modified, true⟩ } } where
  lease := rfl
  held := rfl
  clock := le_rfl
  unknown id unknown := by
    refine ⟨unknown.request, unknown.marker, ?_, unknown.reader⟩
    rintro ⟨node, there, acks⟩
    cases there
    rw [texts.acks_ready] at acks
    exact unknown.reader v found (by simpa using acks)
  leased q lease := by
    have leased := inv.leased q lease
    exact
      { bounded := leased.bounded
        stamped := leased.stamped
        request := leased.request
        marker := leased.marker
        ready := by
          rintro ⟨node, there, acks⟩ running
          cases there
          rw [texts.acks_ready] at acks
          have same : v.requestId = q.requestId := by simpa using acks
          exact ⟨leased.valid v found same running, by rw [found]; exact same⟩
        valid := leased.valid }
  covered q lease covered running := by
    have calm := ((inv.leased q lease).ready (covered running) running).2
    rw [found] at calm
    exact ⟨_, rfl, by rw [texts.acks_ready, show v.requestId = q.requestId from calm]⟩

section Reader

variable [DecidableEq Bytes]

theorem advance_files (codec : Codec Bytes) (disk : Disk Bytes) (reader : Phase Bytes) :
    (((advance codec disk reader).1.request = disk.request ∧
        ((advance codec disk reader).1.marker = disk.marker ∨
          (advance codec disk reader).1.marker = none)) ∨
      ((advance codec disk reader).1.request = none ∧
        (advance codec disk reader).1.marker = disk.request) ∨
      (advance codec disk reader).1.request = disk.marker ∧
        (advance codec disk reader).1.marker = none) ∧
    ((advance codec disk reader).1.ack = disk.ack ∨ (advance codec disk reader).1.ack = none) := by
  cases reader with
  | isolating judged => cases there : disk.request <;> simp [advance, there]
  | restoring => cases there : disk.marker <;> simp [advance, there]
  | _ => simp [advance]

theorem advance_valid {codec : Codec Bytes} {disk : Disk Bytes} {reader : Phase Bytes}
    {v : IngestionRequest} (running : reader.resting = false)
    (found : (advance codec disk reader).2 = .finished (.valid v)) :
    (advance codec disk reader).1 = disk ∧
      ∃ node, disk.request = some node ∧ codec.request node.bytes = some v := by
  cases reader with
  | parsing now reading =>
    refine ⟨rfl, ?_⟩
    simp only [advance] at found
    split at found
    · cases found
    · cases found
    next request read =>
      have same : request = v := by
        split at found
        · simpa using found
        · cases found
      subst same
      cases reading with
      | checking check =>
        simp only [Reading.next] at read
        split at read <;> cases read
      | sizing =>
        simp only [Reading.next] at read
        split at read
        · split at read <;> cases read
        · cases read
      | loading size =>
        simp only [Reading.next] at read
        split at read
        next node there =>
          split at read
          · exact ⟨node, there, by simpa using read⟩
          · cases read
        · cases read
  | dead => cases running
  | finished outcome => cases running
  | looking now cleanup =>
    simp only [advance] at found
    split at found
    · cases found
    · split at found <;> cases found
  | requiring now check =>
    simp only [advance] at found
    split at found
    · split at found <;> cases found
    · cases found
  | ageing now =>
    simp only [advance] at found
    split at found
    · split at found <;> cases found
    · cases found
  | expecting =>
    simp only [advance] at found
    split at found <;> cases found
  | isolating judged =>
    cases there : disk.request with
    | none => simp [advance, there] at found
    | some node => cases judged <;> simp [advance, there, startComparing] at found
  | comparingLease expected reading =>
    simp only [advance, settle] at found
    split at found
    · cases found
    · cases found
    · split at found <;> cases found
  | comparingStale expected =>
    simp only [advance, settle] at found
    split at found
    · split at found <;> cases found
    · cases found
  | rechecking =>
    simp only [advance] at found
    split at found <;> cases found
  | restoring =>
    cases there : disk.marker <;> simp [advance, there] at found
  | acknowledging judged =>
    cases judged with
    | stale expected => cases found
    | lease expected =>
      simp only [advance] at found
      split at found
      · split at found <;> cases found
      · cases found
  | cleanupExpiredMarkers => cases found
  | discarding judged => cases found
  | unacknowledging => cases found
  | dropping => cases found

theorem calm_advance {node : Node Bytes} (near : -(clockSkewSeconds * second) ≤ skew)
    (far : skew ≤ clockSkewSeconds * second) (bounded : Bounded q)
    (there : s.disk.request = some node) (installed : Installed texts skew q node)
    (acknowledged : s.Acknowledged texts q.requestId) (running : s.clock ≤ q.deadlineAtUtc)
    (past : ∀ now, s.reader.now = some now → now ≤ s.clock + skew)
    (careful : ¬s.JudgesEarly texts) (calm : Calm q s.reader) :
    (advance texts.toCodec s.disk s.reader).1 = s.disk ∧
      Calm q (advance texts.toCodec s.disk s.reader).2 := by
  have read : texts.request node.bytes = some q := by rw [installed.1, texts.request_body]
  have careful := fun early => careful ⟨node, q, there, read, acknowledged, early⟩
  have modified := installed.2.2
  simp only [Bounded, maxHold, modifiedGrain, second, clockSkewSeconds] at *
  cases reader : s.reader with
  | parsing now reading =>
    have past := past now (by rw [reader]; rfl)
    refine ⟨rfl, ?_⟩
    simp only [advance, there]
    cases following : reading.next texts.toCodec (some node) with
    | inl following => trivial
    | inr result =>
      cases result with
      | none => trivial
      | some request =>
        obtain ⟨size, rfl, same⟩ : ∃ size, reading = .loading size ∧ request = q := by
          cases reading with
          | checking check =>
            simp only [Reading.next] at following
            split at following <;> cases following
          | sizing =>
            simp only [Reading.next] at following
            split at following <;> cases following
          | loading size =>
            simp only [Reading.next] at following
            split at following
            · rw [read] at following
              exact ⟨size, rfl, by simpa using following.symm⟩
            · cases following
        subst same
        have early : ¬now + 60 * 1000000000 < request.requestedAtUtc :=
          fun before => careful (by rw [reader]; exact decide_eq_true before)
        have current : ingestionLeaseExpiryReason request now = none := by
          rw [ingestionLeaseExpiryReason_eq_none]
          simp only [second, maximumLeaseSeconds, clockSkewSeconds]
          omega
        simp [current, Calm]
  | looking now cleanup => simp [advance, there, Calm]
  | requiring now check =>
    refine ⟨rfl, ?_⟩
    simp only [advance]
    split
    · split <;> trivial
    · trivial
  | ageing now =>
    have past := past now (by rw [reader]; rfl)
    have early : ¬now + 60 * 1000000000 < node.modified :=
      fun before => careful (by rw [reader]; exact decide_eq_true before)
    have young : staleFile now node.modified = false := by
      apply decide_eq_false
      simp only [maximumLeaseSeconds, clockSkewSeconds, second]
      omega
    simp [advance, there, young, Calm]
  | dead => exact ⟨rfl, trivial⟩
  | finished outcome =>
    rw [reader] at calm
    exact ⟨rfl, calm⟩
  | _ =>
    rw [reader] at calm
    exact calm.elim

variable (texts) in
-- The handshake after the next operation of the reader.
def operated (s : Handshake Bytes) : Handshake Bytes :=
  { s with
    disk := (advance texts.toCodec s.disk s.reader).1
    reader := (advance texts.toCodec s.disk s.reader).2 }

theorem acknowledged_operated {id : String} (ready : (s.operated texts).Acknowledged texts id) :
    s.Acknowledged texts id := by
  obtain ⟨node, there, acks⟩ := ready
  rcases (advance_files texts.toCodec s.disk s.reader).2 with same | gone
  · exact ⟨node, same ▸ there, acks⟩
  · simp [operated, gone] at there

theorem unknown_operated {id : String} (running : s.reader.resting = false)
    (unknown : s.Unknown texts id) : (s.operated texts).Unknown texts id := by
  have files := (advance_files texts.toCodec s.disk s.reader).1
  refine ⟨fun node there => ?_, fun node there => ?_, mt acknowledged_operated unknown.ack,
    fun v found => ?_⟩
  · simp only [operated] at there
    rcases files with ⟨same, _⟩ | ⟨gone, _⟩ | ⟨restored, _⟩
    · exact unknown.request node (same ▸ there)
    · rw [gone] at there
      cases there
    · exact unknown.marker node (restored ▸ there)
  · simp only [operated] at there
    rcases files with ⟨_, same | gone⟩ | ⟨_, moved⟩ | ⟨_, gone⟩
    · exact unknown.marker node (same ▸ there)
    · rw [gone] at there
      cases there
    · exact unknown.request node (moved ▸ there)
    · rw [gone] at there
      cases there
  · obtain ⟨_, node, there, read⟩ := advance_valid running found
    exact fun same => unknown.request node there (.inl ⟨v, read, same⟩)

theorem frame_operate (inv : s.Inv texts skew) (near : -(clockSkewSeconds * second) ≤ skew)
    (far : skew ≤ clockSkewSeconds * second) (running : s.reader.resting = false)
    (careful : ¬s.JudgesEarly texts) :
    Frame texts skew s (s.operated texts) where
  lease := rfl
  held := rfl
  clock := le_rfl
  unknown id := unknown_operated running
  leased q lease := by
    have leased := inv.leased q lease
    have files := (advance_files texts.toCodec s.disk s.reader).1
    constructor
    case bounded => exact leased.bounded
    case stamped => exact leased.stamped
    case request =>
      intro node there names
      simp only [operated] at there
      rcases files with ⟨same, _⟩ | ⟨gone, _⟩ | ⟨restored, _⟩
      · exact leased.request node (same ▸ there) names
      · rw [gone] at there
        cases there
      · exact (leased.marker node (restored ▸ there) names).1
    case marker =>
      intro node there names
      simp only [operated] at there ⊢
      rcases files with ⟨same, kept | gone⟩ | ⟨gone, moved⟩ | ⟨_, gone⟩
      · rw [same]
        exact leased.marker node (kept ▸ there) names
      · rw [gone] at there
        cases there
      · refine ⟨leased.request node (moved ▸ there) names, fun other at_path => ?_⟩
        rw [gone] at at_path
        cases at_path
      · rw [gone] at there
        cases there
    case ready =>
      intro ready unexpired
      obtain ⟨⟨node, there, installed⟩, calm⟩ :=
        leased.ready (acknowledged_operated ready) unexpired
      obtain ⟨same, after⟩ := calm_advance near far leased.bounded there installed
        (acknowledged_operated ready) unexpired inv.past careful calm
      exact ⟨⟨node, by rw [operated, same]; exact there, installed⟩, after⟩
    case valid =>
      intro v found same unexpired
      obtain ⟨kept, node, there, read⟩ := advance_valid running found
      exact ⟨node, by rw [operated, kept]; exact there,
        leased.request node there (.inl ⟨v, read, same⟩)⟩
  covered q lease covered unexpired := by
    have leased := inv.leased q lease
    obtain ⟨⟨node, there, installed⟩, calm⟩ := leased.ready (covered unexpired) unexpired
    obtain ⟨same, _⟩ := calm_advance near far leased.bounded there installed
      (covered unexpired) unexpired inv.past careful calm
    obtain ⟨ack, at_path, acks⟩ := covered unexpired
    exact ⟨ack, by rw [operated, same]; exact at_path, acks⟩

theorem past_operated (past : ∀ now, s.reader.now = some now → now ≤ s.clock + skew) (now : ℤ)
    (reading : (s.operated texts).reader.now = some now) : now ≤ s.clock + skew := by
  have kept : s.reader.now = some now := by
    simp only [operated] at reading
    cases reader : s.reader with
    | parsing earlier part =>
      rw [reader] at reading
      simp only [advance] at reading
      split at reading
      · exact reading
      · exact reading
      · split at reading <;> cases reading
    | looking earlier cleanup =>
      rw [reader] at reading
      simp only [advance] at reading
      split at reading
      · exact reading
      · split at reading <;> cases reading
    | requiring earlier check =>
      rw [reader] at reading
      simp only [advance] at reading
      split at reading
      · split at reading <;> exact reading
      · cases reading
    | ageing earlier =>
      rw [reader] at reading
      simp only [advance] at reading
      split at reading
      · split at reading <;> cases reading
      · cases reading
    | expecting =>
      rw [reader] at reading
      simp only [advance] at reading
      split at reading <;> cases reading
    | isolating judged =>
      rw [reader] at reading
      cases there : s.disk.request with
      | none => simp [advance, there, Phase.now] at reading
      | some node => cases judged <;> simp [advance, there, startComparing, Phase.now] at reading
    | comparingLease expected part =>
      rw [reader] at reading
      simp only [advance, settle] at reading
      split at reading
      · cases reading
      · cases reading
      · split at reading <;> cases reading
    | comparingStale expected =>
      rw [reader] at reading
      simp only [advance, settle] at reading
      split at reading
      · split at reading <;> cases reading
      · cases reading
    | rechecking =>
      rw [reader] at reading
      simp only [advance] at reading
      split at reading <;> cases reading
    | restoring =>
      rw [reader] at reading
      cases there : s.disk.marker <;> simp [advance, there, Phase.now] at reading
    | acknowledging judged =>
      rw [reader] at reading
      cases judged with
      | stale expected => cases reading
      | lease expected =>
        simp only [advance] at reading
        split at reading
        · split at reading <;> cases reading
        · cases reading
    | _ =>
      rw [reader] at reading
      cases reading
  exact past now kept

end Reader

theorem frame_server (inv : s.Inv texts skew) (server : Control Bytes) :
    Frame texts skew s { s with server := server } where
  lease := rfl
  held := rfl
  clock := le_rfl
  unknown id unknown := ⟨unknown.request, unknown.marker, unknown.ack, unknown.reader⟩
  leased q lease := by
    have leased := inv.leased q lease
    exact ⟨leased.bounded, leased.stamped, leased.request, leased.marker, leased.ready,
      leased.valid⟩
  covered q lease covered := covered

theorem Inv.serves (inv : s.Inv texts skew) {server : Control Bytes}
    (serving : Serving texts s server) : { s with server := server }.Inv texts skew :=
  inv.frame (frame_server inv server) inv.past serving

theorem readControl_eq_some {node : Option (Node Bytes)} {raw : Bytes}
    (read : readControl node = some raw) :
    ∃ file, node = some file ∧ file.regular = true ∧ file.bytes = raw := by
  cases node with
  | none => cases read
  | some file =>
    cases regular : file.regular with
    | false => simp [readControl, regular] at read
    | true => exact ⟨file, rfl, regular, by simpa [readControl, regular] using read⟩

theorem parseRequestDeadline_spec {raw : Bytes} {id : String} {deadline : ℤ}
    (parsed : parseRequestDeadline texts raw id = some deadline) :
    ∃ q, texts.lease raw = some q ∧ q.requestId = id ∧ q.deadlineAtUtc = deadline := by
  simp only [parseRequestDeadline] at parsed
  split at parsed
  · cases parsed
  next q read =>
    split at parsed
    · cases parsed
    next accepted =>
      cases parsed
      exact ⟨q, read, by_contra fun other => accepted (.inl other), rfl⟩

theorem utcNow_le (clock : ℤ) : utcNow clock ≤ clock ∧ clock < utcNow clock + 1000 := by
  simp only [utcNow]
  omega

theorem bounded_newLease {id : String} {clock length : ℤ} (least : 1 * second ≤ length)
    (most : length ≤ maxHold) : Bounded (newLease id clock length) := by
  simp only [Bounded, newLease]
  omega

theorem leaseLength_bounds (timeout : ℤ) (hold : Option ℤ) :
    1 * second ≤ leaseLength timeout hold ∧ leaseLength timeout hold ≤ maxHold := by
  cases hold <;> simp only [leaseLength, maxHold, second] <;> omega

theorem inv_withdrawn (inv : s.Inv texts skew) {disk : Disk Bytes} {server : Control Bytes}
    (unknown : ∀ id, s.Unknown texts id → { s with disk := disk }.Unknown texts id)
    (serving : ∀ following removed, server = .absentRequest following removed ∨
      server = .removingAck following → ∀ q, following = some q → Pending texts s q)
    (place : ∃ following, server = .absentRequest following true ∨ server = .removingAck following) :
    Inv texts skew { s with disk := disk, server := server, lease := none, held := none } where
  past := inv.past
  leased q lease := by cases lease
  held id deadline held := by cases held
  serving := by
    obtain ⟨following, here⟩ := place
    have pending : ∀ q, following = some q →
        Pending texts { s with disk := disk, server := server, lease := none, held := none } q := by
      intro q there
      have before := serving following true (here.imp id id) q there
      have after := unknown q.requestId before.unknown
      exact ⟨before.bounded, before.stamped, ⟨after.request, after.marker, after.ack, after.reader⟩⟩
    rcases here with rfl | rfl
    · exact pending
    · exact pending

theorem inv_publishing (inv : s.Inv texts skew) (pending : Pending texts s q) {modified : ℤ}
    (dated : Dated skew s q modified) :
    Inv texts skew { s with
      disk := s.install texts q modified
      server := .readingBack q
      lease := some q
      held := none } where
  past := inv.past
  leased p lease := by
    cases lease
    constructor
    case bounded => exact pending.bounded
    case stamped => exact pending.stamped
    case request =>
      intro node there _
      cases there
      exact ⟨rfl, rfl, dated.1⟩
    case marker => exact fun node there names => absurd names (pending.unknown.marker node there)
    case ready => exact fun ready => absurd ready pending.unknown.ack
    case valid => exact fun v found same => absurd same (pending.unknown.reader v found)
  held id deadline held := by cases held
  serving := rfl

theorem inv_answered (inv : s.Inv texts skew) (lease : s.lease = some q)
    (covered : Covered texts s q) :
    Inv texts skew { s with
      server := .idle
      held := some (q.requestId, q.deadlineAtUtc) } where
  past := inv.past
  leased p known := by
    have leased := inv.leased p known
    exact ⟨leased.bounded, leased.stamped, leased.request, leased.marker, leased.ready,
      leased.valid⟩
  held id deadline held := by
    cases held
    exact ⟨q, lease, rfl, fun _ => ⟨le_rfl, covered⟩⟩
  serving := trivial

theorem inv_renewed (inv : s.Inv texts skew)
    (serving : ∀ p, s.lease = some p → p = q ∧ Covered texts s p)
    (extended : s.held.map Prod.fst = some q.requestId) :
    Inv texts skew { s with
      server := .idle
      held := some (q.requestId, q.deadlineAtUtc) } := by
  obtain ⟨⟨id, deadline⟩, held, _⟩ := Option.map_eq_some_iff.mp extended
  obtain ⟨p, lease, _, _⟩ := inv.held id deadline held
  obtain ⟨rfl, covered⟩ := serving p lease
  exact inv_answered inv lease covered

theorem inv_replacing (inv : s.Inv texts skew) {minimum issued modified : ℤ}
    (place : s.server = .replacing q minimum issued) (in_time : s.clock ≤ issued + renewalTimeout)
    (dated : Dated skew s q modified) (careful : ¬s.Shortens) :
    Inv texts skew { s with
      disk := s.install texts q modified
      server := .confirming q minimum
      lease := if s.extends_ q then some q else none
      held := if s.extends_ q then s.held else none } := by
  have serving := inv.serving
  rw [place] at serving
  obtain ⟨bounded, stamped, known⟩ := serving
  cases extending : s.extends_ q with
  | false =>
    exact ⟨inv.past, fun p lease => (by cases lease), fun id deadline held => (by cases held),
      fun p lease => by cases lease⟩
  | true =>
    obtain ⟨p, lease, same⟩ : ∃ p, s.lease = some p ∧ p.requestId = q.requestId := by
      simpa [extends_, Option.any_eq_true] using extending
    obtain ⟨covered, enough⟩ := known p lease same
    have running : s.clock ≤ p.deadlineAtUtc := le_trans in_time enough
    have leased := inv.leased p lease
    obtain ⟨⟨node, there, installed⟩, calm⟩ := leased.ready (covered running) running
    have acknowledged : s.Acknowledged texts q.requestId := same ▸ covered running
    refine ⟨inv.past, fun r renewed => ?_, fun id deadline held => ?_, fun r renewed => ?_⟩
    · cases renewed
      constructor
      case bounded => exact bounded
      case stamped => exact stamped
      case request =>
        intro other at_path _
        cases at_path
        exact ⟨rfl, rfl, dated.1⟩
      case marker =>
        intro hidden aside names
        obtain ⟨_, elsewhere⟩ := leased.marker hidden aside (same ▸ names)
        exact absurd (names_of_installed installed) (elsewhere node there)
      case ready =>
        refine fun _ _ => ⟨⟨_, rfl, rfl, rfl, dated.1⟩, ?_⟩
        change Calm q s.reader
        cases reader : s.reader with
        | finished outcome =>
          rw [reader] at calm
          cases outcome with
          | absent => exact calm
          | valid v => exact Eq.trans calm same
          | invalid => trivial
        | _ =>
          rw [reader] at calm
          exact calm
      case valid => exact fun v found _ _ => ⟨_, rfl, rfl, rfl, dated.1⟩
    · obtain ⟨r, lease', rfl, _⟩ := inv.held id deadline held
      obtain rfl : p = r := by
        rw [lease] at lease'
        exact Option.some.inj lease'
      refine ⟨q, rfl, same.symm, fun unexpired => ⟨?_, fun _ => acknowledged⟩⟩
      by_contra shorter
      exact careful ⟨q, deadline, by rw [place]; rfl, same ▸ held, unexpired, not_le.mp shorter⟩
    · cases renewed
      exact ⟨rfl, fun _ => acknowledged⟩

theorem serving_judging (inv : s.Inv texts skew) {id : String} {extend : Option (ℤ × ℤ)}
    {raw : Bytes} (place : s.server = .rereading id extend raw)
    (same : readControl s.disk.request = some raw) :
    Serving texts s (.judging id extend raw) := by
  have serving := inv.serving
  rw [place] at serving
  obtain ⟨extension, parsed, covered⟩ := serving
  refine ⟨extension, fun p lease named => ⟨covered p lease named, ?_⟩⟩
  obtain ⟨node, there, _, rfl⟩ := readControl_eq_some same
  obtain ⟨deadline, parsed⟩ := Option.isSome_iff_exists.mp parsed
  obtain ⟨q, read, rfl, _⟩ := parseRequestDeadline_spec parsed
  exact ((inv.leased p lease).request node there (.inr ⟨q, read, named.symm⟩)).1

theorem serving_comparing (inv : s.Inv texts skew) {id : String} {hold minimum deadline : ℤ}
    {raw : Bytes} (place : s.server = .judging id (some (hold, minimum)) raw)
    (parsed : parseRequestDeadline texts raw id = some deadline)
    (margin : ¬deadline - utcNow s.clock < renewalWriteMargin) :
    Serving texts s (.comparing raw (newLease id s.clock hold) minimum s.clock) := by
  have serving := inv.serving
  rw [place] at serving
  obtain ⟨extension, known⟩ := serving
  obtain ⟨least, most⟩ := extension hold minimum rfl
  have now := utcNow_le s.clock
  refine ⟨bounded_newLease least most, now.1, fun p lease named => ?_⟩
  obtain ⟨covered, rfl⟩ := known p lease named
  obtain ⟨q, read, _, rfl⟩ := parseRequestDeadline_spec parsed
  rw [texts.lease_body] at read
  cases read
  refine ⟨covered, ?_⟩
  simp only [renewalTimeout, renewalWriteMargin, second] at *
  omega

section Serve

variable [DecidableEq Bytes]

theorem inv_serve (inv : s.Inv texts skew) {modified : ℤ} (careful : ¬s.Shortens)
    (stepped : s.serve texts skew modified = some t) : t.Inv texts skew := by
  have serving := inv.serving
  cases place : s.server with
  | idle => simp [serve, place] at stepped
  | absentRequest following removed =>
    rw [place] at serving
    simp only [serve, place, Option.some.injEq] at stepped
    subst stepped
    split
    · exact inv.serves serving
    · split
      · exact inv.serves trivial
      · exact inv.serves serving
  | absentAck following removed =>
    rw [place] at serving
    simp only [serve, place, Option.some.injEq] at stepped
    subst stepped
    split
    · cases following with
      | none => exact inv.serves trivial
      | some q => exact inv.serves (serving q rfl)
    · split
      · exact inv.serves trivial
      · exact inv.serves serving
  | removingRequest following =>
    rw [place] at serving
    simp only [serve, place, Option.some.injEq] at stepped
    subst stepped
    refine inv_withdrawn inv (fun id unknown => ?_) (fun other removed here => ?_)
      ⟨following, .inr rfl⟩
    · exact ⟨fun node there => (by cases there), unknown.marker, unknown.ack, unknown.reader⟩
    · rcases here with here | here
      · cases here
      · cases here
        exact serving
  | removingAck following =>
    rw [place] at serving
    simp only [serve, place, Option.some.injEq] at stepped
    subst stepped
    refine inv_withdrawn inv (fun id unknown => ?_) (fun other removed here => ?_)
      ⟨following, .inl rfl⟩
    · refine ⟨unknown.request, unknown.marker, ?_, unknown.reader⟩
      rintro ⟨node, there, _⟩
      cases there
    · rcases here with here | here
      · cases here
        exact serving
      · cases here
  | publishing q =>
    rw [place] at serving
    simp only [serve, place] at stepped
    split at stepped
    next dated =>
      cases stepped
      exact inv_publishing inv serving dated
    · cases stepped
  | readingBack q =>
    rw [place] at serving
    simp only [serve, place, Option.some.injEq] at stepped
    subst stepped
    split
    · exact inv.serves serving
    · exact inv.serves trivial
  | polling q =>
    rw [place] at serving
    simp only [serve, place, Option.some.injEq] at stepped
    subst stepped
    split
    · exact inv.serves serving
    next node there =>
      split
      next acks => exact inv.serves ⟨serving, fun _ => ⟨node, there, acks⟩⟩
      · exact inv.serves trivial
  | answered q =>
    rw [place] at serving
    simp only [serve, place, Option.some.injEq] at stepped
    subst stepped
    exact inv_answered inv serving.1 serving.2
  | reading id extend =>
    rw [place] at serving
    simp only [serve, place, Option.some.injEq] at stepped
    subst stepped
    split
    · exact inv.serves trivial
    · split
      next parsed => exact inv.serves ⟨serving, parsed⟩
      · exact inv.serves trivial
  | readingAck id extend raw =>
    rw [place] at serving
    simp only [serve, place, Option.some.injEq] at stepped
    subst stepped
    split
    next ready =>
      refine inv.serves ⟨serving.1, serving.2, fun p lease named _ => ?_⟩
      obtain ⟨bytes, read, acks⟩ := Option.bind_eq_some_iff.mp ready
      obtain ⟨node, there, _, rfl⟩ := readControl_eq_some read
      exact ⟨node, there, named ▸ acks⟩
    · exact inv.serves trivial
  | rereading id extend raw =>
    simp only [serve, place, Option.some.injEq] at stepped
    subst stepped
    split
    next same => exact inv.serves (serving_judging inv place same)
    · exact inv.serves trivial
  | judging id extend raw =>
    simp only [serve, place, Option.some.injEq] at stepped
    subst stepped
    split
    next hold minimum deadline parsed =>
      split
      · exact inv.serves trivial
      next margin => exact inv.serves (serving_comparing inv place parsed margin)
    · exact inv.serves trivial
  | comparing raw q minimum issued =>
    rw [place] at serving
    simp only [serve, place] at stepped
    split at stepped
    · cases stepped
      split
      · exact inv.serves serving
      · exact inv.serves trivial
    · cases stepped
  | replacing q minimum issued =>
    simp only [serve, place] at stepped
    split at stepped
    next ready =>
      cases stepped
      exact inv_replacing inv place ready.1 ready.2 careful
    · cases stepped
  | confirming q minimum =>
    rw [place] at serving
    simp only [serve, place, Option.some.injEq] at stepped
    subst stepped
    split
    · exact inv.serves serving
    · exact inv.serves trivial
  | renewed q minimum =>
    rw [place] at serving
    simp only [serve, place, Option.some.injEq] at stepped
    subst stepped
    split
    next extended => exact inv_renewed inv serving extended.2
    · exact inv.serves trivial

theorem inv_step {e : Signal} (near : -(clockSkewSeconds * second) ≤ skew)
    (far : skew ≤ clockSkewSeconds * second) (inv : s.Inv texts skew) (fresh : s.Fresh texts e)
    (careful : s.Careful texts e) (stepped : step texts skew s e t) : t.Inv texts skew := by
  have serving := inv.serving
  cases e with
  | tick clock =>
    simp only [step, next] at stepped
    split at stepped
    next later =>
      cases stepped
      exact inv.frame (frame_tick inv later)
        (fun now reading => le_trans (inv.past now reading) (by simpa using later)) inv.serving
    · cases stepped
  | call cleanup =>
    simp only [step, next] at stepped
    split at stepped
    · cases stepped
      refine inv.frame (frame_reader inv (fun _ => trivial) (fun v => by simp)) ?_ inv.serving
      intro now reading
      cases reading
      exact le_rfl
    · cases stepped
  | operate =>
    simp only [step, next] at stepped
    split at stepped
    · cases stepped
    next running =>
      cases stepped
      have running : s.reader.resting = false := by simpa using running
      exact inv.frame (frame_operate inv near far running careful) (past_operated inv.past)
        inv.serving
  | die =>
    cases stepped
    exact inv.frame (frame_reader inv (fun _ => trivial) (fun v => by simp))
      (fun now reading => by cases reading) inv.serving
  | publishReady =>
    simp only [step, next] at stepped
    split at stepped
    next v found =>
      cases stepped
      exact inv.frame (frame_publishReady inv found) inv.past inv.serving
    · cases stepped
  | requestQuiesce id timeout hold =>
    simp only [step, next] at stepped
    split at stepped
    · cases stepped
      obtain ⟨least, most⟩ := leaseLength_bounds timeout hold
      refine inv.serves fun q there => ?_
      cases there
      exact ⟨bounded_newLease least most, (utcNow_le s.clock).1, fresh⟩
    · cases stepped
  | verifyQuiesce id =>
    simp only [step, next] at stepped
    split at stepped
    · cases stepped
      exact inv.serves fun hold minimum there => by cases there
    · cases stepped
  | renewQuiesce id hold minimum =>
    simp only [step, next] at stepped
    split at stepped
    next accepted =>
      cases stepped
      refine inv.serves fun other least there => ?_
      cases there
      exact ⟨accepted.2.1, accepted.2.2.1⟩
    · cases stepped
  | resumeLogger =>
    simp only [step, next] at stepped
    split at stepped
    · cases stepped
      exact inv.serves fun q there => by cases there
    · cases stepped
  | serve modified => exact inv_serve inv careful stepped
  | skip =>
    simp only [step, next] at stepped
    split at stepped
    next following place =>
      cases stepped
      rw [place] at serving
      exact inv.serves serving
    next following place =>
      cases stepped
      rw [place] at serving
      exact inv.serves serving
    next following place =>
      cases stepped
      rw [place] at serving
      exact inv.serves serving
    next following place =>
      cases stepped
      rw [place] at serving
      exact inv.serves serving
    · cases stepped
  | giveUp =>
    cases stepped
    exact inv.serves trivial

/-- With clocks within the tolerated skew, careful runs keep every returned lease. -/
theorem lease_continuous (texts : ControlTexts Bytes) (skew : ℤ)
    (near : -(clockSkewSeconds * second) ≤ skew) (far : skew ≤ clockSkewSeconds * second)
    (disk : Disk Bytes) (clock : ℤ) (es : List Signal) (t : Handshake Bytes)
    (run : Run (step texts skew) (fun s e => s.Fresh texts e ∧ s.Careful texts e)
      (start disk clock) es t) : t.Continuous texts := by
  have inv : t.Inv texts skew :=
    run.invariant (Inv texts skew)
      (fun _ _ _ inv allowed stepped => inv_step near far inv allowed.1 allowed.2 stepped)
      (inv_start disk clock)
  exact inv.continuous

end Serve

section Runs

def plain : ControlTexts (IngestionRequest ⊕ String) where
  size := fun _ => 128
  request := Sum.getLeft?
  acknowledged := Sum.getRight?
  body := .inl
  lease := Sum.getLeft?
  ready := .inr
  acks := Sum.getRight?
  request_body := fun _ => rfl
  lease_body := fun _ => rfl
  size_body := fun _ => by decide
  acks_ready := fun _ => rfl

def empty : Disk (IngestionRequest ⊕ String) where
  request := none
  marker := none
  ack := none

def handshake (skew : ℤ) : List Signal :=
  [.requestQuiesce "r" (30 * second) (some (600 * second))] ++
    List.replicate 4 (.serve skew) ++ [.call true] ++ List.replicate 7 .operate ++
    [.publishReady, .serve skew, .serve skew]

-- `renew_quiesce` up to its rename.
def renewal (skew hold : ℤ) : List Signal :=
  [.renewQuiesce "r" hold 0] ++ List.replicate 6 (.serve skew)

theorem lease_continuous_renewed :
    ∃ t : Handshake (IngestionRequest ⊕ String),
      (t.held = some ("r", 660 * second) ∧ t.clock = 605 * second ∧
        t.reader.found.isSome = true) ∧ t.Continuous plain := by
  have traced : (trace (next plain 0) (fun s e => s.Fresh plain e ∧ s.Careful plain e)
      (start empty 0)
      (handshake 0 ++ [.tick (60 * second)] ++ renewal (60 * second) (600 * second) ++
        List.replicate 2 (.serve 0) ++ [.tick (605 * second), .call true] ++
        List.replicate 7 .operate)).map
      (fun t => (t.held, t.clock, t.reader.found.isSome)) =
        some (some ("r", 660 * second), 605 * second, true) := by
    decide +kernel
  obtain ⟨t, run, facts⟩ := Option.map_eq_some_iff.mp traced
  simp only [Prod.mk.injEq] at facts
  exact ⟨t, facts, lease_continuous plain 0 (by decide) (by decide) empty 0 _ t
    (run_of_trace _ _ run)⟩

/-- A renewal by one second, on a logger whose clock is the tolerated 60 s ahead: the request is
gone while the lease that was returned has almost ten minutes to run. -/
theorem not_lease_continuous :
    ¬∀ (skew : ℤ), -(clockSkewSeconds * second) ≤ skew → skew ≤ clockSkewSeconds * second →
      ∀ (disk : Disk (IngestionRequest ⊕ String)) (clock : ℤ) (es : List Signal)
        (t : Handshake (IngestionRequest ⊕ String)),
        Run (step plain skew) (fun s e => s.Fresh plain e) (start disk clock) es t →
          t.Continuous plain := by
  intro always
  have traced : (trace (next plain (60 * second)) (fun s e => s.Fresh plain e) (start empty 0)
      (handshake (60 * second) ++ renewal (60 * second) (1 * second) ++
        [.tick (2 * second), .call true] ++ List.replicate 18 .operate)).map
      (fun t => (t.held, t.clock, t.reader, t.disk.ack.isSome)) =
        some (some ("r", 600 * second), 2 * second, .finished .absent, false) := by
    decide +kernel
  obtain ⟨t, run, facts⟩ := Option.map_eq_some_iff.mp traced
  simp only [Prod.mk.injEq] at facts
  obtain ⟨held, clock, absent, _⟩ := facts
  exact (always (60 * second) (by decide) le_rfl empty 0 _ t (run_of_trace _ _ run)
    "r" (600 * second) held (by rw [clock]; decide)).2 absent

end Runs

end Handshake

end DashcamStats.Quiesce
