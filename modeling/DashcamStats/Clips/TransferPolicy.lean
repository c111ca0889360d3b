import DashcamStats.Clips.ParkedGuard
import DashcamStats.Library.Intervals

namespace DashcamStats.Clips

def guardPaddingMs : ℤ := 122000

def quietTransferDeferMs : ℤ := 360000

def movementReportMaxBytes : ℤ := 512 * 1024

inductive Decision
  | upload | defer | skip
  deriving DecidableEq, Repr

inductive Reason
  | policyDisabled | lockedClip | orphanPartial | cardOrIdentityUnknown | timingUnknown
  | observationGap | positiveMovement | ignitionBuffer | accNotFullyOff | unstableOrUnreadable
  | visualActivity | analysisError | visualIncomplete | fileSettling | parkedVisualQuiet
  | visualRequired | awaitingPostGuard | analysisPending | peerCoverageRequired
  | peerAnalysisPending
  deriving DecidableEq, Repr

inductive Classification
  | movingObserved | sampledStationary | accOffCandidate | unknown
  deriving DecidableEq, Repr

structure Digest where
  text : String
  hex : text.toList.length = 64 ∧ '/' ∉ text.toList

instance : DecidableEq Digest := fun a b =>
  decidable_of_iff (a.text = b.text) (by cases a; cases b; simp)

structure MovementClip where
  relativePath : String
  size : ℕ
  mtime : ℕ
  locked : Bool
  orphan : Bool
  deriving DecidableEq

/-- The `clip` object of a row. Local times count nanoseconds. -/
structure Body where
  relativePath : String
  cameraKey : String
  fingerprint : Option Digest
  localStart : Option ℤ
  startUtc : Option ℤ
  endUtc : Option ℤ
  durationMs : Option ℤ
  bounded : Bool
  classification : Classification
  reasons : List String
  complete : Bool
  deriving DecidableEq

structure PolicyClip where
  clip : MovementClip
  body : Body
  stable : Bool
  freshFingerprint : Bool
  startMs : Option ℤ
  boundEndMs : Option ℤ
  -- `MovementManifest` calls a fingerprint fresh only where there is one.
  fingerprinted : freshFingerprint = true → body.fingerprint ≠ none

structure Row where
  clip : Body
  decision : Decision
  reason : Reason
  guard : GuardProof
  visual : VisualProof
  deferUntil : Option ℤ
  deriving DecidableEq

def keyStem (item : PolicyClip) (card : String) : String :=
  "parked_visual_quiet_v1/2/resources-4/" ++ card ++ "/" ++ item.clip.relativePath ++ "/" ++
    toString item.clip.size ++ "/" ++ toString item.clip.mtime

def key (item : PolicyClip) (card : String) : String :=
  keyStem item card ++ "/" ++ (item.body.fingerprint.map Digest.text).getD ""

def Proved (entries : List (String × VisualProof)) : Prop :=
  ∀ entry ∈ entries, validVisual entry.2 = true →
    ∃ item card, item.freshFingerprint = true ∧ entry.1 = key item card

/-- `cached`, oldest first. -/
structure Cache where
  entries : List (String × VisualProof)
  proved : Proved entries

namespace Cache

def empty : Cache := { entries := [], proved := fun _ member => absurd member List.not_mem_nil }

def find (cache : Cache) (identity : String) : Option VisualProof :=
  (cache.entries.find? fun entry => entry.1 = identity).map Prod.snd

theorem proved_of_subset {entries kept : List (String × VisualProof)} (proved : Proved entries)
    (subset : ∀ entry ∈ kept, entry ∈ entries) : Proved kept :=
  fun entry member => proved entry (subset entry member)

-- `cached.keys.retainAll(present)`
def retain (cache : Cache) (present : List String) : Cache :=
  { entries := cache.entries.filter fun entry => entry.1 ∈ present
    proved := proved_of_subset cache.proved fun _ => List.mem_of_mem_filter }

def placed (entries : List (String × VisualProof)) (identity : String) (visual : VisualProof) :
    List (String × VisualProof) :=
  let all := (entries.filter fun entry => entry.1 ≠ identity) ++ [(identity, visual)]
  all.drop (all.length - 128)

theorem mem_placed {entries : List (String × VisualProof)} {identity : String}
    {visual : VisualProof} {entry : String × VisualProof}
    (member : entry ∈ placed entries identity visual) :
    entry ∈ entries ∨ entry = (identity, visual) := by
  have among := List.mem_of_mem_drop member
  rcases List.mem_append.mp among with old | new
  · exact .inl (List.mem_of_mem_filter old)
  · exact .inr (List.mem_singleton.mp new)

-- The end of `analyzeCandidate`: a candidate has a fresh fingerprint.
def record (cache : Cache) (item : PolicyClip) (card : String) (visual : VisualProof)
    (fresh : item.freshFingerprint = true) : Cache :=
  { entries := placed cache.entries (key item card) visual
    proved := by
      intro entry member complete
      rcases mem_placed member with old | rfl
      · exact cache.proved entry old complete
      · exact ⟨item, card, fresh, rfl⟩ }

def failed (cache : Cache) (identity : String) (reason : String) : Cache :=
  { entries := placed cache.entries identity (emptyVisual .error reason)
    proved := by
      intro entry member complete
      rcases mem_placed member with old | rfl
      · exact cache.proved entry old complete
      · rw [emptyVisual_not_valid] at complete
        exact absurd complete Bool.false_ne_true }

def reload (saved : Cache) (readable : Bool) : Cache :=
  { entries := if readable then saved.entries.take 128 else []
    proved := by
      cases readable with
      | false => simp [Proved]
      | true => exact proved_of_subset saved.proved fun _ => List.mem_of_mem_take }

end Cache

def inVideo (path : String) : Bool := "DCIM/Video/".toList.isPrefixOf path.toList

structure Journal where
  between : ℤ → ℤ → List MotionObservation
  evidenceHealthy : ℤ → ℤ → Bool

/-- What `evaluate` reads while it looks at one clip: the cache and the journal move on
between two clips. -/
structure Reading where
  item : PolicyClip
  cache : Cache
  -- `resourceRetry.pending`
  retryPending : Bool
  -- The classification and the reasons of `MovementClassifier.assess`.
  assess : ℤ → ℤ → Classification × List String
  past : Journal
  full : Journal

def guard (journal : Journal) (timezone : String) (start stop observedThrough : Option ℤ) :
    GuardProof :=
  let lower := start.map fun s => s - guardPaddingMs
  let upper := stop.map fun e =>
    match observedThrough with
    | none => e + guardPaddingMs
    | some seen => min (e + guardPaddingMs) seen
  match lower, upper with
  | some lo, some hi =>
    ParkedGuard.assess lower upper (journal.between lo hi) (journal.evidenceHealthy lo hi) timezone
  | _, _ => ParkedGuard.assess lower upper [] false timezone

/-- The state that is the same for all the clips of one `evaluate`. -/
structure Survey where
  active : Bool
  card : Option String
  now : ℤ
  observedThrough : Option ℤ
  timezone : String

namespace Reading

def visual (r : Reading) (card : Option String) : VisualProof :=
  match card with
  | none => emptyVisual .notAnalyzed "analysis_pending"
  | some card =>
    match r.cache.find (key r.item card) with
    | none => emptyVisual .notAnalyzed "analysis_pending"
    | some value =>
      if r.item.boundEndMs.isSome ∧ r.retryPending then
        emptyVisual .notAnalyzed "resource_cooldown"
      else value

def stop (r : Reading) (card : Option String) : Option ℤ :=
  match r.item.startMs with
  | some start =>
    if validVisual (r.visual card) then some (start + (r.visual card).durationMs)
    else r.item.boundEndMs
  | none => r.item.boundEndMs

-- The start and the end, where `knownTime` holds.
def knownTime (r : Reading) (card : Option String) : Option (ℤ × ℤ) :=
  match r.item.startMs, r.stop card, r.item.boundEndMs with
  | some start, some stop, some bound =>
    if 30000 ≤ stop - start ∧ stop - start ≤ 120000 ∧ |stop - bound| ≤ 2000 then
      some (start, stop)
    else none
  | _, _, _ => none

def body (r : Reading) (card : Option String) : Body :=
  match r.knownTime card with
  | none => r.item.body
  | some (start, stop) =>
    { r.item.body with
      startUtc := some start
      endUtc := some stop
      bounded := true
      durationMs :=
        if validVisual (r.visual card) then some (r.visual card).durationMs else none
      classification := (r.assess start stop).1
      reasons := (r.assess start stop).2
      complete := decide ((r.assess start stop).1 ≠ .unknown) }

def pastGuard (r : Reading) (s : Survey) : GuardProof :=
  if s.active then guard r.past s.timezone r.item.startMs (r.stop s.card) s.observedThrough
  else ParkedGuard.assess none none [] false s.timezone

def fullGuard (r : Reading) (s : Survey) : GuardProof :=
  if s.active then guard r.full s.timezone r.item.startMs (r.stop s.card) none
  else r.pastGuard s

def deadline (r : Reading) (card : Option String) : Option ℤ :=
  (r.stop card).map fun e => e + quietTransferDeferMs

-- The upload branches of the `when` of `evaluate`, up to the state of the file, in order.
def refusals (r : Reading) (s : Survey) : List (Bool × Reason) :=
  let visual := r.visual s.card
  let past := r.pastGuard s
  let known := r.knownTime s.card
  [ (s.active = false, .policyDisabled),
    (r.item.clip.locked, .lockedClip),
    (r.item.clip.orphan, .orphanPartial),
    (inVideo r.item.clip.relativePath = false ∨ s.card = none, .cardOrIdentityUnknown),
    (known = none, .timingUnknown),
    (known.any fun (start, stop) => (r.assess start stop).1 = .unknown, .observationGap),
    (0 < past.positiveSpeedSamples, .positiveMovement),
    (0 < past.onSamples, .ignitionBuffer),
    (ParkedGuard.valid past = false ∨ past.endUtc = none ∨
      ∃ seen ∈ past.endUtc, ∃ stop ∈ r.stop s.card, seen < stop, .accNotFullyOff),
    ("file_unreadable" ∈ r.item.body.reasons, .unstableOrUnreadable),
    (visual.status = .activity, .visualActivity),
    (visual.status = .error, .analysisError),
    (visual.status ≠ .quiet ∧ visual.status ≠ .notAnalyzed, .visualIncomplete),
    (visual.status = .quiet ∧ validVisual visual = false, .visualIncomplete) ]

def refusal (r : Reading) (s : Survey) : Option Reason :=
  ((r.refusals s).find? Prod.fst).map Prod.snd

-- The `when` of `evaluate`.
def verdict (r : Reading) (s : Survey) : Decision × Reason :=
  let early := (r.deadline s.card).any fun deadline => s.now < deadline
  match r.refusal s with
  | some reason => (.upload, reason)
  | none =>
    if r.item.stable = false then
      if early then (.defer, .fileSettling) else (.upload, .unstableOrUnreadable)
    else if validVisual (r.visual s.card) ∧ (r.body s.card).fingerprint ≠ none ∧
        ParkedGuard.valid (r.fullGuard s) then
      (.skip, .parkedVisualQuiet)
    else if early = false then (.upload, .visualRequired)
    else if ParkedGuard.valid (r.fullGuard s) = false then (.defer, .awaitingPostGuard)
    else (.defer, .analysisPending)

end Reading

def evaluateItem (s : Survey) (r : Reading) : Row :=
  let (decision, reason) := r.verdict s
  { clip := r.body s.card
    decision := decision
    reason := reason
    guard := if decision = .skip then r.fullGuard s else r.pastGuard s
    visual := r.visual s.card
    deferUntil := if decision = .defer then r.deadline s.card else none }

def evaluate (s : Survey) (readings : List Reading) : List Row := readings.map (evaluateItem s)

-- `recheckQuietIdentities`: an exclusion needs its clip listed once and unchanged.
def recheckQuietIdentities (items : List PolicyClip) (unchanged : MovementClip → Bool)
    (rows : List Row) : List Row :=
  rows.map fun row =>
    if row.decision = .skip then
      match items.filter fun item => item.clip.relativePath = row.clip.relativePath with
      | [item] =>
        if unchanged item.clip then row
        else { row with decision := .upload, reason := .unstableOrUnreadable, deferUntil := none }
      | _ => { row with decision := .upload, reason := .unstableOrUnreadable, deferUntil := none }
    else row

def Body.bounds (clip : Body) : Option (ℤ × ℤ) :=
  match clip.startUtc, clip.endUtc with
  | some start, some stop => if start < stop then some (start, stop) else none
  | _, _ => none

def own (row : Row) : Decision :=
  if row.decision = .upload ∧ row.reason = .peerCoverageRequired then .skip
  else if row.decision = .upload ∧ row.reason = .peerAnalysisPending then .defer
  else if row.decision = .defer ∧ row.reason = .analysisPending ∧ validVisual row.visual ∧
    ParkedGuard.valid row.guard then .skip
  else row.decision

def Decision.Qualifies (d : Decision) : Prop := d = .skip ∨ d = .defer

instance (d : Decision) : Decidable d.Qualifies := inferInstanceAs (Decidable (_ ∨ _))

structure Peer where
  clip : Body
  own : Decision
  deriving DecidableEq

def Row.peer (row : Row) : Peer := { clip := row.clip, own := Clips.own row }

def Peer.overlaps (peer : Peer) (start stop : ℤ) : Bool :=
  peer.clip.bounds.any fun (lo, hi) => lo < stop ∧ start < hi

/-- A file with unknown bounds may reach into the clip for up to 120 s; one whose local start
is unknown always may. -/
def Peer.unknownNear (peer : Peer) (clip : Body) (start stop : ℤ) : Bool :=
  peer.clip.bounds.isNone &&
    match peer.clip.localStart, clip.localStart with
    | none, _ => true
    | some _, none => false
    | some peerStart, some localStart =>
      decide (localStart - 120 * 1000000000 ≤ peerStart ∧
        peerStart < localStart + (stop - start) * 1000000)

-- `peers`: the rows of the other camera over the interval.
def oppositeViews (allOthers : List Peer) (clip : Body) (start stop : ℤ) : List Peer :=
  (allOthers.filter fun other => other.clip.cameraKey ≠ clip.cameraKey).filter fun other =>
    other.overlaps start stop

def spans (peers : List Peer) : List (ℤ × ℤ) :=
  (peers.filterMap fun peer => peer.clip.bounds).insertionSort fun a b => a.1 ≤ b.1

def Unambiguous (peers : List Peer) : Prop :=
  (peers.map fun peer => (peer.clip.cameraKey, peer.clip.startUtc, peer.clip.endUtc)).Nodup ∧
    (peers.map fun peer => peer.clip.relativePath).Nodup

instance (peers : List Peer) : Decidable (Unambiguous peers) := inferInstanceAs (Decidable (_ ∧ _))

inductive Disposition
  | keep
  | retain
  | defer (deadline : ℤ)
  | skip
  deriving DecidableEq

-- The loop of `applyPairGate` for one row, without its writes.
def dispose (now : ℤ) (allOthers : List Peer) (original : Peer) : Disposition :=
  if ¬ original.own.Qualifies then .keep
  else match original.clip.bounds with
  | none => .retain
  | some (start, stop) =>
    let unknown := allOthers.any fun other => other.unknownNear original.clip start stop
    let unsafeSameView := allOthers.any fun other =>
      other.clip.cameraKey = original.clip.cameraKey ∧ other.overlaps start stop ∧
        ¬ other.own.Qualifies
    let peers := oppositeViews allOthers original.clip start stop
    let continuous := (Intervals.sweep start (spans peers)).any fun through => stop ≤ through
    if unknown ∨ unsafeSameView ∨ ¬ Unambiguous peers ∨ peers = [] ∨ continuous = false ∨
        ¬ ∀ peer ∈ peers, peer.own.Qualifies then .retain
    else if original.own = .defer ∨ ∃ peer ∈ peers, peer.own = .defer then
      if stop + quietTransferDeferMs ≤ now then .retain
      else .defer (stop + quietTransferDeferMs)
    else .skip

def Row.disposed (row : Row) (disposition : Disposition) : Row :=
  match disposition with
  | .keep => row
  | .retain =>
    { row with
      decision := .upload
      reason := if own row = .skip then .peerCoverageRequired else .peerAnalysisPending
      deferUntil := none }
  | .defer deadline =>
    { row with
      decision := .defer
      reason :=
        if own row = .skip then .analysisPending
        else if row.reason = .peerAnalysisPending then .analysisPending else row.reason
      deferUntil := some deadline }
  | .skip => { row with decision := .skip, reason := .parkedVisualQuiet, deferUntil := none }

def applyPairGate (rows : List Row) (now : ℤ) : List Row :=
  rows.mapIdx fun index row =>
    row.disposed (dispose now ((rows.eraseIdx index).map Row.peer) row.peer)

-- `policy_disabled` on every row, where the policy is off.
def Row.disabled (row : Row) : Row :=
  { row with decision := .upload, reason := .policyDisabled, deferUntil := none }

def gatedRows (active : Bool) (now : ℤ) (retained : List Row) : List Row :=
  applyPairGate (if active then retained else retained.map Row.disabled) now

/-- The encoded sizes: of the report, by its `truncated` flag and rows, and of one row. -/
structure Encoding where
  report : Bool → List Row → ℤ
  row : Row → ℤ

def trim (encoding : Encoding) (projectedBytes : ℤ) : List Row → ℕ
  | [] => 0
  | removed :: earlier =>
    if movementReportMaxBytes < projectedBytes then
      trim encoding
        (projectedBytes - (encoding.row removed + if earlier.isEmpty then 0 else 1)) earlier
    else earlier.length + 1

theorem trim_le (encoding : Encoding) (projectedBytes : ℤ) (rows : List Row) :
    trim encoding projectedBytes rows ≤ rows.length := by
  induction rows generalizing projectedBytes with
  | nil => simp [trim]
  | cons removed earlier ih =>
    rw [trim, List.length_cons]
    split
    · have rest := ih (projectedBytes - (encoding.row removed + if earlier.isEmpty then 0 else 1))
      omega
    · omega

theorem trim_lt (encoding : Encoding) {projectedBytes : ℤ} {rows : List Row}
    (large : movementReportMaxBytes < projectedBytes) (some_row : rows ≠ []) :
    trim encoding projectedBytes rows < rows.length := by
  cases rows with
  | nil => exact absurd rfl some_row
  | cons removed earlier =>
    rw [trim, if_pos large, List.length_cons]
    exact Nat.lt_succ_of_le (trim_le encoding _ earlier)

theorem length_gatedRows (active : Bool) (now : ℤ) (retained : List Row) :
    (gatedRows active now retained).length = retained.length := by
  cases active <;> simp [gatedRows, applyPairGate]

/-- The loops of `writeReport`: the rows that are published. Every pass gates the retained
prefix again, at the next reading of the clock. -/
def writeReport (active : Bool) (clock : ℕ → ℤ) (encoding : Encoding) (truncated : Bool)
    (tick : ℕ) (retained : List Row) : List Row :=
  let rows := gatedRows active (clock tick) retained
  if large : movementReportMaxBytes < encoding.report truncated rows ∧ rows ≠ [] then
    let kept := trim encoding (encoding.report true rows) rows.reverse
    writeReport active clock encoding true (tick + 1) (retained.take kept)
  else rows
termination_by (retained.length, if truncated then 0 else 1)
decreasing_by
  have size : rows.length = retained.length := length_gatedRows active (clock tick) retained
  have least : kept ≤ retained.length := by
    rw [← size, ← List.length_reverse]
    exact trim_le encoding _ _
  rw [List.length_take, Nat.min_eq_left least]
  cases truncated with
  | true =>
    have shorter : kept < retained.length := by
      rw [← size, ← List.length_reverse]
      exact trim_lt encoding large.1 (List.reverse_ne_nil_iff.mpr large.2)
    exact Prod.Lex.left _ _ shorter
  | false =>
    -- setting the flag can make the report fit before a row is removed
    rcases least.lt_or_eq with shorter | same
    · exact Prod.Lex.left _ _ shorter
    · rw [same]
      exact Prod.Lex.right _ (by simp)

/-- What the two reports of one `publish` see. An analysis on the same thread makes it evaluate
its clips again in between. -/
structure Publication where
  survey : Survey
  readings : List Reading
  again : Option (Survey × List Reading)
  sameItems : ∀ s rs, again = some (s, rs) → rs.map Reading.item = readings.map Reading.item
  unchanged : MovementClip → Bool
  unchangedLater : MovementClip → Bool
  active : Bool
  activeLater : Bool
  clock : ℕ → ℤ
  clockLater : ℕ → ℤ
  encoding : Encoding
  encodingLater : Encoding
  truncated : Bool

/-- A published list, with the evaluation that its rows come from and the clock that the gate
read. -/
structure Report where
  survey : Survey
  readings : List Reading
  clock : ℕ → ℤ
  rows : List Row

def Report.evaluated (report : Report) : List Row := evaluate report.survey report.readings

def publish (p : Publication) : List Report :=
  let items := p.readings.map Reading.item
  let rows := recheckQuietIdentities items p.unchanged (evaluate p.survey p.readings)
  let first : Report :=
    { survey := p.survey, readings := p.readings, clock := p.clock
      rows := writeReport p.active p.clock p.encoding p.truncated 0 rows }
  let last (survey : Survey) (readings : List Reading) (rows : List Row) : Report :=
    { survey := survey, readings := readings, clock := p.clockLater
      rows := writeReport p.activeLater p.clockLater p.encodingLater p.truncated 0
        (recheckQuietIdentities items p.unchangedLater rows) }
  match p.again with
  | none => [first, last p.survey p.readings rows]
  | some (survey, readings) => [first, last survey readings (evaluate survey readings)]

end DashcamStats.Clips
