import DashcamStats.Parked.Policy

namespace DashcamStats.Parked

structure RemoteFile where
  name : String
  size : ℕ
  mtime : ℤ
  directory : String
  deriving DecidableEq

def RemoteFile.parent (item : RemoteFile) (source : String) : String :=
  if item.directory = "" then source else item.directory

-- `PurePosixPath(path).name`
def posixName (path : String) : String :=
  let parts := path.toList.splitOn '/'
  String.ofList (((parts.filter fun part => part ≠ [] ∧ part ≠ ['.']).getLast?).getD [])

def relativePath (item : RemoteFile) (source : String) : Option String :=
  let directory := item.parent source
  let path := "DCIM/Video/" ++ item.name
  if directory ≠ source ∨ posixName directory ≠ "Video" then none
  else if (matchPath path).isSome then some path else none

-- The entry of `live`, where a later file replaces an earlier one of its path.
def live (remote : List RemoteFile) (source path : String) : Option RemoteFile :=
  remote.reverse.find? fun item => relativePath item source = some path

def listed (remote : List RemoteFile) (source : String) (d : Decision) : Bool :=
  (live remote source d.clip.relativePath).any fun item =>
    (item.size : ℤ) = d.clip.sizeBytes ∧ item.mtime = d.clip.mtimeMs / 1000

def matchedProofs (doc : PolicyDocument) (remote : List RemoteFile) (source : String)
    (accept : Decision → Bool) : List Decision :=
  doc.decisions.filter fun d => accept d && listed remote source d

def Clip.bounds (clip : Clip) : Option (ℤ × ℤ) :=
  match clip.startUtc, clip.endUtc with
  | some start, some stop => some (start, stop)
  | _, _ => none

def Clip.overlaps (clip : Clip) (start stop : ℤ) : Bool :=
  clip.bounds.any fun (lower, upper) => lower < stop ∧ start < upper

def overlappingEntries (doc : PolicyDocument) (clip : Clip) (start stop : ℤ) : List Decision :=
  doc.decisions.filter fun entry =>
    entry.clip.relativePath ≠ clip.relativePath ∧ entry.clip.overlaps start stop

def overlappingPeers (doc : PolicyDocument) (clip : Clip) (start stop : ℤ) : List Decision :=
  (overlappingEntries doc clip start stop).filter fun entry =>
    entry.clip.cameraKey ≠ clip.cameraKey

def covers (peers : List Decision) (start stop : ℤ) : Bool :=
  let spans := (peers.filterMap fun peer => peer.clip.bounds).insertionSort fun a b =>
    a.1 < b.1 ∨ (a.1 = b.1 ∧ a.2 ≤ b.2)
  (Intervals.sweep start spans).any fun through => stop ≤ through

/-- The search of `_paired_candidates` for a file whose interval the document does not know;
`none` is the `ValueError` of a name that is no date. -/
def unknownPeer (doc : PolicyDocument) (source : String) (clip : Clip) (localEnd : ℤ) :
    List RemoteFile → Option Bool
  | [] => some false
  | item :: rest =>
    let path := "DCIM/" ++ posixName (item.parent source) ++ "/" ++ item.name
    match matchPath path with
    | none => unknownPeer doc source clip localEnd rest
    | some found =>
      if path = clip.relativePath then unknownPeer doc source clip localEnd rest
      else
        match strptime found.stamp with
        | none => none
        | some peerStart =>
          let entry := doc.decisions.find? fun entry => entry.clip.relativePath = path
          let known := entry.any fun entry => entry.clip.bounds.isSome
          if clip.localStart - seconds 120 ≤ peerStart ∧ peerStart < localEnd ∧ known = false then
            some true
          else unknownPeer doc source clip localEnd rest

/-- The two tests of the document in `_paired_candidates`: no doubtful entry on the same lens,
and every opposite perspective a witness, without a gap. -/
def surrounded (doc : PolicyDocument) (witnessPaths : List String) (clip : Clip)
    (start stop : ℤ) : Bool :=
  let peers := overlappingPeers doc clip start stop
  let doubtful := doc.decisions.any fun entry =>
    entry.clip.relativePath ≠ clip.relativePath ∧ entry.clip.cameraKey = clip.cameraKey ∧
      entry.clip.relativePath ∉ witnessPaths ∧ entry.clip.overlaps start stop
  !doubtful && !(peers.any fun peer => peer.clip.relativePath ∉ witnessPaths) &&
    covers peers start stop

-- The body of the loop of `_paired_candidates`: whether the decision is appended.
def paired (doc : PolicyDocument) (remote : List RemoteFile) (source : String)
    (witnessPaths : List String) (d : Decision) : Option Bool :=
  match d.clip.bounds with
  | none => none
  | some (start, stop) =>
    (unknownPeer doc source d.clip (d.clip.localStart + (stop - start)) remote).map fun unknown =>
      !unknown && surrounded doc witnessPaths d.clip start stop

def pairedLoop (doc : PolicyDocument) (remote : List RemoteFile) (source : String)
    (witnessPaths : List String) : List Decision → Option (List Decision)
  | [] => some []
  | d :: rest =>
    match paired doc remote source witnessPaths d with
    | none => none
    | some append =>
      match pairedLoop doc remote source witnessPaths rest with
      | none => none
      | some others => some (if append then d :: others else others)

def pairedCandidates (doc : PolicyDocument) (remote : List RemoteFile) (source : String)
    (accept witnessAccept : Decision → Bool) : Option (List Decision) :=
  let matched := matchedProofs doc remote source accept
  let witnesses := matchedProofs doc remote source witnessAccept
  pairedLoop doc remote source (witnesses.map fun entry => entry.clip.relativePath) matched

def requiredQuietProofs (doc : PolicyDocument) (selected : List Decision) : List Decision :=
  let paths := (selected.map fun entry => entry.clip.relativePath) ++
    selected.flatMap fun d =>
      match d.clip.bounds with
      | none => []
      | some (start, stop) =>
        (overlappingEntries doc d.clip start stop).map fun peer => peer.clip.relativePath
  doc.decisions.filter fun entry => entry.clip.relativePath ∈ paths

/-- A line of the reply as `(\d{1,3}) ([0-9a-f]{64})` reads it, or any other line. -/
inductive ReplyLine
  | hashed (index : ℕ) (digest : String)
  | other
  deriving DecidableEq

def maxFingerprintChecks : ℤ := 64

/-- The clips that one reply verifies; `none` is the `TypeError` of an entry without a
fingerprint. -/
def verifiedBy (selected : List Decision) : List ReplyLine → Option (List String)
  | [] => some []
  | .other :: rest => verifiedBy selected rest
  | .hashed index digest :: rest =>
    match selected[index]? with
    | none => verifiedBy selected rest
    | some entry =>
      match entry.clip.fingerprint with
      | none => none
      | some known =>
        match verifiedBy selected rest with
        | none => none
        | some others => some (if digest = known then entry.clip.clipId :: others else others)

-- `_verify_fingerprints`; without a reply the camera shell failed or timed out.
def verifyFingerprints (reply : Option (List ReplyLine)) (selected : List Decision) :
    Option (List String) :=
  if selected = [] then some [] else reply.bind (verifiedBy selected)

inductive LoggerState
  | ready | scanning | waiting | other
  deriving DecidableEq

structure Logger where
  capable : Bool
  updatedAtUtc : Option ℤ
  transferPolicyState : LoggerState
  movementReady : Bool
  transferPolicyEnabled : Bool

/-- The `status` of an evaluation. -/
inductive State
  | disabled | unsupported | missing | invalid | stale | cardMismatch | ready
  deriving DecidableEq

structure Call where
  zones : Zones
  remote : List RemoteFile
  source : String
  logger : Option Logger
  enabled : Bool
  nativeRemaining : Option ℚ
  fingerprintBudget : ℤ
  -- The readings of the clock, in order.
  loggerNow : ℤ
  policyNow : ℤ
  deferNow : ℤ
  auditNow : ℤ
  holdNow : ℤ
  terminalNow : ℤ
  elapsed : ℚ
  -- `_read_policy` before its validation: a failure, no file, or a document.
  policy : Option (Option RawDocument)
  cardId : Option String
  reply : Option (List ReplyLine)
  -- Any further step of the `try` raises.
  interrupted : Bool
  -- The document passes validation once more when the audit encodes it.
  revalidates : Bool
  -- The audit commits in time.
  commits : Bool

/-- What the first `try` leaves behind. -/
structure Plan where
  doc : Option PolicyDocument
  selected : List Decision
  deferred : List Decision
  state : State
  checking : List Decision

def Plan.nothing (doc : Option PolicyDocument) (state : State) : Plan :=
  { doc := doc, selected := [], deferred := [], state := state, checking := [] }

def fresh (now : ℤ) (written : ℤ) (oldest : ℤ) : Bool :=
  decide (-seconds 30 ≤ now - written ∧ now - written ≤ seconds oldest)

namespace Call

def firstSelected (c : Call) (doc : PolicyDocument) (logger : Logger) : Option (List Decision) :=
  if logger.transferPolicyState = .ready then
    pairedCandidates doc c.remote c.source (eligibleSkip c.zones) (quietWitness c.zones)
  else some []

def firstDeferred (c : Call) (doc : PolicyDocument) : Option (List Decision) :=
  pairedCandidates doc c.remote c.source (eligibleDefer c.zones c.deferNow c.nativeRemaining)
    (pendingWitness c.zones c.deferNow c.nativeRemaining)

def survey (c : Call) : Plan :=
  if c.enabled = false then .nothing none .disabled
  else match c.logger with
  | none => .nothing none .unsupported
  | some logger =>
    if logger.capable = false then .nothing none .unsupported
    else if logger.updatedAtUtc.any (fun updated => fresh c.loggerNow updated 30) = false ∨
        logger.transferPolicyState = .other ∨ logger.movementReady = false ∨
        logger.transferPolicyEnabled = false then .nothing none .invalid
    else match c.policy with
    | none => .nothing none .invalid
    | some none => .nothing none .missing
    | some (some raw) =>
      match validatePolicyManifest raw with
      | none => .nothing none .invalid
      | some doc =>
        if fresh c.policyNow doc.generatedAtUtc 180 = false then .nothing (some doc) .stale
        else if doc.enabled = false then .nothing (some doc) .disabled
        else if doc.status = .ready ∧ doc.truncated = false ∧ doc.cardId.any (fun id => id ≠ "") then
          if c.cardId = doc.cardId then
            match c.firstSelected doc logger, c.firstDeferred doc with
            | some selected, some deferred =>
              { doc := some doc, selected := selected, deferred := deferred, state := .ready
                checking := [] }
            | _, _ => .nothing (some doc) .invalid
          else .nothing (some doc) .cardMismatch
        else .nothing (some doc) .invalid

def checking (c : Call) (doc : PolicyDocument) (selected : List Decision) : List Decision :=
  (requiredQuietProofs doc selected).take (max 0 (min maxFingerprintChecks c.fingerprintBudget)).toNat

def confirm (c : Call) (doc : PolicyDocument) (verified : List String) : Option (List Decision) :=
  pairedCandidates doc c.remote c.source
    (fun entry => eligibleSkip c.zones entry && decide (entry.clip.clipId ∈ verified))
    (fun entry => quietWitness c.zones entry && decide (entry.clip.clipId ∈ verified))

-- The whole first `try`.
def plan (c : Call) : Plan :=
  let first := c.survey
  match first.doc with
  | none => first
  | some doc =>
    if c.interrupted then .nothing (some doc) .invalid
    else if first.selected = [] then first
    else
      let checking := c.checking doc first.selected
      match (verifyFingerprints c.reply checking).bind (c.confirm doc) with
      | none => { Plan.nothing (some doc) .invalid with checking := checking }
      | some selected => { first with selected := selected, checking := checking }

def auditIdentity (d : Decision) : String × String × ℤ × ℤ × Option String :=
  (d.clip.clipId, d.clip.relativePath, d.clip.sizeBytes, d.clip.mtimeMs, d.clip.fingerprint)

-- `record_evaluation` returns normally.
def recordEvaluation (c : Call) (p : Plan) : Bool :=
  let current : Bool := p.state = .ready ∧ c.enabled ∧
    p.doc.any fun doc => doc.enabled ∧ doc.status = .ready ∧ doc.truncated = false ∧
      fresh c.auditNow doc.generatedAtUtc 180
  let present := p.selected.all fun d =>
    p.doc.any (fun doc => d ∈ doc.decisions) && eligibleSkip c.zones d
  let consideredBytes : ℤ := (c.remote.map fun item => (item.size : ℤ)).sum
  let excludedBytes : ℤ := (p.selected.map fun d => d.clip.sizeBytes).sum
  c.revalidates && c.commits &&
    decide (p.selected.length ≤ 512 ∧ (p.selected = [] ∨ current) ∧ present ∧
      (p.selected.map auditIdentity).Nodup ∧ p.selected.length ≤ c.remote.length ∧
      excludedBytes ≤ consideredBytes)

def heldDecisions (c : Call) (p : Plan) : Option (List Decision) :=
  match p.deferred, p.doc, c.logger with
  | [], _, _ => some []
  | _, some doc, some logger =>
    let remaining := c.nativeRemaining.map fun native => Binary64.round (native - c.elapsed)
    if fresh c.holdNow doc.generatedAtUtc 180 = true ∧
        logger.updatedAtUtc.any (fun updated => fresh c.holdNow updated 30) = true then
      pairedCandidates doc c.remote c.source
        (fun entry => decide (entry.clip.clipId ∈ p.deferred.map fun d => d.clip.clipId) &&
          eligibleDefer c.zones c.holdNow remaining entry)
        (pendingWitness c.zones c.holdNow remaining)
    else some []
  | _, _, _ => none

def terminalCandidate (c : Call) (d : Decision) : Bool :=
  match d.clip.bounds, d.guard.startUtc, d.guard.endUtc with
  | some (start, stop), some first, some last =>
    decide (d.decision = .upload ∧
      (d.reason = .visualActivity ∨ d.reason = .analysisError ∨ d.reason = .visualIncomplete) ∧
      (d.visual.status = .unavailable ∨ d.visual.status = .error ∨ d.visual.status = .incomplete ∨
        d.visual.status = .activity) ∧
      d.clip.locked = false ∧ d.clip.bounded ∧
      effectiveClass c.zones d.clip = .accOffCandidate ∧ first ≤ start - seconds 120 ∧
      stop ≤ last ∧ stop ≤ c.terminalNow ∧ c.terminalNow < stop + seconds 360) &&
    noMovement d.clip && guardOff d.guard
  | _, _, _ => false

end Call

structure FilterResult where
  files : List RemoteFile
  deferred : List (RemoteFile × ℤ)
  skipped : List RemoteFile
  fingerprintChecks : ℕ
  analysisReady : Bool
  analysisTerminal : Bool
  analysisTerminalFiles : List RemoteFile
  analysisTerminalStarts : List (String × ℤ)

def heldUntil (held : List Decision) (path : Option String) : Option ℤ :=
  ((held.filter fun d => some d.clip.relativePath = path).getLast?).bind fun d => d.deferUntilUtc

-- `filter_inventory`; without a result the second look at the deferred clips raised.
def filterInventory (c : Call) : Option FilterResult :=
  let p := c.plan
  if c.recordEvaluation p = false then
    some
      { files := c.remote, deferred := [], skipped := []
        fingerprintChecks := p.checking.length, analysisReady := false, analysisTerminal := false
        analysisTerminalFiles := [], analysisTerminalStarts := [] }
  else
    (c.heldDecisions p).map fun held =>
      let skipped (item : RemoteFile) : Bool :=
        p.selected.any fun d => some d.clip.relativePath = relativePath item c.source
      let hold (item : RemoteFile) : Option ℤ := heldUntil held (relativePath item c.source)
      let terminal := match p.doc with
        | some doc =>
          if p.state = .ready then matchedProofs doc c.remote c.source c.terminalCandidate else []
        | none => []
      { files := c.remote.filter fun item => skipped item = false ∧ hold item = none
        deferred := c.remote.filterMap fun item => (hold item).map fun t => (item, t)
        skipped := c.remote.filter skipped
        fingerprintChecks := p.checking.length
        analysisReady := p.state = .ready
        analysisTerminal := terminal ≠ []
        analysisTerminalFiles := c.remote.filter fun item =>
          terminal.any fun d => some d.clip.relativePath = relativePath item c.source
        analysisTerminalStarts := terminal.flatMap fun d => c.remote.filterMap fun item =>
          if some d.clip.relativePath = relativePath item c.source then
            d.clip.startUtc.map fun start => (item.name, start)
          else none }

end DashcamStats.Parked
