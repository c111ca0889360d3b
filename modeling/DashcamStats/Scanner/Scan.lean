import Mathlib.Data.List.AList
import Mathlib.Data.Rat.Floor
import DashcamStats.Scanner.Walk

namespace DashcamStats.Scanner

/-- The indexed recordings, each with `file_missing`. -/
abbrev Index := AList fun _ : Path => Bool

structure BatchError where
  -- The files that were indexed before.
  done : ℕ
  message : String
deriving DecidableEq, Repr

structure WorkErrors where
  -- Indexing one file, its fingerprint included.
  reconcile : Path → Bool
  batch : ℕ → Option BatchError

structure ScanSummary where
  seen : ℕ := 0
  missing : ℕ := 0
  errors : ℕ := 0
  errorMessage : Option String := none
deriving DecidableEq, Repr

structure Scan where
  index : Index
  summary : ScanSummary
  seenPaths : List Path
  walkErrors : List Path

def batchSize : ℕ := 200

def diskVsIndexMinRatio : ℚ := 1 / 2

/-- `itertools.islice` on the walk: its files, the directories it could not read, and what is
left of it -/
def islice : ℕ → List Event → List Entry × List Path × List Event
  | 0, events => ([], [], events)
  | _ + 1, [] => ([], [], [])
  | count + 1, .unreadable path :: events =>
    let later := islice (count + 1) events
    (later.1, path :: later.2.1, later.2.2)
  | count + 1, .found entry :: events =>
    let later := islice count events
    (entry :: later.1, later.2.1, later.2.2)

section Index

variable (work : WorkErrors)

-- `_reconcile`, with the row the batch has selected
def reconcile (existing index : Index) (path : Path) : Index :=
  if work.reconcile path then
    -- a row that reappears is no longer missing by the time its file is read
    if path ∈ existing then index.insert path false else index
  else index.insert path false

def reconcileErrors (batch : List Entry) : ℕ :=
  batch.countP fun entry => work.reconcile entry.relPath

-- `_process_batch`. A batch that raises is rolled back, and ends the loop.
def processBatch (number : ℕ) (batch : List Entry) (scan : Scan) : Except Scan Scan :=
  match work.batch number with
  | some error =>
    .error { scan with summary := { scan.summary with
      errors := scan.summary.errors + reconcileErrors work (batch.take error.done) + 1
      errorMessage := some error.message } }
  | none =>
    .ok { scan with
      index := batch.foldl (fun index entry => reconcile work scan.index index entry.relPath)
        scan.index
      summary := { scan.summary with
        errors := scan.summary.errors + reconcileErrors work batch } }

def Scan.see (scan : Scan) (batch : List Entry) (unreadable : List Path) : Scan :=
  { scan with
    summary := { scan.summary with seen := scan.summary.seen + batch.length }
    seenPaths := scan.seenPaths ++ batch.map (·.relPath)
    walkErrors := scan.walkErrors ++ unreadable }

theorem islice_rest (count : ℕ) (events : List Event) :
    (islice count events).2.2.length + (islice count events).1.length ≤ events.length := by
  induction events generalizing count with
  | nil => cases count <;> simp [islice]
  | cons event events ih =>
    cases count with
    | zero => simp [islice]
    | succ count =>
      cases event with
      | found entry =>
        have later := ih count
        simp only [islice, List.length_cons]
        omega
      | unreadable path =>
        have later := ih (count + 1)
        simp only [islice, List.length_cons]
        omega

-- The loop of `_scan`, from the batch `number` on
def scanBatches (events : List Event) (number : ℕ) (scan : Scan) : Scan :=
  let sliced := islice batchSize events
  let scan := scan.see sliced.1 sliced.2.1
  if _more : sliced.1 = [] then scan
  else
    match processBatch work number sliced.1 scan with
    | .error scan => scan
    | .ok scan => scanBatches sliced.2.2 (number + 1) scan
termination_by events.length
decreasing_by
  have rest := islice_rest batchSize events
  have more : 0 < (islice batchSize events).1.length := List.length_pos_iff.mpr _more
  omega

def indexedPaths (index : Index) : List Path :=
  index.keys.filter fun path => index.lookup path = some false

def indexedCount (index : Index) : ℕ :=
  (indexedPaths index).length

def reconciliationBlocked (summary : ScanSummary) (indexed : ℕ) : Option String :=
  if summary.errors ≠ 0 then
    some (toString summary.errors ++ " error(s) during the walk; the view of the share is " ++
      "incomplete, so nothing is being marked missing")
  else if indexed = 0 then none
  else if summary.seen = 0 then
    some ("the footage directory looks empty while " ++ toString indexed ++ " recordings are " ++
      "indexed; treating that as an unavailable share rather than as deletions")
  else if (summary.seen : ℚ) < indexed * diskVsIndexMinRatio then
    some ("only " ++ toString summary.seen ++ " files found against " ++ toString indexed ++
      " indexed; a drop this large is a mount problem far more often than it is real deletion")
  else none

def missingPaths (seen : List Path) (index : Index) : List Path :=
  (indexedPaths index).filter fun path => path ∉ seen

def markMissing (seen : List Path) (index : Index) : Index :=
  (missingPaths seen index).foldl (fun index path => index.insert path true) index

end Index

-- `_scan`, up to the policy on damaged footage; `none` is a root that is not available
def scan (settings : ScanSettings) (errors : Errors) (work : WorkErrors) (root : Option Listing)
    (index : Index) : Index × ScanSummary :=
  match root with
  | none => (index, { 
        errorMessage := some ("footage directory " ++ settings.footageDir ++ " is not available") })
  | some tree =>
    let scan := scanBatches work (walk settings errors [([], tree)]) 0 ⟨index, {}, [], []⟩
    let summary := { scan.summary with
      errors := scan.summary.errors + scan.walkErrors.length }
    match reconciliationBlocked summary (indexedCount scan.index) with
    | none =>
      (markMissing scan.seenPaths scan.index,
        { summary with missing := (missingPaths scan.seenPaths scan.index).length })
    | some reason =>
      (scan.index, { summary with errorMessage := summary.errorMessage.or (some reason) })

end DashcamStats.Scanner
