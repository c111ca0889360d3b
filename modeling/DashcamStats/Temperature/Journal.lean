import Mathlib.Data.List.Sort
import Mathlib.Order.Nat

namespace DashcamStats.Temperature

def MAX_SAFE_INTEGER : ℕ := 9007199254740991

-- The time of day and the temperature are in `value`.
structure Reading (Session Value : Type) where
  sequence : ℕ
  session : Session
  elapsed : ℕ
  value : Value
  deriving DecidableEq

structure File (Session Value : Type) where
  first : ℕ
  content : Option (List (Reading Session Value))

structure Chunk (Session Value : Type) where
  first : ℕ
  readings : List (Reading Session Value)

variable {Session Value : Type} [DecidableEq Session]

def Chunk.last (chunk : Chunk Session Value) : ℕ :=
  (chunk.readings.getLast?.map (·.sequence)).getD 0

/-- What `readChunk` requires of the rows of a file -/
structure Readable (chunkReadings first : ℕ) (readings : List (Reading Session Value)) : Prop where
  begins : readings.head?.map (·.sequence) = some first
  short : readings.length ≤ chunkReadings
  numbered : readings.Pairwise fun a b => a.sequence < b.sequence
  timed : readings.Pairwise fun a b => a.session = b.session → a.elapsed < b.elapsed

instance (chunkReadings first : ℕ) (readings : List (Reading Session Value)) :
    Decidable (Readable chunkReadings first readings) :=
  decidable_of_iff (readings.head?.map (·.sequence) = some first ∧ readings.length ≤ chunkReadings ∧
      (readings.Pairwise fun a b => a.sequence < b.sequence) ∧
      readings.Pairwise fun a b => a.session = b.session → a.elapsed < b.elapsed)
    ⟨fun ⟨begins, short, numbered, timed⟩ => ⟨begins, short, numbered, timed⟩,
      fun ⟨begins, short, numbered, timed⟩ => ⟨begins, short, numbered, timed⟩⟩

/-- Where a journal's call is; what a throw leaves is `idle` -/
inductive Place (Session Value : Type) where
  | idle
  /-- `load`, before it has read anything, for a call -/
  | entering (call : Option (Session × ℕ × Value))
  | checkpointing (call : Option (Session × ℕ × Value)) (recovered : List (Chunk Session Value))
  | discarding (call : Option (Session × ℕ × Value)) (files : List ℕ)
  | reserving (reading : Reading Session Value)
  | storing (reading : Reading Session Value)
  | evicting (files : List ℕ)

structure Journal (Session Value : Type) where
  files : List (File Session Value)
  checkpoint : Option ℕ
  loaded : Bool
  highWatermark : ℕ
  chunks : List (Chunk Session Value)
  place : Place Session Value
  stored : List (Reading Session Value)
  published : List (Reading Session Value)

inductive Event (Session Value : Type) where
  -- `append`, or `publish` without a reading
  | call (call : Option (Session × ℕ × Value))
  -- The next write or deletion, which may fail, and so may what is required there
  | go (succeeds : Bool)
  | die
  | damage (file : ℕ)
  | damageCheckpoint (content : Option ℕ)

section

variable (chunkReadings maxChunks : ℕ)

def readChunk (file : File Session Value) : Option (Chunk Session Value) :=
  match file.content with
  | none => none
  | some readings =>
    if Readable chunkReadings file.first readings then some ⟨file.first, readings⟩ else none

/-- One file of `load` -/
def recoverFile (recovered : ℕ × List (Chunk Session Value)) (file : File Session Value) :
    ℕ × List (Chunk Session Value) :=
  match readChunk chunkReadings file with
  | none => (max recovered.1 (min MAX_SAFE_INTEGER (file.first + chunkReadings - 1)), recovered.2)
  | some chunk => (max recovered.1 chunk.last,
      if (recovered.2.getLast?.map Chunk.last).getD 0 < chunk.first then recovered.2 ++ [chunk]
      else recovered.2)

def sortFiles (files : List (File Session Value)) : List (File Session Value) :=
  files.mergeSort fun a b => decide (a.first ≤ b.first)

def recover (files : List (File Session Value)) : ℕ × List (Chunk Session Value) :=
  (sortFiles files).foldl (recoverFile chunkReadings) (0, [])

def takeLast {A : Type} (n : ℕ) (xs : List A) : List A := xs.drop (xs.length - n)

def writeFile (files : List (File Session Value)) (first : ℕ)
    (readings : List (Reading Session Value)) : List (File Session Value) :=
  ⟨first, some readings⟩ :: files.filter (·.first ≠ first)

namespace Journal

variable (s : Journal Session Value)

def keep (call : Option (Session × ℕ × Value)) (recovered : List (Chunk Session Value)) :
    Journal Session Value :=
  { s with
    chunks := takeLast maxChunks recovered
    place := .discarding call (((sortFiles s.files).map (·.first)).filter fun first =>
      !((takeLast maxChunks recovered).map Chunk.first).contains first) }

def load (call : Option (Session × ℕ × Value)) : Journal Session Value :=
  let recovered := recover chunkReadings s.files
  let stored := s.checkpoint.getD 0
  let watermarked := { s with highWatermark := max recovered.1 stored }
  if stored < max recovered.1 stored then
    { watermarked with place := .checkpointing call recovered.2 }
  else watermarked.keep maxChunks call recovered.2

/-- What follows `load` -/
def begin (call : Option (Session × ℕ × Value)) (valid : Bool) : Journal Session Value :=
  match call with
  | none => { s with
      place := .idle
      published := s.published ++ s.chunks.flatMap Chunk.readings }
  | some (session, elapsed, value) =>
    if valid && decide (s.highWatermark < MAX_SAFE_INTEGER) then
      { s with place := .reserving ⟨s.highWatermark + 1, session, elapsed, value⟩ }
    else { s with place := .idle }

def store (reading : Reading Session Value) : Journal Session Value :=
  let active := s.chunks.getLast?.filter (·.readings.length < chunkReadings)
  let next : Chunk Session Value := match active with
    | some chunk => ⟨chunk.first, chunk.readings ++ [reading]⟩
    | none => ⟨reading.sequence, [reading]⟩
  let all := (if active.isSome then s.chunks.dropLast else s.chunks) ++ [next]
  { s with
    files := writeFile s.files next.first next.readings
    chunks := takeLast maxChunks all
    place := .evicting ((all.take (all.length - maxChunks)).map Chunk.first)
    stored := s.stored ++ [reading] }

def remove (first : ℕ) (succeeds : Bool) : Journal Session Value :=
  if succeeds then { s with files := s.files.filter (·.first ≠ first) } else s

def go (succeeds : Bool) : Option (Journal Session Value) :=
  match s.place with
  | .idle => none
  | .entering call => some (if s.loaded then s.begin call succeeds
      else if succeeds then s.load chunkReadings maxChunks call else { s with place := .idle })
  | .checkpointing call recovered => some (if succeeds then
      { s with checkpoint := some s.highWatermark }.keep maxChunks call recovered
      else { s with place := .idle })
  | .discarding call [] => some ({ s with loaded := true }.begin call succeeds)
  | .discarding call (first :: rest) =>
    some { s.remove first succeeds with place := .discarding call rest }
  | .reserving reading => some (if succeeds then
      { s with
        checkpoint := some reading.sequence
        highWatermark := reading.sequence
        place := .storing reading }
      else { s with place := .idle })
  | .storing reading => some (if succeeds then s.store chunkReadings maxChunks reading
      else { s with place := .idle })
  | .evicting [] => some { s with place := .idle }
  | .evicting (first :: rest) => some { s.remove first succeeds with place := .evicting rest }

def dead : Journal Session Value :=
  { s with
    loaded := false
    highWatermark := 0
    chunks := []
    place := .idle }

def step (event : Event Session Value) : Option (Journal Session Value) :=
  match event, s.place with
  | .call call, .idle => some { s with place := .entering call }
  | .go succeeds, _ => s.go chunkReadings maxChunks succeeds
  | .die, _ => some s.dead
  -- between runs
  | .damage file, .idle => if s.loaded then none else
      some { s with files := s.files.map fun other =>
        if other.first = file then ⟨other.first, none⟩ else other }
  | .damageCheckpoint content, .idle =>
    if s.loaded || content.any (fun n => decide (n = 0 ∨ MAX_SAFE_INTEGER < n)) then none
    else some { s with checkpoint := content }
  | _, _ => none

end Journal

end

def Journal.fresh : Journal Session Value where
  files := []
  checkpoint := none
  loaded := false
  highWatermark := 0
  chunks := []
  place := .idle
  stored := []
  published := []

def Journal.Recoverable (chunkReadings : ℕ) (s : Journal Session Value) : Prop :=
  ∀ reading ∈ s.stored, reading.sequence ≤ s.checkpoint.getD 0 ∨ ∃ file ∈ s.files,
    match readChunk chunkReadings file with
    | some chunk => ∃ row ∈ chunk.readings, reading.sequence ≤ row.sequence
    | none => reading.sequence < file.first + chunkReadings

def Event.Timed (s : Journal Session Value) : Event Session Value → Prop
  | .call (some (session, elapsed, _)) => ∀ reading ∈ s.stored, reading.session = session →
      reading.elapsed < elapsed
  | _ => True

instance (s : Journal Session Value) (event : Event Session Value) : Decidable (event.Timed s) :=
  match event with
  | .call (some (session, elapsed, _)) => inferInstanceAs
      (Decidable (∀ reading ∈ s.stored, reading.session = session → reading.elapsed < elapsed))
  | .call none | .go _ | .die | .damage _ | .damageCheckpoint _ => .isTrue trivial

def Step (chunkReadings maxChunks : ℕ) (s s' : Journal Session Value) : Prop :=
  ∃ event : Event Session Value, event.Timed s ∧
    s.step chunkReadings maxChunks event = some s'

def BoundedStep (chunkReadings maxChunks : ℕ) (s s' : Journal Session Value) : Prop :=
  (∀ call, s.place = .entering call → s.loaded = false → s.Recoverable chunkReadings) ∧
    Step chunkReadings maxChunks s s'

end DashcamStats.Temperature
