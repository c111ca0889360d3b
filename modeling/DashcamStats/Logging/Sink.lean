import Mathlib.Algebra.BigOperators.Group.List.Basic
import Mathlib.Algebra.Order.Field.Rat
import Mathlib.Data.List.MinMax
import DashcamStats.Library.Run
import DashcamStats.Library.Table

namespace DashcamStats.Logging

def MAX_DEDUPE_KEYS : ℕ := 1024

def MAX_BATCH : ℕ := 500

structure PendingLog where
  level : String
  logger : String
  message : String
  recordingId : Option ℤ
  jobId : Option ℤ
  -- `context.get("stage")`
  stage : String
  deriving DecidableEq

def PendingLog.key (r : PendingLog) : PendingLog :=
  { r with stage := String.ofList (r.stage.toList.take 64) }

-- A summary has the identity of its key.
inductive Entry where
  | record (number : ℕ) (log : PendingLog)
  | summary (key : PendingLog) (suppressed : ℕ)
  deriving DecidableEq

structure DedupeState where
  key : PendingLog
  windowStarted : ℚ
  suppressed : ℕ
  deriving DecidableEq

structure SinkStats where
  seen : ℕ := 0
  enqueued : ℕ := 0
  suppressed : ℕ := 0
  dropped : ℕ := 0
  written : ℕ := 0
  writeErrors : ℕ := 0

-- A call of `flush` that is writing a batch, or between two
structure Flush where
  forced : Bool
  batch : List Entry := []

/-- The sink, its flushes, and what became of the records: which passed the level test, and in what
they ended. -/
structure Sink where
  minLevel : ℤ
  queue : List Entry := []
  dedupe : Table DedupeState DedupeState.key := .empty
  stats : SinkStats := {}
  flushes : List Flush := []
  passed : List (ℕ × PendingLog) := []
  suppressed : List (ℕ × PendingLog) := []
  dropped : List Entry := []
  written : List Entry := []
  failed : List (List Entry) := []
  lost : List Entry := []
  summaries : List (PendingLog × ℕ) := []

structure SinkConfig where
  -- `_level_number`
  levelNumber : String → ℤ
  dedupeWindow : ℚ
  capacity : ℕ

def SinkConfig.maxlen (c : SinkConfig) : ℕ := max 16 c.capacity

namespace Sink

variable (config : SinkConfig) (s : Sink)

def enqueue (entry : Entry) : Sink :=
  let full := s.queue.length = config.maxlen
  { s with
    queue := (if full then s.queue.tail else s.queue) ++ [entry]
    dropped := s.dropped ++ if full then s.queue.take 1 else []
    stats := { s.stats with
      dropped := s.stats.dropped + if full then 1 else 0
      enqueued := s.stats.enqueued + 1 } }

-- A window is closed, and summed up when something was suppressed in it.
def close (state : DedupeState) : Sink :=
  if state.suppressed = 0 then s
  else
    { s.enqueue config (.summary state.key state.suppressed) with
      summaries := (state.key, state.suppressed) :: s.summaries }

def popOldest : Sink :=
  match s.dedupe.rows.argmin DedupeState.windowStarted with
  | none => s
  | some state => { s.close config state with dedupe := s.dedupe.erase state.key }

def trim : ℕ → Sink → Sink
  | 0, s => s
  | fuel + 1, s =>
    if s.dedupe.rows.length > MAX_DEDUPE_KEYS then trim fuel (s.popOldest config) else s

-- `self._dedupe[key] = state`
def opened (dedupe : Table DedupeState DedupeState.key) (key : PendingLog) (now : ℚ) :
    Table DedupeState DedupeState.key :=
  if found : ∃ b ∈ dedupe.rows, b.key = key then
    dedupe.update (fun b => b.key = key)
      (fun b => { b with windowStarted := now, suppressed := 0 }) fun _ => rfl
  else dedupe.insert ⟨key, now, 0⟩ fun b member same => found ⟨b, member, same⟩

def saw : Sink := { s with stats := { s.stats with seen := s.stats.seen + 1 } }

def accept (number : ℕ) (r : PendingLog) : Sink :=
  { s.enqueue config (.record number r) with passed := (number, r) :: s.passed }

def suppress (number : ℕ) (r : PendingLog) : Sink :=
  { s with
    dedupe := s.dedupe.update (fun b => b.key = r.key)
      (fun b => { b with suppressed := b.suppressed + 1 }) fun _ => rfl
    passed := (number, r) :: s.passed
    suppressed := (number, r) :: s.suppressed
    stats := { s.stats with suppressed := s.stats.suppressed + 1 } }

def emit (r : PendingLog) (force : Bool) (now : ℚ) : Sink :=
  let number := s.stats.seen
  let s := s.saw
  if force = false ∧ config.levelNumber r.level < s.minLevel then s
  else
    match s.dedupe.find? r.key with
    | some state =>
      if now - state.windowStarted < config.dedupeWindow then
        s.suppress number r
      else
        let s := s.close config state
        let s := { s with dedupe := opened s.dedupe r.key now }
        (trim config s.dedupe.rows.length s).accept config number r
    | none =>
      let s := { s with dedupe := opened s.dedupe r.key now }
      (trim config s.dedupe.rows.length s).accept config number r

def stale (force : Bool) (now : ℚ) (state : DedupeState) : Bool :=
  force || config.dedupeWindow ≤ now - state.windowStarted

def sweep (force : Bool) (now : ℚ) : Sink :=
  { (s.dedupe.rows.filter (stale config force now)).foldl (close config) s with
    dedupe := s.dedupe.filter fun state => !stale config force now state }

-- One turn of the loop of `flush`, up to the write
def turn (before : List Flush) (forced force : Bool) (now : ℚ) (after : List Flush) : Sink :=
  let s := s.sweep config force now
  let batch := s.queue.take MAX_BATCH
  { s with
    queue := s.queue.drop MAX_BATCH
    flushes := before ++ (if batch = [] then [] else [⟨forced, batch⟩]) ++ after }

inductive Event where
  | setMinLevel (level : ℤ)
  | emit (r : PendingLog) (force : Bool) (now : ℚ)
  -- `flush` is called; a flush goes on behind a write.
  | flush (force : Bool) (now : ℚ)
  | again (flush : ℕ) (now : ℚ)
  | writes (flush : ℕ)
  | fails (flush : ℕ)
  | cancelled (flush : ℕ)

def next : Event → Option Sink
  | .setMinLevel level => some { s with minLevel := level }
  | .emit r force now => some (s.emit config r force now)
  | .flush force now => some (s.turn config s.flushes force force now [])
  | .again i now => s.flushes[i]?.bind fun f =>
      if f.batch = [] then
        some (s.turn config (s.flushes.take i) f.forced false now (s.flushes.drop (i + 1)))
      else none
  | .writes i => s.flushes[i]?.bind fun f =>
      if f.batch = [] then none
      else some { s with
        flushes := s.flushes.set i { f with batch := [] }
        written := s.written ++ f.batch
        stats := { s.stats with written := s.stats.written + f.batch.length } }
  | .fails i => s.flushes[i]?.bind fun f =>
      if f.batch = [] then none
      else some { s with
        flushes := s.flushes.set i { f with batch := [] }
        failed := s.failed ++ [f.batch]
        stats := { s.stats with writeErrors := s.stats.writeErrors + 1 } }
  -- `except Exception` does not catch it, and nothing is counted.
  | .cancelled i => s.flushes[i]?.bind fun f =>
      if f.batch = [] then none
      else some { s with
        flushes := s.flushes.eraseIdx i
        lost := s.lost ++ f.batch }

def Steps (s : Sink) (e : Event) (t : Sink) : Prop := s.next config e = some t

def inHand (flushes : List Flush) : List Entry := (flushes.map Flush.batch).flatten

-- How often an entry is queued, dropped, being written, written, failed or lost
def places (entry : Entry) : ℕ :=
  s.queue.count entry + s.dropped.count entry + (inHand s.flushes).count entry +
    s.written.count entry + s.failed.flatten.count entry + s.lost.count entry

def summed (key : PendingLog) : ℕ :=
  (s.summaries.map fun x => if x.1 = key then x.2 else 0).sum

def live (dedupe : List DedupeState) (key : PendingLog) : ℕ :=
  (dedupe.map fun state => if state.key = key then state.suppressed else 0).sum

def suppressedOf (key : PendingLog) : ℕ := (s.suppressed.filter fun x => x.2.key = key).length

variable {config s}

structure Sized (config : SinkConfig) (s : Sink) : Prop where
  capacity : s.queue.length ≤ config.maxlen
  dropped : s.stats.dropped = s.dropped.length

/-- What filing summaries keeps: `t` has more of them queued, which sum up to `extra`. -/
structure Files (config : SinkConfig) (extra : PendingLog → ℕ) (s t : Sink) : Prop where
  passed : t.passed = s.passed
  suppressed : t.suppressed = s.suppressed
  flushes : t.flushes = s.flushes
  written : t.written = s.written
  failed : t.failed = s.failed
  lost : t.lost = s.lost
  seen : t.stats.seen = s.stats.seen
  counters : t.stats.suppressed = s.stats.suppressed ∧ t.stats.written = s.stats.written ∧
    t.stats.writeErrors = s.stats.writeErrors
  records : ∀ n r, t.places (.record n r) = s.places (.record n r)
  summed : ∀ key, t.summed key = s.summed key + extra key
  sized : Sized config s → Sized config t

theorem places_enqueue (entry other : Entry) :
    (s.enqueue config entry).places other = s.places other + if other = entry then 1 else 0 := by
  have single : [entry].count other = if other = entry then 1 else 0 := by
    by_cases same : other = entry
    · simp [same]
    · simp [same, Ne.symm same]
  have split : s.queue.count other =
      (s.queue.take 1).count other + s.queue.tail.count other := by
    rw [← List.count_append, ← List.drop_one, List.take_append_drop]
  unfold enqueue places
  by_cases full : s.queue.length = config.maxlen
  · simp only [full, ↓reduceIte, List.count_append, single]
    omega
  · simp only [full, ↓reduceIte, List.count_append, single, List.count_nil]
    omega

theorem Sized.enqueue (sized : Sized config s) (entry : Entry) :
    Sized config (s.enqueue config entry) := by
  obtain ⟨capacity, dropped⟩ := sized
  have room : 16 ≤ config.maxlen := le_max_left _ _
  unfold Sink.enqueue
  by_cases full : s.queue.length = config.maxlen
  · constructor <;> simp only [full, ↓reduceIte, List.length_append, List.length_tail,
      List.length_take, List.length_singleton] <;> omega
  · constructor <;> simp only [full, ↓reduceIte, List.length_append, List.length_singleton,
      List.append_nil] <;> omega

theorem Files.close (state : DedupeState) :
    Files config (fun key => if state.key = key then state.suppressed else 0) s
      (s.close config state) := by
  unfold Sink.close
  by_cases none : state.suppressed = 0
  · simp only [none, ↓reduceIte, ite_self]
    exact ⟨rfl, rfl, rfl, rfl, rfl, rfl, rfl, ⟨rfl, rfl, rfl⟩, fun _ _ => rfl, fun _ => rfl, id⟩
  · simp only [none, ↓reduceIte]
    refine ⟨rfl, rfl, rfl, rfl, rfl, rfl, rfl, ⟨rfl, rfl, rfl⟩, fun n r => ?_, fun key => ?_,
      fun sized => ?_⟩
    · have placed : (s.enqueue config (.summary state.key state.suppressed)).places (.record n r) =
          _ := places_enqueue _ _
      rw [if_neg (by simp), add_zero] at placed
      exact placed
    · simp only [Sink.summed, List.map_cons, List.sum_cons]
      exact add_comm _ _
    · have filed := sized.enqueue (.summary state.key state.suppressed)
      exact ⟨filed.capacity, filed.dropped⟩

theorem Files.trans {extra more : PendingLog → ℕ} {t u : Sink} (first : Files config extra s t)
    (second : Files config more t u) : Files config (fun key => extra key + more key) s u where
  passed := second.passed.trans first.passed
  suppressed := second.suppressed.trans first.suppressed
  flushes := second.flushes.trans first.flushes
  written := second.written.trans first.written
  failed := second.failed.trans first.failed
  lost := second.lost.trans first.lost
  seen := second.seen.trans first.seen
  counters := ⟨second.counters.1.trans first.counters.1,
    second.counters.2.1.trans first.counters.2.1, second.counters.2.2.trans first.counters.2.2⟩
  records n r := (second.records n r).trans (first.records n r)
  summed key := by rw [second.summed, first.summed, add_assoc]
  sized := second.sized ∘ first.sized

theorem Files.closeAll (states : List DedupeState) :
    Files config (live states) s (states.foldl (Sink.close config) s) := by
  induction states generalizing s with
  | nil =>
    exact ⟨rfl, rfl, rfl, rfl, rfl, rfl, rfl, ⟨rfl, rfl, rfl⟩, fun _ _ => rfl, fun _ => rfl, id⟩
  | cons state rest ih =>
    have same : live (state :: rest) =
        fun key => (if state.key = key then state.suppressed else 0) + live rest key := by
      funext key
      simp [live]
    rw [same]
    exact (Files.close state).trans ih

theorem close_dedupe (state : DedupeState) : (s.close config state).dedupe = s.dedupe := by
  unfold close
  split_ifs <;> rfl

def Tidies (config : SinkConfig) (s t : Sink) : Prop :=
  ∃ extra, Files config extra s t ∧
    ∀ key, live s.dedupe.rows key = extra key + live t.dedupe.rows key

theorem Tidies.refl : Tidies config s s :=
  ⟨fun _ => 0, .closeAll [], fun _ => (Nat.zero_add _).symm⟩

theorem Tidies.trans {t u : Sink} (first : Tidies config s t) (second : Tidies config t u) :
    Tidies config s u := by
  obtain ⟨extra, files, moved⟩ := first
  obtain ⟨more, files', moved'⟩ := second
  refine ⟨_, files.trans files', fun key => ?_⟩
  rw [moved, moved', add_assoc]

theorem live_filter (p : DedupeState → Bool) (states : List DedupeState) (key : PendingLog) :
    live states key = live (states.filter p) key + live (states.filter fun x => !p x) key := by
  induction states with
  | nil => rfl
  | cons state rest ih =>
    simp only [live, List.map_cons, List.sum_cons] at ih ⊢
    rw [ih]
    cases kept : p state <;> simp [kept] <;> omega

theorem live_absent {states : List DedupeState} {key : PendingLog}
    (absent : ∀ state ∈ states, state.key ≠ key) : live states key = 0 := by
  refine List.sum_eq_zero fun n member => ?_
  obtain ⟨state, found, rfl⟩ := List.mem_map.mp member
  exact if_neg (absent state found)

theorem live_eq (dedupe : Table DedupeState DedupeState.key) (key : PendingLog) :
    live dedupe.rows key = (dedupe.find? key).elim 0 DedupeState.suppressed := by
  have split := live_filter (fun state => state.key = key) dedupe.rows key
  have others : live (dedupe.rows.filter fun state => !decide (state.key = key)) key = 0 :=
    live_absent fun state member => by simpa using (List.mem_filter.mp member).2
  rw [split, others, add_zero, Table.find?, ← List.head?_filter]
  have few : (dedupe.rows.filter fun state => state.key = key).length ≤ 1 := by
    have once := List.nodup_iff_count_le_one.mp dedupe.distinct key
    rw [List.count, List.countP_map, List.countP_eq_length_filter] at once
    exact once
  cases found : dedupe.rows.filter fun state => state.key = key with
  | nil => rfl
  | cons state rest =>
    have none : rest = [] := by
      rw [found, List.length_cons] at few
      exact List.eq_nil_of_length_eq_zero (by omega)
    have named : state.key = key := by
      have member : state ∈ dedupe.rows.filter fun state => state.key = key := by simp [found]
      simpa using (List.mem_filter.mp member).2
    simp [live, none, named]

theorem Tidies.of_files {extra : PendingLog → ℕ} {t : Sink} (files : Files config extra s t)
    {dedupe : Table DedupeState DedupeState.key}
    (moved : ∀ key, live s.dedupe.rows key = extra key + live dedupe.rows key) :
    Tidies config s { t with dedupe := dedupe } :=
  ⟨extra, ⟨files.passed, files.suppressed, files.flushes, files.written, files.failed, files.lost,
    files.seen, files.counters, files.records, files.summed, fun sized =>
      ⟨(files.sized sized).capacity, (files.sized sized).dropped⟩⟩, moved⟩

theorem Tidies.sweep (force : Bool) (now : ℚ) : Tidies config s (s.sweep config force now) :=
  .of_files (.closeAll _) fun key => live_filter _ _ key

theorem Tidies.popOldest : Tidies config s (s.popOldest config) := by
  unfold Sink.popOldest
  cases found : s.dedupe.rows.argmin DedupeState.windowStarted with
  | none => exact .refl
  | some state =>
    have member : state ∈ s.dedupe := List.argmin_mem found
    refine .of_files (.close state) fun key => ?_
    by_cases same : state.key = key
    · have gone : live (s.dedupe.erase state.key).rows key = 0 :=
        live_absent fun other left => same ▸ (Table.mem_erase.mp left).2
      rw [gone, live_eq, ← same, Table.find?_self member, if_pos rfl, Option.elim_some, add_zero]
    · have rest : live (s.dedupe.rows.filter fun x => !decide (x.key ≠ state.key)) key = 0 :=
        live_absent fun other left named => same (by
          have equal : other.key = state.key := by simpa using (List.mem_filter.mp left).2
          rw [← equal, named])
      rw [if_neg same, zero_add, live_filter (fun x => x.key ≠ state.key), rest, add_zero]
      rfl

theorem popOldest_length (many : 0 < s.dedupe.rows.length) :
    (s.popOldest config).dedupe.rows.length < s.dedupe.rows.length := by
  unfold popOldest
  cases found : s.dedupe.rows.argmin DedupeState.windowStarted with
  | none =>
    rw [List.argmin_eq_none.mp found] at many
    exact absurd many (lt_irrefl 0)
  | some state =>
    exact List.length_filter_lt_length_iff_exists.mpr ⟨state, List.argmin_mem found, by simp⟩

theorem Tidies.trim (fuel : ℕ) : Tidies config s (Sink.trim config fuel s) := by
  induction fuel generalizing s with
  | zero => exact .refl
  | succ fuel ih =>
    unfold Sink.trim
    split_ifs
    · exact Tidies.popOldest.trans ih
    · exact .refl

theorem trim_length (fuel : ℕ) (enough : s.dedupe.rows.length ≤ fuel) :
    (trim config fuel s).dedupe.rows.length ≤ MAX_DEDUPE_KEYS := by
  induction fuel generalizing s with
  | zero => exact enough.trans (Nat.zero_le _)
  | succ fuel ih =>
    unfold trim
    split_ifs with many
    · have shorter : (s.popOldest config).dedupe.rows.length < s.dedupe.rows.length :=
        popOldest_length (by omega)
      exact ih (by omega)
    · exact not_lt.mp many

theorem live_opened (dedupe : Table DedupeState DedupeState.key) (opens : PendingLog) (now : ℚ)
    (key : PendingLog) : live (opened dedupe opens now).rows key =
      if opens = key then 0 else live dedupe.rows key := by
  unfold opened
  split_ifs with found same same
  · rw [live_eq, Table.find?_update]
    cases here : dedupe.find? key with
    | none => rfl
    | some state =>
      obtain ⟨-, named⟩ := Table.find?_mem here
      simp [named, same]
  · rw [live_eq, Table.find?_update, live_eq]
    cases here : dedupe.find? key with
    | none => rfl
    | some state =>
      obtain ⟨-, named⟩ := Table.find?_mem here
      simp [named, Ne.symm same]
  · have absent : ∀ state ∈ dedupe.rows, state.key ≠ key :=
      fun state member named => found ⟨state, member, named.trans same.symm⟩
    simp [Table.insert, live, same]
    exact live_absent absent
  · simp [Table.insert, live, same]

theorem live_counted {dedupe : Table DedupeState DedupeState.key} {counts : PendingLog}
    {state : DedupeState} (found : dedupe.find? counts = some state) (key : PendingLog) :
    live (dedupe.update (fun b => b.key = counts)
      (fun b => { b with suppressed := b.suppressed + 1 }) fun _ => rfl).rows key =
      live dedupe.rows key + if counts = key then 1 else 0 := by
  rw [live_eq, Table.find?_update, live_eq]
  by_cases same : counts = key
  · obtain ⟨-, named⟩ := Table.find?_mem found
    subst same
    simp [found, named]
  · cases here : dedupe.find? key with
    | none => simp [same]
    | some other =>
      obtain ⟨-, named⟩ := Table.find?_mem here
      simp [named, same, Ne.symm same]

theorem Tidies.opened_close {state : DedupeState} (found : s.dedupe.find? state.key = some state)
    (now : ℚ) : Tidies config s
      { s.close config state with
        dedupe := opened (s.close config state).dedupe state.key now } := by
  refine .of_files (.close state) fun key => ?_
  rw [close_dedupe, live_opened, live_eq]
  split_ifs with same
  · rw [← same, found, Option.elim_some, add_zero]
  · rw [zero_add]

theorem Tidies.opened_fresh {key : PendingLog} (absent : s.dedupe.find? key = none) (now : ℚ) :
    Tidies config s { s with dedupe := opened s.dedupe key now } := by
  refine .of_files (.closeAll []) fun other => ?_
  rw [live_opened]
  split_ifs with same
  · rw [live_eq, ← same, absent]
    rfl
  · exact (Nat.zero_add _).symm

structure Accounted (config : SinkConfig) (s : Sink) : Prop where
  sized : Sized config s
  keys : s.dedupe.rows.length ≤ MAX_DEDUPE_KEYS
  placed : ∀ n r, s.passed.count (n, r) = s.places (.record n r) + s.suppressed.count (n, r)
  numbered : ∀ x ∈ s.passed, x.1 < s.stats.seen
  once : s.passed.Nodup
  sums : ∀ key, s.suppressedOf key = s.summed key + live s.dedupe.rows key
  counters : s.stats.suppressed = s.suppressed.length ∧ s.stats.written = s.written.length ∧
    s.stats.writeErrors = s.failed.length

theorem Accounted.tidied {t : Sink} (accounted : Accounted config s) (tidies : Tidies config s t)
    (keys : t.dedupe.rows.length ≤ MAX_DEDUPE_KEYS) : Accounted config t := by
  obtain ⟨extra, files, moved⟩ := tidies
  refine ⟨files.sized accounted.sized, keys, fun n r => ?_, fun x member => ?_, ?_,
    fun key => ?_, ?_⟩
  · rw [files.passed, files.records, files.suppressed]
    exact accounted.placed n r
  · rw [files.seen]
    exact accounted.numbered x (files.passed ▸ member)
  · exact files.passed ▸ accounted.once
  · have sums := accounted.sums key
    have same : t.suppressedOf key = s.suppressedOf key := by
      unfold suppressedOf
      rw [files.suppressed]
    rw [same, files.summed, sums, moved]
    omega
  · rw [files.counters.1, files.counters.2.1, files.counters.2.2, files.suppressed, files.written,
      files.failed]
    exact accounted.counters

theorem Accounted.saw (accounted : Accounted config s) : Accounted config s.saw where
  sized := ⟨accounted.sized.capacity, accounted.sized.dropped⟩
  keys := accounted.keys
  placed := accounted.placed
  numbered x member := (accounted.numbered x member).trans (Nat.lt_succ_self _)
  once := accounted.once
  sums := accounted.sums
  counters := accounted.counters

theorem Accounted.accept (accounted : Accounted config s) {number : ℕ} (r : PendingLog)
    (last : number < s.stats.seen) (new : ∀ x ∈ s.passed, x.1 < number) :
    Accounted config (s.accept config number r) := by
  have sized := accounted.sized.enqueue (.record number r)
  refine ⟨⟨sized.capacity, sized.dropped⟩, accounted.keys, fun n q => ?_, fun x member => ?_, ?_,
    accounted.sums, accounted.counters⟩
  · have placed := accounted.placed n q
    have more : (s.accept config number r).places (.record n q) =
        s.places (.record n q) + if Entry.record n q = .record number r then 1 else 0 :=
      places_enqueue _ _
    have same : (s.accept config number r).suppressed = s.suppressed := rfl
    have grown : (s.accept config number r).passed = (number, r) :: s.passed := rfl
    rw [more, same, grown, List.count_cons, placed]
    by_cases here : n = number ∧ q = r
    · obtain ⟨rfl, rfl⟩ := here
      simp
      omega
    · have apart : ¬(number, r) = (n, q) := fun equal => here (by cases equal; exact ⟨rfl, rfl⟩)
      simp [here, apart]
  · obtain rfl | old := List.mem_cons.mp member
    · exact last
    · exact accounted.numbered x old
  · exact List.nodup_cons.mpr ⟨fun member => lt_irrefl _ (new _ member), accounted.once⟩

theorem Accounted.suppress (accounted : Accounted config s) {number : ℕ} {r : PendingLog}
    {state : DedupeState} (found : s.dedupe.find? r.key = some state)
    (last : number < s.stats.seen) (new : ∀ x ∈ s.passed, x.1 < number) :
    Accounted config (s.suppress number r) := by
  obtain ⟨suppressed, written, failed⟩ := accounted.counters
  refine ⟨⟨accounted.sized.capacity, accounted.sized.dropped⟩, ?_, fun n q => ?_,
    fun x member => ?_, ?_, fun key => ?_, congrArg (· + 1) suppressed, written, failed⟩
  · exact (List.length_map _).trans_le accounted.keys
  · have placed := accounted.placed n q
    simp only [Sink.suppress, List.count_cons, placed]
    exact add_assoc _ _ _
  · obtain rfl | old := List.mem_cons.mp member
    · exact last
    · exact accounted.numbered x old
  · exact List.nodup_cons.mpr ⟨fun member => lt_irrefl _ (new _ member), accounted.once⟩
  · have sums := accounted.sums key
    simp only [Sink.suppress, suppressedOf, summed] at sums ⊢
    rw [live_counted found, List.filter_cons]
    by_cases same : r.key = key
    · simp [same]
      omega
    · simp [same]
      exact sums

theorem Accounted.emit (accounted : Accounted config s) (r : PendingLog) (force : Bool) (now : ℚ) :
    Accounted config (s.emit config r force now) ∧ (s.emit config r force now).lost = s.lost := by
  have seen := accounted.saw
  have queued {u : Sink} (tidies : Tidies config s.saw u) :
      Accounted config ((trim config u.dedupe.rows.length u).accept config s.stats.seen r) ∧
        ((trim config u.dedupe.rows.length u).accept config s.stats.seen r).lost = s.lost := by
    have whole := tidies.trans (.trim u.dedupe.rows.length)
    have tidied := seen.tidied whole (trim_length _ le_rfl)
    obtain ⟨extra, files, -⟩ := whole
    refine ⟨tidied.accept r ?_ fun x member => accounted.numbered x (files.passed ▸ member),
      files.lost⟩
    rw [files.seen]
    exact Nat.lt_succ_self _
  unfold Sink.emit
  dsimp only
  split_ifs with low
  · exact ⟨seen, rfl⟩
  · split
    · next state found =>
      obtain ⟨-, named⟩ := Table.find?_mem found
      split_ifs with again
      · exact ⟨seen.suppress found (Nat.lt_succ_self _) accounted.numbered, rfl⟩
      · rw [← named] at found ⊢
        exact queued (.opened_close (s := s.saw) found now)
    · next absent => exact queued (.opened_fresh (s := s.saw) absent now)

theorem Accounted.turn (accounted : Accounted config s) {before after : List Flush}
    {forced force : Bool} {now : ℚ} (rest : inHand s.flushes = inHand before ++ inHand after) :
    Accounted config (s.turn config before forced force now after) := by
  have tidies : Tidies config s (s.sweep config force now) := .sweep force now
  have swept := accounted.tidied tidies ((List.length_filter_le _ _).trans accounted.keys)
  obtain ⟨extra, files, -⟩ := tidies
  refine ⟨⟨?_, swept.sized.dropped⟩, swept.keys, fun n r => ?_, swept.numbered, swept.once,
    swept.sums, swept.counters⟩
  · exact (List.drop_sublist _ _).length_le.trans swept.sized.capacity
  · have placed := swept.placed n r
    have split := congrArg (List.count (Entry.record n r))
      (List.take_append_drop MAX_BATCH (s.sweep config force now).queue)
    have batch : inHand (if (s.sweep config force now).queue.take MAX_BATCH = [] then []
        else [⟨forced, (s.sweep config force now).queue.take MAX_BATCH⟩]) =
        (s.sweep config force now).queue.take MAX_BATCH := by
      split_ifs with none
      · exact none.symm
      · simp [inHand]
    refine placed.trans ?_
    congr 1
    simp only [places, Sink.turn, files.flushes, rest]
    simp only [inHand, List.map_append, List.flatten_append] at batch ⊢
    simp only [List.count_append, batch] at split ⊢
    omega

theorem inHand_split {flushes : List Flush} {i : ℕ} {f : Flush} (found : flushes[i]? = some f) :
    inHand flushes = inHand (flushes.take i) ++ (f.batch ++ inHand (flushes.drop (i + 1))) := by
  obtain ⟨short, rfl⟩ := List.getElem?_eq_some_iff.mp found
  have whole : flushes.take i ++ flushes[i] :: flushes.drop (i + 1) = flushes := by
    rw [← List.drop_eq_getElem_cons short, List.take_append_drop]
  have hands := congrArg inHand whole
  simpa only [inHand, List.map_append, List.map_cons, List.flatten_append, List.flatten_cons]
    using hands.symm

theorem inHand_set {flushes : List Flush} {i : ℕ} {f g : Flush} (found : flushes[i]? = some f)
    (done : g.batch = []) :
    inHand (flushes.set i g) = inHand (flushes.take i) ++ inHand (flushes.drop (i + 1)) := by
  obtain ⟨short, -⟩ := List.getElem?_eq_some_iff.mp found
  rw [List.set_eq_take_append_cons_drop, if_pos short]
  simp [inHand, done]

theorem Accounted.moved {t : Sink} (accounted : Accounted config s)
    (queue : t.queue = s.queue) (dedupe : t.dedupe = s.dedupe) (dropped : t.dropped = s.dropped)
    (passed : t.passed = s.passed) (suppressed : t.suppressed = s.suppressed)
    (summaries : t.summaries = s.summaries)
    (stats : t.stats.seen = s.stats.seen ∧ t.stats.dropped = s.stats.dropped ∧
      t.stats.suppressed = s.stats.suppressed)
    (written : t.stats.written = t.written.length) (failed : t.stats.writeErrors = t.failed.length)
    (places : ∀ entry, t.places entry = s.places entry) : Accounted config t where
  sized := ⟨queue ▸ accounted.sized.capacity, by rw [stats.2.1, dropped, accounted.sized.dropped]⟩
  keys := dedupe ▸ accounted.keys
  placed n r := by rw [passed, suppressed, places, accounted.placed]
  numbered := by rw [passed, stats.1]; exact accounted.numbered
  once := passed ▸ accounted.once
  sums key := by
    unfold suppressedOf summed
    rw [suppressed, summaries, dedupe]
    exact accounted.sums key
  counters := ⟨by rw [stats.2.2, suppressed, accounted.counters.1], written, failed⟩

theorem Accounted.step {t : Sink} {e : Event} (accounted : Accounted config s)
    (stepped : Steps config s e t) : Accounted config t := by
  have counters := accounted.counters
  cases e with
  | setMinLevel level =>
    cases stepped
    exact accounted.moved rfl rfl rfl rfl rfl rfl ⟨rfl, rfl, rfl⟩ counters.2.1 counters.2.2
      fun _ => rfl
  | emit r force now => cases stepped; exact (accounted.emit r force now).1
  | flush force now => cases stepped; exact accounted.turn (List.append_nil _).symm
  | again i now =>
    obtain ⟨f, found, stepped⟩ := Option.bind_eq_some_iff.mp stepped
    split_ifs at stepped with between
    cases stepped
    refine accounted.turn ?_
    rw [inHand_split found, between, List.nil_append]
  | writes i =>
    obtain ⟨f, found, stepped⟩ := Option.bind_eq_some_iff.mp stepped
    split_ifs at stepped
    cases stepped
    refine accounted.moved rfl rfl rfl rfl rfl rfl ⟨rfl, rfl, rfl⟩ ?_ counters.2.2 fun entry => ?_
    · simp [counters.2.1]
    · simp only [places]
      rw [inHand_set found rfl, inHand_split found]
      simp only [List.count_append]
      omega
  | fails i =>
    obtain ⟨f, found, stepped⟩ := Option.bind_eq_some_iff.mp stepped
    split_ifs at stepped
    cases stepped
    refine accounted.moved rfl rfl rfl rfl rfl rfl ⟨rfl, rfl, rfl⟩ counters.2.1 ?_ fun entry => ?_
    · simp [counters.2.2]
    · simp only [places]
      rw [inHand_set found rfl, inHand_split found]
      simp only [List.count_append, List.flatten_append, List.flatten_singleton]
      omega
  | cancelled i =>
    obtain ⟨f, found, stepped⟩ := Option.bind_eq_some_iff.mp stepped
    split_ifs at stepped
    cases stepped
    refine accounted.moved rfl rfl rfl rfl rfl rfl ⟨rfl, rfl, rfl⟩ counters.2.1 counters.2.2
      fun entry => ?_
    simp only [places, List.eraseIdx_eq_take_drop_succ]
    rw [inHand_split found]
    simp only [inHand, List.map_append, List.flatten_append, List.count_append]
    omega

/-- Every record that passed is queued, dropped, with a flush, written, part of a failed batch, or
suppressed, and one of these only. -/
def Complete (s : Sink) : Prop :=
  ∀ x ∈ s.passed, s.queue.count (.record x.1 x.2) + s.dropped.count (.record x.1 x.2) +
    (inHand s.flushes).count (.record x.1 x.2) + s.written.count (.record x.1 x.2) +
    s.failed.flatten.count (.record x.1 x.2) + s.suppressed.count x = 1

instance (s : Sink) : Decidable s.Complete :=
  inferInstanceAs (Decidable (∀ x ∈ s.passed, _))

-- The summaries of a key say how many of its records were suppressed.
def Drained (s : Sink) : Prop := ∀ key, s.suppressedOf key = s.summed key

-- A forced flush returns.
def Returns (s : Sink) : Event → Sink → Prop
  | .flush force _, t => force = true ∧ t.flushes.length = s.flushes.length
  | .again i _, t => (∃ f, s.flushes[i]? = some f ∧ f.forced = true) ∧
      t.flushes.length < s.flushes.length
  | _, _ => False

/-- No write of a record is cancelled, and a forced flush that finds nothing more to write finds no
window either that has suppressed a record since its sweep. -/
def Allowed (config : SinkConfig) (s : Sink) : Event → Prop
  | .cancelled i => ∀ f, s.flushes[i]? = some f → ∀ n r, .record n r ∉ f.batch
  | .again i now => (∃ f, s.flushes[i]? = some f ∧ f.forced = true) → s.queue = [] →
      (∀ state ∈ s.dedupe.rows, stale config false now state = true → state.suppressed = 0) →
      ∀ state ∈ s.dedupe.rows, state.suppressed = 0
  | _ => True

theorem close_queue (state : DedupeState) :
    (s.close config state).queue = [] ↔ s.queue = [] ∧ state.suppressed = 0 := by
  unfold close enqueue
  split_ifs with none <;> simp [none]

theorem closeAll_queue (states : List DedupeState) :
    (states.foldl (close config) s).queue = [] ↔
      s.queue = [] ∧ ∀ state ∈ states, state.suppressed = 0 := by
  induction states generalizing s with
  | nil => simp
  | cons state rest ih => rw [List.foldl_cons, ih, close_queue, List.forall_mem_cons, and_assoc]

theorem Accounted.drained_iff (accounted : Accounted config s) :
    s.Drained ↔ ∀ state ∈ s.dedupe.rows, state.suppressed = 0 := by
  constructor
  · intro drained state member
    have sums := accounted.sums state.key
    rw [drained, live_eq, Table.find?_self member, Option.elim_some] at sums
    omega
  · intro none key
    have empty : live s.dedupe.rows key = 0 := by
      refine List.sum_eq_zero fun n member => ?_
      obtain ⟨state, found, rfl⟩ := List.mem_map.mp member
      simp [none state found]
    rw [accounted.sums, empty, add_zero]

theorem Accounted.complete_iff (accounted : Accounted config s) :
    s.Complete ↔ ∀ n r, .record n r ∉ s.lost := by
  have placed (n : ℕ) (r : PendingLog) := accounted.placed n r
  simp only [places] at placed
  constructor
  · intro complete n r member
    have lost := List.count_pos_iff.mpr member
    have found : (n, r) ∈ s.passed := by
      by_contra absent
      have none := List.count_eq_zero.mpr absent
      have placed := placed n r
      omega
    have one := complete (n, r) found
    have once := List.count_eq_one_of_mem accounted.once found
    have placed := placed n r
    dsimp only at one
    omega
  · rintro kept ⟨n, r⟩ found
    have once := List.count_eq_one_of_mem accounted.once found
    have none := List.count_eq_zero.mpr (kept n r)
    have placed := placed n r
    dsimp only
    omega

theorem turn_length (before after : List Flush) (forced force : Bool) (now : ℚ) :
    (s.turn config before forced force now after).flushes.length = before.length + after.length +
      if (s.sweep config force now).queue = [] then 0 else 1 := by
  have batch : (s.sweep config force now).queue.take MAX_BATCH = [] ↔
      (s.sweep config force now).queue = [] := by
    simp [List.take_eq_nil_iff, MAX_BATCH]
  simp only [turn, batch]
  split_ifs
  · simp
  · simp
    omega

theorem turn_lost (before after : List Flush) (forced force : Bool) (now : ℚ) :
    (s.turn config before forced force now after).lost = s.lost := by
  obtain ⟨extra, files, -⟩ : Tidies config s (s.sweep config force now) := .sweep force now
  exact files.lost

theorem allowed_iff {t : Sink} {e : Event} (accounted : Accounted config s)
    (complete : s.Complete) (stepped : Steps config s e t) :
    Allowed config s e ↔ t.Complete ∧ (Returns s e t → t.Drained) := by
  have reached := accounted.step stepped
  have kept := accounted.complete_iff.mp complete
  rw [reached.complete_iff]
  cases e with
  | setMinLevel level => cases stepped; simpa [Allowed, Returns] using kept
  | emit r force now =>
    cases stepped
    rw [(accounted.emit r force now).2]
    simpa [Allowed, Returns] using kept
  | flush force now =>
    cases stepped
    rw [turn_lost]
    refine iff_of_true trivial
      ⟨kept, fun ⟨forced, _⟩ => reached.drained_iff.mpr fun state left => ?_⟩
    have open_ := (List.mem_filter.mp left).2
    simp [stale, forced] at open_
  | again i now =>
    obtain ⟨f, found, after⟩ := Option.bind_eq_some_iff.mp stepped
    split_ifs at after with between
    cases after
    obtain ⟨short, -⟩ := List.getElem?_eq_some_iff.mp found
    have returns : Returns s (.again i now) (s.turn config (s.flushes.take i) f.forced false now
        (s.flushes.drop (i + 1))) ↔ f.forced = true ∧ s.queue = [] ∧
          ∀ state ∈ s.dedupe.rows, stale config false now state = true → state.suppressed = 0 := by
      have queue : ((s.dedupe.rows.filter (stale config false now)).foldl (close config) s).queue =
          [] ↔ _ := closeAll_queue _
      simp only [List.mem_filter, and_imp] at queue
      simp only [Returns, found, Option.some.injEq, exists_eq_left', turn_length, sweep, queue,
        List.length_take, List.length_drop]
      refine and_congr_right fun _ => ?_
      split_ifs with none
      · exact iff_of_true (by omega) none
      · exact iff_of_false (by omega) none
    have left : (s.turn config (s.flushes.take i) f.forced false now
        (s.flushes.drop (i + 1))).dedupe.rows =
        s.dedupe.rows.filter fun state => !stale config false now state := rfl
    rw [turn_lost, returns, reached.drained_iff, left]
    simp only [Allowed, found, Option.some.injEq, exists_eq_left', List.mem_filter]
    constructor
    · rintro allowed
      exact ⟨kept, fun ⟨forced, queue, idle⟩ state member =>
        allowed forced queue idle state member.1⟩
    · rintro ⟨-, drained⟩ forced queue idle state member
      cases open_ : stale config false now state with
      | true => exact idle state member open_
      | false => exact drained ⟨forced, queue, idle⟩ state ⟨member, by simp [open_]⟩
  | writes i =>
    obtain ⟨f, found, stepped⟩ := Option.bind_eq_some_iff.mp stepped
    split_ifs at stepped
    cases stepped
    simpa [Allowed, Returns] using kept
  | fails i =>
    obtain ⟨f, found, stepped⟩ := Option.bind_eq_some_iff.mp stepped
    split_ifs at stepped
    cases stepped
    simpa [Allowed, Returns] using kept
  | cancelled i =>
    obtain ⟨f, found, stepped⟩ := Option.bind_eq_some_iff.mp stepped
    split_ifs at stepped
    cases stepped
    simp [Allowed, Returns, found, kept]

theorem Accounted.initial (minLevel : ℤ) : Accounted config { minLevel := minLevel } where
  sized := ⟨Nat.zero_le _, rfl⟩
  keys := Nat.zero_le _
  placed _ _ := rfl
  numbered _ member := absurd member List.not_mem_nil
  once := .nil
  sums _ := rfl
  counters := ⟨rfl, rfl, rfl⟩

/-- The runs of allowed steps are those in which every record is accounted for and every forced
flush returns drained. In every run the bounds and the counters hold, and neither `emit` nor a turn
of `flush` fails. -/
theorem sink_accounts (config : SinkConfig) (minLevel : ℤ) (events : List Event) (s : Sink) :
    (Run (Steps config) (Allowed config) { minLevel := minLevel } events s ↔
      Run (fun s e t => Steps config s e t ∧ t.Complete ∧ (Returns s e t → t.Drained)) anyStep
        { minLevel := minLevel } events s) ∧
    (Run (Steps config) anyStep { minLevel := minLevel } events s →
      s.queue.length ≤ config.maxlen ∧ s.dedupe.rows.length ≤ MAX_DEDUPE_KEYS ∧
      (s.stats.dropped = s.dropped.length ∧ s.stats.suppressed = s.suppressed.length ∧
        s.stats.written = s.written.length ∧ s.stats.writeErrors = s.failed.length) ∧
      (∀ r force now, (s.next config (.emit r force now)).isSome) ∧
      ∀ force now, (s.next config (.flush force now)).isSome) := by
  have preserved (s : Sink) (e : Event) (t : Sink) (held : Accounted config s)
      (stepped : Steps config s e t) : Accounted config t := held.step stepped
  constructor
  · exact Run.iff_kept (Accounted config) Complete (fun s e t => Returns s e t → t.Drained)
      preserved (fun s e t held complete stepped => allowed_iff held complete stepped) (.initial minLevel)
      (fun x member => absurd member List.not_mem_nil)
  · intro run
    have held : Accounted config s := run.invariant (Accounted config)
      (fun s e t held _ stepped => preserved s e t held stepped) (.initial minLevel)
    exact ⟨held.sized.capacity, held.keys, ⟨held.sized.dropped, held.counters⟩,
      fun _ _ _ => rfl, fun _ _ => rfl⟩

def started : PendingLog where
  level := "INFO"
  logger := "app"
  message := "started"
  recordingId := none
  jobId := none
  stage := ""

def standard : SinkConfig := { levelNumber := fun _ => 20, dedupeWindow := 30, capacity := 2048 }

-- A record is queued, its write is cancelled, and it is nowhere.
def cancelledWrite : List Event := [.emit started false 0, .flush false 1, .cancelled 0]

theorem cancelled_not_complete :
    ∃ s, Run (Steps standard) anyStep { minLevel := 20 } cancelledWrite s ∧ ¬ s.Complete := by
  have reached : ((trace (next standard) anyStep { minLevel := 20 } cancelledWrite).any
      fun s => !decide s.Complete) = true := by
    decide +kernel
  cases traced : trace (next standard) anyStep { minLevel := 20 } cancelledWrite with
  | none => simp [traced] at reached
  | some s => exact ⟨s, run_of_trace _ _ traced, by simpa [traced] using reached⟩

end Sink

end DashcamStats.Logging
