import Mathlib.Tactic.IntervalCases
import DashcamStats.Library.Run
import DashcamStats.Library.Table

namespace DashcamStats.Clips

-- What the retry reads of a visual result, with what `optString` and `optInt` make of it
structure QuietVisual where
  status : Option String := none
  reason : Option String := none
  motionFrames : Option ℤ := none
  maxCoherentPixels : Option ℤ := none
  maxRollingCoherentPixels : Option ℤ := none
  maxConsecutiveCoherentFrames : Option ℤ := none
  inputFrames : Option ℤ := none
  decodedFrames : Option ℤ := none
  deriving DecidableEq

structure RetryAttempt where
  key : String
  count : ℤ
  afterMs : ℤ
  deriving DecidableEq

abbrev RetryAttempts := Table RetryAttempt RetryAttempt.key

structure QuietResourceRetry where
  attempts : RetryAttempts := .empty
  observedAtMs : ℤ := 0
  cooldownUntilMs : ℤ := 0
  refusalStreak : ℤ := 0

-- A well-formed object; one that lacks a field throws as `null` does.
structure SavedRetry where
  observedAtMs : ℤ
  cooldownUntilMs : ℤ
  refusalStreak : ℤ
  attempts : List RetryAttempt

namespace QuietResourceRetry

def MAX_ATTEMPTS : ℤ := 4

def MAX_ENTRIES : ℕ := 128

def LONG_MAX : ℤ := 2 ^ 63 - 1

def reasons : List String :=
  ["cpu_temperature_guard", "cpu_temperature_hard_limit", "system_thermal_guard",
    "battery_temperature_guard", "memory_guard"]

def transient (visual : QuietVisual) : Bool :=
  visual.status.getD "" = "unavailable" &&
  (visual.reason.getD "") ∈ reasons && visual.motionFrames.getD (-1) = 0 &&
  0 ≤ visual.maxCoherentPixels.getD (-1) && visual.maxCoherentPixels.getD (-1) < 16 &&
  0 ≤ visual.maxRollingCoherentPixels.getD (-1) &&
  visual.maxRollingCoherentPixels.getD (-1) < 128 &&
  0 ≤ visual.maxConsecutiveCoherentFrames.getD (-1) &&
  visual.maxConsecutiveCoherentFrames.getD (-1) < 2

def started (visual : QuietVisual) : Bool :=
  0 < visual.inputFrames.getD (-1) || 0 < visual.decodedFrames.getD (-1)

variable (s : QuietResourceRetry)

def exhaust (a : RetryAttempt) : RetryAttempt := { a with count := MAX_ATTEMPTS, afterMs := 0 }

def advance (now : ℤ) : QuietResourceRetry × Bool :=
  let rollback := now < s.observedAtMs
  let invalidated := rollback ∧ (s.cooldownUntilMs ≠ 0 ∨
    ∃ a ∈ s.attempts.rows, a.count < MAX_ATTEMPTS ∨ a.afterMs ≠ 0)
  let s := if rollback then
      { s with
        attempts := s.attempts.update (fun _ => true) exhaust fun _ => rfl
        cooldownUntilMs := 0 }
    else s
  ({ s with observedAtMs := max s.observedAtMs now }, decide invalidated)

def retain (keys : List String) : QuietResourceRetry :=
  { s with attempts := s.attempts.filter fun a => a.key ∈ keys }

def pending (key : String) (visual : QuietVisual) (now deadline : ℤ) : Bool :=
  match s.attempts.find? key with
  | none => false
  | some attempt => transient visual && attempt.count < MAX_ATTEMPTS && now < deadline &&
      s.observedAtMs ≤ now

def ready (key : String) (visual : Option QuietVisual) (now deadline : ℤ) : Bool :=
  s.cooldownUntilMs ≤ now && s.observedAtMs ≤ now && now < deadline &&
  match visual with
  | none => true
  | some visual => s.pending key visual now deadline &&
      (s.attempts.find? key).all fun attempt => attempt.afterMs ≤ now

def delayMs (refusalStreak : ℤ) : ℤ := 30000 * 2 ^ (refusalStreak - 1).toNat

-- The first entries go until no more than `MAX_ENTRIES` are left.
def bounded (attempts : RetryAttempts) : RetryAttempts where
  rows := attempts.rows.drop (attempts.rows.length - MAX_ENTRIES)
  distinct := by
    rw [List.map_drop]
    exact attempts.distinct.sublist (List.drop_sublist _ _)

def record (key : String) (visual : QuietVisual) (now : ℤ) : QuietResourceRetry :=
  let s := (s.advance now).1
  if transient visual then
    let refusalStreak := min (s.refusalStreak + 1) 3
    let delay := delayMs refusalStreak
    let after := min now (LONG_MAX - delay) + delay
    let count := min (((s.attempts.find? key).elim 0 RetryAttempt.count) +
      if started visual then 1 else 0) MAX_ATTEMPTS
    { s with
      attempts := bounded (s.attempts.put ⟨key, count, after⟩)
      cooldownUntilMs := after
      refusalStreak := refusalStreak }
  else
    { s with attempts := s.attempts.erase key, cooldownUntilMs := 0, refusalStreak := 0 }

def json : SavedRetry where
  observedAtMs := s.observedAtMs
  cooldownUntilMs := s.cooldownUntilMs
  refusalStreak := s.refusalStreak
  attempts := s.attempts.rows

-- `[a-f0-9]{64}`
def keyMatches (key : String) : Bool :=
  key.length = 64 && key.toList.all fun c => ('a' ≤ c && c ≤ 'f') || ('0' ≤ c && c ≤ '9')

def loadAttempt (observedAtMs : ℤ) (attempts : RetryAttempts) (row : RetryAttempt) :
    Option RetryAttempts :=
  if keyMatches row.key ∧ (0 ≤ row.count ∧ row.count ≤ MAX_ATTEMPTS) ∧
      0 ≤ row.afterMs ∧ row.afterMs ≤ observedAtMs + 120000 then
    if fresh : ∀ b ∈ attempts.rows, b.key ≠ row.key then some (attempts.insert row fresh) else none
  else none

def load (value : SavedRetry) : Option QuietResourceRetry :=
  if (0 ≤ value.observedAtMs ∧ value.observedAtMs ≤ LONG_MAX - 120000) ∧
      (0 ≤ value.cooldownUntilMs ∧ value.cooldownUntilMs ≤ value.observedAtMs + 120000) ∧
      (0 ≤ value.refusalStreak ∧ value.refusalStreak ≤ 3) ∧
      value.attempts.length ≤ MAX_ENTRIES then
    (value.attempts.foldlM (loadAttempt value.observedAtMs) .empty).map fun attempts =>
      { attempts := attempts
        observedAtMs := value.observedAtMs
        cooldownUntilMs := value.cooldownUntilMs
        refusalStreak := value.refusalStreak }
  else none

def fromJson (value : Option SavedRetry) : QuietResourceRetry := (value.bind load).getD {}

def Restores : Prop := fromJson (some s.json) = s

structure Sound (s : QuietResourceRetry) : Prop where
  observed : 0 ≤ s.observedAtMs
  streak : 0 ≤ s.refusalStreak ∧ s.refusalStreak ≤ 3
  few : s.attempts.rows.length ≤ MAX_ENTRIES
  counts : ∀ a ∈ s.attempts, 0 ≤ a.count ∧ a.count ≤ MAX_ATTEMPTS
  afters : ∀ a ∈ s.attempts, a.afterMs ≤ s.observedAtMs + 120000
  cooling : s.cooldownUntilMs ≤ s.observedAtMs + 120000

structure Loads (s : QuietResourceRetry) : Prop where
  observed : s.observedAtMs ≤ LONG_MAX - 120000
  cooling : 0 ≤ s.cooldownUntilMs
  afters : ∀ a ∈ s.attempts, 0 ≤ a.afterMs
  keys : ∀ a ∈ s.attempts, keyMatches a.key = true

variable {s} {key : String} {visual : QuietVisual} {now : ℤ}

theorem foldlM_loadAttempt {observedAtMs : ℤ} {rows : List RetryAttempt}
    (valid : ∀ a ∈ rows, keyMatches a.key ∧ (0 ≤ a.count ∧ a.count ≤ MAX_ATTEMPTS) ∧
      0 ≤ a.afterMs ∧ a.afterMs ≤ observedAtMs + 120000)
    (attempts : RetryAttempts) (apart : ((attempts.rows ++ rows).map RetryAttempt.key).Nodup) :
    rows.foldlM (loadAttempt observedAtMs) attempts = some ⟨attempts.rows ++ rows, apart⟩ := by
  induction rows generalizing attempts with
  | nil => simp [List.append_nil]
  | cons row rest ih =>
    have fresh : ∀ b ∈ attempts.rows, b.key ≠ row.key := by
      intro b member same
      rw [List.map_append, List.nodup_append] at apart
      exact apart.2.2 b.key (List.mem_map_of_mem member) row.key (by simp) same
    have here : loadAttempt observedAtMs attempts row = some (attempts.insert row fresh) := by
      rw [loadAttempt, if_pos (valid row List.mem_cons_self), dif_pos fresh]
    have later : (((attempts.insert row fresh).rows ++ rest).map RetryAttempt.key).Nodup := by
      simpa [Table.insert] using apart
    have next := ih (fun a member => valid a (List.mem_cons_of_mem _ member)) _ later
    rw [List.foldlM_cons, here]
    simpa [Table.insert] using next

theorem loadAttempt_some {observedAtMs : ℤ} {rows : List RetryAttempt}
    {attempts loaded : RetryAttempts}
    (folded : rows.foldlM (loadAttempt observedAtMs) attempts = some loaded) :
    ∀ a ∈ rows, keyMatches a.key = true ∧ 0 ≤ a.afterMs := by
  induction rows generalizing attempts with
  | nil => simp
  | cons row rest ih =>
    rw [List.foldlM_cons] at folded
    obtain ⟨next, stored, folded⟩ := Option.bind_eq_some_iff.mp folded
    unfold loadAttempt at stored
    split_ifs at stored with valid
    rw [List.forall_mem_cons]
    exact ⟨⟨valid.1, valid.2.2.1⟩, ih folded⟩

theorem Sound.load_json (sound : s.Sound) (loads : s.Loads) : load s.json = some s := by
  have head : (0 ≤ s.observedAtMs ∧ s.observedAtMs ≤ LONG_MAX - 120000) ∧
      (0 ≤ s.cooldownUntilMs ∧ s.cooldownUntilMs ≤ s.observedAtMs + 120000) ∧
      (0 ≤ s.refusalStreak ∧ s.refusalStreak ≤ 3) ∧ s.attempts.rows.length ≤ MAX_ENTRIES :=
    ⟨⟨sound.observed, loads.observed⟩, ⟨loads.cooling, sound.cooling⟩, sound.streak, sound.few⟩
  have valid : ∀ a ∈ s.attempts.rows, keyMatches a.key ∧ (0 ≤ a.count ∧ a.count ≤ MAX_ATTEMPTS) ∧
      0 ≤ a.afterMs ∧ a.afterMs ≤ s.observedAtMs + 120000 := fun a member =>
    ⟨loads.keys a member, sound.counts a member, loads.afters a member, sound.afters a member⟩
  have rows := foldlM_loadAttempt valid .empty (by simpa [Table.empty] using s.attempts.distinct)
  refine (if_pos head).trans ?_
  simp only [json, rows, Option.map_some]
  simp only [Table.empty, List.nil_append]

theorem Loads.of_load {t : QuietResourceRetry} (loaded : load s.json = some t) : s.Loads := by
  unfold load at loaded
  split_ifs at loaded with head
  obtain ⟨attempts, rows, -⟩ := Option.map_eq_some_iff.mp loaded
  have valid := loadAttempt_some rows
  exact ⟨head.1.2, head.2.1.1, fun a member => (valid a member).2,
    fun a member => (valid a member).1⟩

theorem Loads.fresh : Loads {} := by
  refine ⟨by decide, le_rfl, ?_, ?_⟩ <;> exact fun a member => absurd member (Table.not_mem_empty a)

theorem Sound.fresh : Sound {} := by
  refine ⟨le_rfl, by decide, by decide, ?_, ?_, by decide⟩ <;>
    exact fun a member => absurd member (Table.not_mem_empty a)

theorem Sound.restores_iff (sound : s.Sound) : s.Restores ↔ s.Loads := by
  constructor
  · intro restores
    unfold Restores fromJson at restores
    rw [Option.bind_some] at restores
    cases loaded : load s.json with
    | none =>
      rw [loaded, Option.getD_none] at restores
      rw [← restores]
      exact .fresh
    | some t =>
      exact .of_load loaded
  · intro loads
    unfold Restores fromJson
    rw [Option.bind_some, sound.load_json loads, Option.getD_some]

theorem Sound.fromJson (sound : s.Sound) :
    fromJson (some s.json) = s ∨ QuietResourceRetry.fromJson (some s.json) = {} := by
  by_cases loads : s.Loads
  · exact .inl (sound.restores_iff.mpr loads)
  · refine .inr ?_
    unfold QuietResourceRetry.fromJson
    cases loaded : load s.json with
    | none => rw [Option.bind_some, loaded, Option.getD_none]
    | some t => exact absurd (.of_load loaded) loads

theorem delayMs_spec {streak : ℤ} (range : 1 ≤ streak ∧ streak ≤ 3) :
    30000 ≤ delayMs streak ∧ delayMs streak ≤ 120000 := by
  obtain ⟨low, high⟩ := range
  interval_cases streak <;> decide

theorem mem_bounded {attempts : RetryAttempts} {a : RetryAttempt} (member : a ∈ bounded attempts) :
    a ∈ attempts := by
  simp only [Table.mem_rows, bounded] at member
  exact List.mem_of_mem_drop member

theorem mem_advance {a : RetryAttempt} (member : a ∈ (s.advance now).1.attempts) :
    ∃ b ∈ s.attempts, a = if now < s.observedAtMs then exhaust b else b := by
  unfold advance at member
  by_cases rollback : now < s.observedAtMs
  · simp only [rollback, ↓reduceIte] at member ⊢
    obtain ⟨b, found, rfl⟩ := Table.mem_update.mp member
    exact ⟨b, found, by simp⟩
  · simp only [rollback, ↓reduceIte] at member ⊢
    exact ⟨a, member, rfl⟩

theorem find?_advance : (s.advance now).1.attempts.find? key =
    (s.attempts.find? key).map fun b => if now < s.observedAtMs then exhaust b else b := by
  unfold advance
  by_cases rollback : now < s.observedAtMs
  · simp only [rollback, ↓reduceIte]
    exact Table.find?_update s.attempts (fun _ => true) exhaust (fun _ => rfl) key
  · simp [rollback]

@[simp]
theorem advance_observedAtMs : (s.advance now).1.observedAtMs = max s.observedAtMs now := by
  unfold advance
  by_cases rollback : now < s.observedAtMs <;> simp [rollback]

@[simp]
theorem advance_refusalStreak : (s.advance now).1.refusalStreak = s.refusalStreak := by
  unfold advance
  by_cases rollback : now < s.observedAtMs <;> simp [rollback]

theorem advance_cooldownUntilMs :
    (s.advance now).1.cooldownUntilMs = if now < s.observedAtMs then 0 else s.cooldownUntilMs := by
  unfold advance
  by_cases rollback : now < s.observedAtMs <;> simp [rollback]

theorem advance_length : (s.advance now).1.attempts.rows.length = s.attempts.rows.length := by
  unfold advance
  by_cases rollback : now < s.observedAtMs <;> simp [rollback, Table.update]

theorem Sound.advance (sound : s.Sound) (now : ℤ) : (s.advance now).1.Sound := by
  have observed := sound.observed
  have cooling := sound.cooling
  constructor
  · rw [advance_observedAtMs]
    omega
  · rw [advance_refusalStreak]
    exact sound.streak
  · rw [advance_length]
    exact sound.few
  · intro a member
    obtain ⟨b, found, rfl⟩ := mem_advance member
    have counts := sound.counts b found
    split_ifs
    · simp [exhaust, MAX_ATTEMPTS]
    · exact counts
  · intro a member
    obtain ⟨b, found, rfl⟩ := mem_advance member
    have afters := sound.afters b found
    rw [advance_observedAtMs]
    split_ifs
    · simp only [exhaust]
      omega
    · omega
  · rw [advance_observedAtMs, advance_cooldownUntilMs]
    split_ifs <;> omega

theorem Sound.retain (sound : s.Sound) (keys : List String) : (s.retain keys).Sound where
  observed := sound.observed
  streak := sound.streak
  few := (List.length_filter_le _ _).trans sound.few
  counts a member := sound.counts a (Table.mem_filter.mp member).1
  afters a member := sound.afters a (Table.mem_filter.mp member).1
  cooling := sound.cooling

theorem mem_record {a : RetryAttempt} (member : a ∈ (s.record key visual now).attempts) :
    (a ∈ (s.advance now).1.attempts ∧ a.key ≠ key) ∨
    (transient visual = true ∧ a.key = key ∧
      a.count = min (((s.advance now).1.attempts.find? key).elim 0 RetryAttempt.count +
        if started visual then 1 else 0) MAX_ATTEMPTS ∧
      a.afterMs = (s.record key visual now).cooldownUntilMs) := by
  unfold record at member ⊢
  by_cases again : transient visual = true
  · simp only [again, ↓reduceIte] at member ⊢
    obtain ⟨kept, other⟩ | rfl := Table.mem_put.mp (mem_bounded member)
    · exact .inl ⟨kept, other⟩
    · exact .inr ⟨trivial, rfl, rfl, rfl⟩
  · simp only [again, Bool.false_eq_true, ↓reduceIte] at member ⊢
    exact .inl (Table.mem_erase.mp member)

theorem record_observedAtMs : (s.record key visual now).observedAtMs = max s.observedAtMs now := by
  unfold record
  split_ifs <;> simp

theorem record_refusalStreak : (s.record key visual now).refusalStreak =
    if transient visual then min (s.refusalStreak + 1) 3 else 0 := by
  unfold record
  split_ifs <;> simp

theorem record_cooldownUntilMs : (s.record key visual now).cooldownUntilMs =
    if transient visual then
      min now (LONG_MAX - delayMs (min (s.refusalStreak + 1) 3)) +
        delayMs (min (s.refusalStreak + 1) 3)
    else 0 := by
  unfold record
  split_ifs <;> simp

theorem length_bounded (attempts : RetryAttempts) :
    (bounded attempts).rows.length ≤ MAX_ENTRIES := by
  simp only [bounded, List.length_drop]
  omega

theorem record_few (few : (s.advance now).1.attempts.rows.length ≤ MAX_ENTRIES) :
    (s.record key visual now).attempts.rows.length ≤ MAX_ENTRIES := by
  unfold record
  by_cases again : transient visual = true
  · simp only [again, ↓reduceIte]
    exact length_bounded _
  · simp only [again, Bool.false_eq_true, ↓reduceIte]
    exact (List.length_filter_le _ _).trans few

theorem Sound.delay (sound : s.Sound) : 30000 ≤ delayMs (min (s.refusalStreak + 1) 3) ∧
    delayMs (min (s.refusalStreak + 1) 3) ≤ 120000 :=
  delayMs_spec ⟨by have := sound.streak.1; omega, by omega⟩

theorem Sound.record_cooling (sound : s.Sound) (key : String) (visual : QuietVisual) (now : ℤ) :
    (s.record key visual now).cooldownUntilMs ≤ max 0 now + 120000 := by
  have delay := sound.delay
  rw [record_cooldownUntilMs]
  split_ifs <;> omega

theorem Sound.record (sound : s.Sound) (key : String) (visual : QuietVisual) (now : ℤ) :
    (s.record key visual now).Sound := by
  have advanced := sound.advance now
  have cooling : (s.record key visual now).cooldownUntilMs ≤
      (s.record key visual now).observedAtMs + 120000 := by
    have bound := sound.record_cooling key visual now
    have observed := sound.observed
    rw [record_observedAtMs]
    omega
  constructor
  · rw [record_observedAtMs]
    have observed := sound.observed
    omega
  · have streak := sound.streak
    rw [record_refusalStreak]
    split_ifs <;> omega
  · exact record_few advanced.few
  · intro a member
    obtain ⟨kept, -⟩ | ⟨-, -, count, -⟩ := mem_record member
    · exact advanced.counts a kept
    · rw [count]
      have before : 0 ≤ ((s.advance now).1.attempts.find? key).elim 0 RetryAttempt.count := by
        cases found : (s.advance now).1.attempts.find? key with
        | none => exact le_rfl
        | some b => exact (advanced.counts b (Table.find?_mem found).1).1
      have most : MAX_ATTEMPTS = 4 := rfl
      split_ifs <;> omega
  · intro a member
    obtain ⟨kept, -⟩ | ⟨-, -, -, after⟩ := mem_record member
    · have afters := advanced.afters a kept
      rwa [record_observedAtMs, ← advance_observedAtMs]
    · exact after ▸ cooling
  · exact cooling

-- What a call of `advance` or `record` must be called with for a restart to change nothing.
def RecordLasts (s : QuietResourceRetry) (key : String) (visual : QuietVisual) (now : ℤ) : Prop :=
  now ≤ LONG_MAX - 120000 ∧ (transient visual = true →
    keyMatches key = true ∧ 0 ≤ now + delayMs (min (s.refusalStreak + 1) 3))

theorem Loads.advance (loads : s.Loads) :
    (s.advance now).1.Loads ↔ now ≤ LONG_MAX - 120000 := by
  have observed := loads.observed
  constructor
  · intro next
    have reached := next.observed
    rw [advance_observedAtMs] at reached
    omega
  · intro bound
    constructor
    · rw [advance_observedAtMs]
      omega
    · rw [advance_cooldownUntilMs]
      split_ifs
      · exact le_rfl
      · exact loads.cooling
    · intro a member
      obtain ⟨b, found, rfl⟩ := mem_advance member
      split_ifs
      · exact le_rfl
      · exact loads.afters b found
    · intro a member
      obtain ⟨b, found, rfl⟩ := mem_advance member
      split_ifs
      · exact loads.keys b found
      · exact loads.keys b found

theorem Loads.retain (loads : s.Loads) (keys : List String) : (s.retain keys).Loads where
  observed := loads.observed
  cooling := loads.cooling
  afters a member := loads.afters a (Table.mem_filter.mp member).1
  keys a member := loads.keys a (Table.mem_filter.mp member).1

theorem mem_bounded_put (attempts : RetryAttempts) (a : RetryAttempt) :
    a ∈ bounded (attempts.put a) := by
  have few : (attempts.erase a.key).rows.length + 1 - MAX_ENTRIES ≤
      (attempts.erase a.key).rows.length := by
    simp only [MAX_ENTRIES]
    omega
  simp only [Table.mem_rows, bounded, Table.put, Table.insert, List.length_append,
    List.length_singleton, List.drop_append_of_le_length few]
  exact List.mem_append_right _ (List.mem_singleton_self a)

theorem record_mem (s : QuietResourceRetry) (key : String) (now : ℤ)
    (again : transient visual = true) : ∃ a ∈ (s.record key visual now).attempts, a.key = key := by
  unfold record
  simp only [again, ↓reduceIte]
  exact ⟨_, mem_bounded_put _ _, rfl⟩

theorem Loads.record (sound : s.Sound) (loads : s.Loads) :
    (s.record key visual now).Loads ↔ RecordLasts s key visual now := by
  have delay := sound.delay
  constructor
  · intro next
    have observed := next.observed
    rw [record_observedAtMs] at observed
    refine ⟨by omega, fun again => ?_⟩
    obtain ⟨a, member, rfl⟩ := record_mem s key now again
    refine ⟨next.keys a member, ?_⟩
    have cooling := next.cooling
    rw [record_cooldownUntilMs, if_pos again] at cooling
    omega
  · rintro ⟨bound, lasts⟩
    have advanced := loads.advance.mpr bound
    have cooling : 0 ≤ (s.record key visual now).cooldownUntilMs := by
      rw [record_cooldownUntilMs]
      split_ifs with again
      · have lasts := (lasts again).2
        omega
      · exact le_rfl
    refine ⟨?_, cooling, fun a member => ?_, fun a member => ?_⟩
    · rw [record_observedAtMs, ← advance_observedAtMs]
      exact advanced.observed
    · obtain ⟨kept, -⟩ | ⟨-, -, -, after⟩ := mem_record member
      · exact advanced.afters a kept
      · exact after ▸ cooling
    · obtain ⟨kept, -⟩ | ⟨again, rfl, -⟩ := mem_record member
      · exact advanced.keys a kept
      · exact (lasts again).1

end QuietResourceRetry

open QuietResourceRetry

/-- A process and those before it: the readings they took, the decode that was admitted and has not
been recorded, and how many admitted decodes of a key have consumed input while it was in the
table. -/
structure RetryCourse where
  retry : QuietResourceRetry := {}
  readings : List ℤ := []
  inFlight : Option String := none
  spent : String → ℤ := fun _ => 0

inductive RetryCall where
  | advance (now : ℤ)
  | retain (keys : List String)
  -- `ready` admits a decode of a key that has a result.
  | ready (key : String) (visual : QuietVisual) (now deadline : ℤ)
  | record (key : String) (visual : QuietVisual) (now : ℤ)
  | restart

namespace RetryCourse

def settled (retry : QuietResourceRetry) (spent : String → ℤ) (key : String) : ℤ :=
  if (retry.attempts.find? key).isSome then spent key else 0

def after (c : RetryCourse) : RetryCall → Option RetryCourse
  | .advance now => some { c with
      retry := (c.retry.advance now).1
      readings := now :: c.readings }
  | .retain keys => some { c with
      retry := c.retry.retain keys
      spent := settled (c.retry.retain keys) c.spent }
  | .ready key visual now deadline =>
    if c.inFlight = none ∧ c.retry.ready key (some visual) now deadline then
      some { c with inFlight := some key }
    else none
  | .record key visual now =>
    let retry := c.retry.record key visual now
    let spends := c.inFlight = some key ∧ started visual = true
    some
      { retry := retry
        readings := now :: c.readings
        inFlight := if c.inFlight = some key then none else c.inFlight
        spent := settled retry (Function.update c.spent key
          (c.spent key + if spends then 1 else 0)) }
  | .restart =>
    let retry := fromJson (some c.retry.json)
    some { c with retry := retry, inFlight := none, spent := settled retry c.spent }

def Steps (c : RetryCourse) (e : RetryCall) (d : RetryCourse) : Prop := c.after e = some d

theorem Steps.ready {c d : RetryCourse} {key : String} {visual : QuietVisual} {now deadline : ℤ}
    (stepped : Steps c (.ready key visual now deadline) d) :
    c.retry.ready key (some visual) now deadline = true ∧ d = { c with inFlight := some key } := by
  by_cases admitted : c.inFlight = none ∧ c.retry.ready key (some visual) now deadline = true
  · exact ⟨admitted.2, (Option.some.inj ((if_pos admitted).symm.trans stepped)).symm⟩
  · exact nomatch (if_neg admitted).symm.trans stepped

variable {c d : RetryCourse} {e : RetryCall}

def Near (readings : List ℤ) (time : ℤ) : Prop :=
  time = 0 ∨ ∃ reading ∈ readings, time ≤ reading + 120000

theorem Near.cons {readings : List ℤ} {time : ℤ} (near : Near readings time) (now : ℤ) :
    Near (now :: readings) time :=
  near.imp_right fun ⟨reading, member, bound⟩ => ⟨reading, List.mem_cons_of_mem _ member, bound⟩

structure Kept (c : RetryCourse) : Prop where
  sound : c.retry.Sound
  spent : ∀ a ∈ c.retry.attempts, c.spent a.key ≤ a.count
  gone : ∀ key, c.retry.attempts.find? key = none → c.spent key = 0
  flying : ∀ key, c.inFlight = some key → c.spent key < MAX_ATTEMPTS
  cooling : Near c.readings c.retry.cooldownUntilMs
  afters : ∀ a ∈ c.retry.attempts, Near c.readings a.afterMs

theorem Kept.spent_le (kept : c.Kept) (key : String) : c.spent key ≤ MAX_ATTEMPTS := by
  cases found : c.retry.attempts.find? key with
  | none =>
    rw [kept.gone key found]
    decide
  | some a =>
    obtain ⟨member, rfl⟩ := Table.find?_mem found
    exact (kept.spent a member).trans (kept.sound.counts a member).2

theorem settled_le {retry : QuietResourceRetry} {spent : String → ℤ} {bound : ℤ} {key : String}
    (low : 0 ≤ bound) (high : spent key ≤ bound) : settled retry spent key ≤ bound := by
  unfold settled
  split_ifs <;> assumption

theorem settled_lt {retry : QuietResourceRetry} {spent : String → ℤ} {key : String}
    (high : spent key < MAX_ATTEMPTS) : settled retry spent key < MAX_ATTEMPTS := by
  unfold settled
  split_ifs
  · exact high
  · decide

theorem settled_gone {retry : QuietResourceRetry} {spent : String → ℤ} (key : String)
    (gone : retry.attempts.find? key = none) : settled retry spent key = 0 := by
  simp [settled, gone]

theorem Kept.advance (kept : c.Kept) (now : ℤ) : Kept { c with
    retry := (c.retry.advance now).1
    readings := now :: c.readings } where
  sound := kept.sound.advance now
  spent a member := by
    obtain ⟨b, found, rfl⟩ := mem_advance member
    have spent := kept.spent b found
    split_ifs
    · exact spent.trans (kept.sound.counts b found).2
    · exact spent
  gone key absent := by
    rw [find?_advance, Option.map_eq_none_iff] at absent
    exact kept.gone key absent
  flying := kept.flying
  cooling := by
    rw [advance_cooldownUntilMs]
    split_ifs
    · exact .inl rfl
    · exact kept.cooling.cons now
  afters a member := by
    obtain ⟨b, found, rfl⟩ := mem_advance member
    split_ifs
    · exact .inl rfl
    · exact (kept.afters b found).cons now

theorem Kept.retain (kept : c.Kept) (keys : List String) : Kept { c with
    retry := c.retry.retain keys
    spent := settled (c.retry.retain keys) c.spent } where
  sound := kept.sound.retain keys
  spent a member := settled_le ((kept.sound.retain keys).counts a member).1
    (kept.spent a (Table.mem_filter.mp member).1)
  gone := settled_gone
  flying key flies := settled_lt (kept.flying key flies)
  cooling := kept.cooling
  afters a member := kept.afters a (Table.mem_filter.mp member).1

theorem Kept.ready {key : String} {visual : QuietVisual} {now deadline : ℤ} (kept : c.Kept)
    (ready : c.retry.ready key (some visual) now deadline = true) :
    Kept { c with inFlight := some key } where
  sound := kept.sound
  spent := kept.spent
  gone := kept.gone
  flying other flies := by
    obtain rfl : key = other := Option.some.inj flies
    have pending : c.retry.pending key visual now deadline = true := by
      simp only [QuietResourceRetry.ready, Bool.and_eq_true] at ready
      exact ready.2.1
    unfold QuietResourceRetry.pending at pending
    cases found : c.retry.attempts.find? key with
    | none => simp [found] at pending
    | some a =>
      obtain ⟨member, rfl⟩ := Table.find?_mem found
      have fewer : a.count < MAX_ATTEMPTS := by
        simp only [found, Bool.and_eq_true, decide_eq_true_eq] at pending
        exact pending.1.1.2
      exact (kept.spent a member).trans_lt fewer
  cooling := kept.cooling
  afters := kept.afters

theorem Kept.record {key : String} {visual : QuietVisual} (kept : c.Kept) {now : ℤ}
    (stepped : Steps c (.record key visual now) d) : d.Kept := by
  cases stepped
  have sound := kept.sound.record key visual now
  have cooling : Near (now :: c.readings) (c.retry.record key visual now).cooldownUntilMs := by
    have delay := kept.sound.delay
    rw [record_cooldownUntilMs]
    split_ifs
    · refine .inr ⟨now, List.mem_cons_self, ?_⟩
      omega
    · exact .inl rfl
  have advanced := kept.advance now
  have most : MAX_ATTEMPTS = 4 := rfl
  refine ⟨sound, fun a member => ?_, settled_gone, fun other flies => ?_, cooling,
    fun a member => ?_⟩
  · refine settled_le (sound.counts a member).1 ?_
    obtain ⟨old, other⟩ | ⟨again, rfl, count, -⟩ := mem_record member
    · rw [Function.update_of_ne other]
      exact advanced.spent a old
    · have high := kept.spent_le a.key
      rw [Function.update_self, count]
      cases found : (c.retry.advance now).1.attempts.find? a.key with
      | none =>
        have none := advanced.gone a.key found
        simp only at none
        rw [none]
        simp only [Option.elim_none]
        split_ifs <;> simp_all
      | some b =>
        obtain ⟨old, same⟩ := Table.find?_mem found
        have spent := advanced.spent b old
        simp only [same] at spent
        simp only [Option.elim_some]
        by_cases spends : c.inFlight = some a.key ∧ started visual = true
        · have room := kept.flying a.key spends.1
          simp only [spends.2, spends.1, and_self, ↓reduceIte]
          omega
        · rw [if_neg spends]
          split_ifs <;> omega
  · refine settled_lt ?_
    dsimp only at flies
    split_ifs at flies with mine
    have ne : other ≠ key := by
      rintro rfl
      exact mine flies
    rw [Function.update_of_ne ne]
    exact kept.flying other flies
  · obtain ⟨old, -⟩ | ⟨-, -, -, after⟩ := mem_record member
    · exact advanced.afters a old
    · exact after ▸ cooling

theorem Kept.initial : Kept {} where
  sound := .fresh
  spent a member := absurd member (Table.not_mem_empty a)
  gone _ _ := rfl
  flying _ flies := nomatch flies
  cooling := .inl rfl
  afters a member := absurd member (Table.not_mem_empty a)

theorem Kept.restart (kept : c.Kept) (stepped : Steps c .restart d) : d.Kept := by
  cases stepped
  obtain same | lost := kept.sound.fromJson
  · rw [same]
    have spent (a : RetryAttempt) (member : a ∈ c.retry.attempts) :
        settled c.retry c.spent a.key ≤ a.count :=
      settled_le (kept.sound.counts a member).1 (kept.spent a member)
    exact ⟨kept.sound, spent, settled_gone, fun _ flies => (nomatch flies), kept.cooling,
      kept.afters⟩
  · rw [lost]
    exact ⟨.fresh, fun a member => absurd member (Table.not_mem_empty a), fun _ _ => rfl,
      fun _ flies => (nomatch flies), .inl rfl,
      fun a member => absurd member (Table.not_mem_empty a)⟩

theorem Kept.step (kept : c.Kept) (stepped : Steps c e d) : d.Kept := by
  cases e with
  | advance now => cases stepped; exact kept.advance now
  | retain keys => cases stepped; exact kept.retain keys
  | ready key visual now deadline =>
    obtain ⟨admitted, rfl⟩ := stepped.ready
    exact kept.ready admitted
  | record key visual now => exact kept.record stepped
  | restart => exact kept.restart stepped

/-- What a call must be made with for its state to survive a restart: a reading that leaves room
for 120 s, and for the record of a transient result a digest as the key and a reading that is not
further before the epoch than the window to come. -/
def Lasts (c : RetryCourse) : RetryCall → Prop
  | .advance now => now ≤ LONG_MAX - 120000
  | .record key visual now => RecordLasts c.retry key visual now
  | _ => True

theorem lasts_iff (kept : c.Kept) (restores : c.retry.Restores) (stepped : Steps c e d) :
    Lasts c e ↔ d.retry.Restores := by
  have reached := kept.step stepped
  have loads := kept.sound.restores_iff.mp restores
  rw [reached.sound.restores_iff]
  cases e with
  | advance now => cases stepped; exact loads.advance.symm
  | retain keys => cases stepped; exact iff_of_true trivial (loads.retain keys)
  | ready key visual now deadline =>
    obtain ⟨-, rfl⟩ := stepped.ready
    exact iff_of_true trivial loads
  | record key visual now => cases stepped; exact (loads.record kept.sound).symm
  | restart =>
    cases stepped
    refine iff_of_true trivial ?_
    unfold Restores at restores
    simpa only [restores] using loads

theorem Kept.count_le (kept : c.Kept) (stepped : Steps c e d) {a b : RetryAttempt}
    (before : a ∈ c.retry.attempts) (since : b ∈ d.retry.attempts) (same : b.key = a.key) :
    a.count ≤ b.count := by
  have most := kept.sound.counts a before
  have advanced (now : ℤ) (member : b ∈ (c.retry.advance now).1.attempts) : a.count ≤ b.count := by
    obtain ⟨old, found, rfl⟩ := mem_advance member
    split_ifs at same ⊢
    · exact most.2
    · rw [Table.eq_of_key found before same]
  cases e with
  | advance now => cases stepped; exact advanced now since
  | retain keys =>
    cases stepped
    rw [Table.eq_of_key (Table.mem_filter.mp since).1 before same]
  | ready key visual now deadline =>
    obtain ⟨-, rfl⟩ := stepped.ready
    rw [Table.eq_of_key since before same]
  | record key visual now =>
    cases stepped
    obtain ⟨old, -⟩ | ⟨-, named, count, -⟩ := mem_record since
    · exact advanced now old
    · have found : c.retry.attempts.find? key = some a := by
        rw [← named, same]
        exact Table.find?_self before
      rw [count, find?_advance, found, Option.map_some, Option.elim_some]
      have limit : MAX_ATTEMPTS = 4 := rfl
      have spent : (exhaust a).count = MAX_ATTEMPTS := rfl
      split_ifs <;> omega
  | restart =>
    cases stepped
    obtain restored | lost := kept.sound.fromJson
    · simp only [restored] at since
      rw [Table.eq_of_key since before same]
    · simp only [lost] at since
      exact absurd since (Table.not_mem_empty b)

structure Budgeted (c : RetryCourse) : Prop where
  counted : ∀ e d, Steps c e d → ∀ a ∈ c.retry.attempts, ∀ b ∈ d.retry.attempts,
    b.key = a.key → a.count ≤ b.count
  -- Decodes that consumed input: those recorded, and the one under way
  spent : ∀ key, c.spent key ≤ MAX_ATTEMPTS ∧
    (c.inFlight = some key → c.spent key + 1 ≤ MAX_ATTEMPTS)
  cooling : Near c.readings c.retry.cooldownUntilMs
  afters : ∀ a ∈ c.retry.attempts, Near c.readings a.afterMs
  -- The clock is set back.
  exhausted : ∀ now < c.retry.observedAtMs, ∀ key visual later deadline,
    (c.retry.advance now).1.pending key visual later deadline = false
  released : ∀ now < c.retry.observedAtMs,
    (c.retry.advance now).1.cooldownUntilMs ≤ max 0 c.retry.cooldownUntilMs
  unprolonged : ∀ now < c.retry.observedAtMs, ∀ key visual,
    (c.retry.record key visual now).cooldownUntilMs ≤
      (c.retry.record key visual c.retry.observedAtMs).cooldownUntilMs
  bounded : ∀ key visual now deadline, c.retry.ready key visual now deadline = true →
    now < deadline

theorem Kept.budgeted (kept : c.Kept) : c.Budgeted where
  counted _ _ stepped _ before _ since same := kept.count_le stepped before since same
  spent key := ⟨kept.spent_le key, fun flies => by have := kept.flying key flies; omega⟩
  cooling := kept.cooling
  afters := kept.afters
  exhausted now rollback key visual later deadline := by
    unfold QuietResourceRetry.pending
    rw [find?_advance]
    cases found : c.retry.attempts.find? key with
    | none => rfl
    | some a => simp [rollback, exhaust]
  released now rollback := by
    rw [advance_cooldownUntilMs, if_pos rollback]
    exact le_max_left _ _
  unprolonged now rollback key visual := by
    rw [record_cooldownUntilMs, record_cooldownUntilMs]
    split_ifs <;> omega
  bounded key visual now deadline ready := by
    simp only [QuietResourceRetry.ready, Bool.and_eq_true, decide_eq_true_eq] at ready
    exact ready.1.2

def digest : String := String.ofList (List.replicate 64 'a')

def hot : QuietVisual where
  status := some "unavailable"
  reason := some "system_thermal_guard"
  motionFrames := some 0
  maxCoherentPixels := some 0
  maxRollingCoherentPixels := some 0
  maxConsecutiveCoherentFrames := some 0
  inputFrames := some 2
  decodedFrames := some 1

def forgotten : QuietResourceRetry := QuietResourceRetry.record {} digest hot (-40000)

end RetryCourse

end DashcamStats.Clips
