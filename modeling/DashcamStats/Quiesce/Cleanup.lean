import DashcamStats.Library.Run
import DashcamStats.Quiesce.Files

namespace DashcamStats.Quiesce

universe u

variable {Bytes : Type u}

structure World (Bytes : Type u) where
  disk : Disk Bytes
  reader : Phase Bytes
  clock : ℤ
  /-- The generation that was valid and unexpired when the server installed it, until the server
  replaces or removes it or it expires. -/
  promised : Option (Node Bytes)
deriving DecidableEq

inductive Event (Bytes : Type u) where
  -- The server renames a file over the request path.
  | publish (node : Node Bytes)
  -- The server removes the control files.
  | withdraw
  | acknowledge (ack : Option (Node Bytes))
  | tick (clock : ℤ)
  | call (cleanupAbsentMarkers : Bool)
  | operate
  | die
deriving DecidableEq

-- A call of `readRequest` at this instant would find the request valid.
def readable (codec : Codec Bytes) (clock : ℤ) (node : Node Bytes) : Bool :=
  match parsed codec node with
  | some request => (ingestionLeaseExpiryReason request clock).isNone
  | none => false

namespace World

variable (codec : Codec Bytes)

def start (disk : Disk Bytes) (clock : ℤ) : World Bytes where
  disk := disk
  reader := .dead
  clock := clock
  promised := none

def Displaced (s : World Bytes) : Prop := ∃ node, s.promised = some node ∧ s.disk.request ≠ some node

/-- The promised generation is readable, or a cleanup that goes on has it aside and will put it
back. -/
def Kept (s : World Bytes) : Prop :=
  ∀ node, s.promised = some node →
    s.disk.request = some node ∨
      (s.reader.aside = true ∧ s.disk.request = none ∧ s.disk.marker = some node)

def Confirms (s : World Bytes) : Prop :=
  match s.reader with
  | .comparingLease expected reading => reading.next codec s.disk.marker = .inr (some expected)
  | .comparingStale expected => s.disk.marker.map Node.bytes = some expected
  | _ => False

def Overwrites (s : World Bytes) : Prop :=
  s.reader = .restoring ∧ s.promised ≠ none ∧ s.disk.request = s.promised ∧
    s.disk.marker ≠ s.promised

/-- The steps that lose nothing: the process does not die and the comparison does not confirm
while the promised generation is hidden, and no promised generation was installed between the
last look at the request path and the rename back. -/
def Careful (s : World Bytes) : Event Bytes → Prop
  | .die => ¬s.Displaced
  | .operate => ¬(s.Confirms codec ∧ s.Displaced) ∧ ¬s.Overwrites
  | _ => True

structure Tidy (disk : Disk Bytes) (reader : Phase Bytes) : Prop where
  hidden : reader.aside = true → disk.marker.isSome = true
  sized : ∀ expected size node, reader = .comparingLease expected (.loading size) →
    disk.marker = some node → codec.size node.bytes = size

structure Inv (s : World Bytes) : Prop where
  readable : ∀ node, s.promised = some node → readable codec s.clock node = true
  tidy : Tidy codec s.disk s.reader

theorem inv_start (disk : Disk Bytes) (clock : ℤ) : (start disk clock).Inv codec where
  readable := by simp [start]
  tidy := ⟨by simp [start, Phase.aside], by simp [start]⟩

theorem kept_start (disk : Disk Bytes) (clock : ℤ) : (start disk clock).Kept := by
  simp [Kept, start]

variable {codec}

theorem Kept.not_displaced {s : World Bytes} (kept : s.Kept) (idle : s.reader.aside = false) :
    ¬s.Displaced := by
  rintro ⟨node, promised, elsewhere⟩
  rcases kept node promised with there | ⟨aside, _⟩
  · exact elsewhere there
  · rw [idle] at aside
    cases aside

theorem kept_of_not_displaced {s : World Bytes} (there : ¬s.Displaced) : s.Kept := by
  intro node promised
  by_contra neither
  exact there ⟨node, promised, fun at_path => neither (.inl at_path)⟩

theorem kept_iff_of_idle {s : World Bytes} (idle : s.reader.aside = false) :
    s.Kept ↔ ¬s.Displaced :=
  ⟨fun kept => kept.not_displaced idle, kept_of_not_displaced⟩

-- A readable file passes every test of `parseRequestFile`.
theorem next_of_readable {clock : ℤ} {node : Node Bytes} {reading : Reading}
    (good : readable codec clock node = true)
    (sized : ∀ size, reading = .loading size → codec.size node.bytes = size) :
    reading.next codec (some node) ≠ .inr none := by
  simp only [readable, parsed] at good
  split at good
  next request accepted =>
    split at accepted
    next facts =>
      cases reading with
      | checking check => cases check <;> simp [Reading.next, Check.passes, facts]
      | sizing => simp [Reading.next, facts]
      | loading size => simp [Reading.next, sized size rfl, accepted]
    · cases accepted
  · cases good

theorem tidy_of_idle {disk : Disk Bytes} {reader : Phase Bytes} (idle : reader.aside = false) :
    Tidy codec disk reader where
  hidden aside := absurd aside (by simp [idle])
  sized expected size node phase _ := by
    subst phase
    cases idle

section Steps

variable [DecidableEq Bytes]

variable (codec) in
def next (s : World Bytes) : Event Bytes → Option (World Bytes)
  | .publish node =>
    some { s with
      disk := { s.disk with request := some node }
      promised := if readable codec s.clock node then some node else none }
  | .withdraw =>
    some { s with disk := { s.disk with request := none, ack := none }, promised := none }
  | .acknowledge ack => some { s with disk := { s.disk with ack := ack } }
  | .tick clock =>
    some { s with clock := clock, promised := s.promised.filter (readable codec clock) }
  | .call cleanup =>
    if s.reader.resting then some { s with reader := .looking s.clock cleanup } else none
  | .operate =>
    if s.reader.resting then none
    else
      some { s with
        disk := (advance codec s.disk s.reader).1
        reader := (advance codec s.disk s.reader).2 }
  | .die => some { s with reader := .dead }

variable (codec) in
def step (s : World Bytes) (e : Event Bytes) (t : World Bytes) : Prop := s.next codec e = some t

theorem advance_quiet {disk : Disk Bytes} {reader : Phase Bytes} (idle : reader.aside = false)
    (other : ∀ judged, reader ≠ .isolating judged) :
    (advance codec disk reader).2.aside = false ∧
      (advance codec disk reader).1.request = disk.request := by
  cases reader with
  | isolating judged => exact absurd rfl (other judged)
  | comparingLease expected reading => cases idle
  | comparingStale expected => cases idle
  | rechecking => cases idle
  | restoring => cases idle
  | parsing now reading =>
    simp only [advance, and_true]
    split
    · rfl
    · rfl
    · split <;> rfl
  | requiring now check =>
    simp only [advance, and_true]
    split
    · split <;> rfl
    · rfl
  | looking now cleanup =>
    simp only [advance, and_true]
    split
    · rfl
    · split <;> rfl
  | ageing now =>
    simp only [advance, and_true]
    split
    · split <;> rfl
    · rfl
  | expecting =>
    simp only [advance, and_true]
    split <;> rfl
  | acknowledging judged =>
    cases judged with
    | stale expected => exact ⟨rfl, rfl⟩
    | lease expected =>
      simp only [advance, and_true]
      split
      · split <;> rfl
      · rfl
  | _ => exact ⟨rfl, rfl⟩

theorem tidy_advance {disk : Disk Bytes} {reader : Phase Bytes} (tidy : Tidy codec disk reader) :
    Tidy codec (advance codec disk reader).1 (advance codec disk reader).2 := by
  cases reader with
  | isolating judged =>
    cases there : disk.request with
    | none => exact tidy_of_idle (by simp [advance, there, Phase.aside])
    | some node =>
      cases judged <;> constructor <;> simp [advance, there, startComparing]
  | comparingLease expected reading =>
    have hidden := tidy.hidden rfl
    refine ⟨fun _ => hidden, fun other size node phase there => ?_⟩
    -- only the test of the size leads to the loading
    simp only [advance] at phase there
    rw [there] at phase
    cases reading with
    | checking check =>
      simp only [Reading.next] at phase
      split at phase
      next following more =>
        split at more
        · cases more
          cases check <;> cases phase
        · cases more
      · cases phase
      · simp only [settle] at phase
        split at phase <;> cases phase
    | sizing =>
      simp only [Reading.next] at phase
      split at phase
      next following more =>
        split at more
        · cases more
          cases phase
          rfl
        · cases more
      · cases phase
      · simp only [settle] at phase
        split at phase <;> cases phase
    | loading size =>
      simp only [Reading.next] at phase
      split at phase
      next following more => cases more
      · cases phase
      · simp only [settle] at phase
        split at phase <;> cases phase
  | comparingStale expected =>
    have hidden := tidy.hidden rfl
    refine ⟨fun _ => hidden, fun other size node phase there => ?_⟩
    simp only [advance, settle] at phase
    split at phase
    · split at phase <;> cases phase
    · cases phase
  | rechecking =>
    have hidden := tidy.hidden rfl
    refine ⟨fun _ => hidden, fun other size node phase there => ?_⟩
    simp only [advance] at phase
    split at phase <;> cases phase
  | restoring =>
    apply tidy_of_idle
    simp only [advance]
    split <;> rfl
  | _ => exact tidy_of_idle (advance_quiet rfl (by simp)).1

theorem inv_step {s t : World Bytes} {e : Event Bytes} (inv : s.Inv codec)
    (stepped : step codec s e t) : t.Inv codec := by
  cases e with
  | publish node =>
    simp only [step, next, Option.some.injEq] at stepped
    subst stepped
    refine ⟨fun other promised => ?_, inv.tidy.hidden, inv.tidy.sized⟩
    split at promised
    next good =>
      cases promised
      exact good
    · cases promised
  | withdraw =>
    simp only [step, next, Option.some.injEq] at stepped
    subst stepped
    exact ⟨fun other promised => (by cases promised), inv.tidy.hidden, inv.tidy.sized⟩
  | acknowledge ack =>
    simp only [step, next, Option.some.injEq] at stepped
    subst stepped
    exact ⟨inv.readable, inv.tidy.hidden, inv.tidy.sized⟩
  | tick clock =>
    simp only [step, next, Option.some.injEq] at stepped
    subst stepped
    exact ⟨fun other promised => (Option.filter_eq_some_iff.mp promised).2, inv.tidy.hidden,
      inv.tidy.sized⟩
  | call cleanup =>
    simp only [step, next] at stepped
    split at stepped
    · cases stepped
      exact ⟨inv.readable, tidy_of_idle rfl⟩
    · cases stepped
  | operate =>
    simp only [step, next] at stepped
    split at stepped
    · cases stepped
    · cases stepped
      exact ⟨inv.readable, tidy_advance inv.tidy⟩
  | die =>
    simp only [step, next, Option.some.injEq] at stepped
    subst stepped
    exact ⟨inv.readable, tidy_of_idle rfl⟩

variable (codec) in
-- The world after the next operation of the reader.
def operated (s : World Bytes) : World Bytes :=
  { s with
    disk := (advance codec s.disk s.reader).1
    reader := (advance codec s.disk s.reader).2 }

theorem displaced_operated {s : World Bytes}
    (same : (advance codec s.disk s.reader).1.request = s.disk.request) :
    (s.operated codec).Displaced ↔ s.Displaced := by
  simp only [Displaced, operated, same]

theorem aside_lease {s : World Bytes} {expected : IngestionRequest} {reading : Reading}
    (inv : s.Inv codec) (kept : s.Kept) (away : s.Displaced)
    (phase : s.reader = .comparingLease expected reading) :
    (advance codec s.disk s.reader).2.aside = true ↔ ¬s.Confirms codec := by
  obtain ⟨node, promised, elsewhere⟩ := away
  obtain ⟨_, _, there⟩ := (kept node promised).resolve_left elsewhere
  have passes : reading.next codec (some node) ≠ .inr none :=
    next_of_readable (inv.readable node promised) fun size loading =>
      inv.tidy.sized expected size node (by rw [phase, loading]) there
  simp only [Confirms, phase, advance, there]
  cases found : reading.next codec (some node) with
  | inl following => simp [Phase.aside]
  | inr moved =>
    cases moved with
    | none => exact absurd found passes
    | some request =>
      by_cases same : request = expected <;> simp [settle, same, Phase.aside]

theorem aside_stale {s : World Bytes} {expected : Bytes} (kept : s.Kept) (away : s.Displaced)
    (phase : s.reader = .comparingStale expected) :
    (advance codec s.disk s.reader).2.aside = true ↔ ¬s.Confirms codec := by
  obtain ⟨node, promised, elsewhere⟩ := away
  obtain ⟨_, _, there⟩ := (kept node promised).resolve_left elsewhere
  simp only [Confirms, phase, advance, there, Option.map_some, Option.some.injEq]
  by_cases same : node.bytes = expected <;> simp [settle, same, Phase.aside]

theorem kept_comparing {s : World Bytes} (kept : s.Kept)
    (files : (advance codec s.disk s.reader).1 = s.disk)
    (goes_on : s.Displaced →
      ((advance codec s.disk s.reader).2.aside = true ↔ ¬s.Confirms codec)) :
    (s.operated codec).Kept ↔ ¬(s.Confirms codec ∧ s.Displaced) := by
  have same : (s.operated codec).Displaced ↔ s.Displaced := displaced_operated (by rw [files])
  by_cases away : s.Displaced
  · constructor
    · rintro after ⟨confirms, _⟩
      have idle : (s.operated codec).reader.aside = false := by
        simpa [operated, confirms] using goes_on away
      exact after.not_displaced idle (same.mpr away)
    · intro careful node promised
      have aside := (goes_on away).mpr fun confirms => careful ⟨confirms, away⟩
      rcases kept node promised with there | ⟨_, nothing, there⟩
      · exact .inl (by simpa only [operated, files] using there)
      · exact .inr ⟨aside, by simpa only [operated, files] using nothing,
          by simpa only [operated, files] using there⟩
  · exact ⟨fun _ both => away both.2, fun _ => kept_of_not_displaced (mt same.mp away)⟩

theorem exact_operate {s : World Bytes} (inv : s.Inv codec) (kept : s.Kept) :
    Careful codec s .operate ↔ (s.operated codec).Kept := by
  have quiet (idle : s.reader.aside = false) (other : ∀ judged, s.reader ≠ .isolating judged) :
      Careful codec s .operate ↔ (s.operated codec).Kept := by
    have settled : _ ∧ (advance codec s.disk s.reader).1.request = s.disk.request :=
      advance_quiet idle other
    have there := kept.not_displaced idle
    refine ⟨fun _ => kept_of_not_displaced (mt (displaced_operated settled.2).mp there),
      fun _ => ⟨fun both => there both.2, fun overwrites => ?_⟩⟩
    rw [overwrites.1] at idle
    cases idle
  cases phase : s.reader with
  | isolating judged =>
    have there := kept.not_displaced (by rw [phase]; rfl)
    have careful : Careful codec s .operate := by simp [Careful, Confirms, Overwrites, phase]
    refine ⟨fun _ node promised => ?_, fun _ => careful⟩
    have at_path : s.disk.request = some node := by
      by_contra elsewhere
      exact there ⟨node, promised, elsewhere⟩
    right
    simp only [operated, advance, phase, at_path]
    cases judged <;> exact ⟨rfl, trivial, trivial⟩
  | comparingLease expected reading =>
    rw [kept_comparing kept (by rw [phase]; rfl) fun away => aside_lease inv kept away phase]
    simp [Careful, Overwrites, phase]
  | comparingStale expected =>
    rw [kept_comparing kept (by rw [phase]; rfl) fun away => aside_stale kept away phase]
    simp [Careful, Overwrites, phase]
  | rechecking =>
    have careful : Careful codec s .operate := by simp [Careful, Confirms, Overwrites, phase]
    refine ⟨fun _ node promised => ?_, fun _ => careful⟩
    simp only [operated, advance, phase]
    rcases kept node promised with at_path | ⟨_, nothing, there⟩
    · exact .inl at_path
    · exact .inr ⟨by simp [nothing, Phase.aside], nothing, there⟩
  | restoring =>
    obtain ⟨hidden, there⟩ := Option.isSome_iff_exists.mp (inv.tidy.hidden (by rw [phase]; rfl))
    have careful : Careful codec s .operate ↔ ¬s.Overwrites := by
      simp [Careful, Confirms, phase]
    have renamed : (s.operated codec).disk.request = some hidden := by
      simp [operated, advance, phase, there]
    have idle : (s.operated codec).reader.aside = false := by
      simp [operated, advance, phase, there, Phase.aside]
    rw [careful, kept_iff_of_idle idle, not_iff_not]
    constructor
    · rintro ⟨_, some_, _, differs⟩
      obtain ⟨node, promised⟩ := Option.ne_none_iff_exists'.mp some_
      refine ⟨node, promised, fun same => differs ?_⟩
      rw [there, ← renamed, same, promised]
    · rintro ⟨node, promised, elsewhere⟩
      have promised' : s.promised = some node := promised
      have differs : s.disk.marker ≠ some node := by rwa [there, ← renamed]
      refine ⟨phase, by simp [promised'], ?_, by rwa [promised']⟩
      rcases kept node promised' with at_path | ⟨_, _, same⟩
      · rw [at_path, promised']
      · exact absurd same differs
  | _ => exact quiet (by rw [phase]; rfl) (by simp [phase])

theorem exact_step {s t : World Bytes} {e : Event Bytes} (inv : s.Inv codec) (kept : s.Kept)
    (stepped : step codec s e t) : Careful codec s e ↔ t.Kept := by
  cases e with
  | publish node =>
    simp only [step, next, Option.some.injEq] at stepped
    subst stepped
    refine ⟨fun _ other promised => .inl ?_, fun _ => trivial⟩
    simp only at promised ⊢
    split at promised
    · exact promised
    · cases promised
  | withdraw =>
    simp only [step, next, Option.some.injEq] at stepped
    subst stepped
    exact ⟨fun _ other promised => (by cases promised), fun _ => trivial⟩
  | acknowledge ack =>
    simp only [step, next, Option.some.injEq] at stepped
    subst stepped
    exact ⟨fun _ => kept, fun _ => trivial⟩
  | tick clock =>
    simp only [step, next, Option.some.injEq] at stepped
    subst stepped
    exact ⟨fun _ node promised => kept node (Option.filter_eq_some_iff.mp promised).1,
      fun _ => trivial⟩
  | call cleanup =>
    simp only [step, next] at stepped
    split at stepped
    next resting =>
      cases stepped
      have idle : s.reader.aside = false := by
        cases phase : s.reader <;> simp_all [Phase.resting, Phase.aside]
      exact ⟨fun _ => kept_of_not_displaced (kept.not_displaced idle), fun _ => trivial⟩
    · cases stepped
  | operate =>
    simp only [step, next] at stepped
    split at stepped
    · cases stepped
    · cases stepped
      exact exact_operate inv kept
  | die =>
    simp only [step, next, Option.some.injEq] at stepped
    subst stepped
    exact ⟨fun there => kept_of_not_displaced there, fun after => after.not_displaced rfl⟩

end Steps

end World

/-- The runs in which every promised generation stays readable, or is put back, are exactly those
whose steps are all careful. -/
theorem World.generations_kept_iff [DecidableEq Bytes] (codec : Codec Bytes) (disk : Disk Bytes)
    (clock : ℤ) (es : List (Event Bytes)) (t : World Bytes) :
    Run (step codec) (Careful codec) (start disk clock) es t ↔
      Run (fun s e t => step codec s e t ∧ t.Kept) anyStep (start disk clock) es t :=
  Run.iff_good (Inv codec) Kept (fun _ _ _ inv stepped => inv_step inv stepped)
    (fun _ _ _ inv kept stepped => exact_step inv kept stepped)
    (inv_start codec disk clock) (kept_start disk clock)

inductive Texts where
  | expired | fresh
deriving DecidableEq

def Texts.codec : Codec Texts where
  size _ := 168
  request
    | .expired => some { requestId := "first", requestedAtUtc := 0, deadlineAtUtc := 600 * second }
    | .fresh => some {
        requestId := "second"
        requestedAtUtc := 1000 * second
        deadlineAtUtc := 1600 * second }
  acknowledged _ := none

def Texts.file (text : Texts) : Node Texts where
  bytes := text
  modified := 0
  regular := true

/-- The second request is published after the first one was judged, and the process dies between
the rename aside and the rename back. -/
theorem World.not_generations_kept :
    ¬∀ (codec : Codec Texts) (disk : Disk Texts) (clock : ℤ) (es : List (Event Texts))
      (t : World Texts), Run (step codec) anyStep (start disk clock) es t → t.Kept := by
  intro kept
  have traced : trace (next Texts.codec) anyStep
      (start { request := some Texts.expired.file, marker := none, ack := none } (1000 * second))
      (.call true :: List.replicate 8 .operate ++ [.publish Texts.fresh.file, .operate, .die]) =
        some {
          disk := { request := none, marker := some Texts.fresh.file, ack := none }
          reader := .dead
          clock := 1000 * second
          promised := some Texts.fresh.file } := by
    decide +kernel
  rcases kept _ _ _ _ _ (run_of_trace _ anyStep traced) _ rfl with there | ⟨aside, _⟩
  · cases there
  · cases aside

end DashcamStats.Quiesce
