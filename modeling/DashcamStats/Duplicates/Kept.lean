import DashcamStats.Duplicates.Cleanup

namespace DashcamStats.Duplicates

section Works

variable (hashes : Hashes) (area area' : Area)
variable (issued : List Preservation) (spent : Preservation → Prop)

def Present (copy : Preservation) : Prop :=
  ∃ snapshot, area.snapshots copy.key = some snapshot ∧
    snapshot.identity = copy.snapshotIdentity ∧
    (snapshot.flushed = true ∧ snapshot.synced = true) ∧
    (snapshot.bytes.length : ℤ) = copy.size ∧ hashes.sha256 snapshot.bytes = copy.sha256

def Armed (copy : Preservation) : Prop :=
  Present hashes area copy ∧
    area.receipts copy.key = some ⟨.deleteRequested, copy.sha256, true⟩

def New (identity : ℕ) : Prop :=
  identity < area.nextIdentity ∧ ∀ copy ∈ issued, copy.snapshotIdentity ≠ identity

def Expendable (identity : ℕ) : Prop :=
  ∀ copy ∈ issued, copy.snapshotIdentity = identity → spent copy

def Flushed (copy : Preservation) : Prop :=
  ∀ snapshot, area.snapshots copy.key = some snapshot →
    snapshot.identity = copy.snapshotIdentity → snapshot.flushed = true

def Settled (copy : Preservation) : Prop :=
  ∀ snapshot, area.snapshots copy.key = some snapshot →
    snapshot.identity = copy.snapshotIdentity → snapshot.flushed = true ∧ snapshot.synced = true

def Owned (copy : Preservation) : Prop :=
  ∀ snapshot, area.snapshots copy.key = some snapshot → snapshot.identity = copy.snapshotIdentity

def Safe : Work → Prop
  | .opening _ => True
  | .copying _ temporary => New area issued temporary.identity
  | .flushing _ temporary => New area issued temporary.identity
  | .comparing _ temporary => New area issued temporary.identity ∧ temporary.flushed = true
  | .claiming _ temporary => New area issued temporary.identity ∧ temporary.flushed = true
  | .linking copy temporary =>
    New area issued copy.snapshotIdentity ∧ temporary.flushed = true
  | .dropping copy => New area issued copy.snapshotIdentity ∧ Flushed area copy
  | .settling copy => New area issued copy.snapshotIdentity ∧ Flushed area copy
  | .stating copy => New area issued copy.snapshotIdentity ∧ Settled area copy
  | .withdrawing copy own _ =>
    New area issued copy.snapshotIdentity ∧ (own = true → Owned area copy)
  | .verifying copy => Settled area copy
  | .writing copy .prepared _ => New area issued copy.snapshotIdentity ∧ Settled area copy
  | .writing copy .deleteRequested step =>
    Present hashes area copy ∧
      (step = .syncing → ∃ synced,
        area.receipts copy.key = some ⟨.deleteRequested, copy.sha256, synced⟩)
  | .writing _ .retained _ => True
  | .discarding copy step _ =>
    Expendable issued spent copy.snapshotIdentity ∧ (step = .unlinking → Owned area copy)
  | .hashing _ _ => True

structure Progress (outcome : Work ⊕ Result) : Prop where
  kept : ∀ copy ∈ issued, Present hashes area copy → Present hashes area' copy ∨ spent copy
  ids : area.nextIdentity ≤ area'.nextIdentity
  safe : ∀ work, outcome = .inl work → Safe hashes area' issued spent work
  copied : ∀ copy, outcome = .inr (.copy copy) →
    New area' issued copy.snapshotIdentity ∧ Settled area' copy

variable {hashes area area' issued spent} {copy : Preservation} {identity : ℕ}

attribute [local simp] operate

theorem New.expendable (fresh : New area issued identity) : Expendable issued spent identity :=
  fun copy there same => absurd same (fresh.2 copy there)

theorem Progress.still {outcome : Work ⊕ Result}
    (safe : ∀ work, outcome = .inl work → Safe hashes area issued spent work)
    (copied : ∀ copy, outcome = .inr (.copy copy) →
      New area issued copy.snapshotIdentity ∧ Settled area copy) :
    Progress hashes area area issued spent outcome where
  kept _ _ present := .inl present
  ids := le_rfl
  safe := safe
  copied := copied

theorem Progress.go {work : Work} (safe : Safe hashes area issued spent work) :
    Progress hashes area area issued spent (.inl work) :=
  .still (fun other same => by cases same; exact safe) (fun _ same => by cases same)

theorem Progress.stop {result : Result} (other : ∀ copy, result ≠ .copy copy) :
    Progress hashes area area issued spent (.inr result) :=
  .still (fun _ same => by cases same)
    (fun copy same => absurd (Sum.inr.inj same) (other copy))

theorem discarded_ne (failure : Option Failure) : discarded failure ≠ .copy copy := by
  cases failure <;> simp [discarded]

theorem present_unlink (owned : Owned area copy)
    (expendable : Expendable issued spent copy.snapshotIdentity) :
    ∀ other ∈ issued, Present hashes area other →
      Present hashes (area.putSnapshot copy.key none) other ∨ spent other := by
  intro other there present
  obtain ⟨snapshot, at_key, own, rest⟩ := present
  by_cases same : other.key = copy.key
  · right
    apply expendable other there
    rw [← own]
    exact owned snapshot (same ▸ at_key)
  · left
    exact ⟨snapshot, by simpa [Area.putSnapshot, Function.update_of_ne same] using at_key, own,
      rest⟩

theorem present_sync (key : String) {other : Preservation} (present : Present hashes area other) :
    Present hashes (area.syncSnapshot key) other := by
  obtain ⟨snapshot, at_key, own, ⟨flushed, synced⟩, rest⟩ := present
  by_cases same : other.key = key
  · subst same
    refine ⟨{ snapshot with synced := true }, ?_, own, ⟨flushed, rfl⟩, rest⟩
    simp [Area.syncSnapshot, Area.putSnapshot, at_key]
  · refine ⟨snapshot, ?_, own, ⟨flushed, synced⟩, rest⟩
    simpa [Area.syncSnapshot, Area.putSnapshot, Function.update_of_ne same] using at_key

theorem settled_sync (flushed : Flushed area copy) : Settled (area.syncSnapshot copy.key) copy := by
  intro snapshot at_key own
  simp only [Area.syncSnapshot, Area.putSnapshot, Function.update_self, Option.map_eq_some_iff]
    at at_key
  obtain ⟨before, there, rfl⟩ := at_key
  exact ⟨flushed before there own, rfl⟩

theorem owned_of_holds (holds : area.holds copy = true) : Owned area copy := by
  intro snapshot at_key
  simpa [Area.holds, at_key] using holds

theorem present_of_matches (settled : Settled area copy)
    (same : snapshotMatches hashes area copy = true) : Present hashes area copy := by
  simp only [snapshotMatches, Option.any_eq_true, Bool.and_eq_true, decide_eq_true_eq] at same
  obtain ⟨snapshot, at_key, ⟨own, size⟩, sha256⟩ := same
  exact ⟨snapshot, at_key, own, settled snapshot at_key own, size, sha256⟩

theorem Progress.receipt {key : String} {receipt : Option Receipt} {outcome : Work ⊕ Result}
    (safe : ∀ work, outcome = .inl work →
      Safe hashes (area.putReceipt key receipt) issued spent work)
    (copied : ∀ copy, outcome = .inr (.copy copy) →
      New area issued copy.snapshotIdentity ∧ Settled area copy) :
    Progress hashes area (area.putReceipt key receipt) issued spent outcome where
  kept _ _ present := .inl present
  ids := le_rfl
  safe := safe
  copied := copied

theorem progress_unwritten {phase : ReceiptPhase} {failure : Failure}
    (fresh : phase = .prepared → New area issued copy.snapshotIdentity) :
    Progress hashes area area issued spent (unwritten copy phase failure) := by
  cases phase with
  | prepared => exact .go ⟨(fresh rfl).expendable, fun other => by cases other⟩
  | deleteRequested => exact .stop (by simp)
  | retained => exact .stop (by simp)

theorem progress_writing {phase : ReceiptPhase} {step : Writing} {answer : Answer}
    {outcome : Work ⊕ Result} (safe : Safe hashes area issued spent (.writing copy phase step))
    (stepped : operate hashes area (.writing copy phase step) answer = some (area', outcome)) :
    Progress hashes area area' issued spent outcome := by
  have fresh : phase = .prepared → New area issued copy.snapshotIdentity := by
    rintro rfl
    exact safe.1
  have later (following : Writing) (same : following ≠ .syncing) :
      Safe hashes area issued spent (.writing copy phase following) := by
    cases phase with
    | prepared => exact safe
    | deleteRequested => exact ⟨safe.1, fun other => absurd other same⟩
    | retained => trivial
  cases answer with
  | ok =>
    cases step with
    | checking =>
      cases stepped
      exact .go (later .writing (by simp))
    | writing =>
      cases stepped
      exact .go (later .replacing (by simp))
    | replacing =>
      cases stepped
      refine .receipt (fun work same => ?_) (fun _ same => by cases same)
      cases same
      cases phase with
      | prepared => exact safe
      | deleteRequested =>
        exact ⟨safe.1, fun _ => ⟨false, by simp [Area.putReceipt]⟩⟩
      | retained => trivial
    | syncing =>
      cases stepped
      refine .receipt (fun _ same => by cases same) (fun other same => ?_)
      cases phase with
      | prepared =>
        cases same
        exact safe
      | deleteRequested => cases same
      | retained => cases same
  | chunk bytes => cases step <;> cases stepped
  | differs =>
    cases step with
    | checking =>
      cases stepped
      exact progress_unwritten fresh
    | writing => cases stepped
    | replacing => cases stepped
    | syncing => cases stepped
  | error => cases step <;> cases stepped <;> exact progress_unwritten fresh

theorem progress_discarding {step : Discarding} {failure : Option Failure} {answer : Answer}
    {outcome : Work ⊕ Result} (safe : Safe hashes area issued spent (.discarding copy step failure))
    (stepped : operate hashes area (.discarding copy step failure) answer =
      some (area', outcome)) :
    Progress hashes area area' issued spent outcome := by
  obtain ⟨expendable, owned⟩ := safe
  cases answer with
  | ok =>
    cases step with
    | checking =>
      cases stepped
      exact .go ⟨expendable, fun other => by cases other⟩
    | stating =>
      simp only [operate, Option.some.injEq, Prod.mk.injEq] at stepped
      obtain ⟨rfl, rfl⟩ := stepped
      split
      · exact .go ⟨expendable, fun other => by cases other⟩
      · split
        next holds => exact .go ⟨expendable, fun _ => owned_of_holds holds⟩
        · exact .stop fun copy => discarded_ne failure
    | unlinking =>
      cases stepped
      exact
        { kept := present_unlink (owned rfl) expendable
          ids := le_rfl
          safe := fun work same => by
            cases same
            exact ⟨expendable, fun other => by cases other⟩
          copied := fun _ same => by cases same }
    | unlinkingReceipt =>
      cases stepped
      refine .receipt (fun work same => ?_) (fun _ same => by cases same)
      cases same
      exact ⟨expendable, fun other => by cases other⟩
    | syncing =>
      cases stepped
      exact .stop fun copy => discarded_ne failure
  | chunk bytes => cases step <;> cases stepped
  | differs =>
    cases step with
    | checking =>
      cases stepped
      exact .stop (by simp)
    | stating => cases stepped
    | unlinking => cases stepped
    | unlinkingReceipt => cases stepped
    | syncing => cases stepped
  | error => cases step <;> cases stepped <;> exact .stop (by simp [undiscarded])

theorem progress_withdrawing {own : Bool} {failure : Failure} {answer : Answer}
    {outcome : Work ⊕ Result} (safe : Safe hashes area issued spent (.withdrawing copy own failure))
    (stepped : operate hashes area (.withdrawing copy own failure) answer =
      some (area', outcome)) :
    Progress hashes area area' issued spent outcome := by
  obtain ⟨fresh, owned⟩ := safe
  cases answer with
  | ok =>
    cases own with
    | false =>
      simp only [operate, Option.some.injEq, Prod.mk.injEq] at stepped
      obtain ⟨rfl, rfl⟩ := stepped
      split
      next holds => exact .go ⟨fresh, fun _ => owned_of_holds holds⟩
      · exact .stop (by simp)
    | true =>
      cases stepped
      exact
        { kept := present_unlink (owned rfl) fresh.expendable
          ids := le_rfl
          safe := fun _ same => by cases same
          copied := fun _ same => by cases same }
  | chunk bytes => cases own <;> cases stepped
  | differs => cases own <;> cases stepped
  | error => cases own <;> cases stepped <;> exact .stop (by simp)

theorem progress_linking {temporary : Temporary}
    (fresh : New area issued copy.snapshotIdentity) (flushed : temporary.flushed = true)
    (free : area.snapshots copy.key = none) :
    Progress hashes area (area.putSnapshot copy.key
      (some ⟨temporary.identity, temporary.bytes, temporary.flushed, false⟩)) issued spent
      (.inl (.dropping copy)) where
  kept other _ present := by
    obtain ⟨snapshot, at_key, rest⟩ := present
    have elsewhere : other.key ≠ copy.key := by
      intro same
      rw [same, free] at at_key
      cases at_key
    exact .inl ⟨snapshot, by simpa [Area.putSnapshot, Function.update_of_ne elsewhere] using at_key,
      rest⟩
  ids := le_rfl
  safe work same := by
    cases same
    refine ⟨fresh, fun snapshot at_key _ => ?_⟩
    simp only [Area.putSnapshot, Function.update_self, Option.some.injEq] at at_key
    rw [← at_key]
    exact flushed
  copied _ same := by cases same

theorem progress_settling (safe : Safe hashes area issued spent (.settling copy)) :
    Progress hashes area (area.syncSnapshot copy.key) issued spent (.inl (.stating copy)) where
  kept _ _ present := .inl (present_sync copy.key present)
  ids := le_rfl
  safe work same := by
    cases same
    exact ⟨safe.1, settled_sync safe.2⟩
  copied _ same := by cases same

theorem progress {work : Work} {answer : Answer} {outcome : Work ⊕ Result}
    (safe : Safe hashes area issued spent work)
    (bounded : ∀ copy ∈ issued, copy.snapshotIdentity < area.nextIdentity)
    (stepped : operate hashes area work answer = some (area', outcome)) :
    Progress hashes area area' issued spent outcome := by
  cases work with
  | opening item =>
    cases answer with
    | ok =>
      cases stepped
      exact
        { kept := fun _ _ present => .inl present
          ids := Nat.le_succ _
          safe := fun work same => by
            cases same
            exact ⟨Nat.lt_succ_self _, fun copy there => Nat.ne_of_lt (bounded copy there)⟩
          copied := fun _ same => by cases same }
    | chunk bytes => cases stepped
    | differs => cases stepped; exact .stop (by simp)
    | error => cases stepped; exact .stop (by simp)
  | copying item temporary =>
    cases answer with
    | chunk bytes =>
      simp only [operate] at stepped
      split at stepped
      · cases stepped
        exact .go safe
      · split at stepped
        · cases stepped
          exact .stop (by simp)
        · cases stepped
          exact .go safe
    | error => cases stepped; exact .stop (by simp)
    | ok => cases stepped
    | differs => cases stepped
  | flushing item temporary =>
    cases answer with
    | ok => cases stepped; exact .go ⟨safe, rfl⟩
    | error => cases stepped; exact .stop (by simp)
    | chunk bytes => cases stepped
    | differs => cases stepped
  | comparing item temporary =>
    cases answer with
    | ok =>
      simp only [operate] at stepped
      split at stepped
      · cases stepped
        exact .go safe
      · cases stepped
        exact .stop (by simp)
    | differs => cases stepped; exact .stop (by simp)
    | error => cases stepped; exact .stop (by simp)
    | chunk bytes => cases stepped
  | claiming item temporary =>
    cases answer with
    | ok =>
      simp only [operate] at stepped
      split at stepped
      · cases stepped
        exact .stop (by simp)
      · cases stepped
        exact .go safe
    | error => cases stepped; exact .stop (by simp)
    | chunk bytes => cases stepped
    | differs => cases stepped
  | linking copy temporary =>
    cases answer with
    | ok =>
      simp only [operate] at stepped
      split at stepped
      · cases stepped
        exact .stop (by simp)
      next free =>
        cases stepped
        exact progress_linking safe.1 safe.2 (by simpa using free)
    | error => cases stepped; exact .stop (by simp)
    | chunk bytes => cases stepped
    | differs => cases stepped
  | dropping copy =>
    cases answer with
    | ok => cases stepped; exact .go safe
    | error => cases stepped; exact .go ⟨safe.1, fun own => by cases own⟩
    | chunk bytes => cases stepped
    | differs => cases stepped
  | settling copy =>
    cases answer with
    | ok => cases stepped; exact progress_settling safe
    | error => cases stepped; exact .go ⟨safe.1, fun own => by cases own⟩
    | chunk bytes => cases stepped
    | differs => cases stepped
  | stating copy =>
    cases answer with
    | ok => cases stepped; exact .go safe
    | error => cases stepped; exact .go ⟨safe.1, fun own => by cases own⟩
    | chunk bytes => cases stepped
    | differs => cases stepped
  | withdrawing copy own failure => exact progress_withdrawing safe stepped
  | verifying copy =>
    cases answer with
    | ok =>
      simp only [operate, Option.some.injEq, Prod.mk.injEq] at stepped
      obtain ⟨rfl, rfl⟩ := stepped
      split
      next same => exact .go ⟨present_of_matches safe same, fun other => by cases other⟩
      · exact .stop (by simp)
    | differs => cases stepped; exact .stop (by simp)
    | error => cases stepped; exact .stop (by simp)
    | chunk bytes => cases stepped
  | writing copy phase step => exact progress_writing safe stepped
  | discarding copy step failure => exact progress_discarding safe stepped
  | hashing copy bytes =>
    cases answer with
    | chunk more =>
      simp only [operate] at stepped
      split at stepped
      · cases stepped
        exact .stop (by simp)
      · split at stepped
        · cases stepped
          exact .stop (by simp)
        · cases stepped
          exact .go trivial
    | differs => cases stepped; exact .stop (by simp)
    | error => cases stepped; exact .stop (by simp)
    | ok => cases stepped

def Serves : Stage → Work → Prop
  | .checking copy, work => ∃ bytes, work = .hashing copy bytes
  | .arming copy, work =>
    work = .verifying copy ∨ ∃ step, work = .writing copy .deleteRequested step
  | _, _ => True

def Answers (hashes : Hashes) (area : Area) (issued : List Preservation) : Stage → Result → Prop
  | .preparing _, .copy copy => New area issued copy.snapshotIdentity ∧ Settled area copy
  | .arming copy, .done => Armed hashes area copy
  | _, _ => True

theorem serves_next {stage : Stage} {work following : Work} {answer : Answer}
    (serves : Serves stage work)
    (stepped : operate hashes area work answer = some (area', .inl following)) :
    Serves stage following := by
  cases stage with
  | checking copy =>
    obtain ⟨bytes, rfl⟩ := serves
    cases answer with
    | chunk more =>
      simp only [operate] at stepped
      split at stepped
      · cases stepped
      · split at stepped
        · cases stepped
        · cases stepped
          exact ⟨_, rfl⟩
    | differs => cases stepped
    | error => cases stepped
    | ok => cases stepped
  | arming copy =>
    rcases serves with rfl | ⟨step, rfl⟩
    · cases answer with
      | ok =>
        simp only [operate, Option.some.injEq, Prod.mk.injEq] at stepped
        obtain ⟨rfl, next⟩ := stepped
        split at next
        · cases next
          exact .inr ⟨_, rfl⟩
        · cases next
      | differs => cases stepped
      | error => cases stepped
      | chunk bytes => cases stepped
    · cases answer <;> cases step <;> cases stepped <;> exact .inr ⟨_, rfl⟩
  | _ => trivial

theorem serves_area {stage : Stage} {work : Work} {answer : Answer} {outcome : Work ⊕ Result}
    (relies : (∃ copy, stage = .checking copy) ∨ ∃ copy, stage = .arming copy)
    (serves : Serves stage work)
    (stepped : operate hashes area work answer = some (area', outcome)) :
    area'.snapshots = area.snapshots ∧ area'.nextIdentity = area.nextIdentity := by
  rcases relies with ⟨copy, rfl⟩ | ⟨copy, rfl⟩
  · obtain ⟨bytes, rfl⟩ := serves
    cases answer with
    | chunk more =>
      simp only [operate] at stepped
      split at stepped
      · cases stepped
        exact ⟨rfl, rfl⟩
      · split at stepped <;> cases stepped <;> exact ⟨rfl, rfl⟩
    | differs => cases stepped; exact ⟨rfl, rfl⟩
    | error => cases stepped; exact ⟨rfl, rfl⟩
    | ok => cases stepped
  · rcases serves with rfl | ⟨step, rfl⟩
    · cases answer <;> cases stepped <;> exact ⟨rfl, rfl⟩
    · cases answer <;> cases step <;> cases stepped <;> exact ⟨rfl, rfl⟩

theorem answers_result {stage : Stage} {work : Work} {answer : Answer} {result : Result}
    (safe : Safe hashes area issued spent work)
    (progress : Progress hashes area area' issued spent (.inr result))
    (serves : Serves stage work)
    (stepped : operate hashes area work answer = some (area', .inr result)) :
    Answers hashes area' issued stage result := by
  cases stage with
  | preparing item =>
    cases result with
    | copy copy => exact progress.copied copy rfl
    | matches_ same => trivial
    | done => trivial
    | raised failure => trivial
  | arming copy =>
    cases result with
    | done =>
      rcases serves with rfl | ⟨step, rfl⟩
      · cases answer with
        | ok =>
          simp only [operate, Option.some.injEq, Prod.mk.injEq] at stepped
          obtain ⟨rfl, next⟩ := stepped
          split at next <;> cases next
        | differs => cases stepped
        | error => cases stepped
        | chunk bytes => cases stepped
      · cases answer with
        | ok =>
          cases step with
          | syncing =>
            cases stepped
            obtain ⟨present, written⟩ := safe
            obtain ⟨synced, there⟩ := written rfl
            exact ⟨present, by simp [Area.syncReceipt, Area.putReceipt, there]⟩
          | checking => cases stepped
          | writing => cases stepped
          | replacing => cases stepped
        | differs => cases step <;> cases stepped
        | error => cases step <;> cases stepped
        | chunk bytes => cases step <;> cases stepped
    | copy copy => trivial
    | matches_ same => trivial
    | raised failure => trivial
  | _ => trivial

end Works

namespace State

section Invariant

variable (hashes : Hashes)

def Spent (s : State) (copy : Preservation) : Prop := copy ∈ s.confirmed ∧ copy ∈ s.rehashed

/-- Whenever a deletion is going on its copy is armed, an issued copy is there until it is spent,
and at most one thread works on the preservation directory. -/
structure Safe (s : State) : Prop where
  armed : ∀ copy, s.stage = .deleting copy → Armed hashes s.area copy
  kept : ∀ copy ∈ s.issued, Present hashes s.area copy ∨ s.Spent copy
  single : s.workers.length ≤ 1

def Fact (s : State) : Stage → Prop
  | .parking copy => New s.area s.issued copy.snapshotIdentity ∧ Settled s.area copy
  | .verifying copy => New s.area s.issued copy.snapshotIdentity ∧ Settled s.area copy
  | .checking copy => New s.area s.issued copy.snapshotIdentity ∧ Settled s.area copy
  | .parkingAgain copy => New s.area s.issued copy.snapshotIdentity ∧ Settled s.area copy
  | .arming copy => New s.area s.issued copy.snapshotIdentity ∧ Settled s.area copy
  | .admitting copy => New s.area s.issued copy.snapshotIdentity ∧ Armed hashes s.area copy
  | .deleting copy =>
    (∀ other ∈ s.issued, other.snapshotIdentity = copy.snapshotIdentity → other = copy) ∧
      Armed hashes s.area copy
  | .rechecking copy =>
    (∀ other ∈ s.issued, other.snapshotIdentity = copy.snapshotIdentity → other = copy) ∧
      copy ∈ s.confirmed
  | .discarding copy => Expendable s.issued s.Spent copy.snapshotIdentity
  | .cancelling copy => Expendable s.issued s.Spent copy.snapshotIdentity
  | .clearing copy _ => Expendable s.issued s.Spent copy.snapshotIdentity
  | _ => True

structure Core (s : State) : Prop where
  bounded : ∀ copy ∈ s.issued, copy.snapshotIdentity < s.area.nextIdentity
  kept : ∀ copy ∈ s.issued, Present hashes s.area copy ∨ s.Spent copy
  pool : (s.slot = false ∧ s.workers = []) ∨
    (s.slot = true ∧ ∃ worker, s.workers = [worker] ∧
      Duplicates.Safe hashes s.area s.issued s.Spent worker.work)

structure Inv (s : State) : Prop where
  core : s.Core hashes
  fact : s.Fact hashes s.stage
  idle : s.waiting = false → s.stage = .ended ∨ s.slot = false
  local_ : s.waiting = true → s.stage.work.isSome = true
  awaited : s.waiting = true →
    (s.reply = none ∧
      ∃ worker, s.workers = [worker] ∧ worker.abandoned = false ∧ Serves s.stage worker.work) ∨
      ∃ result, s.reply = some result ∧ s.slot = false ∧
        Answers hashes s.area s.issued s.stage result

variable {hashes} {s t : State}

theorem inv_start (area : Area) : (start area).Inv hashes where
  core := ⟨fun copy there => (by cases there), fun copy there => (by cases there), .inl ⟨rfl, rfl⟩⟩
  fact := trivial
  idle _ := .inl rfl
  local_ waiting := by cases waiting
  awaited waiting := by cases waiting

theorem Inv.safe (inv : s.Inv hashes) : s.Safe hashes where
  armed copy stage := by
    have fact := inv.fact
    rw [stage] at fact
    exact fact.2
  kept := inv.core.kept
  single := by
    rcases inv.core.pool with ⟨_, nobody⟩ | ⟨_, worker, alone, _⟩
    · simp [nobody]
    · simp [alone]

theorem Core.enter {stage : Stage} (core : s.Core hashes) (fact : s.Fact hashes stage)
    (free : stage = .ended ∨ s.slot = false) : (s.enter stage).Inv hashes where
  core := ⟨core.bounded, core.kept, core.pool⟩
  fact := by
    cases stage with
    | _ => exact fact
  idle _ := free
  local_ waiting := by cases waiting
  awaited waiting := by cases waiting

theorem Core.result (core : s.Core hashes) (result : DuplicateCleanupResult) :
    { s with result := result }.Core hashes :=
  ⟨core.bounded, core.kept, core.pool⟩

theorem Core.abandon (core : s.Core hashes) : s.abandon.Core hashes where
  bounded := core.bounded
  kept := core.kept
  pool := by
    rcases core.pool with ⟨free, nobody⟩ | ⟨taken, worker, alone, safe⟩
    · exact .inl ⟨free, by simp [State.abandon, nobody]⟩
    · exact .inr ⟨taken, { worker with abandoned := true }, by simp [State.abandon, alone], safe⟩

theorem Core.conclude (core : s.Core hashes) (destructive : Bool) (reason : String) :
    (s.conclude destructive reason).Inv hashes := by
  simp only [State.conclude]
  split
  next goes_on =>
    simp only [Bool.and_eq_true, Bool.not_eq_true'] at goes_on
    exact (core.result _).enter trivial (.inr goes_on.2)
  · exact core.enter trivial (.inl rfl)

def Clear (s : State) : Prop :=
  ∀ copy, s.stage.copy = some copy → s.stage.destructive = false →
    Expendable s.issued s.Spent copy.snapshotIdentity

theorem Inv.clear (inv : s.Inv hashes) : s.Clear := by
  intro copy there harmless
  have fact := inv.fact
  cases stage : s.stage with
  | ended => simp [stage, Stage.copy] at there
  | looping => simp [stage, Stage.copy] at there
  | entering item => simp [stage, Stage.copy] at there
  | preparing item => simp [stage, Stage.copy] at there
  | deleting other => simp [stage, Stage.destructive] at harmless
  | rechecking other => simp [stage, Stage.destructive] at harmless
  | discarding other => simp [stage, Stage.destructive] at harmless
  | retaining other reason => simp [stage, Stage.destructive] at harmless
  | cancelling other =>
    rw [stage] at fact there
    cases there
    exact fact
  | clearing other reason =>
    rw [stage] at fact there
    cases there
    exact fact
  | _ =>
    rw [stage] at fact there
    cases there
    exact fact.1.expendable

theorem Core.handle (core : s.Core hashes) (clear : s.Clear) (failure : Failure) :
    (s.handle failure).Inv hashes := by
  simp only [State.handle]
  split
  · exact (core.result _).conclude _ _
  next copy there =>
    split
    next held =>
      split
      · exact ((core.result _).result _).conclude _ _
      next free =>
        exact ((core.result _).result _).enter trivial (.inr (by simpa using free))
    next harmless =>
      simp only [not_or, Bool.not_eq_true] at harmless
      exact (core.result _).enter (clear copy there harmless.1) (.inr harmless.2)

theorem Core.raise (core : s.Core hashes) (clear : s.Clear) (failure : Failure) :
    (s.raise failure).Inv hashes := by
  simp only [State.raise]
  split
  · exact core.enter trivial (.inl rfl)
  · exact (core.result _).conclude _ _
  · exact core.conclude _ _
  · exact core.handle clear failure

theorem Core.handleCancelled (core : s.Core hashes) (clear : s.Clear) :
    s.handleCancelled.Inv hashes := by
  simp only [State.handleCancelled]
  split
  · exact core.enter trivial (.inl rfl)
  · exact core.enter trivial (.inl rfl)
  · exact core.enter trivial (.inl rfl)
  · split
    · exact core.enter trivial (.inl rfl)
    next copy there =>
      split
      · exact core.enter trivial (.inl rfl)
      next harmless =>
        simp only [not_or, Bool.not_eq_true] at harmless
        exact core.enter (clear copy there harmless.1) (.inr harmless.2)

theorem inv_begin (inv : s.Inv hashes) (candidates : List RemoteFile) (ended : s.stage = .ended) :
    (s.begin candidates).Inv hashes := by
  simp only [begin]
  split
  · exact ⟨⟨inv.core.bounded, inv.core.kept, inv.core.pool⟩, by rw [ended]; trivial,
      fun _ => .inl ended, inv.local_, inv.awaited⟩
  next free =>
    have core : { s with
        rest := candidates
        collisions := (candidates.map RemoteFile.name).filter fun name =>
          1 < (candidates.map RemoteFile.name).count name
        attemptedBytes := 0
        result := .new }.Core hashes := ⟨inv.core.bounded, inv.core.kept, inv.core.pool⟩
    exact core.enter trivial (.inr (by simpa using free))

theorem inv_loop (safeName : String → Bool) (inv : s.Inv hashes) (looping : s.stage = .looping) :
    (s.loop safeName).Inv hashes := by
  have free : s.slot = false := by
    cases waiting : s.waiting with
    | false => exact (inv.idle waiting).resolve_left (by rw [looping]; simp)
    | true =>
      have somewhere := inv.local_ waiting
      rw [looping] at somewhere
      cases somewhere
  simp only [loop]
  split
  · exact inv.core.enter trivial (.inl rfl)
  next item rest _ =>
    split
    · exact (inv.core.result _).enter trivial (.inl rfl)
    · split
      · exact ⟨⟨inv.core.bounded, inv.core.kept, inv.core.pool⟩, by rw [looping]; trivial,
          inv.idle, inv.local_, inv.awaited⟩
      · have core : { s with rest := rest }.Core hashes :=
          ⟨inv.core.bounded, inv.core.kept, inv.core.pool⟩
        exact core.enter trivial (.inr free)

-- Outside of `_local_io` no thread runs while the pass goes on.
theorem Inv.free (inv : s.Inv hashes) (going : s.stage ≠ .ended) (elsewhere : s.stage.work = none) :
    s.slot = false := by
  cases waiting : s.waiting with
  | false => exact (inv.idle waiting).resolve_left going
  | true =>
    have somewhere := inv.local_ waiting
    rw [elsewhere] at somewhere
    cases somewhere

theorem Core.issue (core : s.Core hashes) {copy : Preservation} (free : s.slot = false)
    (fresh : New s.area s.issued copy.snapshotIdentity) (armed : Armed hashes s.area copy) :
    { s with issued := copy :: s.issued }.Core hashes where
  bounded other there := by
    rcases List.mem_cons.mp there with rfl | there
    · exact fresh.1
    · exact core.bounded other there
  kept other there := by
    rcases List.mem_cons.mp there with rfl | there
    · exact .inl armed.1
    · exact core.kept other there
  pool := by
    rcases core.pool with idle | ⟨taken, _⟩
    · exact .inl idle
    · rw [free] at taken
      cases taken

theorem Core.confirm (core : s.Core hashes) {copy : Preservation} (free : s.slot = false)
    (result : DuplicateCleanupResult) :
    { s with confirmed := copy :: s.confirmed, result := result }.Core hashes where
  bounded := core.bounded
  kept other there :=
    (core.kept other there).imp id fun spent => ⟨List.mem_cons_of_mem _ spent.1, spent.2⟩
  pool := by
    rcases core.pool with idle | ⟨taken, _⟩
    · exact .inl idle
    · rw [free] at taken
      cases taken

theorem Core.rehash (core : s.Core hashes) {copy : Preservation} (free : s.slot = false) :
    { s with rehashed := copy :: s.rehashed }.Core hashes where
  bounded := core.bounded
  kept other there :=
    (core.kept other there).imp id fun spent => ⟨spent.1, List.mem_cons_of_mem _ spent.2⟩
  pool := by
    rcases core.pool with idle | ⟨taken, _⟩
    · exact .inl idle
    · rw [free] at taken
      cases taken

theorem inv_proceed (inv : s.Inv hashes) {answer : Bool} (stepped : s.proceed answer = some t) :
    t.Inv hashes := by
  have fact := inv.fact
  have clear := inv.clear
  cases stage : s.stage with
  | entering item =>
    have free := inv.free (by rw [stage]; simp) (by rw [stage]; rfl)
    simp only [proceed, stage, Option.some.injEq] at stepped
    subst stepped
    have core : { s with
        attemptedBytes := s.attemptedBytes + item.size
        result := { s.result with
          attemptedFiles := s.result.attemptedFiles + 1 } }.Core hashes :=
      ⟨inv.core.bounded, inv.core.kept, inv.core.pool⟩
    exact core.enter trivial (.inr free)
  | parking copy =>
    have free := inv.free (by rw [stage]; simp) (by rw [stage]; rfl)
    rw [stage] at fact
    simp only [proceed, stage, Option.some.injEq] at stepped
    subst stepped
    split
    · exact inv.core.enter fact (.inr free)
    · exact inv.core.handle clear _
  | verifying copy =>
    have free := inv.free (by rw [stage]; simp) (by rw [stage]; rfl)
    rw [stage] at fact
    simp only [proceed, stage, Option.some.injEq] at stepped
    subst stepped
    split
    · exact inv.core.enter fact (.inr free)
    · exact inv.core.handle clear _
  | parkingAgain copy =>
    have free := inv.free (by rw [stage]; simp) (by rw [stage]; rfl)
    rw [stage] at fact
    simp only [proceed, stage, Option.some.injEq] at stepped
    subst stepped
    split
    · exact inv.core.enter fact (.inr free)
    · exact inv.core.handle clear _
  | admitting copy =>
    have free := inv.free (by rw [stage]; simp) (by rw [stage]; rfl)
    rw [stage] at fact
    simp only [proceed, stage, Option.some.injEq] at stepped
    subst stepped
    obtain ⟨fresh, armed⟩ := fact
    refine (inv.core.issue free fresh armed).enter ⟨fun other there same => ?_, armed⟩ (.inr free)
    rcases List.mem_cons.mp there with rfl | there
    · rfl
    · exact absurd same (fresh.2 other there)
  | deleting copy =>
    have free := inv.free (by rw [stage]; simp) (by rw [stage]; rfl)
    rw [stage] at fact
    simp only [proceed, stage, Option.some.injEq] at stepped
    subst stepped
    split
    · exact (inv.core.confirm free _).enter ⟨fact.1, List.mem_cons_self⟩ (.inr free)
    · exact inv.core.handle clear _
  | _ => simp [proceed, stage] at stepped

theorem inv_startLocal (inv : s.Inv hashes) (stepped : s.startLocal = some t) : t.Inv hashes := by
  obtain ⟨work, job, rfl⟩ := Option.map_eq_some_iff.mp stepped
  have fact := inv.fact
  split
  · exact inv.core.raise inv.clear _
  next free =>
    have nobody : s.workers = [] := by
      rcases inv.core.pool with idle | ⟨taken, _⟩
      · exact idle.2
      · exact absurd taken free
    have ready : Duplicates.Safe hashes s.area s.issued s.Spent work ∧ Serves s.stage work := by
      cases stage : s.stage with
      | preparing item => rw [stage] at job; cases job; exact ⟨trivial, trivial⟩
      | checking copy => rw [stage] at job; cases job; exact ⟨trivial, _, rfl⟩
      | arming copy =>
        rw [stage] at job fact
        cases job
        exact ⟨fact.2, .inl rfl⟩
      | rechecking copy => rw [stage] at job; cases job; exact ⟨trivial, trivial⟩
      | discarding copy =>
        rw [stage] at job fact
        cases job
        exact ⟨⟨fact, fun other => by cases other⟩, trivial⟩
      | cancelling copy =>
        rw [stage] at job fact
        cases job
        exact ⟨⟨fact, fun other => by cases other⟩, trivial⟩
      | clearing copy reason =>
        rw [stage] at job fact
        cases job
        exact ⟨⟨fact, fun other => by cases other⟩, trivial⟩
      | retaining copy reason => rw [stage] at job; cases job; exact ⟨trivial, trivial⟩
      | _ => rw [stage] at job; cases job
    exact
      { core := ⟨inv.core.bounded, inv.core.kept,
          .inr ⟨rfl, ⟨work, false, s.stage.late⟩, by simp [nobody], ready.1⟩⟩
        fact := by
          cases stage : s.stage with
          | _ =>
            rw [stage] at fact
            exact fact
        idle := fun waiting => by cases waiting
        local_ := fun _ => by rw [job]; rfl
        awaited := fun _ =>
          .inl ⟨rfl, ⟨work, false, s.stage.late⟩, by simp [nobody], rfl, ready.2⟩ }

theorem inv_receive (inv : s.Inv hashes) (waiting : s.waiting = true) {result : Result}
    (reply : s.reply = some result) (stepped : s.receive result = some t) : t.Inv hashes := by
  have fact := inv.fact
  have clear := inv.clear
  obtain ⟨free, answers⟩ : s.slot = false ∧ Answers hashes s.area s.issued s.stage result := by
    rcases inv.awaited waiting with ⟨nothing, _⟩ | ⟨other, known, free, answers⟩
    · rw [reply] at nothing
      cases nothing
    · rw [reply] at known
      cases known
      exact ⟨free, answers⟩
  cases result with
  | raised failure =>
    have same : t = s.raise failure := by
      cases stage : s.stage <;> simpa [receive, stage] using stepped.symm
    subst same
    exact inv.core.raise clear failure
  | copy copy =>
    cases stage : s.stage with
    | preparing item =>
      rw [stage] at answers
      simp only [receive, stage, Option.some.injEq] at stepped
      subst stepped
      exact inv.core.enter answers (.inr free)
    | _ => simp [receive, stage] at stepped
  | matches_ same =>
    cases stage : s.stage with
    | checking copy =>
      rw [stage] at fact
      cases same with
      | true =>
        simp only [receive, stage, Option.some.injEq] at stepped
        subst stepped
        exact (inv.core.result _).enter fact (.inr free)
      | false =>
        simp only [receive, stage, Option.some.injEq] at stepped
        subst stepped
        exact inv.core.handle clear _
    | rechecking copy =>
      rw [stage] at fact
      cases same with
      | true =>
        simp only [receive, stage, Option.some.injEq] at stepped
        subst stepped
        refine (inv.core.rehash free).enter (fun other there own => ?_) (.inr free)
        obtain rfl := fact.1 other there own
        exact ⟨fact.2, List.mem_cons_self⟩
      | false =>
        simp only [receive, stage, Option.some.injEq] at stepped
        subst stepped
        exact inv.core.handle clear _
    | _ => cases same <;> simp [receive, stage] at stepped
  | done =>
    cases stage : s.stage with
    | arming copy =>
      rw [stage] at fact answers
      simp only [receive, stage, Option.some.injEq] at stepped
      subst stepped
      exact inv.core.enter ⟨fact.1, answers⟩ (.inr free)
    | discarding copy =>
      simp only [receive, stage, Option.some.injEq] at stepped
      subst stepped
      exact inv.core.enter trivial (.inr free)
    | cancelling copy =>
      simp only [receive, stage, Option.some.injEq] at stepped
      subst stepped
      exact inv.core.enter trivial (.inl rfl)
    | clearing copy reason =>
      simp only [receive, stage, Option.some.injEq] at stepped
      subst stepped
      exact inv.core.conclude _ _
    | retaining copy reason =>
      simp only [receive, stage, Option.some.injEq] at stepped
      subst stepped
      exact inv.core.conclude _ _
    | _ => simp [receive, stage] at stepped

theorem Inv.fact_after (inv : s.Inv hashes) {worker : Worker} {answer : Answer} {area : Area}
    {outcome : Work ⊕ Result} (alone : s.workers = [worker])
    (stepped : operate hashes s.area worker.work answer = some (area, outcome)) :
    { s with area := area }.Fact hashes s.stage := by
  have fact := inv.fact
  have taken : s.slot = true := by
    rcases inv.core.pool with ⟨_, nobody⟩ | ⟨taken, _⟩
    · rw [alone] at nobody
      cases nobody
    · exact taken
  have relies (going : s.stage ≠ .ended) : s.waiting = true ∧ Serves s.stage worker.work := by
    have waiting : s.waiting = true := by
      by_contra resting
      rcases inv.idle (by simpa using resting) with ended | free
      · exact going ended
      · rw [taken] at free
        cases free
    rcases inv.awaited waiting with ⟨_, other, only, _, serves⟩ | ⟨_, _, free, _⟩
    · rw [alone] at only
      cases only
      exact ⟨waiting, serves⟩
    · rw [taken] at free
      cases free
  have elsewhere (going : s.stage ≠ .ended) (nonlocal : s.stage.work = none) : False := by
    have free := inv.free going nonlocal
    rw [taken] at free
    cases free
  cases stage : s.stage with
  | checking copy =>
    obtain ⟨_, serves⟩ := relies (by rw [stage]; simp)
    obtain ⟨snapshots, ids⟩ := serves_area (.inl ⟨copy, stage⟩) serves stepped
    rw [stage] at fact
    exact ⟨⟨ids ▸ fact.1.1, fact.1.2⟩, fun snapshot there => fact.2 snapshot (snapshots ▸ there)⟩
  | arming copy =>
    obtain ⟨_, serves⟩ := relies (by rw [stage]; simp)
    obtain ⟨snapshots, ids⟩ := serves_area (.inr ⟨copy, stage⟩) serves stepped
    rw [stage] at fact
    exact ⟨⟨ids ▸ fact.1.1, fact.1.2⟩, fun snapshot there => fact.2 snapshot (snapshots ▸ there)⟩
  | parking copy => exact (elsewhere (by rw [stage]; simp) (by rw [stage]; rfl)).elim
  | verifying copy => exact (elsewhere (by rw [stage]; simp) (by rw [stage]; rfl)).elim
  | parkingAgain copy => exact (elsewhere (by rw [stage]; simp) (by rw [stage]; rfl)).elim
  | admitting copy => exact (elsewhere (by rw [stage]; simp) (by rw [stage]; rfl)).elim
  | deleting copy => exact (elsewhere (by rw [stage]; simp) (by rw [stage]; rfl)).elim
  | _ =>
    rw [stage] at fact
    exact fact

theorem inv_workThread (inv : s.Inv hashes) {thread : ℕ} {answer : Answer}
    (stepped : s.workThread hashes thread answer = some t) : t.Inv hashes := by
  simp only [workThread] at stepped
  split at stepped
  · cases stepped
  next worker there =>
    obtain ⟨⟨area, outcome⟩, operated, rfl⟩ := Option.map_eq_some_iff.mp stepped
    obtain ⟨taken, other, alone, safe⟩ : s.slot = true ∧ ∃ worker, s.workers = [worker] ∧
        Duplicates.Safe hashes s.area s.issued s.Spent worker.work := by
      rcases inv.core.pool with ⟨_, nobody⟩ | pool
      · simp [nobody] at there
      · exact pool
    obtain ⟨rfl, rfl⟩ : thread = 0 ∧ other = worker := by
      rw [alone] at there
      cases thread with
      | zero => exact ⟨rfl, by simpa using there⟩
      | succ thread => simp at there
    have progress := progress safe inv.core.bounded operated
    have fact := inv.fact_after alone operated
    have bounded : ∀ copy ∈ s.issued, copy.snapshotIdentity < area.nextIdentity :=
      fun copy there => Nat.lt_of_lt_of_le (inv.core.bounded copy there) progress.ids
    have kept : ∀ copy ∈ s.issued, Present hashes area copy ∨ s.Spent copy := by
      intro copy issued
      rcases inv.core.kept copy issued with present | spent
      · exact progress.kept copy issued present
      · exact .inr spent
    have awaited : s.waiting = true →
        s.reply = none ∧ other.abandoned = false ∧ Serves s.stage other.work := by
      intro waiting
      rcases inv.awaited waiting with ⟨nothing, worker, only, own, serves⟩ | ⟨_, _, free, _⟩
      · rw [alone] at only
        cases only
        exact ⟨nothing, own, serves⟩
      · rw [taken] at free
        cases free
    cases outcome with
    | inl work =>
      exact
        { core := ⟨bounded, kept,
            .inr ⟨taken, { other with work := work }, by simp [alone], progress.safe work rfl⟩⟩
          fact := fact
          idle := inv.idle
          local_ := inv.local_
          awaited := fun waiting =>
            .inl ⟨(awaited waiting).1, { other with work := work }, by simp [alone],
              (awaited waiting).2.1, serves_next (awaited waiting).2.2 operated⟩ }
    | inr result =>
      have released : Inv hashes { s with
          area := area
          workers := s.workers.eraseIdx 0
          slot := false
          reply := if other.abandoned then s.reply else some result } :=
        { core := ⟨bounded, kept, .inl ⟨rfl, by simp [alone]⟩⟩
          fact := fact
          idle := fun _ => .inr rfl
          local_ := inv.local_
          awaited := fun waiting => by
            obtain ⟨_, own, serves⟩ := awaited waiting
            exact .inr ⟨result, by simp [own], rfl,
              answers_result safe progress serves operated⟩ }
      cases result with
      | copy copy =>
        cases late : other.abandoned && other.late with
        | false =>
          simp only [finish, late, Bool.false_eq_true, ↓reduceIte]
          exact released
        | true =>
          have fresh := (progress.copied copy rfl).1
          simp only [finish, late, ↓reduceIte]
          exact
            { core := ⟨bounded, kept, .inr ⟨taken,
                { other with work := .discarding copy .checking none, late := false },
                by simp [alone], fresh.expendable, fun other => by cases other⟩⟩
              fact := fact
              idle := inv.idle
              local_ := inv.local_
              awaited := fun waiting => by
                have own := (awaited waiting).2.1
                simp [own] at late }
      | matches_ same => exact released
      | done => exact released
      | raised failure => exact released

theorem inv_step {safeName : String → Bool} {e : Event} (inv : s.Inv hashes)
    (stepped : step hashes safeName s e t) : t.Inv hashes := by
  cases e with
  | begin candidates =>
    simp only [step, next] at stepped
    split at stepped
    next ended =>
      cases stepped
      exact inv_begin inv candidates ended
    · cases stepped
  | loop =>
    simp only [step, next] at stepped
    split at stepped
    next looping =>
      cases stepped
      exact inv_loop safeName inv looping
    · cases stepped
  | proceed answer => exact inv_proceed inv stepped
  | start =>
    simp only [step, next] at stepped
    split at stepped
    · cases stepped
    · exact inv_startLocal inv stepped
  | receive =>
    simp only [step, next] at stepped
    split at stepped
    next waiting =>
      obtain ⟨result, reply, received⟩ := Option.bind_eq_some_iff.mp stepped
      exact inv_receive inv waiting reply received
    · cases stepped
  | fail failure =>
    simp only [step, next] at stepped
    split at stepped
    · cases stepped
    · cases stepped
      exact inv.core.raise inv.clear failure
  | timeout =>
    simp only [step, next] at stepped
    split at stepped
    · cases stepped
      exact inv.core.abandon.raise inv.clear .timeout
    · cases stepped
  | cancel =>
    simp only [step, next] at stepped
    split at stepped
    · cases stepped
    · split at stepped
      · cases stepped
        exact inv.core.abandon.handleCancelled inv.clear
      · cases stepped
        exact inv.core.handleCancelled inv.clear
  | work thread answer => exact inv_workThread inv stepped

/-- In every run of passes, threads, failures and cancellations, over any preservation directory,
no byte of a deleted recording is lost. -/
theorem footage_kept (hashes : Hashes) (safeName : String → Bool) (area : Area) (es : List Event)
    (t : State) (run : Run (step hashes safeName) anyStep (start area) es t) :
    t.Safe hashes := by
  have inv : t.Inv hashes :=
    run.invariant (Inv hashes) (fun _ _ _ inv _ stepped => inv_step inv stepped) (inv_start area)
  exact inv.safe

end Invariant

section Runs

def plainHashes : Hashes where
  sha256 := fun bytes => toString bytes.length
  key := fun name checksum => name ++ checksum

def emptyArea : Area := ⟨fun _ => none, fun _ => none, 0⟩

def reclaim : List Event :=
  [.begin [⟨"a.mp4", 2⟩], .loop, .proceed true, .start, .work 0 .ok, .work 0 (.chunk [1, 2]),
    .work 0 (.chunk [])] ++ List.replicate 11 (.work 0 .ok) ++
  [.receive, .proceed true, .proceed true, .start, .work 0 (.chunk [1, 2]), .work 0 (.chunk []),
    .receive, .proceed true, .start] ++ List.replicate 5 (.work 0 .ok) ++
  [.receive, .proceed true]

def confirm : List Event :=
  [.proceed true, .start, .work 0 (.chunk [1, 2]), .work 0 (.chunk []), .receive, .start] ++
    List.replicate 5 (.work 0 .ok) ++ [.receive]

theorem footage_kept_reclaim :
    ∃ t : State, (t.stage = .looping ∧ t.issued.length = 1 ∧ t.rehashed.length = 1) ∧
      t.Safe plainHashes := by
  have traced : (trace (next plainHashes fun _ => true) anyStep (start emptyArea)
      (reclaim ++ confirm)).map (fun t => (t.stage, t.issued.length, t.rehashed.length)) =
        some (.looping, 1, 1) := by
    decide +kernel
  obtain ⟨t, run, facts⟩ := Option.map_eq_some_iff.mp traced
  simp only [Prod.mk.injEq] at facts
  exact ⟨t, facts, footage_kept plainHashes (fun _ => true) emptyArea _ t (run_of_trace _ _ run)⟩

end Runs

end State

end DashcamStats.Duplicates
