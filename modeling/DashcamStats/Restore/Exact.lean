import DashcamStats.Restore.Model

namespace DashcamStats.Restore

open Relation (ReflTransGen)

section Replay

variable {wal : List Frame} {image image' : Image} {page : ℕ}

theorem replay_append (wal frames : List Frame) (image : Image) :
    replay (wal ++ frames) image = replay frames (replay wal image) := List.foldl_append

theorem replay_congr (same : image page = image' page ∨ page ∈ wal.map Prod.fst) :
    replay wal image page = replay wal image' page := by
  induction wal generalizing image image' with
  | nil => exact same.resolve_right List.not_mem_nil
  | cons frame rest ih =>
    refine ih ?_
    by_cases here : page = frame.1
    · refine .inl ?_
      dsimp only
      rw [here, Function.update_self, Function.update_self]
    · dsimp only
      rw [Function.update_of_ne here, Function.update_of_ne here]
      exact same.imp id fun mem => (List.mem_cons.mp mem).resolve_left here

theorem replay_of_notMem (untouched : page ∉ wal.map Prod.fst) :
    replay wal image page = image page := by
  induction wal generalizing image with
  | nil => rfl
  | cons frame rest ih =>
    have apart : page ≠ frame.1 := fun same => untouched (List.mem_cons.mpr (.inl same))
    have later : page ∉ rest.map Prod.fst := fun mem => untouched (List.mem_cons_of_mem _ mem)
    exact (ih later).trans (Function.update_of_ne apart _ _)

theorem replay_partly (partly : Partly wal image image') :
    replay wal image' = replay wal image := by
  funext page
  by_cases touched : page ∈ wal.map Prod.fst
  · exact replay_congr (.inr touched)
  · refine replay_congr (.inl ?_)
    rcases partly page with same | copied
    · exact same
    · exact copied.trans (replay_of_notMem touched)

theorem replay_replay (wal : List Frame) (image : Image) :
    replay wal (replay wal image) = replay wal image :=
  replay_partly fun _ => .inr rfl

end Replay

section Invariant

variable {pages : List UInt8 → Image} {valid : List UInt8 → Bool} {w w' : World} {d : Disk}

structure Disk.Exact (d : Disk) : Prop where
  truth : d.truth = d.opens
  clean : d.database = none → d.wal = []

def World.Saved (w : World) : Prop :=
  ∀ image, w.disk.opens = some image → ∀ d ∈ w.disks, image ∈ d.snapshots

-- What `apply_pending_restore` has reached
def Phase.Holds (w : World) : Phase → Prop
  | .begin | .validated | .running => True
  | .opened => w.disk.database ≠ none
  | .checkpointed => w.disk.database ≠ none ∧ w.disk.wal = []
  | .copied image => w.disk.wal = [] ∧ w.disk.opens = some image
  | .published =>
    w.disk.wal = [] ∧ ∀ image, w.disk.opens = some image → image ∈ w.disk.snapshots
  | .saved | .walGone | .cleared => w.disk.wal = [] ∧ w.Saved
  | .replaced id => w.disk.pending = none ∧ id ∉ w.completed ∧ id < w.nextId

structure World.Sound (valid : List UInt8 → Bool) (w : World) : Prop where
  disks : ∀ d ∈ w.disks, d.Exact
  pending : ∀ d ∈ w.disks, ∀ pending ∈ d.pending,
    pending ∈ w.passed ∧ pending.1 ∉ w.completed ∧ pending.1 < w.nextId
  passed : ∀ upload ∈ w.passed, valid upload.2 = true
  uploads : ∀ upload ∈ w.uploads, upload.id ∉ w.completed ∧ upload.id < w.nextId ∧
    (upload.validated = true → (upload.id, upload.bytes) ∈ w.passed)
  down : w.phase ≠ .running → w.uploads = []
  numbered : ∀ id ∈ w.completed, id < w.nextId
  once : w.completed.Nodup
  kept : ∀ replacement ∈ w.replacements, ∀ image, replacement.old = some image →
    ∀ snapshots ∈ replacement.kept, image ∈ snapshots
  phase : w.phase.Holds w

theorem mem_disks_alter {disk : Disk} {phase : Phase} (mem : d ∈ (w.alter disk phase).disks) :
    d = disk ∨ d ∈ w.disks := List.mem_cons.mp mem

theorem mem_disks_sync {phase : Phase} (mem : d ∈ (w.sync phase).disks) : d = w.disk :=
  List.mem_singleton.mp mem

theorem disk_mem_disks (w : World) : w.disk ∈ w.disks := List.mem_cons_self

theorem exact_of_opens {disk : Disk} (exact_ : d.Exact) (truth : disk.truth = d.truth)
    (opens : disk.opens = d.opens) (clean : disk.database = none → disk.wal = []) : disk.Exact :=
  ⟨truth.trans (exact_.truth.trans opens.symm), clean⟩

theorem sound_alter {disk : Disk} {phase : Phase} (sound : w.Sound valid) (isExact : disk.Exact)
    (pending : disk.pending = w.disk.pending) (down : phase ≠ .running → w.uploads = [])
    (holds : phase.Holds (w.alter disk phase)) : (w.alter disk phase).Sound valid where
  disks d mem := (mem_disks_alter mem).elim (fun same => same ▸ isExact) (sound.disks d)
  pending d mem := by
    rcases mem_disks_alter mem with rfl | mem
    · rw [pending]
      exact sound.pending _ (disk_mem_disks w)
    · exact sound.pending d mem
  passed := sound.passed
  uploads := sound.uploads
  down := down
  numbered := sound.numbered
  once := sound.once
  kept := sound.kept
  phase := holds

theorem sound_sync {phase : Phase} (sound : w.Sound valid)
    (down : phase ≠ .running → w.uploads = []) (holds : phase.Holds (w.sync phase)) :
    (w.sync phase).Sound valid where
  disks d mem := mem_disks_sync mem ▸ sound.disks _ (disk_mem_disks w)
  pending d mem := by
    cases mem_disks_sync mem
    exact sound.pending _ (disk_mem_disks w)
  passed := sound.passed
  uploads := sound.uploads
  down := down
  numbered := sound.numbered
  once := sound.once
  kept := sound.kept
  phase := holds

theorem opens_checkpoint {image image' : Image} (present : d.database = some image)
    (partly : Partly d.wal image image') :
    ({ d with database := some image' } : Disk).opens = d.opens := by
  simp only [Disk.opens, present, Option.map_some, replay_partly partly]

theorem opens_truncate {image : Image} (present : d.database = some image)
    (whole : replay d.wal image = image) : ({ d with wal := [] } : Disk).opens = d.opens := by
  simp only [Disk.opens, present, Option.map_some, whole]
  rfl

theorem sound_applies (sound : w.Sound valid) (step : Applies pages valid w w') :
    w'.Sound valid := by
  have here := sound.disks _ (disk_mem_disks w)
  have holds := sound.phase
  have down : ∀ {phase : Phase}, w.phase = phase → phase ≠ .running → w.uploads = [] :=
    fun at_ apart => sound.down (at_ ▸ apart)
  cases step with
  | noPending at_ none => exact { sound with down := fun up => absurd rfl up, phase := trivial }
  | validates at_ isThere isValid =>
    exact { sound with down := fun _ => down at_ (fun h => by cases h), phase := trivial }
  | absent at_ none =>
    refine { sound with
      down := fun _ => down at_ (fun h => by cases h)
      phase := ⟨here.clean none, ?_⟩ }
    intro image opens
    simp [Disk.opens, none] at opens
  | opens at_ present =>
    refine { sound with down := fun _ => down at_ (fun h => by cases h), phase := ?_ }
    exact fun none => by rw [present] at none; cases none
  | checkpoints at_ present partly =>
    refine sound_alter sound (exact_of_opens here rfl (opens_checkpoint present partly)
      fun none => by cases none) rfl (fun _ => down at_ (fun h => by cases h)) ?_
    exact fun none => by cases none
  | truncates at_ present whole =>
    refine sound_alter sound (exact_of_opens here rfl (opens_truncate present whole)
      fun _ => rfl) rfl (fun _ => down at_ (fun h => by cases h)) ⟨?_, rfl⟩
    rw [at_] at holds
    exact holds
  | backsUp at_ opens =>
    rw [at_] at holds
    exact { sound with down := fun _ => down at_ (fun h => by cases h), phase := ⟨holds.2, opens⟩ }
  | @publishes image at_ =>
    rw [at_] at holds
    refine sound_alter sound ⟨here.truth, here.clean⟩ rfl (fun _ => down at_ (fun h => by cases h))
      ⟨holds.1, fun other opens => ?_⟩
    have same : w.disk.opens = some other := opens
    cases holds.2.symm.trans same
    exact List.mem_cons_self
  | syncs at_ =>
    rw [at_] at holds
    refine sound_sync sound (fun _ => down at_ (fun h => by cases h))
      ⟨holds.1, fun image opens d mem => ?_⟩
    cases mem_disks_sync mem
    exact holds.2 image opens
  | unlinksWal at_ =>
    rw [at_] at holds
    have same : ({ w.disk with wal := [] } : Disk).opens = w.disk.opens := by
      simp only [Disk.opens, holds.1]
    refine sound_alter sound (exact_of_opens here rfl same fun _ => rfl) rfl
      (fun _ => down at_ (fun h => by cases h)) ⟨rfl, fun image opens d mem => ?_⟩
    rcases mem_disks_alter mem with rfl | mem
    · exact holds.2 image (same ▸ opens) w.disk (disk_mem_disks w)
    · exact holds.2 image (same ▸ opens) d mem
  | unlinksShm at_ =>
    rw [at_] at holds
    refine sound_alter sound ⟨here.truth, here.clean⟩ rfl (fun _ => down at_ (fun h => by cases h))
      ⟨holds.1, fun image opens d mem => ?_⟩
    rcases mem_disks_alter mem with rfl | mem
    · exact holds.2 image opens w.disk (disk_mem_disks w)
    · exact holds.2 image opens d mem
  | @replaces pending at_ isThere =>
    rw [at_] at holds
    have staged := sound.pending _ (disk_mem_disks w) pending isThere
    -- The log is empty by now, so the new file opens as it is.
    have isExact : Disk.Exact { w.disk with
        database := some (pages pending.2)
        pending := none
        truth := some (pages pending.2) } :=
      ⟨by simp [Disk.opens, holds.1, replay], fun none => by cases none⟩
    refine { sound with
      disks := fun d mem => (List.mem_cons.mp mem).elim (fun same => same ▸ isExact) (sound.disks d)
      pending := fun d mem => ?_
      down := fun _ => down at_ (fun h => by cases h)
      kept := fun replacement mem => ?_
      phase := ⟨rfl, staged.2⟩ }
    · rcases List.mem_cons.mp mem with rfl | mem
      · exact fun other isOther => by cases isOther
      · exact sound.pending d mem
    · rcases List.mem_cons.mp mem with rfl | mem
      · intro image opens snapshots isKept
        obtain ⟨d, isDisk, rfl⟩ := List.mem_map.mp isKept
        exact holds.2 image opens d isDisk
      · exact sound.kept replacement mem
  | @completes id at_ =>
    rw [at_] at holds
    have none : w.uploads = [] := down at_ (fun h => by cases h)
    refine { sound with
      disks := fun d mem => List.mem_singleton.mp mem ▸ here
      pending := fun d mem other isOther => ?_
      uploads := fun upload mem => ?_
      down := fun up => absurd rfl up
      numbered := fun other mem => ?_
      once := List.nodup_cons.mpr ⟨holds.2.1, sound.once⟩
      phase := trivial }
    · cases List.mem_singleton.mp mem
      have isOther : other ∈ w.disk.pending := isOther
      rw [holds.1] at isOther
      cases isOther
    · have mem : upload ∈ w.uploads := mem
      rw [none] at mem
      cases mem
    · rcases List.mem_cons.mp mem with rfl | mem
      · exact holds.2.2
      · exact sound.numbered other mem

theorem sound_uploads {uploads : List RestoreUpload} {passed : List (ℕ × List UInt8)}
    (sound : w.Sound valid) (up : w.phase = .running)
    (more : ∀ upload ∈ w.passed, upload ∈ passed)
    (isValid : ∀ upload ∈ passed, valid upload.2 = true)
    (meets : ∀ upload ∈ uploads, upload.id ∉ w.completed ∧ upload.id < w.nextId ∧
      (upload.validated = true → (upload.id, upload.bytes) ∈ passed)) :
    World.Sound valid { w with uploads := uploads, passed := passed } where
  disks := sound.disks
  pending d mem pending isThere :=
    let ⟨isPassed, rest⟩ := sound.pending d mem pending isThere
    ⟨more _ isPassed, rest⟩
  passed := isValid
  uploads := meets
  down apart := absurd up apart
  numbered := sound.numbered
  once := sound.once
  kept := sound.kept
  phase := by
    rw [up]
    trivial

theorem forall_replaced {P : RestoreUpload → Prop} {before after : List RestoreUpload}
    {upload upload' : RestoreUpload} (all : ∀ other ∈ before ++ upload :: after, P other)
    (new : P upload') : ∀ other ∈ before ++ upload' :: after, P other := by
  intro other mem
  rcases List.mem_append.mp mem with mem | mem
  · exact all other (List.mem_append_left _ mem)
  · rcases List.mem_cons.mp mem with rfl | mem
    · exact new
    · exact all other (List.mem_append_right _ (List.mem_cons_of_mem _ mem))

theorem mem_of_mem_removed {before after : List RestoreUpload} {upload other : RestoreUpload}
    (mem : other ∈ before ++ after) : other ∈ before ++ upload :: after :=
  ((List.sublist_cons_self upload after).append_left before).subset mem

theorem sound_uploading (sound : w.Sound valid) (up : w.phase = .running)
    (step : Uploads valid w w') : w'.Sound valid := by
  have all := sound.uploads
  cases step with
  | begins =>
    have later : ∀ {id : ℕ}, id < w.nextId → id < w.nextId + 1 := Nat.lt_succ_of_lt
    refine { sound with
      pending := fun d mem pending isThere => ?_
      uploads := fun upload mem => ?_
      down := fun apart => absurd up apart
      numbered := fun id mem => later (sound.numbered id mem)
      phase := ?_ }
    · have ⟨isPassed, fresh, below⟩ := sound.pending d mem pending isThere
      exact ⟨isPassed, fresh, later below⟩
    · rcases List.mem_cons.mp mem with rfl | mem
      · refine ⟨fun mem => ?_, Nat.lt_succ_self _, fun isTrue => by cases isTrue⟩
        exact Nat.lt_irrefl _ (sound.numbered _ mem)
      · have ⟨fresh, below, isPassed⟩ := all upload mem
        exact ⟨fresh, later below, isPassed⟩
    · rw [show World.phase _ = .running from up]
      trivial
  | @writes before after upload split isOpen data =>
    rw [split] at all
    refine sound_uploads sound up (fun _ mem => mem) sound.passed (forall_replaced all ?_)
    have ⟨fresh, below, _⟩ := all upload (List.mem_append_right _ List.mem_cons_self)
    exact ⟨fresh, below, fun isTrue => by simp [isOpen] at isTrue⟩
  | @validates before after upload split isValid =>
    rw [split] at all
    have ⟨fresh, below, _⟩ := all upload (List.mem_append_right _ List.mem_cons_self)
    have others : ∀ other ∈ before ++ upload :: after,
        other.id ∉ w.completed ∧ other.id < w.nextId ∧ (other.validated = true →
          (other.id, other.bytes) ∈ (upload.id, upload.bytes) :: w.passed) := by
      intro other mem
      have ⟨fresh, below, isPassed⟩ := all other mem
      exact ⟨fresh, below, fun isTrue => List.mem_cons_of_mem _ (isPassed isTrue)⟩
    refine sound_uploads sound up (fun _ mem => List.mem_cons_of_mem _ mem) ?_
      (forall_replaced others ⟨fresh, below, fun _ => List.mem_cons_self⟩)
    intro other mem
    rcases List.mem_cons.mp mem with rfl | mem
    · exact isValid
    · exact sound.passed other mem
  | @abandons before after upload split =>
    rw [split] at all
    exact sound_uploads sound up (fun _ mem => mem) sound.passed
      (forall_replaced all (all upload (List.mem_append_right _ List.mem_cons_self)))
  | @publishes before after upload split passed wanted =>
    rw [split] at all
    have ⟨fresh, below, isPassed⟩ := all upload (List.mem_append_right _ List.mem_cons_self)
    have here := sound.disks _ (disk_mem_disks w)
    refine { sound with
      disks := fun d mem => ?_
      pending := fun d mem => ?_
      uploads := fun other mem => all other (mem_of_mem_removed mem)
      down := fun apart => absurd rfl apart
      phase := trivial }
    · rcases List.mem_cons.mp mem with rfl | mem
      · exact ⟨here.truth, here.clean⟩
      · exact sound.disks d mem
    · rcases List.mem_cons.mp mem with rfl | mem
      · intro pending isThere
        cases isThere
        exact ⟨isPassed passed, fresh, below⟩
      · exact sound.pending d mem
  | syncs => exact sound_sync sound (fun apart => absurd rfl apart) trivial
  | @closes before after upload split =>
    rw [split] at all
    exact sound_uploads sound up (fun _ mem => mem) sound.passed
      fun other mem => all other (mem_of_mem_removed mem)

theorem Disk.commit_pending (frames : List Frame) (d : Disk) :
    (d.commit frames).pending = d.pending := by
  unfold Disk.commit
  split <;> rfl

theorem Disk.Exact.commit {frames : List Frame} (isExact : d.Exact) :
    (d.commit frames).Exact := by
  unfold Disk.commit
  split
  case isTrue => exact isExact
  case isFalse isThere =>
    refine ⟨?_, fun none => absurd (Option.isNone_iff_eq_none.mpr none) isThere⟩
    cases present : d.database with
    | none => exact absurd (by simp [present]) isThere
    | some image =>
      have opened : d.truth = some (replay d.wal image) := by
        rw [isExact.truth, Disk.opens, present, Option.map_some]
      simp only [Disk.opens, Option.map_some, opened, replay_append]

theorem sound_durable {change : Disk → Disk} (sound : w.Sound valid) (up : w.phase = .running)
    (isExact : ∀ d : Disk, d.Exact → (change d).Exact)
    (pending : ∀ d : Disk, (change d).pending = d.pending) :
    World.Sound valid { w with disk := change w.disk, earlier := w.earlier.map change } := by
  have changed : ∀ d ∈ w.disks.map change, ∃ d' ∈ w.disks, change d' = d :=
    fun d mem => List.mem_map.mp mem
  refine { sound with
    disks := fun d mem => ?_
    pending := fun d mem => ?_
    down := fun apart => absurd up apart
    phase := ?_ }
  · obtain ⟨d', isDisk, rfl⟩ := changed d mem
    exact isExact d' (sound.disks d' isDisk)
  · obtain ⟨d', isDisk, rfl⟩ := changed d mem
    rw [pending]
    exact sound.pending d' isDisk
  · rw [show World.phase _ = .running from up]
    trivial

theorem sound_works (sound : w.Sound valid) (up : w.phase = .running) (step : Works w w') :
    w'.Sound valid := by
  have here := sound.disks _ (disk_mem_disks w)
  cases step with
  | commits frames =>
    exact sound_durable sound up (fun d isExact => isExact.commit) (Disk.commit_pending frames)
  | creates image none =>
    exact sound_durable sound up (fun d _ => ⟨rfl, fun none => by cases none⟩) fun d => rfl
  | checkpoints present partly =>
    exact sound_alter sound (exact_of_opens here rfl (opens_checkpoint present partly)
      fun none => by cases none) rfl (fun apart => absurd rfl apart) trivial
  | truncates present whole =>
    exact sound_alter sound (exact_of_opens here rfl (opens_truncate present whole)
      fun _ => rfl) rfl (fun apart => absurd rfl apart) trivial

theorem sound_step (sound : w.Sound valid) (step : Step pages valid w w') : w'.Sound valid := by
  cases step with
  | applies step => exact sound_applies sound step
  | uploads up step => exact sound_uploading sound up step
  | works up step => exact sound_works sound up step
  | @dies disk left =>
    have only : ∀ d ∈ [disk], d = disk := fun d mem => List.mem_singleton.mp mem
    refine { sound with
      disks := fun d mem => only d mem ▸ sound.disks disk left
      pending := fun d mem => ?_
      uploads := fun upload mem => absurd mem List.not_mem_nil
      down := fun _ => rfl
      phase := trivial }
    cases only d mem
    exact sound.pending disk left

theorem sound_start (start : Start valid w) (clean : w.disk.database = none → w.disk.wal = []) :
    w.Sound valid := by
  have only : ∀ d ∈ w.disks, d = w.disk := by
    intro d mem
    rw [World.disks, start.earlier] at mem
    exact List.mem_singleton.mp mem
  have none : ∀ id, id ∉ w.completed := by
    intro id mem
    rw [start.completed] at mem
    cases mem
  refine {
    disks := fun d mem => ?_
    pending := fun d mem pending isThere => ?_
    passed := start.passed
    uploads := fun upload mem => ?_
    down := fun _ => start.uploads
    numbered := fun id mem => absurd mem (none id)
    once := start.completed ▸ List.nodup_nil
    kept := fun replacement mem => ?_
    phase := ?_ }
  · cases only d mem
    exact ⟨start.truth, clean⟩
  · cases only d mem
    have ⟨isPassed, below⟩ := start.pending pending isThere
    exact ⟨isPassed, none _, below⟩
  · rw [start.uploads] at mem
    cases mem
  · rw [start.replacements] at mem
    cases mem
  · rw [start.phase]
    trivial

theorem sound_run {w0 : World} (sound : w0.Sound valid)
    (run : ReflTransGen (Step pages valid) w0 w) : w.Sound valid := by
  induction run with
  | refl => exact sound
  | tail _ step ih => exact sound_step ih step

end Invariant

section Restores

/-- Whatever a crash leaves opens with what it is to, a staged upload is one that passed and has not
been restored yet, and what a restore replaced is in a snapshot that is durable. -/
structure World.Restores (valid : List UInt8 → Bool) (w : World) : Prop where
  opens : ∀ d ∈ w.disks, d.opens = d.truth
  staged : ∀ d ∈ w.disks, ∀ pending ∈ d.pending,
    pending ∈ w.passed ∧ valid pending.2 = true ∧ pending.1 ∉ w.completed
  kept : ∀ replacement ∈ w.replacements, ∀ image, replacement.old = some image →
    ∀ snapshots ∈ replacement.kept, image ∈ snapshots
  once : w.completed.Nodup

variable {pages : List UInt8 → Image} {valid : List UInt8 → Bool} {w0 w : World}

theorem restores_exact (start : Start valid w0)
    (clean : w0.disk.database = none → w0.disk.wal = [])
    (run : ReflTransGen (Step pages valid) w0 w) : w.Restores valid := by
  have sound := sound_run (sound_start start clean) run
  refine ⟨fun d mem => (sound.disks d mem).truth.symm, ?_, sound.kept, sound.once⟩
  intro d mem pending isThere
  have ⟨isPassed, fresh, _⟩ := sound.pending d mem pending isThere
  exact ⟨isPassed, sound.passed pending isPassed, fresh⟩

def sized (bytes : List UInt8) : Image := fun _ => bytes.length

def nonempty (bytes : List UInt8) : Bool := !bytes.isEmpty

def staging (database : Option Image) (wal : List Frame) : World where
  disk := ⟨database, wal, true, some (0, [1, 2]), [], database.map (replay wal)⟩
  earlier := []
  phase := .begin
  uploads := []
  nextId := 1
  passed := [(0, [1, 2])]
  completed := []
  replacements := []

theorem start_staging (database : Option Image) (wal : List Frame) :
    Start nonempty (staging database wal) where
  earlier := rfl
  phase := rfl
  uploads := rfl
  truth := rfl
  pending := by
    intro pending isThere
    cases isThere
    exact ⟨List.mem_cons_self, Nat.one_pos⟩
  passed := by
    intro upload mem
    cases List.mem_singleton.mp mem
    rfl
  completed := rfl
  replacements := rfl

theorem restores_exact_replaced : ∃ w,
    ReflTransGen (Step sized nonempty) (staging (some fun _ => 5) [(0, 7)]) w ∧
      w.completed = [0] ∧ w.disk.opens = some (sized [1, 2]) ∧ w.Restores nonempty := by
  have run := ReflTransGen.refl
    (r := Step sized nonempty) (a := staging (some fun _ => 5) [(0, 7)])
    |>.tail (.applies (.validates rfl rfl rfl))
    |>.tail (.applies (.opens rfl rfl))
    |>.tail (.applies (.checkpoints rfl rfl fun _ => .inr rfl))
    |>.tail (.applies (.truncates rfl rfl (replay_replay _ _)))
    |>.tail (.applies (.backsUp rfl rfl))
    |>.tail (.applies (.publishes rfl))
    |>.tail (.applies (.syncs rfl))
    |>.tail (.applies (.unlinksWal rfl))
    |>.tail (.applies (.unlinksShm rfl))
    |>.tail (.applies (.replaces rfl rfl))
    |>.tail (.applies (.completes rfl))
  exact ⟨_, run, rfl, rfl, restores_exact (start_staging _ _) (fun none => by cases none) run⟩

/-- The log that lies beside no database is replayed into the file that takes its place. -/
theorem log_replayed_into_upload : ∃ w,
    Start nonempty (staging none [(0, 7)]) ∧
      ReflTransGen (Step sized nonempty) (staging none [(0, 7)]) w ∧ w.phase = .running ∧
      w.disk.opens ≠ none ∧ w.disk.opens ≠ some (sized [1, 2]) ∧ ¬ w.Restores nonempty := by
  have run := ReflTransGen.refl (r := Step sized nonempty) (a := staging none [(0, 7)])
    |>.tail (.applies (.validates rfl rfl rfl))
    |>.tail (.applies (.absent rfl rfl))
    |>.tail (.applies (.replaces rfl rfl))
    |>.tail (.applies (.completes rfl))
  have mixed : replay [(0, 7)] (sized [1, 2]) ≠ sized [1, 2] := by
    intro same
    have first := congrFun same 0
    exact absurd first (by decide)
  refine ⟨_, start_staging _ _, run, rfl, Option.some_ne_none _,
    fun same => mixed (Option.some.inj same), fun restores => ?_⟩
  exact mixed (Option.some.inj (restores.opens _ List.mem_cons_self))

end Restores

end DashcamStats.Restore
