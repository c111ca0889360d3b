import DashcamStats.Library.Follow
import DashcamStats.UnitLogs.Reconciled

namespace DashcamStats.UnitLogs

open Follow Relation

variable {sha256 : Text → Digest} {world world' : World} {records : List Record}

attribute [local simp] Head.step

theorem parse_absent (sha256 : Text → Digest) : ∃ raw,
    levelReceiptRead sha256 none = some raw ∧ parseLevelReceipt sha256 raw = some (none, []) :=
  ⟨_, rfl, rfl⟩

theorem World.Kept.parsed (kept : world.Kept records) {raw : Text} {token : Option Text}
    {previous : List Record} (read : levelReceiptRead sha256 world.head.receipt = some raw)
    (parsed : parseLevelReceipt sha256 raw = some (token, previous)) : previous = records := by
  obtain ⟨absent, empty⟩ | ⟨file, present, text⟩ := kept.left
  · obtain ⟨raw', read', parsed'⟩ := parse_absent sha256
    rw [absent, read'] at read
    rw [← Option.some.inj read, parsed'] at parsed
    rw [empty]
    exact (congrArg Prod.snd (Option.some.inj parsed)).symm
  · obtain ⟨raw', read', parsed'⟩ := parse_read sha256 kept.fit text
    rw [present, read'] at read
    rw [← Option.some.inj read, parsed'] at parsed
    exact (congrArg Prod.snd (Option.some.inj parsed)).symm

theorem World.Kept.recorded' (kept : world.Kept records) : world.Recorded sha256 where
  accepted file present := by
    obtain ⟨absent, -⟩ | ⟨file', present', text⟩ := kept.left
    · rw [absent] at present
      cases present
    · have same : file' = file := Option.some.inj (present'.symm.trans present)
      obtain ⟨raw, read, parsed⟩ := parse_read sha256 kept.fit (same ▸ text)
      exact ⟨raw, read, by rw [parsed]; rfl⟩
  original file raw token previous present read parsed record among stands := by
    have same := kept.parsed (by rw [present]; exact read) parsed
    rw [same] at among
    exact kept.origin record among (kept.stands record among stands)

theorem World.Sound.starts (sound : world.Sound records) {levels : Levels} {head : Head}
    (h : world.head.start sha256 levels = some head) :
    World.Sound { world with head } records := by
  unfold Head.start at h
  split at h
  · simp at h
  · rename_i raw read
    split at h
    · simp at h
    · rename_i token previous parsed
      have same := sound.kept.parsed read parsed
      subst same
      split at h
      · rename_i checked
        obtain ⟨plan, planned, rfl⟩ := Option.map_eq_some_iff.mp h
        have kept := sound.kept
        have planned := kept.plans checked.1 planned
        exact ⟨⟨kept.left, kept.fit, kept.blank, kept.origin, kept.stands, kept.mine, kept.free,
          kept.recorded, kept.readable⟩, ⟨planned.apart, planned.few, fun entry among =>
            have due := planned.due entry among
            ⟨due.fit, due.blank, due.origin, due.kind⟩,
          planned.before, planned.after, planned.covers, planned.frees⟩⟩
      · simp at h

theorem World.Sound.due (sound : world.Sound records) {levels : Levels} {done rest : List Entry}
    {entry : Entry} (control : world.head.control = .applying levels done (entry :: rest)) :
    entry.before = getprop (world.head.props entry.tag) ∧ world.Due levels entry := by
  have h := sound.control
  rw [control] at h
  exact ⟨h.2.before entry (by simp), h.2.due entry (by simp)⟩

theorem World.Sound.step (sound : world.Sound records) {event : Event}
    (foreign : event.Foreign world) (plain : event.Plain)
    (h : world.step sha256 event = some world') : ∃ records', world'.Sound records' := by
  obtain ⟨head, moved, rfl⟩ := Option.map_eq_some_iff.mp h
  cases control : world.head.control with
  | idle =>
    cases event with
    | start levels =>
      simp only [Head.step, control] at moved
      exact ⟨records, by simpa only [World.remember, control] using sound.starts moved⟩
    | outside tag value =>
      simp only [Head.step, control, Option.some.injEq] at moved
      subst moved
      have disturbed := sound.disturbed control foreign plain.1 plain.2
      exact ⟨records, by simpa only [World.remember, control] using disturbed⟩
    | cut =>
      simp only [Head.step, Option.some.injEq] at moved
      subst moved
      exact ⟨records, by simpa only [World.remember, control] using sound.cut⟩
    | reboot =>
      simp only [Head.step, Option.some.injEq] at moved
      subst moved
      exact ⟨records, by simpa only [World.remember, control] using sound.rebooted⟩
    | publish | set | finish => simp [Head.step, control] at moved
  | planned levels plan =>
    cases event with
    | publish device inode uid =>
      simp only [Head.step, control, Option.some.injEq] at moved
      subst moved
      have published := sound.published control device inode uid
      exact ⟨_, by simpa only [World.remember, control] using published⟩
    | cut =>
      simp only [Head.step, Option.some.injEq] at moved
      subst moved
      exact ⟨records, by simpa only [World.remember, control] using sound.cut⟩
    | reboot =>
      simp only [Head.step, Option.some.injEq] at moved
      subst moved
      exact ⟨records, by simpa only [World.remember, control] using sound.rebooted⟩
    | start | set | finish | outside => simp [Head.step, control] at moved
  | applying levels done rest =>
    cases event with
    | set =>
      cases rest with
      | nil => simp [Head.step, control] at moved
      | cons entry rest =>
        have before := (sound.due control).1.symm
        simp only [Head.step, control, before, if_true, Option.some.injEq] at moved
        subst moved
        have applied := sound.applied control
        exact ⟨records, by
          simpa only [World.remember, control, before, if_true, World.apply] using applied⟩
    | finish device inode uid =>
      cases rest with
      | nil =>
        simp only [Head.step, control, Option.some.injEq] at moved
        subst moved
        have finished := sound.finished control device inode uid
        exact ⟨_, by simpa only [World.remember, control] using finished⟩
      | cons entry rest => simp [Head.step, control] at moved
    | cut =>
      simp only [Head.step, Option.some.injEq] at moved
      subst moved
      exact ⟨records, by simpa only [World.remember, control] using sound.cut⟩
    | reboot =>
      simp only [Head.step, Option.some.injEq] at moved
      subst moved
      exact ⟨records, by simpa only [World.remember, control] using sound.rebooted⟩
    | start | publish | outside => simp [Head.step, control] at moved

theorem World.Sound.changes (sound : world.Sound records) {levels : Levels}
    {done rest : List Entry} (h : world.step sha256 .set = some world')
    (control : world.head.control = .applying levels done rest) (tag : Text)
    (changed : world'.head.props tag ≠ world.head.props tag) :
    levels.lookup tag = some (world'.head.props tag) ∨
      (levels.lookup tag = none ∧
        (world.ours tag = true ∨ (legacy tag = true ∧ world.head.props tag = ['E'])) ∧
        ∃ original, world.Origin tag original ∧ world'.head.props tag = setting original) := by
  obtain ⟨head, moved, rfl⟩ := Option.map_eq_some_iff.mp h
  cases rest with
  | nil => simp [Head.step, control] at moved
  | cons entry rest =>
    obtain ⟨before, due⟩ := sound.due control
    simp only [Head.step, control, before.symm, if_true, Option.some.injEq] at moved
    subst moved
    by_cases same : tag = entry.tag
    · subst same
      simp only [Function.update_self] at changed ⊢
      obtain ⟨desired, -, set⟩ | ⟨dropped, -, target⟩ := due.kind
      · refine .inl ?_
        rw [desired, setting, if_neg set]
      · refine .inr ⟨dropped, ?_, entry.original, due.origin, by rw [target]⟩
        by_cases ours : world.ours entry.tag = true
        · exact .inl ours
        · have free := sound.kept.free entry.tag (by simpa using ours)
          obtain same | ⟨old, level, -⟩ := due.origin
          · exact absurd (by rw [target, same, free]) changed
          · exact .inr ⟨old, by rw [free, level]⟩
    · simp [same] at changed

theorem World.Sound.completed (sound : world.Sound records) {levels : Levels} {done : List Entry}
    {device inode uid : UInt64} (h : world.step sha256 (.finish device inode uid) = some world')
    (control : world.head.control = .applying levels done []) :
    (∀ tag level, levels.lookup tag = some level → world'.head.props tag = level) ∧
      ∀ tag, levels.lookup tag = none → world'.ours tag = false := by
  have planned : world.Planned levels done [] := by
    have h := sound.control
    rw [control] at h
    exact h.2
  obtain ⟨head, moved, rfl⟩ := Option.map_eq_some_iff.mp h
  simp only [Head.step, control, Option.some.injEq] at moved
  subst moved
  constructor
  · intro tag level desired
    obtain ⟨entry, among, rfl⟩ := List.mem_map.mp (planned.covers tag level desired)
    have after := planned.after entry (by simpa using among)
    obtain ⟨asked, -, set⟩ | ⟨dropped, -⟩ := (planned.due entry among).kind
    · have same : entry.target = level := Option.some.inj (asked.symm.trans desired)
      rw [setting, if_neg set, same] at after
      exact after
    · rw [dropped] at desired
      cases desired
  · intro tag dropped
    simp only [World.remember, control, World.leave]
    by_contra ours
    simpa using planned.frees tag dropped (by simpa using ours)

theorem World.Sound.faithful (sound : world.Sound records) {event : Event}
    (h : world.step sha256 event = some world') : world.Faithful event world' where
  changes levels done rest set control tag changed := by
    subst set
    exact sound.changes h control tag changed
  keeps tag set reboot outside := by
    obtain ⟨head, moved, rfl⟩ := Option.map_eq_some_iff.mp h
    cases event with
    | set => exact absurd rfl set
    | reboot => exact absurd rfl reboot
    | start levels =>
      cases control : world.head.control <;> simp only [Head.step, control, reduceCtorEq] at moved
      unfold Head.start at moved
      repeat' split at moved
      all_goals try (simp at moved; done)
      obtain ⟨plan, -, rfl⟩ := Option.map_eq_some_iff.mp moved
      rfl
    | publish | finish =>
      simp only [Head.step] at moved
      split at moved <;> simp_all
      all_goals rw [← moved]
    | cut =>
      simp only [Head.step, Option.some.injEq] at moved
      rw [← moved]
    | outside other value =>
      have different : tag ≠ other := fun same => outside value (by rw [same])
      cases control : world.head.control <;> simp only [Head.step, control, reduceCtorEq] at moved
      rw [← Option.some.inj moved]
      simp [different]
  completed levels done device inode uid finish control := by
    subst finish
    exact sound.completed h control

theorem Sound.fresh : World.Sound .fresh [] where
  kept := {
    left := .inl ⟨rfl, rfl⟩
    fit := ⟨by simp, by simp, by simp [maxManagedTags]⟩
    blank := by simp
    origin := by simp
    stands := by simp
    mine := by simp [World.fresh]
    free := fun _ _ => rfl
    recorded := by simp
    readable := fun _ => readable_nil }
  control := trivial

instance (world : World) (event : Event) : Decidable (event.Foreign world) :=
  match event with
  | .outside tag value => inferInstanceAs (Decidable (value = [] ∨ value ∉ world.recorded tag))
  | .start _ | .publish .. | .set | .finish .. | .cut | .reboot => inferInstanceAs (Decidable True)

instance (world : World) (tag original : Text) : Decidable (world.Origin tag original) :=
  inferInstanceAs (Decidable (_ ∨ _))

def World.foreignStep (sha256 : Text → Digest) (event : Event) (world : World) : Option World :=
  if event.Foreign world then world.step sha256 event else none

theorem World.foreignStep_spec {event : Event}
    (h : world.foreignStep sha256 event = some world') :
    event.Foreign world ∧ world.step sha256 event = some world' := by
  unfold World.foreignStep at h
  split at h
  · rename_i foreign
    exact ⟨foreign, h⟩
  · simp at h

def World.misremembers (sha256 : Text → Digest) (world : World) : Bool :=
  match levelReceiptRead sha256 world.head.receipt with
  | some raw =>
    match parseLevelReceipt sha256 raw with
    | some (_, records) => records.any fun record =>
        world.stands record.tag && !decide (world.Origin record.tag record.original)
    | none => false
  | none => false

theorem World.Recorded.remembers (recorded : world.Recorded sha256)
    (present : world.head.receipt.isSome = true) : world.misremembers sha256 = false := by
  obtain ⟨file, present⟩ := Option.isSome_iff_exists.mp present
  unfold World.misremembers
  rw [present]
  split
  · rename_i raw read
    split
    · rename_i token records parsed
      refine List.any_eq_false.mpr fun record among lost => ?_
      simp only [Bool.and_eq_true, Bool.not_eq_true', decide_eq_false_iff_not] at lost
      have origin := recorded.original file raw token records present read parsed record among
      exact lost.2 (origin lost.1)
    · rfl
  · rfl

/-- In every run in which nobody sets a property to a value that reads as another one, every receipt
is accepted and knows what the properties were, and every step is faithful. -/
theorem levels_reconcile (sha256 : Text → Digest) {world : World}
    (run : ReflTransGen (PlainStep sha256) .fresh world) :
    world.Recorded sha256 ∧ ∀ (event : Event) (world' : World),
      world.step sha256 event = some world' → world.Faithful event world' := by
  obtain ⟨records, sound⟩ : ∃ records, world.Sound records := by
    induction run with
    | refl => exact ⟨[], Sound.fresh⟩
    | tail _ last ih =>
      obtain ⟨records, sound⟩ := ih
      obtain ⟨event, ⟨foreign, plain⟩, h⟩ := last
      exact sound.step foreign plain h
  exact ⟨sound.kept.recorded', fun event world' h => sound.faithful h⟩

def oneTagDigest : Digest :=
  ⟨"5a19c1e18631fb2c1f674fb8992e3ee6caa0467409e7f51dd4500f6974320dc1".toList, by decide +kernel⟩

theorem levels_reconcile_once : ∃ world : World, world.head.receipt.isSome = true ∧
    world.Recorded fun _ => oneTagDigest := by
  have left : ((follow (World.foreignStep fun _ => oneTagDigest)
      [.start [(['x'], ['E'])], .publish 1 2 3] .fresh).any fun world =>
        world.head.receipt.isSome) = true := by decide +kernel
  obtain ⟨world, run, present⟩ := follow_any left
  refine ⟨world, present, (levels_reconcile (fun _ => oneTagDigest)
    (ReflTransGen.mono ?_ _ _ run)).1⟩
  rintro before after ⟨event, among, h⟩
  obtain ⟨foreign, step⟩ := World.foreignStep_spec h
  refine ⟨event, ⟨foreign, ?_⟩, step⟩
  simp only [List.mem_cons, List.not_mem_nil, or_false] at among
  obtain rfl | rfl := among <;> trivial

/-- A property that another party has set to `-` is recorded as one that was not set. -/
theorem hyphen_misremembered : ¬ ∀ world : World,
    ReflTransGen (Step fun _ => oneTagDigest) .fresh world →
      world.Recorded fun _ => oneTagDigest := by
  intro claim
  have left : ((follow (World.foreignStep fun _ => oneTagDigest)
      [.outside ['x'] ['-'], .start [(['x'], ['E'])], .publish 1 2 3] .fresh).any fun world =>
        world.head.receipt.isSome && world.misremembers fun _ => oneTagDigest) = true := by
    decide +kernel
  obtain ⟨world, run, wrong⟩ := follow_any left
  simp only [Bool.and_eq_true] at wrong
  have recorded := claim world (ReflTransGen.mono (fun before after ⟨event, _, h⟩ =>
    ⟨event, World.foreignStep_spec h⟩) _ _ run)
  rw [recorded.remembers wrong.1] at wrong
  cases wrong.2

end DashcamStats.UnitLogs
