import DashcamStats.Indexing.PolicyBlock
import DashcamStats.Library.Run

namespace DashcamStats.Indexing.Hiding

open Queue (RecordingState)

/-- `user` is the flag as the user last set it. `before` is the state before hiding, or the state
of now where nothing is hidden, and `moved` that the pipeline changed it since. -/
structure World where
  recording : Recording
  user : Bool
  before : RecordingState
  moved : Bool

inductive Event where
  | keeps
  | hides (now : ℕ)
  | deletes (detail : String) (now : ℕ)
  | probes (fresh : ProbeJson)
  | sets (ignored : Bool)
  | pipeline (state : RecordingState) (errorMessage : Option String) (fileMissing : Bool)

def World.applied (w : World) (recording : Recording) : World :=
  { w with
    recording := recording
    before := if recording.policed ∧ w.recording.policed then w.before
      else if recording.policed then w.recording.state
      else recording.state
    moved := if recording.policed ∧ w.recording.policed then w.moved
      else false }

def Event.action (now : ℕ) : Event → Option (Recording → Recording)
  | .keeps => some (·.apply .keep .carriedOut now)
  | .hides _ => some (·.apply .hide .carriedOut now)
  | .deletes detail _ => some (·.apply .delete (.refused detail) now)
  | _ => none

def step (w : World) : Event → World
  | .keeps => w.applied (w.recording.apply .keep .carriedOut 0)
  | .hides now => w.applied (w.recording.apply .hide .carriedOut now)
  | .deletes detail now => w.applied (w.recording.apply .delete (.refused detail) now)
  -- A new probe knows nothing of the policy.
  | .probes fresh =>
    { w with recording := { w.recording with
        probe := Recording.carryProbeMarkers w.recording.probe
          { fresh with damagedPolicy := none } } }
  | .sets ignored => { w with
      recording := { w.recording with ignored := ignored }
      user := ignored }
  | .pipeline state errorMessage fileMissing =>
    { w with
      recording := { w.recording with
        state := state, errorMessage := errorMessage, fileMissing := fileMissing }
      before := if w.recording.policed then w.before else state
      moved := if w.recording.policed then true else w.moved }

def start (recording : Recording) : World :=
  ⟨{ recording with probe := { recording.probe with damagedPolicy := none } }, recording.ignored,
    recording.state, false⟩

structure Undone (w : World) (restored : Recording) : Prop where
  ignored : restored.ignored = w.user
  state : w.moved = false → restored.state = w.before
  block : restored.probe.damagedPolicy = none

def Good (w : World) : Prop :=
  ∀ (action : Action) (deletion : Deletion) (now : ℕ),
    action = .keep ∨ w.recording.isDamaged = false →
      Undone w (w.recording.apply action deletion now)

def Repeats (w : World) (e : Event) : Prop :=
  ∀ (now : ℕ) (act : Recording → Recording), e.action now = some act →
    act (step w e).recording = (step w e).recording

def Relapses (recording : Recording) : Prop :=
  recording.state = .ignored ∧
    recording.probe.damagedPolicy.map PolicyBlock.previousState = some .invalid

def Allowed (w : World) : Event → Prop
  | .keeps => True
  | .hides _ => w.recording.fileMissing = false →
      if w.recording.isDamaged then ¬ w.recording.policed →
        w.recording.ignored = false ∧ w.recording.state ≠ .deleted
      else ¬ Relapses w.recording
  | .deletes _ _ => w.recording.fileMissing = false →
      w.recording.isDamaged = false ∧ ¬ Relapses w.recording
  | .probes _ => True
  | .sets ignored => w.recording.policed → ignored = false
  | .pipeline state _ _ => w.recording.policed → state ≠ .deleted

-- What the ghosts are, in every run.
structure Inv (w : World) : Prop where
  free : ¬ w.recording.policed → w.moved = false ∧ w.before = w.recording.state
  held : w.recording.policed → w.moved = false → w.recording.state = w.before
  remembered : ∀ block, w.recording.probe.damagedPolicy = some block → w.moved = false →
    block.previousState = w.before

variable {w : World} {recording : Recording} {e : Event}

theorem apply_restores {action : Action} (deletion : Deletion) (now : ℕ)
    (kept : action = .keep ∨ recording.isDamaged = false) :
    recording.apply action deletion now = recording.restore := by
  simp [Recording.apply, kept]

theorem not_policed : ¬ recording.policed ↔ recording.probe.damagedPolicy = none := by
  simp [Recording.policed]

theorem restore_of_free (free : ¬ recording.policed) : recording.restore = recording := by
  simp [Recording.restore, not_policed.mp free]

theorem restore_of_deleted (gone : recording.state = .deleted) :
    recording.restore = recording := by
  unfold Recording.restore
  cases recording.probe.damagedPolicy <;> simp [gone]

theorem restore_again : recording.restore.restore = recording.restore := by
  by_cases free : recording.policed
  · by_cases gone : recording.state = .deleted
    · rw [restore_of_deleted gone, restore_of_deleted gone]
    · apply restore_of_free
      obtain ⟨block, here⟩ := Option.isSome_iff_exists.mp free
      simp [Recording.policed, Recording.restore, here, gone]
  · rw [restore_of_free free, restore_of_free free]

theorem good_iff_restored : Good w ↔ Undone w w.recording.restore := by
  constructor
  · intro good
    have kept := good .keep .carriedOut 0 (.inl rfl)
    rwa [apply_restores _ _ (.inl rfl)] at kept
  · intro undone action deletion now kept
    rwa [apply_restores _ _ kept]

theorem good_of_policed (inv : Inv w) (policed : w.recording.policed) :
    Good w ↔ w.user = false ∧ w.recording.state ≠ .deleted := by
  rw [good_iff_restored]
  obtain ⟨block, here⟩ := Option.isSome_iff_exists.mp policed
  by_cases gone : w.recording.state = .deleted
  · rw [restore_of_deleted gone]
    constructor
    · intro undone
      have := undone.block
      rw [here] at this
      cases this
    · rintro ⟨_, kept⟩
      exact absurd gone kept
  · simp only [Recording.restore, here, gone, if_false]
    constructor
    · intro undone
      exact ⟨undone.ignored.symm, gone⟩
    · rintro ⟨user, _⟩
      refine ⟨user.symm, fun still => ?_, rfl⟩
      dsimp only
      split
      · exact inv.remembered block here still
      · exact inv.held policed still

theorem good_of_free (inv : Inv w) (free : ¬ w.recording.policed) :
    Good w ↔ w.recording.ignored = w.user := by
  rw [good_iff_restored, restore_of_free free]
  constructor
  · intro undone
    exact undone.ignored
  · intro same
    exact ⟨same, fun _ => (inv.free free).2.symm, not_policed.mp free⟩

section Apply

variable {deletion : Deletion} {detail : String} {status : PolicyStatus} {now : ℕ}

theorem apply_missing (action : Action) (deletion : Deletion) (now : ℕ)
    (missing : recording.fileMissing = true) :
    recording.apply action deletion now = recording ∨
      recording.apply action deletion now = recording.restore := by
  unfold Recording.apply
  split
  · exact .inr rfl
  · simp

theorem apply_hide (damaged : recording.isDamaged = true)
    (present : recording.fileMissing = false) :
    recording.apply .hide deletion now =
      if recording.isHidden then recording else recording.hide .hidden none now := by
  simp [Recording.apply, damaged, present]

theorem apply_delete (damaged : recording.isDamaged = true)
    (present : recording.fileMissing = false) :
    recording.apply .delete (.refused detail) now =
      recording.hide .deleteBlocked (some detail) now := by
  simp [Recording.apply, damaged, present]

@[simp] theorem isDamaged_hide {text : Option String} :
    (recording.hide status text now).isDamaged = recording.isDamaged := rfl

@[simp] theorem fileMissing_hide {text : Option String} :
    (recording.hide status text now).fileMissing = recording.fileMissing := rfl

@[simp] theorem state_hide {text : Option String} :
    (recording.hide status text now).state = recording.state := rfl

theorem policed_hide {text : Option String} : (recording.hide status text now).policed := rfl

theorem fileMissing_restore : recording.restore.fileMissing = recording.fileMissing := by
  unfold Recording.restore
  cases recording.probe.damagedPolicy with
  | none => rfl
  | some block =>
    dsimp only
    split <;> rfl

theorem isDamaged_restore (sound : recording.isDamaged = false) :
    recording.restore.isDamaged = true ↔ Relapses recording := by
  have other : recording.probe.sourceUnusable = false ∧
      recording.probe.warnings.any mentionsUnusable = false ∧ recording.state ≠ .invalid := by
    simp only [Recording.isDamaged, Bool.or_eq_false_iff, decide_eq_false_iff_not] at sound
    exact ⟨sound.1.2, sound.2, sound.1.1⟩
  unfold Recording.restore Relapses
  cases recording.probe.damagedPolicy with
  | none => simp [sound]
  | some block =>
    by_cases gone : recording.state = .deleted
    · simp [gone, sound]
    · simp only [gone, if_false, Recording.isDamaged, other.1, other.2.1, Bool.or_false,
        decide_eq_true_eq, Option.map_some, Option.some.injEq]
      by_cases passed : recording.state = .ignored
      · simp [passed]
      · simp [passed, other.2.2]

end Apply

section Applied

variable {status : PolicyStatus} {detail : Option String} {now : ℕ}

theorem applied_same (inv : Inv w) : w.applied w.recording = w := by
  unfold World.applied
  by_cases policed : w.recording.policed
  · simp [policed]
  · obtain ⟨still, same⟩ := inv.free policed
    cases w
    simp_all

theorem Inv.restored (inv : Inv w) : Inv (w.applied w.recording.restore) := by
  by_cases policed : w.recording.policed
  · by_cases gone : w.recording.state = .deleted
    · rw [restore_of_deleted gone, applied_same inv]
      exact inv
    · obtain ⟨block, here⟩ := Option.isSome_iff_exists.mp policed
      have free : ¬ w.recording.restore.policed := by
        simp [Recording.policed, Recording.restore, here, gone]
      refine ⟨fun _ => ?_, fun held => absurd held free, ?_⟩
      · simp [World.applied, free]
      · intro block found
        have none := not_policed.mp free
        rw [World.applied] at found
        dsimp only at found
        rw [none] at found
        cases found
  · rw [restore_of_free policed, applied_same inv]
    exact inv

theorem Inv.hidden (inv : Inv w) : Inv (w.applied (w.recording.hide status detail now)) := by
  refine ⟨fun free => absurd policed_hide free, fun _ => ?_, ?_⟩
  · by_cases policed : w.recording.policed
    · simpa [World.applied, policed, policed_hide] using inv.held policed
    · simp [World.applied, policed, policed_hide]
  · intro block found
    have shape : block.previousState = w.recording.remembered.1 := by
      have := Option.some.inj found
      rw [← this]
    rw [shape]
    by_cases policed : w.recording.policed
    · obtain ⟨old, here⟩ := Option.isSome_iff_exists.mp policed
      simpa [World.applied, policed, policed_hide, Recording.remembered, here] using
        inv.remembered old here
    · simp [World.applied, policed, policed_hide, Recording.remembered, not_policed.mp policed]

theorem Good.restored (good : Good w) (inv : Inv w) : Good (w.applied w.recording.restore) := by
  by_cases policed : w.recording.policed
  · have plain := (good_of_policed inv policed).mp good
    obtain ⟨block, here⟩ := Option.isSome_iff_exists.mp policed
    have free : ¬ w.recording.restore.policed := by
      simp [Recording.policed, Recording.restore, here, plain.2]
    refine (good_of_free inv.restored free).mpr ?_
    simp [World.applied, Recording.restore, here, plain.1, plain.2]
  · rw [restore_of_free policed, applied_same inv]
    exact good

theorem good_hidden (inv : Inv w) : Good (w.applied (w.recording.hide status detail now)) ↔
    w.user = false ∧ w.recording.state ≠ .deleted :=
  good_of_policed inv.hidden policed_hide

end Applied

theorem Inv.step (inv : Inv w) (e : Event) : Inv (step w e) := by
  cases e with
  | keeps =>
    simp only [Hiding.step, apply_restores _ _ (Or.inl rfl)]
    exact inv.restored
  | hides now =>
    simp only [Hiding.step]
    cases damaged : w.recording.isDamaged with
    | false =>
      rw [apply_restores _ _ (.inr damaged)]
      exact inv.restored
    | true =>
      cases missing : w.recording.fileMissing with
      | true => simpa [Recording.apply, damaged, missing, applied_same inv] using inv
      | false =>
        rw [apply_hide damaged missing]
        split
        · rwa [applied_same inv]
        · exact inv.hidden
  | deletes detail now =>
    simp only [Hiding.step]
    cases damaged : w.recording.isDamaged with
    | false =>
      rw [apply_restores _ _ (.inr damaged)]
      exact inv.restored
    | true =>
      cases missing : w.recording.fileMissing with
      | true => simpa [Recording.apply, damaged, missing, applied_same inv] using inv
      | false =>
        rw [apply_delete damaged missing]
        exact inv.hidden
  | probes fresh =>
    have same : (Hiding.step w (.probes fresh)).recording.probe.damagedPolicy =
        w.recording.probe.damagedPolicy := by
      simp [Hiding.step, Recording.carryProbeMarkers]
    have policed : (Hiding.step w (.probes fresh)).recording.policed ↔ w.recording.policed := by
      simp [Recording.policed, same]
    refine ⟨fun free => inv.free (fun held => free (policed.mpr held)),
      fun held => inv.held (policed.mp held), fun block found => inv.remembered block ?_⟩
    rwa [same] at found
  | sets ignored => exact ⟨inv.free, inv.held, inv.remembered⟩
  | pipeline state errorMessage fileMissing =>
    by_cases policed : w.recording.policed
    · refine ⟨fun free => absurd policed free, ?_, ?_⟩ <;> simp [Hiding.step, policed]
    · have none := not_policed.mp policed
      have moved := (inv.free policed).1
      refine ⟨?_, ?_, ?_⟩ <;> simp [Hiding.step, Recording.policed, none, moved]

section Exact

variable {deletion : Deletion} {action : Action}

theorem restored_again (now : ℕ) (sound : recording.isDamaged = false)
    (calm : recording.fileMissing = false → ¬ Relapses recording) :
    recording.restore.apply action deletion now = recording.restore := by
  cases missing : recording.fileMissing with
  | true =>
    have gone : recording.restore.fileMissing = true := by rw [fileMissing_restore, missing]
    cases apply_missing action deletion now gone with
    | inl same => exact same
    | inr restored => rw [restored, restore_again]
  | false =>
    have still : recording.restore.isDamaged = false := by
      rw [← Bool.not_eq_true, isDamaged_restore sound]
      exact calm missing
    rw [apply_restores _ _ (.inr still), restore_again]

theorem relapsed_ignored (relapses : Relapses recording) : recording.restore.ignored = false := by
  obtain ⟨passed, found⟩ := relapses
  obtain ⟨block, here, _⟩ := Option.map_eq_some_iff.mp found
  simp [Recording.restore, here, passed]

theorem hide_of_relapsed (action : Action) (detail : String) (now : ℕ)
    (relapses : Relapses recording)
    (sound : recording.isDamaged = false) (present : recording.fileMissing = false)
    (different : action ≠ .keep) :
    recording.restore.apply action (.refused detail) now ≠ recording.restore := by
  have damaged := (isDamaged_restore sound).mpr relapses
  have here : recording.restore.fileMissing = false := by rw [fileMissing_restore, present]
  have shown := relapsed_ignored relapses
  intro same
  have flag := congrArg Recording.ignored same
  rw [shown] at flag
  cases action with
  | keep => exact different rfl
  | hide =>
    rw [apply_hide damaged here] at flag
    simp [Recording.isHidden, shown, Recording.hide] at flag
  | delete =>
    rw [apply_delete damaged here] at flag
    simp [Recording.hide] at flag

theorem apply_hide_deletion (other : Deletion) {now : ℕ} :
    recording.apply .hide deletion now = recording.apply .hide other now := by
  simp [Recording.apply]

theorem allowed_hides (inv : Inv w) (good : Good w) (now : ℕ) :
    Allowed w (.hides now) ↔ Good (step w (.hides now)) ∧ Repeats w (.hides now) := by
  have repeats : Repeats w (.hides now) ↔ ∀ later,
      (w.recording.apply .hide .carriedOut now).apply .hide .carriedOut later =
        w.recording.apply .hide .carriedOut now := by
    simp [Repeats, Event.action, step, World.applied]
  rw [repeats]
  simp only [Allowed, step]
  cases damaged : w.recording.isDamaged with
  | false =>
    simp only [Bool.false_eq_true, if_false, apply_restores _ _ (Or.inr damaged)]
    constructor
    · intro calm
      exact ⟨good.restored inv, fun later => restored_again later damaged calm⟩
    · rintro ⟨_, same⟩ present relapses
      have again := hide_of_relapsed .hide "" 0 relapses damaged present (by decide)
      rw [apply_hide_deletion .carriedOut] at again
      exact again (same 0)
  | true =>
    cases missing : w.recording.fileMissing with
    | true =>
      have same : ∀ later, w.recording.apply .hide .carriedOut later = w.recording := by
        intro later
        simp [Recording.apply, damaged, missing]
      simp only [same, applied_same inv]
      simp [good]
    | false =>
      simp only [if_true, forall_const]
      by_cases hidden : w.recording.isHidden
      · have same : ∀ later, w.recording.apply .hide .carriedOut later = w.recording := by
          intro later
          simp [apply_hide damaged missing, hidden]
        have policed : w.recording.policed := by
          have := hidden
          simp only [Recording.isHidden, Bool.and_eq_true] at this
          cases block : w.recording.probe.damagedPolicy with
          | none => simp [block] at this
          | some _ => simp [Recording.policed, block]
        simp only [same, applied_same inv]
        simp [good, policed]
      · have marked : w.recording.apply .hide .carriedOut now =
            w.recording.hide .hidden none now := by
          rw [apply_hide damaged missing, if_neg hidden]
        have again : ∀ later, (w.recording.hide .hidden none now).apply .hide .carriedOut later =
            w.recording.hide .hidden none now := by
          intro later
          have done : (w.recording.hide .hidden none now).isHidden = true := rfl
          rw [apply_hide (by simpa using damaged) (by simpa using missing), if_pos done]
        rw [marked, good_hidden inv]
        by_cases policed : w.recording.policed
        · have plain := (good_of_policed inv policed).mp good
          simp [policed, plain, again]
        · have plain := (good_of_free inv policed).mp good
          simp [policed, ← plain, again]

theorem allowed_deletes (inv : Inv w) (good : Good w) (detail : String) (now : ℕ) :
    Allowed w (.deletes detail now) ↔
      Good (step w (.deletes detail now)) ∧ Repeats w (.deletes detail now) := by
  have repeats : Repeats w (.deletes detail now) ↔ ∀ later,
      (w.recording.apply .delete (.refused detail) now).apply .delete (.refused detail) later =
        w.recording.apply .delete (.refused detail) now := by
    simp [Repeats, Event.action, step, World.applied]
  rw [repeats]
  simp only [Allowed, step]
  cases damaged : w.recording.isDamaged with
  | false =>
    simp only [true_and, apply_restores _ _ (Or.inr damaged)]
    constructor
    · intro calm
      exact ⟨good.restored inv, fun later => restored_again later damaged calm⟩
    · rintro ⟨_, same⟩ present relapses
      exact hide_of_relapsed .delete detail 0 relapses damaged present (by decide) (same 0)
  | true =>
    cases missing : w.recording.fileMissing with
    | true =>
      have same : ∀ later, w.recording.apply .delete (.refused detail) later = w.recording := by
        intro later
        simp [Recording.apply, damaged, missing]
      simp only [same, applied_same inv]
      simp [good]
    | false =>
      simp only [Bool.true_eq_false, false_and, forall_const, false_iff, not_and, not_forall]
      intro _
      refine ⟨now + 1, fun same => ?_⟩
      rw [apply_delete damaged missing, apply_delete (by simpa using damaged)
        (by simpa using missing)] at same
      -- the time of the second refusal is written over the first
      have times := congrArg (fun r => r.probe.damagedPolicy.map PolicyBlock.appliedAt) same
      simp [Recording.hide] at times

theorem allowed_iff (inv : Inv w) (good : Good w) (e : Event) :
    Allowed w e ↔ Good (step w e) ∧ Repeats w e := by
  cases e with
  | keeps =>
    simp only [Allowed, true_iff]
    refine ⟨?_, ?_⟩
    · simp only [step, apply_restores _ _ (Or.inl rfl)]
      exact good.restored inv
    · rintro now act ⟨⟩
      simp only [step, World.applied, apply_restores _ _ (Or.inl rfl)]
      exact restore_again
  | hides now => exact allowed_hides inv good now
  | deletes detail now => exact allowed_deletes inv good detail now
  | probes fresh =>
    have same : (step w (.probes fresh)).recording.probe.damagedPolicy =
        w.recording.probe.damagedPolicy := by
      simp [step, Recording.carryProbeMarkers]
    have repeats : Repeats w (.probes fresh) := by
      rintro now act ⟨⟩
    simp only [Allowed, true_iff]
    refine ⟨?_, repeats⟩
    by_cases policed : w.recording.policed
    · have still : (step w (.probes fresh)).recording.policed := by
        rwa [Recording.policed, same]
      exact (good_of_policed (inv.step _) still).mpr ((good_of_policed inv policed).mp good)
    · have still : ¬ (step w (.probes fresh)).recording.policed := by
        rwa [Recording.policed, same]
      exact (good_of_free (inv.step _) still).mpr ((good_of_free inv policed).mp good)
  | sets ignored =>
    have repeats : Repeats w (.sets ignored) := by
      rintro now act ⟨⟩
    simp only [Allowed]
    by_cases policed : w.recording.policed
    · have plain := (good_of_policed inv policed).mp good
      have still : (step w (.sets ignored)).recording.policed := policed
      rw [good_of_policed (inv.step _) still]
      simp [policed, step, plain.2, repeats]
    · have still : ¬ (step w (.sets ignored)).recording.policed := policed
      rw [good_of_free (inv.step _) still]
      simp [policed, step, repeats]
  | pipeline state errorMessage fileMissing =>
    have repeats : Repeats w (.pipeline state errorMessage fileMissing) := by
      rintro now act ⟨⟩
    simp only [Allowed]
    by_cases policed : w.recording.policed
    · have plain := (good_of_policed inv policed).mp good
      have still : (step w (.pipeline state errorMessage fileMissing)).recording.policed := policed
      rw [good_of_policed (inv.step _) still]
      simp [policed, step, plain.1, repeats]
    · have plain := (good_of_free inv policed).mp good
      have still : ¬ (step w (.pipeline state errorMessage fileMissing)).recording.policed :=
        policed
      rw [good_of_free (inv.step _) still]
      simp [policed, step, plain, repeats]

end Exact

theorem inv_start (recording : Recording) : Inv (start recording) := by
  refine ⟨fun _ => ⟨rfl, rfl⟩, fun held => ?_, ?_⟩ <;> simp [start, Recording.policed] at *

theorem good_start (recording : Recording) : Good (start recording) :=
  (good_of_free (inv_start recording) (by simp [start, Recording.policed])).mpr rfl

def Steps (w : World) (e : Event) (t : World) : Prop := t = step w e

def KeptStep (w : World) (e : Event) (t : World) : Prop := Steps w e t ∧ Good t ∧ Repeats w e

/-- From a recording that the policy has not hidden: the runs of allowed steps are exactly those in
which hiding can be undone throughout and no repeated action changes anything. -/
theorem undone_iff (recording : Recording) (events : List Event) (t : World) :
    Run Steps Allowed (start recording) events t ↔
      Run KeptStep anyStep (start recording) events t := by
  apply Run.iff_kept Inv Good (fun w e _ => Repeats w e)
  · rintro w e t inv rfl
    exact inv.step e
  · rintro w e t inv good rfl
    exact allowed_iff inv good e
  · exact inv_start recording
  · exact good_start recording

section Instance

def brokenRecording (ignored : Bool) : Recording :=
  ⟨.invalid, ignored, false, none, ⟨[], true, false, none, none⟩⟩

theorem not_kept {recording : Recording} {e : Event} (refused : ¬ Allowed (start recording) e) :
    Run Steps anyStep (start recording) [e] (step (start recording) e) ∧
      ¬ Run KeptStep anyStep (start recording) [e] (step (start recording) e) := by
  refine ⟨by simpa using Run.tail .refl trivial rfl, fun run => refused ?_⟩
  exact (allowed_iff (inv_start _) (good_start _) e).mpr run.step_of_singleton.2

/-- A refused deletion that is repeated writes a new time, and a recording that the user had
ignored is shown again. -/
theorem not_undone :
    (∃ t, Run Steps anyStep (start (brokenRecording false)) [.deletes "read-only" 1] t ∧
      ¬ Run KeptStep anyStep (start (brokenRecording false)) [.deletes "read-only" 1] t) ∧
    ∃ t, Run Steps anyStep (start (brokenRecording true)) [.hides 1] t ∧
      ¬ Run KeptStep anyStep (start (brokenRecording true)) [.hides 1] t := by
  refine ⟨⟨_, not_kept ?_⟩, ⟨_, not_kept ?_⟩⟩
  · intro allowed
    have := (allowed rfl).1
    cases this
  · intro allowed
    have := (allowed rfl) (by simp [start, Recording.policed])
    cases this.1

end Instance

end DashcamStats.Indexing.Hiding
