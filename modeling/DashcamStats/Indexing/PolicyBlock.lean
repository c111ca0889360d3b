import DashcamStats.Indexing.DamagedPolicy

namespace DashcamStats.Indexing

open Queue (RecordingState)

/-- `probe_json["damaged_policy"]`, with the state before hiding in it -/
structure PolicyBlock where
  previousState : RecordingState
  reason : String
  action : Action
  status : PolicyStatus
  detail : Option String
  appliedAt : ℕ
  deriving DecidableEq

structure ProbeJson where
  warnings : List String
  sourceUnusable : Bool
  sourceDamaged : Bool
  mediaFailureReviewed : Option Bool
  damagedPolicy : Option PolicyBlock
  deriving DecidableEq

structure Recording where
  state : RecordingState
  ignored : Bool
  fileMissing : Bool
  errorMessage : Option String
  probe : ProbeJson
  deriving DecidableEq

def UNUSABLE_WARNING : String := "no usable frame could be decoded"

def mentionsUnusable (warning : String) : Bool :=
  (warning.toList.map Char.toLower).tails.any UNUSABLE_WARNING.toList.isPrefixOf

inductive Deletion where
  | refused (detail : String)
  | carriedOut

namespace Recording

def isDamaged (recording : Recording) : Bool :=
  recording.state = .invalid || recording.probe.sourceUnusable ||
    recording.probe.warnings.any mentionsUnusable

def policed (recording : Recording) : Prop := recording.probe.damagedPolicy.isSome

instance (recording : Recording) : Decidable recording.policed :=
  inferInstanceAs (Decidable (_ = true))

def reason (recording : Recording) : String :=
  match recording.errorMessage with
  | some message => if message.isEmpty then fallback else message
  | none => fallback
where
  fallback : String := recording.probe.warnings.head?.getD "source classified as damaged"

def remembered (recording : Recording) : RecordingState × String :=
  match recording.probe.damagedPolicy with
  | some block => (block.previousState, block.reason)
  | none => (recording.state, recording.reason)

def hide (status : PolicyStatus) (detail : Option String) (now : ℕ) (recording : Recording) :
    Recording :=
  { recording with
    ignored := true
    probe := { recording.probe with
      sourceDamaged := true
      damagedPolicy := some
        { previousState := recording.remembered.1
          reason := recording.remembered.2
          action := .hide
          status := status
          detail := detail
          appliedAt := now } } }

def restore (recording : Recording) : Recording :=
  match recording.probe.damagedPolicy with
  | none => recording
  | some block =>
    if recording.state = .deleted then recording
    else { recording with
      ignored := false
      state := if recording.state = .ignored then block.previousState else recording.state
      probe := { recording.probe with damagedPolicy := none } }

def unlinked (now : ℕ) (recording : Recording) : Recording :=
  { recording with
    state := .deleted
    ignored := true
    fileMissing := true
    probe := { recording.probe with
      sourceDamaged := true
      damagedPolicy := some
        { previousState := recording.remembered.1
          reason := recording.remembered.2
          action := .delete
          status := .deleted
          detail := recording.probe.damagedPolicy.bind PolicyBlock.detail
          appliedAt := now } } }

def isHidden (recording : Recording) : Bool :=
  recording.ignored && recording.probe.damagedPolicy.any (fun block => block.status = .hidden)

def apply (action : Action) (deletion : Deletion) (now : ℕ) (recording : Recording) : Recording :=
  if action = .keep ∨ recording.isDamaged = false then recording.restore
  else if recording.fileMissing then recording
  else if action = .hide then
    if recording.isHidden then recording else recording.hide .hidden none now
  else
    match deletion with
    | .refused detail => recording.hide .deleteBlocked (some detail) now
    | .carriedOut => recording.unlinked now

def carryProbeMarkers (previous fresh : ProbeJson) : ProbeJson :=
  { fresh with
    mediaFailureReviewed := previous.mediaFailureReviewed.or fresh.mediaFailureReviewed
    damagedPolicy := previous.damagedPolicy.or fresh.damagedPolicy }

end Recording

section Coarse

variable {Digest : Type}

def Recording.onto (base : Row Digest) (recording : Recording) : Row Digest :=
  { base with
    state := recording.state
    missing := recording.fileMissing
    ignored := recording.ignored
    probe :=
      { sourceDamaged := recording.probe.sourceDamaged
        sourceUnusable := recording.probe.sourceUnusable
        noUsableFrame := recording.probe.warnings.any mentionsUnusable
        policy := recording.probe.damagedPolicy.map fun block =>
          ⟨block.previousState, block.status⟩ } }

def Deletion.deletable : Deletion → Deletable
  | .refused _ => ⟨false, false, false⟩
  | .carriedOut => ⟨true, true, true⟩

variable (base : Row Digest) (recording : Recording)

theorem isDamaged_onto : Indexing.isDamaged (recording.onto base) = recording.isDamaged := rfl

theorem remembered_onto :
    rememberOriginalState (recording.onto base) = recording.remembered.1 := by
  unfold rememberOriginalState Recording.remembered Recording.onto
  cases recording.probe.damagedPolicy <;> rfl

theorem restore_onto :
    restorePolicyHidden (recording.onto base) = recording.restore.onto base := by
  unfold restorePolicyHidden Recording.restore
  cases block : recording.probe.damagedPolicy with
  | none => simp [Recording.onto, block]
  | some block =>
    by_cases gone : recording.state = .deleted
    · simp [Recording.onto, block, gone]
    · simp [Recording.onto, block, gone]

theorem isHidden_onto : (recording.onto base).ignored ∧
    (recording.onto base).probe.policy.map Policy.status = some .hidden ↔
      recording.isHidden := by
  unfold Recording.isHidden Recording.onto
  cases recording.probe.damagedPolicy <;> simp

theorem apply_onto (action : Action) (deletion : Deletion) (now : ℕ) :
    (applyDamagedPolicy action deletion.deletable (recording.onto base)).row =
      (recording.apply action deletion now).onto base := by
  unfold applyDamagedPolicy Recording.apply
  rw [isDamaged_onto, restore_onto]
  by_cases kept : action = .keep ∨ recording.isDamaged = false
  · simp only [kept, if_true]
  simp only [kept, if_false]
  by_cases missing : recording.fileMissing
  · simp [missing, Recording.onto]
  have present : (recording.onto base).missing = false := by
    simpa [Recording.onto] using missing
  simp only [missing, present, Bool.false_eq_true, if_false]
  by_cases hides : action = .hide
  · simp only [hides, if_true, isHidden_onto]
    split
    · rfl
    · simp only [Row.marked, remembered_onto, Recording.hide]
      rfl
  · simp only [hides, if_false]
    cases deletion with
    | refused detail =>
      simp only [Deletion.deletable, Bool.false_eq_true, false_and, if_false, Row.marked,
        remembered_onto, Recording.hide]
      rfl
    | carriedOut =>
      simp only [Deletion.deletable, and_self, if_true, Row.marked, remembered_onto,
        Recording.unlinked]
      rfl

end Coarse

end DashcamStats.Indexing
