import DashcamStats.Library.Run

namespace DashcamStats.Transfer

universe u v

variable {Bytes : Type u} {Digest : Type v}

inductive Node (Bytes : Type u) where
  | file (bytes : Bytes)
  | link (resolves : Bool)
deriving DecidableEq

-- `[ -e path ]`
def pathExists : Option (Node Bytes) → Bool
  | none => false
  | some (.file _) => true
  | some (.link resolves) => resolves

-- `[ -f path ]`, which follows a link to the regular file behind it.
def isFile : Option (Node Bytes) → Bool
  | none => false
  | some (.file _) => true
  | some (.link resolves) => resolves

-- `[ -L path ]`
def isLink : Option (Node Bytes) → Bool
  | some (.link _) => true
  | _ => false

inductive Command where
  | testFile | testLink | testTombstone | isolate | hash
  | remove | testRemoved | testVacated | reportDeleted
  | testVacant | restore | reportRetained
  | done
deriving DecidableEq

inductive Output where
  | deleted | retained
deriving DecidableEq

structure Shell (Bytes : Type u) where
  remotePath : Option (Node Bytes)
  tombstone : Option (Node Bytes)
  next : Command
  output : Option Output
  -- History: what the first `mv` took away.
  moved : Option (Node Bytes)
  /-- History: the contents installed at the public pathname, without those whose last copy
  the producer has renamed over. -/
  owed : List Bytes
deriving DecidableEq

inductive Event (Bytes : Type u) where
  -- A producer renames a finished bundle over the public pathname.
  | produce (bytes : Bytes)
  -- The shell runs its next command; `mv`, `sha256sum` and `rm` may fail.
  | command (fails : Bool)
  | interrupt

def contents : Option (Node Bytes) → Option Bytes
  | some (.file bytes) => some bytes
  | _ => none

@[simp] theorem mem_contents {node : Option (Node Bytes)} {bytes : Bytes} :
    bytes ∈ contents node ↔ node = some (.file bytes) := by
  unfold contents
  split <;> simp_all

-- `sha256sum path`
def digestOf (sha256 : Bytes → Digest) (node : Option (Node Bytes)) : Option Digest :=
  (contents node).map sha256

namespace Shell

def goto (s : Shell Bytes) (next : Command) : Shell Bytes := { s with next := next }

def forgo [DecidableEq Bytes] (s : Shell Bytes) : List Bytes :=
  match s.remotePath with
  | some (.file bytes) =>
    if s.tombstone = some (.file bytes) then s.owed else s.owed.filter (· ≠ bytes)
  | _ => s.owed

def produce [DecidableEq Bytes] (s : Shell Bytes) (bytes : Bytes) : Shell Bytes :=
  { s with remotePath := some (.file bytes), owed := bytes :: s.forgo }

-- A test that ends the `&&` chain when it does not hold.
def demand (s : Shell Bytes) (holds : Bool) (next : Command) : Shell Bytes :=
  s.goto (if holds then next else .done)

def command [DecidableEq Digest] (sha256 : Bytes → Digest) (h : Digest) (s : Shell Bytes)
    (fails : Bool) : Option (Shell Bytes) :=
  match s.next with
  | .testFile => some (s.demand (isFile s.remotePath) .testLink)
  | .testLink => some (s.demand (!isLink s.remotePath) .testTombstone)
  | .testTombstone => some (s.demand (!pathExists s.tombstone) .isolate)
  | .isolate =>
    match s.remotePath, fails with
    | some node, false =>
      some { s with remotePath := none, tombstone := some node, moved := some node, next := .hash }
    | _, _ => some (s.goto .done)
  | .hash =>
    -- `set -- $(..)` succeeds whatever `sha256sum` does; a failure leaves "$1" empty
    if !fails && digestOf sha256 s.tombstone = some h then some (s.goto .remove)
    else some (s.goto .testVacant)
  | .remove =>
    if fails then some (s.goto .done)
    else some { s with tombstone := none, next := .testRemoved }
  | .testRemoved => some (s.demand (!pathExists s.tombstone) .testVacated)
  | .testVacated => some (s.demand (!pathExists s.remotePath) .reportDeleted)
  | .reportDeleted => some { s with output := some .deleted, next := .done }
  | .testVacant =>
    some (s.goto (if pathExists s.remotePath then .reportRetained else .restore))
  | .restore =>
    match s.tombstone, fails with
    | some node, false =>
      some { s with remotePath := some node, tombstone := none, next := .reportRetained }
    | _, _ => some (s.goto .reportRetained)
  | .reportRetained => some { s with output := some .retained, next := .done }
  | .done => none

def step [DecidableEq Bytes] [DecidableEq Digest] (sha256 : Bytes → Digest) (h : Digest)
    (s : Shell Bytes) : Event Bytes → Option (Shell Bytes)
  | .produce bytes => some (s.produce bytes)
  | .command fails => s.command sha256 h fails
  | .interrupt => some (s.goto .done)

structure Start (s : Shell Bytes) : Prop where
  next : s.next = .testFile
  output : s.output = none
  moved : s.moved = none
  owed : ∀ bytes, bytes ∈ s.owed ↔ s.remotePath = some (.file bytes)

def Present (s : Shell Bytes) (bytes : Bytes) : Prop :=
  s.remotePath = some (.file bytes) ∨ s.tombstone = some (.file bytes)

instance [DecidableEq Bytes] (s : Shell Bytes) (bytes : Bytes) : Decidable (s.Present bytes) :=
  inferInstanceAs (Decidable (_ ∨ _))

/-- Every content installed at the public pathname that is not the verified one is still
there or at the tombstone, the producer's own replacements apart. -/
def Preserved (sha256 : Bytes → Digest) (h : Digest) (s : Shell Bytes) : Prop :=
  ∀ bytes ∈ s.owed, sha256 bytes ≠ h → s.Present bytes

instance [DecidableEq Bytes] [DecidableEq Digest] (sha256 : Bytes → Digest) (h : Digest)
    (s : Shell Bytes) : Decidable (s.Preserved sha256 h) :=
  inferInstanceAs (Decidable (∀ bytes ∈ s.owed, _))

def DeletedVerified (sha256 : Bytes → Digest) (h : Digest) (s : Shell Bytes) : Prop :=
  s.output = some .deleted → digestOf sha256 s.moved = some h

/-- The restoring `mv` finds the public pathname without contents of its own: nothing, the
verified contents, or the very contents it brings back. -/
def VacantRestore (sha256 : Bytes → Digest) (h : Digest) (s : Shell Bytes) :
    Event Bytes → Prop
  | .command false => s.next = .restore → ∀ bytes ∈ contents s.remotePath,
      sha256 bytes = h ∨ s.tombstone = some (.file bytes)
  | _ => True

instance [DecidableEq Bytes] [DecidableEq Digest] (sha256 : Bytes → Digest) (h : Digest)
    (s : Shell Bytes) (e : Event Bytes) : Decidable (s.VacantRestore sha256 h e) :=
  match e with
  | .command false => inferInstanceAs (Decidable (s.next = .restore → _))
  | .command true => .isTrue trivial
  | .produce _ => .isTrue trivial
  | .interrupt => .isTrue trivial

section Steps

variable {sha256 : Bytes → Digest} {h : Digest} {s t : Shell Bytes}

structure Held (sha256 : Bytes → Digest) (h : Digest) (s : Shell Bytes) : Prop where
  silent : s.next ≠ .done → s.output = none
  installed : ∀ bytes, s.remotePath = some (.file bytes) → bytes ∈ s.owed
  isolated : s.moved ≠ none → ∀ bytes, s.tombstone = some (.file bytes) → bytes ∈ s.owed
  present : s.next = .testLink → s.remotePath ≠ none
  regular : s.next = .testTombstone ∨ s.next = .isolate →
    ∃ bytes, s.remotePath = some (.file bytes)
  free : s.next = .isolate → pathExists s.tombstone = false
  kept : s.next = .hash ∨ s.next = .remove ∨ s.next = .testVacant ∨ s.next = .restore →
    s.moved ≠ none ∧ s.tombstone = s.moved ∧ ∃ bytes, s.moved = some (.file bytes)
  verified : s.next = .remove ∨ s.next = .testRemoved ∨ s.next = .testVacated ∨
    s.next = .reportDeleted → digestOf sha256 s.moved = some h
  reported : DeletedVerified sha256 h s

theorem held_start (start : s.Start) : Held sha256 h s where
  silent _ := start.output
  installed bytes named := (start.owed bytes).mpr named
  isolated taken := absurd start.moved taken
  present at_ := by simp [start.next] at at_
  regular at_ := by simp [start.next] at at_
  free at_ := by simp [start.next] at at_
  kept at_ := by simp [start.next] at at_
  verified at_ := by simp [start.next] at at_
  reported printed := by simp [start.output] at printed

theorem preserved_start (start : s.Start) : Preserved sha256 h s := by
  intro bytes owed _
  exact .inl ((start.owed bytes).mp owed)

theorem mem_forgo [DecidableEq Bytes] {bytes : Bytes} (owed : bytes ∈ s.owed)
    (elsewhere : s.tombstone = some (.file bytes) ∨ s.remotePath ≠ some (.file bytes)) :
    bytes ∈ s.forgo := by
  unfold forgo
  split
  next old named =>
    split
    next _ => exact owed
    next alone =>
      have other : bytes ≠ old := by
        rintro rfl
        cases elsewhere with
        | inl there => exact alone there
        | inr moved => exact moved named
      simp [owed, other]
  next _ => exact owed

theorem of_mem_forgo [DecidableEq Bytes] {bytes : Bytes} (kept : bytes ∈ s.forgo) :
    bytes ∈ s.owed ∧
      (s.remotePath = some (.file bytes) → s.tombstone = some (.file bytes)) := by
  unfold forgo at kept
  split at kept
  next old named =>
    split at kept
    next there =>
      refine ⟨kept, fun again => ?_⟩
      rw [← again, named, there]
    next _ =>
      have kept : bytes ∈ s.owed ∧ bytes ≠ old := by simpa using kept
      refine ⟨kept.1, fun again => ?_⟩
      rw [named] at again
      cases again
      exact absurd rfl kept.2
  next other => exact ⟨kept, fun again => absurd again (other bytes)⟩

theorem held_produce [DecidableEq Bytes] (held : Held sha256 h s) (bytes : Bytes) :
    Held sha256 h (s.produce bytes) where
  silent := held.silent
  installed other named := by
    have same : bytes = other := by simpa [produce] using named
    simp [produce, same]
  isolated taken other named := by
    have owed := held.isolated taken other named
    exact List.mem_cons_of_mem _ (mem_forgo owed (.inl named))
  present _ := by simp [produce]
  regular _ := ⟨bytes, rfl⟩
  free := held.free
  kept := held.kept
  verified := held.verified
  reported := held.reported

theorem preserved_produce [DecidableEq Bytes] (preserved : Preserved sha256 h s)
    (bytes : Bytes) : Preserved sha256 h (s.produce bytes) := by
  intro other owed unverified
  have cases_owed : other = bytes ∨ other ∈ s.forgo := by simpa [produce] using owed
  cases cases_owed with
  | inl same => exact .inl (by simp [produce, same])
  | inr kept =>
    obtain ⟨owed, there⟩ := of_mem_forgo kept
    cases preserved other owed unverified with
    | inl named => exact .inr (there named)
    | inr named => exact .inr named

theorem held_goto (held : Held sha256 h s) {next : Command}
    (silent : next ≠ .done → s.output = none)
    (present : next = .testLink → s.remotePath ≠ none)
    (regular : next = .testTombstone ∨ next = .isolate →
      ∃ bytes, s.remotePath = some (.file bytes))
    (free : next = .isolate → pathExists s.tombstone = false)
    (kept : next = .hash ∨ next = .remove ∨ next = .testVacant ∨ next = .restore →
      s.moved ≠ none ∧ s.tombstone = s.moved ∧ ∃ bytes, s.moved = some (.file bytes))
    (verified : next = .remove ∨ next = .testRemoved ∨ next = .testVacated ∨
      next = .reportDeleted → digestOf sha256 s.moved = some h) :
    Held sha256 h (s.goto next) where
  silent := silent
  installed := held.installed
  isolated := held.isolated
  present := present
  regular := regular
  free := free
  kept := kept
  verified := verified
  reported := held.reported

theorem held_done (held : Held sha256 h s) : Held sha256 h (s.goto .done) := by
  apply held_goto held <;> simp

theorem held_command [DecidableEq Digest] (held : Held sha256 h s) {fails : Bool}
    (ran : s.command sha256 h fails = some t) : Held sha256 h t := by
  have running : s.next ≠ .done := by
    intro at_
    simp [command, at_] at ran
  have silent := held.silent running
  unfold command demand at ran
  split at ran
  next at_ =>
    -- testFile
    cases ran
    cases there : isFile s.remotePath with
    | false => simpa using held_done held
    | true =>
      apply held_goto held <;> simp [silent]
      rintro gone
      simp [gone, isFile] at there
  next at_ =>
    -- testLink
    cases ran
    have present := held.present at_
    cases linked : isLink s.remotePath with
    | true => simpa using held_done held
    | false =>
      have named : ∃ bytes, s.remotePath = some (.file bytes) := by
        unfold isLink at linked
        cases path : s.remotePath with
        | none => exact absurd path present
        | some node => cases node <;> simp [path] at linked ⊢
      apply held_goto held <;> simp [silent, named]
  next at_ =>
    -- testTombstone
    cases ran
    have named := held.regular (.inl at_)
    cases taken : pathExists s.tombstone with
    | true => simpa using held_done held
    | false => apply held_goto held <;> simp [silent, named, taken]
  next at_ =>
    -- isolate
    obtain ⟨bytes, named⟩ := held.regular (.inr at_)
    cases fails with
    | true =>
      rw [named] at ran
      cases ran
      exact held_done held
    | false =>
      rw [named] at ran
      cases ran
      exact {
        silent := fun _ => silent
        installed := by simp
        isolated := by simpa using held.installed bytes named
        present := by simp
        regular := by simp
        free := by simp
        kept := by simp
        verified := by simp
        reported := fun printed => by simp [silent] at printed }
  next at_ =>
    -- hash
    have kept := held.kept (.inl at_)
    split at ran
    next proved =>
      cases ran
      have verified : digestOf sha256 s.moved = some h := by
        rw [← kept.2.1]
        exact (by simpa using proved : fails = false ∧ _).2
      apply held_goto held <;> simp [silent, kept, verified]
    next _ =>
      cases ran
      apply held_goto held <;> simp [silent, kept]
  next at_ =>
    -- remove
    have verified := held.verified (.inl at_)
    split at ran
    next _ =>
      cases ran
      exact held_done held
    next _ =>
      cases ran
      exact {
        silent := fun _ => silent
        installed := held.installed
        isolated := by simp
        present := by simp
        regular := by simp
        free := by simp
        kept := by simp
        verified := fun _ => verified
        reported := held.reported }
  next at_ =>
    -- testRemoved
    cases ran
    have verified := held.verified (.inr (.inl at_))
    cases pathExists s.tombstone with
    | true => simpa using held_done held
    | false => apply held_goto held <;> simp [silent, verified]
  next at_ =>
    -- testVacated
    cases ran
    have verified := held.verified (.inr (.inr (.inl at_)))
    cases pathExists s.remotePath with
    | true => simpa using held_done held
    | false => apply held_goto held <;> simp [silent, verified]
  next at_ =>
    -- reportDeleted
    cases ran
    exact { held_done held with silent := by simp, reported := fun _ => held.verified (.inr (.inr (.inr at_))) }
  next at_ =>
    -- testVacant
    cases ran
    have kept := held.kept (.inr (.inr (.inl at_)))
    cases pathExists s.remotePath with
    | true => apply held_goto held <;> simp [silent]
    | false => apply held_goto held <;> simp [silent, kept]
  next at_ =>
    -- restore
    obtain ⟨taken, same, bytes, node⟩ := held.kept (.inr (.inr (.inr at_)))
    have there : s.tombstone = some (.file bytes) := by rw [same, node]
    cases fails with
    | true =>
      rw [there] at ran
      cases ran
      apply held_goto held <;> simp [silent]
    | false =>
      rw [there] at ran
      cases ran
      exact {
        silent := fun _ => silent
        installed := by simpa using held.isolated taken bytes there
        isolated := by simp
        present := by simp
        regular := by simp
        free := by simp
        kept := by simp
        verified := by simp
        reported := held.reported }
  next at_ =>
    -- reportRetained
    cases ran
    exact { held_done held with silent := by simp, reported := fun printed => by simp at printed }
  next at_ => cases ran

theorem preserved_isolate (held : Held sha256 h s) (at_ : s.next = .isolate)
    (preserved : Preserved sha256 h s) {node : Node Bytes} (named : s.remotePath = some node)
    {next : Command} :
    Preserved sha256 h
      { s with remotePath := none, tombstone := some node, moved := some node, next := next } := by
  intro bytes owed unverified
  cases preserved bytes owed unverified with
  | inl there => exact .inr (by rw [← named, there])
  | inr there =>
    have free := held.free at_
    simp [there, pathExists] at free

theorem preserved_remove (held : Held sha256 h s) (at_ : s.next = .remove)
    (preserved : Preserved sha256 h s) {next : Command} :
    Preserved sha256 h { s with tombstone := none, next := next } := by
  intro bytes owed unverified
  cases preserved bytes owed unverified with
  | inl there => exact .inl there
  | inr there =>
    have verified := held.verified (.inl at_)
    have kept := (held.kept (.inr (.inl at_))).2.1
    rw [← kept, there] at verified
    exact absurd (by simpa [digestOf, contents] using verified) unverified

/-- The restoring `mv` loses something exactly when it lands on unverified contents other than
its own. -/
theorem preserved_restore_iff (held : Held sha256 h s) (at_ : s.next = .restore)
    (preserved : Preserved sha256 h s) {node : Node Bytes} (there : s.tombstone = some node)
    {next : Command} :
    VacantRestore sha256 h s (.command false) ↔
      Preserved sha256 h { s with remotePath := some node, tombstone := none, next := next } := by
  constructor
  · intro vacant bytes owed unverified
    cases preserved bytes owed unverified with
    | inl named =>
      cases vacant at_ bytes (mem_contents.mpr named) with
      | inl verified => exact absurd verified unverified
      | inr same => exact .inl (by rw [← there, same])
    | inr same => exact .inl (by rw [← there, same])
  · intro after _ bytes named
    have named := mem_contents.mp named
    by_cases verified : sha256 bytes = h
    · exact .inl verified
    · have present := after bytes (held.installed bytes named) verified
      refine .inr ?_
      simpa [Present, there] using present

theorem preserved_command_iff [DecidableEq Digest] (held : Held sha256 h s)
    (preserved : Preserved sha256 h s) {fails : Bool} (ran : s.command sha256 h fails = some t) :
    VacantRestore sha256 h s (.command fails) ↔ Preserved sha256 h t := by
  by_cases restoring : s.next = .restore ∧ fails = false
  · obtain ⟨at_, rfl⟩ := restoring
    obtain ⟨_, same, bytes, node⟩ := held.kept (.inr (.inr (.inr at_)))
    have there : s.tombstone = some (.file bytes) := by rw [same, node]
    simp only [command, at_, there, Option.some.injEq] at ran
    subst ran
    exact preserved_restore_iff held at_ preserved there
  · have allowed : VacantRestore sha256 h s (.command fails) := by
      cases fails with
      | true => trivial
      | false =>
        intro at_
        exact absurd ⟨at_, rfl⟩ restoring
    refine iff_of_true allowed ?_
    -- every other command either moves nothing, or moves or removes with the facts in `held`
    unfold command at ran
    split at ran
    case h_4 at_ =>
      obtain ⟨bytes, named⟩ := held.regular (.inr at_)
      rw [named] at ran
      cases fails with
      | true =>
        cases ran
        exact preserved
      | false =>
        cases ran
        exact preserved_isolate held at_ preserved named
    case h_5 => split at ran <;> cases ran <;> exact preserved
    case h_6 at_ =>
      split at ran <;> cases ran
      next _ => exact preserved
      next _ => exact preserved_remove held at_ preserved
    case h_11 at_ =>
      split at ran <;> cases ran
      next _ _ _ => exact absurd ⟨at_, rfl⟩ restoring
      next _ => exact preserved
    all_goals
      cases ran
      try exact preserved

theorem held_step [DecidableEq Bytes] [DecidableEq Digest] {e : Event Bytes}
    (held : Held sha256 h s) (stepped : step sha256 h s e = some t) : Held sha256 h t := by
  cases e with
  | produce bytes =>
    cases stepped
    exact held_produce held bytes
  | command fails => exact held_command held stepped
  | interrupt =>
    cases stepped
    exact held_done held

theorem preserved_step_iff [DecidableEq Bytes] [DecidableEq Digest] {e : Event Bytes}
    (held : Held sha256 h s) (preserved : Preserved sha256 h s)
    (stepped : step sha256 h s e = some t) :
    VacantRestore sha256 h s e ↔ Preserved sha256 h t := by
  cases e with
  | produce bytes =>
    cases stepped
    exact iff_of_true trivial (preserved_produce preserved bytes)
  | command fails => exact preserved_command_iff held preserved stepped
  | interrupt =>
    cases stepped
    exact iff_of_true trivial preserved

end Steps

section Runs

variable [DecidableEq Bytes] [DecidableEq Digest]

def Step (sha256 : Bytes → Digest) (h : Digest) (s : Shell Bytes) (e : Event Bytes)
    (t : Shell Bytes) : Prop :=
  step sha256 h s e = some t

def PreservingRun (sha256 : Bytes → Digest) (h : Digest) :=
  Run (fun s e t => Step sha256 h s e t ∧ Preserved sha256 h t) anyStep

theorem preserving_iff_vacantRestore (sha256 : Bytes → Digest) (h : Digest) (s t : Shell Bytes)
    (es : List (Event Bytes)) (start : s.Start) :
    (Run (Step sha256 h) anyStep s es t → DeletedVerified sha256 h t) ∧
      (Run (Step sha256 h) (VacantRestore sha256 h) s es t ↔ PreservingRun sha256 h s es t) := by
  constructor
  · intro run
    have held : Held sha256 h t :=
      run.invariant (Held sha256 h) (fun _ _ _ held _ stepped => held_step held stepped)
        (held_start start)
    exact held.reported
  · exact Run.iff_good (Held sha256 h) (Preserved sha256 h)
      (fun _ _ _ held stepped => held_step held stepped)
      (fun _ _ _ held preserved stepped => preserved_step_iff held preserved stepped)
      (held_start start) (preserved_start start)

def changed : Shell Nat :=
  { remotePath := some (.file 1), tombstone := none, next := .testFile, output := none,
    moved := none, owed := [1] }

theorem start_changed : changed.Start where
  next := rfl
  output := rfl
  moved := rfl
  owed bytes := by simp [changed, eq_comm]

theorem preserving_undisturbed :
    PreservingRun id 0 changed (List.replicate 8 (.command false))
      { changed with moved := changed.remotePath, output := some .retained, next := .done } :=
  (preserving_iff_vacantRestore id 0 _ _ _ start_changed).2.mp
    (run_of_trace (step id 0) (VacantRestore id 0) (by decide))

/-- A bundle that arrives between the vacancy test and the restoring `mv` is overwritten. -/
theorem not_preserved_always :
    ¬ ∀ (s t : Shell Nat) (es : List (Event Nat)),
      s.Start → Run (Step id 0) anyStep s es t → Preserved id 0 t := by
  intro always
  let es : List (Event Nat) :=
    List.replicate 6 (.command false) ++ [.produce 2, .command false]
  have run : Run (Step id 0) anyStep changed es
      { changed with moved := changed.remotePath, owed := [2, 1], next := .reportRetained } :=
    run_of_trace (step id 0) anyStep (by decide)
  have lost := always _ _ _ start_changed run
  revert lost
  decide

end Runs

end Shell

end DashcamStats.Transfer
