import DashcamStats.Pipeline.Stages

namespace DashcamStats.Pipeline

open Queue (RecordingState StageState)

variable {r r' : Recording} {name stage dependent : Stage} {selected : List Stage}
variable {outcome : Stage → Outcome}

section Selection

structure Closed (selected : List Stage) : Prop where
  ordered : selected.Pairwise fun earlier later => earlier ∉ STAGE_DEPENDENTS later
  dependents : ∀ name ∈ selected, ∀ dependent ∈ STAGE_DEPENDENTS name, dependent ∈ selected

attribute [local simp] runStage

theorem not_dependent_self (name : Stage) : name ∉ STAGE_DEPENDENTS name := by
  cases name <;> decide

theorem addDependents_telemetry (resolved : Stage → Bool) :
    addDependents resolved .telemetry = resolved .telemetry := by
  simp [addDependents, STAGE_ORDER, STAGE_DEPENDENTS]

theorem addDependents_detection (resolved : Stage → Bool) :
    addDependents resolved .detection = (resolved .detection || resolved .telemetry) := by
  simp [addDependents, STAGE_ORDER, STAGE_DEPENDENTS]

theorem addDependents_plates (resolved : Stage → Bool) :
    addDependents resolved .plates =
      (resolved .plates || (resolved .telemetry || resolved .detection)) := by
  simp [addDependents, STAGE_ORDER, STAGE_DEPENDENTS]

theorem withDependents_closed (stages : Stage → Bool) (isIn : withDependents stages name = true)
    (depends : dependent ∈ STAGE_DEPENDENTS name) : withDependents stages dependent = true := by
  have reaches : withDependents stages .detection = (stages .detection || stages .telemetry) ∧
      withDependents stages .plates =
        (stages .plates || stages .telemetry || stages .detection) ∧
      withDependents stages .telemetry = stages .telemetry := by
    simp only [withDependents, STAGE_ORDER, List.foldl_cons, List.foldl_nil,
      addDependents_telemetry, addDependents_detection, addDependents_plates]
    generalize stages .telemetry = telemetry
    generalize stages .detection = detection
    generalize stages .plates = plates
    revert telemetry detection plates
    decide
  obtain ⟨detection, plates, telemetry⟩ := reaches
  cases name with
  | telemetry =>
    rw [telemetry] at isIn
    rcases List.mem_cons.mp depends with rfl | depends
    · simp [detection, isIn]
    · cases List.mem_singleton.mp depends
      simp [plates, isIn]
  | detection =>
    cases List.mem_singleton.mp depends
    rw [detection] at isIn
    rw [plates, Bool.or_assoc, Bool.or_comm (stages .telemetry), isIn, Bool.or_true]
  | metadata => cases depends
  | plates => cases depends
  | summarise => cases depends

theorem ordered_closed (wanted : Stage → Bool) : Closed (ordered wanted) where
  ordered := List.Pairwise.sublist List.filter_sublist (by decide)
  dependents name mem dependent depends := by
    simp only [ordered, List.mem_filter, Bool.or_eq_true, decide_eq_true_eq] at mem ⊢
    rcases mem.2 with isIn | rfl
    · exact ⟨by cases dependent <;> decide, .inl (withDependents_closed wanted isIn depends)⟩
    · cases depends

theorem order_closed : Closed STAGE_ORDER := by
  constructor <;> decide

theorem expandStages_closed (requested : List String) : Closed (expandStages requested) := by
  unfold expandStages
  split
  · exact order_closed
  · dsimp only
    split
    · exact order_closed
    · exact ordered_closed _

theorem Closed.tail {rest : List Stage} (closed : Closed (name :: rest)) : Closed rest where
  ordered := closed.ordered.of_cons
  dependents earlier mem dependent depends := by
    have later := closed.dependents earlier (List.mem_cons_of_mem _ mem) dependent depends
    rcases List.mem_cons.mp later with rfl | later
    · exact absurd depends (List.rel_of_pairwise_cons closed.ordered mem)
    · exact later

end Selection

section Freshness

def Recording.Numbered (r : Recording) : Prop := ∀ name, r.written name ≤ r.clock

def Recording.FreshBut (pending : List Stage) (r : Recording) : Prop :=
  ∀ name, ∀ dependent ∈ STAGE_DEPENDENTS name, dependent ∉ pending →
    r.stages dependent = .done → r.written name < r.written dependent

abbrev Recording.Fresh (r : Recording) : Prop := r.FreshBut []

def Clear (selected : List Stage) (r : Recording) : Prop :=
  ∀ name ∈ selected, ∀ dependent ∈ STAGE_DEPENDENTS name, r.stages dependent ≠ .done

theorem Recording.FreshBut.mono {pending more : List Stage} (fresh : r.FreshBut pending)
    (sub : pending ⊆ more) : r.FreshBut more :=
  fun name dependent depends notIn => fresh name dependent depends fun mem => notIn (sub mem)

@[simp] theorem mark_stages (r : Recording) (name : Stage) (state : StageState) :
    (r.mark name state).stages = Function.update r.stages name state := rfl

@[simp] theorem mark_written (r : Recording) (name : Stage) (state : StageState) :
    (r.mark name state).written = r.written := rfl

@[simp] theorem replace_stages (r : Recording) (name : Stage) :
    (r.replace name).stages = r.stages := rfl

theorem numbered_replace (numbered : r.Numbered) (name : Stage) : (r.replace name).Numbered := by
  intro other
  by_cases same : other = name
  · subst same
    simp [Recording.replace]
  · simp only [Recording.replace, Function.update_of_ne same]
    exact Nat.le_succ_of_le (numbered other)

theorem FreshBut.of_marks {pending : List Stage} (fresh : r.FreshBut pending)
    (written : r'.written = r.written)
    (marks : ∀ name, r'.stages name = .done → r.stages name = .done) : r'.FreshBut pending := by
  intro name dependent depends notIn isDone
  rw [written]
  exact fresh name dependent depends notIn (marks dependent isDone)

theorem freshBut_mark {pending : List Stage} {state : StageState} (fresh : r.FreshBut pending)
    (undone : state ≠ .done) : (r.mark name state).FreshBut pending := by
  refine FreshBut.of_marks fresh rfl fun other isDone => ?_
  by_cases same : other = name
  · subst same
    simp only [mark_stages, Function.update_self] at isDone
    exact absurd isDone undone
  · simpa [same] using isDone

theorem freshBut_replace {pending : List Stage} (fresh : r.FreshBut pending)
    (clear : ∀ dependent ∈ STAGE_DEPENDENTS name, dependent ∉ pending →
      r.stages dependent ≠ .done)
    (undone : r.stages name ≠ .done ∨ ∀ other, name ∉ STAGE_DEPENDENTS other) :
    (r.replace name).FreshBut pending := by
  intro other dependent depends notIn isDone
  rw [replace_stages] at isDone
  have apart : dependent ≠ name := by
    rintro rfl
    exact undone.elim (fun undone => undone isDone) fun free => free other depends
  have before : other ≠ name := by
    rintro rfl
    exact clear dependent depends notIn isDone
  simp only [Recording.replace, Function.update_of_ne apart, Function.update_of_ne before]
  exact fresh other dependent depends notIn isDone

theorem freshBut_done {pending : List Stage} (numbered : r.Numbered)
    (fresh : (r.replace name).FreshBut pending) :
    ((r.replace name).mark name .done).FreshBut (pending.filter (· ≠ name)) := by
  intro other dependent depends notIn isDone
  have before : other ≠ name ∨ dependent ≠ name := by
    by_contra both
    simp only [not_or, not_not] at both
    rw [both.1, both.2] at depends
    exact not_dependent_self name depends
  by_cases same : dependent = name
  · subst same
    have apart := before.resolve_right fun apart => apart rfl
    simp only [mark_written, Recording.replace, Function.update_self, Function.update_of_ne apart]
    exact Nat.lt_succ_of_le (numbered other)
  · refine fresh other dependent depends (fun mem => notIn ?_) (by simpa [same] using isDone)
    exact List.mem_filter.mpr ⟨mem, decide_eq_true same⟩

theorem FreshBut.settle {rest : List Stage} (fresh : r.FreshBut (name :: rest))
    (undone : r.stages name ≠ .done) : r.FreshBut rest := by
  intro other dependent depends notIn isDone
  refine fresh other dependent depends (fun mem => ?_) isDone
  rcases List.mem_cons.mp mem with rfl | mem
  · exact undone isDone
  · exact notIn mem

end Freshness

section Run

structure Keeps (pending : List Stage) (name : Stage) (r r' : Recording) : Prop where
  numbered : r'.Numbered
  fresh : r'.FreshBut pending
  others : ∀ other, other ≠ name → r'.stages other = r.stages other

variable {pending : List Stage}

theorem Keeps.mark {state : StageState} (keeps : Keeps pending name r r') (undone : state ≠ .done) :
    Keeps pending name r (r'.mark name state) where
  numbered := keeps.numbered
  fresh := freshBut_mark keeps.fresh undone
  others other apart := by simpa [apart] using keeps.others other apart

theorem Keeps.replace (keeps : Keeps pending name r r')
    (clear : ∀ dependent ∈ STAGE_DEPENDENTS name, dependent ∉ pending →
      r.stages dependent ≠ .done)
    (undone : r'.stages name ≠ .done ∨ ∀ other, name ∉ STAGE_DEPENDENTS other) :
    Keeps pending name r (r'.replace name) where
  numbered := numbered_replace keeps.numbered name
  fresh := freshBut_replace keeps.fresh (fun dependent depends notIn => by
    have apart : dependent ≠ name := by
      rintro rfl
      exact not_dependent_self _ depends
    rw [keeps.others dependent apart]
    exact clear dependent depends notIn) undone
  others := keeps.others

theorem Keeps.done (keeps : Keeps pending name r r')
    (fresh : (r'.replace name).FreshBut pending) :
    Keeps pending name r ((r'.replace name).mark name .done) where
  numbered := numbered_replace keeps.numbered name
  fresh := (freshBut_done keeps.numbered fresh).mono (List.filter_subset_self pending)
  others other apart := by simpa [apart] using keeps.others other apart

theorem Keeps.state {state : RecordingState} (keeps : Keeps pending name r r') :
    Keeps pending name r { r' with state := state } :=
  ⟨keeps.numbered, keeps.fresh, keeps.others⟩

theorem free_of_no_field (noField : name.hasField = false) (other : Stage) :
    name ∉ STAGE_DEPENDENTS other := by
  cases name with
  | summarise => cases other <;> decide
  | _ => cases noField

theorem keeps_start (numbered : r.Numbered) (fresh : r.FreshBut pending) :
    Keeps pending name r (r.start name) ∧
      ((r.start name).stages name ≠ .done ∨ ∀ other, name ∉ STAGE_DEPENDENTS other) := by
  have here : Keeps pending name r r := ⟨numbered, fresh, fun _ _ => rfl⟩
  unfold Recording.start
  cases hasField : name.hasField with
  | true =>
    rw [if_pos rfl]
    exact ⟨here.mark (by decide), .inl (by simp)⟩
  | false => exact ⟨here, .inr (free_of_no_field hasField)⟩

theorem Keeps.finish (keeps : Keeps pending name r r')
    (fresh : (r'.replace name).FreshBut pending) :
    Keeps pending name r ((r'.replace name).finish name) := by
  unfold Recording.finish
  split
  · exact keeps.done fresh
  · exact ⟨numbered_replace keeps.numbered name, fresh, keeps.others⟩

theorem Keeps.fail (keeps : Keeps pending name r r') (permanent : Bool) :
    Keeps pending name r (r'.fail name permanent) := by
  have marked : Keeps pending name r (r'.mark name .failed) := keeps.mark (by decide)
  unfold Recording.fail
  split
  · exact marked.state
  · exact keeps.state

theorem runStage_keeps (numbered : r.Numbered) (fresh : r.FreshBut pending)
    (clear : ∀ dependent ∈ STAGE_DEPENDENTS name, dependent ∉ pending →
      r.stages dependent ≠ .done) (outcome : Outcome) :
    ∀ r' ∈ (runStage name outcome r).rows, Keeps pending name r r' := by
  obtain ⟨running, undone⟩ := @keeps_start r name pending numbered fresh
  have stored := running.replace clear undone
  intro r' mem
  cases outcome with
  | done =>
    have ends := running.finish stored.fresh
    simp only [runStage] at mem
    split at mem
    · simp only [List.mem_cons, List.not_mem_nil, or_false] at mem
      rcases mem with rfl | rfl | rfl
      · exact running
      · exact stored
      · exact ends
    · simp only [List.mem_cons, List.not_mem_nil, or_false] at mem
      rcases mem with rfl | rfl
      · exact running
      · exact ends
  | skipped =>
    simp only [runStage, List.mem_cons, List.not_mem_nil, or_false] at mem
    rcases mem with rfl | rfl
    · exact running
    · exact running.mark (by decide)
  | retryable =>
    simp only [runStage, List.mem_cons, List.not_mem_nil, or_false] at mem
    rcases mem with rfl | rfl
    · exact running
    · exact running.mark (by decide)
  | failed replaced permanent =>
    have left : Keeps pending name r
        (if replaced && name.hasWritePhase then (r.start name).replace name else r.start name) := by
      split
      · exact stored
      · exact running
    simp only [runStage, List.mem_cons, List.not_mem_nil, or_false] at mem
    rcases mem with rfl | rfl | rfl
    · exact running
    · exact left
    · exact left.fail permanent

theorem runStage_last (name : Stage) (outcome : Outcome) (r : Recording) :
    (runStage name outcome r).last ∈ (runStage name outcome r).rows := by
  cases outcome with
  | done =>
    simp only [runStage]
    split <;> simp
  | skipped => simp [runStage]
  | retryable => simp [runStage]
  | failed replaced permanent => simp [runStage]

theorem runStage_settles {rest : List Stage} (numbered : r.Numbered)
    (fresh : r.FreshBut (name :: rest)) (closed : Closed (name :: rest)) {outcome : Outcome}
    (ok : (runStage name outcome r).ok = true) :
    (runStage name outcome r).last.FreshBut rest := by
  have clear : ∀ dependent ∈ STAGE_DEPENDENTS name, dependent ∉ name :: rest →
      r.stages dependent ≠ .done := fun dependent depends notIn =>
    absurd (closed.dependents name List.mem_cons_self dependent depends) notIn
  obtain ⟨running, undone⟩ := @keeps_start r name (name :: rest) numbered fresh
  have stored := running.replace clear undone
  have settled : ∀ state : StageState, state ≠ .done →
      ((r.start name).mark name state).FreshBut rest := fun state undone => FreshBut.settle (freshBut_mark running.fresh undone) (by simpa using undone)
  cases outcome with
  | done =>
    simp only [runStage, Recording.finish]
    split
    · refine (freshBut_done running.numbered stored.fresh).mono fun other mem => ?_
      obtain ⟨mem, apart⟩ := List.mem_filter.mp mem
      exact (List.mem_cons.mp mem).resolve_left (of_decide_eq_true apart)
    · next noField =>
      have free := free_of_no_field (Bool.eq_false_iff.mpr noField)
      intro other dependent depends notIn isDone
      refine stored.fresh other dependent depends (fun mem => ?_) isDone
      rcases List.mem_cons.mp mem with rfl | mem
      · exact free other depends
      · exact notIn mem
  | skipped => exact settled .skipped (by decide)
  | retryable => exact settled .pending (by decide)
  | failed replaced permanent => cases ok

theorem runEach_last (outcome : Stage → Outcome) (selected : List Stage) (r : Recording) :
    (runEach outcome selected r).last ∈ r :: (runEach outcome selected r).rows := by
  induction selected generalizing r with
  | nil => exact List.mem_singleton.mpr rfl
  | cons name rest ih =>
    have last := runStage_last name (outcome name) r
    simp only [runEach]
    split
    · rcases List.mem_cons.mp (ih (runStage name (outcome name) r).last) with same | later
      · rw [same]
        exact List.mem_cons_of_mem _ (List.mem_append_left _ last)
      · exact List.mem_cons_of_mem _ (List.mem_append_right _ later)
    · exact List.mem_cons_of_mem _ last

theorem runEach_fresh (numbered : r.Numbered) (fresh : r.Fresh) (closed : Closed selected)
    (clear : Clear selected r) :
    ∀ r' ∈ (runEach outcome selected r).rows, r'.Numbered ∧ r'.Fresh := by
  induction selected generalizing r with
  | nil => exact fun r' mem => by cases mem
  | cons name rest ih =>
    have keeps := runStage_keeps numbered fresh
      (fun dependent depends _ => clear name List.mem_cons_self dependent depends) (outcome name)
    have last := keeps _ (runStage_last name (outcome name) r)
    intro r' mem
    simp only [runEach] at mem
    split at mem
    · rcases List.mem_append.mp mem with mem | mem
      · exact ⟨(keeps r' mem).numbered, (keeps r' mem).fresh⟩
      · refine ih last.numbered last.fresh closed.tail (fun later isLater dependent depends => ?_)
          r' mem
        have apart : dependent ≠ name := by
          rintro rfl
          exact List.rel_of_pairwise_cons closed.ordered isLater depends
        rw [last.others dependent apart]
        exact clear later (List.mem_cons_of_mem _ isLater) dependent depends
    · exact ⟨(keeps r' mem).numbered, (keeps r' mem).fresh⟩

theorem runEach_settles (numbered : r.Numbered) (fresh : r.FreshBut selected)
    (closed : Closed selected) (ok : (runEach outcome selected r).ok = true) :
    (runEach outcome selected r).last.Fresh := by
  induction selected generalizing r with
  | nil => exact fresh
  | cons name rest ih =>
    simp only [runEach] at ok ⊢
    split at ok
    · next went =>
      rw [if_pos went]
      have keeps := runStage_keeps numbered fresh (fun dependent depends notIn =>
        absurd (closed.dependents name List.mem_cons_self dependent depends) notIn) (outcome name)
      have last := keeps _ (runStage_last name (outcome name) r)
      exact ih last.numbered (runStage_settles numbered fresh closed went) closed.tail ok
    · next failed => exact absurd ok failed

end Run

section Claim

theorem reached_fresh (reached : Reached Clear r) : r.Numbered ∧ r.Fresh := by
  induction reached with
  | fresh => exact ⟨fun _ => Nat.le_refl 0, fun _ _ _ _ isDone => by cases isDone⟩
  | invalidated requested _ ih =>
    refine ⟨ih.1, FreshBut.of_marks ih.2 rfl fun name isDone => ?_⟩
    simp only [invalidateRecordings] at isDone
    split at isDone
    · cases isDone
    · exact isDone
  | @ran before _ stages outcome _ clear mem ih =>
    rcases List.mem_cons.mp mem with rfl | mem
    · exact ih
    · have numbered : Recording.Numbered { before with state := .processing } := ih.1
      have fresh : Recording.Fresh { before with state := .processing } := ih.2
      exact runEach_fresh numbered fresh (expandStages_closed _) clear _ mem

theorem clear_invalidated (requested : List String) (named : requested ≠ []) :
    Clear (jobStages requested (invalidateRecordings r requested))
      (invalidateRecordings r requested) := by
  intro name mem dependent depends
  rw [jobStages, if_pos named] at mem
  have isIn := (expandStages_closed requested).dependents name mem dependent depends
  have hasField : dependent.hasField = true := by
    cases dependent with
    | summarise => exact absurd depends (free_of_no_field rfl name)
    | _ => rfl
  simp [invalidateRecordings, hasField, isIn]

def afterRun (outcome : Stage → Outcome) (stages : List String) (r : Recording) : Recording :=
  (runStages outcome (jobStages stages r) r).last

theorem reached_afterRun {allowed : List Stage → Recording → Prop} (reached : Reached allowed r)
    (outcome : Stage → Outcome) (stages : List String) (allows : allowed (jobStages stages r) r) :
    Reached allowed (afterRun outcome stages r) :=
  .ran stages outcome reached allows (runEach_last outcome _ _)

def analysed : Recording := afterRun (fun _ => .done) [] .fresh

def redone : Recording :=
  afterRun (fun _ => .done) ["telemetry"] (invalidateRecordings analysed ["telemetry"])

def overtaken : Recording :=
  afterRun (fun name => if name = .detection then .failed false false else .done) ["telemetry"]
    analysed

end Claim

end DashcamStats.Pipeline
