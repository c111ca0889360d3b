import Mathlib.Data.List.Sort
import DashcamStats.Transfer.CommitPipeline

namespace DashcamStats.Transfer.CommitPipeline

def busy : Worker → ℕ
  | .handling _ => 1
  | _ => 0

def Draining (worker : Worker) : Prop := worker ≠ .stopping ∧ worker ≠ .ended

structure Inv (s : Pipeline) : Prop where
  counted : s.unfinished = s.queue.length + busy s.worker
  sorted : (s.begun ++ s.queue).Pairwise (· < ·)
  small : ∀ chunk ∈ s.begun ++ s.queue, chunk < s.accepted
  attached : s.attached = true ↔ s.closer = .notYet
  submitting : s.submitter = .idle ∨ s.submitter = .putting ∧ s.closer = .notYet
  drains : s.closer = .notYet ∨ s.closer = .joining → Draining s.worker
  joined : s.closer = .joined → s.unfinished = 0 ∧ s.worker = .waiting
  stopped : s.closer = .stopping ∨ s.closer = .closed →
    s.unfinished = 0 ∧ (s.worker = .stopping ∨ s.worker = .ended)
  struck : s.struck = s.failed
  onTime : s.late = false
  accounted : ∀ chunk < s.accepted, chunk ∈ s.completed ∨ chunk ∈ s.queue ∨
    s.worker = .handling chunk ∨ chunk ∈ s.dropped ∨ s.failed = true
  told : s.failed = true → s.error.isSome ∨ s.reported.isSome
  final : s.closer = .closed → s.error = none

variable {s t : Pipeline} {depth : ℤ} {chunk : ℕ}

theorem Inv.initial : Inv (Pipeline.started depth) := by
  constructor <;> simp [Pipeline.started, busy, Draining]

theorem Inv.safe (inv : Inv s) : Safe s where
  single := by
    intro chunk other _ inside
    cases inv.submitting with
    | inl idle => simp [inside] at idle
    | inr putting => simp [inside] at putting
  ordered := (List.pairwise_append.mp inv.sorted).1
  stopped := inv.onTime
  accounted := by
    intro chunk early
    rcases inv.accounted chunk early.1 with done | queued | here | gone | failed
    · exact .inl done
    · exact .inr (.inl queued)
    · exact .inr (.inr (.inl here))
    · exact .inr (.inr (.inr (.inl gone)))
    · refine .inr (.inr (.inr (.inr ⟨by rw [inv.struck, failed], ?_⟩)))
      cases inv.told failed with
      | inr reported => exact .inl reported
      | inl kept =>
        refine .inr ⟨kept, fun closed => ?_⟩
        rw [inv.final closed] at kept
        cases kept
  waited := by
    intro finished left
    refine ⟨fun putting => ?_, fun joining => (inv.drains (.inr joining)).2 finished⟩
    cases inv.submitting with
    | inl idle => simp [putting] at idle
    | inr both => exact (inv.drains (.inl both.2)).2 finished

theorem Inv.submits (inv : Inv s) (open_ : s.closer = .notYet) : Inv s.submit := by
  unfold Pipeline.submit
  rw [if_pos (inv.attached.mpr open_)]
  cases kept : s.error with
  | some text =>
    refine { inv with told := fun _ => .inr ?_, final := fun closed => ?_ }
    · simp [Pipeline.report]
    · rfl
  | none =>
    refine { inv with submitting := .inr ⟨rfl, open_⟩, told := ?_, final := fun _ => rfl }
    simpa [kept] using inv.told

theorem Inv.puts (inv : Inv s) (putting : s.submitter = .putting) : Inv s.put := by
  have open_ : s.closer = .notYet := by
    cases inv.submitting with
    | inl idle => simp [putting] at idle
    | inr both => exact both.2
  refine { inv with
    counted := ?_, sorted := ?_, small := ?_, submitting := .inl rfl, joined := ?_, stopped := ?_,
    accounted := ?_ }
  · simp only [Pipeline.put, List.length_append, List.length_singleton]
    have := inv.counted
    omega
  · simp only [Pipeline.put, ← List.append_assoc]
    rw [List.pairwise_append]
    refine ⟨inv.sorted, List.pairwise_singleton _ _, ?_⟩
    intro earlier member last same
    rw [List.mem_singleton.mp same]
    exact inv.small earlier member
  · intro chunk member
    simp only [Pipeline.put, ← List.append_assoc] at member ⊢
    cases List.mem_append.mp member with
    | inl before => exact Nat.lt_succ_of_lt (inv.small chunk before)
    | inr last =>
      rw [List.mem_singleton.mp last]
      exact Nat.lt_succ_self _
  · intro joined
    simp [Pipeline.put, open_] at joined
  · intro stopped
    simp [Pipeline.put, open_] at stopped
  · intro chunk small
    simp only [Pipeline.put] at small ⊢
    by_cases last : chunk = s.accepted
    · simp [last]
    · have := inv.accounted chunk (by omega)
      simp only [List.mem_append]
      tauto

theorem Inv.takes (inv : Inv s) {rest : List ℕ} (waiting : s.worker = .waiting)
    (queued : s.queue = chunk :: rest) : Inv (s.take chunk rest) := by
  have counted := inv.counted
  simp only [queued, waiting, busy, List.length_cons] at counted
  have notJoined : s.closer ≠ .joined := by
    intro joined
    have := (inv.joined joined).1
    omega
  have notStopped : ¬ (s.closer = .stopping ∨ s.closer = .closed) := by
    intro stopped
    have := (inv.stopped stopped).1
    omega
  have sorted := inv.sorted
  have small := inv.small
  rw [queued] at sorted small
  unfold Pipeline.take
  split
  · rename_i failed
    refine { inv with
      counted := ?_, sorted := ?_, small := ?_, joined := fun joined => absurd joined notJoined,
      stopped := fun stopped => absurd stopped notStopped, accounted := ?_ }
    · simp only [waiting, busy]
      omega
    · exact sorted.sublist (List.Sublist.append_left (List.sublist_cons_self _ _) _)
    · intro other member
      apply small
      simp only [List.mem_append, List.mem_cons] at member ⊢
      tauto
    · intro other _
      exact .inr (.inr (.inr (.inr failed)))
  · rename_i healthy
    refine { inv with
      counted := ?_, sorted := ?_, small := ?_, drains := ?_,
      joined := fun joined => absurd joined notJoined,
      stopped := fun stopped => absurd stopped notStopped, onTime := ?_, accounted := ?_ }
    · simp only [Pipeline.begin_, busy]
      omega
    · simpa [Pipeline.begin_] using sorted
    · simpa [Pipeline.begin_] using small
    · intro _
      simp [Draining]
    · simp only [Pipeline.begin_, inv.onTime, inv.struck, Bool.false_or]
      simpa using healthy
    · intro other below
      have known := inv.accounted other below
      rw [queued, waiting] at known
      simp only [List.mem_cons, reduceCtorEq, false_or] at known
      simp only [Pipeline.begin_, Worker.handling.injEq]
      tauto

theorem Inv.returns (inv : Inv s) (here : s.worker = .handling chunk) :
    Inv { s with
      completed := s.completed ++ [chunk]
      unfinished := s.unfinished - 1
      worker := .waiting } := by
  have counted := inv.counted
  simp only [here, busy] at counted
  refine { inv with
    counted := ?_, drains := fun _ => by simp [Draining], joined := ?_, stopped := ?_,
    accounted := ?_ }
  · simp only [busy]
    omega
  · intro joined
    have := (inv.joined joined).2
    simp [here] at this
  · intro stopped
    have := (inv.stopped stopped).2
    simp [here] at this
  · intro other below
    have known := inv.accounted other below
    rw [here] at known
    simp only [List.mem_append, List.mem_singleton, Worker.handling.injEq, reduceCtorEq,
      false_or] at known ⊢
    rcases known with done | queued | rfl | gone | failed <;> tauto

theorem Inv.raises (inv : Inv s) (here : s.worker = .handling chunk) (text : String) :
    Inv (s.handlerRaises (.failure text)) := by
  have counted := inv.counted
  simp only [here, busy] at counted
  refine { inv with
    counted := ?_, drains := fun _ => by simp [Draining, Pipeline.handlerRaises],
    joined := ?_, stopped := ?_, struck := rfl,
    accounted := fun _ _ => .inr (.inr (.inr (.inr rfl))), told := fun _ => .inl ?_,
    final := ?_ }
  · simp only [Pipeline.handlerRaises, busy]
    omega
  · intro joined
    have := (inv.joined joined).2
    simp [here] at this
  · intro stopped
    have := (inv.stopped stopped).2
    simp [here] at this
  · simp only [Pipeline.handlerRaises]
    cases s.error <;> rfl
  · intro closed
    have := (inv.stopped (.inr closed)).2
    simp [here] at this

theorem Inv.closes (inv : Inv s) (discard : Bool) (open_ : s.closer = .notYet)
    (idle : s.submitter = .idle) : Inv (s.close discard) := by
  have counted := inv.counted
  unfold Pipeline.close
  rw [if_pos open_]
  refine { inv with
    counted := ?_, sorted := ?_, small := ?_, attached := by simp, submitting := .inl idle,
    drains := fun _ => inv.drains (.inl open_), joined := by simp, stopped := by simp,
    accounted := ?_, final := by simp }
  · cases discard <;> simp only [Bool.false_eq_true, if_false, if_true, List.length_nil]
    · exact counted
    · omega
  · cases discard
    · simpa using inv.sorted
    · simpa using (List.pairwise_append.mp inv.sorted).1
  · intro other member
    cases discard
    · exact inv.small other (by simpa using member)
    · exact inv.small other (List.mem_append_left _ (by simpa using member))
  · intro other below
    have known := inv.accounted other below
    cases discard <;> simp only [Bool.false_eq_true, if_false, if_true, List.mem_append,
      List.not_mem_nil] <;> tauto

theorem Inv.closeEnds (inv : Inv s) (stopping : s.closer = .stopping)
    (allowed : s.error = none ∨ s.cancelled = false ∧ s.discard = false) : Inv s.closeEnd := by
  have stopped := inv.stopped (.inl stopping)
  have idle : s.submitter = .idle := by
    cases inv.submitting with
    | inl idle => exact idle
    | inr both => simp [stopping] at both
  have detached := inv.attached
  simp only [stopping, reduceCtorEq, iff_false] at detached
  unfold Pipeline.closeEnd
  cases kept : s.error with
  | none =>
    have told := inv.told
    rw [kept] at told
    split <;>
      exact { inv with
        attached := by simpa using detached, submitting := .inl idle, drains := by simp,
        joined := by simp, stopped := fun _ => stopped, told := told, final := fun _ => rfl }
  | some text =>
    obtain ⟨steady, keeps⟩ := allowed.resolve_left (by simp [kept])
    simp only [steady, keeps, Bool.or_self, Bool.false_eq_true, if_false]
    exact { inv with
      attached := by simpa [Pipeline.report] using detached, submitting := .inl idle,
      drains := by simp, joined := by simp, stopped := fun _ => stopped,
      told := fun _ => .inr (by simp [Pipeline.report]), final := fun _ => rfl }

theorem Inv.step {e : Event} (inv : Inv s) (allowed : Allowed s e) (stepped : Steps s e t) :
    Inv t := by
  unfold Steps Pipeline.next at stepped
  cases e with
  | submits =>
    dsimp only at stepped
    split at stepped
    · rw [← Option.some.inj stepped]
      exact inv.submits allowed
    · cases stepped
  | puts =>
    dsimp only at stepped
    split at stepped
    · rename_i room
      rw [← Option.some.inj stepped]
      exact inv.puts room.1
    · cases stepped
  | abandons =>
    dsimp only at stepped
    split at stepped
    · rw [← Option.some.inj stepped]
      exact { inv with submitting := .inl rfl }
    · cases stepped
  | takes =>
    dsimp only at stepped
    split at stepped
    · rename_i chunk rest waiting queued
      rw [← Option.some.inj stepped]
      exact inv.takes waiting queued
    · cases stepped
  | returns =>
    dsimp only at stepped
    split at stepped
    · rename_i chunk here
      rw [← Option.some.inj stepped]
      exact inv.returns here
    · cases stepped
  | raises exc =>
    dsimp only at stepped
    split at stepped
    · rename_i chunk here
      rw [← Option.some.inj stepped]
      cases exc with
      | cancelled => exact absurd rfl allowed
      | failure text => exact inv.raises here text
    · cases stepped
  | inlineReturns =>
    dsimp only at stepped
    split at stepped
    · rename_i chunk inside
      cases inv.submitting with
      | inl idle => simp [inside] at idle
      | inr putting => simp [inside] at putting
    · cases stepped
  | inlineRaises exc =>
    dsimp only at stepped
    split at stepped
    · rename_i chunk inside
      cases inv.submitting with
      | inl idle => simp [inside] at idle
      | inr putting => simp [inside] at putting
    · cases stepped
  | closes discard =>
    rw [← Option.some.inj stepped]
    by_cases open_ : s.closer = .notYet
    · exact inv.closes discard open_ (allowed open_)
    · simpa [Pipeline.close, open_] using inv
  | cancelsCloser =>
    dsimp only at stepped
    split at stepped
    · cases stepped
    · rw [← Option.some.inj stepped]
      exact { inv with }
  | joins =>
    dsimp only at stepped
    split at stepped
    · rename_i ready
      rw [← Option.some.inj stepped]
      have alive := inv.drains (.inr ready.1)
      have counted := inv.counted
      have waiting : s.worker = .waiting := by
        cases here : s.worker with
        | waiting => rfl
        | handling chunk =>
          rw [here, busy] at counted
          omega
        | stopping => exact absurd here alive.1
        | ended => exact absurd here alive.2
      have idle : s.submitter = .idle := by
        cases inv.submitting with
        | inl idle => exact idle
        | inr both => simp [ready.1] at both
      refine { inv with
        attached := ?_, submitting := .inl idle, drains := by simp,
        joined := fun _ => ⟨ready.2, waiting⟩, stopped := by simp, final := by simp }
      have detached := inv.attached
      simp only [ready.1, reduceCtorEq, iff_false] at detached ⊢
      exact detached
    · cases stepped
  | cancelsWorker =>
    dsimp only at stepped
    split at stepped
    · rename_i joined
      rw [← Option.some.inj stepped]
      obtain ⟨none, waiting⟩ := inv.joined joined
      have counted := inv.counted
      have idle : s.submitter = .idle := by
        cases inv.submitting with
        | inl idle => exact idle
        | inr both => simp [joined] at both
      have detached := inv.attached
      simp only [joined, reduceCtorEq, iff_false] at detached
      simp only [Pipeline.cancelWorker, waiting]
      refine { inv with
        counted := ?_, attached := by simpa using detached, submitting := .inl idle,
        drains := by simp, joined := by simp, stopped := fun _ => ⟨none, .inl rfl⟩,
        accounted := ?_, final := by simp }
      · simpa [waiting, busy] using counted
      · intro other below
        have known := inv.accounted other below
        simpa [waiting] using known
    · cases stepped
  | workerStops =>
    dsimp only at stepped
    split at stepped
    · rename_i stopping
      rw [← Option.some.inj stepped]
      have counted := inv.counted
      refine { inv with
        counted := ?_, drains := ?_, joined := ?_,
        stopped := fun stopped => ⟨(inv.stopped stopped).1, .inr rfl⟩, accounted := ?_ }
      · simpa [stopping, busy] using counted
      · intro open_
        exact absurd stopping (inv.drains open_).1
      · intro joined
        have := (inv.joined joined).2
        simp [stopping] at this
      · intro other below
        have known := inv.accounted other below
        simpa [stopping] using known
    · cases stepped
  | closeEnds =>
    dsimp only at stepped
    split at stepped
    · rename_i ready
      rw [← Option.some.inj stepped]
      exact inv.closeEnds ready.1 allowed
    · cases stepped

def failingRun : List Event :=
  [.submits, .puts, .takes, .submits, .puts, .raises (.failure "rename"), .takes, .submits,
    .closes false, .joins, .cancelsWorker, .workerStops, .closeEnds]

def failedPipeline : Pipeline :=
  { maxsize := 2, worker := .ended, attached := false, failed := true, closer := .closed,
    accepted := 2, begun := [0], reported := some 2, struck := true }

theorem failing_run : Run Steps Allowed (Pipeline.started 2) failingRun failedPipeline :=
  run_of_trace Pipeline.next Allowed (by decide)

def strandedRun : List Event :=
  [.submits, .puts, .takes, .submits, .puts, .raises .cancelled, .closes false]

def strandedPipeline : Pipeline :=
  { maxsize := 2, queue := [1], unfinished := 1, worker := .ended, attached := false,
    closer := .joining, accepted := 2, begun := [0], struck := true }

-- What the worker and `close` do by themselves while no handler raises a cancellation.
def Own : Event → Prop
  | .takes | .returns | .raises (.failure _) | .joins | .cancelsWorker | .workerStops
  | .closeEnds => True
  | _ => False

def closing : Closer → ℕ
  | .notYet | .joining => 4
  | .joined => 3
  | .stopping => 2
  | .closed => 0

def pending (s : Pipeline) : ℕ :=
  2 * s.queue.length + busy s.worker + closing s.closer + if s.worker = .ended then 0 else 1

def Over (s : Pipeline) : Prop := s.closer = .closed ∧ s.worker = .ended

def Called (s : Pipeline) : Prop := Inv s ∧ s.closer ≠ .notYet ∨ Over s

theorem Over.stays {e : Event} (past : Over s) (own : Own e) : ¬ Steps s e t := by
  cases e <;> first | exact absurd own id | simp [Steps, Pipeline.next, past.1, past.2]

theorem Inv.own_step {e : Event} (inv : Inv s) (called : s.closer ≠ .notYet) (own : Own e)
    (stepped : Steps s e t) : Called t ∧ pending t < pending s := by
  have kept (allowed : Allowed s e) := inv.step allowed stepped
  cases e with
  | takes =>
    dsimp only [Steps, Pipeline.next] at stepped
    split at stepped
    case h_2 => cases stepped
    rename_i chunk rest waiting queued
    cases stepped
    have same : (s.take chunk rest).closer = s.closer := by
      unfold Pipeline.take
      split <;> rfl
    refine ⟨.inl ⟨kept trivial, same ▸ called⟩, ?_⟩
    unfold Pipeline.take
    split <;> simp [pending, Pipeline.begin_, waiting, queued, busy]
    omega
  | returns =>
    dsimp only [Steps, Pipeline.next] at stepped
    split at stepped
    case h_2 => cases stepped
    rename_i chunk here
    cases stepped
    exact ⟨.inl ⟨kept trivial, called⟩, by simp [pending, here, busy]⟩
  | raises exc =>
    dsimp only [Steps, Pipeline.next] at stepped
    split at stepped
    case h_2 => cases stepped
    rename_i chunk here
    cases stepped
    cases exc with
    | cancelled => exact absurd own id
    | failure text =>
      exact ⟨.inl ⟨kept (by simp [Allowed]), called⟩,
        by simp [pending, Pipeline.handlerRaises, here, busy]⟩
  | joins =>
    obtain ⟨ready, ⟨⟩⟩ := Option.ite_none_right_eq_some.mp stepped
    exact ⟨.inl ⟨kept trivial, by simp⟩, by simp [pending, ready.1, closing]⟩
  | cancelsWorker =>
    obtain ⟨joined, ⟨⟩⟩ := Option.ite_none_right_eq_some.mp stepped
    have waiting := (inv.joined joined).2
    exact ⟨.inl ⟨kept trivial, by simp [Pipeline.cancelWorker, waiting]⟩,
      by simp [pending, Pipeline.cancelWorker, waiting, joined, closing, busy]⟩
  | workerStops =>
    obtain ⟨stopping, ⟨⟩⟩ := Option.ite_none_right_eq_some.mp stepped
    exact ⟨.inl ⟨kept trivial, called⟩, by simp [pending, stopping, busy]⟩
  | closeEnds =>
    obtain ⟨ready, ⟨⟩⟩ := Option.ite_none_right_eq_some.mp stepped
    -- What `close` may fail to report does not matter any more.
    unfold Pipeline.closeEnd
    split
    · simp [Called, Over, pending, ready.1, ready.2, closing]
    · split <;> simp [Called, Over, pending, Pipeline.report, ready.1, ready.2, closing]
  | _ => exact absurd own id

theorem Inv.goes_on (inv : Inv s) (called : s.closer ≠ .notYet) (open_ : s.closer ≠ .closed) :
    ∃ e, Own e ∧ ∃ t, Steps s e t := by
  have counted := inv.counted
  cases closer : s.closer with
  | notYet => exact absurd closer called
  | closed => exact absurd closer open_
  | joining =>
    have drains := inv.drains (.inr closer)
    cases worker : s.worker with
    | handling chunk => exact ⟨.returns, trivial, _, by simp [Steps, Pipeline.next, worker]; rfl⟩
    | stopping => exact absurd worker drains.1
    | ended => exact absurd worker drains.2
    | waiting =>
      cases queue : s.queue with
      | nil =>
        have none_ : s.unfinished = 0 := by simpa [queue, worker, busy] using counted
        exact ⟨.joins, trivial, _, if_pos ⟨closer, none_⟩⟩
      | cons chunk rest =>
        exact ⟨.takes, trivial, _, by simp [Steps, Pipeline.next, worker, queue]; rfl⟩
  | joined => exact ⟨.cancelsWorker, trivial, _, if_pos closer⟩
  | stopping =>
    obtain ⟨-, stopping | ended⟩ := inv.stopped (.inl closer)
    · exact ⟨.workerStops, trivial, _, if_pos stopping⟩
    · exact ⟨.closeEnds, trivial, _, if_pos ⟨closer, ended⟩⟩

def closingPipeline : Pipeline :=
  { maxsize := 1, queue := [0], unfinished := 1, attached := false, closer := .joining
    accepted := 1 }

theorem closing_run :
    Run Steps Allowed (Pipeline.started 1) [.submits, .puts, .closes false] closingPipeline :=
  run_of_trace Pipeline.next Allowed (by decide)

end DashcamStats.Transfer.CommitPipeline
