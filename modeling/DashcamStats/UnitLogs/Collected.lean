import DashcamStats.Library.Follow
import DashcamStats.UnitLogs.Capture

namespace DashcamStats.UnitLogs.Capture

open Relation

def Stage.quiet {Line : Type} : Stage Line → Bool
  | .reading | .storing _ | .ensuring | .killing | .removing | .launching => true
  | _ => false

def Stage.imported {Line : Type} : Stage Line → Bool
  | .ensuring | .killing | .removing => true
  | _ => false

def Stage.common {Line : Type} : Stage Line → Bool
  | .absent | .created | .reading | .storing _ | .finished | .called => true
  | _ => false

variable {Line Hash Request Policy : Type}
  {hash : Line → Hash} {silenced : Policy → Line → Bool}
  {s s' : Logs Line Hash Request Policy}

namespace Logs

structure Tasked (s : Logs Line Hash Request Policy) : Prop where
  single : ∀ n, (s.task n).stage.unfinished = true → s.current = some n
  numbered : ∀ n, (s.task n).stage ≠ .absent → n < s.created
  running : ∀ n, s.current = some n → (s.task n).stage ≠ .absent ∧ (s.task n).stage ≠ .called
  kind : ∀ n, (s.task n).arrival = false → (s.task n).stage.common = true

structure Captured (hash : Line → Hash) (s : Logs Line Hash Request Policy) : Prop where
  named : ∀ w, (s.writer w).alive = true → s.writer w ≠ .starting → s.pidFile = some w
  first : ∀ w, s.writer w = .starting → ∀ other, (s.writer other).alive = true → other = w
  stopped : ∀ n w, (s.task n).stage = .waiting w → ∀ other,
    (s.writer other).alive = true → other = w
  quiet : ∀ n, (s.task n).arrival = true → (s.task n).stage.quiet = true →
    ∀ w, (s.writer w).alive = false
  read : ∀ n lines, (s.task n).arrival = true → (s.task n).stage = .storing lines →
    lines = s.files
  settled : ∀ n, (s.task n).stage.imported = true →
    ∀ line ∈ s.files, hash line ∈ s.imported ∨ line ∈ s.dropped

structure Noted (s : Logs Line Hash Request Policy) : Prop where
  pending : s.pending = true → s.shutting = true ∨ s.current ≠ none
  needs : ∀ n, (s.task n).arrival = true → (s.task n).stage.unfinished = true →
    (s.task n).stage = .created ∨ s.needs = true
  stale : ∀ n, (s.task n).arrival = true → (s.task n).stage.unfinished = true →
    (s.task n).fresh = false → s.pending = true
  owed : s.shutting = false → s.owed = true → s.needs = true ∨ s.pending = true ∨
    ∃ n, (s.task n).arrival = true ∧ (s.task n).stage.unfinished = true ∧
      (s.task n).fresh = true

@[simp]
theorem go_task (number : ℕ) (stage : Stage Line) (other : ℕ) : (s.go number stage).task other =
    if other = number then { s.task number with stage } else s.task other := by
  simp [go, Function.update_apply]

@[simp]
theorem startTask_task (arrival : Bool) (other : ℕ) : (s.startTask arrival).task other =
    if other = s.created then ⟨arrival, .created, true⟩ else s.task other := by
  simp [startTask, Function.update_apply]

@[simp]
theorem become_writer (number : ℕ) (writer : Writer) (other : ℕ) :
    (s.become number writer).writer other = if other = number then writer else s.writer other := by
  simp [become, Function.update_apply]

theorem Tasked.fresh (policy : Policy) :
    Tasked (fresh policy : Logs Line Hash Request Policy) := by
  constructor <;> simp [Logs.fresh, Stage.unfinished, Stage.common]

theorem Tasked.go (tasked : s.Tasked) {number : ℕ} {stage : Stage Line}
    (here : (s.task number).stage.unfinished = true) (absent : stage ≠ .absent)
    (called : stage ≠ .called) (common : (s.task number).arrival = false → stage.common = true) :
    (s.go number stage).Tasked := by
  have current := tasked.single number here
  have present : (s.task number).stage ≠ .absent := by
    intro gone
    simp [gone, Stage.unfinished] at here
  constructor
  · intro n unfinished
    by_cases same : n = number
    · exact same ▸ current
    · exact tasked.single n (by simpa [same] using unfinished)
  · intro n there
    by_cases same : n = number
    · exact tasked.numbered n (same ▸ present)
    · exact tasked.numbered n (by simpa [same] using there)
  · intro n isCurrent
    by_cases same : n = number
    · simp [same, absent, called]
    · simpa [same] using tasked.running n isCurrent
  · intro n refresh
    by_cases same : n = number
    · simp only [go_task, same, if_true] at refresh ⊢
      exact common refresh
    · simp only [go_task, same, if_false] at refresh ⊢
      exact tasked.kind n refresh

theorem Tasked.starts (tasked : s.Tasked) (idle : s.busy = false) (arrival : Bool) :
    (s.startTask arrival).Tasked := by
  have none : ∀ n, (s.task n).stage.unfinished = false := by
    intro n
    by_contra unfinished
    have current := tasked.single n (by simpa using unfinished)
    simp only [busy, current, Option.any_some] at idle
    exact unfinished idle
  constructor
  · intro n unfinished
    by_cases same : n = s.created
    · rw [same]
      rfl
    · simp [same, none] at unfinished
  · intro n there
    by_cases same : n = s.created
    · exact same ▸ Nat.lt_succ_self _
    · exact Nat.lt_succ_of_lt (tasked.numbered n (by simpa [same] using there))
  · intro n isCurrent
    have same : s.created = n := by simpa [startTask] using isCurrent
    simp [same]
  · intro n refresh
    by_cases same : n = s.created
    · simp [same, Stage.common]
    · simp only [startTask_task, same, if_false] at refresh ⊢
      exact tasked.kind n refresh

theorem Tasked.of_same (tasked : s.Tasked)
    (tasks : ∀ n, (s'.task n).stage = (s.task n).stage ∧ (s'.task n).arrival = (s.task n).arrival)
    (current : s'.current = s.current) (created : s'.created = s.created) : s'.Tasked := by
  constructor
  · intro n unfinished
    rw [current]
    exact tasked.single n ((tasks n).1 ▸ unfinished)
  · intro n there
    rw [created]
    exact tasked.numbered n ((tasks n).1 ▸ there)
  · intro n isCurrent
    rw [(tasks n).1]
    exact tasked.running n (current ▸ isCurrent)
  · intro n refresh
    rw [(tasks n).1]
    exact tasked.kind n ((tasks n).2 ▸ refresh)

theorem Tasked.asked (tasked : s.Tasked) (request : Request) : (s.ask request).Tasked :=
  tasked.of_same (fun _ => ⟨rfl, rfl⟩) rfl rfl

theorem Tasked.present (tasked : s.Tasked) (due : Bool) : (s.onUnitPresent due).Tasked := by
  unfold onUnitPresent
  split
  · exact tasked
  · rename_i free
    simp only [Bool.or_eq_true, not_or, Bool.not_eq_true] at free
    exact tasked.starts free.1.2 s.needs

theorem Tasked.arrives (tasked : s.Tasked) : s.arrive.Tasked := by
  unfold arrive
  split
  · exact tasked.of_same (fun _ => ⟨rfl, rfl⟩) rfl rfl
  · rename_i free
    exact tasked.starts (by simpa using free) true

theorem Tasked.seen [DecidableEq Request] (tasked : s.Tasked) (request : Option Request)
    (due : Bool) : (s.onUnitSeen request due).Tasked := by
  unfold onUnitSeen
  split
  · exact tasked
  · split
    · exact tasked.arrives
    · rename_i request
      split
      · split
        · exact tasked.present due
        · exact tasked
      · exact (tasked.asked request).arrives

structure Advanced (s : Logs Line Hash Request Policy) (number : ℕ) (stage : Stage Line)
    (s' : Logs Line Hash Request Policy) : Prop where
  task : s'.task = (s.go number stage).task
  current : s'.current = s.current
  created : s'.created = s.created
  pending : s'.pending = s.pending
  shutting : s'.shutting = s.shutting
  forward : stage ≠ .absent ∧ stage ≠ .called ∧ stage ≠ .created
  common : (s.task number).stage.common = true → (s.task number).arrival = false →
    stage.common = true
  -- Only a task that has armed forgets that a collection is needed.
  needs : ((s.task number).stage = .created → (s.task number).arrival = true → s'.needs = true) ∧
    (s.needs = true → s'.needs = true ∨ stage = .finished)
  owed : s'.owed = true → s.owed = true ∧
    (s'.needs = s.needs ∨ s'.needs = true ∨
      ((s.task number).stage.common = false ∧ (s.task number).fresh = false))

theorem advance_spec {number : ℕ} {choice : Bool}
    (h : s.advance hash silenced number choice = some s') :
    (s.task number).stage.unfinished = true ∧ ∃ stage, Advanced s number stage s' := by
  cases stage : (s.task number).stage
  all_goals simp only [advance, stage, reduceCtorEq, Option.some.injEq] at h
  all_goals subst h
  all_goals refine ⟨rfl, ?_⟩
  all_goals repeat' split
  all_goals refine ⟨_, rfl, rfl, rfl, rfl, rfl, by simp, ?_, ?_, ?_⟩
  all_goals simp_all [go, store, become, Stage.common]

theorem Tasked.advances (tasked : s.Tasked) {number : ℕ} {choice : Bool}
    (h : s.advance hash silenced number choice = some s') : s'.Tasked := by
  obtain ⟨here, stage, advanced⟩ := advance_spec h
  have common : (s.task number).arrival = false → stage.common = true :=
    fun refresh => advanced.common (tasked.kind number refresh) refresh
  have moved := tasked.go here advanced.forward.1 advanced.forward.2.1 common
  refine moved.of_same (fun n => ?_) advanced.current advanced.created
  rw [advanced.task]
  exact ⟨rfl, rfl⟩

def pop (number : ℕ) (s : Logs Line Hash Request Policy) : Logs Line Hash Request Policy :=
  { s with current := if s.current = some number then none else s.current }.go number .called

theorem callback_spec {number : ℕ} (h : s.callback number = some s') :
    (s.task number).stage = .finished ∧
    ((s' = s.pop number ∧
        (s.current = some number → s.pending = true → s.shutting = true)) ∨
      (s.current = some number ∧ s.pending = true ∧
        ((s.enabled = true ∧ s' = { s.pop number with pending := false }.startTask true) ∨
          (s.enabled = false ∧ s' = { s.pop number with pending := false })))) := by
  unfold callback at h
  split at h
  · rename_i finished
    refine ⟨finished, ?_⟩
    simp only [Option.some.injEq] at h
    subst h
    by_cases owns : s.current = some number <;> by_cases pending : s.pending = true <;>
      by_cases shutting : s.shutting = true <;> by_cases enabled : s.enabled = true <;>
      simp_all [pop, go]
  · simp at h

theorem Tasked.popped (tasked : s.Tasked) {number : ℕ}
    (finished : (s.task number).stage = .finished) : (s.pop number).Tasked := by
  constructor
  · intro n unfinished
    by_cases same : n = number
    · simp [pop, same, Stage.unfinished] at unfinished
    · have current := tasked.single n (by simpa [pop, same] using unfinished)
      have other : s.current ≠ some number := by simp [current, same]
      simp only [pop, if_neg other]
      exact current
  · intro n there
    by_cases same : n = number
    · exact tasked.numbered n (by simp [same, finished])
    · exact tasked.numbered n (by simpa [pop, same] using there)
  · intro n isCurrent
    have isCurrent : (if s.current = some number then none else s.current) = some n := isCurrent
    split at isCurrent
    · cases isCurrent
    · rename_i other
      have same : n ≠ number := fun same => other (same ▸ isCurrent)
      simpa [pop, same] using tasked.running n isCurrent
  · intro n refresh
    by_cases same : n = number
    · simp [pop, same, Stage.common]
    · simp only [pop, go_task, same, if_false] at refresh ⊢
      exact tasked.kind n refresh

theorem Tasked.idle (tasked : s.Tasked) (none : s.busy = false) (n : ℕ) :
    (s.task n).stage.unfinished = false := by
  by_contra unfinished
  have current := tasked.single n (by simpa using unfinished)
  simp only [busy, current, Option.any_some] at none
  exact unfinished none

theorem Noted.fresh (policy : Policy) :
    Noted (fresh policy : Logs Line Hash Request Policy) := by
  constructor <;> simp [Logs.fresh]

theorem Noted.starts (noted : s.Noted) (tasked : s.Tasked) (idle : s.busy = false)
    (arrival : Bool) : (s.startTask arrival).Noted := by
  have none := tasked.idle idle
  refine ⟨fun _ => .inr (by simp [startTask]), ?_, ?_, ?_⟩
  · intro n _ unfinished
    by_cases same : n = s.created
    · exact .inl (by simp [same])
    · simp [same, none] at unfinished
  · intro n _ unfinished stale
    by_cases same : n = s.created
    · simp [same] at stale
    · simp [same, none] at unfinished
  · intro running owed
    obtain needs | pending | ⟨n, -, unfinished, -⟩ := noted.owed running owed
    · exact .inl needs
    · exact .inr (.inl pending)
    · simp [none] at unfinished

theorem Tasked.noted_of_arrival (tasked : s.Tasked) (idle : s.busy = false) :
    (s.startTask true).Noted := by
  have none := tasked.idle idle
  refine ⟨fun _ => .inr (by simp [startTask]), ?_, ?_, ?_⟩
  · intro n _ unfinished
    by_cases same : n = s.created
    · exact .inl (by simp [same])
    · simp [same, none] at unfinished
  · intro n _ unfinished stale
    by_cases same : n = s.created
    · simp [same] at stale
    · simp [same, none] at unfinished
  · exact fun _ _ => .inr (.inr ⟨s.created, by simp, by simp [Stage.unfinished], by simp⟩)

theorem Noted.present (noted : s.Noted) (tasked : s.Tasked) (due : Bool) :
    (s.onUnitPresent due).Noted := by
  unfold onUnitPresent
  split
  · exact noted
  · rename_i free
    simp only [Bool.or_eq_true, not_or, Bool.not_eq_true] at free
    exact noted.starts tasked free.1.2 s.needs

-- `needs` holds of what runs, and then the rest follows from the arrival.
theorem Tasked.noted_of_arrive (tasked : s.Tasked)
    (needs : ∀ n, (s.task n).arrival = true → (s.task n).stage.unfinished = true →
      (s.task n).stage = .created ∨ s.needs = true) : s.arrive.Noted := by
  unfold arrive
  split
  · rename_i busy
    refine ⟨fun _ => .inr ?_, needs, fun _ _ _ _ => rfl, fun _ _ => .inr (.inl rfl)⟩
    intro nobody
    have nobody : s.current = none := nobody
    simp [Logs.busy, nobody] at busy
  · rename_i free
    exact tasked.noted_of_arrival (by simpa using free)

theorem Noted.seen [DecidableEq Request] (noted : s.Noted) (tasked : s.Tasked)
    (request : Option Request) (due : Bool) : (s.onUnitSeen request due).Noted := by
  unfold onUnitSeen
  split
  · exact noted
  · split
    · exact tasked.noted_of_arrive noted.needs
    · rename_i request
      split
      · split
        · exact noted.present tasked due
        · exact noted
      · exact (tasked.asked request).noted_of_arrive noted.needs

theorem Noted.advances (noted : s.Noted) (tasked : s.Tasked) {number : ℕ} {choice : Bool}
    (h : s.advance hash silenced number choice = some s') : s'.Noted := by
  obtain ⟨here, stage, advanced⟩ := advance_spec h
  have current := tasked.single number here
  have only : ∀ n, (s.task n).stage.unfinished = true → n = number := by
    intro n unfinished
    have same := tasked.single n unfinished
    simpa [current] using same.symm
  have task : ∀ n, s'.task n = if n = number then { s.task number with stage } else s.task n := by
    intro n
    rw [advanced.task, go_task]
  have others : ∀ n, n ≠ number → (s'.task n).stage.unfinished = false := by
    intro n different
    by_contra unfinished
    rw [task, if_neg different] at unfinished
    exact different (only n (by simpa using unfinished))
  have needed : (s.task number).arrival = true → s'.needs = true ∨ stage = .finished := by
    intro arrival
    obtain created | needs := noted.needs number arrival here
    · exact .inl (advanced.needs.1 created arrival)
    · exact advanced.needs.2 needs
  constructor
  · intro pending
    rw [advanced.pending] at pending
    rw [advanced.shutting, advanced.current]
    exact noted.pending pending
  · intro n arrival unfinished
    by_cases same : n = number
    · rw [task, if_pos same] at arrival unfinished
      obtain needs | rfl := needed arrival
      · exact .inr needs
      · cases unfinished
    · simp [others n same] at unfinished
  · intro n arrival unfinished stale
    rw [advanced.pending]
    by_cases same : n = number
    · rw [task, if_pos same] at arrival stale
      exact noted.stale number arrival here stale
    · simp [others n same] at unfinished
  · intro running owed
    rw [advanced.shutting] at running
    obtain ⟨owed, kept⟩ := advanced.owed owed
    have retried : s.needs = true → s'.needs = true ∨ s'.pending = true := by
      intro needs
      obtain same | needs' | ⟨arming, stale⟩ := kept
      · exact .inl (same.trans needs)
      · exact .inl needs'
      · have arrival : (s.task number).arrival = true := by
          by_contra refresh
          have common := tasked.kind number (by simpa using refresh)
          rw [common] at arming
          cases arming
        exact .inr (advanced.pending.trans (noted.stale number arrival here stale))
    obtain needs | pending | ⟨n, arrival, unfinished, fresh⟩ := noted.owed running owed
    · exact (retried needs).imp_right .inl
    · exact .inr (.inl (advanced.pending.trans pending))
    · obtain rfl := only n unfinished
      by_cases ended : stage.unfinished = true
      · refine .inr (.inr ⟨n, ?_, ?_, ?_⟩) <;> rw [task, if_pos rfl] <;> assumption
      · obtain created | needs := noted.needs n arrival unfinished
        · exact .inl (advanced.needs.1 created arrival)
        · exact (retried needs).imp_right .inl

theorem Noted.calls (noted : s.Noted) (tasked : s.Tasked) {number : ℕ}
    (orderly : s.current = some number → s.pending = true → s.owed = true →
      s.shutting = false → s.enabled = true)
    (h : s.callback number = some s') : s'.Noted := by
  obtain ⟨finished, outcome⟩ := callback_spec h
  have popped := tasked.popped finished
  have tasks : ∀ n, (s.task n).stage.unfinished = true → (s.pop number).task n = s.task n := by
    intro n unfinished
    have different : n ≠ number := by
      rintro rfl
      simp [finished, Stage.unfinished] at unfinished
    simp [pop, different]
  have idle : s.current = some number → ∀ n, (s.task n).stage.unfinished = false := by
    intro owns n
    by_contra unfinished
    have current := tasked.single n (by simpa using unfinished)
    rw [owns, Option.some.injEq] at current
    subst current
    simp [finished, Stage.unfinished] at unfinished
  have before : ∀ n, ((s.pop number).task n).stage.unfinished = true →
      (s.task n).stage.unfinished = true := by
    intro n unfinished
    by_cases same : n = number
    · simp [pop, same, Stage.unfinished] at unfinished
    · simpa [pop, same] using unfinished
  obtain ⟨rfl, left⟩ | ⟨owns, pending, ⟨enabled, rfl⟩ | ⟨enabled, rfl⟩⟩ := outcome
  · constructor
    · intro pending
      by_cases owns : s.current = some number
      · exact .inl (left owns pending)
      · refine (noted.pending pending).imp_right fun current => ?_
        have same : (s.pop number).current = s.current := if_neg owns
        rw [same]
        exact current
    · intro n arrival unfinished
      have running := before n unfinished
      rw [tasks n running] at arrival ⊢
      exact noted.needs n arrival running
    · intro n arrival unfinished stale
      have running := before n unfinished
      rw [tasks n running] at arrival stale
      exact noted.stale n arrival running stale
    · intro running owed
      obtain needs | pending | ⟨n, arrival, unfinished, fresh⟩ := noted.owed running owed
      · exact .inl needs
      · exact .inr (.inl pending)
      · refine .inr (.inr ⟨n, ?_⟩)
        rw [tasks n unfinished]
        exact ⟨arrival, unfinished, fresh⟩
  · have taking : Tasked { s.pop number with pending := false } :=
      popped.of_same (fun _ => ⟨rfl, rfl⟩) rfl rfl
    have nobody : (s.pop number).current = none := if_pos owns
    refine taking.noted_of_arrival ?_
    simp [busy, nobody]
  · constructor
    · simp
    · intro n arrival unfinished
      have running := before n unfinished
      simp [idle owns n] at running
    · intro n arrival unfinished stale
      have running := before n unfinished
      simp [idle owns n] at running
    · intro running owed
      have enabled' := orderly owns pending owed running
      rw [enabled] at enabled'
      cases enabled'

theorem Captured.fresh (policy : Policy) :
    Captured hash (fresh policy : Logs Line Hash Request Policy) := by
  constructor <;> simp [Logs.fresh, Writer.alive, Stage.quiet, Stage.imported]

def plain (stage : Stage Line) : Prop := stage = .created ∨ stage = .called

theorem Captured.of_same (captured : s.Captured hash) (writer : s'.writer = s.writer)
    (pidFile : s'.pidFile = s.pidFile) (files : s'.files = s.files)
    (imported : s'.imported = s.imported) (dropped : s'.dropped = s.dropped)
    (tasks : ∀ n, plain (s'.task n).stage ∨
      ((s'.task n).stage = (s.task n).stage ∧ (s'.task n).arrival = (s.task n).arrival)) :
    s'.Captured hash := by
  constructor
  · rw [writer, pidFile]
    exact captured.named
  · rw [writer]
    exact captured.first
  · intro n w waiting
    rw [writer]
    obtain (created | called) | ⟨stage, -⟩ := tasks n
    · simp [created] at waiting
    · simp [called] at waiting
    · exact captured.stopped n w (stage ▸ waiting)
  · intro n arrival quiet
    rw [writer]
    obtain (created | called) | ⟨stage, same⟩ := tasks n
    · simp [created, Stage.quiet] at quiet
    · simp [called, Stage.quiet] at quiet
    · exact captured.quiet n (same ▸ arrival) (stage ▸ quiet)
  · intro n lines arrival storing
    rw [files]
    obtain (created | called) | ⟨stage, same⟩ := tasks n
    · simp [created] at storing
    · simp [called] at storing
    · exact captured.read n lines (same ▸ arrival) (stage ▸ storing)
  · intro n settled
    rw [files, imported, dropped]
    obtain (created | called) | ⟨stage, -⟩ := tasks n
    · simp [created, Stage.imported] at settled
    · simp [called, Stage.imported] at settled
    · exact captured.settled n (stage ▸ settled)

theorem Captured.starts (captured : s.Captured hash) (arrival : Bool) :
    (s.startTask arrival).Captured hash := by
  refine captured.of_same rfl rfl rfl rfl rfl fun n => ?_
  by_cases same : n = s.created
  · exact .inl (.inl (by simp [same]))
  · exact .inr (by simp [same])

theorem Captured.present (captured : s.Captured hash) (due : Bool) :
    (s.onUnitPresent due).Captured hash := by
  unfold onUnitPresent
  split
  · exact captured
  · exact captured.starts s.needs

theorem Captured.arrives (captured : s.Captured hash) : s.arrive.Captured hash := by
  unfold arrive
  split
  · exact captured.of_same rfl rfl rfl rfl rfl fun _ => .inr ⟨rfl, rfl⟩
  · exact captured.starts true

theorem Captured.seen [DecidableEq Request] (captured : s.Captured hash)
    (request : Option Request) (due : Bool) : (s.onUnitSeen request due).Captured hash := by
  unfold onUnitSeen
  split
  · exact captured
  · split
    · exact captured.arrives
    · rename_i request
      have asked : (s.ask request).Captured hash :=
        captured.of_same rfl rfl rfl rfl rfl fun _ => .inr ⟨rfl, rfl⟩
      split
      · split
        · exact captured.present due
        · exact captured
      · exact asked.arrives

theorem Captured.calls (captured : s.Captured hash) {number : ℕ}
    (h : s.callback number = some s') : s'.Captured hash := by
  obtain ⟨-, outcome⟩ := callback_spec h
  have popped : ∀ n, plain ((s.pop number).task n).stage ∨
      (((s.pop number).task n).stage = (s.task n).stage ∧
        ((s.pop number).task n).arrival = (s.task n).arrival) := by
    intro n
    by_cases same : n = number
    · exact .inl (.inr (by simp [pop, same]))
    · exact .inr (by simp [pop, same])
  have taken : Captured hash { s.pop number with pending := false } :=
    captured.of_same rfl rfl rfl rfl rfl popped
  obtain ⟨rfl, -⟩ | ⟨-, -, ⟨-, rfl⟩ | ⟨-, rfl⟩⟩ := outcome
  · exact captured.of_same rfl rfl rfl rfl rfl popped
  · exact taken.starts true
  · exact taken

theorem Captured.go (captured : s.Captured hash) {number : ℕ} {stage : Stage Line}
    (stopped : ∀ w, stage = .waiting w → ∀ other, (s.writer other).alive = true → other = w)
    (quiet : (s.task number).arrival = true → stage.quiet = true →
      ∀ w, (s.writer w).alive = false)
    (read : ∀ lines, stage = .storing lines → lines = s.files)
    (settled : stage.imported = true →
      ∀ line ∈ s.files, hash line ∈ s.imported ∨ line ∈ s.dropped) :
    (s.go number stage).Captured hash := by
  refine ⟨captured.named, captured.first, ?_, ?_, ?_, ?_⟩
  · intro n w waiting
    by_cases same : n = number
    · exact stopped w (by simpa [same] using waiting)
    · exact captured.stopped n w (by simpa [same] using waiting)
  · intro n arrival isQuiet
    by_cases same : n = number
    · simp only [go_task, same, if_true] at arrival isQuiet
      exact quiet arrival isQuiet
    · simp only [go_task, same, if_false] at arrival isQuiet
      exact captured.quiet n arrival isQuiet
  · intro n lines arrival storing
    by_cases same : n = number
    · exact read lines (by simpa [same] using storing)
    · simp only [go_task, same, if_false] at arrival storing
      exact captured.read n lines arrival storing
  · intro n isSettled
    by_cases same : n = number
    · exact settled (by simpa [same] using isSettled)
    · exact captured.settled n (by simpa [same] using isSettled)

theorem Captured.fails (captured : s.Captured hash) (number : ℕ) :
    (s.go number .finished).Captured hash :=
  captured.go (by simp) (by simp [Stage.quiet]) (by simp) (by simp [Stage.imported])

theorem mem_store {lines : List Line} {line : Line} (among : line ∈ lines) :
    hash line ∈ (s.store hash silenced lines).imported ∨
      line ∈ (s.store hash silenced lines).dropped := by
  by_cases quiet : silenced s.policy line = true
  · exact .inr (List.mem_append_left _ (List.mem_filter.mpr ⟨among, quiet⟩))
  · refine .inl (List.mem_append_left _ (List.mem_map.mpr ⟨line, ?_, rfl⟩))
    exact List.mem_filter.mpr ⟨among, by simpa using quiet⟩

theorem Captured.stored (captured : s.Captured hash) (lines : List Line) :
    (s.store hash silenced lines).Captured hash := by
  refine ⟨captured.named, captured.first, captured.stopped, captured.quiet, captured.read, ?_⟩
  intro n settled line among
  exact (captured.settled n settled line among).imp (List.mem_append_right _)
    (List.mem_append_right _)

theorem Stage.unfinished_of {stage : Stage Line}
    (h : stage.quiet = true ∨ stage.imported = true ∨ (∃ w, stage = .waiting w)) :
    stage.unfinished = true := by
  obtain h | h | ⟨w, rfl⟩ := h
  · cases stage <;> simp_all [Stage.quiet, Stage.unfinished]
  · cases stage <;> simp_all [Stage.imported, Stage.unfinished]
  · rfl

theorem captured_of_alone (number : ℕ) {stage : Stage Line} {t : Logs Line Hash Request Policy}
    (others : ∀ n, n ≠ number → (t.task n).stage.unfinished = false)
    (here : (t.task number).stage = stage)
    (silent : stage = .launching ∨ stage = .replying)
    (dead : stage = .launching → ∀ w, (t.writer w).alive = false)
    (named : ∀ w, (t.writer w).alive = true → t.writer w ≠ .starting → t.pidFile = some w)
    (first : ∀ w, t.writer w = .starting → ∀ other, (t.writer other).alive = true → other = w) :
    t.Captured hash := by
  have only : ∀ n, (t.task n).stage.unfinished = true → n = number := by
    intro n unfinished
    by_contra different
    rw [others n different] at unfinished
    cases unfinished
  refine ⟨named, first, ?_, ?_, ?_, ?_⟩
  · intro n w waiting
    obtain rfl := only n (Stage.unfinished_of (.inr (.inr ⟨w, waiting⟩)))
    rw [here] at waiting
    obtain rfl | rfl := silent <;> cases waiting
  · intro n _ quiet
    obtain rfl := only n (Stage.unfinished_of (.inl quiet))
    rw [here] at quiet
    obtain rfl | rfl := silent
    · exact dead rfl
    · cases quiet
  · intro n lines _ storing
    obtain rfl := only n (by rw [storing]; rfl)
    rw [here] at storing
    obtain rfl | rfl := silent <;> cases storing
  · intro n settled
    obtain rfl := only n (Stage.unfinished_of (.inr (.inl settled)))
    rw [here] at settled
    obtain rfl | rfl := silent <;> cases settled

theorem Captured.advances (captured : s.Captured hash) (tasked : s.Tasked) {number : ℕ}
    {choice : Bool}
    (orderly : choice = true → (s.task number).stage = .stopping →
      ∀ w, s.writer w ≠ .starting)
    (h : s.advance hash silenced number choice = some s') : s'.Captured hash := by
  have others : ∀ n, n ≠ number → (s.task number).stage.unfinished = true →
      (s.task n).stage.unfinished = false := by
    intro n different here
    by_contra unfinished
    have first := tasked.single number here
    have second := tasked.single n (by simpa using unfinished)
    exact different (by simpa [first] using second.symm)
  have kind := tasked.kind number
  have armed : (s.task number).stage.common = false → (s.task number).arrival = true := by
    intro special
    by_contra refresh
    rw [kind (by simpa using refresh)] at special
    cases special
  have still : (s.task number).stage.quiet = true → (s.task number).arrival = true →
      ∀ w, (s.writer w).alive = false := fun quiet arrival => captured.quiet number arrival quiet
  cases stage : (s.task number).stage
  all_goals simp only [advance, stage, reduceCtorEq, Option.some.injEq] at h
  all_goals subst h
  all_goals rw [stage] at armed still
  case created =>
    split
    · have needing : Captured hash { s with needs := true } :=
        captured.of_same rfl rfl rfl rfl rfl fun _ => .inr ⟨rfl, rfl⟩
      exact needing.go (by simp) (by simp [Stage.quiet]) (by simp) (by simp [Stage.imported])
    · rename_i refresh
      exact captured.go (by simp) (fun arrival => absurd arrival refresh) (by simp)
        (by simp [Stage.imported])
  case stopping =>
    split
    · rename_i done
      have none := orderly done stage
      split
      · rename_i absent
        refine captured.go (by simp) (fun _ _ w => ?_) (by simp) (by simp [Stage.imported])
        by_contra alive
        have named := captured.named w (by simpa using alive) (none w)
        rw [absent] at named
        cases named
      · rename_i w present
        have named : ∀ other, (s.writer other).alive = true → other = w := by
          intro other alive
          have named := captured.named other alive (none other)
          rw [present] at named
          exact (Option.some.inj named).symm
        split
        · refine captured.go (fun v same => ?_) (by simp [Stage.quiet]) (by simp)
            (by simp [Stage.imported])
          cases same
          exact named
        · rename_i dead
          refine captured.go (by simp) (fun _ _ other => ?_) (by simp) (by simp [Stage.imported])
          by_contra alive
          have same := named other (by simpa using alive)
          exact dead (same ▸ by simpa using alive)
    · exact captured.fails number
  case waiting w =>
    have named := captured.stopped number w stage
    split
    · rename_i dead
      simp only [Bool.and_eq_true, Bool.not_eq_true'] at dead
      refine captured.go (by simp) (fun _ _ other => ?_) (by simp) (by simp [Stage.imported])
      by_contra alive
      have same := named other (by simpa using alive)
      rw [same, dead.2] at alive
      exact alive rfl
    · exact captured.fails number
  case reading =>
    split
    · refine captured.go (by simp) (fun arrival _ => still rfl arrival) (fun lines same => ?_)
        (by simp [Stage.imported])
      cases same
      rfl
    · exact captured.fails number
  case storing lines =>
    split
    · have stored : (s.store hash silenced lines).Captured hash := captured.stored lines
      split
      · rename_i arrival
        have same := captured.read number lines arrival stage
        refine stored.go (by simp) (fun _ _ => still rfl arrival) (by simp) fun _ line among => ?_
        have among : line ∈ s.files := among
        exact mem_store (same ▸ among)
      · exact stored.fails number
    · exact captured.fails number
  case ensuring =>
    split
    · exact captured.go (by simp) (fun arrival _ => still rfl arrival) (by simp)
        fun _ => captured.settled number (by rw [stage]; rfl)
    · exact captured.fails number
  case killing =>
    split
    · exact captured.go (by simp) (fun arrival _ => still rfl arrival) (by simp)
        fun _ => captured.settled number (by rw [stage]; rfl)
    · exact captured.fails number
  case removing =>
    have dead := still rfl (armed rfl)
    split
    · refine captured_of_alone number (fun n different => ?_) (by simp) (.inl rfl)
        (fun _ => dead) (fun w alive => ?_) (fun w starting => ?_)
      · simpa [different] using others n different (by rw [stage]; rfl)
      · have alive : (s.writer w).alive = true := alive
        simp [dead w] at alive
      · have starting : s.writer w = .starting := starting
        have dead := dead w
        rw [starting] at dead
        cases dead
    · exact captured.fails number
  case launching =>
    have dead := still rfl (armed rfl)
    split
    · refine captured_of_alone number (fun n different => ?_) (by simp) (.inr rfl)
        (by simp) (fun w alive old => ?_) (fun w starting other alive => ?_)
      · simpa [different, become] using others n different (by rw [stage]; rfl)
      · by_cases new : w = s.launched
        · simp [Logs.go, become, new] at old
        · have alive : (s.writer w).alive = true := by
            simpa [Logs.go, become, Function.update_apply, new] using alive
          simp [dead w] at alive
      · have only : ∀ v, ((if v = s.launched then Writer.starting else s.writer v)).alive = true →
            v = s.launched := by
          intro v alive
          by_contra old
          rw [if_neg old, dead v] at alive
          cases alive
        have first := only w (by
          have starting : (if w = s.launched then Writer.starting else s.writer w) = .starting := by
            simpa [Logs.go, become, Function.update_apply] using starting
          rw [starting]
          rfl)
        have second := only other (by
          simpa [Logs.go, become, Function.update_apply] using alive)
        exact second.trans first.symm
    · exact captured.fails number
  case replying =>
    split
    · have armed : Captured hash
          { s with needs := false, owed := s.owed && !(s.task number).fresh } :=
        captured.of_same rfl rfl rfl rfl rfl fun _ => .inr ⟨rfl, rfl⟩
      exact armed.fails number
    · exact captured.fails number

theorem Captured.writes (captured : s.Captured hash) (tasked : s.Tasked)
    {event : Event Line Request Policy} {w : ℕ}
    (own : event = .writePid w ∨ event = .exec w ∨ (∃ line, event = .write w line) ∨
      event = .die w)
    [DecidableEq Request] (h : s.step hash silenced event = some s') : s'.Captured hash := by
  have loud : ∀ v, (s.writer v).alive = true → ∀ n, (s.task n).arrival = true →
      (s.task n).stage.quiet = false := by
    intro v alive n arrival
    by_contra quiet
    have dead := captured.quiet n arrival (by simpa using quiet) v
    rw [alive] at dead
    cases dead
  have armed : ∀ n, (s.task n).stage.imported = true →
      (s.task n).arrival = true ∧ (s.task n).stage.quiet = true := by
    intro n settled
    cases stage : (s.task n).stage <;> simp_all [Stage.imported, Stage.quiet]
    all_goals
      by_contra refresh
      have common := tasked.kind n (by simpa using refresh)
      simp [stage, Stage.common] at common
  obtain rfl | rfl | ⟨line, rfl⟩ | rfl := own
  · simp only [step] at h
    split at h
    case isFalse => simp at h
    case isTrue starting =>
      obtain rfl := Option.some.inj h
      have alone := captured.first w starting
      have living : ∀ v, ((s.become w .ready).writer v).alive = (s.writer v).alive := by
        intro v
        by_cases same : v = w
        · simp [same, starting, Writer.alive]
        · simp [same]
      refine ⟨fun v alive _ => ?_, fun v first => ?_, fun n u waiting v alive => ?_,
        fun n arrival quiet v => ?_, captured.read, captured.settled⟩
      · exact congrArg some (alone v ((living v).symm.trans alive)).symm
      · have same : v ≠ w := by
          rintro rfl
          simp at first
        have first : s.writer v = .starting := by simpa [same] using first
        exact absurd (alone v (by rw [first]; rfl)) same
      · exact captured.stopped n u waiting v ((living v).symm.trans alive)
      · exact (living v).trans (captured.quiet n arrival quiet v)
  · simp only [step] at h
    split at h
    case isFalse => simp at h
    case isTrue ready =>
      obtain rfl := Option.some.inj h
      have living : ∀ v, ((s.become w .writing).writer v).alive = (s.writer v).alive := by
        intro v
        by_cases same : v = w
        · simp [same, ready, Writer.alive]
        · simp [same]
      refine ⟨fun v alive old => ?_, fun v first v' alive => ?_, fun n u waiting v alive => ?_,
        fun n arrival quiet v => ?_, captured.read, captured.settled⟩
      · refine captured.named v ((living v).symm.trans alive) fun starting => old ?_
        have same : v ≠ w := by
          rintro rfl
          simp [ready] at starting
        simpa [same] using starting
      · have same : v ≠ w := by
          rintro rfl
          simp at first
        exact captured.first v (by simpa [same] using first) v' ((living v').symm.trans alive)
      · exact captured.stopped n u waiting v ((living v).symm.trans alive)
      · exact (living v).trans (captured.quiet n arrival quiet v)
  · simp only [step] at h
    split at h
    case isFalse => simp at h
    case isTrue writing =>
      obtain rfl := Option.some.inj h
      have quietless := loud w (by rw [writing]; rfl)
      refine ⟨captured.named, captured.first, captured.stopped, captured.quiet,
        fun n lines arrival storing => ?_, fun n settled => ?_⟩
      · have stage : (s.task n).stage = .storing lines := storing
        have quiet := quietless n arrival
        rw [stage] at quiet
        cases quiet
      · obtain ⟨arrival, quiet⟩ := armed n settled
        rw [quietless n arrival] at quiet
        cases quiet
  · simp only [step] at h
    split at h
    case isFalse => simp at h
    case isTrue alive =>
      obtain rfl := Option.some.inj h
      have living : ∀ v, ((s.become w .dead).writer v).alive = true →
          v ≠ w ∧ (s.writer v).alive = true := by
        intro v alive
        by_cases same : v = w
        · simp [same, Writer.alive] at alive
        · exact ⟨same, by simpa [same] using alive⟩
      refine ⟨fun v alive old => ?_, fun v first v' alive => ?_, fun n u waiting v alive => ?_,
        fun n arrival quiet v => ?_, captured.read, captured.settled⟩
      · obtain ⟨same, alive⟩ := living v alive
        exact captured.named v alive (by simpa [same] using old)
      · have same : v ≠ w := by
          rintro rfl
          simp at first
        exact captured.first v (by simpa [same] using first) v' (living v' alive).2
      · exact captured.stopped n u waiting v (living v alive).2
      · by_contra alive
        have dead := captured.quiet n arrival quiet v
        rw [(living v (by simpa using alive)).2] at dead
        cases dead

theorem Tasked.step [DecidableEq Request] (tasked : s.Tasked) {event : Event Line Request Policy}
    (h : s.step hash silenced event = some s') : s'.Tasked := by
  have same : ∀ t : Logs Line Hash Request Policy, t.task = s.task → t.current = s.current →
      t.created = s.created → t.Tasked := by
    intro t tasks current created
    refine tasked.of_same (fun n => ?_) current created
    rw [tasks]
    exact ⟨rfl, rfl⟩
  cases event with
  | seen request due =>
    obtain rfl := Option.some.inj h
    exact tasked.seen request due
  | present due =>
    obtain rfl := Option.some.inj h
    exact tasked.present due
  | advance number choice => exact tasked.advances h
  | callback number =>
    obtain ⟨finished, outcome⟩ := callback_spec h
    have popped := tasked.popped finished
    have taking : Tasked { s.pop number with pending := false } :=
      popped.of_same (fun _ => ⟨rfl, rfl⟩) rfl rfl
    obtain ⟨rfl, -⟩ | ⟨owns, -, ⟨-, rfl⟩ | ⟨-, rfl⟩⟩ := outcome
    · exact popped
    · have nobody : (s.pop number).current = none := if_pos owns
      exact taking.starts (by simp [busy, nobody]) true
    · exact taking
  | enable | silence | shutdown =>
    obtain rfl := Option.some.inj h
    exact same _ rfl rfl rfl
  | writePid | exec | write | die =>
    simp only [Logs.step] at h
    split at h
    · obtain rfl := Option.some.inj h
      exact same _ rfl rfl rfl
    · simp at h

theorem Noted.of_same (noted : s.Noted) (task : s'.task = s.task) (current : s'.current = s.current)
    (pending : s'.pending = s.pending) (needs : s'.needs = s.needs) (owed : s'.owed = s.owed)
    (shutting : s'.shutting = s.shutting ∨ s'.shutting = true) : s'.Noted := by
  refine ⟨fun waiting => ?_, ?_, ?_, fun running => ?_⟩
  · obtain same | closing := shutting
    · rw [same, current]
      exact noted.pending (pending ▸ waiting)
    · exact .inl closing
  · rw [task, needs]
    exact noted.needs
  · rw [task, pending]
    exact noted.stale
  · obtain same | closing := shutting
    · rw [owed, needs, pending, task]
      exact noted.owed (same ▸ running)
    · rw [closing] at running
      cases running

structure Sound (hash : Line → Hash) (s : Logs Line Hash Request Policy) : Prop where
  tasked : s.Tasked
  captured : s.Captured hash
  noted : s.Noted

theorem Sound.step [DecidableEq Request] (sound : s.Sound hash)
    {event : Event Line Request Policy} (orderly : event.Orderly s)
    (h : s.step hash silenced event = some s') : s'.Sound hash := by
  obtain ⟨tasked, captured, noted⟩ := sound
  have both : s'.Captured hash ∧ s'.Noted := by
    cases event with
    | seen request due =>
      obtain rfl := Option.some.inj h
      exact ⟨captured.seen request due, noted.seen tasked request due⟩
    | present due =>
      obtain rfl := Option.some.inj h
      exact ⟨captured.present due, noted.present tasked due⟩
    | advance number choice => exact ⟨captured.advances tasked orderly h, noted.advances tasked h⟩
    | callback number => exact ⟨captured.calls h, noted.calls tasked orderly h⟩
    | enable | silence =>
      obtain rfl := Option.some.inj h
      exact ⟨captured.of_same rfl rfl rfl rfl rfl fun _ => .inr ⟨rfl, rfl⟩,
        noted.of_same rfl rfl rfl rfl rfl (.inl rfl)⟩
    | shutdown =>
      obtain rfl := Option.some.inj h
      exact ⟨captured.of_same rfl rfl rfl rfl rfl fun _ => .inr ⟨rfl, rfl⟩,
        noted.of_same rfl rfl rfl rfl rfl (.inr rfl)⟩
    | writePid w =>
      refine ⟨captured.writes tasked (.inl rfl) h, ?_⟩
      simp only [Logs.step] at h
      split at h
      · obtain rfl := Option.some.inj h
        exact noted.of_same rfl rfl rfl rfl rfl (.inl rfl)
      · simp at h
    | exec w =>
      refine ⟨captured.writes tasked (.inr (.inl rfl)) h, ?_⟩
      simp only [Logs.step] at h
      split at h
      · obtain rfl := Option.some.inj h
        exact noted.of_same rfl rfl rfl rfl rfl (.inl rfl)
      · simp at h
    | write w line =>
      refine ⟨captured.writes tasked (.inr (.inr (.inl ⟨line, rfl⟩))) h, ?_⟩
      simp only [Logs.step] at h
      split at h
      · obtain rfl := Option.some.inj h
        exact noted.of_same rfl rfl rfl rfl rfl (.inl rfl)
      · simp at h
    | die w =>
      refine ⟨captured.writes tasked (.inr (.inr (.inr rfl))) h, ?_⟩
      simp only [Logs.step] at h
      split at h
      · obtain rfl := Option.some.inj h
        exact noted.of_same rfl rfl rfl rfl rfl (.inl rfl)
      · simp at h
  exact ⟨tasked.step h, both.1, both.2⟩

theorem Sound.acknowledged (sound : s.Sound hash) : s.Acknowledged hash := fun number removing =>
  sound.captured.settled number (by rw [removing]; rfl)

theorem Sound.remembered (sound : s.Sound hash) : s.Remembered := by
  intro still _ running owed
  have ended : ∀ n, (s.task n).stage.unfinished = false := by
    intro n
    obtain absent | called := still n
    · rw [absent]
      rfl
    · rw [called]
      rfl
  obtain needs | pending | ⟨n, -, unfinished, -⟩ := sound.noted.owed running owed
  · exact needs
  · obtain closing | current := sound.noted.pending pending
    · rw [closing] at running
      cases running
    · obtain ⟨n, current⟩ := Option.ne_none_iff_exists'.mp current
      obtain ⟨present, uncalled⟩ := sound.tasked.running n current
      exact absurd (still n) (not_or.mpr ⟨present, uncalled⟩)
  · rw [ended n] at unfinished
    cases unfinished

end Logs

open Follow

end DashcamStats.UnitLogs.Capture
