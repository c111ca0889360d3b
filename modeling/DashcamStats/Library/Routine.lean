import Mathlib.Data.Nat.Notation
import Mathlib.Logic.Function.Basic
import Mathlib.Logic.Relation

/-!
# Routines of one event loop

A routine runs a block at a time. A block has no outcome while the routine waits, and more than
one where the surroundings decide. Between two blocks of a routine the others run theirs.
-/

namespace DashcamStats

open Relation (ReflTransGen)

variable {σ α β : Type}

inductive Routine (σ : Type) (α : Type) : Type 1 where
  | done (result : α)
  | step {β : Type} (block : σ → List (β × σ)) (next : β → Routine σ α)

namespace Routine

def bind : Routine σ α → (α → Routine σ β) → Routine σ β
  | done result, next => next result
  | step block rest, next => step block fun result => (rest result).bind next

instance : Monad (Routine σ) where
  pure := done
  bind := bind

def block (outcomes : σ → List (α × σ)) : Routine σ α := step outcomes done

def atomic (operation : σ → α × σ) : Routine σ α := block fun s => [operation s]

def read (look : σ → α) : Routine σ α := atomic fun s => (look s, s)

def modify (change : σ → σ) : Routine σ Unit := atomic fun s => ((), change s)

section Safe

variable (rely guarantee : σ → σ → Prop)

/-- Whatever the others do in between, each block of the routine meets `guarantee`, and a routine
that ends does so with `Q`. -/
def Safe (Q : α → σ → Prop) : Routine σ α → σ → Prop
  | .done result, s => ∀ t, ReflTransGen rely s t → Q result t
  | .step block next, s => ∀ t, ReflTransGen rely s t → ∀ outcome ∈ block t,
      guarantee t outcome.2 ∧ Safe Q (next outcome.1) outcome.2

def Kept (P : σ → Prop) : Prop := ∀ s t, P s → rely s t → P t

variable {rely guarantee} {P : σ → Prop} {Q : α → σ → Prop} {s t : σ}

theorem Kept.steps (kept : Kept rely P) (holds : P s) (steps : ReflTransGen rely s t) : P t := by
  induction steps with
  | refl => exact holds
  | tail _ last ih => exact kept _ _ ih last

theorem Safe.after_rely {routine : Routine σ α} (safe : Safe rely guarantee Q routine s)
    (step : rely s t) : Safe rely guarantee Q routine t := by
  cases routine with
  | done result => exact fun u steps => safe u (.head step steps)
  | step block next => exact fun u steps => safe u (.head step steps)

theorem Safe.mono {R : α → σ → Prop} {routine : Routine σ α}
    (safe : Safe rely guarantee Q routine s) (weaker : ∀ a t, Q a t → R a t) :
    Safe rely guarantee R routine s := by
  induction routine generalizing s with
  | done result => exact fun t steps => weaker _ _ (safe t steps)
  | step block next ih =>
    intro t steps outcome mem
    have stepped := safe t steps outcome mem
    exact ⟨stepped.1, ih outcome.1 stepped.2⟩

theorem Safe.bind {R : β → σ → Prop} {routine : Routine σ α} {next : α → Routine σ β}
    (safe : Safe rely guarantee (fun result => Safe rely guarantee R (next result)) routine s) :
    Safe rely guarantee R (routine >>= next) s := by
  induction routine generalizing s with
  | done result => exact safe s .refl
  | step block rest ih =>
    intro t steps outcome mem
    have stepped := safe t steps outcome mem
    exact ⟨stepped.1, ih outcome.1 stepped.2⟩

theorem Safe.pure (result : α) (kept : Kept rely (Q result)) (holds : Q result s) :
    Safe rely guarantee Q (Pure.pure result) s :=
  fun _ steps => kept.steps holds steps

theorem Safe.block {R : β → σ → Prop} {outcomes : σ → List (α × σ)} {next : α → Routine σ β}
    (kept : Kept rely P) (holds : P s)
    (runs : ∀ t, P t → ∀ outcome ∈ outcomes t,
      guarantee t outcome.2 ∧ Safe rely guarantee R (next outcome.1) outcome.2) :
    Safe rely guarantee R (Routine.block outcomes >>= next) s :=
  fun t steps outcome mem => runs t (kept.steps holds steps) outcome mem

theorem Safe.atomic {R : β → σ → Prop} {operation : σ → α × σ} {next : α → Routine σ β}
    (kept : Kept rely P) (holds : P s)
    (runs : ∀ t, P t → guarantee t (operation t).2 ∧
      Safe rely guarantee R (next (operation t).1) (operation t).2) :
    Safe rely guarantee R (Routine.atomic operation >>= next) s := by
  intro t steps outcome mem
  cases List.mem_singleton.mp mem
  exact runs t (kept.steps holds steps)

theorem Safe.read {R : β → σ → Prop} {look : σ → α} {next : α → Routine σ β}
    (kept : Kept rely P) (holds : P s) (idle : ∀ t, guarantee t t)
    (rest : ∀ t, P t → Safe rely guarantee R (next (look t)) t) :
    Safe rely guarantee R (Routine.read look >>= next) s :=
  Safe.atomic kept holds fun t here => ⟨idle t, rest t here⟩

theorem Safe.modify {R : β → σ → Prop} {change : σ → σ} {next : Unit → Routine σ β}
    (kept : Kept rely P) (holds : P s) (meets : ∀ t, P t → guarantee t (change t))
    (rest : ∀ t, P t → Safe rely guarantee R (next ()) (change t)) :
    Safe rely guarantee R (Routine.modify change >>= next) s :=
  Safe.atomic kept holds fun t here => ⟨meets t here, rest t here⟩

end Safe

end Routine

/-- What each task of the loop has still to run. -/
structure Tasks (σ : Type) : Type 1 where
  state : σ
  running : ℕ → Routine σ Unit

namespace Tasks

def idle (s : σ) : Tasks σ := ⟨s, fun _ => .done ()⟩

/-- One task runs a block, or a task begins, or the surroundings step. -/
inductive Step (env : σ → σ → Prop) (programs : ℕ → Routine σ Unit → Prop) :
    Tasks σ → Tasks σ → Prop
  | env {s t : σ} {running : ℕ → Routine σ Unit} :
      env s t → Step env programs ⟨s, running⟩ ⟨t, running⟩
  | block {s : σ} {running : ℕ → Routine σ Unit} (i : ℕ) {β : Type} {block : σ → List (β × σ)}
      {next : β → Routine σ Unit} {outcome : β × σ} :
      running i = .step block next → outcome ∈ block s →
        Step env programs ⟨s, running⟩
          ⟨outcome.2, Function.update running i (next outcome.1)⟩
  | begins {s : σ} {running : ℕ → Routine σ Unit} (i : ℕ) {program : Routine σ Unit} :
      running i = .done () → programs i program →
        Step env programs ⟨s, running⟩ ⟨s, Function.update running i program⟩

variable {env : σ → σ → Prop} {programs : ℕ → Routine σ Unit → Prop}
variable {rely guarantee : ℕ → σ → σ → Prop} {Inv : σ → Prop} {Rest : ℕ → σ → Prop}

/-- What holds of the tasks in every state that they reach; `Rest` is what a task that has ended
leaves. -/
def Running (rely guarantee : ℕ → σ → σ → Prop) (Inv : σ → Prop) (Rest : ℕ → σ → Prop)
    (tasks : Tasks σ) : Prop :=
  Inv tasks.state ∧ ∀ i, (tasks.running i).Safe (rely i) (guarantee i) (fun _ => Rest i) tasks.state

/-- Each task keeps what the others rely on. -/
structure Compatible (env : σ → σ → Prop) (programs : ℕ → Routine σ Unit → Prop)
    (rely guarantee : ℕ → σ → σ → Prop) (Inv : σ → Prop) (Rest : ℕ → σ → Prop) : Prop where
  safe : ∀ i program, programs i program → ∀ s, Inv s → Rest i s →
    program.Safe (rely i) (guarantee i) (fun _ => Rest i) s
  kept : ∀ i s t, Inv s → guarantee i s t → Inv t
  others : ∀ i j s t, i ≠ j → Inv s → guarantee i s t → rely j s t
  env_kept : ∀ s t, Inv s → env s t → Inv t
  env_rely : ∀ j s t, Inv s → env s t → rely j s t

theorem running_step {before after : Tasks σ}
    (compatible : Compatible env programs rely guarantee Inv Rest)
    (running : before.Running rely guarantee Inv Rest) (step : Step env programs before after) :
    after.Running rely guarantee Inv Rest := by
  obtain ⟨holds, safe⟩ := running
  cases step with
  | env step =>
    exact ⟨compatible.env_kept _ _ holds step,
      fun i => (safe i).after_rely (compatible.env_rely i _ _ holds step)⟩
  | block i here mem =>
    have runs := safe i
    simp only [here] at runs
    obtain ⟨meets, rest⟩ := runs _ .refl _ mem
    refine ⟨compatible.kept i _ _ holds meets, fun j => ?_⟩
    by_cases same : j = i
    · subst same
      simpa using rest
    · simpa [same] using (safe j).after_rely
        (compatible.others i j _ _ (fun same' => same same'.symm) holds meets)
  | begins i here isProgram =>
    refine ⟨holds, fun j => ?_⟩
    by_cases same : j = i
    · subst same
      have rests := safe j
      simp only [here] at rests
      simpa using compatible.safe j _ isProgram _ holds (rests _ .refl)
    · simpa [same] using safe j

theorem running_steps {before after : Tasks σ}
    (compatible : Compatible env programs rely guarantee Inv Rest)
    (running : before.Running rely guarantee Inv Rest)
    (steps : ReflTransGen (Step env programs) before after) :
    after.Running rely guarantee Inv Rest := by
  induction steps with
  | refl => exact running
  | tail _ step ih => exact running_step compatible ih step

theorem running_idle {s : σ} (holds : Inv s) (rests : ∀ i, Rest i s)
    (kept : ∀ i, Routine.Kept (rely i) (Rest i)) :
    (idle s).Running rely guarantee Inv Rest :=
  ⟨holds, fun i _ steps => (kept i).steps (rests i) steps⟩

section Schedule

-- Task `i` runs a block, with the first outcome, if it can.
def turn (tasks : Tasks σ) (i : ℕ) : Tasks σ :=
  match tasks.running i with
  | .done _ => tasks
  | .step block next =>
    match block tasks.state with
    | [] => tasks
    | outcome :: _ => ⟨outcome.2, Function.update tasks.running i (next outcome.1)⟩

def turns (tasks : Tasks σ) (schedule : List ℕ) : Tasks σ := schedule.foldl turn tasks

def begin (tasks : Tasks σ) (i : ℕ) (program : Routine σ Unit) : Tasks σ :=
  ⟨tasks.state, Function.update tasks.running i program⟩

theorem steps_turn (tasks : Tasks σ) (i : ℕ) :
    ReflTransGen (Step env programs) tasks (tasks.turn i) := by
  obtain ⟨s, running⟩ := tasks
  unfold turn
  cases here : running i with
  | done result =>
    simp only [here]
    exact .refl
  | step block next =>
    simp only [here]
    cases outcomes : block s with
    | nil => exact .refl
    | cons outcome rest => exact .single (.block i here (outcomes ▸ List.mem_cons_self))

theorem steps_turns (tasks : Tasks σ) (schedule : List ℕ) :
    ReflTransGen (Step env programs) tasks (tasks.turns schedule) := by
  induction schedule generalizing tasks with
  | nil => exact .refl
  | cons i rest ih => exact (steps_turn tasks i).trans (ih (tasks.turn i))

theorem steps_begin (tasks : Tasks σ) (i : ℕ) {program : Routine σ Unit}
    (isIdle : tasks.running i = .done ()) (isProgram : programs i program) :
    ReflTransGen (Step env programs) tasks (tasks.begin i program) :=
  .single (.begins i isIdle isProgram)

end Schedule

end Tasks

end DashcamStats
