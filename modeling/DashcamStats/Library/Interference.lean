import Mathlib.Logic.Relation

/-!
# Programs under interference

A program is a sequence of atomic operations on a shared state. Between two of them its
surroundings may step, and the process that runs it may die.
-/

namespace DashcamStats

universe u v w

variable {σ : Type u} {α β : Type v}

/-- What runs after an operation depends on the state the operation found. -/
inductive Prog (σ : Type u) (α : Type v) where
  | done (result : α)
  | step (change : σ → σ) (next : σ → Prog σ α)

namespace Prog

def bind : Prog σ α → (α → Prog σ β) → Prog σ β
  | done result, next => next result
  | step change rest, next => step change fun s => (rest s).bind next

instance : Monad (Prog σ) where
  pure := done
  bind := bind

def read (look : σ → α) : Prog σ α := step id fun s => done (look s)

def transact (operation : σ → σ × α) : Prog σ α :=
  step (fun s => (operation s).1) fun s => done (operation s).2

def run : Prog σ α → σ → α × σ
  | done result, s => (result, s)
  | step change next, s => run (next s) (change s)

end Prog

open Relation (ReflTransGen)

section Rely

variable (env : σ → σ → Prop) (guarantee : σ → σ → Prop)

def Stable (P : σ → Prop) : Prop := ∀ s t, P s → env s t → P t

theorem Stable.steps {env : σ → σ → Prop} {P : σ → Prop} (stable : Stable env P) {s t : σ}
    (holds : P s) (steps : ReflTransGen env s t) : P t := by
  induction steps with
  | refl => exact holds
  | tail _ last ih => exact stable _ _ ih last

theorem Stable.and {env : σ → σ → Prop} {P Q : σ → Prop} (first : Stable env P)
    (second : Stable env Q) : Stable env fun s => P s ∧ Q s :=
  fun s t holds step => ⟨first s t holds.1 step, second s t holds.2 step⟩

/-- Whatever the surroundings do in between, each operation of the program meets `guarantee`, and
a program that ends does so with `Q`. -/
def Safe (Q : α → σ → Prop) : Prog σ α → σ → Prop
  | .done result, s => ∀ t, ReflTransGen env s t → Q result t
  | .step change next, s => ∀ t, ReflTransGen env s t →
      guarantee t (change t) ∧ Safe Q (next t) (change t)

variable {env guarantee} {P : σ → Prop} {Q : α → σ → Prop} {s t : σ}

theorem Safe.after_env {program : Prog σ α} (safe : Safe env guarantee Q program s)
    (step : env s t) : Safe env guarantee Q program t := by
  cases program with
  | done result => exact fun u steps => safe u (.head step steps)
  | step change next => exact fun u steps => safe u (.head step steps)

theorem Safe.mono {R : α → σ → Prop} {program : Prog σ α}
    (safe : Safe env guarantee Q program s) (weaker : ∀ a t, Q a t → R a t) :
    Safe env guarantee R program s := by
  induction program generalizing s with
  | done result => exact fun t steps => weaker _ _ (safe t steps)
  | step change next ih =>
    intro t steps
    have stepped := safe t steps
    exact ⟨stepped.1, ih t stepped.2⟩

theorem Safe.run {program : Prog σ α} (safe : Safe env guarantee Q program s) :
    Q (program.run s).1 (program.run s).2 := by
  induction program generalizing s with
  | done result => exact safe s .refl
  | step change next ih => exact ih s (safe s .refl).2

theorem Safe.bind {R : β → σ → Prop} {program : Prog σ α} {next : α → Prog σ β}
    (safe : Safe env guarantee (fun result => Safe env guarantee R (next result)) program s) :
    Safe env guarantee R (program >>= next) s := by
  induction program generalizing s with
  | done result => exact safe s .refl
  | step change rest ih =>
    intro t steps
    have stepped := safe t steps
    exact ⟨stepped.1, ih t stepped.2⟩

theorem Safe.pure (result : α) (stable : Stable env (Q result)) (holds : Q result s) :
    Safe env guarantee Q (Pure.pure result) s :=
  fun _ steps => stable.steps holds steps

theorem Safe.read {R : β → σ → Prop} {look : σ → α} {next : α → Prog σ β}
    (stable : Stable env P) (holds : P s) (idle : ∀ t, guarantee t t)
    (rest : ∀ t, P t → Safe env guarantee R (next (look t)) t) :
    Safe env guarantee R (Prog.read look >>= next) s :=
  fun t steps => ⟨idle t, rest t (stable.steps holds steps)⟩

theorem Safe.read_last {look : σ → α} (stable : Stable env P) (holds : P s)
    (idle : ∀ t, guarantee t t) (ends : ∀ result, Stable env (Q result))
    (rest : ∀ t, P t → Q (look t) t) : Safe env guarantee Q (Prog.read look) s :=
  fun t steps => ⟨idle t, fun _ later =>
    (ends (look t)).steps (rest t (stable.steps holds steps)) later⟩

theorem Safe.transact {R : β → σ → Prop} {operation : σ → σ × α} {next : α → Prog σ β}
    (stable : Stable env P) (holds : P s)
    (meets : ∀ t, P t → guarantee t (operation t).1)
    (rest : ∀ t, P t → Safe env guarantee R (next (operation t).2) (operation t).1) :
    Safe env guarantee R (Prog.transact operation >>= next) s := by
  intro t steps
  have here := stable.steps holds steps
  exact ⟨meets t here, rest t here⟩

end Rely

section Completes

variable (env : σ → σ → Prop)

/-- A run of the program to its end, with every state that it passes. -/
inductive Completes : Prog σ α → σ → List σ → α → σ → Prop
  | done (result : α) (s : σ) : Completes (.done result) s [s] result s
  | env {program : Prog σ α} {s t u : σ} {states : List σ} {result : α} :
      env s t → Completes program t states result u →
        Completes program s (s :: states) result u
  | step {change : σ → σ} {next : σ → Prog σ α} {s u : σ} {states : List σ} {result : α} :
      Completes (next s) (change s) states result u →
        Completes (.step change next) s (s :: states) result u

variable {env} {s u : σ} {states : List σ}

theorem Completes.of_pure {result returned : α}
    (run : Completes env (pure result) s states returned u) :
    returned = result ∧ ReflTransGen env s u := by
  have ended {s u : σ} {states : List σ} {returned : α} (program : Prog σ α)
      (isDone : program = .done result)
      (run : Completes env program s states returned u) :
      returned = result ∧ ReflTransGen env s u := by
    induction run with
    | done other s =>
      cases isDone
      exact ⟨rfl, .refl⟩
    | env first _ ih => exact ⟨(ih isDone).1, .head first (ih isDone).2⟩
    | step _ _ => cases isDone
  exact ended (pure result) rfl run

theorem Completes.of_bind {program : Prog σ α} {next : α → Prog σ β} {returned : β}
    (run : Completes env (program >>= next) s states returned u) :
    ∃ result t first last, Completes env program s first result t ∧
      Completes env (next result) t last returned u ∧
      (∀ v ∈ first, v ∈ states) ∧ ∀ v ∈ last, v ∈ states := by
  have split {s u : σ} {states : List σ} {returned : β} (whole : Prog σ β)
      (run : Completes env whole s states returned u)
      (program : Prog σ α) (isBind : whole = program.bind next) :
      ∃ result t first last, Completes env program s first result t ∧
        Completes env (next result) t last returned u ∧
        (∀ v ∈ first, v ∈ states) ∧ ∀ v ∈ last, v ∈ states := by
    induction run generalizing program with
    | done returned s =>
      cases program with
      | done result =>
        refine ⟨result, s, [s], [s], .done _ _, ?_, fun v mem => mem, fun v mem => mem⟩
        rw [show next result = .done returned from isBind.symm]
        exact .done returned s
      | step change rest => cases isBind
    | @env whole s t u states returned first run ih =>
      obtain ⟨result, v, before, after, runs, continues, inBefore, inAfter⟩ := ih program isBind
      refine ⟨result, v, s :: before, after, .env first runs, continues, ?_, ?_⟩
      · intro w mem
        rcases List.mem_cons.mp mem with rfl | mem
        · exact List.mem_cons_self
        · exact List.mem_cons_of_mem _ (inBefore w mem)
      · exact fun w mem => List.mem_cons_of_mem _ (inAfter w mem)
    | @step change rest s u states returned run ih =>
      cases program with
      | done result =>
        refine ⟨result, s, [s], s :: states, .done _ _, ?_, ?_, fun v mem => mem⟩
        · rw [show next result = .step change rest from isBind.symm]
          exact .step run
        · intro v mem
          rw [List.mem_singleton.mp mem]
          exact List.mem_cons_self
      | step change' rest' =>
        injection isBind with sameChange sameRest
        subst sameChange
        obtain ⟨result, v, before, after, runs, continues, inBefore, inAfter⟩ :=
          ih (rest' s) (congrFun sameRest s)
        refine ⟨result, v, s :: before, after, .step runs, continues, ?_, ?_⟩
        · intro w mem
          rcases List.mem_cons.mp mem with rfl | mem
          · exact List.mem_cons_self
          · exact List.mem_cons_of_mem _ (inBefore w mem)
        · exact fun w mem => List.mem_cons_of_mem _ (inAfter w mem)
  exact split (program >>= next) run program rfl

theorem Completes.of_transact {operation : σ → σ × α} {result : α}
    (run : Completes env (Prog.transact operation) s states result u) :
    ∃ t ∈ states, ReflTransGen env s t ∧ result = (operation t).2 ∧
      ReflTransGen env (operation t).1 u := by
  have split {s u : σ} {states : List σ} {result : α} (program : Prog σ α)
      (run : Completes env program s states result u)
      (isOperation : program = Prog.transact operation) :
      ∃ t ∈ states, ReflTransGen env s t ∧ result = (operation t).2 ∧
        ReflTransGen env (operation t).1 u := by
    induction run with
    | done _ _ => cases isOperation
    | env first _ ih =>
      obtain ⟨t, mem, before, more⟩ := ih isOperation
      exact ⟨t, List.mem_cons_of_mem _ mem, .head first before, more⟩
    | @step change next s u states result run _ =>
      injection isOperation with sameChange sameNext
      subst sameChange sameNext
      obtain ⟨same, after⟩ := run.of_pure
      exact ⟨s, List.mem_cons_self, .refl, same, after⟩
  exact split (Prog.transact operation) run rfl

theorem Completes.of_read {look : σ → α} {result : α}
    (run : Completes env (Prog.read look) s states result u) :
    ∃ t ∈ states, ReflTransGen env s t ∧ result = look t ∧ ReflTransGen env t u :=
  @Completes.of_transact σ α env s u states (fun s => (s, look s)) result run

end Completes

section Process

/-- A process with what it has still to run. -/
structure Process (σ : Type u) where
  state : σ
  program : Prog σ PUnit.{v + 1}

def Process.idle (s : σ) : Process.{u, v} σ := ⟨s, .done ⟨⟩⟩

/-- A process that has nothing to run may begin one of its programs; `lost` is what its death
leaves of the state. -/
inductive Process.Step (env : σ → σ → Prop) (lost : σ → σ)
    (programs : Prog σ PUnit.{v + 1} → Prop) : Process.{u, v} σ → Process.{u, v} σ → Prop
  | env {s t : σ} {program : Prog σ PUnit.{v + 1}} :
      env s t → Step env lost programs ⟨s, program⟩ ⟨t, program⟩
  | operation {s : σ} {change : σ → σ} {next : σ → Prog σ PUnit.{v + 1}} :
      Step env lost programs ⟨s, .step change next⟩ ⟨change s, next s⟩
  | begins {s : σ} {program : Prog σ PUnit.{v + 1}} :
      programs program → Step env lost programs (.idle s) ⟨s, program⟩
  | dies {s : σ} {program : Prog σ PUnit.{v + 1}} :
      Step env lost programs ⟨s, program⟩ (.idle (lost s))

variable {lost : σ → σ} {env guarantee : σ → σ → Prop} {programs : Prog σ PUnit.{v + 1} → Prop}
variable {Inv Rest : σ → Prop}

-- What holds of a process in every state that it reaches; `Rest` is what its programs leave.
def Process.Running (env guarantee : σ → σ → Prop) (Inv Rest : σ → Prop)
    (process : Process.{u, v} σ) : Prop :=
  Inv process.state ∧ Safe env guarantee (fun _ => Rest) process.program process.state

theorem Process.running_idle {s : σ} (holds : Inv s) (rests : Rest s) (stable : Stable env Rest) :
    (Process.idle.{u, v} s).Running env guarantee Inv Rest :=
  ⟨holds, fun _ steps => stable.steps rests steps⟩

theorem Process.running_step {before after : Process.{u, v} σ}
    (safe : ∀ program, programs program → ∀ s, Inv s → Rest s →
      Safe env guarantee (fun _ => Rest) program s)
    (kept : ∀ s t, Inv s → env s t ∨ guarantee s t → Inv t) (idle : ∀ s, guarantee s s)
    (dies : ∀ s, guarantee s (lost s)) (rests : ∀ s, Inv s → Rest (lost s))
    (stable : Stable env Rest) (running : before.Running env guarantee Inv Rest)
    (step : Process.Step env lost programs before after) :
    after.Running env guarantee Inv Rest ∧
      (env before.state after.state ∨ guarantee before.state after.state) := by
  obtain ⟨holds, isSafe⟩ := running
  cases step with
  | env step => exact ⟨⟨kept _ _ holds (.inl step), isSafe.after_env step⟩, .inl step⟩
  | operation =>
    obtain ⟨meets, rest⟩ := isSafe _ .refl
    exact ⟨⟨kept _ _ holds (.inr meets), rest⟩, .inr meets⟩
  | begins isProgram => exact ⟨⟨holds, safe _ isProgram _ holds (isSafe _ .refl)⟩, .inr (idle _)⟩
  | dies =>
    exact ⟨Process.running_idle (kept _ _ holds (.inr (dies _))) (rests _ holds) stable,
      .inr (dies _)⟩

end Process

end DashcamStats
