import DashcamStats.Library.Interference

/-!
# Programs that throw

An operation is done in one step, and a program that throws ends there. While the surroundings
are quiet a program runs through states that are known.
-/

namespace DashcamStats

open Relation (ReflTransGen)

universe u

variable {σ : Type u} {α β : Type}

/-- A program that may throw. -/
abbrev Throwing (σ : Type u) (α : Type) : Type u := ExceptT String (Prog σ) α

namespace Throwing

def look (view : σ → α) : Throwing σ α := ExceptT.mk (Prog.read fun s => .ok (view s))

def act (operation : σ → σ) : Throwing σ Unit :=
  ExceptT.mk (Prog.transact fun s => (operation s, .ok ()))

def ensure (condition : Bool) (message : String) : Throwing σ Unit :=
  if condition then pure () else throw message

end Throwing

section Quiet

variable {env guarantee : σ → σ → Prop} {Q : Except String β → σ → Prop} {s t : σ}

def Quiet (env : σ → σ → Prop) (s : σ) : Prop := ∀ t, ¬env s t

theorem Quiet.eq (quiet : Quiet env s) (steps : ReflTransGen env s t) : t = s := by
  induction steps with
  | refl => rfl
  | tail _ step ih => exact absurd step (ih ▸ quiet _)

theorem Safe.look_bind {view : σ → α} {next : α → Throwing σ β} (quiet : Quiet env s)
    (idle : guarantee s s) (rest : Safe env guarantee Q (next (view s)).run s) :
    Safe env guarantee Q (Throwing.look view >>= next).run s := by
  intro t steps
  rw [quiet.eq steps]
  exact ⟨idle, rest⟩

theorem Safe.act_bind {operation : σ → σ} {next : Unit → Throwing σ β} (quiet : Quiet env s)
    (meets : guarantee s (operation s))
    (rest : Safe env guarantee Q (next ()).run (operation s)) :
    Safe env guarantee Q (Throwing.act operation >>= next).run s := by
  intro t steps
  rw [quiet.eq steps]
  exact ⟨meets, rest⟩

theorem Safe.ensure_bind {condition : Bool} {message : String} {next : Unit → Throwing σ β}
    (holds : condition = true) (rest : Safe env guarantee Q (next ()).run s) :
    Safe env guarantee Q (Throwing.ensure condition message >>= next).run s := by
  rw [Throwing.ensure, if_pos holds]
  exact rest

end Quiet

section Stable

variable {env guarantee : σ → σ → Prop} {Q : Except String β → σ → Prop} {P : σ → Prop} {s : σ}

theorem Safe.look_stable {view : σ → α} {next : α → Throwing σ β} (stable : Stable env P)
    (holds : P s) (idle : ∀ t, guarantee t t)
    (rest : ∀ t, P t → Safe env guarantee Q (next (view t)).run t) :
    Safe env guarantee Q (Throwing.look view >>= next).run s :=
  fun t steps => ⟨idle t, rest t (stable.steps holds steps)⟩

theorem Safe.act_stable {operation : σ → σ} {next : Unit → Throwing σ β} (stable : Stable env P)
    (holds : P s) (meets : ∀ t, P t → guarantee t (operation t))
    (rest : ∀ t, P t → Safe env guarantee Q (next ()).run (operation t)) :
    Safe env guarantee Q (Throwing.act operation >>= next).run s := by
  intro t steps
  have here := stable.steps holds steps
  exact ⟨meets t here, rest t here⟩

theorem Safe.ensure_throws {condition : Bool} {message : String} {next : Unit → Throwing σ β}
    (fails : ¬condition = true) (stable : Stable env (Q (.error message)))
    (holds : Q (.error message) s) :
    Safe env guarantee Q (Throwing.ensure condition message >>= next).run s := by
  rw [Throwing.ensure, if_neg fails]
  exact Safe.pure _ stable holds

theorem Safe.stable {program : Prog σ α} {R : α → σ → Prop} :
    Stable env fun s => Safe env guarantee R program s :=
  fun _ _ safe step => safe.after_env step

theorem Safe.tryCatch {program : Throwing σ β} {handler : String → Throwing σ β}
    (safe : Safe env guarantee (fun outcome t =>
      match outcome with
      | .ok result => Safe env guarantee Q (Pure.pure (.ok result)) t
      | .error message => Safe env guarantee Q (handler message).run t) program.run s) :
    Safe env guarantee Q (MonadExcept.tryCatch program handler).run s := by
  refine Safe.bind (Safe.mono safe fun outcome t holds => ?_)
  cases outcome with
  | ok result => exact holds
  | error message => exact holds

end Stable

end DashcamStats
