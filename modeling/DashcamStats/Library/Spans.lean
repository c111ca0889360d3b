import Mathlib.Algebra.Order.Group.Defs
import Mathlib.Data.Set.Lattice
import Mathlib.Order.CompletePartialOrder
import Mathlib.Tactic.Abel

/-!
# Spans in order

Each span ends before the next begins: no instant is in two of them, and together they are no
longer than what they lie in.
-/

namespace DashcamStats.Spans

universe u

variable {G : Type u} [LinearOrder G]

def InOrder (spans : List (G × G)) : Prop := spans.Pairwise fun c d => c.2 ≤ d.1

def Apart (spans : List (G × G)) : Prop :=
  spans.Pairwise fun c d => Disjoint (Set.Ico c.1 c.2) (Set.Ico d.1 d.2)

theorem InOrder.apart {spans : List (G × G)} (ordered : InOrder spans) : Apart spans :=
  ordered.imp fun {_ _} order =>
    Set.disjoint_left.mpr fun _ left right => absurd right.1 (not_le.mpr (left.2.trans_le order))

theorem InOrder.sublist {spans more : List (G × G)} (ordered : InOrder more)
    (kept : spans.Sublist more) : InOrder spans := List.Pairwise.sublist kept ordered

variable [AddCommGroup G] [IsOrderedAddMonoid G]

def total (spans : List (G × G)) : G := (spans.map fun c => c.2 - c.1).sum

theorem InOrder.total_le {spans : List (G × G)} (ordered : InOrder spans) {lo hi : G}
    (order : lo ≤ hi) (within : ∀ c ∈ spans, lo ≤ c.1 ∧ c.1 ≤ c.2 ∧ c.2 ≤ hi) :
    total spans ≤ hi - lo := by
  induction spans generalizing lo with
  | nil => simpa [total] using order
  | cons c rest ih =>
    obtain ⟨after, later⟩ := List.pairwise_cons.mp ordered
    obtain ⟨start, forward, stop⟩ := within c List.mem_cons_self
    have remaining := ih later stop fun d member =>
      ⟨after d member, (within d (List.mem_cons_of_mem _ member)).2⟩
    calc total (c :: rest) = (c.2 - c.1) + total rest := by simp [total]
      _ ≤ (c.2 - c.1) + (hi - c.2) := add_le_add_right remaining _
      _ = hi - c.1 := by abel
      _ ≤ hi - lo := sub_le_sub_left start hi

universe v w x

variable {S : Type v} {O : Type w} {α : Type x} (step : S → O → S) (emit : S → O → Option α)

def collect : S → List O → List α
  | _, [] => []
  | s, o :: rest => (emit s o).toList ++ collect (step s o) rest

variable {step emit}

theorem collect_append (s : S) (rows : List O) (o : O) :
    collect step emit s (rows ++ [o]) =
      collect step emit s rows ++ (emit (rows.foldl step s) o).toList := by
  induction rows generalizing s with
  | nil => simp [collect]
  | cons first rest ih => simp [collect, ih]

theorem foldl_add {M : Type*} [AddMonoid M] (measure : S → M) (weight : α → M)
    (spec : ∀ s o, measure (step s o) = measure s + (emit s o).elim 0 weight) (s : S)
    (rows : List O) :
    measure (rows.foldl step s) = measure s + ((collect step emit s rows).map weight).sum := by
  induction rows generalizing s with
  | nil => simp [collect]
  | cons first rest ih =>
    rw [List.foldl_cons, ih, spec, collect, List.map_append, List.sum_append, add_assoc]
    cases emit s first <;> simp

theorem collect_sublist {β : Type*} {wider : S → O → Option β} (f : α → β)
    (within : ∀ s o, ∀ a ∈ emit s o, wider s o = some (f a)) (s : S) (rows : List O) :
    ((collect step emit s rows).map f).Sublist (collect step wider s rows) := by
  induction rows generalizing s with
  | nil => exact List.Sublist.slnil
  | cons first rest ih =>
    rw [collect, collect, List.map_append]
    refine List.Sublist.append ?_ (ih _)
    cases given : emit s first with
    | none => simp
    | some a => simp [within s first a given]

end DashcamStats.Spans
