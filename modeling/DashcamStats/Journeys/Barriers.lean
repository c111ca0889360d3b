import Mathlib.Data.Prod.Lex
import Mathlib.Order.MinMax
import DashcamStats.Library.Bisect

namespace DashcamStats.Journeys

open Bisect

universe u

variable {T : Type u} [LinearOrder T]

structure IntentionalGapBarriers (T : Type u) where
  starts : List T := []
  ends : List T := []

def mergeInterval (merged : List (T × T)) (interval : T × T) : List (T × T) :=
  if interval.2 ≤ interval.1 then merged
  else match merged with
    | [] => [interval]
    | last :: earlier =>
      if interval.1 ≤ last.2 then (last.1, max interval.2 last.2) :: earlier
      else interval :: last :: earlier

def sortIntervals (intervals : List (T × T)) : List (T × T) :=
  intervals.mergeSort fun a b => decide (toLex a ≤ toLex b)

namespace IntentionalGapBarriers

def fromIntervals (intervals : List (T × T)) : IntentionalGapBarriers T :=
  let merged := ((sortIntervals intervals).foldl mergeInterval []).reverse
  ⟨merged.map Prod.fst, merged.map Prod.snd⟩

def blocks (barriers : IntentionalGapBarriers T) (availableEnd availableStart : T) : Bool :=
  if availableStart ≤ availableEnd then false
  else match bisectLeft barriers.starts availableStart with
    | 0 => false
    | index + 1 => barriers.ends[index]?.any (availableEnd < ·)

end IntentionalGapBarriers

-- Some interval lies between `x` and `y`, if only in part.
def Meets (intervals : List (T × T)) (x y : T) : Prop :=
  ∃ interval ∈ intervals, interval.1 < interval.2 ∧ interval.1 < y ∧ x < interval.2

theorem meets_cons {intervals : List (T × T)} {interval : T × T} {x y : T} :
    Meets (interval :: intervals) x y ↔
      (interval.1 < interval.2 ∧ interval.1 < y ∧ x < interval.2) ∨ Meets intervals x y := by
  simp [Meets]

theorem meets_perm {intervals intervals' : List (T × T)} (perm : intervals.Perm intervals')
    (x y : T) : Meets intervals x y ↔ Meets intervals' x y := by
  simp [Meets, perm.mem_iff]

theorem meets_append_singleton {intervals : List (T × T)} {interval : T × T} {x y : T} :
    Meets (intervals ++ [interval]) x y ↔
      (interval.1 < interval.2 ∧ interval.1 < y ∧ x < interval.2) ∨ Meets intervals x y := by
  rw [meets_perm List.perm_append_comm, List.singleton_append, meets_cons]

structure Merged (merged intervals : List (T × T)) : Prop where
  proper : ∀ span ∈ merged, span.1 < span.2
  apart : merged.Pairwise fun later earlier => earlier.2 < later.1
  begun : ∀ span ∈ merged, ∃ interval ∈ intervals, interval.1 = span.1
  meets : ∀ x y, x < y → (Meets merged x y ↔ Meets intervals x y)

theorem Merged.nil : Merged ([] : List (T × T)) [] := by
  constructor <;> simp [Meets]

theorem Merged.step {merged intervals : List (T × T)} {interval : T × T}
    (sound : Merged merged intervals) (sorted : ∀ earlier ∈ intervals, earlier.1 ≤ interval.1) :
    Merged (mergeInterval merged interval) (intervals ++ [interval]) := by
  have begun : ∀ span ∈ merged, ∃ origin ∈ intervals ++ [interval], origin.1 = span.1 := by
    intro span member
    obtain ⟨origin, among, same⟩ := sound.begun span member
    exact ⟨origin, by simp [among], same⟩
  unfold mergeInterval
  split
  · rename_i improper
    refine ⟨sound.proper, sound.apart, begun, fun x y before => ?_⟩
    rw [meets_append_singleton, sound.meets x y before]
    simp [improper.not_gt]
  · rename_i proper
    have proper : interval.1 < interval.2 := not_le.mp proper
    cases merged with
    | nil =>
      refine ⟨by simpa using proper, by simp, by simp, fun x y before => ?_⟩
      rw [meets_append_singleton, ← sound.meets x y before, meets_cons]
    | cons last earlier =>
      have lastProper := sound.proper last List.mem_cons_self
      obtain ⟨apart, earlierApart⟩ := List.pairwise_cons.mp sound.apart
      change Merged (if interval.1 ≤ last.2 then (last.1, max interval.2 last.2) :: earlier
        else interval :: last :: earlier) _
      split
      · rename_i touching
        have begins : last.1 ≤ interval.1 := by
          obtain ⟨origin, among, same⟩ := sound.begun last List.mem_cons_self
          exact same ▸ sorted origin among
        refine ⟨?_, ?_, ?_, fun x y before => ?_⟩
        · rintro span (_ | ⟨_, member⟩)
          · exact lt_of_lt_of_le lastProper (le_max_right _ _)
          · exact sound.proper span (List.mem_cons_of_mem _ member)
        · exact List.pairwise_cons.mpr ⟨apart, earlierApart⟩
        · rintro span (_ | ⟨_, member⟩)
          · exact begun last List.mem_cons_self
          · exact begun span (List.mem_cons_of_mem _ member)
        · rw [meets_append_singleton, ← sound.meets x y before, meets_cons, meets_cons]
          -- beyond the end of the last one only the part that the interval adds is met
          have extended : (last.1 < max interval.2 last.2 ∧ last.1 < y ∧
              x < max interval.2 last.2) ↔ (interval.1 < interval.2 ∧ interval.1 < y ∧
                x < interval.2) ∨ (last.1 < last.2 ∧ last.1 < y ∧ x < last.2) := by
            constructor
            · rintro ⟨-, first, second⟩
              by_cases within : x < last.2
              · exact .inr ⟨lastProper, first, within⟩
              · have after : last.2 ≤ x := not_lt.mp within
                have beyond : x < interval.2 := (lt_max_iff.mp second).resolve_right within
                exact .inl ⟨proper, (touching.trans after).trans_lt before, beyond⟩
            · rintro (⟨-, first, second⟩ | ⟨-, first, second⟩)
              · exact ⟨lt_of_lt_of_le lastProper (le_max_right _ _), begins.trans_lt first,
                  lt_max_of_lt_left second⟩
              · exact ⟨lt_of_lt_of_le lastProper (le_max_right _ _), first,
                  lt_max_of_lt_right second⟩
          rw [extended, or_assoc]
      · rename_i gap
        have gap : last.2 < interval.1 := not_le.mp gap
        refine ⟨?_, ?_, ?_, fun x y before => ?_⟩
        · rintro span (_ | ⟨_, member⟩)
          · exact proper
          · exact sound.proper span member
        · refine List.pairwise_cons.mpr ⟨?_, sound.apart⟩
          rintro span (_ | ⟨_, member⟩)
          · exact gap
          · exact (apart span member).trans (lastProper.trans gap)
        · rintro span (_ | ⟨_, member⟩)
          · exact ⟨interval, by simp, rfl⟩
          · exact begun span member
        · rw [meets_append_singleton, ← sound.meets x y before, meets_cons]

theorem merged_foldl {merged before rest : List (T × T)} (sound : Merged merged before)
    (sorted : (before ++ rest).Pairwise fun a b => a.1 ≤ b.1) :
    Merged (rest.foldl mergeInterval merged) (before ++ rest) := by
  induction rest generalizing merged before with
  | nil => simpa using sound
  | cons interval rest ih =>
    have first : ∀ earlier ∈ before, earlier.1 ≤ interval.1 := fun earlier member =>
      (List.pairwise_append.mp sorted).2.2 earlier member interval List.mem_cons_self
    have together : before ++ interval :: rest = (before ++ [interval]) ++ rest := by simp
    rw [together] at sorted ⊢
    exact ih (sound.step first) sorted

theorem sortIntervals_sorted (intervals : List (T × T)) :
    (sortIntervals intervals).Pairwise fun a b => a.1 ≤ b.1 := by
  have sorted := @List.pairwise_mergeSort _ (fun a b : T × T => decide (toLex a ≤ toLex b))
    (fun a b c first second => by
      simp only [decide_eq_true_eq] at first second ⊢
      exact first.trans second)
    (fun a b => by simpa using le_total (toLex a) (toLex b)) intervals
  refine sorted.imp fun {a b} h => ?_
  have h : toLex a ≤ toLex b := by simpa using h
  exact Prod.Lex.monotone_fst _ _ h

/-- The lookup finds an interval exactly if one of those given lies between. -/
theorem blocks_iff (intervals : List (T × T)) (availableEnd availableStart : T) :
    (IntentionalGapBarriers.fromIntervals intervals).blocks availableEnd availableStart = true ↔
      availableEnd < availableStart ∧ ∃ interval ∈ intervals, interval.1 < interval.2 ∧
        interval.1 < availableStart ∧ availableEnd < interval.2 := by
  have sound : Merged ((sortIntervals intervals).foldl mergeInterval []) (sortIntervals intervals) :=
    merged_foldl .nil (by simpa using sortIntervals_sorted intervals)
  generalize built : (sortIntervals intervals).foldl mergeInterval [] = merged at sound
  have apart : merged.reverse.Pairwise fun earlier later => earlier.2 < later.1 :=
    List.pairwise_reverse.mpr sound.apart
  have proper : ∀ span ∈ merged.reverse, span.1 < span.2 := fun span member =>
    sound.proper span (List.mem_reverse.mp member)
  have meets : ∀ x y, x < y → (Meets merged.reverse x y ↔ Meets intervals x y) := by
    intro x y before
    rw [meets_perm (List.reverse_perm merged), sound.meets x y before]
    exact meets_perm (List.mergeSort_perm intervals _) x y
  simp only [IntentionalGapBarriers.fromIntervals, IntentionalGapBarriers.blocks, built]
  generalize merged.reverse = spans at apart proper meets
  split
  · rename_i past
    simp [past.not_gt]
  · rename_i uncovered
    have before : availableEnd < availableStart := not_le.mp uncovered
    change _ ↔ _ ∧ Meets intervals availableEnd availableStart
    rw [← meets _ _ before, and_iff_right before]
    have starts : (spans.map Prod.fst).Pairwise (· ≤ ·) := by
      refine List.pairwise_map.mpr (apart.imp_of_mem fun {a b} first _ h => ?_)
      exact ((proper a first).trans h).le
    obtain ⟨within, splits⟩ := bisectLeft_splits (x := availableStart) starts
    have begun : ∀ j (h : j < spans.length), spans[j].1 < availableStart ↔
        j < bisectLeft (spans.map Prod.fst) availableStart := by
      intro j h
      have split := splits j (by simpa using h)
      rwa [List.getElem_map] at split
    rw [List.length_map] at within
    split
    · rename_i none
      rw [none] at begun
      refine iff_of_false Bool.false_ne_true ?_
      rintro ⟨span, member, -, first, -⟩
      obtain ⟨j, h, rfl⟩ := List.getElem_of_mem member
      simpa using (begun j h).mp first
    · rename_i index found
      rw [found] at begun within
      have inside : index < spans.length := within
      have looked : (spans.map Prod.snd)[index]? = some spans[index].2 := by simp [inside]
      rw [looked, Option.any_some, decide_eq_true_eq]
      constructor
      · intro after
        exact ⟨spans[index], List.getElem_mem inside, proper _ (List.getElem_mem inside),
          (begun index inside).mpr (Nat.lt_succ_self _), after⟩
      · rintro ⟨span, member, ordered, first, after⟩
        obtain ⟨j, h, rfl⟩ := List.getElem_of_mem member
        have upTo : j ≤ index := Nat.lt_succ_iff.mp ((begun j h).mp first)
        obtain earlier | rfl := Nat.lt_or_eq_of_le upTo
        · have next := List.pairwise_iff_getElem.mp apart j index h inside earlier
          exact (after.trans next).trans (proper _ (List.getElem_mem inside))
        · exact after

end DashcamStats.Journeys
