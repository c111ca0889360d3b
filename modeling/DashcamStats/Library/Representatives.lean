import Mathlib.Data.List.MinMax
import Mathlib.Data.List.Nodup
import Mathlib.Data.List.Perm.Subperm

/-!
# One representative for each neighbourhood

Elements arrive one by one. The first representative near an arrival stands for it, and gives way
to it when the arrival scores more; an arrival near none becomes a representative.
-/

namespace DashcamStats

universe u v

variable {α : Type u} {S : Type v} [LinearOrder S] (near : α → α → Bool) (score : α → S)

def represent : List α → α → List α
  | [], x => [x]
  | r :: rest, x =>
    if near r x then (if score r < score x then x :: rest else r :: rest)
    else r :: represent rest x

def representatives (xs : List α) : List α := xs.foldl (represent near score) []

/-- Nobody who is near two strangers scores more than either. -/
def Calm (xs : List α) : Prop :=
  ∀ a ∈ xs, ∀ b ∈ xs, ∀ c ∈ xs, near a b → near b c → ¬ near a c →
    score b ≤ score a ∧ score b ≤ score c

def Peak (xs : List α) (x : α) : Prop :=
  x ∈ xs ∧ ∀ y ∈ xs, near y x → y ≠ x → score y < score x

def Strangers (xs : List α) : Prop := xs.Pairwise fun a b => ¬ near a b

variable {near score} {xs ys group : List α} {a x r : α}

variable (near score) in
theorem represent_cases (group : List α) (x : α) :
    ((∀ r ∈ group, ¬ near r x) ∧ represent near score group x = group ++ [x]) ∨
    ∃ front r back, group = front ++ r :: back ∧ near r x ∧
      ((score r < score x ∧ represent near score group x = front ++ x :: back) ∨
        (¬ score r < score x ∧ represent near score group x = group)) := by
  induction group with
  | nil => exact .inl ⟨by simp, rfl⟩
  | cons head rest ih =>
    by_cases close : near head x
    · right
      refine ⟨[], head, rest, rfl, close, ?_⟩
      by_cases more : score head < score x
      · exact .inl ⟨more, by simp [represent, close, more]⟩
      · exact .inr ⟨more, by simp [represent, close, more]⟩
    · cases ih with
      | inl none =>
        left
        refine ⟨?_, by simp [represent, close, none.2]⟩
        intro r member
        cases List.mem_cons.mp member with
        | inl same => rwa [same]
        | inr later => exact none.1 r later
      | inr found =>
        obtain ⟨front, r, back, shape, near_r, outcome⟩ := found
        right
        refine ⟨head :: front, r, back, by simp [shape], near_r, ?_⟩
        cases outcome with
        | inl more => exact .inl ⟨more.1, by simp [represent, close, more.2]⟩
        | inr less => exact .inr ⟨less.1, by simp [represent, close, less.2]⟩

theorem represent_ne_nil : represent near score group x ≠ [] := by
  cases represent_cases near score group x with
  | inl none => simp [none.2]
  | inr found =>
    obtain ⟨front, r, back, shape, _, outcome⟩ := found
    cases outcome with
    | inl more => simp [more.2]
    | inr less =>
      rw [less.2, shape]
      simp

theorem represent_subset : represent near score group x ⊆ x :: group := by
  intro r member
  cases represent_cases near score group x with
  | inl none =>
    rw [none.2] at member
    simpa [or_comm] using member
  | inr found =>
    obtain ⟨front, r', back, shape, _, outcome⟩ := found
    cases outcome with
    | inl more =>
      rw [more.2] at member
      simp only [shape, List.mem_cons, List.mem_append] at member ⊢
      tauto
    | inr less =>
      rw [less.2] at member
      exact List.mem_cons_of_mem _ member

theorem representatives_append_singleton :
    representatives near score (xs ++ [x]) =
      represent near score (representatives near score xs) x := by
  simp [representatives]

theorem representatives_subset : representatives near score xs ⊆ xs := by
  induction xs using List.reverseRecOn with
  | nil => simp [representatives]
  | append_singleton earlier x ih =>
    intro r member
    rw [representatives_append_singleton] at member
    cases List.mem_cons.mp (represent_subset member) with
    | inl same => simp [same]
    | inr before => exact List.mem_append_left _ (ih before)

theorem Calm.mono (calm : Calm near score xs) (within : ys ⊆ xs) : Calm near score ys :=
  fun a ha b hb c hc => calm a (within ha) b (within hb) c (within hc)

section Symmetric

variable (symm : ∀ a b, near a b = near b a)
include symm

theorem strangers_replace {front back : List α} (apart : Strangers near (front ++ r :: back))
    (calm : Calm near score (x :: front ++ r :: back)) (close : near r x)
    (more : score r < score x) : Strangers near (front ++ x :: back) := by
  have far : ∀ other ∈ front ++ back, ¬ near r other → ¬ near x other := by
    intro other member stranger met
    have inside : other ∈ x :: front ++ r :: back := by
      simp only [List.cons_append, List.mem_cons, List.mem_append] at member ⊢
      tauto
    have low := calm r (by simp) x (by simp) other inside close met stranger
    exact absurd more (not_lt.mpr low.1)
  unfold Strangers at apart ⊢
  rw [List.pairwise_append, List.pairwise_cons] at apart ⊢
  obtain ⟨before, ⟨after, rest⟩, across⟩ := apart
  refine ⟨before, ⟨?_, rest⟩, ?_⟩
  · intro other member
    exact far other (by simp [member]) (after other member)
  · intro a member b here
    cases List.mem_cons.mp here with
    | inl same =>
      rw [same, symm]
      apply far a (by simp [member])
      rw [symm]
      exact across a member r (by simp)
    | inr later => exact across a member b (by simp [later])

/-- Among calm elements the representatives are strangers to each other. -/
theorem Calm.strangers (calm : Calm near score xs) :
    Strangers near (representatives near score xs) := by
  induction xs using List.reverseRecOn with
  | nil => exact .nil
  | append_singleton earlier x ih =>
    have apart := ih (calm.mono (List.subset_append_left _ _))
    rw [representatives_append_singleton]
    cases represent_cases near score (representatives near score earlier) x with
    | inl none =>
      rw [none.2]
      unfold Strangers
      rw [List.pairwise_append]
      refine ⟨apart, List.pairwise_singleton _ _, ?_⟩
      intro r member y here
      rw [List.mem_singleton.mp here]
      exact none.1 r member
    | inr found =>
      obtain ⟨front, r, back, shape, close, outcome⟩ := found
      cases outcome with
      | inl more =>
        rw [more.2]
        rw [shape] at apart
        apply strangers_replace symm apart _ close more.1
        apply calm.mono
        intro y member
        have known : representatives near score earlier ⊆ earlier := representatives_subset
        rw [shape] at known
        cases List.mem_cons.mp member with
        | inl same => simp [same]
        | inr before => exact List.mem_append_left _ (known before)
      | inr less =>
        rw [less.2]
        exact apart

variable (refl : ∀ a, near a a = true)
include refl

omit symm in
theorem Strangers.nodup (apart : Strangers near xs) : xs.Nodup := by
  apply List.Pairwise.imp _ apart
  intro a b stranger same
  rw [same] at stranger
  exact stranger (refl b)

omit symm refl in
theorem peak_last (fresh : x ∉ xs) :
    Peak near score (xs ++ [x]) x ↔ ∀ y ∈ xs, near y x → score y < score x := by
  constructor
  · intro peak y member close
    apply peak.2 y (List.mem_append_left _ member) close
    rintro rfl
    exact fresh member
  · intro lower
    refine ⟨by simp, ?_⟩
    intro y member close different
    cases List.mem_append.mp member with
    | inl before => exact lower y before close
    | inr now => exact absurd (List.mem_singleton.mp now) different

omit symm refl in
theorem peak_before {y : α} (fresh : x ∉ xs) (member : y ∈ xs) :
    Peak near score (xs ++ [x]) y ↔ Peak near score xs y ∧ (near x y → score x < score y) := by
  constructor
  · intro peak
    refine ⟨⟨member, fun z before => peak.2 z (List.mem_append_left _ before)⟩, ?_⟩
    intro close
    apply peak.2 x (by simp) close
    rintro rfl
    exact fresh member
  · intro both
    refine ⟨List.mem_append_left _ member, ?_⟩
    intro z here close different
    cases List.mem_append.mp here with
    | inl before => exact both.1.2 z before close different
    | inr now =>
      rw [List.mem_singleton.mp now] at close ⊢
      exact both.2 close

omit refl in
theorem Peak.strangers {y : α} (first : Peak near score xs y) (second : Peak near score xs r)
    (different : y ≠ r) : ¬ near y r := by
  intro close
  have up := second.2 y first.1 close different
  rw [symm] at close
  have down := first.2 r second.1 close (Ne.symm different)
  exact absurd up (not_lt.mpr (le_of_lt down))

omit refl in
-- Uphill from a neighbour there is always a peak that is still a neighbour.
theorem Calm.peak_above (calm : Calm near score (xs ++ [x])) (distinct : (xs.map score).Nodup)
    {y : α} (member : y ∈ xs) (close : near y x) (higher : score x < score y) :
    ∃ p, near p x ∧ Peak near score xs p := by
  let above := xs.filter fun y => near y x && decide (score x < score y)
  have found : y ∈ above := List.mem_filter.mpr ⟨member, by simp [close, higher]⟩
  cases best : above.argmax score with
  | none =>
    rw [List.argmax_eq_none] at best
    rw [best] at found
    cases found
  | some p =>
    have chosen : p ∈ above := List.argmax_mem best
    obtain ⟨known, near_p⟩ := List.mem_filter.mp chosen
    simp only [Bool.and_eq_true, decide_eq_true_eq] at near_p
    refine ⟨p, near_p.1, known, ?_⟩
    intro z inside beside different
    by_cases local_ : near z x
    · by_cases more : score x < score z
      · have candidate : z ∈ above := List.mem_filter.mpr ⟨inside, by simp [local_, more]⟩
        apply lt_of_le_of_ne (List.le_of_mem_argmax candidate best)
        intro same
        exact different (List.inj_on_of_nodup_map distinct inside known same)
      · exact lt_of_le_of_lt (not_lt.mp more) near_p.2
    · -- a stranger of the arrival that is near the peak: the peak could not be higher
      rw [symm] at beside
      have close_x : near x p := by
        rw [symm]
        exact near_p.1
      have stranger : ¬ near x z := by
        rwa [symm]
      have low := calm x (by simp) p (List.mem_append_left _ known) z
        (List.mem_append_left _ inside) close_x beside stranger
      exact absurd near_p.2 (not_lt.mpr low.1)

/-- Among calm elements of different scores the representatives are the peaks: the order of
arrival does not matter. -/
theorem Calm.mem_representatives (calm : Calm near score xs) (distinct : (xs.map score).Nodup) :
    ∀ y, y ∈ representatives near score xs ↔ Peak near score xs y := by
  induction xs using List.reverseRecOn with
  | nil =>
    intro y
    simp [representatives, Peak]
  | append_singleton earlier x ih =>
    have calm' := calm.mono (List.subset_append_left earlier [x])
    have distinct' : (earlier.map score).Nodup := by
      rw [List.map_append] at distinct
      exact distinct.of_append_left
    have known := ih calm' distinct'
    have apart := calm'.strangers symm
    have unequal : ∀ z ∈ earlier, score z ≠ score x := by
      intro z member same
      rw [List.map_append, List.map_singleton] at distinct
      exact List.disjoint_of_nodup_append distinct (List.mem_map_of_mem member) (by simp [same])
    have fresh : x ∉ earlier := fun member => unequal x member rfl
    -- x scores less than a representative it is near unless it takes its place
    have beside : ∀ r y, Peak near score earlier r → Peak near score earlier y → y ≠ r →
        near r x → near x y → score x < score r ∧ score x < score y := by
      intro r y first second different close close'
      have stranger : ¬ near r y := first.strangers symm second (Ne.symm different)
      have low := calm r (List.mem_append_left _ first.1) x (by simp) y
        (List.mem_append_left _ second.1) close close' stranger
      exact ⟨lt_of_le_of_ne low.1 (unequal r first.1).symm,
        lt_of_le_of_ne low.2 (unequal y second.1).symm⟩
    rw [representatives_append_singleton]
    cases represent_cases near score (representatives near score earlier) x with
    | inl none =>
      rw [none.2]
      intro y
      rw [List.mem_append, List.mem_singleton]
      constructor
      · intro here
        cases here with
        | inl before =>
          have peak := (known y).mp before
          refine (peak_before fresh peak.1).mpr ⟨peak, fun close => ?_⟩
          rw [symm] at close
          exact absurd close (none.1 y before)
        | inr same =>
          rw [same]
          refine (peak_last fresh).mpr fun z member close => ?_
          by_contra notLower
          have higher := lt_of_le_of_ne (not_lt.mp notLower) (unequal z member).symm
          obtain ⟨p, near_p, peak⟩ := calm.peak_above symm distinct' member close higher
          exact none.1 p ((known p).mpr peak) near_p
      · intro peak
        cases List.mem_append.mp peak.1 with
        | inl before => exact .inl ((known y).mpr ((peak_before fresh before).mp peak).1)
        | inr now => exact .inr (List.mem_singleton.mp now)
    | inr found =>
      obtain ⟨front, r, back, shape, close, outcome⟩ := found
      have here : Peak near score earlier r := (known r).mp (by simp [shape])
      cases outcome with
      | inl more =>
        rw [more.2]
        have once := apart.nodup refl
        rw [shape] at once
        have others : ∀ y, y ∈ front ++ back ↔ Peak near score earlier y ∧ y ≠ r := by
          intro y
          rw [← known y, shape]
          have different := List.nodup_middle.mp once
          rw [List.nodup_cons] at different
          constructor
          · intro member
            refine ⟨?_, ?_⟩
            · simp only [List.mem_append, List.mem_cons] at member ⊢
              tauto
            · rintro rfl
              exact different.1 member
          · intro both
            simp only [List.mem_append, List.mem_cons] at both ⊢
            tauto
        intro y
        have split : y ∈ front ++ x :: back ↔ y = x ∨ y ∈ front ++ back := by
          simp only [List.mem_append, List.mem_cons]
          tauto
        rw [split, others]
        constructor
        · intro either
          cases either with
          | inl same =>
            rw [same]
            refine (peak_last fresh).mpr fun z member beside_z => ?_
            by_cases same' : z = r
            · rw [same']
              exact more.1
            by_cases close' : near z r
            · exact lt_trans (here.2 z member close' same') more.1
            · have stranger : ¬ near r z := by rwa [symm]
              have near_xz : near x z := by rwa [symm]
              have low := calm r (List.mem_append_left _ here.1) x (by simp) z
                (List.mem_append_left _ member) close near_xz stranger
              exact absurd more.1 (not_lt.mpr low.1)
          | inr other =>
            refine (peak_before fresh other.1.1).mpr ⟨other.1, fun close' => ?_⟩
            exact (beside r y here other.1 other.2 close close').2
        · intro peak
          cases List.mem_append.mp peak.1 with
          | inr now => exact .inl (List.mem_singleton.mp now)
          | inl before =>
            have both := (peak_before fresh before).mp peak
            refine .inr ⟨both.1, ?_⟩
            rintro rfl
            rw [symm] at close
            exact absurd more.1 (not_lt.mpr (le_of_lt (both.2 close)))
      | inr less =>
        rw [less.2]
        have lower : score x < score r :=
          lt_of_le_of_ne (not_lt.mp less.1) (unequal r here.1).symm
        intro y
        rw [known y]
        constructor
        · intro peak
          refine (peak_before fresh peak.1).mpr ⟨peak, fun close' => ?_⟩
          by_cases same : y = r
          · rw [same]
            exact lower
          · exact (beside r y here peak same close close').2
        · intro peak
          cases List.mem_append.mp peak.1 with
          | inl before => exact ((peak_before fresh before).mp peak).1
          | inr now =>
            rw [List.mem_singleton.mp now] at peak
            have := (peak_last fresh).mp peak r here.1 close
            exact absurd this (not_lt.mpr (le_of_lt lower))

/-- Where the representatives of calm elements stand does not depend on the order. -/
theorem Calm.perm (calm : Calm near score xs) (distinct : (xs.map score).Nodup)
    (perm : xs.Perm ys) :
    (representatives near score xs).Perm (representatives near score ys) := by
  have calm' : Calm near score ys := calm.mono perm.symm.subset
  have distinct' : (ys.map score).Nodup := (perm.map score).nodup_iff.mp distinct
  refine (List.perm_ext_iff_of_nodup ((calm.strangers symm).nodup refl)
    ((calm'.strangers symm).nodup refl)).mpr ?_
  intro y
  rw [calm.mem_representatives symm refl distinct, calm'.mem_representatives symm refl distinct']
  simp [Peak, perm.mem_iff]

/-- Elements that are not calm have three whose representatives are not strangers. -/
theorem exists_met_of_not_calm (noisy : ¬ Calm near score xs) :
    ∃ a b c, [a, c, b].Subperm xs ∧ representatives near score [a, c, b] = [b, c] ∧
      near b c := by
  simp only [Calm, not_forall, exists_prop] at noisy
  obtain ⟨a, ha, b, hb, c, hc, close, close', stranger, higher⟩ := noisy
  have a_ne_c : a ≠ c := by
    rintro rfl
    exact stranger (refl a)
  have a_ne_b : a ≠ b := by
    rintro rfl
    exact stranger close'
  have c_ne_b : c ≠ b := by
    rintro rfl
    exact stranger close
  rw [not_and_or, not_le, not_le] at higher
  cases higher with
  | inl more =>
    refine ⟨a, b, c, List.Nodup.subperm (by simp [a_ne_c, a_ne_b, c_ne_b])
      (by simp [ha, hb, hc]), ?_, close'⟩
    simp [representatives, represent, stranger, close, more]
  | inr more =>
    have back : near c b := by rwa [symm]
    have stranger' : ¬ near c a := by rwa [symm]
    refine ⟨c, b, a, List.Nodup.subperm (by simp [a_ne_c.symm, a_ne_b, c_ne_b])
      (by simp [ha, hb, hc]), ?_, by rwa [symm]⟩
    simp [representatives, represent, stranger', back, more]

end Symmetric

end DashcamStats
