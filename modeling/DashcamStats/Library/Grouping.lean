import Mathlib.Data.List.Induction
import Mathlib.Order.Lattice

/-!
# Grouping in one pass

A list is cut into groups by comparing each element with one that is remembered of those before it,
whatever groups they went to.
-/

namespace DashcamStats.Grouping

universe u v

variable {R : Type u}

structure Walk (R : Type u) where
  closed : List (List R)
  current : List R
  previous : R

section

variable (same : R → R → Bool) (later : R → R → R)

def Walk.step (w : Walk R) (r : R) : Walk R :=
  if same w.previous r then ⟨w.closed, w.current ++ [r], later w.previous r⟩
  else ⟨w.closed ++ [w.current], [r], later w.previous r⟩

def Walk.groups (w : Walk R) : List (List R) := w.closed ++ [w.current]

def groups : List R → List (List R)
  | [] => []
  | first :: rest => (rest.foldl (Walk.step same later) ⟨[], [first], first⟩).groups

def furthest : List R → Option R
  | [] => none
  | first :: rest => some (rest.foldl later first)

end

variable {T : Type v} [LinearOrder T]

def latest (ends : R → T) (previous r : R) : R := if ends previous ≤ ends r then r else previous

/-- A group ends after these. -/
def Boundary (groups : List (List R)) (before : List R) : Prop :=
  ∃ k, (groups.take k).flatten = before

variable {same : R → R → Bool} {later : R → R → R}

theorem Boundary.prefix_flatten {groups : List (List R)} {before : List R}
    (boundary : Boundary groups before) : ∃ rest, before ++ rest = groups.flatten := by
  obtain ⟨k, rfl⟩ := boundary
  exact ⟨(groups.drop k).flatten, by rw [← List.flatten_append, List.take_append_drop]⟩

theorem boundary_append_singleton {groups : List (List R)} {group before : List R} :
    Boundary (groups ++ [group]) before ↔
      Boundary groups before ∨ groups.flatten ++ group = before := by
  constructor
  · rintro ⟨k, rfl⟩
    obtain short | long := Nat.lt_or_ge groups.length k
    · right
      rw [List.take_of_length_le (by simp; omega)]
      simp
    · exact .inl ⟨k, by rw [List.take_append_of_le_length long]⟩
  · rintro (⟨k, rfl⟩ | rfl)
    · refine ⟨min k groups.length, ?_⟩
      rw [List.take_append_of_le_length (Nat.min_le_right _ _), ← List.take_eq_take_min]
    · exact ⟨groups.length + 1, by rw [List.take_of_length_le (by simp)]; simp⟩

theorem furthest_append_singleton {before : List R} {f r : R}
    (h : furthest later before = some f) :
    furthest later (before ++ [r]) = some (later f r) := by
  cases before with
  | nil => cases h
  | cons first rest =>
    obtain rfl := Option.some.inj h
    simp [furthest]

/-- What holds once these have been walked -/
structure Walked (same : R → R → Bool) (later : R → R → R) (done : List R) (w : Walk R) :
    Prop where
  flat : w.closed.flatten ++ w.current = done
  filled : ∀ group ∈ w.groups, group ≠ []
  previous : furthest later done = some w.previous
  bounds : ∀ before r after f, done = before ++ r :: after → furthest later before = some f →
    (Boundary w.groups before ↔ same f r = false)

theorem split_last {done before after : List R} {r x : R}
    (split : done ++ [r] = before ++ x :: after) : (before = done ∧ x = r) ∨
      ∃ shorter, after = shorter ++ [r] ∧ done = before ++ x :: shorter := by
  obtain rfl | ⟨shorter, y, rfl⟩ := List.eq_nil_or_concat after
  · obtain ⟨whole, last⟩ := List.append_inj' split rfl
    exact .inl ⟨whole.symm, (List.singleton_inj.mp last).symm⟩
  · rw [List.concat_eq_append, ← List.cons_append, ← List.append_assoc] at split
    obtain ⟨whole, last⟩ := List.append_inj' split rfl
    obtain rfl := List.singleton_inj.mp last
    exact .inr ⟨shorter, List.concat_eq_append, whole⟩

theorem Walked.first (r : R) : Walked same later [r] ⟨[], [r], r⟩ := by
  refine ⟨rfl, by simp [Walk.groups], rfl, fun before x after f split remembered => ?_⟩
  cases before with
  | nil => cases remembered
  | cons _ rest => simp at split

theorem Walked.step {done : List R} {w : Walk R} (walked : Walked same later done w) (r : R) :
    Walked same later (done ++ [r]) (w.step same later r) := by
  obtain ⟨flat, filled, previous, bounds⟩ := walked
  have nonempty : w.current ≠ [] := filled w.current (by simp [Walk.groups])
  -- before the end of what has been walked nothing changes
  have unclosed : ¬ Boundary w.closed done := by
    intro boundary
    obtain ⟨rest, whole⟩ := boundary.prefix_flatten
    have lengths := congrArg List.length whole
    rw [← flat, List.length_append, List.length_append] at lengths
    have positive := List.length_pos_iff.mpr nonempty
    omega
  have earlier : ∀ before x after f, done = before ++ x :: after →
      furthest later before = some f → (Boundary w.closed before ↔ same f x = false) := by
    intro before x after f split remembered
    rw [← bounds before x after f split remembered, Walk.groups, boundary_append_singleton, flat,
      or_iff_left]
    intro whole
    simp [whole] at split
  unfold Walk.step
  split
  · rename_i joined
    refine ⟨by simp [← flat], ?_, furthest_append_singleton previous, ?_⟩
    · intro group member
      simp only [Walk.groups, List.mem_append, List.mem_singleton] at member
      obtain among | rfl := member
      · exact filled group (by simp [Walk.groups, among])
      · simp
    · intro before x after f split remembered
      rw [Walk.groups, boundary_append_singleton, ← List.append_assoc, flat]
      obtain ⟨rfl, rfl⟩ | ⟨shorter, -, within⟩ := split_last split
      · obtain rfl := Option.some.inj (previous.symm.trans remembered)
        simp [unclosed, joined]
      · rw [earlier before x shorter f within remembered, or_iff_left]
        rintro rfl
        simp at within
  · rename_i cut
    refine ⟨by simp [← flat], ?_, furthest_append_singleton previous, ?_⟩
    · intro group member
      simp only [Walk.groups, List.mem_append, List.mem_singleton] at member
      obtain (among | rfl) | rfl := member
      · exact filled group (by simp [Walk.groups, among])
      · exact nonempty
      · simp
    · intro before x after f split remembered
      rw [Walk.groups, boundary_append_singleton, boundary_append_singleton, List.flatten_append,
        List.flatten_singleton, flat]
      obtain ⟨rfl, rfl⟩ | ⟨shorter, -, within⟩ := split_last split
      · obtain rfl := Option.some.inj (previous.symm.trans remembered)
        simpa using cut
      · have shorterThan : before.length < done.length := by
          rw [within]
          simp
        rw [earlier before x shorter f within remembered, or_iff_left, or_iff_left]
        · rintro rfl
          exact absurd shorterThan (Nat.lt_irrefl _)
        · intro whole
          have lengths := congrArg List.length whole
          rw [List.length_append, List.length_singleton] at lengths
          omega

theorem walked_foldl {done : List R} {w : Walk R} (walked : Walked same later done w)
    (rest : List R) :
    Walked same later (done ++ rest) (rest.foldl (Walk.step same later) w) := by
  induction rest generalizing done w with
  | nil => simpa using walked
  | cons r rest ih => simpa using ih (walked.step r)

theorem groups_flatten (rs : List R) : (groups same later rs).flatten = rs := by
  cases rs with
  | nil => rfl
  | cons first rest => simpa [groups, Walk.groups] using (walked_foldl (.first first) rest).flat

theorem ne_nil_of_mem_groups {rs group : List R} (member : group ∈ groups same later rs) :
    group ≠ [] := by
  cases rs with
  | nil => simp [groups] at member
  | cons first rest => exact (walked_foldl (.first first) rest).filled group member

/-- There is a boundary exactly where an element is apart from what was remembered. -/
theorem boundary_iff {rs before after : List R} {r f : R} (split : rs = before ++ r :: after)
    (remembered : furthest later before = some f) :
    Boundary (groups same later rs) before ↔ same f r = false := by
  cases rs with
  | nil => simp at split
  | cons first rest =>
    exact (walked_foldl (.first first) rest).bounds before r after f split remembered

theorem furthest_append {older newer : List R} {f : R} (h : furthest later older = some f) :
    furthest later (older ++ newer) = some (newer.foldl later f) := by
  cases older with
  | nil => cases h
  | cons first rest =>
    obtain rfl := Option.some.inj h
    simp [furthest]

theorem exists_furthest {before : List R} (nonempty : before ≠ []) :
    ∃ f, furthest later before = some f := by
  cases before with
  | nil => exact absurd rfl nonempty
  | cons first rest => exact ⟨_, rfl⟩

theorem furthest_mem {ends : R → T} {before : List R} {f : R}
    (h : furthest (latest ends) before = some f) : f ∈ before ∧ ∀ e ∈ before, ends e ≤ ends f := by
  cases before with
  | nil => cases h
  | cons first rest =>
    obtain rfl := Option.some.inj h
    induction rest generalizing first with
    | nil => simp
    | cons r rest ih =>
      obtain ⟨member, greatest⟩ := ih (latest ends first r) rfl
      have both : ends first ≤ ends (latest ends first r) ∧ ends r ≤ ends (latest ends first r) := by
        unfold latest
        split
        · rename_i after
          exact ⟨after, le_refl _⟩
        · rename_i before
          exact ⟨le_refl _, le_of_not_ge before⟩
      have top := greatest _ List.mem_cons_self
      refine ⟨?_, ?_⟩
      · obtain same | among := List.mem_cons.mp member
        · rw [List.foldl_cons, same]
          unfold latest
          split <;> simp
        · exact List.mem_cons_of_mem _ (List.mem_cons_of_mem _ among)
      · intro e member
        obtain rfl | rfl | among := by simpa using member
        · exact both.1.trans top
        · exact both.2.trans top
        · exact greatest e (List.mem_cons_of_mem _ among)

/-- Either the element is replaced by one of these or they all end before it. -/
theorem foldl_latest (ends : R → T) (f : R) (newer : List R) :
    newer.foldl (latest ends) f ∈ newer ∨
      (newer.foldl (latest ends) f = f ∧ ∀ y ∈ newer, ends y < ends f) := by
  induction newer generalizing f with
  | nil => simp
  | cons y rest ih =>
    rw [List.foldl_cons]
    obtain among | ⟨kept, before⟩ := ih (latest ends f y)
    · exact .inl (List.mem_cons_of_mem _ among)
    · rw [kept]
      by_cases after : ends f ≤ ends y
      · left
        simp [latest, after]
      · have stays : latest ends f y = f := if_neg after
        rw [stays] at before ⊢
        refine .inr ⟨rfl, fun z member => ?_⟩
        obtain rfl | among := List.mem_cons.mp member
        · exact not_le.mp after
        · exact before z among

theorem furthest_append_of_lt {ends : R → T} {older newer : List R} {f : R}
    (h : furthest (latest ends) older = some f) (before : ∀ y ∈ newer, ends y < ends f) :
    furthest (latest ends) (older ++ newer) = some f := by
  rw [furthest_append h]
  obtain among | ⟨kept, -⟩ := foldl_latest ends f newer
  · have whole : furthest (latest ends) (older ++ newer) = some (newer.foldl (latest ends) f) :=
      furthest_append h
    have last := (furthest_mem whole).2 f (List.mem_append_left _ (furthest_mem h).1)
    exact absurd (before _ among) (not_lt.mpr last)
  · rw [kept]

/-- Every element after the first of a group belongs with an earlier one of the group. -/
def Founded (same : R → R → Bool) (groups : List (List R)) : Prop :=
  ∀ group ∈ groups, ∀ before r after, group = before ++ r :: after → before ≠ [] →
    ∃ e ∈ before, same e r = true

/-- Whoever belongs with the one that ended last before `x`, from which `x` was apart, and which
none since has outlasted or been apart from, belongs with one of those since. -/
def Rejoins (same : R → R → Bool) (ends : R → T) (rs : List R) : Prop :=
  ∀ older x newer r after f, rs = older ++ x :: (newer ++ r :: after) →
    furthest (latest ends) older = some f → same f x = false →
    (∀ y ∈ x :: newer, ends y < ends f) → (∀ z ∈ newer, same f z = true) → same f r = true →
      ∃ y ∈ x :: newer, same y r = true

/-- What links each element to the earlier one it belongs with connects the group. -/
theorem founded_connected {group : List R} {link : R → R → Prop}
    (founded : ∀ before r after, group = before ++ r :: after → before ≠ [] →
      ∃ e ∈ before, same e r = true)
    (symm : ∀ x y, link x y → link y x)
    (links : ∀ before r after, group = before ++ r :: after → ∀ e ∈ before, same e r = true →
      link e r) {a b : R} (first : a ∈ group) (second : b ∈ group) :
    Relation.ReflTransGen link a b := by
  cases group with
  | nil => cases first
  | cons head rest =>
    have reached : ∀ more left, rest = more ++ left → ∀ x ∈ head :: more,
        Relation.ReflTransGen link head x := by
      intro more
      induction more using List.reverseRecOn with
      | nil =>
        intro left _ x member
        obtain rfl := List.mem_singleton.mp member
        exact .refl
      | append_singleton more r ih =>
        intro left split x member
        have before := ih (r :: left) (by simpa using split)
        have whole : head :: rest = head :: more ++ r :: left := by simp [split]
        obtain ⟨e, early, joined⟩ := founded (head :: more) r left whole (by simp)
        obtain among | rfl : x ∈ head :: more ∨ x = r := by simpa [or_assoc] using member
        · exact before x among
        · exact (before e early).tail (links (head :: more) x left whole e early joined)
    have fromHead := reached rest [] (by simp)
    have back := Relation.ReflTransGen.mono (fun x y linked => symm y x linked) _ _
      (fromHead a first).swap
    exact back.trans (fromHead b second)

theorem not_boundary_inside {first rest : List (List R)} {front back : List R}
    (inside : front ≠ []) (more : back ≠ []) :
    ¬ Boundary (first ++ (front ++ back) :: rest) (first.flatten ++ front) := by
  rintro ⟨k, split⟩
  have lengths := congrArg List.length split
  have someFront := List.length_pos_iff.mpr inside
  have someBack := List.length_pos_iff.mpr more
  obtain short | long := Nat.lt_or_ge first.length k
  · obtain ⟨n, rfl⟩ := Nat.exists_eq_add_of_lt short
    rw [Nat.add_assoc, List.take_length_add_append, List.take_succ_cons] at lengths
    simp only [List.flatten_append, List.flatten_cons, List.length_append] at lengths
    omega
  · rw [List.take_append_of_le_length long] at lengths
    have whole := congrArg List.length (congrArg List.flatten (List.take_append_drop k first))
    rw [List.flatten_append, List.length_append] at whole
    rw [List.length_append] at lengths
    omega

theorem founded_of_rejoins {ends : R → T} {rs : List R} (rejoins : Rejoins same ends rs) :
    Founded same (groups same (latest ends) rs) := by
  intro group member before r after split some_before
  obtain ⟨first, rest, whole⟩ := List.append_of_mem member
  have elements : rs = first.flatten ++ before ++ r :: (after ++ rest.flatten) := by
    rw [← @groups_flatten R same (latest ends) rs, whole, split]
    simp
  have inside : ∀ front z back, before ++ r :: after = front ++ z :: back → front ≠ [] →
      ∀ f, furthest (latest ends) (first.flatten ++ front) = some f → same f z = true := by
    intro front z back cut some_front f remembered
    by_contra apart
    have elements : rs = (first.flatten ++ front) ++ z :: (back ++ rest.flatten) := by
      rw [← @groups_flatten R same (latest ends) rs, whole, split, cut]
      simp
    have boundary := (@boundary_iff R same _ _ _ _ _ _ elements remembered).mpr
      (by simpa using apart)
    rw [whole, split, cut] at boundary
    exact not_boundary_inside some_front (by simp) boundary
  cases begun : first.flatten with
  | nil =>
    obtain ⟨f, remembered⟩ := @exists_furthest R (latest ends) _ some_before
    exact ⟨f, (furthest_mem remembered).1, inside before r after rfl some_before f (by
      rwa [begun])⟩
  | cons e older =>
    obtain ⟨f, remembered⟩ := @exists_furthest R (latest ends) first.flatten (by simp [begun])
    have joined := inside before r after rfl some_before _ (furthest_append remembered)
    obtain among | ⟨kept, ended⟩ := foldl_latest ends f before
    · exact ⟨_, among, joined⟩
    · rw [kept] at joined
      obtain ⟨x, newer, rfl⟩ := List.exists_cons_of_ne_nil some_before
      refine rejoins first.flatten x newer r (after ++ rest.flatten) f (by simpa using elements)
        remembered ?_ ended (fun z among => ?_) joined
      · refine (boundary_iff (by simpa using elements) remembered).mp ⟨first.length, ?_⟩
        rw [whole]
        simp
      · obtain ⟨front, back, rfl⟩ := List.append_of_mem among
        refine inside (x :: front) z (back ++ r :: after) (by simp) (by simp) f ?_
        refine furthest_append_of_lt remembered fun y early => ended y ?_
        simp only [List.mem_cons, List.mem_append] at early ⊢
        tauto

theorem rejoins_of_founded {ends : R → T} {rs : List R}
    (founded : Founded same (groups same (latest ends) rs)) : Rejoins same ends rs := by
  intro older x newer r after f split remembered apart ended joined back
  obtain ⟨k, taken⟩ := (boundary_iff split remembered).mpr apart
  have left : ((groups same (latest ends) rs).drop k).flatten = x :: newer ++ r :: after := by
    have whole := congrArg List.flatten (List.take_append_drop k (groups same (latest ends) rs))
    rw [List.flatten_append, taken, groups_flatten] at whole
    simpa using List.append_cancel_left (whole.trans split)
  cases rest : (groups same (latest ends) rs).drop k with
  | nil => simp [rest] at left
  | cons group more =>
    have member : group ∈ groups same (latest ends) rs :=
      List.mem_of_mem_drop (rest ▸ List.mem_cons_self)
    rw [rest, List.flatten_cons] at left
    -- a group that ended before `r` would end at an element that is not apart
    have closes : ∀ tail, group ++ tail = x :: newer → False := by
      intro tail early
      have boundary : Boundary (groups same (latest ends) rs) (older ++ group) := by
        refine ⟨k + 1, ?_⟩
        have next := List.take_append_drop k (groups same (latest ends) rs)
        rw [rest] at next
        have short : k ≤ (groups same (latest ends) rs).length := by
          by_contra long
          rw [List.drop_of_length_le (by omega)] at rest
          cases rest
        rw [← next, List.take_append, List.length_take, Nat.min_eq_left short,
          List.take_take, Nat.min_eq_right (Nat.le_succ k)]
        simp [taken]
      have stays : furthest (latest ends) (older ++ group) = some f :=
        furthest_append_of_lt remembered fun y among => ended y (early ▸ List.mem_append_left _ among)
      cases tail with
      | nil =>
        have elements : rs = (older ++ group) ++ r :: after := by
          rw [split, ← List.append_nil group, early]
          simp
        have cut := (boundary_iff elements stays).mp boundary
        rw [back] at cut
        cases cut
      | cons z tail =>
        have elements : rs = (older ++ group) ++ z :: (tail ++ r :: after) := by
          rw [split, ← List.cons_append, ← early]
          simp
        have cut := (boundary_iff elements stays).mp boundary
        obtain ⟨y, shorter, rfl⟩ := List.exists_cons_of_ne_nil (ne_nil_of_mem_groups member)
        rw [List.cons_append, List.cons.injEq] at early
        rw [joined z (early.2 ▸ by simp)] at cut
        cases cut
    obtain ⟨tail, early, -⟩ | ⟨tail, split', rest'⟩ := List.append_eq_append_iff.mp left
    · exact absurd early.symm (closes tail)
    · cases tail with
      | nil => exact absurd (by simpa using split') (closes [])
      | cons z tail =>
        obtain rfl : r = z := (List.cons.inj rest').1
        exact founded group member (x :: newer) r tail split' (by simp)

theorem founded_iff {ends : R → T} {rs : List R} :
    Founded same (groups same (latest ends) rs) ↔ Rejoins same ends rs :=
  ⟨rejoins_of_founded, founded_of_rejoins⟩

end DashcamStats.Grouping
