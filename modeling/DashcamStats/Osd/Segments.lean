import DashcamStats.Osd.TrackQuality

namespace DashcamStats.Osd

-- `b` is the next drawable after `a`, and nothing cuts the line between them.
structure Joined (verdicts : List Verdict) (a b : ℕ) : Prop where
  less : a < b
  start : (verdicts[a]?).any (·.drawable) = true
  stop : (verdicts[b]?).any (fun v => v.drawable && !v.breaksSegment) = true
  between : ∀ i, a < i → i < b → (verdicts[i]?).any (·.drawable) = false

-- After the first `n` verdicts
structure RunsInv (verdicts : List Verdict) (n : ℕ) (state : Runs) : Prop where
  runs : ∀ run ∈ state.runs, run.IsChain (Joined verdicts)
  current : state.current.IsChain (Joined verdicts)
  last : ∀ i ∈ state.current.getLast?, i < n ∧ (verdicts[i]?).any (·.drawable) = true ∧
    ∀ j, i < j → j < n → (verdicts[j]?).any (·.drawable) = false

theorem RunsInv.step {verdicts : List Verdict} {n : ℕ} {state : Runs} {verdict : Verdict}
    (inv : RunsInv verdicts n state) (here : verdicts[n]? = some verdict) :
    RunsInv verdicts (n + 1) (state.add n verdict) := by
  unfold Runs.add
  by_cases drawable : verdict.drawable = true
  · have isLast (i : ℕ) (h : i = n) : i < n + 1 ∧ (verdicts[i]?).any (·.drawable) = true ∧
        ∀ j, i < j → j < n + 1 → (verdicts[j]?).any (·.drawable) = false := by
      subst h
      exact ⟨by omega, by rw [here]; exact drawable, fun j after before => by omega⟩
    rw [if_pos drawable]
    split_ifs with cut
    · refine ⟨fun run among => ?_, List.isChain_singleton n, fun i h => isLast i ?_⟩
      · obtain among | among := List.mem_append.mp among
        · exact inv.runs run among
        · exact List.mem_singleton.mp among ▸ inv.current
      · simpa [eq_comm] using h
    · refine ⟨inv.runs, ?_, fun i h => isLast i ?_⟩
      · refine List.isChain_append.mpr ⟨inv.current, List.isChain_singleton n, ?_⟩
        intro i isLast j isNew
        obtain rfl : n = j := by simpa using isNew
        obtain ⟨less, start, between⟩ := inv.last i isLast
        have whole : verdict.breaksSegment = false := by
          cases flag : verdict.breaksSegment with
          | false => rfl
          | true =>
            have nonempty : state.current ≠ [] := by
              rintro empty
              simp [empty] at isLast
            simp [flag, nonempty] at cut
        exact ⟨less, start, by simp [here, drawable, whole], between⟩
      · simpa [eq_comm] using h
  · rw [if_neg drawable]
    refine ⟨inv.runs, inv.current, fun i h => ?_⟩
    obtain ⟨less, start, between⟩ := inv.last i h
    refine ⟨by omega, start, fun j after before => ?_⟩
    obtain earlier | rfl := Nat.lt_succ_iff_lt_or_eq.mp before
    · exact between j after earlier
    · simpa [here] using drawable

theorem runsInv_foldl {verdicts before rest : List Verdict} {state : Runs}
    (split : verdicts = before ++ rest) (inv : RunsInv verdicts before.length state) :
    RunsInv verdicts verdicts.length
      ((rest.zipIdx before.length).foldl (fun state entry => state.add entry.2 entry.1) state) := by
  induction rest generalizing before state with
  | nil => simpa [split] using inv
  | cons verdict rest ih =>
    rw [List.zipIdx_cons, List.foldl_cons]
    have next := @ih (before ++ [verdict]) (state.add before.length verdict)
      (by simpa using split)
    rw [List.length_append, List.length_singleton] at next
    exact next (inv.step (by simp [split]))

theorem segments_joined (verdicts : List Verdict) :
    ∀ run ∈ segments verdicts, run.IsChain (Joined verdicts) := by
  have inv : RunsInv verdicts verdicts.length (collectRuns verdicts) :=
    @runsInv_foldl verdicts [] verdicts _ rfl
      ⟨fun run among => absurd among List.not_mem_nil, List.IsChain.nil, fun i h => by simp at h⟩
  intro run among
  have among : run ∈ (collectRuns verdicts).all := (List.mem_filter.mp among).1
  unfold Runs.all at among
  split_ifs at among
  · exact inv.runs run among
  · obtain among | among := List.mem_append.mp among
    · exact inv.runs run among
    · exact List.mem_singleton.mp among ▸ inv.current

section

variable {haversineM : ℚ → ℚ → ℚ → ℚ → ℚ}

-- What the walk has seen of a leg that it does not cut
structure Reached (haversineM : ℚ → ℚ → ℚ → ℚ → ℚ) (a b : Fix) : Prop where
  reachable : distanceBetween haversineM a.position b.position ≤ reachableRadiusM (b.tS - a.tS)
  near : distanceBetween haversineM a.position b.position ≤ MAX_GAP_M
  soon : b.tS - a.tS ≤ MAX_GAP_S

def anchorAfter (anchor : Option Fix) (walked : List Walked) : Option Fix :=
  walked.foldl (fun anchor w => if w.trusted then some w.fix else anchor) anchor

-- What the walk does to one
structure Step (haversineM : ℚ → ℚ → ℚ → ℚ → ℚ) (anchor : Option Fix) (w : Walked) : Prop where
  drawn : w.unreachable.isSome = true → w.verdict.drawable = true
  first : anchor = none → w.verdict.drawable = true →
    w.unreachable = none ∧ w.verdict.breaksSegment = true
  leg : ∀ previous, anchor = some previous → w.trusted = true → w.verdict.breaksSegment = false →
    Reached haversineM previous w.fix

theorem walkOne_same (anchor : Option Fix) (fix : Fix) (verdict : Verdict) :
    (walkOne haversineM anchor fix verdict).fix = fix ∧
      (walkOne haversineM anchor fix verdict).verdict.drawable = verdict.drawable := by
  unfold walkOne
  by_cases drawable : verdict.drawable = true
  · rw [if_pos drawable]
    cases anchor with
    | none => exact ⟨rfl, rfl⟩
    | some previous =>
      dsimp only
      split_ifs <;> exact ⟨rfl, rfl⟩
  · rw [if_neg drawable]
    exact ⟨rfl, rfl⟩

theorem walkOne_step (anchor : Option Fix) (fix : Fix) (verdict : Verdict) :
    Step haversineM anchor (walkOne haversineM anchor fix verdict) := by
  unfold walkOne
  by_cases drawable : verdict.drawable = true
  · rw [if_pos drawable]
    cases anchor with
    | none =>
      exact ⟨fun h => by simp at h, fun _ _ => ⟨rfl, rfl⟩, fun previous h => by simp at h⟩
    | some previous =>
      dsimp only
      split_ifs with far gap
      · exact ⟨fun _ => drawable, fun h => by simp at h, fun _ _ h => by simp [Walked.trusted] at h⟩
      · exact ⟨fun h => by simp at h, fun h => by simp at h, fun _ _ _ h => by simp at h⟩
      · refine ⟨fun h => by simp at h, fun h => by simp at h, fun other same _ _ => ?_⟩
        obtain rfl := Option.some.inj same
        rw [not_or, not_lt, not_lt] at gap
        exact ⟨not_lt.mp far, gap.2, gap.1⟩
  · rw [if_neg drawable]
    exact ⟨fun h => by simp at h, fun _ h => absurd h drawable,
      fun _ _ h => absurd (by simpa [Walked.trusted] using h) drawable⟩

theorem walk_step {anchor : Option Fix} {pairs : List (Fix × Verdict)} {before after : List Walked}
    {w : Walked} (split : walk haversineM anchor pairs = before ++ w :: after) :
    Step haversineM (anchorAfter anchor before) w := by
  induction pairs generalizing anchor before with
  | nil => simp [walk] at split
  | cons pair rest ih =>
    rw [walk] at split
    cases before with
    | nil =>
      obtain ⟨rfl, -⟩ := List.cons.inj split
      exact walkOne_step anchor pair.1 pair.2
    | cons first before =>
      obtain ⟨rfl, tail⟩ := List.cons.inj split
      have later := ih tail
      rw [anchorAfter, List.foldl_cons, (walkOne_same anchor pair.1 pair.2).1]
      exact later

theorem walk_same (anchor : Option Fix) (pairs : List (Fix × Verdict)) :
    (walk haversineM anchor pairs).map (fun w => (w.fix, w.verdict.drawable)) =
      pairs.map fun pair => (pair.1, pair.2.drawable) := by
  induction pairs generalizing anchor with
  | nil => rfl
  | cons pair rest ih =>
    obtain ⟨fix, drawable⟩ := @walkOne_same haversineM anchor pair.1 pair.2
    rw [walk, List.map_cons, List.map_cons, ih, fix, drawable]

theorem anchorAfter_skipped {anchor : Option Fix} {walked : List Walked}
    (skipped : ∀ w ∈ walked, w.trusted = false) : anchorAfter anchor walked = anchor := by
  induction walked with
  | nil => rfl
  | cons w rest ih =>
    have skip : w.trusted = false := skipped w List.mem_cons_self
    have later := ih fun v among => skipped v (List.mem_cons_of_mem w among)
    simpa [anchorAfter, skip] using later

theorem anchorAfter_eq {anchor : Option Fix} {before between : List Walked} {w : Walked}
    (trusted : w.trusted = true) (skipped : ∀ v ∈ between, v.trusted = false) :
    anchorAfter anchor (before ++ w :: between) = some w.fix := by
  rw [anchorAfter, List.foldl_append, List.foldl_cons, if_pos trusted]
  exact anchorAfter_skipped skipped

theorem exists_trusted {before : List Walked} {previous : Fix}
    (h : anchorAfter none before = some previous) : ∃ w ∈ before, w.trusted = true := by
  by_contra absent
  have skipped : ∀ w ∈ before, w.trusted = false := fun w among =>
    Bool.eq_false_iff.mpr fun trusted => absent ⟨w, among, trusted⟩
  rw [anchorAfter_skipped skipped] at h
  cases h

theorem drawable_count {walked : List Walked}
    (drawn : ∀ w ∈ walked, w.unreachable.isSome = true → w.verdict.drawable = true) :
    (walked.filter (·.verdict.drawable)).length =
      (walked.filter (·.unreachable.isSome)).length + (walked.filter (·.trusted)).length := by
  induction walked with
  | nil => rfl
  | cons w rest ih =>
    have rest := ih fun v among => drawn v (List.mem_cons_of_mem w among)
    have here := drawn w List.mem_cons_self
    cases drawable : w.verdict.drawable <;> cases unreachable : w.unreachable <;>
      simp_all [Walked.trusted] <;> omega

theorem cut_of_not_decisive {pairs : List (Fix × Verdict)} {before after : List Walked} {w : Walked}
    (split : walk haversineM none pairs = before ++ w :: after)
    (few : decisive (walk haversineM none pairs) = false) (trusted : w.trusted = true) :
    w.verdict.breaksSegment = true := by
  by_contra whole
  have drawable : w.verdict.drawable = true := (Bool.and_eq_true_iff.mp trusted).1
  have anchored : ∃ previous, anchorAfter none before = some previous := by
    cases anchor : anchorAfter none before with
    | some previous => exact ⟨previous, rfl⟩
    | none => exact absurd ((walk_step split).first anchor drawable).2 whole
  obtain ⟨previous, anchor⟩ := anchored
  obtain ⟨u, among, trusted'⟩ := exists_trusted anchor
  have drawn : ∀ v ∈ walk haversineM none pairs, v.unreachable.isSome = true →
      v.verdict.drawable = true := by
    intro v among
    obtain ⟨left, right, split⟩ := List.append_of_mem among
    exact (walk_step split).drawn
  have count := drawable_count drawn
  have two : 2 ≤ ((walk haversineM none pairs).filter (·.trusted)).length := by
    have one : 0 < (before.filter (·.trusted)).length :=
      List.length_pos_of_mem (List.mem_filter.mpr ⟨among, trusted'⟩)
    rw [split, List.filter_append, List.filter_cons_of_pos trusted, List.length_append,
      List.length_cons]
    omega
  obtain ⟨few, several⟩ := Bool.or_eq_false_iff.mp few
  have few := of_decide_eq_false few
  have several := of_decide_eq_false several
  rw [MIN_NEIGHBOURS] at few
  omega

theorem settleOne_drawable {decisive : Bool} {w : Walked}
    (h : (settleOne decisive w).drawable = true)
    (whole : (settleOne decisive w).breaksSegment = false) :
    w.unreachable = none ∧ settleOne decisive w = w.verdict := by
  cases unreachable : w.unreachable with
  | none => exact ⟨rfl, by rw [settleOne, unreachable]⟩
  | some pair =>
    cases decisive with
    | true => simp [settleOne, unreachable, Verdict.drawable] at h
    | false => simp [settleOne, unreachable] at whole

theorem settleOne_trusted {w : Walked} : (settleOne true w).drawable = w.trusted := by
  cases unreachable : w.unreachable with
  | none => simp [settleOne, unreachable, Walked.trusted]
  | some pair => simp [settleOne, unreachable, Walked.trusted, Verdict.drawable]

theorem eq_take_append {α : Type} {xs : List α} {i : ℕ} {x : α} (h : xs[i]? = some x) :
    xs = xs.take i ++ x :: xs.drop (i + 1) := by
  obtain ⟨within, rfl⟩ := List.getElem?_eq_some_iff.mp h
  rw [List.getElem_cons_drop, List.take_append_drop]

theorem reached_of_joined {pairs : List (Fix × Verdict)} {a b : ℕ}
    (joined : Joined (settle (walk haversineM none pairs)) a b) :
    ∃ v w, (walk haversineM none pairs)[a]? = some v ∧ (walk haversineM none pairs)[b]? = some w ∧
      v.verdict.drawable = true ∧ w.verdict.drawable = true ∧
      Reached haversineM v.fix w.fix := by
  set walked := walk haversineM none pairs with walked_def
  obtain ⟨less, start, stop, between⟩ := joined
  simp only [settle, List.getElem?_map, Option.any_map, Option.any_eq_true] at start stop
  obtain ⟨v, hv, start⟩ := start
  obtain ⟨w, hw, stop⟩ := stop
  simp only [Bool.and_eq_true, Bool.not_eq_true'] at start stop
  obtain ⟨drawable, whole⟩ := stop
  obtain ⟨reachable, same⟩ := settleOne_drawable drawable whole
  rw [same] at drawable whole
  have trusted : w.trusted = true := by simp [Walked.trusted, drawable, reachable]
  have split := eq_take_append hw
  have sure : decisive walked = true := by
    by_contra few
    have cut := cut_of_not_decisive split (Bool.eq_false_iff.mpr few) trusted
    exact absurd cut (by simp [whole])
  rw [sure, settleOne_trusted] at start
  have within : (walked.take b)[a]? = some v := by rw [List.getElem?_take_of_lt less, hv]
  have skipped : ∀ u ∈ (walked.take b).drop (a + 1), u.trusted = false := by
    intro u among
    obtain ⟨k, inside, rfl⟩ := List.getElem_of_mem among
    have bound : a + 1 + k < b := by
      simp only [List.length_drop, List.length_take] at inside
      omega
    have none := between (a + 1 + k) (by omega) bound
    rw [settle, List.getElem?_map, Option.any_map, sure] at none
    rw [List.getElem_drop, List.getElem_take]
    rw [List.getElem?_eq_getElem] at none
    simpa [settleOne_trusted] using none
  have anchor : anchorAfter none (walked.take b) = some v.fix := by
    rw [eq_take_append within]
    exact anchorAfter_eq start skipped
  exact ⟨v, w, hv, hw, (Bool.and_eq_true_iff.mp start).1, drawable,
    (walk_step split).leg v.fix anchor trusted whole⟩

-- A later pass only takes positions away.
structure Standing (before after : List Verdict) : Prop where
  length : after.length = before.length
  drawable : ∀ i : ℕ, (after[i]?).any (·.drawable) = true → (before[i]?).any (·.drawable) = true

theorem neighbourhoodRound_standing (fixes : List Fix) (verdicts : List Verdict) :
    Standing verdicts (neighbourhoodRound haversineM fixes verdicts) := by
  unfold neighbourhoodRound
  dsimp only
  split_ifs
  · exact ⟨rfl, fun i h => h⟩
  · exact ⟨rfl, fun i h => h⟩
  · refine ⟨List.length_mapIdx, fun i h => ?_⟩
    rw [List.getElem?_mapIdx, Option.any_map] at h
    obtain ⟨verdict, here, drawable⟩ := (Option.any_eq_true _ _).mp h
    rw [here]
    split_ifs at drawable
    · split at drawable
      · simp [Verdict.drawable] at drawable
      · exact drawable
    · exact drawable

theorem neighbourhoodPass_standing (fixes : List Fix) (verdicts : List Verdict) :
    Standing verdicts (neighbourhoodPass haversineM fixes verdicts) := by
  have first := @neighbourhoodRound_standing haversineM fixes verdicts
  have second := @neighbourhoodRound_standing haversineM fixes
    (neighbourhoodRound haversineM fixes verdicts)
  exact ⟨second.length.trans first.length, fun i h => first.drawable i (second.drawable i h)⟩

theorem coordinateProblem_of_drawable {fix : Fix} (h : (placeVerdict fix).drawable = true) :
    coordinateProblem fix.lat fix.lon = none := by
  unfold placeVerdict at h
  by_cases noFix : fix.noFix = true
  · simp [noFix, Verdict.drawable] at h
  · rw [if_neg noFix] at h
    split at h
    · have refused : (placeRefusal fix).1 = .NO_FIX ∨ (placeRefusal fix).1 = .REJECTED := by
        unfold placeRefusal
        split
        · split_ifs <;> simp
        · simp
      obtain same | same := refused <;> simp [Verdict.drawable, same] at h
    · assumption

theorem walked_of_getElem? {fixes : List Fix} {i : ℕ} {w : Walked}
    (h : (walk haversineM none (fixes.zip (neighbourhoodPass haversineM fixes
      (fixes.map placeVerdict))))[i]? = some w) (drawable : w.verdict.drawable = true) :
    fixes[i]? = some w.fix ∧ coordinateProblem w.fix.lat w.fix.lon = none := by
  have same := congrArg (·[i]?) (@walk_same haversineM none
    (fixes.zip (neighbourhoodPass haversineM fixes (fixes.map placeVerdict))))
  simp only [List.getElem?_map, h, Option.map_some] at same
  obtain ⟨pair, here, equal⟩ := Option.map_eq_some_iff.mp same.symm
  obtain ⟨fix, verdict⟩ := Prod.mk.inj equal
  obtain ⟨first, second⟩ := List.getElem?_zip_eq_some.mp here
  rw [fix] at first
  refine ⟨first, coordinateProblem_of_drawable ?_⟩
  have standing := (@neighbourhoodPass_standing haversineM fixes
    (fixes.map placeVerdict)).drawable i (by rw [second]; simpa [verdict] using drawable)
  rw [List.getElem?_map, first] at standing
  simpa using standing

structure Leg (haversineM : ℚ → ℚ → ℚ → ℚ → ℚ) (fixes : List Fix) (verdicts : List Verdict)
    (a b : ℕ) : Prop where
  start : (verdicts[a]?).any (·.drawable) = true
  stop : (verdicts[b]?).any (·.drawable) = true
  could : ∃ f g, fixes[a]? = some f ∧ fixes[b]? = some g ∧
    coordinateProblem f.lat f.lon = none ∧ coordinateProblem g.lat g.lon = none ∧
    distanceBetween haversineM f.position g.position ≤ reachableRadiusM (g.tS - f.tS) ∧
    distanceBetween haversineM f.position g.position ≤ MAX_GAP_M ∧ |g.tS - f.tS| ≤ MAX_GAP_S

theorem segments_are_legs {fixes : List Fix} (ordered : fixes.Pairwise (·.tS ≤ ·.tS)) :
    ∀ run ∈ segments (classify haversineM fixes),
      run.IsChain (Leg haversineM fixes (classify haversineM fixes)) := by
  intro run among
  refine (segments_joined _ run among).imp fun a b joined => ?_
  obtain ⟨v, w, hv, hw, drawable, drawable', reached⟩ := reached_of_joined joined
  obtain ⟨atA, placeA⟩ := walked_of_getElem? hv drawable
  obtain ⟨atB, placeB⟩ := walked_of_getElem? hw drawable'
  have forward : v.fix.tS ≤ w.fix.tS := by
    obtain ⟨insideA, equalA⟩ := List.getElem?_eq_some_iff.mp atA
    obtain ⟨insideB, equalB⟩ := List.getElem?_eq_some_iff.mp atB
    rw [← equalA, ← equalB]
    exact List.pairwise_iff_getElem.mp ordered a b insideA insideB joined.less
  have stop : ((classify haversineM fixes)[b]?).any (·.drawable) = true := by
    obtain ⟨verdict, here, drawn⟩ := (Option.any_eq_true _ _).mp joined.stop
    rw [here]
    exact (Bool.and_eq_true_iff.mp drawn).1
  refine ⟨joined.start, stop, v.fix, w.fix, atA, atB, placeA, placeB, reached.reachable,
    reached.near, ?_⟩
  rw [abs_of_nonneg (sub_nonneg.mpr forward)]
  exact reached.soon

end

def cornerFix (tS lat lon : ℚ) : Fix :=
  { tS, lat := some (.finite lat), lon := some (.finite lon), synthetic := false, noFix := false }

def cornerFixes : List Fix := [cornerFix 0 1 2, cornerFix 1 1 3, cornerFix 2 2 3]

theorem segments_are_legs_corner :
    cornerFixes.Pairwise (·.tS ≤ ·.tS) ∧
      ∀ run ∈ segments (classify (fun a b c d => |a - c| + |b - d|) cornerFixes),
        run.IsChain (Leg (fun a b c d => |a - c| + |b - d|) cornerFixes
          (classify (fun a b c d => |a - c| + |b - d|) cornerFixes)) := by
  have inOrder : cornerFixes.Pairwise (·.tS ≤ ·.tS) := by simp [cornerFixes, cornerFix]
  exact ⟨inOrder, segments_are_legs inOrder⟩

end DashcamStats.Osd
