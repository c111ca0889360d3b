import Mathlib.Tactic.IntervalCases
import DashcamStats.Osd.Segments

namespace DashcamStats.Osd

section

variable {haversineM : ℚ → ℚ → ℚ → ℚ → ℚ}

theorem neighbourhoodRound_kept {fixes : List Fix} {verdicts : List Verdict} {i : ℕ}
    {verdict : Verdict} (here : verdicts[i]? = some verdict) (undrawn : verdict.drawable = false) :
    (neighbourhoodRound haversineM fixes verdicts)[i]? = some verdict := by
  unfold neighbourhoodRound
  dsimp only
  split_ifs
  · exact here
  · exact here
  · have outside : i ∉ usableIndices verdicts := by
      simp [usableIndices, here, undrawn]
    rw [List.getElem?_mapIdx, here, Option.map_some, if_neg outside]

theorem walk_kept {anchor : Option Fix} {pairs : List (Fix × Verdict)} {i : ℕ} {fix : Fix}
    {verdict : Verdict} (here : pairs[i]? = some (fix, verdict))
    (undrawn : verdict.drawable = false) :
    (walk haversineM anchor pairs)[i]? = some { fix, verdict, unreachable := none } := by
  induction pairs generalizing anchor i with
  | nil => simp at here
  | cons pair rest ih =>
    cases i with
    | zero =>
      obtain rfl := Option.some.inj here
      simp [walk, walkOne, undrawn]
    | succ i => exact ih here

theorem classify_kept {fixes : List Fix} {i : ℕ} {fix : Fix} (here : fixes[i]? = some fix)
    (undrawn : (placeVerdict fix).drawable = false) :
    (classify haversineM fixes)[i]? = some (placeVerdict fix) := by
  have first : (fixes.map placeVerdict)[i]? = some (placeVerdict fix) := by
    rw [List.getElem?_map, here, Option.map_some]
  have passed : (neighbourhoodPass haversineM fixes (fixes.map placeVerdict))[i]? =
      some (placeVerdict fix) :=
    neighbourhoodRound_kept (neighbourhoodRound_kept first undrawn) undrawn
  have paired : (fixes.zip (neighbourhoodPass haversineM fixes
      (fixes.map placeVerdict)))[i]? = some (fix, placeVerdict fix) :=
    List.getElem?_zip_eq_some.mpr ⟨here, passed⟩
  rw [classify, settle, List.getElem?_map, walk_kept paired undrawn, Option.map_some]
  rfl

end

theorem idxOf?_split {before after : List ℕ} {i : ℕ} (nodup : (before ++ i :: after).Nodup) :
    (before ++ i :: after).idxOf? i = some before.length := by
  have apart : i ∉ before := fun among =>
    (List.nodup_append.mp nodup).2.2 i among i (by simp) rfl
  refine List.idxOf?_eq_some_iff.mpr ⟨by simp, by simp, fun j less => ?_⟩
  rw [List.getElem_append_left less]
  have other : before[j] ≠ i := fun same => apart (same ▸ List.getElem_mem less)
  simpa using other

def neighbourIndices (before after : List ℕ) : List ℕ :=
  before.drop (before.length - NEIGHBOURHOOD) ++ after.take NEIGHBOURHOOD

theorem window_split {before after : List ℕ} {i : ℕ} (nodup : (before ++ i :: after).Nodup) :
    (((before ++ i :: after).take (min (before ++ i :: after).length
      (before.length + NEIGHBOURHOOD + 1))).drop (before.length - NEIGHBOURHOOD)).filter
        (· ≠ i) = neighbourIndices before after := by
  have taken : (before ++ i :: after).take (min (before ++ i :: after).length
      (before.length + NEIGHBOURHOOD + 1)) = before ++ i :: after.take NEIGHBOURHOOD := by
    rw [← List.take_take, List.take_of_length_le (List.length_take_le' _ _), Nat.add_assoc,
      List.take_length_add_append, List.take_succ_cons]
  obtain ⟨-, rest, apart⟩ := List.nodup_append.mp nodup
  have outside : ∀ j ∈ neighbourIndices before after, decide (j ≠ i) = true := by
    intro j among
    refine decide_eq_true fun same => ?_
    subst same
    obtain among | among := List.mem_append.mp among
    · exact apart j (List.mem_of_mem_drop among) j (by simp) rfl
    · exact (List.nodup_cons.mp rest).1 (List.mem_of_mem_take among)
  rw [taken, List.drop_append_of_le_length (Nat.sub_le _ _), List.filter_append,
    List.filter_cons_of_neg (by simp), ← List.filter_append]
  exact List.filter_eq_self.mpr outside

def Dense (N : ℕ) (p : ℕ → Bool) : Prop := ∀ j < N, p j = false → j % 17 = 8

theorem four_of_five {N : ℕ} {p : ℕ → Bool} (dense : Dense N p) {i : ℕ} (within : i + 5 < N) :
    4 ≤ ([i + 1, i + 2, i + 3, i + 4, i + 5].filter p).length := by
  have apart (a b : ℕ) (first : a < N) (second : b < N) (less : a < b) (near : b < a + 17) :
      1 ≤ (if p a = true then 1 else 0) + if p b = true then 1 else 0 := by
    have oneOf : p a = true ∨ p b = true := by
      by_contra neither
      rw [not_or, Bool.not_eq_true, Bool.not_eq_true] at neither
      have one := dense a first neither.1
      have other := dense b second neither.2
      omega
    obtain h | h := oneOf <;> simp [h]
  have h12 := apart (i + 1) (i + 2) (by omega) (by omega) (by omega) (by omega)
  have h13 := apart (i + 1) (i + 3) (by omega) (by omega) (by omega) (by omega)
  have h14 := apart (i + 1) (i + 4) (by omega) (by omega) (by omega) (by omega)
  have h15 := apart (i + 1) (i + 5) (by omega) (by omega) (by omega) (by omega)
  have h23 := apart (i + 2) (i + 3) (by omega) (by omega) (by omega) (by omega)
  have h24 := apart (i + 2) (i + 4) (by omega) (by omega) (by omega) (by omega)
  have h25 := apart (i + 2) (i + 5) (by omega) (by omega) (by omega) (by omega)
  have h34 := apart (i + 3) (i + 4) (by omega) (by omega) (by omega) (by omega)
  have h35 := apart (i + 3) (i + 5) (by omega) (by omega) (by omega) (by omega)
  have h45 := apart (i + 4) (i + 5) (by omega) (by omega) (by omega) (by omega)
  simp only [← List.countP_eq_length_filter, List.countP_cons, List.countP_nil]
  omega

theorem gap_le {N : ℕ} {p : ℕ → Bool} (dense : Dense N p) {before between after : List ℕ}
    {i j : ℕ} (split : (List.range N).filter p = before ++ i :: (between ++ j :: after))
    (few : between.length ≤ 3) : i < j ∧ j ≤ i + 5 := by
  have sorted : (before ++ i :: (between ++ j :: after)).Pairwise (· < ·) :=
    split ▸ List.pairwise_lt_range.filter p
  obtain ⟨-, right, across⟩ := List.pairwise_append.mp sorted
  obtain ⟨above, rest⟩ := List.pairwise_cons.mp right
  obtain ⟨-, later, under⟩ := List.pairwise_append.mp rest
  have less : i < j := above j (by simp)
  refine ⟨less, ?_⟩
  by_contra far
  have member : j ∈ (List.range N).filter p := by
    rw [split]
    simp
  have within := List.mem_range.mp (List.mem_filter.mp member).1
  have inside : [i + 1, i + 2, i + 3, i + 4, i + 5].filter p ⊆ between := by
    intro x among
    obtain ⟨range, usable⟩ := List.mem_filter.mp among
    have bounds : i < x ∧ x < j := by
      simp only [List.mem_cons, List.not_mem_nil, or_false] at range
      omega
    have listed : x ∈ before ++ i :: (between ++ j :: after) := by
      rw [← split]
      exact List.mem_filter.mpr ⟨List.mem_range.mpr (by omega), usable⟩
    simp only [List.mem_append, List.mem_cons] at listed
    obtain early | rfl | here | rfl | late := listed
    · have := across x early i (by simp)
      omega
    · omega
    · exact here
    · omega
    · have := (List.pairwise_cons.mp later).1 x late
      omega
  have distinct : ([i + 1, i + 2, i + 3, i + 4, i + 5].filter p).Nodup :=
    List.Nodup.filter p (by simp)
  have bound := (distinct.subperm inside).length_le
  have four := four_of_five dense (show i + 5 < N by omega)
  omega

theorem neighbour_near {N : ℕ} {p : ℕ → Bool} (dense : Dense N p) {before after : List ℕ} {i : ℕ}
    (split : (List.range N).filter p = before ++ i :: after) :
    ∀ j ∈ neighbourIndices before after, j ≠ i ∧ j ≤ i + 5 ∧ i ≤ j + 5 := by
  intro j among
  obtain among | among := List.mem_append.mp among
  · obtain ⟨one, two, parts⟩ := List.append_of_mem among
    have few : two.length ≤ 3 := by
      have length := congrArg List.length parts
      simp only [List.length_drop, List.length_append, List.length_cons, NEIGHBOURHOOD] at length
      omega
    have whole : before = before.take (before.length - NEIGHBOURHOOD) ++ (one ++ j :: two) := by
      rw [← parts, List.take_append_drop]
    rw [whole] at split
    have near := @gap_le N p dense (before.take (before.length - NEIGHBOURHOOD) ++ one) two after
      j i (split.trans (by simp)) few
    omega
  · obtain ⟨one, two, parts⟩ := List.append_of_mem among
    have few : one.length ≤ 3 := by
      have length := congrArg List.length parts
      simp only [List.length_take, List.length_append, List.length_cons, NEIGHBOURHOOD] at length
      omega
    have whole : after = one ++ j :: (two ++ after.drop NEIGHBOURHOOD) := by
      rw [← List.cons_append, ← List.append_assoc, ← parts, List.take_append_drop]
    rw [whole] at split
    have near := gap_le dense split few
    omega

theorem neighbour_usable {N : ℕ} {p : ℕ → Bool} {before after : List ℕ} {i : ℕ}
    (split : (List.range N).filter p = before ++ i :: after) :
    (neighbourIndices before after).Nodup ∧
      ∀ j ∈ neighbourIndices before after, j < N ∧ p j = true := by
  have part : (neighbourIndices before after).Sublist ((List.range N).filter p) := by
    rw [split, neighbourIndices]
    exact (List.drop_sublist _ _).append
      ((List.take_sublist _ _).trans (List.sublist_cons_self _ _))
  refine ⟨part.nodup ((List.nodup_range).filter p), fun j among => ?_⟩
  obtain ⟨range, usable⟩ := List.mem_filter.mp (part.subset among)
  exact ⟨List.mem_range.mp range, usable⟩

theorem neighbour_length {before after : List ℕ} {i : ℕ}
    (several : 5 ≤ (before ++ i :: after).length) : 4 ≤ (neighbourIndices before after).length := by
  simp only [List.length_append, List.length_cons] at several
  simp only [neighbourIndices, List.length_append, List.length_drop, List.length_take,
    NEIGHBOURHOOD]
  omega

section

variable {haversineM : ℚ → ℚ → ℚ → ℚ → ℚ} {centre : ℚ × ℚ} {fixes : List Fix}
variable {verdicts : List Verdict} {i : ℕ} {fix : Fix}

-- Copies of the centre stand on the other indices than those of 8 modulo 17.
structure Surrounded (centre : ℚ × ℚ) (fixes : List Fix) : Prop where
  length : fixes.length % 17 = 0
  copies : ∀ i fix, fixes[i]? = some fix → i % 17 ≠ 8 →
    fix.position = centre ∧ (placeVerdict fix).drawable = true
  soon : ∀ i j fix other, fixes[i]? = some fix → fixes[j]? = some other → i % 17 = 8 →
    i ≤ j + 5 → j ≤ i + 5 → other.tS = fix.tS

-- They stay drawable.
structure CopiesDrawn (fixes : List Fix) (verdicts : List Verdict) : Prop where
  length : verdicts.length = fixes.length
  drawn : ∀ i verdict, verdicts[i]? = some verdict → i % 17 ≠ 8 → verdict.drawable = true

theorem CopiesDrawn.dense (drawn : CopiesDrawn fixes verdicts) :
    Dense verdicts.length fun i => (verdicts[i]?).any (·.drawable) := by
  intro j within undrawn
  by_contra copy
  have here : verdicts[j]? = some verdicts[j] := List.getElem?_eq_getElem within
  simp [here, drawn.drawn j _ here copy] at undrawn

def fixAt (fixes : List Fix) (i : ℕ) : Fix :=
  (fixes[i]?).getD { tS := 0, lat := none, lon := none, synthetic := false, noFix := false }

theorem getElem?_fixAt (within : i < fixes.length) : fixes[i]? = some (fixAt fixes i) := by
  rw [fixAt, List.getElem?_eq_getElem within, Option.getD_some]

theorem filterMap_fixAt {indices : List ℕ} (within : ∀ j ∈ indices, j < fixes.length) :
    indices.filterMap (fixes[·]?) = indices.map (fixAt fixes) := by
  rw [← List.filterMap_eq_map]
  exact List.filterMap_congr fun j among => getElem?_fixAt (within j among)

theorem length_le_one {indices : List ℕ} (nodup : indices.Nodup)
    (same : ∀ a ∈ indices, ∀ b ∈ indices, a = b) : indices.length ≤ 1 := by
  match indices with
  | [] => simp
  | [_] => simp
  | a :: b :: rest =>
    have equal := same a (by simp) b (by simp)
    simp [equal] at nodup

theorem neighbours_agree (surrounded : Surrounded centre fixes) {indices : List ℕ}
    (nodup : indices.Nodup) (within : ∀ j ∈ indices, j < fixes.length)
    (near : ∀ j ∈ indices, j ≤ i + 5 ∧ i ≤ j + 5) (several : 4 ≤ indices.length) (f : Fix → ℚ)
    {c : ℚ} (same : ∀ fix : Fix, fix.position = centre → f fix = c) :
    Median.median ((indices.map (fixAt fixes)).map f) = c := by
  have split := @List.length_eq_length_filter_add _ indices fun j => decide (j % 17 ≠ 8)
  have lone : (indices.filter fun j => !decide (j % 17 ≠ 8)).length ≤ 1 := by
    refine length_le_one (nodup.filter _) fun a first b second => ?_
    obtain ⟨first, residue⟩ := List.mem_filter.mp first
    obtain ⟨second, residue'⟩ := List.mem_filter.mp second
    have nearA := near a first
    have nearB := near b second
    simp only [Bool.not_eq_true', decide_eq_false_iff_not, not_not] at residue residue'
    omega
  have copies : (indices.filter fun j => decide (j % 17 ≠ 8)).length ≤
      ((indices.map (fixAt fixes)).map f).count c := by
    rw [List.map_map, List.count_eq_countP, List.countP_map, ← List.countP_eq_length_filter]
    refine List.countP_mono_left fun j among copy => ?_
    have place := surrounded.copies j _ (getElem?_fixAt (within j among)) (by simpa using copy)
    simpa using same _ place.1
  refine Median.median_of_majority ?_
  rw [List.length_map, List.length_map]
  omega

theorem foldl_max_nonneg (spans : List ℚ) (start : ℚ) (h : 0 ≤ start) :
    0 ≤ spans.foldl max start := by
  induction spans generalizing start with
  | nil => exact h
  | cons span rest ih => exact ih _ (h.trans (le_max_left _ _))

theorem foldl_max_zero {spans : List ℚ} (h : ∀ span ∈ spans, span = 0) :
    spans.foldl max 0 = 0 := by
  induction spans with
  | nil => rfl
  | cons span rest ih =>
    rw [List.foldl_cons, h span (by simp), max_self]
    exact ih fun other among => h other (by simp [among])

theorem centre_of_surrounded (surrounded : Surrounded centre fixes)
    (drawn : CopiesDrawn fixes verdicts) (several : 5 ≤ (usableIndices verdicts).length)
    (usable : i ∈ usableIndices verdicts) :
    ∃ span, neighbourhoodCentre fixes i (usableIndices verdicts) = some (centre, span) ∧
      0 ≤ span ∧ (i % 17 = 8 → span = 0) := by
  obtain ⟨before, after, split⟩ := List.append_of_mem usable
  have nodup : (usableIndices verdicts).Nodup := List.nodup_range.filter _
  obtain ⟨distinct, valid⟩ := neighbour_usable split
  have within : ∀ j ∈ neighbourIndices before after, j < fixes.length := fun j among => by
    rw [← drawn.length]
    exact (valid j among).1
  have near := neighbour_near drawn.dense split
  rw [split] at several nodup
  have some_ := neighbour_length several
  have centreLat := neighbours_agree surrounded distinct within (fun j among => (near j among).2)
    some_ (·.position.1) fun fix same => congrArg Prod.fst same
  have centreLon := neighbours_agree surrounded distinct within (fun j among => (near j among).2)
    some_ (·.position.2) fun fix same => congrArg Prod.snd same
  unfold neighbourhoodCentre
  rw [split, idxOf?_split nodup]
  dsimp only
  rw [window_split nodup, filterMap_fixAt within, if_neg (by
    rw [List.length_map, MIN_NEIGHBOURS]
    omega), centreLat, centreLon]
  refine ⟨_, rfl, foldl_max_nonneg _ _ le_rfl, fun middle => foldl_max_zero fun span among => ?_⟩
  obtain ⟨other, listed, rfl⟩ := List.mem_map.mp among
  obtain ⟨j, neighbour, rfl⟩ := List.mem_map.mp listed
  have inside : i < fixes.length := by
    rw [← drawn.length]
    exact List.mem_range.mp (List.mem_filter.mp usable).1
  have same := surrounded.soon i j _ _ (getElem?_fixAt inside) (getElem?_fixAt (within j neighbour))
    middle (near j neighbour).2.2 (near j neighbour).2.1
  rw [getElem?_fixAt inside, same]
  simp

theorem reachableRadiusM_nonneg (dt : ℚ) : 0 ≤ reachableRadiusM dt := by
  have far : (0 : ℚ) ≤ max 1 |dt| := le_max_of_le_left zero_le_one
  unfold reachableRadiusM MAX_ROAD_SPEED_MS MAX_ROAD_SPEED_KMH QUANTISATION_M
  linarith

theorem middles_length (n : ℕ) :
    ((List.range (17 * n)).filter fun i => decide (i % 17 = 8)).length = n := by
  induction n with
  | zero => rfl
  | succ n ih =>
    have block : ((List.range 17).filter fun i => decide ((17 * n + i) % 17 = 8)).length = 1 := by
      simp only [Nat.mul_add_mod]
      decide
    rw [Nat.mul_succ, List.range_add, List.filter_append, List.length_append, ih, List.filter_map,
      List.length_map]
    exact congrArg (n + ·) block

theorem usable_many (drawn : CopiesDrawn fixes verdicts) {n : ℕ} (length : fixes.length = 17 * n) :
    16 * n ≤ (usableIndices verdicts).length := by
  have copies : (List.range (17 * n)).filter (fun i => !decide (i % 17 = 8)) =
      (usableIndices verdicts).filter fun i => !decide (i % 17 = 8) := by
    rw [usableIndices, drawn.length, length, List.filter_filter]
    refine List.filter_congr fun i among => ?_
    have within : i < verdicts.length := by
      rw [drawn.length, length]
      exact List.mem_range.mp among
    by_cases middle : i % 17 = 8
    · simp [middle]
    · simp [middle, drawn.drawn i _ (List.getElem?_eq_getElem within) middle,
        List.getElem?_eq_getElem within]
  have split := @List.length_eq_length_filter_add _ (List.range (17 * n)) fun i =>
    decide (i % 17 = 8)
  rw [middles_length, List.length_range, copies] at split
  have bound := List.length_filter_le (fun i => !decide (i % 17 = 8)) (usableIndices verdicts)
  omega

section

variable (self : ∀ p, distanceBetween haversineM p p = 0)

include self

theorem condemn_copy (surrounded : Surrounded centre fixes) (drawn : CopiesDrawn fixes verdicts)
    (several : 5 ≤ (usableIndices verdicts).length) (usable : i ∈ usableIndices verdicts)
    (copy : i % 17 ≠ 8) : condemn haversineM fixes (usableIndices verdicts) i = none := by
  obtain ⟨span, found, -, -⟩ := centre_of_surrounded surrounded drawn several usable
  have inside : i < fixes.length := by
    rw [← drawn.length]
    exact List.mem_range.mp (List.mem_filter.mp usable).1
  unfold condemn
  rw [found, getElem?_fixAt inside]
  dsimp only
  rw [(surrounded.copies i _ (getElem?_fixAt inside) copy).1, self,
    if_neg (reachableRadiusM_nonneg span).not_gt]

end

theorem condemn_middle (surrounded : Surrounded centre fixes) (drawn : CopiesDrawn fixes verdicts)
    (several : 5 ≤ (usableIndices verdicts).length) (usable : i ∈ usableIndices verdicts)
    (middle : i % 17 = 8) (here : fixes[i]? = some fix) :
    condemn haversineM fixes (usableIndices verdicts) i =
      if reachableRadiusM 0 < distanceBetween haversineM centre fix.position then
        some (distanceBetween haversineM centre fix.position, reachableRadiusM 0)
      else none := by
  obtain ⟨span, found, -, together⟩ := centre_of_surrounded surrounded drawn several usable
  unfold condemn
  rw [found, here, together middle]

def far (haversineM : ℚ → ℚ → ℚ → ℚ → ℚ) (centre : ℚ × ℚ) (fix : Fix) : Bool :=
  decide (reachableRadiusM 0 < distanceBetween haversineM centre fix.position)

-- What a round makes of the verdict on one that stands between copies
structure Judged (haversineM : ℚ → ℚ → ℚ → ℚ → ℚ) (centre : ℚ × ℚ) (fixes : List Fix)
    (before after : List Verdict) : Prop where
  drawn : CopiesDrawn fixes after
  refused : ∀ (i : ℕ) (fix : Fix) (verdict : Verdict), fixes[i]? = some fix →
    before[i]? = some verdict → verdict.drawable = true → i % 17 = 8 →
      far haversineM centre fix = true →
        ∃ refused : Verdict, after[i]? = some refused ∧ refused.quality = .REJECTED
  left : ∀ (i : ℕ) (fix : Fix) (verdict : Verdict), fixes[i]? = some fix →
    before[i]? = some verdict → verdict.drawable = true → i % 17 = 8 →
      far haversineM centre fix = false → after[i]? = some verdict
  still : ∀ (i : ℕ) (verdict : Verdict), before[i]? = some verdict → verdict.drawable = false →
    after[i]? = some verdict

theorem round_judged (self : ∀ p, distanceBetween haversineM p p = 0)
    (surrounded : Surrounded centre fixes) (drawn : CopiesDrawn fixes verdicts)
    (nonempty : fixes ≠ []) :
    Judged haversineM centre fixes verdicts (neighbourhoodRound haversineM fixes verdicts) := by
  obtain ⟨n, length⟩ := Nat.dvd_of_mod_eq_zero surrounded.length
  have positive : 0 < n := by
    have := List.length_pos_of_ne_nil nonempty
    omega
  have many := usable_many drawn length
  have several : 5 ≤ (usableIndices verdicts).length := by omega
  have member (i : ℕ) (verdict : Verdict) (here : verdicts[i]? = some verdict)
      (drawable : verdict.drawable = true) : i ∈ usableIndices verdicts := by
    refine List.mem_filter.mpr ⟨List.mem_range.mpr (List.getElem?_eq_some_iff.mp here).1, ?_⟩
    rw [here]
    exact drawable
  set condemned := (usableIndices verdicts).filter fun index =>
    (condemn haversineM fixes (usableIndices verdicts) index).isSome with condemned_def
  have middles : condemned.length ≤ n := by
    rw [← middles_length n]
    refine (List.Nodup.subperm ((List.nodup_range.filter _).filter _) fun i among => ?_).length_le
    obtain ⟨usable, found⟩ := List.mem_filter.mp among
    have within : i < 17 * n := by
      rw [← length, ← drawn.length]
      exact List.mem_range.mp (List.mem_filter.mp usable).1
    refine List.mem_filter.mpr ⟨List.mem_range.mpr within, decide_eq_true ?_⟩
    by_contra copy
    rw [condemn_copy self surrounded drawn several usable copy] at found
    simp at found
  unfold neighbourhoodRound
  dsimp only
  rw [← condemned_def]
  split_ifs with few off
  · rw [MIN_NEIGHBOURS] at few
    omega
  · have none_ : condemned = [] := by
      obtain empty | most := Bool.or_eq_true_iff.mp off
      · simpa using empty
      · have := of_decide_eq_true most
        omega
    refine ⟨drawn, fun i fix verdict here judged drawable middle isFar => ?_,
      fun i fix verdict here judged drawable middle notFar => judged,
      fun i verdict judged undrawn => judged⟩
    have usable := member i verdict judged drawable
    have among : i ∈ condemned := by
      refine List.mem_filter.mpr ⟨usable, ?_⟩
      rw [condemn_middle surrounded drawn several usable middle here,
        if_pos (by simpa [far] using isFar)]
      rfl
    rw [none_] at among
    simp at among
  · refine ⟨⟨by rw [List.length_mapIdx, drawn.length], fun i verdict judged copy => ?_⟩,
      fun i fix verdict here judged drawable middle isFar => ?_,
      fun i fix verdict here judged drawable middle notFar => ?_,
      fun i verdict judged undrawn => ?_⟩
    · rw [List.getElem?_mapIdx] at judged
      obtain ⟨old, before, rfl⟩ := Option.map_eq_some_iff.mp judged
      have drawable := drawn.drawn i old before copy
      have usable := member i old before drawable
      rw [if_pos usable, condemn_copy self surrounded drawn several usable copy]
      exact drawable
    · have usable := member i verdict judged drawable
      rw [List.getElem?_mapIdx, judged, Option.map_some, if_pos usable,
        condemn_middle surrounded drawn several usable middle here,
        if_pos (by simpa [far] using isFar)]
      exact ⟨_, rfl, rfl⟩
    · have usable := member i verdict judged drawable
      rw [List.getElem?_mapIdx, judged, Option.map_some, if_pos usable,
        condemn_middle surrounded drawn several usable middle here,
        if_neg (by simpa [far] using notFar)]
    · have outside : i ∉ usableIndices verdicts := by
        simp [usableIndices, judged, undrawn]
      rw [List.getElem?_mapIdx, judged, Option.map_some, if_neg outside]

theorem undrawn_of_rejected {verdict : Verdict} (rejected : verdict.quality = .REJECTED) :
    verdict.drawable = false := by
  simp [Verdict.drawable, rejected]

theorem Judged.trans {first second third : List Verdict}
    (one : Judged haversineM centre fixes first second)
    (two : Judged haversineM centre fixes second third) :
    Judged haversineM centre fixes first third where
  drawn := two.drawn
  refused i fix verdict here judged drawable middle isFar := by
    obtain ⟨refused, there, rejected⟩ := one.refused i fix verdict here judged drawable middle isFar
    exact ⟨refused, two.still i refused there (undrawn_of_rejected rejected), rejected⟩
  left i fix verdict here judged drawable middle notFar :=
    two.left i fix verdict here (one.left i fix verdict here judged drawable middle notFar) drawable
      middle notFar
  still i verdict judged undrawn := two.still i verdict (one.still i verdict judged undrawn) undrawn

theorem pass_judged (self : ∀ p, distanceBetween haversineM p p = 0)
    (surrounded : Surrounded centre fixes) (nonempty : fixes ≠ []) :
    Judged haversineM centre fixes (fixes.map placeVerdict)
      (neighbourhoodPass haversineM fixes (fixes.map placeVerdict)) := by
  have drawn : CopiesDrawn fixes (fixes.map placeVerdict) := by
    refine ⟨List.length_map _, fun i verdict judged copy => ?_⟩
    rw [List.getElem?_map] at judged
    obtain ⟨fix, here, rfl⟩ := Option.map_eq_some_iff.mp judged
    exact (surrounded.copies i fix here copy).2
  have first := round_judged self surrounded drawn nonempty
  exact first.trans (round_judged self surrounded first.drawn nonempty)

theorem classify_refused (self : ∀ p, distanceBetween haversineM p p = 0)
    (surrounded : Surrounded centre fixes) (here : fixes[i]? = some fix) (middle : i % 17 = 8)
    (place : (placeVerdict fix).drawable = true) (isFar : far haversineM centre fix = true) :
    ∃ verdict : Verdict, (classify haversineM fixes)[i]? = some verdict ∧
      verdict.quality = .REJECTED := by
  have nonempty : fixes ≠ [] := by
    rintro rfl
    simp at here
  have judged : (fixes.map placeVerdict)[i]? = some (placeVerdict fix) := by
    rw [List.getElem?_map, here, Option.map_some]
  obtain ⟨refused, there, rejected⟩ :=
    (pass_judged self surrounded nonempty).refused i fix _ here judged place middle isFar
  have paired : (fixes.zip (neighbourhoodPass haversineM fixes
      (fixes.map placeVerdict)))[i]? = some (fix, refused) :=
    List.getElem?_zip_eq_some.mpr ⟨here, there⟩
  refine ⟨refused, ?_, rejected⟩
  rw [classify, settle, List.getElem?_map, walk_kept paired (undrawn_of_rejected rejected),
    Option.map_some]
  rfl

def Reaches (haversineM : ℚ → ℚ → ℚ → ℚ → ℚ) (a b : Fix) : Prop :=
  distanceBetween haversineM a.position b.position ≤ reachableRadiusM (b.tS - a.tS)

theorem walk_reaches {anchor : Option Fix} {pairs : List (Fix × Verdict)}
    (chain : (anchor.toList ++ (pairs.filter (·.2.drawable)).map (·.1)).IsChain
      (Reaches haversineM)) : ∀ w ∈ walk haversineM anchor pairs, w.unreachable = none := by
  induction pairs generalizing anchor with
  | nil => simp [walk]
  | cons pair rest ih =>
    obtain ⟨fix, verdict⟩ := pair
    rw [walk]
    cases drawable : verdict.drawable with
    | false =>
      have one : walkOne haversineM anchor fix verdict = { fix, verdict, unreachable := none } := by
        simp [walkOne, drawable]
      rw [List.filter_cons_of_neg (by simp [drawable])] at chain
      intro w among
      obtain rfl | among := List.mem_cons.mp among
      · rw [one]
      · rw [one, Walked.trusted, drawable, Bool.false_and, if_neg Bool.false_ne_true] at among
        exact ih chain w among
    | true =>
      rw [List.filter_cons_of_pos (by simp [drawable]), List.map_cons] at chain
      have reached : (walkOne haversineM anchor fix verdict).unreachable = none := by
        unfold walkOne
        rw [if_pos drawable]
        cases anchor with
        | none => rfl
        | some previous =>
          have step : Reaches haversineM previous fix := (List.isChain_cons_cons.mp chain).1
          dsimp only
          rw [if_neg (not_lt.mpr step)]
          split_ifs <;> rfl
      have trusted : (walkOne haversineM anchor fix verdict).trusted = true := by
        rw [Walked.trusted, reached, (walkOne_same anchor fix verdict).2, drawable]
        rfl
      intro w among
      obtain rfl | among := List.mem_cons.mp among
      · exact reached
      · rw [trusted, if_pos rfl] at among
        refine ih ?_ w among
        cases anchor with
        | none => exact chain
        | some previous => exact (List.isChain_cons_cons.mp chain).2

theorem drawn_eq_usable (length : verdicts.length = fixes.length) :
    ((fixes.zip verdicts).filter (·.2.drawable)).map (·.1) =
      (usableIndices verdicts).map (fixAt fixes) := by
  have zipped : fixes.zip verdicts = (List.range verdicts.length).map fun i =>
      (fixAt fixes i, (verdicts[i]?).getD (placeVerdict (fixAt fixes i))) := by
    refine List.ext_getElem (by simp [length]) fun i left right => ?_
    have within : i < verdicts.length := by simpa using right
    have inside : i < fixes.length := length ▸ within
    have same : fixAt fixes i = fixes[i] := by rw [fixAt, List.getElem?_eq_getElem inside]; rfl
    simp [same, within]
  rw [zipped, List.filter_map, List.map_map, usableIndices]
  refine congrArg₂ List.map rfl (List.filter_congr fun i among => ?_)
  have within := List.mem_range.mp among
  simp [within]

theorem reaches_near (symm : ∀ p q, distanceBetween haversineM p q = distanceBetween haversineM q p)
    {a b : Fix} (one : a.position = centre ∧ far haversineM centre b = false ∨
      b.position = centre ∧ far haversineM centre a = false) : Reaches haversineM a b := by
  have wider : reachableRadiusM 0 ≤ reachableRadiusM (b.tS - a.tS) := by
    have longer : max (1 : ℚ) |0| ≤ max 1 |b.tS - a.tS| := by
      rw [abs_zero]
      exact max_le_max le_rfl (abs_nonneg _)
    have fast : 0 ≤ MAX_ROAD_SPEED_MS := by norm_num [MAX_ROAD_SPEED_MS, MAX_ROAD_SPEED_KMH]
    have product := mul_le_mul_of_nonneg_left longer fast
    unfold reachableRadiusM
    linarith
  unfold Reaches
  obtain ⟨copy, near⟩ | ⟨copy, near⟩ := one
  · rw [copy]
    exact (not_lt.mp (of_decide_eq_false near)).trans wider
  · rw [copy, symm]
    exact (not_lt.mp (of_decide_eq_false near)).trans wider

theorem usable_near (judged : Judged haversineM centre fixes (fixes.map placeVerdict) verdicts)
    (self : ∀ p, distanceBetween haversineM p p = 0) (surrounded : Surrounded centre fixes)
    (usable : i ∈ usableIndices verdicts) : far haversineM centre (fixAt fixes i) = false := by
  obtain ⟨range, drawable⟩ := List.mem_filter.mp usable
  have within : i < fixes.length := by
    rw [← judged.drawn.length]
    exact List.mem_range.mp range
  have here := getElem?_fixAt within
  by_cases middle : i % 17 = 8
  · have before : (fixes.map placeVerdict)[i]? = some (placeVerdict (fixAt fixes i)) := by
      rw [List.getElem?_map, here, Option.map_some]
    cases place : (placeVerdict (fixAt fixes i)).drawable with
    | false =>
      rw [judged.still i _ before place] at drawable
      simp [place] at drawable
    | true =>
      by_contra isFar
      obtain ⟨refused, there, rejected⟩ :=
        judged.refused i _ _ here before place middle (by simpa using isFar)
      rw [there] at drawable
      simp [undrawn_of_rejected rejected] at drawable
  · rw [far, (surrounded.copies i _ here middle).1, self]
    exact decide_eq_false (reachableRadiusM_nonneg 0).not_gt

theorem usable_reaches (judged : Judged haversineM centre fixes (fixes.map placeVerdict) verdicts)
    (self : ∀ p, distanceBetween haversineM p p = 0)
    (symm : ∀ p q, distanceBetween haversineM p q = distanceBetween haversineM q p)
    (surrounded : Surrounded centre fixes) :
    ((usableIndices verdicts).map (fixAt fixes)).IsChain (Reaches haversineM) := by
  rw [List.isChain_map, List.isChain_iff_forall_rel_of_append_cons_cons]
  intro i j before after split
  have near := @gap_le _ _ judged.drawn.dense before [] after i j split (by simp)
  have usableI : i ∈ usableIndices verdicts := by simp [split]
  have usableJ : j ∈ usableIndices verdicts := by simp [split]
  have within (k : ℕ) (usable : k ∈ usableIndices verdicts) : k < fixes.length := by
    rw [← judged.drawn.length]
    exact List.mem_range.mp (List.mem_filter.mp usable).1
  refine @reaches_near _ centre symm _ _ ?_
  by_cases middle : i % 17 = 8
  · have copy := surrounded.copies j _ (getElem?_fixAt (within j usableJ)) (by omega)
    exact .inr ⟨copy.1, usable_near judged self surrounded usableI⟩
  · have copy := surrounded.copies i _ (getElem?_fixAt (within i usableI)) middle
    exact .inl ⟨copy.1, usable_near judged self surrounded usableJ⟩

theorem classify_stays (self : ∀ p, distanceBetween haversineM p p = 0)
    (symm : ∀ p q, distanceBetween haversineM p q = distanceBetween haversineM q p)
    (surrounded : Surrounded centre fixes) (here : fixes[i]? = some fix) (middle : i % 17 = 8)
    (place : (placeVerdict fix).drawable = true) (isNear : far haversineM centre fix = false) :
    ∃ verdict : Verdict, (classify haversineM fixes)[i]? = some verdict ∧
      verdict.quality ≠ .REJECTED := by
  have nonempty : fixes ≠ [] := by
    rintro rfl
    simp at here
  have before : (fixes.map placeVerdict)[i]? = some (placeVerdict fix) := by
    rw [List.getElem?_map, here, Option.map_some]
  have judged := pass_judged self surrounded nonempty
  have there := judged.left i fix _ here before place middle isNear
  set verdicts := neighbourhoodPass haversineM fixes (fixes.map placeVerdict) with verdicts_def
  have trusted : ∀ w ∈ walk haversineM none (fixes.zip verdicts), w.unreachable = none := by
    refine walk_reaches ?_
    rw [Option.toList_none, List.nil_append, drawn_eq_usable judged.drawn.length]
    exact usable_reaches judged self symm surrounded
  have paired : (fixes.zip verdicts)[i]? = some (fix, placeVerdict fix) :=
    List.getElem?_zip_eq_some.mpr ⟨here, there⟩
  have same := congrArg (·[i]?) (@walk_same haversineM none (fixes.zip verdicts))
  simp only [List.getElem?_map, paired, Option.map_some] at same
  obtain ⟨w, walked, equal⟩ := Option.map_eq_some_iff.mp same
  have drawable : w.verdict.drawable = true := (Prod.mk.inj equal).2.trans place
  refine ⟨w.verdict, ?_, fun rejected => ?_⟩
  · rw [classify, ← verdicts_def, settle, List.getElem?_map, walked, Option.map_some, settleOne,
      trusted w (List.mem_of_getElem? walked)]
  · rw [undrawn_of_rejected rejected] at drawable
    cases drawable

end

def copyOf (centre : ℚ × ℚ) (fix : Fix) : Fix :=
  { tS := fix.tS
    lat := some (.finite centre.1)
    lon := some (.finite centre.2)
    synthetic := true
    noFix := false }

def padding (centre : ℚ × ℚ) (fix : Fix) : List Fix :=
  List.replicate 8 (copyOf centre fix) ++ fix :: List.replicate 8 (copyOf centre fix)

def padded (centre : ℚ × ℚ) (fixes : List Fix) : List Fix := fixes.flatMap (padding centre)

def IsPlace (p : ℚ × ℚ) : Prop :=
  coordinateProblem (some (.finite p.1)) (some (.finite p.2)) = none

section

variable {centre : ℚ × ℚ} {fixes : List Fix} {i : ℕ} {fix : Fix}

theorem padding_length : (padding centre fix).length = 17 := by simp [padding]

theorem padding_getElem? {k : ℕ} (within : k < 17) :
    (padding centre fix)[k]? = some (if k = 8 then fix else copyOf centre fix) := by
  unfold padding
  interval_cases k <;> rfl

theorem padded_length : (padded centre fixes).length = 17 * fixes.length := by
  induction fixes with
  | nil => rfl
  | cons fix rest ih =>
    rw [padded, List.flatMap_cons, List.length_append, padding_length, ← padded, ih,
      List.length_cons]
    ring

theorem padded_getElem? (q : ℕ) {k : ℕ} (within : k < 17) :
    (padded centre fixes)[17 * q + k]? =
      (fixes[q]?).map fun fix => if k = 8 then fix else copyOf centre fix := by
  induction fixes generalizing q with
  | nil => rfl
  | cons fix rest ih =>
    rw [padded, List.flatMap_cons, ← padded]
    cases q with
    | zero =>
      rw [List.getElem?_append_left (by rw [padding_length]; omega), Nat.mul_zero, Nat.zero_add,
        padding_getElem? within]
      rfl
    | succ q =>
      rw [List.getElem?_append_right (by rw [padding_length]; omega), padding_length,
        List.getElem?_cons_succ, ← ih]
      exact congrArg _ (by omega)

theorem padded_of_getElem? (here : (padded centre fixes)[i]? = some fix) :
    ∃ kept, fixes[i / 17]? = some kept ∧ fix = if i % 17 = 8 then kept else copyOf centre kept := by
  have split := @padded_getElem? centre fixes (i / 17) _ (Nat.mod_lt i (show 0 < 17 by omega))
  rw [Nat.div_add_mod, here] at split
  obtain ⟨kept, found, rfl⟩ := Option.map_eq_some_iff.mp split.symm
  exact ⟨kept, found, rfl⟩

theorem surrounded_padded (place : IsPlace centre) : Surrounded centre (padded centre fixes) where
  length := by rw [padded_length, Nat.mul_mod_right]
  copies i fix here copy := by
    obtain ⟨kept, -, rfl⟩ := padded_of_getElem? here
    rw [if_neg copy]
    refine ⟨rfl, ?_⟩
    have valid : coordinateProblem (some (.finite centre.1)) (some (.finite centre.2)) = none :=
      place
    simp [placeVerdict, copyOf, valid, Verdict.drawable]
  soon i j fix other here there middle low high := by
    obtain ⟨kept, found, rfl⟩ := padded_of_getElem? here
    obtain ⟨kept', found', rfl⟩ := padded_of_getElem? there
    have same : j / 17 = i / 17 := by omega
    rw [same, found] at found'
    obtain rfl := Option.some.inj found'
    split_ifs <;> rfl

end

end DashcamStats.Osd
