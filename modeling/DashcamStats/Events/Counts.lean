import DashcamStats.Events.Mirror
import DashcamStats.Library.Run

namespace DashcamStats.Events

namespace Mirror

variable (mirror : Mirror)

theorem stored_iff_mem {source : String} {sequence : ℕ} :
    Stored mirror source sequence ↔ ∃ row ∈ mirror, row.identity = (source, sequence) := Iff.rfl

theorem stored_insertEvent {source other : String} {event : LoggerEvent} {sequence : ℕ} :
    Stored (insertEvent mirror source event).1 other sequence ↔
      Stored mirror other sequence ∨ (other, sequence) = (source, event.sequence) := by
  simp only [stored_iff_mem]
  unfold insertEvent
  split
  next row found =>
    obtain ⟨there, same⟩ := Table.find?_mem found
    constructor
    · exact .inl
    · rintro (held | named)
      · exact held
      · exact ⟨row, there, by rw [same, named]⟩
  next found =>
    simp only [Table.mem_insert]
    constructor
    · rintro ⟨row, there | rfl, same⟩
      · exact .inl ⟨row, there, same⟩
      · exact .inr same.symm
    · rintro (⟨row, there, same⟩ | named)
      · exact ⟨row, .inl there, same⟩
      · exact ⟨_, .inr rfl, named.symm⟩

theorem count_insertEvent {source : String} {event : LoggerEvent} :
    (insertEvent mirror source event).2 =
      if Stored mirror source event.sequence then 0 else 1 := by
  unfold insertEvent
  split
  next row found =>
    obtain ⟨there, same⟩ := Table.find?_mem found
    have held : Stored mirror source event.sequence := ⟨row, there, same⟩
    simp [held]
  next found =>
    have absent : ¬Stored mirror source event.sequence := by
      rintro ⟨row, there, same⟩
      exact Table.find?_eq_none.mp found row there same
    simp [absent]

theorem stored_insertEvents {source other : String} {events : List LoggerEvent} {sequence : ℕ} :
    Stored (insertEvents source mirror events).1 other sequence ↔
      Stored mirror other sequence ∨
        other = source ∧ sequence ∈ events.map LoggerEvent.sequence := by
  induction events generalizing mirror with
  | nil => simp [insertEvents]
  | cons event events ih =>
    have later := ih (insertEvent mirror source event).1
    simp only [insertEvents, later, stored_insertEvent, List.map_cons, List.mem_cons,
      Prod.mk.injEq]
    tauto

theorem count_insertEvents (source : String) {events : List LoggerEvent}
    (distinct : (events.map LoggerEvent.sequence).Nodup) :
    (insertEvents source mirror events).2 =
      ((events.map LoggerEvent.sequence).filter fun q => ¬Stored mirror source q).length := by
  induction events generalizing mirror with
  | nil => rfl
  | cons event events ih =>
    rw [List.map_cons, List.nodup_cons] at distinct
    have later := ih (insertEvent mirror source event).1 distinct.2
    have same : (events.map LoggerEvent.sequence).filter
          (fun q => ¬Stored (insertEvent mirror source event).1 source q) =
        (events.map LoggerEvent.sequence).filter (fun q => ¬Stored mirror source q) := by
      apply List.filter_congr
      intro q member
      have apart : q ≠ event.sequence := by
        rintro rfl
        exact distinct.1 member
      simp [stored_insertEvent, apart]
    simp only [insertEvents, later, same, count_insertEvent, List.map_cons]
    by_cases held : Stored mirror source event.sequence
    · simp [held]
    · simp [held, Nat.add_comm]

theorem stored_of_prune {source : String} {sequence : ℕ} {now : Time}
    (held : Stored (prune mirror now) source sequence) : Stored mirror source sequence := by
  obtain ⟨row, there, same⟩ := held
  have member : row ∈ mirror := (Table.mem_filter.mp (Table.mem_filter.mp there).1).1
  exact ⟨row, member, same⟩

theorem mem_latest {source : String} {sequence : ℕ} :
    sequence ∈ (mirror.rows.filter fun row => row.sourceIdHash = source).map EventRow.sequence ↔
      Stored mirror source sequence := by
  simp only [List.mem_map, List.mem_filter, decide_eq_true_eq, Stored, EventRow.identity,
    Prod.mk.injEq]
  constructor
  · rintro ⟨row, ⟨there, from_⟩, same⟩
    exact ⟨row, there, from_, same⟩
  · rintro ⟨row, there, from_, same⟩
    exact ⟨row, ⟨there, from_⟩, same⟩

def top (source : String) : ℕ := (latest mirror source).getD 0

theorem elim_latest (source : String) : (latest mirror source).elim 1 (· + 1) = top mirror source + 1 := by
  unfold top
  cases latest mirror source <;> rfl

theorem le_top {source : String} {sequence : ℕ} (held : Stored mirror source sequence) :
    sequence ≤ top mirror source := by
  have member := (mem_latest mirror).mpr held
  unfold top latest
  exact List.le_max?_getD_of_mem member

theorem stored_top {source : String} (positive : 0 < top mirror source) :
    Stored mirror source (top mirror source) := by
  unfold top at positive ⊢
  cases found : latest mirror source with
  | none => simp [found] at positive
  | some q => exact (mem_latest mirror).mp (List.max?_mem found)

end Mirror

theorem sequenceGap_range' (expected first n : ℕ) (some_ : n ≠ 0) :
    sequenceGap expected (List.range' first n) = first - expected := by
  induction n generalizing expected first with
  | zero => exact absurd rfl some_
  | succ n ih =>
    rw [List.range'_succ, sequenceGap]
    cases n with
    | zero =>
      split <;> simp [sequenceGap]
      omega
    | succ n =>
      split
      · rw [ih _ _ (by omega)]
        omega
      · rw [ih _ _ (by omega)]
        omega

namespace World

variable {w w' : World} {source : String}

theorem sequences_snapshot (first last : ℕ) :
    (w.snapshot first last).map LoggerEvent.sequence = List.range' first (last + 1 - first) := by
  simp [snapshot, Function.comp_def]

theorem mem_range'_iff {first last q : ℕ} :
    q ∈ List.range' first (last + 1 - first) ↔ q ∈ Finset.Icc first last := by
  rw [List.mem_range'_1, Finset.mem_Icc]
  omega

theorem accepted_snapshot (first last : ℕ) (now : Time) :
    (storeEventSnapshot w.mirror source (w.snapshot first last) now).accepted =
      ((Finset.Icc first last).filter fun q => ¬Mirror.Stored w.mirror source q).card := by
  have distinct : ((w.snapshot first last).map LoggerEvent.sequence).Nodup := by
    rw [sequences_snapshot]
    exact List.nodup_range'
  have counted := Mirror.count_insertEvents w.mirror source distinct
  have same : (Finset.Icc first last).filter (fun q => ¬Mirror.Stored w.mirror source q) =
      ((List.range' first (last + 1 - first)).filter
        fun q => ¬Mirror.Stored w.mirror source q).toFinset := by
    ext q
    simp only [Finset.mem_filter, List.mem_toFinset, List.mem_filter, mem_range'_iff,
      decide_eq_true_eq]
  rw [same, List.toFinset_card_of_nodup ((List.nodup_range').filter _)]
  simpa [storeEventSnapshot, sequences_snapshot] using counted

theorem gap_snapshot {first last : ℕ} (ordered : first ≤ last) (now : Time) :
    (storeEventSnapshot w.mirror source (w.snapshot first last) now).sequenceGap =
      first - (Mirror.top w.mirror source + 1) := by
  simp only [storeEventSnapshot, sequences_snapshot, Mirror.elim_latest]
  exact sequenceGap_range' _ _ _ (by omega)

theorem stored_after {source' : String} {events : List LoggerEvent} {now : Time} {q : ℕ}
    (held : Mirror.Stored (storeEventSnapshot w.mirror source' events now).mirror source q) :
    Mirror.Stored w.mirror source q ∨ source = source' ∧ q ∈ events.map LoggerEvent.sequence :=
  (Mirror.stored_insertEvents w.mirror).mp (Mirror.stored_of_prune _ held)

structure Consistent (source : String) (w : World) : Prop where
  delivered : ∀ q, Mirror.Stored w.mirror source q → q ∈ w.delivered
  positive : ∀ q ∈ w.delivered, 1 ≤ q

theorem consistent_empty : Consistent source empty where
  delivered := by
    rintro q ⟨row, there, _⟩
    cases there
  positive := by simp [empty]

theorem consistent_step {e : Event} (held : Consistent source w) (stepped : step source w e w') :
    Consistent source w' := by
  have delivered := held.delivered
  have positive := held.positive
  cases e with
  | append occurredAt =>
    obtain rfl := Option.some.inj stepped
    exact ⟨delivered, positive⟩
  | deliver first last now =>
    simp only [step, next] at stepped
    split at stepped
    next bounds =>
      obtain rfl := Option.some.inj stepped
      constructor
      · intro q there
        rcases stored_after there with before | ⟨_, listed⟩
        · exact Finset.mem_union_left _ (delivered q before)
        · rw [sequences_snapshot, mem_range'_iff] at listed
          exact Finset.mem_union_right _ listed
      · intro q member
        rcases Finset.mem_union.mp member with before | fresh
        · exact positive q before
        · exact bounds.1.trans (Finset.mem_Icc.mp fresh).1
    next => cases stepped
  | deliverEmpty now =>
    simp only [step, next, Option.some.injEq] at stepped
    subst stepped
    refine ⟨fun q there => delivered q ?_, positive⟩
    have kept : Mirror.Stored (storeEventSnapshot w.mirror source [] now).mirror source q := there
    rcases stored_after kept with before | ⟨_, listed⟩
    · exact before
    · cases listed
  | other source' events now =>
    simp only [step, next] at stepped
    split at stepped
    next => cases stepped
    next apart =>
      obtain rfl := Option.some.inj stepped
      refine ⟨fun q there => ?_, positive⟩
      rcases stored_after there with before | ⟨same, _⟩
      · exact delivered q before
      · exact absurd same.symm apart
  | prune now =>
    obtain rfl := Option.some.inj stepped
    exact ⟨fun q there => delivered q (Mirror.stored_of_prune _ there), positive⟩

theorem le_highest {q : ℕ} (member : q ∈ w.delivered) : q ≤ w.highest :=
  Finset.le_sup (f := id) member

theorem delivered_subset (held : Consistent source w) : w.delivered ⊆ Finset.Icc 1 w.highest :=
  fun q member => Finset.mem_Icc.mpr ⟨held.positive q member, le_highest member⟩

theorem card_never (held : Consistent source w) :
    w.never.card + w.delivered.card = w.highest := by
  have parts := Finset.card_filter_add_card_filter_not (s := Finset.Icc 1 w.highest)
    (· ∈ w.delivered)
  have same : (Finset.Icc 1 w.highest).filter (· ∈ w.delivered) = w.delivered := by
    rw [Finset.filter_mem_eq_inter]
    exact Finset.inter_eq_right.mpr (delivered_subset held)
  rw [same, Nat.card_Icc] at parts
  unfold never
  omega

theorem top_le_highest (held : Consistent source w) : Mirror.top w.mirror source ≤ w.highest := by
  by_cases positive : 0 < Mirror.top w.mirror source
  · exact le_highest (held.delivered _ (Mirror.stored_top _ positive))
  · omega

section Delivery

variable {first last : ℕ}

theorem highest_union (ordered : first ≤ last) (recent : w.highest ≤ last) :
    (w.delivered ∪ Finset.Icc first last).sup id = last := by
  rw [Finset.sup_union]
  have top : (Finset.Icc first last).sup id = last := by
    apply le_antisymm
    · exact Finset.sup_le fun q member => (Finset.mem_Icc.mp member).2
    · exact Finset.le_sup (f := id) (Finset.mem_Icc.mpr ⟨ordered, le_refl _⟩)
  rw [top]
  exact max_eq_right recent

def fresh (w : World) (first last : ℕ) : Finset ℕ :=
  (Finset.Icc first last).filter (· ∉ w.delivered)

theorem card_union (first last : ℕ) :
    (w.delivered ∪ Finset.Icc first last).card = w.delivered.card + (w.fresh first last).card := by
  have split : w.delivered ∪ Finset.Icc first last = w.delivered ∪ w.fresh first last := by
    ext q
    simp only [Finset.mem_union, fresh, Finset.mem_filter]
    tauto
  rw [split, Finset.card_union_of_disjoint]
  rw [Finset.disjoint_left]
  intro q member added
  exact (Finset.mem_filter.mp added).2 member

theorem card_fresh (ordered : first ≤ last) (recent : w.highest ≤ last) :
    (w.fresh first last).card =
      ((Finset.Icc first w.highest).filter (· ∉ w.delivered)).card +
        (last - max w.highest (first - 1)) := by
  have above : (Finset.Icc (max (w.highest + 1) first) last).card =
      last - max w.highest (first - 1) := by
    rw [Nat.card_Icc]
    omega
  have split : w.fresh first last = ((Finset.Icc first w.highest).filter (· ∉ w.delivered)) ∪
      Finset.Icc (max (w.highest + 1) first) last := by
    ext q
    simp only [fresh, Finset.mem_filter, Finset.mem_union, Finset.mem_Icc]
    constructor
    · rintro ⟨inside, added⟩
      by_cases low : q ≤ w.highest
      · exact .inl ⟨⟨inside.1, low⟩, added⟩
      · exact .inr (by omega)
    · rintro (⟨inside, added⟩ | inside)
      · exact ⟨by omega, added⟩
      · refine ⟨by omega, fun member => ?_⟩
        have bound := le_highest member
        omega
  rw [split, Finset.card_union_of_disjoint, above]
  rw [Finset.disjoint_left]
  intro q below inside
  have low := (Finset.mem_Icc.mp (Finset.mem_filter.mp below).1).2
  have high := (Finset.mem_Icc.mp inside).1
  omega

theorem fresh_subset (held : Consistent source w) (first last : ℕ) :
    w.fresh first last ⊆
      (Finset.Icc first last).filter fun q => ¬Mirror.Stored w.mirror source q := by
  intro q member
  have parts := Finset.mem_filter.mp member
  exact Finset.mem_filter.mpr ⟨parts.1, fun there => parts.2 (held.delivered q there)⟩

theorem delivery_exact_iff (held : Consistent source w) (low : 1 ≤ first)
    (ordered : first ≤ last) (recent : w.highest ≤ last) (now : Time) :
    w.StillStored source (.deliver first last now) ↔
      ((Finset.Icc first last).filter fun q => ¬Mirror.Stored w.mirror source q).card =
          (w.fresh first last).card ∧
        w.highest + (first - (Mirror.top w.mirror source + 1)) + (w.fresh first last).card =
          last := by
  have below := top_le_highest held
  have counted := card_fresh ordered recent
  constructor
  · rintro ⟨kept, repeated⟩
    have top : Mirror.top w.mirror source = w.highest := by
      rcases kept with none_ | there
      · omega
      · exact le_antisymm below (Mirror.le_top _ there)
    have seen : (Finset.Icc first w.highest).filter (· ∉ w.delivered) = ∅ := by
      rw [Finset.filter_eq_empty_iff]
      intro q member
      exact not_not_intro (held.delivered q (repeated q member))
    have same : (Finset.Icc first last).filter (fun q => ¬Mirror.Stored w.mirror source q) =
        w.fresh first last := by
      apply Finset.Subset.antisymm _ (fresh_subset held first last)
      intro q member
      have parts := Finset.mem_filter.mp member
      refine Finset.mem_filter.mpr ⟨parts.1, fun known => parts.2 ?_⟩
      exact repeated q (Finset.mem_Icc.mpr ⟨(Finset.mem_Icc.mp parts.1).1, le_highest known⟩)
    refine ⟨by rw [same], ?_⟩
    rw [counted, seen, Finset.card_empty, top]
    omega
  · rintro ⟨inserted, gap⟩
    have same := Finset.eq_of_subset_of_card_le (fresh_subset held first last)
      inserted.le
    -- the missing numbers below the highest would be taken back, and nothing takes them back
    have none_ : ((Finset.Icc first w.highest).filter (· ∉ w.delivered)).card = 0 := by omega
    have seen := Finset.filter_eq_empty_iff.mp (Finset.card_eq_zero.mp none_)
    have repeated : ∀ q ∈ Finset.Icc first w.highest, Mirror.Stored w.mirror source q := by
      intro q member
      have known := not_not.mp (seen member)
      by_contra gone
      have bounds := Finset.mem_Icc.mp member
      have listed : q ∈ w.fresh first last := by
        rw [same]
        exact Finset.mem_filter.mpr ⟨Finset.mem_Icc.mpr ⟨bounds.1, bounds.2.trans recent⟩, gone⟩
      exact (Finset.mem_filter.mp listed).2 known
    refine ⟨?_, repeated⟩
    by_cases reached : first ≤ w.highest
    · exact .inr (repeated _ (Finset.mem_Icc.mpr ⟨reached, le_refl _⟩))
    · have top : Mirror.top w.mirror source = w.highest := by omega
      by_cases positive : 0 < w.highest
      · refine .inr ?_
        rw [← top]
        exact Mirror.stored_top _ (by omega)
      · exact .inl (by omega)

end Delivery

theorem exact_step {e : Event} (held : Consistent source w) (exact_ : w.CountsExact)
    (stepped : step source w e w') : w.StillStored source e ↔ w'.CountsExact := by
  have held' := consistent_step held stepped
  cases e with
  | append occurredAt =>
    obtain rfl := Option.some.inj stepped
    exact iff_of_true trivial exact_
  | deliver first last now =>
    simp only [step, next] at stepped
    split at stepped
    next bounds =>
      obtain rfl := Option.some.inj stepped
      obtain ⟨low, ordered, _, recent⟩ := bounds
      rw [delivery_exact_iff held low ordered recent now]
      have before := card_never held
      have after := card_never held'
      have top := highest_union (w := w) ordered recent
      have union := w.card_union first last
      have more := Finset.card_le_card (fresh_subset held first last)
      have accepted := exact_.1
      have gaps := exact_.2
      simp only [CountsExact, never, highest, accepted_snapshot, gap_snapshot ordered, top,
        union] at before after accepted gaps ⊢
      constructor <;> rintro ⟨inserted, skipped⟩ <;> constructor <;> omega
    next => cases stepped
  | deliverEmpty now =>
    simp only [step, next, Option.some.injEq] at stepped
    subst stepped
    exact iff_of_true trivial exact_
  | other source' events now =>
    simp only [step, next] at stepped
    split at stepped
    next => cases stepped
    next =>
      obtain rfl := Option.some.inj stepped
      exact iff_of_true trivial exact_
  | prune now =>
    obtain rfl := Option.some.inj stepped
    exact iff_of_true trivial exact_

/-- The runs of the mirror in which each call repeats only what is still stored are those in
which both sums are exact throughout. -/
theorem counts_exact_iff {es : List Event} :
    Run (step source) (StillStored source) empty es w ↔
      Run (fun w e w' => step source w e w' ∧ w'.CountsExact) anyStep empty es w :=
  Run.iff_good (Consistent source) CountsExact (fun _ _ _ => consistent_step)
    (fun _ _ _ => exact_step) consistent_empty ⟨rfl, rfl⟩

/-- Three events of logger `a` are delivered; 91 days later a snapshot of logger `b` has them
pruned, and then the next event of `a` is delivered. -/
def quarter : List Event :=
  let later := 91 * 86400 * 1000000
  [.append 0, .append 1, .append 2, .deliver 1 3 3, .other "b" [⟨1, later⟩] later, .append later,
    .deliver 4 4 later]

theorem not_counts_exact : ∃ es w, Run (step "a") anyStep empty es w ∧ ¬w.CountsExact := by
  have counts : (trace (next · "a") anyStep empty quarter).map
      (fun w => (w.accepted, w.gaps, w.never.card)) = some (4, 3, 0) := by
    decide +kernel
  obtain ⟨w, traced, read⟩ := Option.map_eq_some_iff.mp counts
  refine ⟨quarter, w, run_of_trace _ _ traced, fun exact_ => ?_⟩
  have gaps := exact_.2
  simp only [Prod.mk.injEq] at read
  omega

end World

end DashcamStats.Events
