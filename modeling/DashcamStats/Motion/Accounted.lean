import DashcamStats.Motion.Journal

namespace DashcamStats.Motion

open Intervals (Covered)

section

variable {gaps : List Gap} {t : Time}

theorem covered_append {more : List Gap} :
    Covered (gaps ++ more) t ↔ Covered gaps t ∨ Covered more t := by
  simp only [Covered, List.mem_append, or_and_right, exists_or]

theorem covered_cons {gap : Gap} :
    Covered (gap :: gaps) t ↔ (gap.1 ≤ t ∧ t ≤ gap.2) ∨ Covered gaps t := by
  simp [Covered]

theorem covered_hull {a b : Gap} (covered : Covered (a :: b :: gaps) t) :
    Covered (hull a b :: gaps) t := by
  rw [covered_cons, covered_cons] at covered
  rw [covered_cons]
  obtain first | second | rest := covered
  · exact .inl ⟨(min_le_left _ _).trans first.1, first.2.trans (le_max_left _ _)⟩
  · exact .inl ⟨(min_le_right _ _).trans second.1, second.2.trans (le_max_right _ _)⟩
  · exact .inr rest

theorem covered_mergeFront (covered : Covered gaps t) : Covered (mergeFront gaps) t := by
  unfold mergeFront
  split
  · exact covered_hull covered
  · exact covered

theorem covered_perm {other : List Gap} (same : other.Perm gaps) (covered : Covered gaps t) :
    Covered other t := covered.mono fun _ member => same.mem_iff.mpr member

theorem covered_mergeOldest (covered : Covered gaps t) : Covered (mergeOldest gaps) t := by
  have sorted := covered_perm (List.mergeSort_perm gaps fun a b => decide (a.1 ≤ b.1)) covered
  unfold mergeOldest
  split
  · rename_i a b rest same
    rw [same] at sorted
    exact covered_perm (List.perm_append_singleton _ _) (covered_hull sorted)
  · exact covered

theorem covered_iterate {merge : List Gap → List Gap}
    (keeps : ∀ gaps, Covered gaps t → Covered (merge gaps) t) (n : ℕ) (covered : Covered gaps t) :
    Covered (merge^[n] gaps) t := by
  induction n generalizing gaps with
  | zero => exact covered
  | succ n ih => exact ih (keeps gaps covered)

theorem covered_compact (covered : Covered gaps t) : Covered (compact gaps) t :=
  covered_iterate (fun _ => covered_mergeOldest) _ covered

theorem covered_retained {now : Time} (recent : now - MOTION_RETENTION_MS ≤ t)
    (covered : Covered gaps t) : Covered (retainedGaps now gaps) t := by
  obtain ⟨gap, member, start, stop⟩ := covered
  exact ⟨gap, List.mem_filter.mpr ⟨member, by simpa using recent.trans stop⟩, start, stop⟩

variable (j : Journal) {first last : Time}

theorem covered_markGap (covered : Covered j.pendingGaps t) :
    Covered (j.markGap first last).pendingGaps t :=
  covered_iterate (fun _ => covered_mergeFront) _ (covered_append.mpr (.inl covered))

theorem markGap_covers (after : first ≤ t) (before : t ≤ last) :
    Covered (j.markGap first last).pendingGaps t := by
  refine covered_iterate (fun _ => covered_mergeFront) _ (covered_append.mpr (.inr ?_))
  have wide : (0 : Time) ≤ MOTION_MAX_GAP_MS := by decide
  exact ⟨_, List.mem_singleton_self _, (Int.sub_le_self first wide).trans after,
    before.trans (le_add_of_nonneg_right wide)⟩

end

theorem earliest_le {batch : List Observation} {o : Observation} (member : o ∈ batch) :
    earliest batch ≤ o.wallMs := by
  have among := List.mem_map_of_mem (f := fun o : Observation => o.wallMs) member
  unfold earliest
  cases least : (batch.map (·.wallMs)).min? with
  | none =>
    rw [List.min?_eq_none_iff] at least
    simp [least] at among
  | some value => exact (List.min?_eq_some_iff.mp least).2 _ among

theorem le_latest {batch : List Observation} {o : Observation} (member : o ∈ batch) :
    o.wallMs ≤ latest batch := by
  have among := List.mem_map_of_mem (f := fun o : Observation => o.wallMs) member
  unfold latest
  cases most : (batch.map (·.wallMs)).max? with
  | none =>
    rw [List.max?_eq_none_iff] at most
    simp [most] at among
  | some value => exact (List.max?_eq_some_iff.mp most).2 _ among

def Writer.inHand : Writer → List Observation
  | .collecting batch | .appending batch _ => batch
  | .idle | .appended _ => []

namespace Journal

variable (j : Journal)

def Recent (t : Time) : Prop := ∀ now ∈ j.clocks, now - MOTION_RETENTION_MS ≤ t

def OnItsWay (o : Observation) : Prop := o ∈ j.pending ∨ o ∈ j.writer.inHand

instance (t : Time) : Decidable (j.Recent t) := inferInstanceAs (Decidable (∀ now ∈ j.clocks, _))

instance (o : Observation) : Decidable (j.OnItsWay o) := inferInstanceAs (Decidable (_ ∨ _))

structure Safe : Prop where
  accounted : ∀ o ∈ j.offered, j.Recent o.wallMs →
    j.OnItsWay o ∨ o ∈ j.observations ∨ Covered (j.pendingGaps ++ j.coverageGaps) o.wallMs
  unhealthy : ∀ o ∈ j.offered, j.Recent o.wallMs → ¬j.OnItsWay o → o ∉ j.observations →
    ∀ readable first last, first ≤ o.wallMs → o.wallMs ≤ last →
      j.evidenceHealthy readable first last = false

structure Inv : Prop where
  accounted : ∀ o ∈ j.offered, j.Recent o.wallMs →
    j.OnItsWay o ∨ o ∈ j.observations ∨ Covered (j.pendingGaps ++ j.coverageGaps) o.wallMs
  -- The gaps that are about to come off the list are in the table.
  written : ∀ gaps, j.writer = .appended gaps → ∀ t, j.Recent t → Covered gaps t →
    Covered j.coverageGaps t

def Allowed : Event → Prop
  | .windowTakes => False
  | .commits now _ =>
    (retained now (j.observations ++ j.writer.inHand)).length ≤ MOTION_MAX_ROWS
  | _ => True

variable {j}

theorem evidenceHealthy_of_covered {t first last : Time} (readable : Bool)
    (covered : Covered (j.pendingGaps ++ j.coverageGaps) t) (after : first ≤ t)
    (before : t ≤ last) : j.evidenceHealthy readable first last = false := by
  have touched {gaps : List Gap} (covered : Covered gaps t) :
      (gaps.any fun gap => decide (Touches gap first last)) = true := by
    obtain ⟨gap, member, start, stop⟩ := covered
    exact List.any_eq_true.mpr ⟨gap, member,
      decide_eq_true ⟨start.trans before, after.trans stop⟩⟩
  unfold evidenceHealthy
  obtain soon | stored := covered_append.mp covered
  · rw [touched soon, if_pos rfl]
  · rw [touched stored]
    split <;> simp

theorem Inv.safe (inv : j.Inv) : j.Safe := by
  refine ⟨inv.accounted, fun o offered recent gone missing readable first last after before => ?_⟩
  obtain way | stored | covered := inv.accounted o offered recent
  · exact absurd way gone
  · exact absurd stored missing
  · exact evidenceHealthy_of_covered readable covered after before

theorem Inv.initial : ({} : Journal).Inv := ⟨by simp, by simp⟩

theorem accounted_of {j j' : Journal} (inv : j.Inv) (clocks : j'.clocks = j.clocks)
    (offered : j'.offered = j.offered)
    (moved : ∀ o, o ∈ j.offered → j.Recent o.wallMs → j.OnItsWay o ∨ o ∈ j.observations ∨
      Covered (j.pendingGaps ++ j.coverageGaps) o.wallMs → j'.OnItsWay o ∨ o ∈ j'.observations ∨
        Covered (j'.pendingGaps ++ j'.coverageGaps) o.wallMs) :
    ∀ o ∈ j'.offered, j'.Recent o.wallMs → j'.OnItsWay o ∨ o ∈ j'.observations ∨
      Covered (j'.pendingGaps ++ j'.coverageGaps) o.wallMs := by
  intro o member recent
  rw [offered] at member
  have before : j.Recent o.wallMs := by
    unfold Recent at recent ⊢
    rwa [clocks] at recent
  exact moved o member before (inv.accounted o member before)

theorem newest_eq {rows : List Observation} (fits : rows.length ≤ MOTION_MAX_ROWS) :
    newest rows = rows := by
  unfold newest
  rw [Nat.sub_eq_zero_of_le fits, List.drop_zero]

theorem Inv.step {j' : Journal} {event : Event} (inv : j.Inv) (allowed : j.Allowed event)
    (stepped : Steps j event j') : j'.Inv := by
  unfold Steps next at stepped
  cases event with
  | offers wallMs =>
    obtain rfl := Option.some.inj stepped
    split
    · refine ⟨fun o member recent => ?_, inv.written⟩
      obtain old | new := List.mem_append.mp member
      · exact (inv.accounted o old recent).imp_left fun way =>
          way.imp_left (List.mem_append_left _)
      · exact .inl (.inl (List.mem_append_right _ new))
    · refine ⟨fun o member recent => ?_, inv.written⟩
      obtain old | new := List.mem_append.mp member
      · exact (inv.accounted o old recent).imp_right fun rest => rest.imp_right fun covered =>
          covered_append.mpr ((covered_append.mp covered).imp_left fun soon =>
            covered_markGap _ soon)
      · obtain rfl := List.mem_singleton.mp new
        exact .inr (.inr (covered_append.mpr (.inl (markGap_covers _ le_rfl le_rfl))))
  | receives =>
    dsimp only at stepped
    split at stepped
    · rename_i first rest writer pending
      obtain rfl := Option.some.inj stepped
      refine ⟨accounted_of inv rfl rfl fun o _ _ account => ?_, by simp⟩
      refine account.imp_left fun way => ?_
      simp only [OnItsWay, pending, writer, Writer.inHand, List.mem_cons, List.not_mem_nil,
        or_false] at way ⊢
      tauto
    · cases stepped
  | receivesNext =>
    dsimp only at stepped
    split at stepped
    · rename_i batch value rest writer pending
      split at stepped
      · obtain rfl := Option.some.inj stepped
        refine ⟨accounted_of inv rfl rfl fun o _ _ account => ?_, by simp⟩
        refine account.imp_left fun way => ?_
        simp only [OnItsWay, pending, writer, Writer.inHand, List.mem_cons, List.mem_append,
          List.not_mem_nil, or_false] at way ⊢
        tauto
      · cases stepped
    · cases stepped
  | windowEnds =>
    dsimp only at stepped
    split at stepped
    · rename_i batch writer
      obtain rfl := Option.some.inj stepped
      refine ⟨accounted_of inv rfl rfl fun o _ _ account => ?_, by simp⟩
      simpa only [OnItsWay, writer, Writer.inHand] using account
    · cases stepped
  | windowTakes => cases allowed
  | commits now nowGaps =>
    dsimp only at stepped
    split at stepped
    · rename_i batch gaps writer
      obtain rfl := Option.some.inj stepped
      have within {t : Time} (recent : nowGaps - MOTION_RETENTION_MS ≤ t)
          (covered : Covered j.coverageGaps t ∨ Covered gaps t) :
          Covered (compact (retainedGaps nowGaps (j.coverageGaps ++ gaps))) t :=
        covered_compact (covered_retained recent (covered_append.mpr covered))
      unfold Allowed at allowed
      rw [writer, Writer.inHand] at allowed
      refine ⟨fun o member recent => ?_, fun others same t recent covered => ?_⟩
      · have clock : now - MOTION_RETENTION_MS ≤ o.wallMs := recent now (by simp)
        have stored (among : o ∈ j.observations ++ batch) :
            o ∈ newest (retained now (j.observations ++ batch)) := by
          rw [newest_eq allowed]
          exact List.mem_filter.mpr ⟨among, decide_eq_true clock⟩
        dsimp only
        obtain (way | way) | old | covered := inv.accounted o member fun earlier known =>
          recent earlier (List.mem_append_left _ known)
        · exact .inl (.inl way)
        · rw [writer] at way
          exact .inr (.inl (stored (List.mem_append_right _ way)))
        · exact .inr (.inl (stored (List.mem_append_left _ old)))
        · exact .inr (.inr (covered_append.mpr ((covered_append.mp covered).imp_right fun table =>
            within (recent nowGaps (by simp)) (.inl table))))
      · obtain rfl := Writer.appended.inj same
        dsimp only
        exact within (recent nowGaps (by simp)) (.inr covered)
    · cases stepped
  | raises =>
    dsimp only at stepped
    split at stepped
    · rename_i batch gaps writer
      obtain rfl := Option.some.inj stepped
      refine ⟨accounted_of inv rfl rfl fun o _ _ account => ?_, by simp [markGap]⟩
      obtain (way | way) | old | covered := account
      · exact .inl (.inl way)
      · rw [writer] at way
        exact .inr (.inr (covered_append.mpr (.inl
          (markGap_covers _ (earliest_le way) (le_latest way)))))
      · exact .inr (.inl old)
      · exact .inr (.inr (covered_append.mpr
          ((covered_append.mp covered).imp_left fun soon => covered_markGap _ soon)))
    · cases stepped
  | removes =>
    dsimp only at stepped
    split at stepped
    · rename_i gaps writer
      obtain rfl := Option.some.inj stepped
      refine ⟨accounted_of inv rfl rfl fun o _ recent account => ?_, by simp⟩
      obtain (way | way) | old | covered := account
      · exact .inl (.inl way)
      · rw [writer] at way
        cases way
      · exact .inr (.inl old)
      · refine .inr (.inr (covered_append.mpr ?_))
        obtain ⟨gap, member, start, stop⟩ | table := covered_append.mp covered
        · by_cases written : gap ∈ gaps
          · exact .inr (inv.written gaps writer _ recent ⟨gap, written, start, stop⟩)
          · exact .inl ⟨gap, List.mem_filter.mpr ⟨member, decide_eq_true written⟩, start, stop⟩
        · exact .inr table
    · cases stepped

/-- In every run of allowed steps, and of what was offered within retention, all that is no longer
on its way is stored or in a gap that keeps its evidence from being healthy. -/
theorem journal_safe (events : List Event) (j : Journal) (run : Run Steps Allowed {} events j) :
    j.Safe :=
  (run.invariant Inv (fun _ _ _ inv allowed stepped => inv.step allowed stepped) .initial).safe

def failedRun : List Event :=
  [.offers 1000, .receives, .windowEnds, .raises, .offers 2000, .receives, .windowEnds,
    .commits 3000 3000, .removes]

def failedJournal : Journal :=
  { failed := true, observations := [⟨1, 2000⟩], coverageGaps := [(-9000, 11000)]
    offered := [⟨0, 1000⟩, ⟨1, 2000⟩], clocks := [3000, 3000] }

instance (j : Journal) (event : Event) : Decidable (j.Allowed event) := by
  unfold Allowed
  split <;> infer_instance

theorem journal_safe_failed : Run Steps Allowed {} failedRun failedJournal ∧ failedJournal.Safe := by
  have run : Run Steps Allowed {} failedRun failedJournal := run_of_trace next Allowed (by rfl)
  exact ⟨run, journal_safe failedRun failedJournal run⟩

def cancelledRun : List Event :=
  [.offers 1000, .receives, .offers 2000, .windowTakes, .commits 3000 3000, .removes]

def cancelledJournal : Journal :=
  { observations := [⟨0, 1000⟩], offered := [⟨0, 1000⟩, ⟨1, 2000⟩], clocks := [3000, 3000] }

theorem cancelled_not_safe :
    Run Steps anyStep {} cancelledRun cancelledJournal ∧ ¬cancelledJournal.Safe := by
  refine ⟨run_of_trace next anyStep (by rfl), fun safe => ?_⟩
  have lost := safe.unhealthy ⟨1, 2000⟩ (by decide) (by decide) (by decide) (by decide) true 2000
    2000 le_rfl le_rfl
  exact absurd lost (by decide)

end Journal

end DashcamStats.Motion
