import DashcamStats.Reconciliation.Covered

namespace DashcamStats.Reconciliation

open Bundle Obd

variable {lib : Library}

theorem project_congr {drive drive' : Drive} (imported : drive.imported = drive'.imported)
    (producer : producerSummary drive = producerSummary drive') (stored : Stored) :
    project lib drive stored = project lib drive' stored := by
  unfold project
  rw [imported, producer]

def kept : Json → Json
  | .obj members => .obj members
  | _ => .null

theorem gapAnalysisOf_kept (drive : Imported) (e : Evidence) (stored : Stored) (producer : Json) :
    gapAnalysisOf lib drive e stored (kept producer) =
      gapAnalysisOf lib drive e stored producer := by
  cases producer <;> rfl

theorem member_gapAnalysis (drive : Imported) (e : Evidence) (stored : Stored) (producer : Json)
    (fingerprint : String) :
    member (.obj (gapAnalysisOf lib drive e stored producer ++
      [("projection_fingerprint", .str fingerprint)])) "producer_summary" = kept producer ∧
    member (.obj (gapAnalysisOf lib drive e stored producer ++
      [("projection_fingerprint", .str fingerprint)])) "projection_fingerprint" =
        .str fingerprint := by
  cases producer <;> exact ⟨rfl, rfl⟩

theorem project_of_kept {drive drive' : Drive} (imported : drive'.imported = drive.imported)
    {producer : Json} (before : producerSummary drive = .ok producer)
    (after : producerSummary drive' = .ok (kept producer)) (stored : Stored) :
    project lib drive' stored = project lib drive stored := by
  unfold project
  rw [imported, before, after]
  simp only [bind, Except.bind, gapAnalysisOf_kept]

-- What of the columns the later proofs need
structure Projected (lib : Library) (drive : Drive) (stored : Stored) (canonical : Canonical)
    (fingerprint : String) : Prop where
  evidence : ∃ producer finishedAt, producerSummary drive = .ok producer ∧
    let e := gather lib drive.imported finishedAt stored
    canonical.gapAnalysis = .obj (gapAnalysisOf lib drive.imported e stored producer ++
      [("projection_fingerprint", .str fingerprint)]) ∧
    canonical.summary = .obj (summaryOf lib drive.imported e (observedDtcs stored.diagnostics)) ∧
    canonical.dataCompletenessPercentage = completeness e.coverage ∧
    canonical.receivedSamplePercentage = some (receivedOf e)
  derived : canonical.summarySource = "derived"

theorem eq_of_guarded {α : Type} {p : Prop} [Decidable p] {error : String} {a b : α}
    (done : (if p then Except.error error else Except.ok a) = Except.ok b) : a = b := by
  split at done
  · cases done
  · exact Except.ok.inj done

theorem project_projected {drive : Drive} {stored : Stored} {canonical : Canonical}
    {fingerprint : String} (done : project lib drive stored = .ok (canonical, fingerprint)) :
    Projected lib drive stored canonical fingerprint := by
  unfold project at done
  simp only [bind, Except.bind] at done
  cases producer : producerSummary drive with
  | error _ => simp [producer] at done
  | ok kept =>
    cases finished : stored.driveFinishedAt with
    | none => simp [producer, finished] at done
    | some finishedAt =>
      simp only [producer, finished] at done
      obtain ⟨rfl, rfl⟩ := Prod.mk.inj (eq_of_guarded done)
      exact ⟨⟨kept, finishedAt, producer, rfl, rfl, rfl, rfl⟩, rfl⟩

theorem project_again {drive later : Drive} {stored : Stored} {canonical : Canonical}
    {fingerprint : String} (done : project lib drive stored = .ok (canonical, fingerprint))
    (imported : later.imported = drive.imported) (same : later.canonical = canonical) :
    project lib later stored = .ok (canonical, fingerprint) := by
  obtain ⟨⟨producer, finishedAt, before, analysis, -⟩, derived⟩ := project_projected done
  have after : producerSummary later = .ok (kept producer) := by
    simp [producerSummary, same, derived, analysis, (member_gapAnalysis _ _ _ _ _).1]
  rw [project_of_kept imported before after, done]

def IsShare : Json → Prop
  | .float q => 0 ≤ q ∧ q ≤ 100
  | .null => True
  | _ => False

def Measured (signal : Json) : Prop :=
  IsShare (member signal "coverage_percentage") ∧
    (member signal "supported" = .bool true → ∃ received expected : ℕ,
      member signal "received_observation_count" = natural received ∧
        member signal "expected_observation_count" = natural expected ∧ received ≤ expected)

structure Canonical.Covered (canonical : Canonical) : Prop where
  completeness : IsShare (number canonical.dataCompletenessPercentage)
  received : IsShare (number canonical.receivedSamplePercentage)
  summary : IsShare (member canonical.summary "received_sample_percentage")
  aggregate : IsShare (member canonical.gapAnalysis "aggregate_signal_completeness_percentage")
  transport : IsShare (member (member canonical.gapAnalysis "transport") "coverage_percentage")
  signals : ∃ signals, member canonical.gapAnalysis "signals" = .arr signals ∧
    ∀ signal ∈ signals, Measured signal

theorem isShare_number {share : Option ℚ} (range : ∀ q ∈ share, 0 ≤ q ∧ q ≤ 100) :
    IsShare (number share) := by
  cases share with
  | none => trivial
  | some q => exact range q rfl

theorem SignalResult.Covered.measured {result : SignalResult} (covered : result.Covered) :
    Measured (result.document lib) := by
  refine ⟨isShare_number covered.share, fun supported => ?_⟩
  have scheduled : result.supported = true := Json.bool.inj supported
  exact ⟨result.received, result.expected, rfl, rfl, covered.order scheduled⟩

theorem Projected.covered {drive : Drive} {stored : Stored} {canonical : Canonical}
    {fingerprint : String} (projected : Projected lib drive stored canonical fingerprint)
    (valid : stored.Valid) : canonical.Covered := by
  obtain ⟨producer, finishedAt, -, analysis, summary, complete, received⟩ := projected.evidence
  have complete_share : ∀ q ∈ completeness (gather lib drive.imported finishedAt stored).coverage,
      0 ≤ q ∧ q ≤ 100 := fun _ => completeness_mem_Icc lib drive.imported finishedAt valid
  have received_share : IsShare (.float
      (receivedOf (gather lib drive.imported finishedAt stored))) :=
    receivedPercentage_mem_Icc _ _
  refine ⟨?_, ?_, ?_, ?_, ?_, ?_⟩
  · rw [complete]
    exact isShare_number complete_share
  · rw [received]
    exact received_share
  · rw [summary]
    exact received_share
  · rw [analysis]
    exact isShare_number complete_share
  · rw [analysis]
    exact received_share
  · rw [analysis]
    refine ⟨_, rfl, fun signal among => ?_⟩
    obtain ⟨result, known, rfl⟩ := List.mem_map.mp among
    exact (gather_covered lib drive.imported finishedAt valid result known).measured

section

variable {faults : Faults} {now : Time} {drive first : Drive} {stored : Stored} {changed : Bool}
  {fingerprint : String}

theorem reconcile_ready (done : reconcileDriveProjection lib faults now drive stored =
    (first, .ready changed fingerprint)) :
    project lib drive stored = .ok (first.canonical, fingerprint) ∧
      first.imported = drive.imported ∧ first.processingStatus = "ready" ∧
      first.lastProcessingError = none ∧ first.summaryGeneratedAt ≠ none := by
  unfold reconcileDriveProjection at done
  simp only at done
  split at done
  · cases done
  · cases raised : faults.raises with
    | some error => simp [raised] at done
    | none =>
      cases projected : project lib drive stored with
      | error error => simp [raised, projected] at done
      | ok result =>
        obtain ⟨canonical, same⟩ := result
        simp only [raised, projected, Prod.mk.injEq, Report.ready.injEq] at done
        obtain ⟨rfl, -, rfl⟩ := done
        refine ⟨rfl, rfl, rfl, rfl, ?_⟩
        show (if _ then some now else drive.summaryGeneratedAt) ≠ none
        split
        · exact Option.some_ne_none now
        · rename_i unchanged
          simp only [not_or] at unchanged
          exact unchanged.2.1

theorem reconcile_of_project (projected : project lib drive stored =
    .ok (first.canonical, fingerprint)) :
    ∃ later changed, reconcileDriveProjection lib {} now drive stored =
        (later, .ready changed fingerprint) ∧ later.canonical = first.canonical ∧
      later.processingStatus = "ready" ∧ later.lastProcessingError = none := by
  unfold reconcileDriveProjection
  simp only [projected, Bool.false_eq_true, if_false]
  exact ⟨_, _, rfl, rfl, rfl, rfl⟩

theorem reconcile_again (done : reconcileDriveProjection lib faults now drive stored =
    (first, .ready changed fingerprint)) (later : Time) :
    reconcileDriveProjection lib {} later first stored = (first, .ready false fingerprint) := by
  obtain ⟨projected, imported, status, error, generated⟩ := reconcile_ready done
  have again := project_again projected imported rfl
  have known : member first.canonical.gapAnalysis "projection_fingerprint" = .str fingerprint := by
    obtain ⟨⟨_, _, -, analysis, -⟩, -⟩ := project_projected projected
    rw [analysis]
    exact (member_gapAnalysis _ _ _ _ _).2
  unfold reconcileDriveProjection
  simp only [again, known, status, error, generated, Bool.false_eq_true, if_false, ne_eq,
    not_true_eq_false, or_self, decide_false]
  rw [← status, ← error]

theorem reconcile_atomic (faults : Faults) (now : Time) (drive : Drive) (stored : Stored) :
    let result := reconcileDriveProjection lib faults now drive stored
    result.1.imported = drive.imported ∧
      ((∃ changed fingerprint, result.2 = .ready changed fingerprint) ∨
        result.1 = { drive with
          processingStatus := result.1.processingStatus
          lastProcessingError := result.1.lastProcessingError }) := by
  unfold reconcileDriveProjection
  simp only
  split
  · exact ⟨rfl, .inr rfl⟩
  · split
    · exact ⟨rfl, .inr rfl⟩
    · exact ⟨rfl, .inl ⟨_, _, rfl⟩⟩

end

structure Settled (lib : Library) (stored : Stored) : Prop where
  again : ∀ faults now drive first changed fingerprint,
    reconcileDriveProjection lib faults now drive stored =
        (first, .ready changed fingerprint) → ∀ later,
      reconcileDriveProjection lib {} later first stored = (first, .ready false fingerprint)
  -- of what else is in the row
  independent : ∀ faults now drive first changed fingerprint,
    reconcileDriveProjection lib faults now drive stored =
        (first, .ready changed fingerprint) → ∀ later other,
      other.imported = drive.imported → producerSummary other = producerSummary drive →
      ∃ second changed, reconcileDriveProjection lib {} later other stored =
          (second, .ready changed fingerprint) ∧ second.canonical = first.canonical ∧
        second.processingStatus = first.processingStatus ∧
        second.lastProcessingError = first.lastProcessingError
  atomic : ∀ faults now drive,
    let result := reconcileDriveProjection lib faults now drive stored
    result.1.imported = drive.imported ∧
      ((∃ changed fingerprint, result.2 = .ready changed fingerprint) ∨
        result.1 = { drive with
          processingStatus := result.1.processingStatus
          lastProcessingError := result.1.lastProcessingError })
  covered : ∀ faults now drive first changed fingerprint,
    reconcileDriveProjection lib faults now drive stored =
      (first, .ready changed fingerprint) → first.canonical.Covered

theorem reconcile_settled (lib : Library) {stored : Stored} (valid : stored.Valid) :
    Settled lib stored where
  again _ _ _ _ _ _ done later := reconcile_again done later
  independent _ _ _ first _ _ done _ other imported producer := by
    obtain ⟨projected, -, status, error, -⟩ := reconcile_ready done
    rw [← project_congr imported producer] at projected
    obtain ⟨second, changed, again, same, ready, none⟩ := reconcile_of_project projected
    exact ⟨second, changed, again, same, ready.trans status.symm, none.trans error.symm⟩
  atomic faults now drive := reconcile_atomic faults now drive stored
  covered _ _ _ _ _ _ done := (project_projected (reconcile_ready done).1).covered valid

def idling : Stored where
  driveFinishedAt := some 0
  samples := [
    { drive := "drive"
      sequence := 0
      capturedAt := 0
      ecuDataStatus := none
      value := fun column => if column = "engine_rpm" then .float 800 else .null
      quality := .obj [] }]
  diagnostics := []

theorem reconcile_settled_idling :
    Settled
      { fromisoformat := fun _ => none
        isoformat := fun _ => "1970-01-01T00:00:00+00:00"
        summaryTime := fun _ => "1970-01-01T00:00:00Z"
        sha256 := fun _ => "44136fa355b3678a1146ad16f7e8649e94fb4fc21fe77e8310c060f61caaff8a" }
      idling :=
  reconcile_settled _ { distinct := by decide, bounded := by decide }

end DashcamStats.Reconciliation
