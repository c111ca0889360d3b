import DashcamStats.Clips.TransferPolicy

namespace DashcamStats.Clips

theorem key_apart {item other : PolicyClip} {card card' : String}
    (blank : item.body.fingerprint = none) (marked : other.body.fingerprint ≠ none) :
    key item card ≠ key other card' := by
  intro same
  obtain ⟨digest, found⟩ := Option.ne_none_iff_exists'.mp marked
  have texts : (keyStem item card).toList ++ ['/'] =
      (keyStem other card').toList ++ ['/'] ++ digest.text.toList := by
    have texts := congrArg String.toList same
    rw [key, key, blank, found, String.toList_append, String.toList_append,
      String.toList_append, String.toList_append] at texts
    have slash : "/".toList = ['/'] := rfl
    simpa only [Option.map_none, Option.map_some, Option.getD_none, Option.getD_some,
      String.toList_empty, List.append_nil, slash] using texts
  -- one text ends with the separator, the other with a digit of the digest
  have filled : digest.text.toList ≠ [] := by
    intro nothing
    have length := digest.hex.1
    rw [nothing] at length
    exact absurd length (by decide)
  have last : digest.text.toList.getLast? = some '/' := by
    have lasts := congrArg List.getLast? texts
    rw [List.getLast?_append, List.getLast?_append] at lasts
    rw [List.getLast?_eq_some_getLast filled] at lasts ⊢
    exact lasts.symm
  exact digest.hex.2 (List.mem_of_getLast? last)

namespace Reading

variable {r : Reading} {s : Survey}

theorem body_fingerprint (card : Option String) :
    (r.body card).fingerprint = r.item.body.fingerprint := by
  unfold body
  split <;> rfl

theorem fingerprint_of_complete (card : Option String)
    (complete : validVisual (r.visual card) = true) : (r.body card).fingerprint ≠ none := by
  rw [body_fingerprint]
  intro blank
  unfold visual at complete
  split at complete
  · rw [emptyVisual_not_valid] at complete
    exact absurd complete Bool.false_ne_true
  · rename_i card
    split at complete
    · rw [emptyVisual_not_valid] at complete
      exact absurd complete Bool.false_ne_true
    · rename_i value found
      split at complete
      · rw [emptyVisual_not_valid] at complete
        exact absurd complete Bool.false_ne_true
      · obtain ⟨entry, located, rfl⟩ := Option.map_eq_some_iff.mp found
        have member := List.mem_of_find?_eq_some located
        have keyed : entry.1 = key r.item card := by simpa using List.find?_some located
        obtain ⟨other, card', fresh, recorded⟩ := r.cache.proved entry member complete
        exact key_apart blank (other.fingerprinted fresh) (keyed.symm.trans recorded)

/-- Every verdict of `evaluate`, with what stood behind it. -/
structure Judged (r : Reading) (s : Survey) (verdict : Decision × Reason) : Prop where
  skip : verdict.1 = .skip → validVisual (r.visual s.card) = true ∧
    (r.body s.card).fingerprint ≠ none ∧ ParkedGuard.valid (r.fullGuard s) = true
  own : verdict.2 ≠ .peerCoverageRequired ∧ verdict.2 ≠ .peerAnalysisPending
  pending : verdict = (.defer, .analysisPending) → validVisual (r.visual s.card) = false

theorem refusal_own {reason : Reason} (refused : r.refusal s = some reason) :
    reason ≠ .peerCoverageRequired ∧ reason ≠ .peerAnalysisPending := by
  obtain ⟨entry, found, rfl⟩ := Option.map_eq_some_iff.mp refused
  have others : ∀ entry ∈ r.refusals s,
      entry.2 ≠ .peerCoverageRequired ∧ entry.2 ≠ .peerAnalysisPending := by
    simp [refusals]
  exact others entry (List.mem_of_find?_eq_some found)

theorem judged (r : Reading) (s : Survey) : r.Judged s (r.verdict s) := by
  unfold verdict
  extract_lets early
  split
  · rename_i reason refused
    exact ⟨fun h => by simp at h, refusal_own refused, fun h => by simp at h⟩
  · split
    · split
      · exact ⟨fun h => by simp at h, by decide, fun h => by simp at h⟩
      · exact ⟨fun h => by simp at h, by decide, fun h => by simp at h⟩
    · rename_i stable
      by_cases authorised : validVisual (r.visual s.card) = true ∧
          (r.body s.card).fingerprint ≠ none ∧ ParkedGuard.valid (r.fullGuard s) = true
      · rw [if_pos authorised]
        exact ⟨fun _ => authorised, by decide, fun h => by simp at h⟩
      · rw [if_neg authorised]
        split
        · exact ⟨fun h => by simp at h, by decide, fun h => by simp at h⟩
        · split
          · exact ⟨fun h => by simp at h, by decide, fun h => by simp at h⟩
          · -- the guard is valid, so only the visual proof can be missing
            rename_i guarded
            refine ⟨fun h => by simp at h, by decide, fun _ => ?_⟩
            by_contra complete
            have complete : validVisual (r.visual s.card) = true := by simpa using complete
            have fingerprint := fingerprint_of_complete s.card complete
            exact authorised ⟨complete, fingerprint, by simpa using guarded⟩

end Reading

structure Carries (evaluated row : Row) : Prop where
  clip : row.clip = evaluated.clip
  visual : row.visual = evaluated.visual
  guard : row.guard = evaluated.guard
  verdict : (own row).Qualifies → evaluated.decision = own row
  unpaired : row.reason ≠ .peerAnalysisPending
  complete : own row = .skip →
    validVisual row.visual = true ∧ ParkedGuard.valid row.guard = true

theorem own_evaluateItem (s : Survey) (r : Reading) :
    own (evaluateItem s r) = (evaluateItem s r).decision := by
  have judged := r.judged s
  have first : (evaluateItem s r).reason ≠ .peerCoverageRequired := judged.own.1
  have second : (evaluateItem s r).reason ≠ .peerAnalysisPending := judged.own.2
  unfold own
  rw [if_neg (fun h => first h.2), if_neg (fun h => second h.2), if_neg]
  rintro ⟨deferred, pending, complete, -⟩
  have incomplete : validVisual (r.visual s.card) = false :=
    judged.pending (Prod.ext deferred pending)
  have complete : validVisual (r.visual s.card) = true := complete
  rw [incomplete] at complete
  exact absurd complete Bool.false_ne_true

theorem carries_evaluateItem (s : Survey) (r : Reading) :
    Carries (evaluateItem s r) (evaluateItem s r) where
  clip := rfl
  visual := rfl
  guard := rfl
  verdict _ := (own_evaluateItem s r).symm
  unpaired := (r.judged s).own.2
  complete authorised := by
    rw [own_evaluateItem] at authorised
    obtain ⟨complete, -, guarded⟩ := (r.judged s).skip authorised
    refine ⟨complete, ?_⟩
    have whole : (evaluateItem s r).guard = r.fullGuard s := if_pos authorised
    rw [whole]
    exact guarded

theorem carries_upload {evaluated row : Row} (carries : Carries evaluated row) (reason : Reason)
    (first : reason ≠ .peerCoverageRequired) (second : reason ≠ .peerAnalysisPending) :
    Carries evaluated
      { row with decision := .upload, reason := reason, deferUntil := none } := by
  have uploads : own { row with decision := .upload, reason := reason, deferUntil := none } =
      .upload := by simp [own, first, second]
  refine ⟨carries.clip, carries.visual, carries.guard, ?_, second, ?_⟩
  · intro qualifies
    rw [uploads] at qualifies
    exact absurd qualifies (by decide)
  · intro authorised
    rw [uploads] at authorised
    exact absurd authorised (by decide)

theorem carries_recheck (items : List PolicyClip) (unchanged : MovementClip → Bool)
    (evaluated rows : List Row) (carries : List.Forall₂ Carries evaluated rows) :
    List.Forall₂ Carries evaluated (recheckQuietIdentities items unchanged rows) := by
  rw [recheckQuietIdentities, List.forall₂_map_right_iff]
  refine carries.imp fun v row kept => ?_
  have dropped := carries_upload kept .unstableOrUnreadable (by decide) (by decide)
  split_ifs
  · split
    · split_ifs
      · exact kept
      · exact dropped
    · exact dropped
  · exact kept

theorem carries_evaluate (s : Survey) (readings : List Reading) :
    List.Forall₂ Carries (evaluate s readings) (evaluate s readings) := by
  induction readings with
  | nil => exact .nil
  | cons r rest ih => exact .cons (carries_evaluateItem s r) ih

/-- What it takes for the gate to authorise: the clip's own verdict, the whole interval seen by
skip-qualified rows of the other camera, and no unqualified row over the interval. -/
structure Paired (others : List Peer) (original : Peer) (start stop : ℤ) : Prop where
  own : original.own = .skip
  bounds : original.clip.bounds = some (start, stop)
  covered : ∀ x, start ≤ x → x ≤ stop → ∃ peer ∈ others,
    peer.own = .skip ∧ peer.clip.cameraKey ≠ original.clip.cameraKey ∧
      ∃ span, peer.clip.bounds = some span ∧ span.1 ≤ x ∧ x ≤ span.2
  clear : ∀ other ∈ others, other.overlaps start stop = true → other.own.Qualifies

theorem bounds_lt {clip : Body} {start stop : ℤ} (bounds : clip.bounds = some (start, stop)) :
    start < stop := by
  unfold Body.bounds at bounds
  split at bounds
  · split at bounds
    · rename_i ordered
      cases bounds
      exact ordered
    · cases bounds
  · cases bounds

theorem mem_oppositeViews {others : List Peer} {clip : Body} {start stop : ℤ} {peer : Peer} :
    peer ∈ oppositeViews others clip start stop ↔
      peer ∈ others ∧ peer.clip.cameraKey ≠ clip.cameraKey ∧ peer.overlaps start stop = true := by
  simp only [oppositeViews, List.mem_filter, decide_eq_true_eq, and_assoc]

theorem mem_spans {peers : List Peer} {span : ℤ × ℤ} :
    span ∈ spans peers ↔ ∃ peer ∈ peers, peer.clip.bounds = some span := by
  simp [spans, List.mem_insertionSort]

theorem covered_of_continuous {others : List Peer} {clip : Body} {start stop : ℤ}
    (ordered : start < stop)
    (continuous : (Intervals.sweep start (spans (oppositeViews others clip start stop))).any
      (fun through => stop ≤ through) = true) (x : ℤ) (after : start ≤ x) (before : x ≤ stop) :
    ∃ peer ∈ oppositeViews others clip start stop,
      ∃ span, peer.clip.bounds = some span ∧ span.1 ≤ x ∧ x ≤ span.2 := by
  have ends_after : ∀ span ∈ spans (oppositeViews others clip start stop), start < span.2 := by
    intro span member
    obtain ⟨peer, among, bounds⟩ := mem_spans.mp member
    have overlap := (mem_oppositeViews.mp among).2.2
    rw [Peer.overlaps, bounds] at overlap
    have overlap : span.1 < stop ∧ start < span.2 := by simpa using overlap
    exact overlap.2
  obtain ⟨span, member, inside⟩ :=
    Intervals.covered_of_reaches _ start stop ordered ends_after continuous x after before
  obtain ⟨peer, among, bounds⟩ := mem_spans.mp member
  exact ⟨peer, among, span, bounds, inside⟩

theorem dispose_keep_iff (now : ℤ) (others : List Peer) (original : Peer) :
    dispose now others original = .keep ↔ ¬ original.own.Qualifies := by
  unfold dispose
  split
  · simp_all
  · rename_i qualifies
    simp only [qualifies, iff_false]
    split
    · simp
    · split_ifs <;> simp

theorem paired_of_dispose {now : ℤ} {others : List Peer} {original : Peer}
    (skipped : dispose now others original = .skip) :
    ∃ start stop, Paired others original start stop := by
  unfold dispose at skipped
  split at skipped
  · cases skipped
  · rename_i qualifies
    split at skipped
    · cases skipped
    · rename_i start stop bounds
      extract_lets unknown unsafeSameView peers continuous at skipped
      split at skipped
      · cases skipped
      · rename_i complete_pair
        split at skipped
        · split at skipped <;> cases skipped
        · rename_i undeferred
          simp only [not_or, not_not, Bool.not_eq_false] at complete_pair undeferred
          obtain ⟨-, view, -, -, swept, qualified⟩ := complete_pair
          obtain ⟨mine, none_deferred⟩ := undeferred
          refine ⟨start, stop, ?_, bounds, ?_, ?_⟩
          · rcases not_not.mp qualifies with skip | deferred
            · exact skip
            · exact absurd deferred mine
          · intro x after before
            obtain ⟨peer, member, inside⟩ :=
              covered_of_continuous (bounds_lt bounds) swept x after before
            obtain ⟨among, opposite, -⟩ := mem_oppositeViews.mp member
            refine ⟨peer, among, ?_, opposite, inside⟩
            rcases qualified peer member with skip | deferred
            · exact skip
            · exact absurd ⟨peer, member, deferred⟩ none_deferred
          · intro other among overlap
            by_contra unqualified
            by_cases same : other.clip.cameraKey = original.clip.cameraKey
            · have found : unsafeSameView = true :=
                List.any_eq_true.mpr ⟨other, among, by simp [same, overlap, unqualified]⟩
              exact absurd found view
            · exact unqualified (qualified other (mem_oppositeViews.mpr ⟨among, same, overlap⟩))

theorem own_of_skip {row : Row} (skipped : row.decision = .skip) : own row = .skip := by
  simp [own, skipped]

theorem deferred_of_own {row : Row} (deferred : own row = .defer)
    (unpaired : row.reason ≠ .peerAnalysisPending) :
    row.decision = .defer ∧ ¬ (row.reason = .analysisPending ∧ validVisual row.visual = true ∧
      ParkedGuard.valid row.guard = true) := by
  unfold own at deferred
  split_ifs at deferred with first second third
  · exact absurd second.2 unpaired
  · exact ⟨deferred, fun proofs => third ⟨deferred, proofs⟩⟩

theorem own_disposed {evaluated row : Row} (carries : Carries evaluated row)
    (disposition : Disposition) (kept : disposition = .keep ∨ (own row).Qualifies)
    (skipped : disposition = .skip → own row = .skip) :
    own (row.disposed disposition) = own row := by
  cases disposition with
  | keep => rfl
  | skip =>
    rw [skipped rfl]
    exact own_of_skip rfl
  | retain =>
    rcases kept.resolve_left (by simp) with skip | deferred
    · simp only [Row.disposed, skip, if_true]
      simp [own]
    · simp only [Row.disposed, deferred]
      simp [own]
  | defer deadline =>
    rcases kept.resolve_left (by simp) with skip | deferred
    · have complete := carries.complete skip
      simp only [Row.disposed, skip, if_true]
      simp [own, complete.1, complete.2]
    · -- the verdict was `defer` for its own reason, which the gate leaves in place
      obtain ⟨-, plain⟩ := deferred_of_own deferred carries.unpaired
      have reason : (row.disposed (.defer deadline)).reason = row.reason := by
        simp [Row.disposed, deferred, carries.unpaired]
      rw [deferred, own, if_neg (fun h => by simp [Row.disposed] at h),
        if_neg (fun h => by simp [Row.disposed] at h), if_neg]
      · rfl
      · rw [reason]
        exact fun gated => plain gated.2

theorem dispose_qualifies (now : ℤ) (others : List Peer) (row : Row) :
    dispose now others row.peer = .keep ∨ (own row).Qualifies := by
  by_cases qualifies : (own row).Qualifies
  · exact .inr qualifies
  · exact .inl ((dispose_keep_iff now others row.peer).mpr qualifies)

theorem own_of_dispose_skip {now : ℤ} {others : List Peer} {row : Row}
    (skipped : dispose now others row.peer = .skip) : own row = .skip := by
  obtain ⟨start, stop, paired⟩ := paired_of_dispose skipped
  exact paired.own

theorem peer_disposed {evaluated row : Row} (carries : Carries evaluated row) (now : ℤ)
    (others : List Peer) :
    (row.disposed (dispose now others row.peer)).peer = row.peer := by
  have same := own_disposed carries (dispose now others row.peer)
    (dispose_qualifies now others row) own_of_dispose_skip
  have clip (disposition : Disposition) : (row.disposed disposition).clip = row.clip := by
    cases disposition <;> rfl
  rw [Row.peer, same, clip, Row.peer]

theorem disposed_disposed {evaluated row : Row} (carries : Carries evaluated row)
    (disposition : Disposition) (kept : disposition = .keep ∨ (own row).Qualifies)
    (skipped : disposition = .skip → own row = .skip) :
    (row.disposed disposition).disposed disposition = row.disposed disposition := by
  have same := own_disposed carries disposition kept skipped
  cases disposition with
  | keep => rfl
  | skip => rfl
  | retain =>
    conv_lhs => rw [Row.disposed]
    simp only [same]
    rfl
  | defer deadline =>
    conv_lhs => rw [Row.disposed]
    simp only [same]
    by_cases skip : own row = .skip
    · simp [Row.disposed, skip]
    · simp [Row.disposed, skip, carries.unpaired]

theorem getElem?_applyPairGate (rows : List Row) (now : ℤ) (i : ℕ) :
    (applyPairGate rows now)[i]? = rows[i]?.map fun row =>
      row.disposed (dispose now ((rows.eraseIdx i).map Row.peer) row.peer) := by
  rw [applyPairGate, List.getElem?_mapIdx]

theorem carries_at {evaluated rows : List Row} (carries : List.Forall₂ Carries evaluated rows)
    {i : ℕ} {row : Row} (found : rows[i]? = some row) :
    ∃ v, evaluated[i]? = some v ∧ Carries v row := by
  induction carries generalizing i with
  | nil => simp at found
  | cons kept _ ih =>
    cases i with
    | zero =>
      cases found
      exact ⟨_, rfl, kept⟩
    | succ i => exact ih found

theorem peers_applyPairGate {evaluated rows : List Row}
    (carries : List.Forall₂ Carries evaluated rows) (now : ℤ) :
    (applyPairGate rows now).map Row.peer = rows.map Row.peer := by
  apply List.ext_getElem?
  intro i
  rw [List.getElem?_map, getElem?_applyPairGate, List.getElem?_map]
  cases found : rows[i]? with
  | none => rfl
  | some row =>
    obtain ⟨v, -, kept⟩ := carries_at carries found
    exact congrArg some (peer_disposed kept now _)

theorem applyPairGate_idempotent {evaluated rows : List Row}
    (carries : List.Forall₂ Carries evaluated rows) (now : ℤ) :
    applyPairGate (applyPairGate rows now) now = applyPairGate rows now := by
  apply List.ext_getElem?
  intro i
  have peers : ((applyPairGate rows now).eraseIdx i).map Row.peer =
      (rows.eraseIdx i).map Row.peer := by
    rw [← List.eraseIdx_map, peers_applyPairGate carries, List.eraseIdx_map]
  rw [getElem?_applyPairGate, peers, getElem?_applyPairGate, Option.map_map]
  cases found : rows[i]? with
  | none => rfl
  | some row =>
    obtain ⟨v, -, kept⟩ := carries_at carries found
    simp only [Option.map_some, Function.comp_apply, peer_disposed kept]
    exact congrArg some (disposed_disposed kept _ (dispose_qualifies _ _ _) own_of_dispose_skip)

theorem writeReport_eq (active : Bool) (clock : ℕ → ℤ) (encoding : Encoding) (truncated : Bool)
    (tick : ℕ) (retained : List Row) :
    ∃ tick' kept, writeReport active clock encoding truncated tick retained =
      gatedRows active (clock tick') (retained.take kept) := by
  induction truncated, tick, retained using writeReport.induct active clock encoding with
  | case1 truncated tick retained rows large kept ih =>
    obtain ⟨tick', kept', published⟩ := ih
    refine ⟨tick', min kept' kept, ?_⟩
    rw [writeReport, dif_pos large, published, List.take_take]
  | case2 truncated tick retained rows small =>
    refine ⟨tick, retained.length, ?_⟩
    rw [writeReport, dif_neg small, List.take_length]

theorem carries_take {evaluated rows : List Row} (carries : List.Forall₂ Carries evaluated rows)
    (kept : ℕ) (active : Bool) :
    List.Forall₂ Carries (evaluated.take kept)
      (if active then rows.take kept else (rows.take kept).map Row.disabled) := by
  have taken := List.forall₂_take kept carries
  cases active with
  | true => exact taken
  | false =>
    rw [if_neg Bool.false_ne_true, List.forall₂_map_right_iff]
    exact taken.imp fun v row carried =>
      carries_upload carried .policyDisabled (by decide) (by decide)

namespace Report

/-- The published row `i` is left out of the backup with every proof there is. -/
structure Authorised (report : Report) (i : ℕ) (row : Row) : Prop where
  own : ∃ reading : Reading, report.readings[i]? = some reading ∧
    (evaluateItem report.survey reading).decision = .skip ∧
    row.visual = reading.visual report.survey.card ∧ validVisual row.visual = true ∧
    row.clip.fingerprint ≠ none ∧
    row.guard = reading.fullGuard report.survey ∧ ParkedGuard.valid row.guard = true
  paired : ∃ start stop, row.clip.bounds = some (start, stop) ∧ start < stop ∧
    (∀ x, start ≤ x → x ≤ stop → ∃ (j : ℕ) (peer v : Row), report.rows[j]? = some peer ∧
      report.evaluated[j]? = some v ∧ v.decision = .skip ∧
      peer.clip.cameraKey ≠ row.clip.cameraKey ∧
      ∃ span : ℤ × ℤ, peer.clip.bounds = some span ∧ span.1 ≤ x ∧ x ≤ span.2) ∧
    ∀ (j : ℕ) (other : Row), j ≠ i → report.rows[j]? = some other →
      other.peer.overlaps start stop = true →
      ∃ v : Row, report.evaluated[j]? = some v ∧ v.decision.Qualifies

structure Gated (report : Report) : Prop where
  authorised : ∀ (i : ℕ) (row : Row), report.rows[i]? = some row → row.decision = .skip →
    report.Authorised i row
  idempotent : ∃ tick, applyPairGate report.rows (report.clock tick) = report.rows
  never_raised : ∀ (now : ℤ) (i : ℕ) (row v : Row),
    (applyPairGate report.rows now)[i]? = some row → report.evaluated[i]? = some v →
    row.decision = .skip → v.decision = .skip

end Report

theorem dispose_of_skip {row : Row} {now : ℤ} {others : List Peer}
    (skipped : (row.disposed (dispose now others row.peer)).decision = .skip) :
    dispose now others row.peer = .skip := by
  cases disposition : dispose now others row.peer with
  | skip => rfl
  | keep =>
    have unqualified := (dispose_keep_iff now others row.peer).mp disposition
    rw [disposition] at skipped
    exact absurd (.inl (own_of_skip skipped)) unqualified
  | retain => simp [disposition, Row.disposed] at skipped
  | defer deadline => simp [disposition, Row.disposed] at skipped

section
variable {evaluated rows : List Row} (carries : List.Forall₂ Carries evaluated rows) (now : ℤ)
include carries

theorem applyPairGate_at {i : ℕ} {row : Row} (found : (applyPairGate rows now)[i]? = some row) :
    ∃ base v, rows[i]? = some base ∧ evaluated[i]? = some v ∧ Carries v base ∧
      row = base.disposed (dispose now ((rows.eraseIdx i).map Row.peer) base.peer) := by
  rw [getElem?_applyPairGate] at found
  obtain ⟨base, located, rfl⟩ := Option.map_eq_some_iff.mp found
  obtain ⟨v, judged, kept⟩ := carries_at carries located
  exact ⟨base, v, located, judged, kept, rfl⟩

theorem peer_at {j : ℕ} {peer : Peer} (found : (rows.map Row.peer)[j]? = some peer) :
    ∃ row v, (applyPairGate rows now)[j]? = some row ∧ row.peer = peer ∧
      evaluated[j]? = some v ∧ (peer.own.Qualifies → v.decision = peer.own) := by
  rw [← peers_applyPairGate carries now, List.getElem?_map] at found
  obtain ⟨row, located, rfl⟩ := Option.map_eq_some_iff.mp found
  obtain ⟨base, v, -, judged, kept, rfl⟩ := applyPairGate_at carries now located
  refine ⟨_, v, located, rfl, judged, ?_⟩
  rw [peer_disposed kept]
  exact kept.verdict

end

theorem paired_rows {evaluated rows : List Row} (carries : List.Forall₂ Carries evaluated rows)
    (now : ℤ) {i : ℕ} {base : Row} {start stop : ℤ}
    (paired : Paired ((rows.eraseIdx i).map Row.peer) base.peer start stop) :
    (∀ x, start ≤ x → x ≤ stop → ∃ (j : ℕ) (peer v : Row),
      (applyPairGate rows now)[j]? = some peer ∧ evaluated[j]? = some v ∧ v.decision = .skip ∧
      peer.clip.cameraKey ≠ base.clip.cameraKey ∧
      ∃ span : ℤ × ℤ, peer.clip.bounds = some span ∧ span.1 ≤ x ∧ x ≤ span.2) ∧
    ∀ (j : ℕ) (other : Row), j ≠ i → (applyPairGate rows now)[j]? = some other →
      other.peer.overlaps start stop = true →
      ∃ v : Row, evaluated[j]? = some v ∧ v.decision.Qualifies := by
  constructor
  · intro x after before
    obtain ⟨peer, member, skips, opposite, inside⟩ := paired.covered x after before
    rw [← List.eraseIdx_map, List.mem_eraseIdx_iff_getElem?] at member
    obtain ⟨j, -, found⟩ := member
    obtain ⟨row, v, located, rfl, judged, verdict⟩ := peer_at carries now found
    exact ⟨j, row, v, located, judged, (verdict (.inl skips)).trans skips, opposite, inside⟩
  · intro j other apart located overlap
    have found : (rows.map Row.peer)[j]? = some other.peer := by
      rw [← peers_applyPairGate carries now, List.getElem?_map, located]
      rfl
    have member : other.peer ∈ (rows.eraseIdx i).map Row.peer := by
      rw [← List.eraseIdx_map, List.mem_eraseIdx_iff_getElem?]
      exact ⟨j, apart, found⟩
    obtain ⟨-, v, -, -, judged, verdict⟩ := peer_at carries now found
    have qualifies := paired.clear other.peer member overlap
    exact ⟨v, judged, verdict qualifies ▸ qualifies⟩

-- What an evaluation of `skip` has checked, still in the row.
theorem own_evidence {s : Survey} {r : Reading} {row : Row} (carried : Carries (evaluateItem s r) row)
    (judged : (evaluateItem s r).decision = .skip) :
    row.visual = r.visual s.card ∧ validVisual row.visual = true ∧ row.clip.fingerprint ≠ none ∧
      row.guard = r.fullGuard s ∧ ParkedGuard.valid row.guard = true := by
  obtain ⟨complete, fingerprint, guarded⟩ := (r.judged s).skip judged
  have visual : row.visual = r.visual s.card := carried.visual
  have clip : row.clip = r.body s.card := carried.clip
  have guard : row.guard = r.fullGuard s := carried.guard.trans (if_pos judged)
  rw [visual, clip, guard]
  exact ⟨rfl, complete, fingerprint, rfl, guarded⟩

theorem clip_disposed (row : Row) (disposition : Disposition) :
    (row.disposed disposition).clip = row.clip := by
  cases disposition <;> rfl

theorem getElem?_of_take {A : Type} {xs : List A} {kept i : ℕ} {x : A}
    (found : (xs.take kept)[i]? = some x) : xs[i]? = some x := by
  rw [List.getElem?_take] at found
  split at found
  · exact found
  · cases found

theorem gated_of_carries (survey : Survey) (readings : List Reading) (rows : List Row)
    (carries : List.Forall₂ Carries (evaluate survey readings) rows) (active : Bool)
    (clock : ℕ → ℤ) (encoding : Encoding) (truncated : Bool) :
    ({ survey := survey, readings := readings, clock := clock
       rows := writeReport active clock encoding truncated 0 rows } : Report).Gated := by
  obtain ⟨tick, kept, published⟩ := writeReport_eq active clock encoding truncated 0 rows
  have carried := carries_take carries kept active
  rw [published, gatedRows]
  generalize (if active then rows.take kept else (rows.take kept).map Row.disabled) = bases
    at carried
  refine ⟨?_, ⟨tick, applyPairGate_idempotent carried _⟩, ?_⟩
  · intro i row located skipped
    obtain ⟨base, v, -, judged, keeps, rfl⟩ := applyPairGate_at carried _ located
    obtain ⟨start, stop, paired⟩ := paired_of_dispose (dispose_of_skip skipped)
    have own : own base = .skip := paired.own
    have verdict : v.decision = .skip := (keeps.verdict (.inl own)).trans own
    have judged := getElem?_of_take judged
    rw [evaluate, List.getElem?_map] at judged
    obtain ⟨reading, read, rfl⟩ := Option.map_eq_some_iff.mp judged
    obtain ⟨visual, complete, fingerprint, guard, guarded⟩ := own_evidence keeps verdict
    obtain ⟨covered, clear⟩ := paired_rows carried (clock tick) paired
    have skips := dispose_of_skip skipped
    refine ⟨⟨reading, read, verdict, ?_⟩, start, stop, ?_, bounds_lt paired.bounds, ?_, ?_⟩
    · rw [skips]
      exact ⟨visual, complete, fingerprint, guard, guarded⟩
    · rw [clip_disposed]
      exact paired.bounds
    · intro x after before
      obtain ⟨j, peer, v, seen, judged, rest⟩ := covered x after before
      rw [clip_disposed]
      exact ⟨j, peer, v, seen, getElem?_of_take judged, rest⟩
    · intro j other apart seen overlap
      obtain ⟨v, judged, qualifies⟩ := clear j other apart seen overlap
      exact ⟨v, getElem?_of_take judged, qualifies⟩
  · intro now i row v located judged skipped
    rw [getElem?_applyPairGate] at located
    obtain ⟨gated, seen, rfl⟩ := Option.map_eq_some_iff.mp located
    have skips : own gated = .skip := own_of_dispose_skip (dispose_of_skip skipped)
    obtain ⟨base, v', -, judged', keeps, rfl⟩ := applyPairGate_at carried _ seen
    have peer := peer_disposed keeps (clock tick) ((bases.eraseIdx i).map Row.peer)
    have own : own base = .skip := (congrArg Peer.own peer).symm.trans skips
    have again : some v = some v' := judged.symm.trans (getElem?_of_take judged')
    cases again
    exact (keeps.verdict (.inl own)).trans own

/-- In every report that is published, an exclusion has its own verdict and the whole opposite
view; gating the report again changes nothing. -/
theorem publish_gated (p : Publication) : ∀ report ∈ publish p, report.Gated := by
  have first := carries_recheck (p.readings.map Reading.item) p.unchanged _ _
    (carries_evaluate p.survey p.readings)
  intro report member
  cases again : p.again with
  | none =>
    rw [publish, again] at member
    rcases List.mem_pair.mp member with rfl | rfl
    · exact gated_of_carries _ _ _ first _ _ _ _
    · have second := carries_recheck (p.readings.map Reading.item) p.unchangedLater _ _ first
      exact gated_of_carries _ _ _ second _ _ _ _
  | some later =>
    obtain ⟨survey, readings⟩ := later
    rw [publish, again] at member
    rcases List.mem_pair.mp member with rfl | rfl
    · exact gated_of_carries _ _ _ first _ _ _ _
    · have second := carries_recheck (p.readings.map Reading.item) p.unchangedLater _ _
        (carries_evaluate survey readings)
      exact gated_of_carries _ _ _ second _ _ _ _

def parkedJournal : Journal where
  between lower upper :=
    ((List.range 60).map fun i =>
      { wallMs := 7000 * i, elapsedMs := 7000 * i, sessionId := "s", segmentId := "g", kind := .acc
        acc := some false, speed := none, accuracy := none, ageMs := none
        horizontalAccuracy := none, timezone := "UTC" }).filter fun v =>
      lower - 7500 ≤ v.wallMs ∧ v.wallMs ≤ upper + 7500
  evidenceHealthy _ _ := true

def parkedVisual : VisualProof :=
  { emptyVisual .quiet "" with
    reason := none, inputEos := true, decoderEos := true
    firstPtsUs := some 0, lastPtsUs := some 60000000
    inputFrames := 1500, decodedFrames := 1500, sampledFrames := 1500
    durationMs := 60000, coveredMs := 60000, maxGapMs := 40
    minMeanLuma := 100, maxMeanLuma := 120, minContrastSpan := 40 }

def parkedClip (path camera : String) : PolicyClip where
  clip := { relativePath := path, size := 1000, mtime := 260000, locked := false, orphan := false }
  body :=
    { relativePath := path, cameraKey := camera
      fingerprint := some ⟨String.ofList (List.replicate 64 'a'), by decide⟩
      localStart := some 200000000000, startUtc := none, endUtc := none, durationMs := none
      bounded := false, classification := .unknown, reasons := [], complete := false }
  stable := true
  freshFingerprint := true
  startMs := some 200000
  boundEndMs := some 260000
  fingerprinted _ := by simp

def parkedReading (path camera : String) : Reading where
  item := parkedClip path camera
  cache := Cache.empty.record (parkedClip path camera) "card" parkedVisual rfl
  retryPending := false
  assess _ _ := (.accOffCandidate, [])
  past := parkedJournal
  full := parkedJournal

def parkedNight : Publication where
  survey :=
    { active := true, card := some "card", now := 400000, observedThrough := some 400000
      timezone := "UTC" }
  readings :=
    [ parkedReading "DCIM/Video/20260101000320_camera_0.ts" "camera_0",
      parkedReading "DCIM/Video/20260101000320_camera_1.ts" "camera_1" ]
  again := none
  sameItems _ _ h := by cases h
  unchanged _ := true
  unchangedLater _ := true
  active := true
  activeLater := true
  clock _ := 400000
  clockLater _ := 400000
  encoding := { report := fun _ _ => 0, row := fun _ => 0 }
  encodingLater := { report := fun _ _ => 0, row := fun _ => 0 }
  truncated := false

theorem publish_gated_parkedNight :
    ∃ report ∈ publish parkedNight, report.rows.map Row.decision = [.skip, .skip] ∧
      report.Gated := by
  have both : (gatedRows true 400000 (recheckQuietIdentities
      (parkedNight.readings.map Reading.item) parkedNight.unchanged
      (evaluate parkedNight.survey parkedNight.readings))).map Row.decision = [.skip, .skip] := by
    decide +kernel
  refine ⟨_, List.mem_cons_self, ?_, publish_gated parkedNight _ List.mem_cons_self⟩
  rw [writeReport, dif_neg (by simp [parkedNight, movementReportMaxBytes])]
  exact both

end DashcamStats.Clips
