import DashcamStats.Parked.Filter

namespace DashcamStats.Parked

open DashcamStats.Clips (quietMotionMetric quietRoiProfile)

variable {doc : PolicyDocument} {remote : List RemoteFile} {source : String}

theorem mem_matchedProofs {accept : Decision → Bool} {d : Decision} :
    d ∈ matchedProofs doc remote source accept ↔
      d ∈ doc.decisions ∧ accept d = true ∧ listed remote source d = true := by
  simp [matchedProofs]

theorem same_of_path {d e : Decision} (first : d ∈ doc.decisions) (second : e ∈ doc.decisions)
    (path : d.clip.relativePath = e.clip.relativePath) : d = e :=
  List.inj_on_of_nodup_map doc.paths first second path

theorem same_of_clipId {d e : Decision} (first : d ∈ doc.decisions) (second : e ∈ doc.decisions)
    (identity : d.clip.clipId = e.clip.clipId) : d = e :=
  List.inj_on_of_nodup_map doc.identities first second identity

theorem accepted_of_path {accept : Decision → Bool} {entry : Decision}
    (member : entry ∈ doc.decisions)
    (path : entry.clip.relativePath ∈
      (matchedProofs doc remote source accept).map fun e => e.clip.relativePath) :
    accept entry = true ∧ listed remote source entry = true := by
  obtain ⟨e, matched, same⟩ := List.mem_map.mp path
  obtain ⟨among, accepted⟩ := mem_matchedProofs.mp matched
  rw [same_of_path member among same.symm]
  exact accepted

theorem listed_iff {d : Decision} : listed remote source d = true ↔
    ∃ item, live remote source d.clip.relativePath = some item ∧
      (item.size : ℤ) = d.clip.sizeBytes ∧ item.mtime = d.clip.mtimeMs / 1000 := by
  simp [listed, Option.any_eq_true]

theorem live_spec {path : String} {item : RemoteFile}
    (found : live remote source path = some item) :
    item ∈ remote ∧ relativePath item source = some path := by
  have member := List.mem_of_find?_eq_some found
  have keyed := List.find?_some found
  exact ⟨List.mem_reverse.mp member, of_decide_eq_true keyed⟩

theorem pairedLoop_eq_some_iff {paths : List String} {matched out : List Decision} :
    pairedLoop doc remote source paths matched = some out ↔
      (∀ d ∈ matched, (paired doc remote source paths d).isSome) ∧
        out = matched.filter fun d => paired doc remote source paths d = some true := by
  induction matched generalizing out with
  | nil =>
    rw [pairedLoop, Option.some.injEq, List.filter_nil]
    exact ⟨fun same => ⟨fun _ member => absurd member List.not_mem_nil, same.symm⟩, fun all => all.2.symm⟩
  | cons d rest ih =>
    rw [List.forall_mem_cons]
    cases first : paired doc remote source paths d with
    | none => simp [pairedLoop, first]
    | some append =>
      rw [pairedLoop, first]
      cases later : pairedLoop doc remote source paths rest with
      | none =>
        have never : ¬ ∀ d ∈ rest, (paired doc remote source paths d).isSome := by
          intro all
          have some_rest := ih.mpr ⟨all, rfl⟩
          rw [later] at some_rest
          cases some_rest
        exact iff_of_false (by simp) fun all => never all.1.2
      | some others =>
        obtain ⟨all, rfl⟩ := ih.mp later
        have kept : (d :: rest).filter (fun d => paired doc remote source paths d = some true) =
            if append then d :: rest.filter fun d => paired doc remote source paths d = some true
            else rest.filter fun d => paired doc remote source paths d = some true := by
          cases append <;> simp [first]
        rw [kept, Option.some.injEq]
        exact ⟨fun same => ⟨⟨rfl, all⟩, same.symm⟩, fun both => both.2.symm⟩

structure Surrounded (doc : PolicyDocument) (paths : List String) (d : Decision) (start stop : ℤ) :
    Prop where
  bounds : d.clip.bounds = some (start, stop)
  witnessed : ∀ entry ∈ doc.decisions, entry.clip.relativePath ≠ d.clip.relativePath →
    entry.clip.overlaps start stop = true → entry.clip.relativePath ∈ paths
  covered : covers (overlappingPeers doc d.clip start stop) start stop = true

theorem mem_overlappingPeers {clip : Clip} {start stop : ℤ} {entry : Decision} :
    entry ∈ overlappingPeers doc clip start stop ↔
      entry ∈ doc.decisions ∧ entry.clip.relativePath ≠ clip.relativePath ∧
        entry.clip.overlaps start stop = true ∧ entry.clip.cameraKey ≠ clip.cameraKey := by
  simp only [overlappingPeers, overlappingEntries, List.mem_filter, decide_eq_true_eq, and_assoc]

theorem surrounded_iff {paths : List String} {clip : Clip} {start stop : ℤ} :
    surrounded doc paths clip start stop = true ↔
      (∀ entry ∈ doc.decisions, entry.clip.relativePath ≠ clip.relativePath →
        entry.clip.overlaps start stop = true → entry.clip.relativePath ∈ paths) ∧
        covers (overlappingPeers doc clip start stop) start stop = true := by
  simp only [surrounded, Bool.and_eq_true, Bool.not_eq_true', List.any_eq_false,
    decide_eq_true_eq]
  constructor
  · rintro ⟨⟨sure, opposite⟩, covered⟩
    refine ⟨fun entry member apart overlap => ?_, covered⟩
    by_contra doubtful
    by_cases lens : entry.clip.cameraKey = clip.cameraKey
    · exact sure entry member ⟨apart, lens, doubtful, overlap⟩
    · exact opposite entry (mem_overlappingPeers.mpr ⟨member, apart, overlap, lens⟩) doubtful
  · rintro ⟨witnessed, covered⟩
    refine ⟨⟨?_, ?_⟩, covered⟩
    · rintro entry member ⟨apart, -, doubtful, overlap⟩
      exact doubtful (witnessed entry member apart overlap)
    · intro peer member doubtful
      obtain ⟨among, apart, overlap, -⟩ := mem_overlappingPeers.mp member
      exact doubtful (witnessed peer among apart overlap)

theorem paired_eq_true {paths : List String} {d : Decision}
    (kept : paired doc remote source paths d = some true) :
    ∃ start stop, d.clip.bounds = some (start, stop) ∧
      surrounded doc paths d.clip start stop = true := by
  unfold paired at kept
  split at kept
  · cases kept
  · rename_i start stop bounds
    obtain ⟨unknown, -, both⟩ := Option.map_eq_some_iff.mp kept
    exact ⟨start, stop, bounds, (Bool.and_eq_true_iff.mp both).2⟩

theorem paired_mono {paths paths' : List String} (more : ∀ path ∈ paths, path ∈ paths')
    {d : Decision} (kept : paired doc remote source paths d = some true) :
    paired doc remote source paths' d = some true := by
  unfold paired at kept ⊢
  split at kept
  · cases kept
  · rename_i start stop bounds
    obtain ⟨unknown, found, both⟩ := Option.map_eq_some_iff.mp kept
    obtain ⟨near, before⟩ := Bool.and_eq_true_iff.mp both
    obtain ⟨witnessed, covered⟩ := surrounded_iff.mp before
    have after : surrounded doc paths' d.clip start stop = true :=
      surrounded_iff.mpr ⟨fun entry member apart overlap =>
        more _ (witnessed entry member apart overlap), covered⟩
    rw [found, Option.map_some, near, after]
    rfl

theorem paired_isSome {paths paths' : List String} {d : Decision} :
    (paired doc remote source paths d).isSome = (paired doc remote source paths' d).isSome := by
  unfold paired
  split
  · rfl
  · rw [Option.isSome_map, Option.isSome_map]

section
variable {accept witnessAccept accept' witnessAccept' : Decision → Bool} {selected : List Decision}

theorem mem_pairedCandidates
    (done : pairedCandidates doc remote source accept witnessAccept = some selected)
    {d : Decision} : d ∈ selected ↔
      d ∈ matchedProofs doc remote source accept ∧
        paired doc remote source ((matchedProofs doc remote source witnessAccept).map
          fun e => e.clip.relativePath) d = some true := by
  obtain ⟨-, rfl⟩ := pairedLoop_eq_some_iff.mp done
  rw [List.mem_filter, decide_eq_true_eq]

theorem selected_spec
    (done : pairedCandidates doc remote source accept witnessAccept = some selected)
    {d : Decision} (member : d ∈ selected) :
    d ∈ doc.decisions ∧ accept d = true ∧ listed remote source d = true ∧
      ∃ start stop, d.clip.bounds = some (start, stop) ∧
        covers (overlappingPeers doc d.clip start stop) start stop = true ∧
        ∀ entry ∈ doc.decisions, entry.clip.relativePath ≠ d.clip.relativePath →
          entry.clip.overlaps start stop = true →
          witnessAccept entry = true ∧ listed remote source entry = true := by
  obtain ⟨matched, kept⟩ := (mem_pairedCandidates done).mp member
  obtain ⟨among, accepted, here⟩ := mem_matchedProofs.mp matched
  obtain ⟨start, stop, bounds, both⟩ := paired_eq_true kept
  obtain ⟨witnessed, covered⟩ := surrounded_iff.mp both
  exact ⟨among, accepted, here, start, stop, bounds, covered, fun entry inside apart overlap =>
    accepted_of_path inside (witnessed entry inside apart overlap)⟩

theorem matchedProofs_mono (weaker : ∀ d, accept d = true → accept' d = true) :
    ∀ d ∈ matchedProofs doc remote source accept,
      d ∈ matchedProofs doc remote source accept' := by
  intro d member
  obtain ⟨among, accepted, here⟩ := mem_matchedProofs.mp member
  exact mem_matchedProofs.mpr ⟨among, weaker d accepted, here⟩

theorem pairedCandidates_mono (weaker : ∀ d, accept d = true → accept' d = true)
    (weaker_witness : ∀ d, witnessAccept d = true → witnessAccept' d = true)
    {selected' : List Decision}
    (done : pairedCandidates doc remote source accept witnessAccept = some selected)
    (done' : pairedCandidates doc remote source accept' witnessAccept' = some selected') :
    ∀ d ∈ selected, d ∈ selected' := by
  intro d member
  obtain ⟨matched, kept⟩ := (mem_pairedCandidates done).mp member
  refine (mem_pairedCandidates done').mpr ⟨matchedProofs_mono weaker d matched, ?_⟩
  refine paired_mono (fun path found => ?_) kept
  obtain ⟨e, among, rfl⟩ := List.mem_map.mp found
  exact List.mem_map.mpr ⟨e, matchedProofs_mono weaker_witness e among, rfl⟩

theorem pairedCandidates_isSome (weaker : ∀ d, accept d = true → accept' d = true)
    (done' : (pairedCandidates doc remote source accept' witnessAccept').isSome) :
    (pairedCandidates doc remote source accept witnessAccept).isSome := by
  obtain ⟨selected', done'⟩ := Option.isSome_iff_exists.mp done'
  have all := (pairedLoop_eq_some_iff.mp done').1
  refine Option.isSome_iff_exists.mpr ⟨_, pairedLoop_eq_some_iff.mpr ⟨fun d member => ?_, rfl⟩⟩
  exact paired_isSome.trans (all d (matchedProofs_mono weaker d member))

end

def Confirms (asked : List Decision) (lines : List ReplyLine) (d : Decision) : Prop :=
  ∃ index digest, ReplyLine.hashed index digest ∈ lines ∧ asked[index]? = some d ∧
    d.clip.fingerprint = some digest

theorem mem_verifiedBy {asked : List Decision} {lines : List ReplyLine} {ids : List String}
    (read : verifiedBy asked lines = some ids) {id : String} :
    id ∈ ids ↔ ∃ d, Confirms asked lines d ∧ d.clip.clipId = id := by
  induction lines generalizing ids with
  | nil =>
    cases read
    exact iff_of_false List.not_mem_nil (by rintro ⟨d, ⟨_, _, line, -⟩, -⟩; cases line)
  | cons line rest ih =>
    -- a line that confirms nothing leaves the set to the rest of the reply
    have skip (useless : ∀ index digest d, line = .hashed index digest →
        asked[index]? = some d → d.clip.fingerprint ≠ some digest) (d : Decision) :
        Confirms asked (line :: rest) d ↔ Confirms asked rest d := by
      constructor
      · rintro ⟨index, digest, found, asked_for, known⟩
        rcases List.mem_cons.mp found with same | later
        · exact absurd known (useless index digest d same.symm asked_for)
        · exact ⟨index, digest, later, asked_for, known⟩
      · rintro ⟨index, digest, found, others⟩
        exact ⟨index, digest, List.mem_cons_of_mem _ found, others⟩
    cases line with
    | other =>
      simp only [skip (by simp)]
      exact ih read
    | hashed index digest =>
      rw [verifiedBy] at read
      cases entry : asked[index]? with
      | none =>
        rw [entry] at read
        simp only [skip (by rintro _ _ d ⟨⟩ found; rw [entry] at found; cases found)]
        exact ih read
      | some e =>
        cases known : e.clip.fingerprint with
        | none => simp [entry, known] at read
        | some fingerprint =>
          cases later : verifiedBy asked rest with
          | none => simp [entry, known, later] at read
          | some others =>
            have tail := ih later
            by_cases same : digest = fingerprint
            · have ids_eq : e.clip.clipId :: others = ids := by
                simpa [entry, known, later, same] using read
              rw [← ids_eq, List.mem_cons, tail]
              constructor
              · rintro (rfl | ⟨d, ⟨i, text, found, rest⟩, named⟩)
                · exact ⟨e, ⟨index, digest, List.mem_cons_self, entry, same ▸ known⟩, rfl⟩
                · exact ⟨d, ⟨i, text, List.mem_cons_of_mem _ found, rest⟩, named⟩
              · rintro ⟨d, ⟨i, text, found, asked_for, hash⟩, named⟩
                rcases List.mem_cons.mp found with here | after
                · cases here
                  rw [entry] at asked_for
                  cases asked_for
                  exact .inl named.symm
                · exact .inr ⟨d, ⟨i, text, after, asked_for, hash⟩, named⟩
            · have ids_eq : others = ids := by
                simpa [entry, known, later, same] using read
              rw [← ids_eq, tail]
              simp only [skip (by
                rintro _ _ d ⟨⟩ found hash
                rw [entry] at found
                cases found
                rw [known] at hash
                cases hash
                exact same rfl)]

theorem verifiedBy_isSome {asked : List Decision} (lines : List ReplyLine)
    (known : ∀ d ∈ asked, d.clip.fingerprint ≠ none) : (verifiedBy asked lines).isSome := by
  induction lines with
  | nil => rfl
  | cons line rest ih =>
    obtain ⟨others, later⟩ := Option.isSome_iff_exists.mp ih
    cases line with
    | other => exact ih
    | hashed index digest =>
      cases entry : asked[index]? with
      | none => simpa [verifiedBy, entry] using ih
      | some e =>
        obtain ⟨fingerprint, found⟩ :=
          Option.ne_none_iff_exists'.mp (known e (List.mem_of_getElem? entry))
        simp [verifiedBy, entry, found, later]

theorem Confirms.mono {asked : List Decision} {lines lines' : List ReplyLine} {fewer more : ℕ}
    {d : Decision} (confirmed : Confirms (asked.take fewer) lines d) (less : fewer ≤ more)
    (kept : ∀ line ∈ lines, line ∈ lines') : Confirms (asked.take more) lines' d := by
  obtain ⟨index, digest, found, asked_for, known⟩ := confirmed
  rw [List.getElem?_take] at asked_for
  split at asked_for
  · rename_i inside
    exact ⟨index, digest, kept _ found, by rw [List.getElem?_take, if_pos (by omega), asked_for],
      known⟩
  · cases asked_for

theorem eligibleQuiet_spec {zones : Zones} {witness : Bool} {d : Decision}
    (eligible : eligibleQuiet zones witness d = true) :
    d.clip.fingerprint ≠ none ∧ (witness = false → d.decision = .skip) ∧
      ∃ start stop, d.clip.bounds = some (start, stop) ∧ start < stop := by
  unfold eligibleQuiet at eligible
  extract_lets clip guard visual allowed at eligible
  split at eligible
  · rename_i start stop first last completed duration starts ends _ _ _ _
    simp only [Bool.and_eq_true, decide_eq_true_eq] at eligible
    obtain ⟨⟨⟨⟨valid, checks⟩, -⟩, -⟩, -⟩ := eligible
    have starts : d.clip.startUtc = some start := starts
    have ends : d.clip.endUtc = some stop := ends
    have bounds : d.clip.bounds = some (start, stop) := by rw [Clip.bounds, starts, ends]
    refine ⟨checks.2.2.2.1, ?_, start, stop, bounds, ?_⟩
    · rintro rfl
      rcases checks.1 with skip | retained
      · exact skip.1
      · exact absurd retained.1 Bool.false_ne_true
    · have clips : validClip d.clip = true := by
        unfold validDecision at valid
        simp only [Bool.and_eq_true] at valid
        tauto
      unfold validClip at clips
      simp only [starts, ends, Bool.and_eq_true, decide_eq_true_eq] at clips
      have ordered : 0 < stop - start := by tauto
      omega
  · cases eligible

theorem eligibleDefer_spec {zones : Zones} {now : ℤ} {remaining : Option ℚ} {d : Decision}
    (eligible : eligibleDefer zones now remaining d = true) : d.decision = .defer := by
  unfold eligibleDefer at eligible
  extract_lets clip guard visual at eligible
  split at eligible
  · simp only [Bool.and_eq_true, decide_eq_true_eq] at eligible
    tauto
  · cases eligible

theorem covered_of_covers {clip : Clip} {start stop : ℤ} (ordered : start < stop)
    (covered : covers (overlappingPeers doc clip start stop) start stop = true) (x : ℤ)
    (after : start ≤ x) (before : x ≤ stop) :
    ∃ peer ∈ overlappingPeers doc clip start stop,
      ∃ span, peer.clip.bounds = some span ∧ span.1 ≤ x ∧ x ≤ span.2 := by
  have spans {span : ℤ × ℤ} (member : span ∈
      ((overlappingPeers doc clip start stop).filterMap fun peer => peer.clip.bounds).insertionSort
        fun a b => a.1 < b.1 ∨ (a.1 = b.1 ∧ a.2 ≤ b.2)) :
      ∃ peer ∈ overlappingPeers doc clip start stop, peer.clip.bounds = some span := by
    simpa [List.mem_insertionSort] using member
  obtain ⟨span, member, inside⟩ := Intervals.covered_of_reaches _ start stop ordered
    (fun span member => by
      obtain ⟨peer, among, bounds⟩ := spans member
      have overlap := (mem_overlappingPeers.mp among).2.2.1
      rw [Clip.overlaps, bounds] at overlap
      have overlap : span.1 < stop ∧ start < span.2 := by simpa using overlap
      exact overlap.2) covered x after before
  obtain ⟨peer, among, bounds⟩ := spans member
  exact ⟨peer, among, span, bounds, inside⟩

namespace Call

variable {c : Call}

theorem survey_selected (some_selected : c.survey.selected ≠ []) :
    ∃ doc deferred, pairedCandidates doc c.remote c.source (eligibleSkip c.zones)
        (quietWitness c.zones) = some c.survey.selected ∧
      c.survey = { doc := some doc, selected := c.survey.selected, deferred := deferred
                   state := .ready, checking := [] } := by
  generalize made : c.survey = first at some_selected
  unfold survey at made
  repeat' split at made
  any_goals
    subst made
    exact absurd rfl some_selected
  rename_i doc _ _ _ _ _ _ _ selected deferred selects defers
  subst made
  unfold firstSelected at selects
  split at selects
  · exact ⟨doc, deferred, selects, rfl⟩
  · cases selects
    exact absurd rfl some_selected

def Verified (c : Call) (d : Decision) : Prop :=
  ∃ lines, c.reply = some lines ∧ Confirms c.plan.checking lines d

structure Selects (c : Call) (doc : PolicyDocument) (first : List Decision)
    (deferred : List Decision) (verified : List String) (selected : List Decision) : Prop where
  first_pass : pairedCandidates doc c.remote c.source (eligibleSkip c.zones)
    (quietWitness c.zones) = some first
  survey : c.survey = { doc := some doc, selected := first, deferred := deferred, state := .ready
                        checking := [] }
  answered : verifyFingerprints c.reply (c.checking doc first) = some verified
  confirmed : c.confirm doc verified = some selected
  plan : c.plan = { doc := some doc, selected := selected, deferred := deferred, state := .ready
                    checking := c.checking doc first }

theorem plan_selected (some_selected : c.plan.selected ≠ []) :
    c.interrupted = false ∧ ∃ doc first deferred verified,
      first ≠ [] ∧ c.Selects doc first deferred verified c.plan.selected := by
  have some_first : c.survey.selected ≠ [] := by
    intro nothing
    apply some_selected
    unfold plan
    extract_lets first
    cases read : first.doc with
    | none => exact nothing
    | some doc =>
      cases stopped : c.interrupted with
      | true => rfl
      | false =>
        simp only [Bool.false_eq_true, if_false, if_pos nothing, first]
        exact nothing
  obtain ⟨doc, deferred, first_pass, surveyed⟩ := survey_selected some_first
  generalize made : c.plan = p at some_selected
  have planned := made
  unfold plan at made
  have doc_eq : c.survey.doc = some doc := by rw [surveyed]
  simp only [doc_eq, if_neg some_first] at made
  split at made
  · subst made
    exact absurd rfl some_selected
  · rename_i ran
    split at made
    · subst made
      exact absurd rfl some_selected
    · rename_i selected confirmed
      obtain ⟨verified, answered, confirmed⟩ := Option.bind_eq_some_iff.mp confirmed
      have plan_eq : p = { doc := some doc, selected := selected, deferred := deferred
                           state := .ready, checking := c.checking doc c.survey.selected } := by
        rw [← made, surveyed]
      refine ⟨by simpa using ran, doc, c.survey.selected, deferred, verified, some_first,
        first_pass, surveyed, answered, ?_, ?_⟩
      · rw [plan_eq]
        exact confirmed
      · rw [planned, plan_eq]

theorem plan_of_steps {doc : PolicyDocument} {first deferred selected : List Decision}
    {verified : List String} (ran : c.interrupted = false) (some_first : first ≠ [])
    (surveyed : c.survey = { doc := some doc, selected := first, deferred := deferred
                             state := .ready, checking := [] })
    (answered : verifyFingerprints c.reply (c.checking doc first) = some verified)
    (confirmed : c.confirm doc verified = some selected) :
    c.plan = { doc := some doc, selected := selected, deferred := deferred, state := .ready
               checking := c.checking doc first } := by
  unfold plan
  simp only [surveyed, ran, Bool.false_eq_true, if_false, if_neg some_first, answered,
    Option.bind_some, confirmed]

theorem mem_checking {doc : PolicyDocument} {first : List Decision} {d : Decision}
    (asked : d ∈ c.checking doc first) : d ∈ requiredQuietProofs doc first :=
  List.mem_of_mem_take asked

theorem verified_iff {doc : PolicyDocument} {first : List Decision} {verified : List String}
    (answered : verifyFingerprints c.reply (c.checking doc first) = some verified) {d : Decision}
    (among : d ∈ doc.decisions) : d.clip.clipId ∈ verified ↔
      ∃ lines, c.reply = some lines ∧ Confirms (c.checking doc first) lines d := by
  unfold verifyFingerprints at answered
  split at answered
  · rename_i nothing
    cases answered
    refine iff_of_false List.not_mem_nil ?_
    rintro ⟨lines, -, index, digest, -, asked, -⟩
    simp [nothing] at asked
  · obtain ⟨lines, replied, read⟩ := Option.bind_eq_some_iff.mp answered
    rw [mem_verifiedBy read]
    constructor
    · rintro ⟨e, confirms, named⟩
      obtain ⟨index, digest, line, asked, known⟩ := confirms
      have inside : e ∈ doc.decisions :=
        List.mem_of_mem_filter (mem_checking (List.mem_of_getElem? asked))
      rw [same_of_clipId among inside named.symm]
      exact ⟨lines, replied, index, digest, line, asked, known⟩
    · rintro ⟨lines', replied', confirms⟩
      rw [replied] at replied'
      cases replied'
      exact ⟨d, confirms, rfl⟩

theorem required_fingerprint {doc : PolicyDocument} {first : List Decision}
    (first_pass : pairedCandidates doc c.remote c.source (eligibleSkip c.zones)
      (quietWitness c.zones) = some first) {d : Decision}
    (required : d ∈ requiredQuietProofs doc first) : d.clip.fingerprint ≠ none := by
  obtain ⟨among, path⟩ := List.mem_filter.mp required
  rcases List.mem_append.mp (of_decide_eq_true path) with own | around
  · obtain ⟨e, member, same⟩ := List.mem_map.mp own
    obtain ⟨inside, eligible, -⟩ := selected_spec first_pass member
    rw [same_of_path among inside same.symm]
    exact (eligibleQuiet_spec eligible).1
  · obtain ⟨e, member, near⟩ := List.mem_flatMap.mp around
    obtain ⟨-, -, -, start, stop, bounds, -, witnessed⟩ := selected_spec first_pass member
    simp only [bounds] at near
    obtain ⟨peer, overlapping, same⟩ := List.mem_map.mp near
    obtain ⟨inside, both⟩ := List.mem_filter.mp overlapping
    obtain ⟨apart, overlap⟩ := of_decide_eq_true both
    rw [same_of_path among inside same.symm]
    exact (eligibleQuiet_spec (witnessed peer inside apart overlap).1).1

theorem listed_files (selected : List Decision)
    (each : ∀ d ∈ selected, listed remote source d = true) :
    ∃ items : List RemoteFile,
      (items.map fun item => relativePath item source) =
        selected.map (fun d => some d.clip.relativePath) ∧
      (items.map fun item => (item.size : ℤ)) = selected.map (fun d => d.clip.sizeBytes) ∧
      ∀ item ∈ items, item ∈ remote := by
  induction selected with
  | nil => exact ⟨[], rfl, rfl, fun _ member => absurd member List.not_mem_nil⟩
  | cons d rest ih =>
    obtain ⟨items, paths, sizes, inside⟩ := ih fun e member => each e (List.mem_cons_of_mem _ member)
    obtain ⟨item, found, size, -⟩ := listed_iff.mp (each d List.mem_cons_self)
    obtain ⟨member, path⟩ := live_spec found
    exact ⟨item :: items, by rw [List.map_cons, List.map_cons, path, paths],
      by rw [List.map_cons, List.map_cons, size, sizes], List.forall_mem_cons.mpr ⟨member, inside⟩⟩

theorem audited {doc : PolicyDocument} {selected : List Decision}
    {accept witnessAccept : Decision → Bool}
    (done : pairedCandidates doc c.remote c.source accept witnessAccept = some selected) :
    selected.length ≤ 512 ∧ (selected.map auditIdentity).Nodup ∧
      selected.length ≤ c.remote.length ∧
      (selected.map fun d => d.clip.sizeBytes).sum ≤
        (c.remote.map fun item => (item.size : ℤ)).sum := by
  have sub : selected.Sublist doc.decisions := by
    obtain ⟨-, rfl⟩ := pairedLoop_eq_some_iff.mp done
    exact List.filter_sublist.trans List.filter_sublist
  have paths : (selected.map fun d => d.clip.relativePath).Nodup := (sub.map _).nodup doc.paths
  obtain ⟨items, same_paths, sizes, inside⟩ := listed_files selected fun d member =>
    (selected_spec done member).2.2.1
  have distinct : items.Nodup := by
    apply List.Nodup.of_map fun item => relativePath item c.source
    rw [same_paths]
    have injected := paths.map (Option.some_injective _)
    rwa [List.map_map] at injected
  obtain ⟨kept, perm, among⟩ := distinct.subperm inside
  have count : items.length = selected.length := by
    simpa using congrArg List.length same_paths
  refine ⟨sub.length_le.trans doc.bounded, ?_, ?_, ?_⟩
  · apply List.Nodup.of_map fun identity : String × String × ℤ × ℤ × Option String => identity.2.1
    rw [List.map_map]
    exact paths
  · rw [← count, ← perm.length_eq]
    exact among.length_le
  · rw [← sizes, ← (perm.map _).sum_eq]
    refine (among.map _).sum_le_sum fun size member => ?_
    obtain ⟨item, -, rfl⟩ := List.mem_map.mp member
    exact Int.natCast_nonneg _

theorem recordEvaluation_iff {p : Plan} {doc : PolicyDocument} {accept witnessAccept : Decision → Bool}
    (doc_eq : p.doc = some doc)
    (done : pairedCandidates doc c.remote c.source accept witnessAccept = some p.selected)
    (eligible : ∀ d ∈ p.selected, eligibleSkip c.zones d = true) :
    c.recordEvaluation p = true ↔ (c.revalidates = true ∧ c.commits = true) ∧
      (p.selected = [] ∨ p.state = .ready ∧ c.enabled = true ∧ doc.enabled = true ∧
        doc.status = .ready ∧ doc.truncated = false ∧
        fresh c.auditNow doc.generatedAtUtc 180 = true) := by
  obtain ⟨few, identities, count, bytes⟩ := audited done
  have present : ∀ d ∈ p.selected, d ∈ doc.decisions ∧ eligibleSkip c.zones d = true :=
    fun d member => ⟨(selected_spec done member).1, eligible d member⟩
  simp only [recordEvaluation, doc_eq, Option.any_some, Bool.and_eq_true, decide_eq_true_eq,
    List.all_eq_true, few, identities, count, bytes, and_true, true_and]
  constructor
  · rintro ⟨outcome, current, -⟩
    exact ⟨outcome, current⟩
  · rintro ⟨outcome, current⟩
    exact ⟨outcome, current, present⟩

def shortened (c : Call) (budget : ℤ) (reply : Option (List ReplyLine)) : Call :=
  { c with fingerprintBudget := budget, reply := reply }

def Loses (reply lost : Option (List ReplyLine)) : Prop :=
  ∀ lines' ∈ lost, ∃ lines ∈ reply, ∀ line ∈ lines', line ∈ lines

section
variable {budget : ℤ} {reply : Option (List ReplyLine)}
  (less : budget ≤ c.fingerprintBudget) (loses : Loses c.reply reply)
include less loses

theorem shortened_verified {doc : PolicyDocument} {first : List Decision}
    {verified verified' : List String} {lines' : List ReplyLine}
    (answered : verifyFingerprints c.reply (c.checking doc first) = some verified)
    (replied : reply = some lines')
    (answered' : verifyFingerprints reply ((c.shortened budget reply).checking doc first) =
      some verified') : ∀ id ∈ verified', id ∈ verified := by
  intro id confirmed
  unfold verifyFingerprints at answered answered'
  split at answered'
  · cases answered'
    exact absurd confirmed List.not_mem_nil
  · rename_i some_asked
    rw [replied, Option.bind_some] at answered'
    obtain ⟨d, confirms, named⟩ := (mem_verifiedBy answered').mp confirmed
    obtain ⟨lines, kept, among⟩ := loses lines' replied
    have confirms : Confirms (c.checking doc first) lines d :=
      confirms.mono (by
        have wider : min maxFingerprintChecks budget ≤ min maxFingerprintChecks c.fingerprintBudget :=
          min_le_min_left _ less
        exact Int.toNat_le_toNat (max_le_max_left 0 wider)) among
    split at answered
    · rename_i nothing
      obtain ⟨index, digest, -, asked, -⟩ := confirms
      simp [nothing] at asked
    · rw [Option.mem_def.mp kept, Option.bind_some] at answered
      exact (mem_verifiedBy answered).mpr ⟨d, confirms, named⟩

theorem shortened_selected (some_selected : (c.shortened budget reply).plan.selected ≠ []) :
    (∀ d ∈ (c.shortened budget reply).plan.selected, d ∈ c.plan.selected) ∧
      c.plan.doc = (c.shortened budget reply).plan.doc ∧
      c.plan.deferred = (c.shortened budget reply).plan.deferred ∧
      c.plan.state = (c.shortened budget reply).plan.state := by
  obtain ⟨ran, doc, first, deferred, verified', some_first, selects⟩ :=
    plan_selected some_selected
  have first_pass : pairedCandidates doc c.remote c.source (eligibleSkip c.zones)
      (quietWitness c.zones) = some first := selects.first_pass
  have surveyed : c.survey = { doc := some doc, selected := first, deferred := deferred
                               state := .ready, checking := [] } := selects.survey
  obtain ⟨d, member⟩ := List.exists_mem_of_ne_nil _ some_selected
  obtain ⟨among, accepted, -⟩ := selected_spec selects.confirmed member
  obtain ⟨-, named⟩ := Bool.and_eq_true_iff.mp accepted
  obtain ⟨lines', replied, -⟩ := (verified_iff selects.answered among).mp (of_decide_eq_true named)
  have replied : reply = some lines' := replied
  obtain ⟨lines, kept, -⟩ := loses lines' replied
  -- the longer call asks for witnesses only, and its reply arrives
  obtain ⟨verified, answered⟩ : ∃ verified,
      verifyFingerprints c.reply (c.checking doc first) = some verified := by
    unfold verifyFingerprints
    split
    · exact ⟨[], rfl⟩
    · rw [Option.mem_def.mp kept, Option.bind_some]
      exact Option.isSome_iff_exists.mp (verifiedBy_isSome lines fun e asked =>
        required_fingerprint first_pass (mem_checking asked))
  have more := shortened_verified less loses answered replied selects.answered
  obtain ⟨selected, confirmed⟩ : ∃ selected, c.confirm doc verified = some selected :=
    Option.isSome_iff_exists.mp (pairedCandidates_isSome
      (fun e accepted => (Bool.and_eq_true_iff.mp accepted).1)
      (Option.isSome_iff_exists.mpr ⟨first, first_pass⟩))
  have plan := plan_of_steps (c := c) ran some_first surveyed answered confirmed
  have short := selects.plan
  refine ⟨fun e inside => ?_, by rw [plan, short], by rw [plan, short], by rw [plan, short]⟩
  rw [plan]
  refine pairedCandidates_mono (fun e accepted => ?_) (fun e accepted => ?_) selects.confirmed
    confirmed e inside
  all_goals
    obtain ⟨eligible, named⟩ := Bool.and_eq_true_iff.mp accepted
    exact Bool.and_eq_true_iff.mpr
      ⟨eligible, decide_eq_true (more _ (of_decide_eq_true named))⟩

end

structure Omitted (c : Call) (doc : PolicyDocument) (item : RemoteFile) (d : Decision) : Prop where
  decided : d ∈ doc.decisions ∧ relativePath item c.source = some d.clip.relativePath ∧
    eligibleSkip c.zones d = true ∧ (item.size : ℤ) = d.clip.sizeBytes ∧
    item.mtime = d.clip.mtimeMs / 1000 ∧ c.Verified d
  surrounded : ∃ start stop, d.clip.bounds = some (start, stop) ∧ start < stop ∧
    (∀ x, start ≤ x → x ≤ stop → ∃ witness ∈ doc.decisions,
      witness.clip.cameraKey ≠ d.clip.cameraKey ∧ listed c.remote c.source witness = true ∧
        quietWitness c.zones witness = true ∧ c.Verified witness ∧
        ∃ span : ℤ × ℤ, witness.clip.bounds = some span ∧ span.1 ≤ x ∧ x ≤ span.2) ∧
    ∀ entry ∈ doc.decisions, entry.clip.relativePath ≠ d.clip.relativePath →
      entry.clip.overlaps start stop = true →
      quietWitness c.zones entry = true ∧ c.Verified entry

theorem skipped_spec {result : FilterResult} (finished : filterInventory c = some result)
    {item : RemoteFile} (skipped : item ∈ result.skipped) :
    item ∈ c.remote ∧ c.recordEvaluation c.plan = true ∧
      ∃ d ∈ c.plan.selected, relativePath item c.source = some d.clip.relativePath := by
  unfold filterInventory at finished
  extract_lets p at finished
  split at finished
  · cases finished
    exact absurd skipped List.not_mem_nil
  · rename_i recorded
    obtain ⟨held, -, rfl⟩ := Option.map_eq_some_iff.mp finished
    obtain ⟨inside, chosen⟩ := List.mem_filter.mp skipped
    obtain ⟨d, member, path⟩ := List.any_eq_true.mp chosen
    exact ⟨inside, by simpa using recorded, d, member, (of_decide_eq_true path).symm⟩

theorem listed_item (distinct : (c.remote.map fun item => (item.parent c.source, item.name)).Nodup)
    {item : RemoteFile} {d : Decision} (inside : item ∈ c.remote)
    (path : relativePath item c.source = some d.clip.relativePath)
    (here : listed c.remote c.source d = true) :
    (item.size : ℤ) = d.clip.sizeBytes ∧ item.mtime = d.clip.mtimeMs / 1000 := by
  obtain ⟨other, found, same⟩ := listed_iff.mp here
  obtain ⟨among, keyed⟩ := live_spec found
  have names {one : RemoteFile} (at_path : relativePath one c.source = some d.clip.relativePath) :
      one.parent c.source = c.source ∧ "DCIM/Video/" ++ one.name = d.clip.relativePath := by
    unfold relativePath at at_path
    extract_lets directory path at at_path
    split_ifs at at_path with refused known
    exact ⟨by simpa using (not_or.mp refused).1, Option.some.inj at_path⟩
  have name : item.name = other.name := by
    have texts := (names path).2.trans (names keyed).2.symm
    exact String.append_right_inj _ |>.mp texts
  have one : item = other := List.inj_on_of_nodup_map distinct inside among
    (Prod.ext ((names path).1.trans (names keyed).1.symm) name)
  rw [one]
  exact same

theorem omitted (distinct : (c.remote.map fun item => (item.parent c.source, item.name)).Nodup)
    {result : FilterResult} (finished : filterInventory c = some result) {item : RemoteFile}
    (skipped : item ∈ result.skipped) :
    ∃ doc d, c.plan.doc = some doc ∧ d ∈ c.plan.selected ∧ c.Omitted doc item d := by
  obtain ⟨inside, -, d, member, path⟩ := skipped_spec finished skipped
  obtain ⟨-, doc, first, deferred, verified, -, selects⟩ :=
    plan_selected (List.ne_nil_of_mem member)
  have verified_of {e : Decision} (among : e ∈ doc.decisions)
      (named : decide (e.clip.clipId ∈ verified) = true) : c.Verified e := by
    obtain ⟨lines, replied, confirms⟩ :=
      (verified_iff selects.answered among).mp (of_decide_eq_true named)
    exact ⟨lines, replied, by rw [selects.plan]; exact confirms⟩
  obtain ⟨among, accepted, here, start, stop, bounds, covered, witnessed⟩ :=
    selected_spec selects.confirmed member
  obtain ⟨eligible, named⟩ := Bool.and_eq_true_iff.mp accepted
  obtain ⟨-, -, start', stop', bounds', ordered⟩ := eligibleQuiet_spec eligible
  have ordered : start < stop := by
    rw [bounds] at bounds'
    cases bounds'
    exact ordered
  obtain ⟨size, mtime⟩ := listed_item distinct inside path here
  refine ⟨doc, d, by rw [selects.plan], member,
    ⟨among, path, eligible, size, mtime, verified_of among named⟩, start, stop, bounds, ordered,
    ?_, ?_⟩
  · intro x after before
    obtain ⟨peer, overlapping, interval⟩ := covered_of_covers ordered covered x after before
    obtain ⟨inside, apart, overlap, opposite⟩ := mem_overlappingPeers.mp overlapping
    obtain ⟨both, listed⟩ := witnessed peer inside apart overlap
    obtain ⟨quiet, named⟩ := Bool.and_eq_true_iff.mp both
    exact ⟨peer, inside, opposite, listed, quiet, verified_of inside named, interval⟩
  · intro entry inside apart overlap
    obtain ⟨quiet, named⟩ := Bool.and_eq_true_iff.mp (witnessed entry inside apart overlap).1
    exact ⟨quiet, verified_of inside named⟩

theorem held_spec {p : Plan} {held : List Decision} (looked : c.heldDecisions p = some held)
    {d : Decision} (member : d ∈ held) :
    d.decision = .defer ∧ ∃ doc, p.doc = some doc ∧ d ∈ doc.decisions := by
  unfold heldDecisions at looked
  split at looked
  · cases looked
    exact absurd member List.not_mem_nil
  · rename_i doc logger found _ _
    extract_lets remaining at looked
    split at looked
    · obtain ⟨among, accepted, -⟩ := selected_spec looked member
      obtain ⟨-, eligible⟩ := Bool.and_eq_true_iff.mp accepted
      exact ⟨eligibleDefer_spec eligible, doc, found, among⟩
    · cases looked
      exact absurd member List.not_mem_nil
  · cases looked

theorem heldUntil_of_skipped {held : List Decision} (looked : c.heldDecisions c.plan = some held)
    {path : Option String} (chosen : c.plan.selected.any
      (fun d => some d.clip.relativePath = path) = true) : heldUntil held path = none := by
  obtain ⟨d, member, same⟩ := List.any_eq_true.mp chosen
  have same : some d.clip.relativePath = path := of_decide_eq_true same
  obtain ⟨-, doc, first, deferred, verified, -, selects⟩ :=
    plan_selected (List.ne_nil_of_mem member)
  obtain ⟨among, accepted, -⟩ := selected_spec selects.confirmed member
  obtain ⟨eligible, -⟩ := Bool.and_eq_true_iff.mp accepted
  have skips : d.decision = .skip := (eligibleQuiet_spec eligible).2.1 rfl
  have nothing : held.filter (fun e => some e.clip.relativePath = path) = [] := by
    rw [List.filter_eq_nil_iff]
    intro e kept named
    obtain ⟨defers, doc', found, inside⟩ := held_spec looked kept
    rw [selects.plan] at found
    cases found
    have one : d = e := same_of_path among inside
      (Option.some.inj (same.trans (of_decide_eq_true named).symm))
    rw [one, defers] at skips
    cases skips
  rw [heldUntil, nothing]
  rfl

end Call

section
variable {A B : Type}

theorem map_fst_filterMap (f : A → Option B) (xs : List A) :
    (xs.filterMap fun x => (f x).map fun t => (x, t)).map Prod.fst =
      xs.filter fun x => (f x).isSome := by
  induction xs with
  | nil => rfl
  | cons x rest ih => cases found : f x <;> simp [found, ih]

theorem split_three (skip : A → Bool) (held : A → Option B) (xs : List A)
    (apart : ∀ x, skip x = true → held x = none) :
    ((xs.filter fun x => skip x = false ∧ held x = none) ++
      (xs.filter fun x => (held x).isSome) ++ xs.filter skip).Perm xs := by
  induction xs with
  | nil => exact .refl _
  | cons x rest ih =>
    cases holds : held x with
    | some t =>
      have kept : skip x = false := by
        by_contra skipped
        have skipped : skip x = true := by simpa using skipped
        rw [apart x skipped] at holds
        cases holds
      simp only [List.filter_cons, kept, holds]
      simpa using (List.perm_middle.append_right _).trans (ih.cons x)
    | none =>
      cases skipped : skip x with
      | true =>
        simp only [List.filter_cons, skipped, holds]
        simpa using List.perm_middle.trans (ih.cons x)
      | false =>
        simp only [List.filter_cons, skipped, holds]
        simpa using ih

end

namespace Call

variable {c : Call}

theorem filterInventory_perm {result : FilterResult}
    (finished : filterInventory c = some result) :
    (result.files ++ result.deferred.map Prod.fst ++ result.skipped).Perm c.remote := by
  unfold filterInventory at finished
  extract_lets p at finished
  split at finished
  · cases finished
    simp
  · obtain ⟨held, looked, rfl⟩ := Option.map_eq_some_iff.mp finished
    rw [map_fst_filterMap]
    exact split_three _ _ c.remote fun item chosen => heldUntil_of_skipped looked chosen

theorem mem_skipped {result : FilterResult} (finished : filterInventory c = some result)
    (recorded : c.recordEvaluation c.plan = true) {item : RemoteFile} {d : Decision}
    (inside : item ∈ c.remote) (member : d ∈ c.plan.selected)
    (path : relativePath item c.source = some d.clip.relativePath) : item ∈ result.skipped := by
  unfold filterInventory at finished
  extract_lets p at finished
  rw [if_neg (by rw [recorded]; exact Bool.false_ne_true.symm)] at finished
  obtain ⟨held, -, rfl⟩ := Option.map_eq_some_iff.mp finished
  exact List.mem_filter.mpr ⟨inside, List.any_eq_true.mpr ⟨d, member, decide_eq_true path.symm⟩⟩

theorem recordEvaluation_plan (some_selected : c.plan.selected ≠ []) {doc : PolicyDocument}
    (doc_eq : c.plan.doc = some doc) :
    c.recordEvaluation c.plan = true ↔ (c.revalidates = true ∧ c.commits = true) ∧
      c.plan.state = .ready ∧ c.enabled = true ∧ doc.enabled = true ∧ doc.status = .ready ∧
        doc.truncated = false ∧ fresh c.auditNow doc.generatedAtUtc 180 = true := by
  obtain ⟨-, doc', first, deferred, verified, -, selects⟩ := plan_selected some_selected
  have same : c.plan.doc = some doc' := by rw [selects.plan]
  cases doc_eq.symm.trans same
  rw [recordEvaluation_iff doc_eq selects.confirmed fun e member =>
    (Bool.and_eq_true_iff.mp (selected_spec selects.confirmed member).2.1).1]
  rw [or_iff_right some_selected]

theorem shortened_skipped {budget : ℤ} {reply : Option (List ReplyLine)}
    (less : budget ≤ c.fingerprintBudget) (loses : Loses c.reply reply) {result result' : FilterResult}
    (finished : filterInventory c = some result)
    (finished' : filterInventory (c.shortened budget reply) = some result') :
    ∀ item ∈ result'.skipped, item ∈ result.skipped := by
  intro item skipped
  obtain ⟨inside, recorded, d, member, path⟩ := skipped_spec finished' skipped
  have some_short := List.ne_nil_of_mem member
  obtain ⟨more, doc_eq, -, state_eq⟩ := shortened_selected less loses some_short
  obtain ⟨-, doc, _, _, _, -, selects⟩ := plan_selected some_short
  have short_doc : (c.shortened budget reply).plan.doc = some doc := by rw [selects.plan]
  have current := (recordEvaluation_plan some_short short_doc).mp recorded
  have kept := more d member
  refine mem_skipped finished ?_ inside kept path
  rw [recordEvaluation_plan (List.ne_nil_of_mem kept) (doc_eq.trans short_doc), state_eq]
  exact current

end Call

/-- Whatever a call reads and whichever of its steps fail, it splits the inventory, it leaves out
only what is proved from both views and recorded, and a smaller budget or a shorter reply leaves
out no more. -/
theorem omission_safe (c : Call)
    (distinct : (c.remote.map fun item => (item.parent c.source, item.name)).Nodup)
    (result : FilterResult) (finished : filterInventory c = some result) :
    (result.files ++ result.deferred.map Prod.fst ++ result.skipped).Perm c.remote ∧
      (∀ item ∈ result.skipped, ∃ doc d, c.plan.doc = some doc ∧ c.Omitted doc item d) ∧
      (∀ item ∈ result.skipped, c.recordEvaluation c.plan = true ∧
        ∃ d ∈ c.plan.selected, relativePath item c.source = some d.clip.relativePath) ∧
      ∀ (budget : ℤ) (reply : Option (List ReplyLine)) (result' : FilterResult),
        budget ≤ c.fingerprintBudget → Call.Loses c.reply reply →
        filterInventory (c.shortened budget reply) = some result' →
        ∀ item ∈ result'.skipped, item ∈ result.skipped := by
  refine ⟨Call.filterInventory_perm finished, ?_, ?_, ?_⟩
  · intro item skipped
    obtain ⟨doc, d, doc_eq, -, proofs⟩ := Call.omitted distinct finished skipped
    exact ⟨doc, d, doc_eq, proofs⟩
  · intro item skipped
    exact (Call.skipped_spec finished skipped).2
  · intro budget reply result' less loses finished'
    exact Call.shortened_skipped less loses finished finished'

def newYear : ℤ := (strptime "20260101000000".toList).getD 0

def newYearDecision (camera : Char) : Decision where
  clip :=
    { clipId := "clip " ++ String.ofList [camera]
      relativePath := "DCIM/Video/20260101000000_camera_" ++ String.ofList [camera] ++ ".ts"
      cameraKey := "camera_" ++ String.ofList [camera], locked := false, sizeBytes := 1000
      mtimeMs := 61000, fingerprint := some (String.ofList (List.replicate 64 camera))
      localStart := newYear, timezone := "GMT+00:00", startUtc := some newYear
      endUtc := some (newYear + seconds 60), durationMs := some 60000, bounded := true
      classification := .accOffCandidate, reasons := [.accOffObserved, .reportOnly]
      complete := true
      coverage :=
        { windowMs := 60000, accMs := 60000, speedMs := 0, gpsMs := 0, unknownMs := 0
          maxGapMs := 7000 }
      evidence :=
        { accOnMs := 0, accOffMs := 60000, validSpeedSamples := 0, movingSamples := 0
          maxSpeedKmh := none, gpsSpeedSamples := 0, gpsMovingSamples := 0
          maxGpsSpeedMS := none } }
  decision := .skip
  reason := .parkedVisualQuiet
  guard :=
    { startUtc := some (newYear - seconds 120), endUtc := some (newYear + seconds 180)
      windowMs := 300000, accOffMs := 300000, unknownMs := 0, maxGapMs := 7000
      observationCount := 43, onSamples := 0, unknownSamples := 0, segmentCount := 1
      positiveSpeedSamples := 0 }
  visual :=
    { algorithmVersion := 2, status := .quiet, reason := none, inputFrames := 1500
      decodedFrames := 1500, sampledFrames := 1500, durationMs := 60000, coveredMs := 60000
      maxGapMs := 41, motionFrames := 0, analysisCompletedAtUtc := some (newYear + seconds 200)
      firstPtsUs := some 0, lastPtsUs := some 60000000, inputEos := true, decoderEos := true
      gridWidth := 160, gridHeight := 90, maxChangedPixels := 3
      motionMetric := quietMotionMetric, rollingFrames := 6, maxCoherentPixels := 2
      maxRollingCoherentPixels := 5, maxConsecutiveCoherentFrames := 0
      roiProfile := quietRoiProfile, roiRows := 86, minMeanLuma := 100, maxMeanLuma := 120
      maxDarkFraction := 0, maxBrightFraction := 0, minContrastSpan := 40 }
  deferUntilUtc := none

def newYearCall : Call where
  zones _ _ := none
  remote :=
    [ { name := "20260101000000_camera_0.ts", size := 1000, mtime := 61, directory := "" },
      { name := "20260101000000_camera_1.ts", size := 1000, mtime := 61, directory := "" } ]
  source := "/sdcard/DCIM/Video"
  logger := some
    { capable := true, updatedAtUtc := some (newYear + seconds 300), transferPolicyState := .ready
      movementReady := true, transferPolicyEnabled := true }
  enabled := true
  nativeRemaining := none
  fingerprintBudget := 64
  loggerNow := newYear + seconds 300
  policyNow := newYear + seconds 300
  deferNow := newYear + seconds 300
  auditNow := newYear + seconds 300
  holdNow := newYear + seconds 300
  terminalNow := newYear + seconds 300
  elapsed := 0
  policy := some (some
    { cardId := some "card", generatedAtUtc := newYear + seconds 250, enabled := true
      status := .ready, truncated := false
      decisions := [newYearDecision '0', newYearDecision '1'] })
  cardId := some "card"
  reply := some
    [ .hashed 0 (String.ofList (List.replicate 64 '0')),
      .hashed 1 (String.ofList (List.replicate 64 '1')) ]
  interrupted := false
  revalidates := true
  commits := true

theorem omission_safe_newYearCall :
    ∃ result, filterInventory newYearCall = some result ∧
      result.skipped = newYearCall.remote ∧
      ∀ item ∈ result.skipped, ∃ doc d, newYearCall.plan.doc = some doc ∧
        newYearCall.Omitted doc item d := by
  have both : (filterInventory newYearCall).map FilterResult.skipped = some newYearCall.remote := by
    decide +kernel
  obtain ⟨result, finished, skipped⟩ := Option.map_eq_some_iff.mp both
  exact ⟨result, finished, skipped, (omission_safe newYearCall (by decide) result finished).2.1⟩

end DashcamStats.Parked
