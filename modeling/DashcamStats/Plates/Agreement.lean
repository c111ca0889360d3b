import DashcamStats.Plates.Vote

namespace DashcamStats.Plates

def Separated (a b : ℚ) : Prop := MIN_FRAME_SEPARATION_S ≤ |a - b|

theorem Separated.symm {a b : ℚ} (apart : Separated a b) : Separated b a := by
  unfold Separated at apart ⊢
  rwa [abs_sub_comm]

namespace Rules

variable (rules : Rules)

structure Agrees (readings : List PlateReading) : Prop where
  separated : ∀ vote, rules.temporalVote readings = some vote →
    vote.supportingOffsets.Pairwise Separated
  moments : ∀ text group, (text, group) ∈ rules.groupsOf readings →
    ∃ moments : List ℚ, moments.Pairwise Separated ∧ group.length ≤ moments.length ∧
      ∀ moment ∈ moments, ∃ reading ∈ readings, reading.usable ∧
        (rules.normalise reading.rawText).normalised = text ∧ reading.offsetS = moment
  majority : ∀ vote, rules.temporalVote readings = some vote →
    ∀ text group, (text, group) ∈ rules.groupsOf readings → text ≠ vote.text →
      2 * group.length < vote.voteCount
  order : (readings.map PlateReading.ocrConfidence).Nodup →
    (readings.map PlateReading.offsetS).Nodup → ∀ others, readings.Perm others →
    (rules.temporalVote others).map (fun vote => (vote.text, vote.voteCount)) =
      (rules.temporalVote readings).map (fun vote => (vote.text, vote.voteCount))

def votersOf (readings : List PlateReading) (text : String) : List PlateReading :=
  readings.filter fun reading => decide (rules.ballot reading = some text)

def CalmTexts (readings : List PlateReading) : Prop :=
  ∀ text, Calm near PlateReading.ocrConfidence (rules.votersOf readings text)

variable {rules} {readings others : List PlateReading} {text : String}

theorem near_symm (a b : PlateReading) : near a b = near b a := by
  simp [near, abs_sub_comm]

theorem near_refl (a : PlateReading) : near a a = true := by
  simp [near, MIN_FRAME_SEPARATION_S]

theorem not_near {a b : PlateReading} : ¬ near a b ↔ Separated a.offsetS b.offsetS := by
  simp [near, Separated]

section Groups

variable {groups : List (String × List PlateReading)}

def groupIn : List (String × List PlateReading) → String → List PlateReading
  | [], _ => []
  | entry :: rest, text => if entry.1 = text then entry.2 else groupIn rest text

structure WellKept (groups : List (String × List PlateReading)) : Prop where
  texts : (groups.map Prod.fst).Nodup
  some_reading : ∀ entry ∈ groups, entry.2 ≠ []

theorem enter_texts (reading : PlateReading) :
    (enter groups text reading).map Prod.fst =
      if text ∈ groups.map Prod.fst then groups.map Prod.fst
      else groups.map Prod.fst ++ [text] := by
  induction groups with
  | nil => rfl
  | cons entry rest ih =>
    by_cases same : entry.1 = text
    · simp [enter, same]
    · simp only [enter, same, if_false, List.map_cons, ih, List.mem_cons, Ne.symm same, false_or]
      split <;> simp

theorem enter_group (reading : PlateReading) (other : String) :
    groupIn (enter groups text reading) other =
      if text = other then represent near PlateReading.ocrConfidence (groupIn groups other) reading
      else groupIn groups other := by
  induction groups with
  | nil =>
    by_cases same : text = other <;> simp [enter, groupIn, same]
  | cons entry rest ih =>
    by_cases here : entry.1 = text
    · by_cases same : text = other
      · simp [enter, groupIn, here, same]
      · simp [enter, groupIn, here, same]
    · by_cases there : entry.1 = other
      · have different : text ≠ other := fun same => here (there.trans same.symm)
        simp [enter, groupIn, there, different, different.symm]
      · simp [enter, groupIn, here, there, ih]

theorem WellKept.enter (kept : WellKept groups) (reading : PlateReading) :
    WellKept (enter groups text reading) := by
  constructor
  · rw [enter_texts]
    split
    · exact kept.texts
    · rename_i absent
      apply List.Nodup.append kept.texts (List.nodup_singleton _)
      intro other member same
      rw [List.mem_singleton.mp same] at member
      exact absent member
  · have := kept.some_reading
    clear kept
    induction groups with
    | nil =>
      intro entry member
      rw [List.mem_singleton.mp member]
      exact represent_ne_nil
    | cons entry rest ih =>
      intro other member
      unfold Rules.enter at member
      split at member
      · cases List.mem_cons.mp member with
        | inl here =>
          rw [here]
          exact represent_ne_nil
        | inr later => exact this other (by simp [later])
      · cases List.mem_cons.mp member with
        | inl here =>
          rw [here]
          exact this entry (by simp)
        | inr later => exact ih (fun entry within => this entry (by simp [within])) other later

theorem WellKept.mem_iff (kept : WellKept groups) {group : List PlateReading} :
    (text, group) ∈ groups ↔ group ≠ [] ∧ groupIn groups text = group := by
  induction groups with
  | nil =>
    simp only [List.not_mem_nil, groupIn, false_iff]
    rintro ⟨some_one, same⟩
    exact some_one same.symm
  | cons entry rest ih =>
    have texts := kept.texts
    rw [List.map_cons, List.nodup_cons] at texts
    have inner := ih ⟨texts.2, fun other within => kept.some_reading other (by simp [within])⟩
    rw [List.mem_cons, inner]
    by_cases here : entry.1 = text
    · have absent : (text, group) ∉ rest := by
        intro member
        apply texts.1
        rw [here]
        exact List.mem_map_of_mem member
      rw [← inner]
      simp only [groupIn, here, if_true, absent, or_false]
      constructor
      · intro same
        have some_one := kept.some_reading entry (by simp)
        rw [← same] at some_one ⊢
        exact ⟨some_one, rfl⟩
      · rintro ⟨_, same⟩
        rw [← same, ← here]
    · have different : (text, group) ≠ entry := fun same => here (by rw [← same])
      simp [groupIn, here, different]

end Groups

theorem groupsOf_append_singleton (reading : PlateReading) :
    rules.groupsOf (readings ++ [reading]) = rules.receive (rules.groupsOf readings) reading := by
  simp [groupsOf]

theorem votersOf_append_singleton (reading : PlateReading) :
    rules.votersOf (readings ++ [reading]) text =
      if rules.ballot reading = some text then rules.votersOf readings text ++ [reading]
      else rules.votersOf readings text := by
  unfold votersOf
  by_cases voted : rules.ballot reading = some text <;> simp [voted]

theorem groupsOf_spec (rules : Rules) (readings : List PlateReading) :
    WellKept (rules.groupsOf readings) ∧ ∀ text, groupIn (rules.groupsOf readings) text =
      representatives near PlateReading.ocrConfidence (rules.votersOf readings text) := by
  induction readings using List.reverseRecOn with
  | nil => exact ⟨⟨.nil, by simp [groupsOf]⟩, fun text => rfl⟩
  | append_singleton earlier reading ih =>
    obtain ⟨kept, grouped⟩ := ih
    rw [groupsOf_append_singleton, receive]
    cases voted : rules.ballot reading with
    | none =>
      refine ⟨kept, fun text => ?_⟩
      rw [votersOf_append_singleton, voted, grouped text]
      simp
    | some text =>
      refine ⟨kept.enter reading, fun other => ?_⟩
      rw [votersOf_append_singleton, voted, enter_group, grouped other]
      by_cases same : text = other
      · simp [same, representatives_append_singleton]
      · simp [same]

theorem mem_groupsOf {group : List PlateReading} :
    (text, group) ∈ rules.groupsOf readings ↔ group ≠ [] ∧
      representatives near PlateReading.ocrConfidence (rules.votersOf readings text) = group := by
  rw [(groupsOf_spec rules readings).1.mem_iff, (groupsOf_spec rules readings).2]

section Ranking

variable {entry : String × List PlateReading} {rest : List (String × List PlateReading)}
variable {group : List PlateReading}

variable (rules readings) in
theorem ranked_perm : (rules.ranked readings).Perm (rules.groupsOf readings) :=
  List.mergeSort_perm _ _

variable (rules) in
theorem ahead_trans (a b c : String × List PlateReading) (first : rules.ahead a b = true)
    (second : rules.ahead b c = true) : rules.ahead a c = true := by
  simp only [ahead, decide_eq_true_eq] at first second ⊢
  rcases first with first | ⟨same, first⟩
  · left
    omega
  · rcases second with second | ⟨same', second⟩
    · left
      omega
    · exact .inr ⟨by omega, le_trans second first⟩

theorem ahead_total (a b : String × List PlateReading) :
    (rules.ahead a b || rules.ahead b a) = true := by
  simp only [ahead, Bool.or_eq_true, decide_eq_true_eq]
  have := le_total (rules.weight a) (rules.weight b)
  rcases Nat.lt_trichotomy a.2.length b.2.length with less | same | more
  · exact .inr (.inl less)
  · cases this with
    | inl below => exact .inr (.inr ⟨same, below⟩)
    | inr above => exact .inl (.inr ⟨same.symm, above⟩)
  · exact .inl (.inl more)

-- Nobody behind has more supporters.
variable (rules readings) in
theorem ranked_pairwise :
    (rules.ranked readings).Pairwise fun a b => b.2.length ≤ a.2.length := by
  have sorted := List.pairwise_mergeSort (ahead_trans rules)
    ahead_total (rules.groupsOf readings)
  apply sorted.imp
  intro a b better
  simp only [ahead, decide_eq_true_eq] at better
  omega

theorem bestOf_nil (reading : PlateReading) : bestOf reading [] = reading := rfl

-- What makes a text's group the vote: more than twice any other, and not one weak reading.
structure Wins (rules : Rules) (readings : List PlateReading) (text : String)
    (group : List PlateReading) : Prop where
  member : (text, group) ∈ rules.groupsOf readings
  majority : ∀ other others, (other, others) ∈ rules.groupsOf readings → other ≠ text →
    2 * others.length < group.length
  strong : ∀ reading, group = [reading] → rules.strong reading

theorem wins_of_vote {vote : PlateVote} (voted : rules.temporalVote readings = some vote) :
    ∃ group, Wins rules readings vote.text group ∧ vote.voteCount = group.length ∧
      vote.supportingOffsets.Perm (group.map PlateReading.offsetS) := by
  have perm := ranked_perm rules readings
  have sorted := ranked_pairwise rules readings
  unfold temporalVote at voted
  split at voted
  · cases voted
  · cases voted
  · rename_i text first more rest shape
    dsimp only at voted
    split at voted
    · cases voted
    rename_i enough
    split at voted
    · cases voted
    rename_i clear
    rw [shape] at perm sorted
    rw [← Option.some.inj voted]
    refine ⟨first :: more, ⟨perm.mem_iff.mp (by simp), ?_, ?_⟩, rfl, List.mergeSort_perm _ _⟩
    · intro other others member different
      have behind : (other, others) ∈ rest := by
        cases List.mem_cons.mp (perm.mem_iff.mpr member) with
        | inl same => exact absurd (congrArg Prod.fst same) different
        | inr later => exact later
      cases rest with
      | nil => cases behind
      | cons second rest =>
        simp only [conflicting, decide_eq_true_eq, not_le] at clear
        rw [List.pairwise_cons, List.pairwise_cons] at sorted
        cases List.mem_cons.mp behind with
        | inl same => rwa [← same] at clear
        | inr later =>
          have behind : others.length ≤ second.2.length := sorted.2.1 _ later
          omega
    · intro reading single
      rw [single] at enough
      obtain ⟨rfl, rfl⟩ := List.cons.inj single
      simpa [bestOf_nil] using enough

theorem vote_of_wins (wins : Wins rules readings text group) :
    ∃ vote, rules.temporalVote readings = some vote ∧ vote.text = text ∧
      vote.voteCount = group.length ∧
      vote.supportingOffsets.Perm (group.map PlateReading.offsetS) := by
  have perm := ranked_perm rules readings
  have sorted := ranked_pairwise rules readings
  have kept := (groupsOf_spec rules readings).1
  have some_one := kept.some_reading _ wins.member
  cases shape : rules.ranked readings with
  | nil =>
    rw [shape] at perm
    have := perm.mem_iff.mpr wins.member
    cases this
  | cons head rest =>
    rw [shape] at perm sorted
    rw [List.pairwise_cons] at sorted
    have top : head = (text, group) := by
      cases List.mem_cons.mp (perm.mem_iff.mpr wins.member) with
      | inl same => exact same.symm
      | inr later =>
        -- the winner would stand behind a text that has less than half its supporters
        have inside : (head.1, head.2) ∈ rules.groupsOf readings := perm.mem_iff.mp (by simp)
        have different : head.1 ≠ text := by
          intro same
          have texts := (perm.map Prod.fst).nodup_iff.mpr kept.texts
          rw [List.map_cons, List.nodup_cons] at texts
          apply texts.1
          rw [same]
          exact List.mem_map_of_mem later
        have half := wins.majority _ _ inside different
        have behind := sorted.1 _ later
        simp only at behind
        omega
    obtain ⟨first, more, split⟩ := List.exists_cons_of_ne_nil some_one
    simp only at split
    rw [top, split] at shape
    have enough : ¬ ((first :: more).length = 1 && !rules.strong (bestOf first more)) := by
      simp only [Bool.and_eq_true, decide_eq_true_eq, not_and, Bool.not_eq_true',
        Bool.not_eq_false]
      intro single
      have none : more = [] := by simpa using single
      subst none
      exact wins.strong first split
    have clear : ¬ conflicting (first :: more) rest := by
      cases rest with
      | nil => simp [conflicting]
      | cons second rest =>
        have inside : (second.1, second.2) ∈ rules.groupsOf readings := perm.mem_iff.mp (by simp)
        have different : second.1 ≠ text := by
          intro same
          have texts := (perm.map Prod.fst).nodup_iff.mpr kept.texts
          rw [List.map_cons, List.nodup_cons, top, ← same] at texts
          exact texts.1 (by simp)
        have half := wins.majority _ _ inside different
        rw [split] at half
        simpa [conflicting] using half
    unfold temporalVote
    rw [shape]
    dsimp only
    rw [if_neg enough, if_neg clear]
    exact ⟨_, rfl, rfl, by rw [split], by rw [split]; exact List.mergeSort_perm _ _⟩

end Ranking

theorem CalmTexts.mono (calm : rules.CalmTexts readings) (within : others ⊆ readings) :
    rules.CalmTexts others := by
  intro text
  apply (calm text).mono
  intro reading member
  obtain ⟨here, voted⟩ := List.mem_filter.mp member
  exact List.mem_filter.mpr ⟨within here, voted⟩

theorem CalmTexts.group_separated {group : List PlateReading} (calm : rules.CalmTexts readings)
    (member : (text, group) ∈ rules.groupsOf readings) :
    (group.map PlateReading.offsetS).Pairwise Separated := by
  obtain ⟨_, rfl⟩ := mem_groupsOf.mp member
  rw [List.pairwise_map]
  apply ((calm text).strangers near_symm).imp
  intro a b stranger
  exact not_near.mp stranger

theorem ballot_usable {reading : PlateReading} (voted : rules.ballot reading = some text) :
    reading.usable ∧ (rules.normalise reading.rawText).normalised = text := by
  unfold ballot at voted
  split at voted
  · cases voted
  rename_i usable
  dsimp only at voted
  split at voted
  · cases voted
  split at voted
  · cases voted
  exact ⟨by simpa using usable, Option.some.inj voted⟩

theorem CalmTexts.wins_perm {group : List PlateReading} (calm : rules.CalmTexts readings)
    (distinct : (readings.map PlateReading.ocrConfidence).Nodup) (perm : readings.Perm others)
    (wins : Wins rules readings text group) :
    ∃ group', group.Perm group' ∧ Wins rules others text group' := by
  have same : ∀ text, (representatives near PlateReading.ocrConfidence
      (rules.votersOf readings text)).Perm (representatives near PlateReading.ocrConfidence
      (rules.votersOf others text)) := by
    intro text
    apply (calm text).perm near_symm near_refl
    · exact distinct.sublist (List.filter_sublist.map _)
    · exact perm.filter _
  obtain ⟨some_one, rfl⟩ := mem_groupsOf.mp wins.member
  refine ⟨_, same text, mem_groupsOf.mpr ⟨?_, rfl⟩, ?_, ?_⟩
  · intro none
    have empty := same text
    rw [none, List.perm_nil] at empty
    exact some_one empty
  · intro other group' member different
    obtain ⟨some_other, rfl⟩ := mem_groupsOf.mp member
    have counts := (same other).length_eq
    have inside : (other, representatives near PlateReading.ocrConfidence
        (rules.votersOf readings other)) ∈ rules.groupsOf readings := by
      refine mem_groupsOf.mpr ⟨?_, rfl⟩
      intro none
      rw [none, List.length_nil] at counts
      exact some_other (List.length_eq_zero_iff.mp counts.symm)
    have half := wins.majority _ _ inside different
    have total := (same text).length_eq
    omega
  · intro reading single
    apply wins.strong
    have := same text
    rwa [single, List.perm_singleton] at this

theorem CalmTexts.vote_perm (calm : rules.CalmTexts readings)
    (distinct : (readings.map PlateReading.ocrConfidence).Nodup) (perm : readings.Perm others)
    {vote : PlateVote} (voted : rules.temporalVote readings = some vote) :
    ∃ vote', rules.temporalVote others = some vote' ∧ vote'.text = vote.text ∧
      vote'.voteCount = vote.voteCount := by
  obtain ⟨group, wins, count, _⟩ := wins_of_vote voted
  obtain ⟨group', same, wins'⟩ := calm.wins_perm distinct perm wins
  obtain ⟨vote', voted', text', count', _⟩ := vote_of_wins wins'
  exact ⟨vote', voted', text', by rw [count', count, same.length_eq]⟩

theorem CalmTexts.agrees (calm : rules.CalmTexts readings) : rules.Agrees readings where
  separated := by
    intro vote voted
    obtain ⟨group, wins, _, offsets⟩ := wins_of_vote voted
    exact (offsets.pairwise_iff Separated.symm).mpr (calm.group_separated wins.member)
  moments := by
    intro text group member
    refine ⟨group.map PlateReading.offsetS, calm.group_separated member, by simp, ?_⟩
    intro moment here
    obtain ⟨reading, inside, rfl⟩ := List.mem_map.mp here
    obtain ⟨_, rfl⟩ := mem_groupsOf.mp member
    obtain ⟨known, voted⟩ := List.mem_filter.mp (representatives_subset inside)
    obtain ⟨usable, same⟩ := ballot_usable (of_decide_eq_true voted)
    exact ⟨reading, known, usable, same, rfl⟩
  majority := by
    intro vote voted text group member different
    obtain ⟨winner, wins, count, _⟩ := wins_of_vote voted
    rw [count]
    exact wins.majority text group member different
  order := by
    intro distinct _ others perm
    have distinct' := (perm.map PlateReading.ocrConfidence).nodup_iff.mp distinct
    cases here : rules.temporalVote readings with
    | some vote =>
      obtain ⟨vote', there, text, count⟩ := calm.vote_perm distinct perm here
      simp [there, text, count]
    | none =>
      cases there : rules.temporalVote others with
      | none => rfl
      | some vote =>
        have calm' := calm.mono perm.symm.subset
        obtain ⟨vote', again, _⟩ := calm'.vote_perm distinct' perm.symm there
        rw [here] at again
        cases again

theorem not_agrees_of_met {a b c : PlateReading}
    (voters : ∀ reading ∈ [a, c, b], rules.ballot reading = some text)
    (reps : representatives near PlateReading.ocrConfidence [a, c, b] = [b, c])
    (met : near b c) : ¬ rules.Agrees [a, c, b] := by
  intro agrees
  have all : rules.votersOf [a, c, b] text = [a, c, b] := by
    apply List.filter_eq_self.mpr
    intro reading member
    simp [voters reading member]
  have wins : Wins rules [a, c, b] text [b, c] := by
    refine ⟨mem_groupsOf.mpr ⟨by simp, by rw [all, reps]⟩, ?_, by simp⟩
    intro other group member different
    obtain ⟨some_one, rfl⟩ := mem_groupsOf.mp member
    exfalso
    apply some_one
    have none : rules.votersOf [a, c, b] other = [] := by
      apply List.filter_eq_nil_iff.mpr
      intro reading here
      simp [voters reading here, Ne.symm different]
    rw [none]
    rfl
  obtain ⟨vote, voted, _, _, offsets⟩ := vote_of_wins wins
  have apart := agrees.separated vote voted
  have both : vote.supportingOffsets.Perm [b.offsetS, c.offsetS] := by simpa using offsets
  have pair := (both.pairwise_iff Separated.symm).mp apart
  simp only [List.pairwise_cons, List.mem_singleton, forall_eq] at pair
  exact not_near.mpr pair.1 met

/-- The promise is kept for every order of every part of the readings exactly when, among the
voters of each text, nobody close to two separate moments scores more than either. -/
theorem agrees_iff (rules : Rules) (readings : List PlateReading) :
    (∀ part, part.Subperm readings → rules.Agrees part) ↔ rules.CalmTexts readings := by
  constructor
  · intro agrees text
    by_contra noisy
    obtain ⟨a, b, c, part, reps, met⟩ := exists_met_of_not_calm near_symm near_refl noisy
    have inside : ∀ reading ∈ [a, c, b], reading ∈ rules.votersOf readings text :=
      fun reading member => part.subset member
    have voters : ∀ reading ∈ [a, c, b], rules.ballot reading = some text := by
      intro reading member
      simpa using (List.mem_filter.mp (inside reading member)).2
    have within : [a, c, b].Subperm readings := part.trans List.filter_sublist.subperm
    exact not_agrees_of_met voters reps met (agrees _ within)
  · intro calm part within
    exact (calm.mono within.subset).agrees

section Instance

def plainRules : Rules where
  hasPatterns := false
  normalise := fun text => ⟨text, false, []⟩
  minConfidence := 1 / 2
  storeUnmatched := false
  sum := List.sum
  mean := fun scores => scores.sum / scores.length

def plainReading (offsetS ocrConfidence : ℚ) : PlateReading := ⟨"ABC123", ocrConfidence, 1, offsetS⟩

def driftingReadings : List PlateReading :=
  [plainReading 0 (90 / 100), plainReading (3 / 5) (91 / 100), plainReading (3 / 10) (95 / 100)]

/-- The third reading takes the place of the first, less than half a second from the second. -/
theorem drifting_not_agrees : ¬ plainRules.Agrees driftingReadings := by
  apply @not_agrees_of_met plainRules "ABC123"
  · decide +kernel
  · decide +kernel
  · decide +kernel

end Instance

end Rules

end DashcamStats.Plates
