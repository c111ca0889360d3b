import DashcamStats.Events.Journal

namespace DashcamStats.Journal

open Relation (ReflTransGen)

section Lists

variable {α : Type}

theorem rtake_suffix (l : List α) (n : ℕ) : l.rtake n <:+ l := List.drop_suffix _ _

theorem length_rtake_le (l : List α) (n : ℕ) : (l.rtake n).length ≤ n := by
  rw [List.rtake, List.length_drop]
  omega

theorem filter_eq_dropWhile {l : List α} {p q : α → Bool} (apart : ∀ x, p x = true → q x = false)
    (rest : ∀ x ∈ l.dropWhile p, q x = true) : l.filter q = l.dropWhile p := by
  conv_lhs => rw [← List.takeWhile_append_dropWhile (p := p) (l := l)]
  rw [List.filter_append, List.filter_eq_self.mpr rest, List.filter_eq_nil_iff.mpr]
  · rfl
  · intro x mem
    rw [apart x (List.mem_takeWhile_imp mem)]
    exact Bool.false_ne_true

end Lists

def Numbered (l : List Event) : Prop := l.map (·.sequence) = List.range' 1 l.length

namespace Numbered

variable {l t : List Event} {event : Event}

theorem getElem (numbered : Numbered l) {i : ℕ} (inside : i < l.length) :
    l[i].sequence = i + 1 := by
  have same := congrArg (·[i]?) numbered
  simp only [List.getElem?_map, List.getElem?_eq_getElem inside, Option.map_some,
    List.getElem?_range', inside, Option.some.injEq] at same
  omega

theorem concat (numbered : Numbered l) (next : event.sequence = l.length + 1) :
    Numbered (l ++ [event]) := by
  rw [Numbered, List.map_append, numbered, List.length_append, List.length_singleton,
    List.range'_concat]
  simp [next, Nat.add_comm]

theorem ascending (numbered : Numbered l) (suffix : t <:+ l) :
    t.Pairwise fun a b => a.sequence < b.sequence := by
  have all : (l.map (·.sequence)).Pairwise (· < ·) := by
    rw [numbered]
    exact List.pairwise_lt_range'
  exact (List.pairwise_map.mp all).sublist suffix.sublist

theorem positive (numbered : Numbered l) (mem : event ∈ l) : 0 < event.sequence := by
  obtain ⟨i, inside, rfl⟩ := List.getElem_of_mem mem
  rw [numbered.getElem inside]
  exact Nat.succ_pos i

theorem le_length (numbered : Numbered l) (mem : event ∈ l) : event.sequence ≤ l.length := by
  obtain ⟨i, inside, rfl⟩ := List.getElem_of_mem mem
  rw [numbered.getElem inside]
  exact inside

theorem absent (numbered : Numbered l) (suffix : t <:+ l) (mem : event ∈ l) (absent : event ∉ t) :
    event.sequence + t.length ≤ l.length := by
  obtain ⟨before, rfl⟩ := suffix
  have earlier := (List.mem_append.mp mem).resolve_right absent
  obtain ⟨i, inside, rfl⟩ := List.getElem_of_mem earlier
  have position := numbered.getElem (i := i) (by rw [List.length_append]; omega)
  rw [List.getElem_append_left inside] at position
  rw [position, List.length_append]
  omega

end Numbered

theorem distinct_self {l : List Event} (ascending : l.Pairwise fun a b => a.sequence < b.sequence) :
    distinctBySequence l = l := by
  induction l with
  | nil => rfl
  | cons event rest ih =>
    have ⟨first, others⟩ := List.pairwise_cons.mp ascending
    rw [distinctBySequence, ih others, List.filter_eq_self.mpr]
    intro other mem
    exact decide_eq_true (Nat.ne_of_gt (first other mem))

theorem load_eq {l : List Event} {reading : ℤ}
    (ascending : l.Pairwise fun a b => a.sequence < b.sequence)
    (positive : ∀ event ∈ l, 0 < event.sequence) (valid : ∀ event ∈ l, event.draft.valid = true)
    (bounded : l.length ≤ APP_EVENT_RING_LIMIT)
    (behind : ∀ event ∈ l, event.draft.occurred ≤ reading + TOLERANCE)
    (ordered : ∀ event ∈ l.dropWhile (·.draft.occurred < reading - RETENTION),
      reading - RETENTION ≤ event.draft.occurred) :
    loadStoredEvents l reading = l.dropWhile (·.draft.occurred < reading - RETENTION) := by
  have suffix := l.dropWhile_suffix fun event => decide (event.draft.occurred < reading - RETENTION)
  have kept := filter_eq_dropWhile
    (l := l) (p := fun event => decide (event.draft.occurred < reading - RETENTION))
    (q := fun event => isStoredEventValid event (reading - RETENTION) reading)
    (fun event old => by
      have notNew : ¬ reading - RETENTION ≤ event.draft.occurred :=
        Int.not_le.mpr (of_decide_eq_true old)
      simp [isStoredEventValid, notNew])
    (fun event mem => by
      have inside := suffix.subset mem
      simp [isStoredEventValid, positive event inside, valid event inside, ordered event mem,
        behind event inside])
  have sorted := ascending.sublist suffix.sublist
  rw [loadStoredEvents, kept, List.mergeSort_of_pairwise, distinct_self sorted, List.rtake,
    Nat.sub_eq_zero_of_le (suffix.length_le.trans bounded), List.drop_zero]
  exact sorted.imp fun below => decide_eq_true (Nat.le_of_lt below)

theorem Passed.later {event : Event} {limit accepted accepted' : ℕ}
    {expired expired' : List (Event × ℤ)} (passed : Passed event limit accepted expired)
    (more : accepted ≤ accepted') (kept : expired ⊆ expired') :
    Passed event limit accepted' expired' :=
  passed.imp (fun far => far.trans more) fun ⟨reading, mem, old⟩ => ⟨reading, kept mem, old⟩

theorem Passed.limit {event : Event} {limit limit' accepted : ℕ} {expired : List (Event × ℤ)}
    (passed : Passed event limit accepted expired) (less : limit' ≤ limit) :
    Passed event limit' accepted expired :=
  passed.imp (fun far => (Nat.add_le_add_left less _).trans far) id

variable {size : ℤ → List Event → ℕ}

theorem fit_suffix (generatedAt : ℤ) (l : List Event) : fit size generatedAt l <:+ l := by
  induction l with
  | nil => exact List.suffix_rfl
  | cons event rest ih =>
    rw [fit]
    split
    · exact List.suffix_rfl
    · exact ih.trans (List.suffix_cons event rest)

theorem fit_absent {generatedAt : ℤ} {l : List Event} {event : Event} (mem : event ∈ l)
    (absent : event ∉ fit size generatedAt l) : ∃ rest, event :: rest <:+ l ∧
      APP_EVENT_SNAPSHOT_MAX_BYTES < size generatedAt (event :: rest) := by
  induction l with
  | nil => cases mem
  | cons first rest ih =>
    rw [fit] at absent
    split at absent
    · exact absurd mem absent
    next large =>
      rcases List.mem_cons.mp mem with same | later
      · rw [same]
        exact ⟨rest, List.suffix_rfl, Nat.lt_of_not_le large⟩
      · obtain ⟨after, suffix, larger⟩ := ih later absent
        exact ⟨after, suffix.trans (List.suffix_cons first rest), larger⟩

theorem buildSnapshot_whole {retained accepted : List Event} {reading : ℤ}
    {expired : List (Event × ℤ)} (numbered : Numbered accepted) (ring : retained <:+ accepted)
    (absent : ∀ event ∈ accepted, event ∉ retained →
      Passed event APP_EVENT_RING_LIMIT accepted.length expired) :
    Publication.Whole size ⟨buildSnapshot size retained reading, reading, accepted, expired⟩ := by
  have projected := rtake_suffix retained APP_EVENT_SNAPSHOT_LIMIT
  have run : buildSnapshot size retained reading <:+ accepted := by
    unfold buildSnapshot
    exact ((fit_suffix reading _).trans projected).trans ring
  constructor
  · dsimp only
    exact run
  intro event mem gone
  dsimp only [buildSnapshot] at mem gone ⊢
  by_cases inRing : event ∈ retained
  · by_cases inProjection : event ∈ retained.rtake APP_EVENT_SNAPSHOT_LIMIT
    · obtain ⟨rest, suffix, large⟩ := fit_absent inProjection gone
      exact .inr ⟨rest, (suffix.trans projected).trans ring, large⟩
    · -- The projection is full.
      refine .inl (.inl ?_)
      have before := numbered.absent (projected.trans ring) mem inProjection
      have full : (retained.rtake APP_EVENT_SNAPSHOT_LIMIT).length = APP_EVENT_SNAPSHOT_LIMIT := by
        rw [List.rtake, List.length_drop]
        by_cases short : retained.length ≤ APP_EVENT_SNAPSHOT_LIMIT
        · rw [List.rtake, Nat.sub_eq_zero_of_le short, List.drop_zero] at inProjection
          exact absurd inRing inProjection
        · omega
      rwa [full] at before
  · have less : APP_EVENT_SNAPSHOT_LIMIT ≤ APP_EVENT_RING_LIMIT := by
      simp [APP_EVENT_SNAPSHOT_LIMIT, APP_EVENT_RING_LIMIT]
    exact .inl ((absent event mem inRing).limit less)

namespace AppEventJournal

variable {s s' : AppEventJournal}

structure Inv (size : ℤ → List Event → ℕ) (s : AppEventJournal) : Prop where
  whole : s.Whole size
  last : s.disk.lastSequence = s.accepted.length
  bounded : s.disk.events.length ≤ APP_EVENT_RING_LIMIT
  valid : ∀ event ∈ s.accepted, event.draft.valid = true

structure Same (s s' : AppEventJournal) : Prop where
  flushed : s.Flushed → s'.Flushed ∧ s'.disk.events = s.disk.events ∧
    s'.disk.lastSequence = s.disk.lastSequence
  memory : s'.memory.events = s.memory.events
  accepted : s'.accepted = s.accepted
  expired : s'.expired = s.expired
  published : s'.published = s.published

theorem persistentSourceId_same (uuid : ℕ) (outcome : Commit) (s : AppEventJournal) :
    Same s (s.persistentSourceId uuid outcome).1 := by
  unfold persistentSourceId
  split
  · exact ⟨fun flushed => ⟨flushed, rfl, rfl⟩, rfl, rfl, rfl, rfl⟩
  · exact ⟨fun flushed => ⟨⟨rfl, rfl⟩, flushed.2, flushed.1⟩, rfl, rfl, rfl, rfl⟩
  next kept _ =>
    cases kept
    · exact ⟨fun flushed => ⟨flushed, rfl, rfl⟩, rfl, rfl, rfl, rfl⟩
    · exact ⟨fun flushed => ⟨flushed, rfl, rfl⟩, rfl, rfl, rfl, rfl⟩

theorem Inv.of_same (inv : s.Inv size) (flushed : s.Flushed) (same : Same s s') : s'.Inv size := by
  have ⟨_, events, last⟩ := same.flushed flushed
  obtain ⟨⟨numbered, ring, absent, published⟩, isLast, bounded, valid⟩ := inv
  exact
    { whole :=
        { numbered := by rw [same.accepted]; exact numbered
          ring := by rw [same.accepted, events]; exact ring
          absent := by rw [same.accepted, same.expired, events]; exact absent
          published := by rw [same.published]; exact published }
      last := by rw [last, same.accepted]; exact isLast
      bounded := by rw [events]; exact bounded
      valid := by rw [same.accepted]; exact valid }

theorem Ordered.of_same {reading : ℤ} (ordered : s.Ordered reading) (same : Same s s') :
    s'.Ordered reading := by
  rw [Ordered, same.memory]
  exact ordered

theorem Inv.pending {pending : Bool} (inv : s.Inv size) :
    Inv size { s with projectionPending := pending } :=
  ⟨⟨inv.whole.numbered, inv.whole.ring, inv.whole.absent, inv.whole.published⟩, inv.last,
    inv.bounded, inv.valid⟩

section Load

variable {now : ℤ} (inv : s.Inv size) (flushed : s.Flushed) (ordered : s.Ordered now)

include inv flushed ordered

theorem loaded_eq : loadStoredEvents s.memory.events now =
    s.disk.events.dropWhile (·.draft.occurred < now - RETENTION) := by
  obtain ⟨behind, rest⟩ := ordered
  rw [flushed.2] at behind rest ⊢
  have inside := inv.whole.ring.subset
  exact load_eq (Numbered.ascending inv.whole.numbered inv.whole.ring)
    (fun event mem => Numbered.positive inv.whole.numbered (inside mem))
    (fun event mem => inv.valid event (inside mem)) inv.bounded behind rest

theorem loaded_suffix : loadStoredEvents s.memory.events now <:+ s.accepted := by
  rw [loaded_eq inv flushed ordered]
  exact (List.dropWhile_suffix _).trans inv.whole.ring

theorem loaded_absent {event : Event} (mem : event ∈ s.accepted)
    (absent : event ∉ loadStoredEvents s.memory.events now) :
    Passed event APP_EVENT_RING_LIMIT s.accepted.length (s.aged now ++ s.expired) := by
  by_cases stored : event ∈ s.disk.events
  · have old : event.draft.occurred < now - RETENTION := by
      rw [loaded_eq inv flushed ordered] at absent
      rw [← List.takeWhile_append_dropWhile
        (p := fun event => decide (event.draft.occurred < now - RETENTION))
        (l := s.disk.events)] at stored
      have taken := List.mem_takeWhile_imp ((List.mem_append.mp stored).resolve_right absent)
      exact of_decide_eq_true taken
    refine .inr ⟨now, List.mem_append_left _ ?_, old⟩
    rw [aged, flushed.2]
    exact List.mem_map.mpr ⟨event, List.mem_filter.mpr ⟨stored, decide_eq_true old⟩, rfl⟩
  · exact (inv.whole.absent event mem stored).later (Nat.le_refl _)
      (List.subset_append_right _ _)

theorem previous_eq :
    max s.memory.lastSequence (((loadStoredEvents s.memory.events now).getLast?.map
      (·.sequence)).getD 0) = s.accepted.length := by
  rw [flushed.1, inv.last]
  refine Nat.max_eq_left ?_
  cases last : (loadStoredEvents s.memory.events now).getLast? with
  | none => exact Nat.zero_le _
  | some event =>
    have mem := (loaded_suffix inv flushed ordered).subset (List.mem_of_getLast? last)
    exact Numbered.le_length inv.whole.numbered mem

end Load

theorem publish_inv {retained : List Event} {now : ℤ} {expired : List (Event × ℤ)}
    (inv : s.Inv size) (whole : Publication.Whole size
      ⟨buildSnapshot size retained now, now, s.accepted, expired⟩) :
    (s.publishAt size retained now expired).Inv size := by
  refine ⟨⟨inv.whole.numbered, inv.whole.ring, inv.whole.absent, fun p mem => ?_⟩, inv.last,
    inv.bounded, inv.valid⟩
  rcases List.mem_cons.mp mem with same | old
  · rw [same]
    exact whole
  · exact inv.whole.published p old

theorem accepted_inv {now : ℤ} {draft : AppEventDraft} (sourceId : ℕ) (pending : Bool)
    (inv : s.Inv size) (flushed : s.Flushed) (ordered : s.Ordered now)
    (valid : draft.valid = true) :
    let event : Event := ⟨s.accepted.length + 1, draft⟩
    let retained := (loadStoredEvents s.memory.events now ++ [event]).rtake APP_EVENT_RING_LIMIT
    let after := { s.commit .written ⟨some sourceId, event.sequence, retained⟩ with
      accepted := s.accepted ++ [event]
      expired := s.aged now ++ s.expired
      projectionPending := pending }
    after.Inv size := by
  intro event retained after
  have numbered : Numbered (s.accepted ++ [event]) := Numbered.concat inv.whole.numbered rfl
  have suffix : loadStoredEvents s.memory.events now ++ [event] <:+ s.accepted ++ [event] := by
    obtain ⟨before, same⟩ := loaded_suffix inv flushed ordered
    exact ⟨before, by rw [← same, List.append_assoc]⟩
  have ring : retained <:+ s.accepted ++ [event] := (rtake_suffix _ _).trans suffix
  have length : (s.accepted ++ [event]).length = s.accepted.length + 1 := by simp
  refine ⟨⟨numbered, ring, fun other mem absent => ?_, fun p mem => inv.whole.published p mem⟩,
    length.symm, length_rtake_le _ _, fun other mem => ?_⟩
  · by_cases loaded : other ∈ loadStoredEvents s.memory.events now ++ [event]
    · -- The ring is full.
      have before := numbered.absent ring mem absent
      refine .inl ?_
      have full : retained.length = APP_EVENT_RING_LIMIT := by
        simp only [retained, List.rtake, List.length_drop]
        by_cases short : (loadStoredEvents s.memory.events now ++ [event]).length ≤
            APP_EVENT_RING_LIMIT
        · have all : retained = loadStoredEvents s.memory.events now ++ [event] := by
            simp only [retained, List.rtake, Nat.sub_eq_zero_of_le short, List.drop_zero]
          have inside : other ∈ retained := by rw [all]; exact loaded
          exact absurd inside absent
        · omega
      rwa [full] at before
    · have old : other ∈ s.accepted := by
        refine (List.mem_append.mp mem).resolve_right fun new => ?_
        exact loaded (List.mem_append_right _ new)
      have gone := loaded_absent inv flushed ordered old fun inside =>
        loaded (List.mem_append_left _ inside)
      exact gone.later (by rw [length]; exact Nat.le_succ _) fun _ => id
  · rcases List.mem_append.mp mem with old | new
    · exact inv.valid other old
    · rw [List.mem_singleton.mp new]
      exact valid

theorem append_inv {now : ℤ} {draft : AppEventDraft} {uuid : ℕ} {source outcome : Commit}
    {published : Bool} (inv : s.Inv size) (flushed : s.Flushed) (ordered : s.Ordered now) :
    (s.appendDraft size now draft uuid source outcome published).1.Inv size := by
  unfold appendDraft
  split
  · exact inv
  next valid =>
    have same := persistentSourceId_same uuid source s
    split
    next after isSource =>
      rw [isSource] at same
      exact inv.of_same flushed same
    next after sourceId isSource =>
      rw [isSource] at same
      have inv' := inv.of_same flushed same
      have flushed' := (same.flushed flushed).1
      have ordered' := ordered.of_same same
      dsimp only
      split
      · exact inv'
      · rw [previous_eq inv' flushed' ordered']
        cases outcome with
        | failed kept =>
          exact ⟨⟨inv'.whole.numbered, inv'.whole.ring, inv'.whole.absent, inv'.whole.published⟩,
            inv'.last, inv'.bounded, inv'.valid⟩
        | written =>
          have next := accepted_inv sourceId (!published) inv' flushed' ordered'
            (by simpa using valid)
          cases published with
          | false => exact next
          | true => exact publish_inv next (buildSnapshot_whole next.whole.numbered
              next.whole.ring next.whole.absent)

theorem publishSnapshot_inv {now : ℤ} {uuid : ℕ} {source : Commit} {written : Bool}
    (inv : s.Inv size) (flushed : s.Flushed) (ordered : s.Ordered now) :
    (s.publishSnapshot size now uuid source written).1.Inv size := by
  have same := persistentSourceId_same uuid source s
  unfold publishSnapshot
  split
  next after isSource =>
    rw [isSource] at same
    exact (inv.of_same flushed same).pending
  next after sourceId isSource =>
    rw [isSource] at same
    have inv' := inv.of_same flushed same
    have flushed' := (same.flushed flushed).1
    have ordered' := ordered.of_same same
    dsimp only
    split
    · exact publish_inv inv'.pending (buildSnapshot_whole inv'.whole.numbered
        (loaded_suffix inv' flushed' ordered') fun event mem absent =>
          loaded_absent inv' flushed' ordered' mem absent)
    · exact inv'.pending

theorem inv_run (run : ReflTransGen (UndisturbedStep size) fresh s) : s.Inv size := by
  induction run with
  | refl =>
    exact ⟨⟨rfl, List.nil_suffix, (fun _ mem => by cases mem), fun _ mem => by cases mem⟩, rfl,
      Nat.zero_le _, fun _ mem => by cases mem⟩
  | tail _ step ih =>
    obtain ⟨operation, undisturbed, rfl⟩ := step
    cases operation with
    | append now draft uuid source outcome published =>
      exact append_inv ih undisturbed.1 undisturbed.2
    | publish now uuid source written => exact publishSnapshot_inv ih undisturbed.1 undisturbed.2
    | restart => exact ⟨⟨ih.whole.numbered, ih.whole.ring, ih.whole.absent, ih.whole.published⟩,
        ih.last, ih.bounded, ih.valid⟩

/-- The ring and the snapshots keep every record that has not passed. -/
theorem journal_whole (run : ReflTransGen (UndisturbedStep size) fresh s) : s.Whole size :=
  (inv_run run).whole

def ahead : AppEventDraft := ⟨1000 * 10 ^ 9, true⟩

def behind : AppEventDraft := ⟨0, true⟩

def once : AppEventJournal :=
  let stored : Preferences := ⟨some 7, 1, [⟨1, ahead⟩]⟩
  ⟨stored, stored, true, [⟨1, ahead⟩], [], []⟩

theorem once_step : fresh.perform (fun _ _ => 0)
    (.append (1000 * 10 ^ 9) ahead 7 .written .written false) = once := by
  decide +kernel

theorem once_undisturbed : fresh.Undisturbed
    (.append (1000 * 10 ^ 9) ahead 7 .written .written false) :=
  ⟨⟨rfl, rfl⟩, (fun _ mem => by cases mem), fun _ mem => by cases mem⟩

theorem journal_whole_once : ∃ s, ReflTransGen (UndisturbedStep fun _ _ => 0) fresh s ∧
    s.accepted = [⟨1, ahead⟩] ∧ s.Whole fun _ _ => 0 := by
  have run := ReflTransGen.refl (r := UndisturbedStep fun _ _ => 0) (a := fresh)
    |>.tail ⟨_, once_undisturbed, once_step.symm⟩
  exact ⟨once, run, rfl, journal_whole run⟩

/-- The clock has been set back by more than the tolerance, and the next append has written back a
ring without the first record. -/
def setBack : AppEventJournal :=
  let stored : Preferences := ⟨some 7, 2, [⟨2, behind⟩]⟩
  ⟨stored, stored, true, [⟨1, ahead⟩, ⟨2, behind⟩], [], []⟩

theorem record_lost : ∃ s, ReflTransGen (Step fun _ _ => 0) fresh s ∧
    s.accepted = [⟨1, ahead⟩, ⟨2, behind⟩] ∧ s.disk.events = [⟨2, behind⟩] ∧
    ¬ s.Whole fun _ _ => 0 := by
  have run := ReflTransGen.refl (r := Step fun _ _ => 0) (a := fresh)
    |>.tail ⟨_, once_step.symm⟩
    |>.tail (c := setBack) ⟨.append 0 behind 7 .written .written false, by decide +kernel⟩
  refine ⟨setBack, run, rfl, rfl, fun whole => ?_⟩
  rcases whole.absent ⟨1, ahead⟩ (by decide) (by decide) with far | ⟨_, mem, _⟩
  · exact absurd far (by decide +kernel)
  · cases mem

end AppEventJournal

end DashcamStats.Journal
