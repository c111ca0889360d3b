import Mathlib.Data.List.Chain
import DashcamStats.Tracking.Tracker

namespace DashcamStats.Tracking

variable {Filter Frame : Type} (geometry : Geometry Filter Frame) (trackBuffer : ℤ)

/-- `sample` is what one detection of `inputs` says, and the detection has the class. -/
def Sample.Genuine (inputs : List (Update Frame)) (classLabel : String) (sample : Sample) : Prop :=
  ∃ u detection, inputs[sample.seen.1]? = some u ∧
    u.detections[sample.seen.2]? = some detection ∧
    sample = Sighting.sample ⟨detection, sample.seen⟩ u.offsetS ∧
    detection.classLabel = classLabel

def Near (a b : Sample) : Prop :=
  a.seen.1 < b.seen.1 ∧ (b.seen.1 : ℤ) ≤ a.seen.1 + (trackBuffer + 1)

def sumOf : List Sample → ℚ
  | [] => 0
  | first :: rest =>
    rest.foldl (fun sum sample => geometry.plus sum sample.confidence) first.confidence

structure Track.Sound (inputs : List (Update Frame)) (track : Track Filter) : Prop where
  first : ∃ sample, track.samples.head? = some sample ∧
    HIGH_CONFIDENCE ≤ sample.confidence ∧ track.firstOffsetS = sample.offsetS
  last : ∃ sample, track.samples.getLast? = some sample ∧ track.lastOffsetS = sample.offsetS
  count : track.frameCount = track.samples.length
  sum : track.confidenceSum = sumOf geometry track.samples
  near : track.samples.IsChain (Near trackBuffer)
  genuine : ∀ sample ∈ track.samples, sample.Genuine inputs track.classLabel

def Track.Waiting (updates : Nat) (track : Track Filter) : Prop :=
  (∃ sample, track.samples.getLast? = some sample ∧
    sample.seen.1 + track.misses + 1 = updates) ∧ (track.misses : ℤ) ≤ trackBuffer

def Track.Matched (updates : Nat) (track : Track Filter) : Prop :=
  (∃ sample, track.samples.getLast? = some sample ∧ sample.seen.1 = updates) ∧ track.misses = 0

def seenIn (tracks : List (Track Filter)) : List (Nat × Nat) :=
  tracks.flatMap fun track => track.samples.map Sample.seen

namespace ByteTracker

def tracks (s : ByteTracker Filter) : List (Track Filter) := s.finished ++ s.active

/-- What holds between two calls of `update`. -/
structure Inv (inputs : List (Update Frame)) (s : ByteTracker Filter) : Prop where
  updates : s.updates = inputs.length
  sound : ∀ track ∈ s.tracks, track.Sound geometry trackBuffer inputs
  waiting : ∀ track ∈ s.active, track.Waiting trackBuffer inputs.length
  keys : (s.tracks.map Track.trackKey).Nodup
  below : ∀ track ∈ s.tracks, track.trackKey < s.nextKey
  once : (seenIn s.tracks).Nodup
  strong : ∀ (n i : Nat) (u : Update Frame) (detection : Detection2D), inputs[n]? = some u →
    u.detections[i]? = some detection → HIGH_CONFIDENCE ≤ detection.confidence →
    (n, i) ∈ seenIn s.tracks

/-- What holds inside a call: `still` are the active tracks without a sample of this update, and
`done` are the detections of this update that have one. -/
structure Mid (inputs : List (Update Frame)) (u : Update Frame) (before : List (Nat × Nat))
    (s : ByteTracker Filter) (still : Finset Nat) (done : List (Nat × Nat)) : Prop where
  updates : s.updates = inputs.length
  sound : ∀ track ∈ s.tracks, track.Sound geometry trackBuffer (inputs ++ [u])
  waiting : ∀ (index : Nat) (track : Track Filter), s.active[index]? = some track →
    index ∈ still → track.Waiting trackBuffer inputs.length
  matched : ∀ (index : Nat) (track : Track Filter), s.active[index]? = some track →
    index ∉ still → track.Matched inputs.length
  inside : ∀ index ∈ still, index < s.active.length
  keys : (s.tracks.map Track.trackKey).Nodup
  below : ∀ track ∈ s.tracks, track.trackKey < s.nextKey
  placed : (seenIn s.tracks).Perm (done ++ before)

end ByteTracker

variable {geometry} {trackBuffer} {inputs : List (Update Frame)} {u : Update Frame}
variable {track : Track Filter} {sighting : Sighting} {key : Nat}

theorem Track.considerBest_same {detection : Detection2D} :
    let best := track.considerBest geometry u detection
    best.trackKey = track.trackKey ∧ best.classLabel = track.classLabel ∧
      best.firstOffsetS = track.firstOffsetS ∧ best.lastOffsetS = track.lastOffsetS ∧
      best.frameCount = track.frameCount ∧ best.confidenceSum = track.confidenceSum ∧
      best.samples = track.samples ∧ best.misses = track.misses := by
  dsimp only [Track.considerBest]
  split <;> simp

section Fields

@[simp] theorem absorbed_trackKey :
    (absorbed geometry u sighting track).trackKey = track.trackKey :=
  Track.considerBest_same.1

@[simp] theorem absorbed_classLabel :
    (absorbed geometry u sighting track).classLabel = track.classLabel :=
  Track.considerBest_same.2.1

@[simp] theorem absorbed_firstOffsetS :
    (absorbed geometry u sighting track).firstOffsetS = track.firstOffsetS :=
  Track.considerBest_same.2.2.1

@[simp] theorem absorbed_lastOffsetS :
    (absorbed geometry u sighting track).lastOffsetS = u.offsetS :=
  Track.considerBest_same.2.2.2.1

@[simp] theorem absorbed_frameCount :
    (absorbed geometry u sighting track).frameCount = track.frameCount + 1 :=
  Track.considerBest_same.2.2.2.2.1

@[simp] theorem absorbed_confidenceSum :
    (absorbed geometry u sighting track).confidenceSum =
      geometry.plus track.confidenceSum sighting.detection.confidence :=
  Track.considerBest_same.2.2.2.2.2.1

@[simp] theorem absorbed_samples :
    (absorbed geometry u sighting track).samples =
      track.samples ++ [sighting.sample u.offsetS] :=
  Track.considerBest_same.2.2.2.2.2.2.1

@[simp] theorem absorbed_misses : (absorbed geometry u sighting track).misses = 0 :=
  Track.considerBest_same.2.2.2.2.2.2.2

@[simp] theorem started_trackKey : (started geometry u sighting key).trackKey = key :=
  Track.considerBest_same.1

@[simp] theorem started_classLabel :
    (started geometry u sighting key).classLabel = sighting.detection.classLabel :=
  Track.considerBest_same.2.1

@[simp] theorem started_firstOffsetS :
    (started geometry u sighting key).firstOffsetS = u.offsetS :=
  Track.considerBest_same.2.2.1

@[simp] theorem started_lastOffsetS :
    (started geometry u sighting key).lastOffsetS = u.offsetS :=
  Track.considerBest_same.2.2.2.1

@[simp] theorem started_frameCount : (started geometry u sighting key).frameCount = 1 :=
  Track.considerBest_same.2.2.2.2.1

@[simp] theorem started_confidenceSum :
    (started geometry u sighting key).confidenceSum = sighting.detection.confidence :=
  Track.considerBest_same.2.2.2.2.2.1

@[simp] theorem started_samples :
    (started geometry u sighting key).samples = [sighting.sample u.offsetS] :=
  Track.considerBest_same.2.2.2.2.2.2.1

@[simp] theorem started_misses : (started geometry u sighting key).misses = 0 :=
  Track.considerBest_same.2.2.2.2.2.2.2

end Fields

@[simp] theorem Sighting.sample_seen {offsetS : ℚ} :
    (sighting.sample offsetS).seen = sighting.seen := rfl

@[simp] theorem Sighting.sample_offsetS {offsetS : ℚ} :
    (sighting.sample offsetS).offsetS = offsetS := rfl

@[simp] theorem Sighting.sample_confidence {offsetS : ℚ} :
    (sighting.sample offsetS).confidence = sighting.detection.confidence := rfl

/-- A detection object of the update that follows `inputs`. -/
def Sighting.Of (inputs : List (Update Frame)) (u : Update Frame) (sighting : Sighting) : Prop :=
  sighting.seen.1 = inputs.length ∧ u.detections[sighting.seen.2]? = some sighting.detection

theorem Sample.Genuine.later {sample : Sample} {classLabel : String}
    (genuine : sample.Genuine inputs classLabel) : sample.Genuine (inputs ++ [u]) classLabel := by
  obtain ⟨v, detection, found, rest⟩ := genuine
  refine ⟨v, detection, ?_, rest⟩
  rw [List.getElem?_append_left (List.getElem?_eq_some_iff.mp found).1]
  exact found

theorem Sighting.Of.genuine (seen : sighting.Of inputs u) :
    (sighting.sample u.offsetS).Genuine (inputs ++ [u]) sighting.detection.classLabel := by
  refine ⟨u, sighting.detection, ?_, seen.2, rfl, rfl⟩
  simp [seen.1]

theorem Track.Sound.later (sound : track.Sound geometry trackBuffer inputs) :
    track.Sound geometry trackBuffer (inputs ++ [u]) :=
  { sound with genuine := fun sample member => (sound.genuine sample member).later }

theorem sumOf_append {samples : List Sample} {sample : Sample} (some_first : samples ≠ []) :
    sumOf geometry (samples ++ [sample]) =
      geometry.plus (sumOf geometry samples) sample.confidence := by
  cases samples with
  | nil => exact absurd rfl some_first
  | cons first rest => simp [sumOf]

theorem Track.Sound.absorbed (sound : track.Sound geometry trackBuffer (inputs ++ [u]))
    (waiting : track.Waiting trackBuffer inputs.length) (seen : sighting.Of inputs u)
    (same : track.classLabel = sighting.detection.classLabel) :
    (absorbed geometry u sighting track).Sound geometry trackBuffer (inputs ++ [u]) := by
  obtain ⟨first, head, strong, starts⟩ := sound.first
  obtain ⟨⟨last, tail, since⟩, few⟩ := waiting
  have some_first : track.samples ≠ [] := by
    intro none
    simp [none] at head
  refine ⟨⟨first, ?_, strong, by simpa using starts⟩, ⟨sighting.sample u.offsetS, by simp⟩, ?_, ?_,
    ?_, ?_⟩
  · simp [List.head?_append, head]
  · simp [sound.count]
  · simp [sumOf_append some_first, sound.sum]
  · rw [absorbed_samples]
    apply List.IsChain.append sound.near (.singleton _)
    intro a before b now
    rw [tail] at before
    simp only [Option.mem_def, Option.some.injEq, List.head?_cons] at before now
    subst before now
    have number := seen.1
    constructor <;> simp only [Sighting.sample_seen, number] <;> omega
  · intro sample member
    rw [absorbed_samples] at member
    rw [absorbed_classLabel]
    cases List.mem_append.mp member with
    | inl before => exact sound.genuine sample before
    | inr now =>
      rw [List.mem_singleton.mp now, same]
      exact seen.genuine

theorem Sighting.Of.matched (seen : sighting.Of inputs u) :
    (absorbed geometry u sighting track).Matched inputs.length := by
  refine ⟨⟨sighting.sample u.offsetS, by simp, ?_⟩, by simp⟩
  exact seen.1

theorem Sighting.Of.started_matched (seen : sighting.Of inputs u) :
    (started geometry u sighting key).Matched inputs.length := by
  refine ⟨⟨sighting.sample u.offsetS, by simp, ?_⟩, by simp⟩
  exact seen.1

theorem Sighting.Of.started (seen : sighting.Of inputs u)
    (strong : HIGH_CONFIDENCE ≤ sighting.detection.confidence) :
    (started geometry u sighting key).Sound geometry trackBuffer (inputs ++ [u]) := by
  refine ⟨⟨sighting.sample u.offsetS, by simp [strong]⟩, ⟨sighting.sample u.offsetS, by simp⟩,
    by simp, by simp [sumOf], by simp, ?_⟩
  intro sample member
  rw [started_samples] at member
  rw [List.mem_singleton.mp member, started_classLabel]
  exact seen.genuine

@[simp] theorem seenIn_append (front back : List (Track Filter)) :
    seenIn (front ++ back) = seenIn front ++ seenIn back := by
  simp [seenIn]

@[simp] theorem seenIn_cons (rest : List (Track Filter)) :
    seenIn (track :: rest) = track.samples.map Sample.seen ++ seenIn rest := by
  simp [seenIn]

@[simp] theorem seenIn_nil : seenIn ([] : List (Track Filter)) = [] := rfl

namespace ByteTracker

variable {s : ByteTracker Filter} {before done : List (Nat × Nat)} {still : Finset Nat}
variable {index : Nat}

-- The list around the track that a match changes.
variable (geometry u sighting) in
theorem split_active (found : s.active[index]? = some track) :
    ∃ front back, s.active = front ++ track :: back ∧ front.length = index ∧
      (s.absorb geometry u index sighting).active =
        front ++ absorbed geometry u sighting track :: back := by
  obtain ⟨small, here⟩ := List.getElem?_eq_some_iff.mp found
  obtain ⟨front, other, back, shape, length, changed⟩ :=
    List.exists_of_modify (absorbed geometry u sighting) small
  have same : other = track := by
    rw [← here]
    simp [shape, ← length]
  subst same
  exact ⟨front, back, shape, length, changed⟩

theorem Mid.absorb (mid : Mid geometry trackBuffer inputs u before s still done)
    (waits : index ∈ still) (found : s.active[index]? = some track)
    (seen : sighting.Of inputs u) (same : track.classLabel = sighting.detection.classLabel) :
    Mid geometry trackBuffer inputs u before (s.absorb geometry u index sighting)
      (still.erase index) (sighting.seen :: done) := by
  obtain ⟨front, back, shape, length, changed⟩ :=
    split_active geometry u sighting found
  have elsewhere : ∀ other, other ≠ index →
      (s.absorb geometry u index sighting).active[other]? = s.active[other]? := by
    intro other different
    exact List.getElem?_modify_ne _ _ (Ne.symm different)
  have here : (s.absorb geometry u index sighting).active[index]? =
      some (absorbed geometry u sighting track) := by
    rw [changed, ← length]
    simp
  refine ⟨mid.updates, ?_, ?_, ?_, ?_, ?_, ?_, ?_⟩
  · intro other member
    have known : other ∈ s.tracks ∨ other = absorbed geometry u sighting track := by
      simp only [tracks, changed, shape, List.mem_append, List.mem_cons] at member ⊢
      tauto
    cases known with
    | inl before => exact mid.sound other before
    | inr now =>
      rw [now]
      have old : track ∈ s.tracks := by simp [tracks, shape]
      exact (mid.sound track old).absorbed (mid.waiting index track found waits) seen same
  · intro other track' found' waits'
    have different := Finset.ne_of_mem_erase waits'
    rw [elsewhere other different] at found'
    exact mid.waiting other track' found' (Finset.mem_of_mem_erase waits')
  · intro other track' found' settled
    by_cases same' : other = index
    · rw [same', here] at found'
      rw [← Option.some.inj found']
      exact seen.matched
    · rw [elsewhere other same'] at found'
      apply mid.matched other track' found'
      intro waits'
      exact settled (Finset.mem_erase.mpr ⟨same', waits'⟩)
  · intro other waits'
    have := mid.inside other (Finset.mem_of_mem_erase waits')
    simpa [ByteTracker.absorb] using this
  · have keys := mid.keys
    simp only [tracks, shape, changed, List.map_append, List.map_cons,
      absorbed_trackKey] at keys ⊢
    exact keys
  · intro other member
    have old : track.trackKey < s.nextKey := mid.below track (by simp [tracks, shape])
    simp only [tracks, changed, List.mem_append, List.mem_cons] at member
    rcases member with before | before | now | before
    · exact mid.below other (List.mem_append_left _ before)
    · exact mid.below other (by simp [tracks, shape, before])
    · rw [now, absorbed_trackKey]
      exact old
    · exact mid.below other (by simp [tracks, shape, before])
  · have more : (seenIn (s.absorb geometry u index sighting).tracks).Perm
        (sighting.seen :: seenIn s.tracks) := by
      have moved : (seenIn s.finished ++ seenIn front ++ track.samples.map Sample.seen ++
          sighting.seen :: seenIn back).Perm (sighting.seen ::
            (seenIn s.finished ++ seenIn front ++ track.samples.map Sample.seen ++
              seenIn back)) := List.perm_middle
      have kept : (s.absorb geometry u index sighting).finished = s.finished := rfl
      simp only [tracks, changed, shape, kept]
      simpa using moved
    exact more.trans (mid.placed.cons _)

theorem Mid.start (mid : Mid geometry trackBuffer inputs u before s still done)
    (seen : sighting.Of inputs u) (strong : HIGH_CONFIDENCE ≤ sighting.detection.confidence) :
    Mid geometry trackBuffer inputs u before (s.start geometry u sighting) still
      (sighting.seen :: done) := by
  have shape : (s.start geometry u sighting).tracks =
      s.tracks ++ [started geometry u sighting s.nextKey] := by
    simp [tracks, ByteTracker.start]
  refine ⟨mid.updates, ?_, ?_, ?_, ?_, ?_, ?_, ?_⟩
  · intro other member
    rw [shape] at member
    cases List.mem_append.mp member with
    | inl before => exact mid.sound other before
    | inr now =>
      rw [List.mem_singleton.mp now]
      exact seen.started strong
  · intro other track' found waits
    have small := mid.inside other waits
    simp only [ByteTracker.start] at found
    rw [List.getElem?_append_left small] at found
    exact mid.waiting other track' found waits
  · intro other track' found settled
    simp only [ByteTracker.start] at found
    by_cases small : other < s.active.length
    · rw [List.getElem?_append_left small] at found
      exact mid.matched other track' found settled
    · rw [List.getElem?_append_right (by omega)] at found
      have now := List.mem_of_getElem? found
      rw [List.mem_singleton.mp now]
      exact seen.started_matched
  · intro other waits
    have := mid.inside other waits
    simp only [ByteTracker.start, List.length_append, List.length_singleton]
    omega
  · rw [shape, List.map_append]
    apply List.Nodup.append mid.keys (by simp)
    intro key member now
    obtain ⟨other, known, rfl⟩ := List.mem_map.mp member
    have small := mid.below other known
    simp only [List.map_cons, List.map_nil, started_trackKey, List.mem_singleton] at now
    omega
  · intro other member
    rw [shape] at member
    simp only [ByteTracker.start]
    cases List.mem_append.mp member with
    | inl before =>
      have := mid.below other before
      omega
    | inr now =>
      rw [List.mem_singleton.mp now, started_trackKey]
      omega
  · rw [shape, seenIn_append]
    have more : (seenIn s.tracks ++ [sighting.seen]).Perm (sighting.seen :: seenIn s.tracks) :=
      List.perm_append_singleton _ _
    simpa using more.trans (mid.placed.cons _)

end ByteTracker

end DashcamStats.Tracking
