import DashcamStats.Library.Spans
import DashcamStats.Obd.Timing

namespace DashcamStats.Obd

open Bundle Spans

def seconds (t : Time) : ℚ := totalSeconds id t

@[simp] theorem seconds_sub (a b : Time) : seconds (a - b) = seconds a - seconds b := by
  simp only [seconds, totalSeconds, id]
  push_cast
  ring

theorem seconds_le {a b : Time} : seconds a ≤ seconds b ↔ a ≤ b := by
  simp only [seconds, totalSeconds, id]
  rw [div_le_div_iff_of_pos_right (by norm_num)]
  exact Int.cast_le

def instants (span : Time × Time) : ℚ × ℚ := (seconds span.1, seconds span.2)

structure Stretch where
  span : Time × Time
  meanKmh : ℚ

def joins (cycleS : ℚ) (prev row : MotionRow) : Option (Time × Time) :=
  match prev.speedAt, row.speedAt with
  | some before, some now =>
    let gap := totalSeconds id (now - before)
    if continuousRows id cycleS prev row ∧ 0 < gap ∧
        gap ≤ cycleS * (if row.timed then 3 / 2 else 3) then some (before, now)
    else none
  | _, _ => none

namespace MotionAccumulator

variable (acc : MotionAccumulator) (o : Observation)

def joined : Option (Time × Time) :=
  acc.previous.bind fun prev => joins acc.cycleS prev (motionRow acc.requireTiming o)

def stretch : Option Stretch :=
  match acc.joined o, acc.previous.bind (·.speed), o.speed with
  | some span, some before, some speed => some ⟨span, (before + speed) / 2⟩
  | _, _, _ => none

def idle : Option (Time × Time) :=
  match acc.joined o, acc.previous.bind (·.rpm), acc.previous.bind (·.speed) with
  | some span, some rpm, some speed => if 300 < rpm ∧ speed < 1 then some span else none
  | _, _, _ => none

def observeAll (rows : List Observation) : MotionAccumulator :=
  rows.foldl (fun acc o => acc.observe id o) acc

def stretches : List Observation → List Stretch :=
  collect (fun acc o => acc.observe id o) stretch acc

def idles : List Observation → List (Time × Time) :=
  collect (fun acc o => acc.observe id o) idle acc

@[simp] theorem observe_previous :
    (acc.observe id o).previous = some (motionRow acc.requireTiming o) := rfl

theorem join_eq (row prev : MotionRow) :
    acc.join id row prev = match joins acc.cycleS prev row with
      | some span =>
        (acc.addDistance id prev row (seconds (span.2 - span.1))).addIdle id prev
          (seconds (span.2 - span.1))
      | none => acc := by
  unfold join joins secondsBetween
  cases prev.speedAt with
  | none => simp
  | some before =>
    cases row.speedAt with
    | none => simp
    | some now =>
      dsimp only [id]
      generalize acc.cycleS * (if row.timed then 3 / 2 else 3) = limit
      split <;> rfl

theorem join_kept (row prev : MotionRow) :
    (acc.join id row prev).cycleS = acc.cycleS ∧
      (acc.join id row prev).requireTiming = acc.requireTiming := by
  rw [join_eq]
  unfold addIdle addDistance
  split
  · split <;> split <;> exact ⟨rfl, rfl⟩
  · exact ⟨rfl, rfl⟩

theorem observe_kept : (acc.observe id o).cycleS = acc.cycleS ∧
    (acc.observe id o).requireTiming = acc.requireTiming := by
  unfold observe
  cases acc.previous with
  | none => exact ⟨rfl, rfl⟩
  | some prev => exact join_kept acc _ prev

theorem observe_distanceKm : (acc.observe id o).distanceKm = acc.distanceKm +
    (acc.stretch o).elim 0 fun s => s.meanKmh * seconds (s.span.2 - s.span.1) / 3600 := by
  unfold observe stretch joined
  cases acc.previous with
  | none => simp
  | some prev =>
    simp only [Option.elim_some, Option.bind_some, join_eq]
    cases joins acc.cycleS prev (motionRow acc.requireTiming o) with
    | none => simp
    | some span =>
      have speed : (motionRow acc.requireTiming o).speed = o.speed := rfl
      have idle (other : MotionAccumulator) (gap : ℚ) :
          (other.addIdle id prev gap).distanceKm = other.distanceKm := by
        unfold addIdle
        split <;> rfl
      rw [idle]
      unfold addDistance
      rw [speed]
      cases prev.speed <;> cases o.speed <;> simp [distanceOver]

theorem observe_idleS : (acc.observe id o).idleS = acc.idleS +
    (acc.idle o).elim 0 fun span => seconds (span.2 - span.1) := by
  unfold observe idle joined
  cases acc.previous with
  | none => simp
  | some prev =>
    simp only [Option.elim_some, Option.bind_some, join_eq]
    cases joins acc.cycleS prev (motionRow acc.requireTiming o) with
    | none => simp
    | some span =>
      have distance (row : MotionRow) (gap : ℚ) :
          (acc.addDistance id prev row gap).idleS = acc.idleS := by
        unfold addDistance
        split <;> rfl
      unfold addIdle
      cases prev.rpm <;> cases prev.speed <;> simp [distance]
      split <;> simp

theorem stretch_joined : ∀ s ∈ acc.stretch o, acc.joined o = some s.span := by
  intro s given
  unfold stretch at given
  split at given
  · rename_i span _ _ joined _ _
    obtain rfl := Option.some.inj given
    exact joined
  · cases given

theorem idle_joined : ∀ span ∈ acc.idle o, acc.joined o = some span := by
  intro span given
  unfold idle at given
  split at given
  · rename_i joined _ _
    split at given
    · obtain rfl := Option.some.inj given
      exact joined
    · cases given
  · cases given

end MotionAccumulator

theorem responseTime_le {capturedAt t : Time} {quality : Json} {pid : ℕ} {requireTiming : Bool}
    (known : responseTime capturedAt quality pid requireTiming = some t) : t ≤ capturedAt := by
  have same {timing : Bool} (given : (if timing then none else some capturedAt) = some t) :
      t ≤ capturedAt := by
    split at given
    · cases given
    · exact (Option.some.inj given).ge
  unfold responseTime at known
  split at known
  · split at known
    · obtain ⟨age, aged, rfl⟩ := Option.map_eq_some_iff.mp known
      have least : 0 ≤ age := by
        unfold responseAge at aged
        split at aged
        · split at aged
          · split at aged
            · rename_i range
              exact Option.some.inj aged ▸ range.1
            · cases aged
          · cases aged
        · cases aged
      exact Int.sub_le_self _ (by positivity)
    · exact same known
  · exact same known

theorem speedAt_le {requireTiming : Bool} {o : Observation} {t : Time}
    (known : (motionRow requireTiming o).speedAt = some t) : t ≤ o.capturedAt := by
  unfold motionRow at known
  dsimp only at known
  split at known
  · cases known
  · split at known
    · exact responseTime_le known
    · cases known

theorem joins_spec {cycleS : ℚ} {prev row : MotionRow} {span : Time × Time}
    (joined : joins cycleS prev row = some span) :
    prev.speedAt = some span.1 ∧ row.speedAt = some span.2 ∧ span.1 < span.2 := by
  unfold joins at joined
  split at joined
  · rename_i before now first last
    dsimp only at joined
    generalize cycleS * (if row.timed then 3 / 2 else 3) = limit at joined
    split at joined
    · rename_i gap
      obtain rfl := Option.some.inj joined
      refine ⟨first, last, ?_⟩
      have positive : seconds before < seconds now := by
        have forward := gap.2.1
        rw [show totalSeconds id (now - before) = seconds (now - before) from rfl,
          seconds_sub] at forward
        linarith
      exact lt_of_not_ge fun order => absurd (seconds_le.mpr order) (not_le.mpr positive)
    · cases joined
  · cases joined

section

variable (cycleS : ℚ) (requireTiming : Bool) (rows : List Observation)

def measured (o : Observation) : Option Time := (motionRow requireTiming o).speedAt

def unmoved : MotionAccumulator := { cycleS, requireTiming }

def Onward : Prop := ∀ before a b after, rows = before ++ a :: b :: after →
  (joins cycleS (motionRow requireTiming a) (motionRow requireTiming b)).isSome →
    ∀ r ∈ before, ∀ t ∈ measured requireTiming r, ∀ u ∈ measured requireTiming a, t ≤ u

def joinedAll : List (Time × Time) :=
  collect (fun acc o => acc.observe id o) MotionAccumulator.joined (unmoved cycleS requireTiming)
    rows

structure Observed : Prop where
  cycle : ((unmoved cycleS requireTiming).observeAll rows).cycleS = cycleS
  timing : ((unmoved cycleS requireTiming).observeAll rows).requireTiming = requireTiming
  previous : ((unmoved cycleS requireTiming).observeAll rows).previous =
    rows.getLast?.map (motionRow requireTiming)
  ends : ∀ span ∈ joinedAll cycleS requireTiming rows, span.1 < span.2 ∧
    (∃ a ∈ rows, measured requireTiming a = some span.1) ∧
    ∃ b ∈ rows, measured requireTiming b = some span.2
  ordered : InOrder ((joinedAll cycleS requireTiming rows).map instants)

variable {cycleS requireTiming rows}

theorem Observed.add {o : Observation} (observed : Observed cycleS requireTiming rows)
    (onward : Onward cycleS requireTiming (rows ++ [o])) :
    Observed cycleS requireTiming (rows ++ [o]) := by
  obtain ⟨cycle, timing, previous, ends, ordered⟩ := observed
  have run : (unmoved cycleS requireTiming).observeAll (rows ++ [o]) =
      ((unmoved cycleS requireTiming).observeAll rows).observe id o := by
    simp [MotionAccumulator.observeAll]
  obtain ⟨sameCycle, sameTiming⟩ :=
    MotionAccumulator.observe_kept ((unmoved cycleS requireTiming).observeAll rows) o
  have collected : joinedAll cycleS requireTiming (rows ++ [o]) =
      joinedAll cycleS requireTiming rows ++
        (((unmoved cycleS requireTiming).observeAll rows).joined o).toList := collect_append _ _ _
  -- a new span is from the last row to this one
  have fresh : ∀ span ∈ (((unmoved cycleS requireTiming).observeAll rows).joined o).toList,
      span.1 < span.2 ∧ ∃ before a, rows = before ++ [a] ∧
        measured requireTiming a = some span.1 ∧ measured requireTiming o = some span.2 ∧
        (joins cycleS (motionRow requireTiming a) (motionRow requireTiming o)).isSome := by
    intro span given
    rw [Option.mem_toList, MotionAccumulator.joined, previous, cycle, timing] at given
    obtain ⟨row, last, joined⟩ := Option.bind_eq_some_iff.mp given
    obtain ⟨a, final, rfl⟩ := Option.map_eq_some_iff.mp last
    obtain ⟨before, split⟩ := List.getLast?_eq_some_iff.mp final
    obtain ⟨first, second, order⟩ := joins_spec joined
    exact ⟨order, before, a, split, first, second, by rw [joined]; rfl⟩
  refine ⟨by rw [run, sameCycle, cycle], by rw [run, sameTiming, timing], ?_, ?_, ?_⟩
  · rw [run, MotionAccumulator.observe_previous, timing]
    simp
  · intro span member
    rw [collected] at member
    obtain old | new := List.mem_append.mp member
    · obtain ⟨order, ⟨a, among, start⟩, b, also, stop⟩ := ends span old
      exact ⟨order, ⟨a, List.mem_append_left _ among, start⟩, b, List.mem_append_left _ also, stop⟩
    · obtain ⟨order, before, a, rfl, start, stop, -⟩ := fresh span new
      exact ⟨order, ⟨a, by simp, start⟩, o, by simp, stop⟩
  · rw [collected, List.map_append]
    refine List.pairwise_append.mpr ⟨ordered, ?_, ?_⟩
    · cases ((unmoved cycleS requireTiming).observeAll rows).joined o <;> simp
    · intro c old d new
      obtain ⟨earlier, member, rfl⟩ := List.mem_map.mp old
      obtain ⟨later, given, rfl⟩ := List.mem_map.mp new
      obtain ⟨-, before, a, rfl, start, -, joined⟩ := fresh later given
      obtain ⟨-, -, b, among, stop⟩ := ends earlier member
      refine seconds_le.mpr ?_
      obtain inside | last := List.mem_append.mp among
      · exact onward before a o [] (by simp) joined b inside _ stop _ start
      · obtain rfl : b = a := by simpa using last
        rw [stop] at start
        exact (Option.some.inj start).le

theorem observed (onward : Onward cycleS requireTiming rows) :
    Observed cycleS requireTiming rows := by
  induction rows using List.reverseRecOn with
  | nil => exact ⟨rfl, rfl, rfl, by simp [joinedAll, collect], List.Pairwise.nil⟩
  | append_singleton rows o ih =>
    refine (ih fun before a b after split => ?_).add onward
    exact onward before a b (after ++ [o]) (by simp [split])

end

end DashcamStats.Obd
