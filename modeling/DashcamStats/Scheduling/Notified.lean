import DashcamStats.Scheduling.Followups

namespace DashcamStats.Scheduling

open Relation (ReflTransGen)

namespace Scheduler

variable {s s' : Scheduler}

structure Sound (s : Scheduler) : Prop where
  begun : ∀ walk ∈ s.walk, walk.ingestGeneration ≤ s.ingestScanGeneration
  heard : s.ingestScanDueAt = none → s.ingestScanGeneration ≤ s.covered ∨
    ∃ walk ∈ s.walk, walk.ingestGeneration = s.ingestScanGeneration

def Bounded (s : Scheduler) : Prop := s.followUps + s.settlingScanRemaining ≤ SETTLING_SCAN_LIMIT

structure Same (s s' : Scheduler) : Prop where
  due : s'.ingestScanDueAt = s.ingestScanDueAt
  generation : s'.ingestScanGeneration = s.ingestScanGeneration
  walk : s'.walk = s.walk
  covered : s'.covered = s.covered

theorem Same.sound (same : Same s s') (sound : s.Sound) : s'.Sound := by
  obtain ⟨due, generation, walk, covered⟩ := same
  refine ⟨?_, ?_⟩
  · rw [walk, generation]
    exact sound.begun
  · rw [due, generation, walk, covered]
    exact sound.heard

theorem abandon_same (generation : ℕ) (s : Scheduler) : Same s (s.abandon generation) := by
  unfold abandon
  split <;> exact ⟨rfl, rfl, rfl, rfl⟩

theorem abandon_bounded (generation : ℕ) (bounded : s.Bounded) :
    (s.abandon generation).Bounded := by
  unfold abandon
  split
  · exact (Nat.le_add_right _ _).trans bounded
  · exact bounded

theorem scheduleSettlingScan_same (summary : ScanSummary) (settings : Settings) (now : ℚ)
    (generation : ℕ) (earlierDue : Option ℚ) (s : Scheduler) :
    Same s (s.scheduleSettlingScan summary settings now generation earlierDue) := by
  unfold scheduleSettlingScan
  split
  · exact ⟨rfl, rfl, rfl, rfl⟩
  · split <;> exact ⟨rfl, rfl, rfl, rfl⟩

theorem scheduleSettlingScan_bounded (summary : ScanSummary) (settings : Settings) (now : ℚ)
    (generation : ℕ) (earlierDue : Option ℚ) (bounded : s.Bounded) :
    (s.scheduleSettlingScan summary settings now generation earlierDue).Bounded := by
  unfold scheduleSettlingScan
  split
  · exact bounded
  · split
    · exact (Nat.le_add_right _ _).trans bounded
    · exact bounded

theorem scan_cases {trigger : Trigger} (begun : s.scan trigger = some s') :
    s.walk = none ∧ s'.walk = some ⟨trigger, s.ingestScanGeneration⟩ ∧
      s'.ingestScanGeneration = s.ingestScanGeneration ∧ s'.covered = s.covered ∧
      s'.settlingScanRemaining = s.settlingScanRemaining ∧
      s'.followUps ≤ s.followUps + 1 ∧
      ((∀ generation, trigger ≠ .followUp generation) → s'.followUps = s.followUps) := by
  unfold scan at begun
  split at begun
  · cases begun
  next free =>
    cases begun
    refine ⟨not_not.mp free, rfl, rfl, rfl, rfl, ?_, fun other => ?_⟩
    · dsimp only
      split
      · exact Nat.le_refl _
      · exact Nat.le_succ _
    · dsimp only
      split
      next generation => exact absurd rfl (other generation)
      next => rfl

theorem sound_scan {trigger : Trigger} (begun : s.scan trigger = some s') : s'.Sound := by
  have ⟨_, walk, generation, _, _, _⟩ := scan_cases begun
  refine ⟨fun other isOther => ?_, fun _ => .inr ?_⟩
  · rw [walk] at isOther
    cases isOther
    exact Nat.le_of_eq generation.symm
  · exact ⟨_, walk, generation.symm⟩

theorem Sound.loop (sound : s.Sound) (phase : LoopPhase) : Sound { s with loop := phase } :=
  ⟨sound.begun, sound.heard⟩

theorem sound_runDueIngestScan {moment : ℚ} {settings : Settings} (sound : s.Sound)
    (enabled : settings.scanEnabled = true)
    (timely : s.ingestScanDueAt.all (moment < ·) = true ∨ s.Covering) :
    (s.runDueIngestScan moment settings).Sound := by
  unfold runDueIngestScan
  split
  · exact sound
  next due =>
    have covering := timely.resolve_left due
    dsimp only
    rw [enabled, Bool.not_true, if_neg Bool.false_ne_true]
    split
    next walking begun => exact (sound_scan begun).loop .walking
    next refused =>
      refine ⟨sound.begun, fun _ => .inr ?_⟩
      -- The walk that is in progress began after the notification.
      cases isWalk : s.walk with
      | none => simp [scan, isWalk] at refused
      | some walk => exact ⟨walk, rfl, covering walk isWalk⟩

theorem sound_runDueSettlingScan {moment : ℚ} {settings : Settings} (sound : s.Sound) :
    (s.runDueSettlingScan moment settings).Sound := by
  unfold runDueSettlingScan
  split
  · exact sound
  · dsimp only
    split
    · exact ⟨sound.begun, sound.heard⟩
    · split
      next walking begun => exact (sound_scan begun).loop .walking
      next => exact (abandon_same _ _).sound ⟨sound.begun, sound.heard⟩

theorem sound_hear {walk : Walk} (sound : s.Sound) (isWalk : s.walk = some walk) :
    (hear walk { s with
      walk := none
      covered := max s.covered walk.ingestGeneration }).Sound := by
  unfold hear
  dsimp only
  split
  next same =>
    exact ⟨(fun _ none => by cases none), fun _ => .inl (same ▸ Nat.le_max_right _ _)⟩
  next other =>
    refine ⟨(fun _ none => by cases none), fun none => .inl ?_⟩
    rcases sound.heard none with covered | ⟨running, isRunning, same⟩
    · exact covered.trans (Nat.le_max_left _ _)
    · cases isWalk.symm.trans isRunning
      exact absurd same other

theorem sound_afterWalk {walk : Walk} (summary : ScanSummary) (settings : Settings) (now : ℚ)
    (sound : s.Sound) (isWalk : s.walk = some walk) :
    (s.afterWalk walk summary settings now).Sound := by
  have heard := sound_hear sound isWalk
  unfold afterWalk
  dsimp only
  split
  · exact (scheduleSettlingScan_same _ _ _ _ _ _).sound heard
  · exact (scheduleSettlingScan_same _ _ _ _ _ _).sound ⟨heard.begun, heard.heard⟩

theorem sound_step {event : Event} (sound : s.Sound) (enabled : event.Enabled)
    (timely : event.Timely s) (step : s.step event = some s') : s'.Sound := by
  cases event with
  | request now =>
    cases step
    exact ⟨fun walk isWalk => Nat.le_succ_of_le (sound.begun walk isWalk),
      fun none => by cases none⟩
  | ingestTick moment settings =>
    simp only [Scheduler.step, Option.ite_none_right_eq_some] at step
    obtain ⟨_, same⟩ := step
    cases same
    exact sound_runDueIngestScan sound enabled timely
  | settlingTick moment settings =>
    simp only [Scheduler.step, Option.ite_none_right_eq_some] at step
    obtain ⟨_, same⟩ := step
    cases same
    exact sound_runDueSettlingScan sound
  | scheduledScan =>
    simp only [Scheduler.step, Option.ite_none_right_eq_some] at step
    obtain ⟨_, begun⟩ := step
    obtain ⟨walking, isBegun, rfl⟩ := Option.map_eq_some_iff.mp begun
    exact (sound_scan isBegun).loop .walking
  | manualScan => exact sound_scan step
  | walked summary settings now =>
    obtain ⟨walk, isWalk, ended⟩ := Option.map_eq_some_iff.mp step
    have after := sound_afterWalk summary settings now sound isWalk
    dsimp only at ended
    split at ended
    · exact ended ▸ after
    · exact ended ▸ after.loop _
  | rested failed =>
    simp only [Scheduler.step] at step
    split at step
    · split at step
      · cases step
        exact (abandon_same _ _).sound (sound.loop .idle)
      · cases step
        exact sound.loop .idle
    · cases step

theorem bounded_scan {trigger : Trigger} (begun : s.scan trigger = some s')
    (bounded : s.Bounded) (other : ∀ generation, trigger ≠ .followUp generation) : s'.Bounded := by
  have ⟨_, _, _, _, remaining, _, same⟩ := scan_cases begun
  rw [Bounded, remaining, same other]
  exact bounded

theorem bounded_followUp {generation : ℕ} (begun : s.scan (.followUp generation) = some s')
    (room : s.followUps + (s.settlingScanRemaining + 1) ≤ SETTLING_SCAN_LIMIT) : s'.Bounded := by
  have ⟨_, _, _, _, remaining, more, _⟩ := scan_cases begun
  rw [Bounded, remaining]
  omega

theorem bounded_runDueIngestScan (moment : ℚ) (settings : Settings) (bounded : s.Bounded) :
    (s.runDueIngestScan moment settings).Bounded := by
  unfold runDueIngestScan
  split
  · exact bounded
  · dsimp only
    split
    · exact bounded
    · split
      next walking begun =>
        have counted : walking.Bounded := bounded_scan begun bounded fun _ same => by cases same
        exact counted
      next => exact bounded

theorem bounded_runDueSettlingScan (moment : ℚ) (settings : Settings) (bounded : s.Bounded) :
    (s.runDueSettlingScan moment settings).Bounded := by
  unfold runDueSettlingScan
  split
  · exact bounded
  · dsimp only
    split
    · exact (Nat.le_add_right _ _).trans bounded
    next proceeds =>
      have some : s.settlingScanRemaining ≠ 0 := fun none => proceeds (by simp [none])
      have room : s.followUps + (s.settlingScanRemaining - 1 + 1) ≤ SETTLING_SCAN_LIMIT := by
        rw [Nat.sub_add_cancel (Nat.pos_of_ne_zero some)]
        exact bounded
      split
      next walking begun =>
        have counted : walking.Bounded := bounded_followUp begun room
        exact counted
      next => exact abandon_bounded _ (Nat.le_of_succ_le room)

theorem bounded_afterWalk (walk : Walk) (summary : ScanSummary) (settings : Settings) (now : ℚ)
    (bounded : s.Bounded) : (s.afterWalk walk summary settings now).Bounded := by
  have heard : (hear walk { s with
      walk := none, covered := max s.covered walk.ingestGeneration }).Bounded := by
    unfold hear
    split <;> exact bounded
  unfold afterWalk
  dsimp only
  split
  · exact scheduleSettlingScan_bounded _ _ _ _ _ heard
  · refine scheduleSettlingScan_bounded _ _ _ _ _ ?_
    exact Nat.le_of_eq (Nat.zero_add _)

theorem bounded_step {event : Event} (bounded : s.Bounded) (step : s.step event = some s') :
    s'.Bounded := by
  cases event with
  | request now =>
    cases step
    exact bounded
  | ingestTick moment settings =>
    simp only [Scheduler.step, Option.ite_none_right_eq_some] at step
    obtain ⟨_, same⟩ := step
    cases same
    exact bounded_runDueIngestScan moment settings bounded
  | settlingTick moment settings =>
    simp only [Scheduler.step, Option.ite_none_right_eq_some] at step
    obtain ⟨_, same⟩ := step
    cases same
    exact bounded_runDueSettlingScan moment settings bounded
  | scheduledScan =>
    simp only [Scheduler.step, Option.ite_none_right_eq_some] at step
    obtain ⟨_, begun⟩ := step
    obtain ⟨walking, isBegun, rfl⟩ := Option.map_eq_some_iff.mp begun
    have counted : walking.Bounded := bounded_scan isBegun bounded fun _ same => by cases same
    exact counted
  | manualScan => exact bounded_scan step bounded fun _ same => by cases same
  | walked summary settings now =>
    obtain ⟨walk, _, ended⟩ := Option.map_eq_some_iff.mp step
    have after := bounded_afterWalk walk summary settings now bounded
    dsimp only at ended
    split at ended
    · exact ended ▸ after
    · exact ended ▸ after
  | rested failed =>
    simp only [Scheduler.step] at step
    split at step
    · split at step
      · cases step
        exact abandon_bounded _ bounded
      · cases step
        exact bounded
    · cases step

theorem invariants_run (run : ReflTransGen TimelyStep fresh s) : s.Sound ∧ s.Bounded := by
  induction run with
  | refl => exact ⟨⟨(fun _ none => by cases none), fun _ => .inl (Nat.le_refl _)⟩,
      Nat.zero_le _⟩
  | tail _ step ih =>
    obtain ⟨event, enabled, timely, step⟩ := step
    exact ⟨sound_step ih.1 enabled timely step, bounded_step ih.2 step⟩

/-- Every notification gets its walk, and no chain of follow-ups passes the limit. -/
theorem notifications_walked (run : ReflTransGen TimelyStep fresh s) : s.Notified := by
  have ⟨sound, bounded⟩ := invariants_run run
  refine ⟨fun free none => ?_, (Nat.le_add_right _ _).trans bounded⟩
  rcases sound.heard none with covered | ⟨walk, isWalk, _⟩
  · exact covered
  · rw [free] at isWalk
    cases isWalk

theorem followUps_le (run : ReflTransGen Step fresh s) : s.followUps ≤ SETTLING_SCAN_LIMIT := by
  have bounded : s.Bounded := by
    induction run with
    | refl => exact Nat.zero_le _
    | tail _ step ih =>
      obtain ⟨event, _, step⟩ := step
      exact bounded_step ih step
  exact (Nat.le_add_right _ _).trans bounded

def settings : Settings := ⟨true, true, 60⟩

def summary : ScanSummary := ⟨0, 0, false⟩

def onceWalked : Scheduler :=
  { fresh with
    ingestScanGeneration := 1, settlingScanGeneration := 1, loop := .resting .ingest, covered := 1 }

theorem notifications_walked_once : ∃ s, ReflTransGen TimelyStep fresh s ∧
    s.ingestScanGeneration = 1 ∧ s.walk = none ∧ s.Notified := by
  have run := ReflTransGen.refl (r := TimelyStep) (a := fresh)
    |>.tail (c := { fresh with ingestScanGeneration := 1, ingestScanDueAt := some 2 })
      ⟨.request 0, trivial, trivial, by decide +kernel⟩
    |>.tail (c := { fresh with
        ingestScanGeneration := 1, walk := some ⟨.ingest, 1⟩, loop := .walking })
      ⟨.ingestTick 2 settings, rfl, .inr (fun _ none => by cases none), by decide +kernel⟩
    |>.tail (c := onceWalked)
      ⟨.walked summary settings 3, rfl, trivial, by decide +kernel⟩
  exact ⟨_, run, rfl, rfl, notifications_walked run⟩

def unheard : Scheduler :=
  { fresh with ingestScanGeneration := 1, settlingScanGeneration := 1 }

/-- A notification falls due during a manual walk that began before it. The tick consumes the
deadline, and the scanner refuses. -/
theorem notification_lost : ∃ s, ReflTransGen Step fresh s ∧ s.walk = none ∧
    s.ingestScanDueAt = none ∧ s.ingestScanGeneration = 1 ∧ s.covered = 0 ∧ ¬ s.Notified := by
  have run := ReflTransGen.refl (r := Step) (a := fresh)
    |>.tail (c := { fresh with walk := some ⟨.manual, 0⟩ })
      ⟨.manualScan, trivial, by decide +kernel⟩
    |>.tail (c := { fresh with
        walk := some ⟨.manual, 0⟩, ingestScanGeneration := 1, ingestScanDueAt := some 2 })
      ⟨.request 0, trivial, by decide +kernel⟩
    |>.tail (c := { fresh with walk := some ⟨.manual, 0⟩, ingestScanGeneration := 1 })
      ⟨.ingestTick 2 settings, rfl, by decide +kernel⟩
    |>.tail (c := unheard)
      ⟨.walked summary settings 3, rfl, by decide +kernel⟩
  refine ⟨_, run, rfl, rfl, rfl, rfl, fun notified => ?_⟩
  exact absurd (notified.walked rfl rfl) (by decide)

end Scheduler

end DashcamStats.Scheduling
