import DashcamStats.Workers.Pool

namespace DashcamStats.Workers

open DashcamStats.Queue

def ResetTask.inside : ResetTask → Prop
  | .entered | .cleared | .aborting _ => True
  | .idle | .committing => False

structure Serialized (p : Pool) : Prop where
  workers : ∀ w h, (p.workers w).holds w = some h → p.barrier = some h
  reset : p.reset.inside → p.barrier = some .reset

structure Exclusion (p : Pool) : Prop where
  rows : ∀ w run, (p.workers w).held = some run →
    ∃ j ∈ p.db.jobs, j.id = run.jobId ∧ j.recordingId = run.recordingId
  apart : ∀ v w run run' r, v ≠ w → (p.workers v).held = some run →
    (p.workers w).held = some run' → run.recordingId = some r → run'.recordingId ≠ some r
  registered : ∀ w run r, (p.workers w).inFlight = some run → run.recordingId = some r →
    ∃ a ∈ p.active, a.jobId = run.jobId ∧ a.recordingId = some r
  seen : ∀ v seen owed, p.workers v = .claiming seen owed → ∀ w run r,
    (p.workers w).held = some run → run.recordingId = some r →
      r ∈ seen ∨ (owed w ∧ (p.workers w).isWaking)

variable {settings : Settings} {p q : Pool} {event : Event}

theorem Worker.holds_worker {w : Nat} {x : Worker} {h : Holder} (holds : x.holds w = some h) :
    h = .worker w ∨ h = .outcome w := by
  unfold Worker.holds at holds
  split at holds <;> simp_all

theorem Serialized.move (sound : Serialized p) {w : Nat} {x : Worker} (db : Db)
    (active : Table ActiveJob ActiveJob.jobId) (same : x.holds w = (p.workers w).holds w) :
    Serialized { p.set w x with db := db, active := active } := by
  constructor
  · intro v h holds
    by_cases eq : v = w
    · subst eq
      simp only [Pool.set, Function.update_self, same] at holds
      exact sound.workers v h holds
    · simp only [Pool.set, Function.update_of_ne eq] at holds
      exact sound.workers v h holds
  · exact sound.reset

-- The barrier changes hands: worker `w` enters it free, or leaves it.
theorem Serialized.pass (sound : Serialized p) {w : Nat} (x : Worker) (db : Db)
    (active : Table ActiveJob ActiveJob.jobId)
    (had : p.barrier = none ∨ p.barrier = some (.worker w) ∨ p.barrier = some (.outcome w)) :
    Serialized { p.set w x with db := db, active := active, barrier := x.holds w } := by
  constructor
  · intro v h holds
    by_cases eq : v = w
    · subst eq
      simpa [Pool.set] using holds
    · simp only [Pool.set, Function.update_of_ne eq] at holds
      have held := sound.workers v h holds
      exfalso
      rcases Worker.holds_worker holds with rfl | rfl <;> rw [held] at had <;> simp_all
  · intro inside
    have held := sound.reset inside
    rw [held] at had
    simp at had

theorem Serialized.no_worker (sound : Serialized p) {w : Nat} {h : Holder}
    (free : p.barrier = none ∨ p.barrier = some .reset) : (p.workers w).holds w ≠ some h := by
  intro holds
  have held := sound.workers w h holds
  rcases Worker.holds_worker holds with rfl | rfl <;> rw [held] at free <;> simp at free

theorem Serialized.pass_reset (sound : Serialized p)
    (free : p.barrier = none ∨ p.barrier = some .reset) (barrier : Option Holder)
    (reset : ResetTask) (inside : reset.inside → barrier = some .reset) :
    Serialized { p with barrier := barrier, reset := reset } :=
  ⟨fun _ _ holds => absurd holds (sound.no_worker free), inside⟩

theorem Serialized.step (sound : Serialized p) (step : Step settings p event q) :
    Serialized q := by
  cases step with
  | call => exact ⟨sound.workers, sound.reset⟩
  | askBarrier idle => exact sound.move p.db p.active (by simp [idle, Worker.holds])
  | enter waiting free => exact sound.pass (.claiming _ _) p.db p.active (.inl free)
  | claim claiming => exact sound.move _ p.active (by simp [claiming, Worker.holds])
  | leave inside =>
    exact sound.pass .idle p.db p.active (.inr (.inl (sound.workers _ _ inside)))
  | @register w run claimed =>
    have held := sound.workers w (.worker w) (by simp [claimed, Worker.holds])
    exact sound.pass (.running run .created) p.db _ (.inr (.inl held))
  | begin created => exact sound.move p.db _ (by simp [created, Worker.holds])
  | heartbeat => split <;> exact ⟨sound.workers, sound.reset⟩
  | finishWork working => exact sound.move p.db p.active (by simp [working, Worker.holds])
  | interruptNew created => exact sound.move p.db p.active (by simp [created, Worker.holds])
  | @interrupt w run phase running begun =>
    by_cases outcome : phase = .outcome
    · have held := sound.workers w (.outcome w) (by simp [running, outcome, Worker.holds])
      simp only [outcome, if_true]
      exact sound.pass (.running run .closing) p.db p.active (.inr (.inr held))
    · have same : (Worker.running run .closing).holds w = (p.workers w).holds w := by
        cases phase <;> simp_all [Worker.holds]
      simp only [outcome, if_false]
      exact sound.move p.db p.active same
  | @enterOutcome w run recording free =>
    exact sound.pass (.running run .outcome) p.db p.active (.inl free)
  | @recordOutcome w run call outcome =>
    have held := sound.workers w (.outcome w) (by simp [outcome, Worker.holds])
    exact sound.pass (.running run .closing) _ p.active (.inr (.inr held))
  | endRun closing => exact sound.move p.db _ (by simp [closing, Worker.holds])
  | wake waking => exact sound.move p.db _ (by simp [waking, Worker.holds])
  | resetEnter idle free => exact sound.pass_reset (.inl free) _ _ fun _ => rfl
  | resetClear entered =>
    exact ⟨sound.workers, fun _ => sound.reset (by simp [entered, ResetTask.inside])⟩
  | resetAbort cleared =>
    exact ⟨sound.workers, fun _ => sound.reset (by simp [cleared, ResetTask.inside])⟩
  | resetRaise aborting =>
    have held := sound.reset (by simp [aborting, ResetTask.inside])
    exact sound.pass_reset (.inr held) _ _ fun inside => absurd inside not_false
  | resetStopped aborting =>
    have held := sound.reset (by simp [aborting, ResetTask.inside])
    exact sound.pass_reset (.inr held) _ _ fun inside => absurd inside not_false
  | resetCommit => exact ⟨sound.workers, fun inside => absurd inside not_false⟩

theorem Exclusion.jobs_apart (sound : Exclusion p) {v w : Nat} (ne : v ≠ w) {run run' : Claimed}
    {r : RecordingId} (heldV : (p.workers v).held = some run)
    (heldW : (p.workers w).held = some run') (here : run.recordingId = some r) :
    run.jobId ≠ run'.jobId := by
  intro same
  obtain ⟨j, stored, id, rec⟩ := sound.rows v run heldV
  obtain ⟨j', stored', id', rec'⟩ := sound.rows w run' heldW
  obtain rfl : j = j' := Table.eq_of_key stored stored' (id.trans (same.trans id'.symm))
  exact sound.apart v w run run' r ne heldV heldW here (rec'.symm.trans (rec.trans here))

theorem Worker.held_of_inFlight {x : Worker} {run : Claimed} (flight : x.inFlight = some run) :
    x.held = some run := by
  cases x <;> simp_all [Worker.inFlight, Worker.held]

theorem Exclusion.of_db (sound : Exclusion p) {db : Db} (rows : p.db.Extends db)
    (barrier : Option Holder) (reset : ResetTask) :
    Exclusion { p with db := db, barrier := barrier, reset := reset } := by
  refine ⟨?_, sound.apart, sound.registered, sound.seen⟩
  intro w run held
  obtain ⟨j, stored, id, rec⟩ := sound.rows w run held
  obtain ⟨k, storedK, idK, recK, _⟩ := rows j stored
  exact ⟨k, storedK, idK.trans id, recK.trans rec⟩

-- Worker `w` goes on with the row it holds, or lets it go.
theorem Exclusion.move (sound : Exclusion p) {w : Nat} {x : Worker} {db : Db}
    (rows : p.db.Extends db) (active : Table ActiveJob ActiveJob.jobId) (barrier : Option Holder)
    (same : ∀ run, x.held = some run → (p.workers w).held = some run ∧ ¬ (p.workers w).isWaking)
    (outside : ∀ seen owed, x ≠ .claiming seen owed)
    (registered : ∀ v run r, (Function.update p.workers w x v).inFlight = some run →
      run.recordingId = some r → ∃ a ∈ active, a.jobId = run.jobId ∧ a.recordingId = some r) :
    Exclusion { p.set w x with db := db, active := active, barrier := barrier } := by
  have held (v : Nat) (run : Claimed) (now : (Function.update p.workers w x v).held = some run) :
      (p.workers v).held = some run := by
    by_cases eq : v = w
    · subst eq
      rw [Function.update_self] at now
      exact (same run now).1
    · rwa [Function.update_of_ne eq] at now
  constructor
  · intro v run now
    obtain ⟨j, stored, id, rec⟩ := sound.rows v run (held v run now)
    obtain ⟨k, storedK, idK, recK, _⟩ := rows j stored
    exact ⟨k, storedK, idK.trans id, recK.trans rec⟩
  · intro v v' run run' r ne now now' here
    exact sound.apart v v' run run' r ne (held v run now) (held v' run' now') here
  · exact registered
  · intro v seen owed claiming v' run r now here
    have before : p.workers v = .claiming seen owed := by
      by_cases eq : v = w
      · subst eq
        simp only [Pool.set, Function.update_self] at claiming
        exact absurd claiming (outside seen owed)
      · simpa only [Pool.set, Function.update_of_ne eq] using claiming
    rcases sound.seen v seen owed before v' run r (held v' run now) here with inSeen | ⟨late, waking⟩
    · exact .inl inSeen
    · refine .inr ⟨late, ?_⟩
      by_cases eq : v' = w
      · subst eq
        simp only [Pool.set, Function.update_self] at now
        exact absurd waking (same run now).2
      · simpa only [Pool.set, Function.update_of_ne eq] using waking

-- Entries stay in step when only the entry of worker `w`'s own job is written.
theorem Exclusion.entries (sound : Exclusion p) {w : Nat} {x : Worker} (run : Claimed)
    (held : (p.workers w).held = some run) (active : Table ActiveJob ActiveJob.jobId)
    (others : ∀ a ∈ p.active, a.jobId ≠ run.jobId → ∃ b ∈ active, b.jobId = a.jobId ∧
      b.recordingId = a.recordingId)
    (flight : ∀ run', x.inFlight = some run' → run' = run ∧ ∀ r, run.recordingId = some r →
      ∃ a ∈ active, a.jobId = run.jobId ∧ a.recordingId = some r) :
    ∀ v run' r, (Function.update p.workers w x v).inFlight = some run' →
      run'.recordingId = some r → ∃ a ∈ active, a.jobId = run'.jobId ∧ a.recordingId = some r := by
  intro v run' r now here
  by_cases eq : v = w
  · subst eq
    rw [Function.update_self] at now
    obtain ⟨rfl, own⟩ := flight run' now
    exact own r here
  · rw [Function.update_of_ne eq] at now
    have heldV := Worker.held_of_inFlight now
    obtain ⟨a, member, job, rec⟩ := sound.registered v run' r now here
    obtain ⟨b, memberB, jobB, recB⟩ := others a member
      (job ▸ sound.jobs_apart eq heldV held here)
    exact ⟨b, memberB, jobB.trans job, recB.trans rec⟩

theorem erase_others {run : Claimed} {a : ActiveJob} (member : a ∈ p.active)
    (ne : a.jobId ≠ run.jobId) : ∃ b ∈ p.active.erase run.jobId, b.jobId = a.jobId ∧
      b.recordingId = a.recordingId :=
  ⟨a, Table.mem_erase.mpr ⟨member, ne⟩, rfl, rfl⟩

theorem put_others {run : Claimed} {a b : ActiveJob} (key : b.jobId = run.jobId)
    (member : a ∈ p.active) (ne : a.jobId ≠ run.jobId) : ∃ c ∈ p.active.put b,
      c.jobId = a.jobId ∧ c.recordingId = a.recordingId :=
  ⟨a, Table.mem_put.mpr (.inl ⟨member, by rwa [key]⟩), rfl, rfl⟩

theorem Exclusion.goes_on (sound : Exclusion p) {w : Nat} {x : Worker} (run : Claimed)
    (held : (p.workers w).held = some run)
    (flight : ∀ run', x.inFlight = some run' → (p.workers w).inFlight = some run') :
    ∀ v run' r, (Function.update p.workers w x v).inFlight = some run' →
      run'.recordingId = some r →
        ∃ a ∈ p.active, a.jobId = run'.jobId ∧ a.recordingId = some r := by
  refine sound.entries run held p.active (fun a member _ => ⟨a, member, rfl, rfl⟩) ?_
  intro run' now
  have before := flight run' now
  have same : run' = run :=
    Option.some.inj ((Worker.held_of_inFlight before).symm.trans held)
  exact ⟨same, fun r here => sound.registered w run r (same ▸ before) here⟩

theorem Exclusion.stays_free (sound : Exclusion p) {w : Nat} {x : Worker}
    (free : x.held = none) : ∀ v run' r, (Function.update p.workers w x v).inFlight = some run' →
      run'.recordingId = some r →
        ∃ a ∈ p.active, a.jobId = run'.jobId ∧ a.recordingId = some r := by
  intro v run' r now here
  by_cases eq : v = w
  · subst eq
    rw [Function.update_self] at now
    simp [Worker.held_of_inFlight now] at free
  · rw [Function.update_of_ne eq] at now
    exact sound.registered v run' r now here

theorem Exclusion.claim (sound : Exclusion p) (serialized : Serialized p) {w : Nat}
    {seen : List RecordingId} {owed : Nat → Prop} (claiming : p.workers w = .claiming seen owed)
    (resumed : ∀ v, owed v → ¬ (p.workers v).isWaking) {now : Time} {job : Job} {db : Db}
    (rows : p.db.Extends db) (stored : job ∈ p.db.jobs) (next : isNext now seen p.db job) :
    (∀ v run r, (p.workers v).held = some run → run.recordingId = some r →
      job.recordingId ≠ some r) ∧
    Exclusion { p.set w (.claimed ⟨job.id, job.recordingId⟩) with db := db } := by
  have free (v : Nat) (run : Claimed) (r : RecordingId) (held : (p.workers v).held = some run)
      (here : run.recordingId = some r) : job.recordingId ≠ some r := by
    intro same
    rcases sound.seen w seen owed claiming v run r held here with inSeen | ⟨late, waking⟩
    · exact (next.1.2.2 r same).2.1 inSeen
    · exact resumed v late waking
  refine ⟨free, ?_⟩
  have heldAt (v : Nat) (run : Claimed)
      (now : (Function.update p.workers w (.claimed ⟨job.id, job.recordingId⟩) v).held = some run) :
      v = w ∧ run = ⟨job.id, job.recordingId⟩ ∨ v ≠ w ∧ (p.workers v).held = some run := by
    by_cases eq : v = w
    · subst eq
      rw [Function.update_self] at now
      exact .inl ⟨rfl, (Option.some.inj now).symm⟩
    · rw [Function.update_of_ne eq] at now
      exact .inr ⟨eq, now⟩
  constructor
  · intro v run now
    rcases heldAt v run now with ⟨rfl, rfl⟩ | ⟨_, before⟩
    · obtain ⟨k, storedK, id, rec, _⟩ := rows job stored
      exact ⟨k, storedK, id, rec⟩
    · obtain ⟨j, storedJ, id, rec⟩ := sound.rows v run before
      obtain ⟨k, storedK, idK, recK, _⟩ := rows j storedJ
      exact ⟨k, storedK, idK.trans id, recK.trans rec⟩
  · intro v v' run run' r ne now now' here same
    rcases heldAt v run now with ⟨rfl, rfl⟩ | ⟨_, before⟩
    · rcases heldAt v' run' now' with ⟨rfl, _⟩ | ⟨_, before'⟩
      · exact ne rfl
      · exact free v' run' r before' same here
    · rcases heldAt v' run' now' with ⟨rfl, rfl⟩ | ⟨_, before'⟩
      · exact free v run r before here same
      · exact sound.apart v v' run run' r ne before before' here same
  · intro v run r now here
    rcases heldAt v run (Worker.held_of_inFlight now) with ⟨rfl, _⟩ | ⟨other, _⟩
    · simp [Pool.set, Worker.inFlight] at now
    · simp only [Pool.set, Function.update_of_ne other] at now
      exact sound.registered v run r now here
  · intro v seen' owed' claiming'
    exfalso
    by_cases eq : v = w
    · subst eq
      simp [Pool.set] at claiming'
    · simp only [Pool.set, Function.update_of_ne eq] at claiming'
      have holder := serialized.workers w (.worker w) (by simp [claiming, Worker.holds])
      have holder' := serialized.workers v (.worker v) (by simp [claiming', Worker.holds])
      rw [holder] at holder'
      exact eq (Holder.worker.inj (Option.some.inj holder')).symm

-- Entering the barrier to claim: whoever holds a row is in `_active` or already `waking`.
theorem Exclusion.enter (sound : Exclusion p) (serialized : Serialized p) {w : Nat}
    (waiting : p.workers w = .waiting) (free : p.barrier = none) :
    Exclusion { p.set w (.claiming p.activeRecordings fun v => (p.workers v).isWaking) with
      barrier := some (.worker w) } := by
  have nobody (v : Nat) (h : Holder) : (p.workers v).holds v ≠ some h :=
    serialized.no_worker (.inl free)
  have heldAt (v : Nat) (run : Claimed) (now : (Function.update p.workers w
      (.claiming p.activeRecordings fun v => (p.workers v).isWaking) v).held = some run) :
      v ≠ w ∧ (p.workers v).held = some run := by
    by_cases eq : v = w
    · subst eq
      simp [Worker.held] at now
    · rw [Function.update_of_ne eq] at now
      exact ⟨eq, now⟩
  constructor
  · intro v run now
    exact sound.rows v run (heldAt v run now).2
  · intro v v' run run' r ne now now' here
    exact sound.apart v v' run run' r ne (heldAt v run now).2 (heldAt v' run' now').2 here
  · intro v run r now here
    obtain ⟨other, _⟩ := heldAt v run (Worker.held_of_inFlight now)
    simp only [Pool.set, Function.update_of_ne other] at now
    exact sound.registered v run r now here
  · intro v seen owed claiming v' run r now here
    obtain ⟨other, before⟩ := heldAt v' run now
    have alone : v = w := by
      by_contra ne
      simp only [Pool.set, Function.update_of_ne ne] at claiming
      exact nobody v (.worker v) (by simp [claiming, Worker.holds])
    subst alone
    simp only [Pool.set, Function.update_self, Worker.claiming.injEq] at claiming
    obtain ⟨rfl, rfl⟩ := claiming
    cases state : p.workers v' with
    | claimed run' => exact absurd (by simp [state, Worker.holds]) (nobody v' (.worker v'))
    | running run' phase =>
      obtain ⟨a, member, _, rec⟩ := sound.registered v' run r
        (by simpa [state, Worker.held, Worker.inFlight] using before) here
      exact .inl (List.mem_filterMap.mpr ⟨a, member, rec⟩)
    | waking run' =>
      exact .inr ⟨by simp [state, Worker.isWaking],
        by simp [Pool.set, Function.update_of_ne other, state, Worker.isWaking]⟩
    | idle => simp [state, Worker.held] at before
    | waiting => simp [state, Worker.held] at before
    | claiming => simp [state, Worker.held] at before

theorem Exclusion.flag (sound : Exclusion p) {db : Db} (rows : p.db.Extends db)
    (chosen : ActiveJob → Bool) (reset : ResetTask) :
    Exclusion { p with
      db := db
      active := p.active.update chosen ActiveJob.flagged ActiveJob.flagged_jobId
      reset := reset } := by
  have moved := sound.of_db rows p.barrier reset
  refine ⟨moved.rows, moved.apart, ?_, moved.seen⟩
  intro w run r now here
  obtain ⟨a, member, job, rec⟩ := sound.registered w run r now here
  let b : ActiveJob := if chosen a then a.flagged else a
  have stays : b ∈ p.active.update chosen ActiveJob.flagged ActiveJob.flagged_jobId :=
    Table.mem_update.mpr ⟨a, member, rfl⟩
  have same : b.jobId = a.jobId ∧ b.recordingId = a.recordingId := by
    by_cases hit : chosen a <;> simp [b, hit]
  exact ⟨b, stays, same.1.trans job, same.2.trans rec⟩

theorem entry_jobId (p : Pool) (run : Claimed) : (p.entry run).jobId = run.jobId := by
  unfold Pool.entry
  cases found : p.active.find? run.jobId with
  | none => rfl
  | some a => exact (Table.find?_mem found).2

theorem Exclusion.entry (sound : Exclusion p) {w : Nat} {run : Claimed} {r : RecordingId}
    (flight : (p.workers w).inFlight = some run) (here : run.recordingId = some r) :
    (p.entry run).recordingId = some r := by
  obtain ⟨a, member, job, rec⟩ := sound.registered w run r flight here
  have found : p.active.find? run.jobId = some a := job ▸ Table.find?_self member
  simpa [Pool.entry, found] using rec

theorem Exclusion.step (sound : Exclusion p) (serialized : Serialized p)
    (step : Step settings p event q) : Exclusion q := by
  cases step with
  | @call call => exact sound.of_db (extends_apply settings call.now p.db call.op) p.barrier p.reset
  | askBarrier idle =>
    exact sound.move (.refl p.db) p.active p.barrier (by simp [Worker.held]) (by simp)
      (sound.stays_free rfl)
  | enter waiting free => exact sound.enter serialized waiting free
  | claim claiming resumed stored next =>
    exact (sound.claim serialized claiming resumed (extends_apply settings _ p.db _) stored next).2
  | leave inside =>
    exact sound.move (.refl p.db) p.active none (by simp [Worker.held]) (by simp)
      (sound.stays_free rfl)
  | @register w run claimed =>
    have held : (p.workers w).held = some run := by simp [claimed, Worker.held]
    refine sound.move (.refl p.db) _ none ?_ (by simp) ?_
    · simp [claimed, Worker.held, Worker.isWaking]
    · refine sound.entries run held _ (fun a member ne => put_others rfl member ne) ?_
      intro run' now
      obtain rfl := Option.some.inj now
      exact ⟨rfl, fun r here => ⟨_, Table.mem_put.mpr (.inr rfl), rfl, here⟩⟩
  | @begin w run created =>
    have flight : (p.workers w).inFlight = some run := by simp [created, Worker.inFlight]
    have held := Worker.held_of_inFlight flight
    refine sound.move (.refl p.db) _ p.barrier ?_ (by simp) ?_
    · simp [created, Worker.held, Worker.isWaking]
    · refine sound.entries run held _ (fun a member ne => put_others (entry_jobId p run) member ne) ?_
      intro run' now
      obtain rfl := Option.some.inj now
      exact ⟨rfl, fun r here => ⟨_, Table.mem_put.mpr (.inr rfl), entry_jobId p run,
        sound.entry flight here⟩⟩
  | @heartbeat w run phase call =>
    have rows := extends_apply settings call.now p.db call.op
    split
    · exact sound.flag rows _ p.reset
    · exact sound.of_db rows p.barrier p.reset
  | @finishWork w run working =>
    refine sound.move (.refl p.db) p.active p.barrier ?_ (by simp) ?_
    · simp [working, Worker.held, Worker.isWaking]
    · exact sound.goes_on run (by simp [working, Worker.held])
        (by simp [working, Worker.inFlight])
  | @interruptNew w run created =>
    refine sound.move (.refl p.db) p.active p.barrier ?_ (by simp) ?_
    · simp [created, Worker.held, Worker.isWaking]
    · exact sound.goes_on run (by simp [created, Worker.held]) (by simp [Worker.inFlight])
  | @interrupt w run phase running begun =>
    refine sound.move (.refl p.db) p.active _ ?_ (by simp) ?_
    · simp [running, Worker.held, Worker.isWaking]
    · exact sound.goes_on run (by simp [running, Worker.held])
        (by simp [running, Worker.inFlight])
  | @enterOutcome w run recording free =>
    refine sound.move (.refl p.db) p.active _ ?_ (by simp) ?_
    · simp [recording, Worker.held, Worker.isWaking]
    · exact sound.goes_on run (by simp [recording, Worker.held])
        (by simp [recording, Worker.inFlight])
  | @recordOutcome w run call outcome own =>
    have rows : p.db.Extends ((call.map fun c => applyCall settings c p.db).getD p.db) := by
      cases call with
      | none => exact .refl p.db
      | some c => exact extends_apply settings c.now p.db c.op
    refine sound.move rows p.active none ?_ (by simp) ?_
    · simp [outcome, Worker.held, Worker.isWaking]
    · exact sound.goes_on run (by simp [outcome, Worker.held])
        (by simp [outcome, Worker.inFlight])
  | @endRun w run closing =>
    refine sound.move (.refl p.db) _ p.barrier ?_ (by simp) ?_
    · simp [closing, Worker.held, Worker.isWaking]
    · exact sound.entries run (by simp [closing, Worker.held]) _
        (fun a member ne => erase_others member ne) (by simp [Worker.inFlight])
  | @wake w run waking =>
    refine sound.move (.refl p.db) _ p.barrier (by simp [Worker.held]) (by simp) ?_
    exact sound.entries run (by simp [waking, Worker.held]) _
      (fun a member ne => erase_others member ne) (by simp [Worker.inFlight])
  | resetEnter idle free => exact sound.of_db (.refl p.db) _ _
  | resetClear entered => exact sound.of_db (extends_apply settings _ p.db _) _ _
  | resetAbort cleared => exact sound.flag (.refl p.db) _ _
  | resetRaise aborting => exact sound.of_db (.refl p.db) _ _
  | resetStopped aborting => exact sound.of_db (.refl p.db) _ _
  | @resetCommit inputs committing =>
    exact sound.of_db (extends_rebuild settings inputs p.db) _ _

def Pool.started (db : Db) : Pool where
  db := db
  active := Table.empty
  barrier := none
  workers := fun _ => .idle
  reset := .idle

theorem serialized_started (db : Db) : Serialized (Pool.started db) :=
  ⟨fun _ _ holds => by simp [Pool.started, Worker.holds] at holds,
    fun inside => absurd inside not_false⟩

theorem exclusion_started (db : Db) : Exclusion (Pool.started db) := by
  have nothing (w : Nat) (run : Claimed) : ((Pool.started db).workers w).held ≠ some run := by
    simp [Pool.started, Worker.held]
  exact ⟨fun w run held => absurd held (nothing w run),
    fun v _ run _ _ _ held => absurd held (nothing v run),
    fun w run _ flight => absurd (Worker.held_of_inFlight flight) (nothing w run),
    fun _ _ _ claiming => by simp [Pool.started] at claiming⟩

theorem runs_exclusive (settings : Settings) (db : Db) (events : List Event) (p : Pool)
    (run : Run (Step settings) anyStep (Pool.started db) events p) :
    (∀ v w a b r, v ≠ w → (p.workers v).inFlight = some a → (p.workers w).inFlight = some b →
      a.recordingId = some r → b.recordingId ≠ some r) ∧
    (∀ w a r, (p.workers w).inFlight = some a → a.recordingId = some r →
      ∃ entry ∈ p.active, entry.jobId = a.jobId ∧ entry.recordingId = some r) ∧
    ∀ w now workerId job q, Step settings p (.claim w now workerId job) q →
      ∀ v a r, (p.workers v).held = some a → a.recordingId = some r →
        job.recordingId ≠ some r := by
  have sound : Serialized p ∧ Exclusion p :=
    run.invariant (fun p => Serialized p ∧ Exclusion p)
      (fun _ _ _ sound _ step => ⟨sound.1.step step, sound.2.step sound.1 step⟩)
      ⟨serialized_started db, exclusion_started db⟩
  obtain ⟨serialized, exclusion⟩ := sound
  refine ⟨?_, exclusion.registered, ?_⟩
  · intro v w a b r ne flightA flightB
    exact exclusion.apart v w a b r ne (Worker.held_of_inFlight flightA)
      (Worker.held_of_inFlight flightB)
  · intro w now workerId job q step
    cases step with
    | claim claiming resumed stored next =>
      exact (exclusion.claim serialized claiming resumed (.refl p.db) stored next).1

theorem runs_exclusive_registered :
    ∃ events p, Run (Step ⟨3, 300⟩) anyStep (Pool.started vanishedClip) events p ∧
      (p.workers 0).inFlight = some ⟨1, some 1⟩ ∧
      ∃ entry ∈ p.active, entry.jobId = 1 ∧ entry.recordingId = some 1 := by
  let asked := (Pool.started vanishedClip).set 0 .waiting
  let entered := { asked.set 0 (.claiming asked.activeRecordings
    fun v => (asked.workers v).isWaking) with barrier := some (.worker 0) }
  obtain ⟨job, stored, next, id, rec⟩ : ∃ job ∈ vanishedClip.jobs,
      isNext 5 asked.activeRecordings vanishedClip job ∧ job.id = 1 ∧ job.recordingId = some 1 := by
    have one : ∀ j ∈ vanishedClip.jobs.rows,
        isNext 5 [] vanishedClip j ∧ j.id = 1 ∧ j.recordingId = some 1 := by decide
    exact ⟨_, List.mem_singleton.mpr rfl, one _ (List.mem_singleton.mpr rfl)⟩
  have resumed (v : Nat) : ¬ (entered.workers v).isWaking := by
    by_cases eq : v = 0 <;>
      simp [entered, asked, Pool.set, Pool.started, Function.update, eq, Worker.isWaking]
  have ask : Run (Step ⟨3, 300⟩) anyStep (Pool.started vanishedClip) [.askBarrier 0] asked :=
    .tail .refl trivial (.askBarrier rfl)
  have enter : Run (Step ⟨3, 300⟩) anyStep (Pool.started vanishedClip)
      [.askBarrier 0, .enter 0] entered := .tail ask trivial (.enter rfl rfl)
  have claim := Run.tail enter (e := .claim 0 5 "worker" job) trivial
    (.claim rfl (fun v _ => resumed v) stored next)
  have register := Run.tail claim (e := .register 0) trivial (.register rfl)
  obtain ⟨_, registered, _⟩ := runs_exclusive ⟨3, 300⟩ vanishedClip _ _ register
  refine ⟨_, _, register, ?_, ?_⟩
  · simp [Pool.set, Worker.inFlight, id, rec]
  · obtain ⟨entry, member, jobId, recording⟩ :=
      registered 0 ⟨job.id, job.recordingId⟩ 1 (by simp [Pool.set, Worker.inFlight]) rec
    exact ⟨entry, member, jobId.trans id, recording⟩

end DashcamStats.Workers
