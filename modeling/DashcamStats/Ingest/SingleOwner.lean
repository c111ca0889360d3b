import DashcamStats.Ingest.Ownership

namespace DashcamStats.Ingest.Ownership

variable {process : Nat → Nat} {s t : State} {c d k : Nat} {call call' : Call}

structure Asked (s : State) (k : Nat) (call : Call) (values : Values) (cleanup : Bool) : Prop where
  owner : values.leaseOwner = none
  active : values.active = none
  expiry : ∀ e, values.leaseExpiresAt = some e → e ≤ s.clock
  cleanup : cleanup = true → call.restoringTask = some k ∨ values.leaseExpiresAt.isSome = true

def Renewable (s : State) (c : Nat) (call : Call) (cleanup : Bool) (now : Time) : Prop :=
  ∃ row ∈ s.rows, row.id = call.row ∧ row.heldBy c = true ∧
    (cleanup = true ∨ now < row.leaseExpiresAt)

def TaskInv (s : State) (c k : Nat) (call : Call) : Task → Prop
  | .idle => True
  | .asking values cleanup _ => Asked s k call values cleanup
  | .opened values cleanup _ => s.writer = some (c, k) ∧ Asked s k call values cleanup
  | .started values cleanup leaseStarted =>
    s.writer = some (c, k) ∧ Asked s k call values cleanup ∧ leaseStarted ≤ s.clock
  | .updated values cleanup leaseStarted now =>
    s.writer = some (c, k) ∧ Asked s k call values cleanup ∧ leaseStarted ≤ now ∧ now ≤ s.clock ∧
      call.durable ≤ now + leaseTtl ∧ Renewable s c call cleanup now
  | .committed explicit confirmedUntil =>
    call.handedOver = false → explicit = false ∧ confirmedUntil ≤ call.durable
  | .expiring now => now ≤ s.clock

def PointInv (s : State) (call : Call) : Point → Prop
  | .started _ _ leaseStarted => leaseStarted ≤ s.clock
  | .due _ _ leaseStarted deadline =>
    leaseStarted + leaseTtl ≤ deadline ∧ deadline ≤ s.clock + leaseTtl
  | .claimed leaseStarted => call.handedOver = false → leaseStarted + leaseTtl ≤ call.durable
  | .owner => call.handedOver = false → call.leaseValidUntil ≤ call.durable
  | _ => True

def Point.serving : Point → Bool
  | .claimed _ | .owner => true
  | _ => false

structure CallInv (s : State) (c : Nat) (call : Call) : Prop where
  fence : (call.point.claiming || call.live) = true → s.fence = some c
  tasks : ∀ k, TaskInv s c k call (call.tasks k)
  resting : call.point.isOwner = false → ∀ k, call.tasks k = .idle
  restoring : call.point.isOwner = false → call.restoringTask = none
  point : PointInv s call call.point
  durable : call.point.serving = true → call.durable ≤ s.clock + leaseTtl

structure Linked (call : Call) (row : IngestRadioTransition) : Prop where
  claimed : call.point.hasClaimed = true
  id : call.row = row.id
  durable : call.durable = row.leaseExpiresAt

structure Inv (s : State) : Prop where
  calls : ∀ c, CallInv s c (s.calls c)
  rows : ∀ row ∈ s.rows, Linked (s.calls row.leaseOwner) row

/-- Nothing changes that a checkpoint of task `k` rests on. -/
structure Call.SameLease (k : Nat) (call call' : Call) : Prop where
  row : call'.row = call.row
  durable : call'.durable = call.durable
  handedOver : call'.handedOver = call.handedOver
  restoring : call.restoringTask = some k → call'.restoringTask = some k

theorem Call.SameLease.refl (k : Nat) (call : Call) : call.SameLease k call :=
  ⟨rfl, rfl, rfl, fun held => held⟩

theorem Asked.frame {values : Values} {cleanup : Bool} (asked : Asked s k call values cleanup)
    (clock : s.clock ≤ t.clock)
    (restoring : call.restoringTask = some k → call'.restoringTask = some k) :
    Asked t k call' values cleanup where
  owner := asked.owner
  active := asked.active
  expiry e named := le_trans (asked.expiry e named) clock
  cleanup allowed := (asked.cleanup allowed).imp_left restoring

theorem TaskInv.frame {task : Task} (inv : TaskInv s c k call task) (clock : s.clock ≤ t.clock)
    (writer : s.writer = some (c, k) → t.writer = some (c, k) ∧ t.rows = s.rows)
    (same : Call.SameLease k call call') : TaskInv t c k call' task := by
  cases task with
  | idle => trivial
  | asking values cleanup retryUntil => exact Asked.frame inv clock same.restoring
  | opened values cleanup retryUntil =>
    exact ⟨(writer inv.1).1, inv.2.frame clock same.restoring⟩
  | started values cleanup leaseStarted =>
    exact ⟨(writer inv.1).1, inv.2.1.frame clock same.restoring, le_trans inv.2.2 clock⟩
  | updated values cleanup leaseStarted now =>
    obtain ⟨held, asked, order, read, durable, row, member, key, renewable⟩ := inv
    obtain ⟨still, rows⟩ := writer held
    refine ⟨still, asked.frame clock same.restoring, order, le_trans read clock, ?_, row,
      by rw [rows]; exact member, ?_, renewable⟩
    · rw [same.durable]
      exact durable
    · rw [same.row]
      exact key
  | committed explicit confirmedUntil =>
    intro handed
    rw [same.durable]
    exact inv (by rw [← same.handedOver]; exact handed)
  | expiring now => exact le_trans inv clock

theorem PointInv.frame {point : Point} (inv : PointInv s call point) (clock : s.clock ≤ t.clock) :
    PointInv t call point := by
  cases point with
  | started claim now leaseStarted => exact le_trans inv clock
  | due claim now leaseStarted deadline => exact ⟨inv.1, le_trans inv.2 (by gcongr)⟩
  | _ => exact inv

theorem CallInv.frame (inv : CallInv s c call) (clock : s.clock ≤ t.clock)
    (fence : s.fence = some c → t.fence = some c)
    (writer : ∀ k, s.writer = some (c, k) → t.writer = some (c, k) ∧ t.rows = s.rows) :
    CallInv t c call where
  fence holds := fence (inv.fence holds)
  tasks k := (inv.tasks k).frame clock (writer k) (.refl k call)
  resting := inv.resting
  restoring := inv.restoring
  point := inv.point.frame clock
  durable serving := le_trans (inv.durable serving) (by gcongr)

theorem Inv.local (inv : Inv s) (rows : t.rows = s.rows) (clock : t.clock = s.clock)
    (calls : t.calls = Function.update s.calls c call)
    (fence : ∀ d, d ≠ c → s.fence = some d → t.fence = some d)
    (writer : ∀ d k, d ≠ c → s.writer = some (d, k) → t.writer = some (d, k))
    (mine : CallInv t c call) (linked : ∀ row, Linked (s.calls c) row → Linked call row) :
    Inv t where
  calls d := by
    rw [calls]
    by_cases same : d = c
    · subst same
      simpa using mine
    · rw [Function.update_of_ne same]
      exact (inv.calls d).frame clock.ge (fence d same) fun k held => ⟨writer d k same held, rows⟩
  rows row member := by
    rw [rows] at member
    rw [calls]
    by_cases same : row.leaseOwner = c
    · rw [same, Function.update_self]
      exact linked row (same ▸ inv.rows row member)
    · rw [Function.update_of_ne same]
      exact inv.rows row member

theorem inv_point {point : Point} {fence : Option Nat} (inv : Inv s)
    (unclaimed : (s.calls c).point.hasClaimed = false)
    (still : point.hasClaimed = false)
    (held : point.claiming = true → fence = some c)
    (others : ∀ d, d ≠ c → s.fence = some d → fence = some d)
    (point_inv : PointInv s (s.calls c) point) :
    Inv ({ s with fence := fence }.setCall c { s.calls c with point := point }) := by
  have mine := inv.calls c
  have dead : ({ s.calls c with point := point } : Call).live = false := by
    cases point <;> simp_all [Call.live, Point.isOwner, Point.hasClaimed]
  refine inv.local rfl rfl rfl others (fun _ _ _ held => held) ?_ ?_
  · exact {
      fence := fun holds => held (by simpa [dead] using holds)
      tasks := fun k =>
        (mine.tasks k).frame (le_refl _) (fun held => ⟨held, rfl⟩) ⟨rfl, rfl, rfl, fun held => held⟩
      resting := fun _ => mine.resting (by
        cases at_ : (s.calls c).point <;> simp_all [Point.isOwner, Point.hasClaimed])
      restoring := fun _ => mine.restoring (by
        cases at_ : (s.calls c).point <;> simp_all [Point.isOwner, Point.hasClaimed])
      point := by cases point <;> exact point_inv
      durable := fun serving => by
        cases point <;> simp_all [Point.serving, Point.hasClaimed] }
  · intro row linked
    have claimed := linked.claimed
    simp [unclaimed] at claimed

theorem inv_acquire {claim : Claim} (inv : Inv s) (stepped : s.acquire c claim = some t) :
    Inv t := by
  unfold State.acquire at stepped
  split at stepped <;> cases stepped
  next free =>
    refine inv_point inv ?_ rfl (fun _ => rfl) ?_ trivial
    · cases point : (s.calls c).point <;> simp_all [Point.isIdle, Point.hasClaimed]
    · intro d _ held
      simp [free.2] at held

theorem fence_of_claiming (inv : Inv s) (claiming : (s.calls c).point.claiming = true) :
    s.fence = some c :=
  (inv.calls c).fence (by simp [claiming])

theorem inv_readNow (inv : Inv s) (stepped : s.readNow c = some t) : Inv t := by
  unfold State.readNow at stepped
  split at stepped <;> cases stepped
  next claim at_ =>
    have fence := fence_of_claiming (c := c) inv (by simp [at_, Point.claiming])
    exact inv_point inv (by simp [at_, Point.hasClaimed]) rfl (fun _ => fence)
      (fun _ _ held => held) trivial

theorem inv_readLeaseStarted (inv : Inv s) (stepped : s.readLeaseStarted c = some t) : Inv t := by
  unfold State.readLeaseStarted at stepped
  split at stepped <;> cases stepped
  next claim now at_ =>
    have fence := fence_of_claiming (c := c) inv (by simp [at_, Point.claiming])
    exact inv_point inv (by simp [at_, Point.hasClaimed]) rfl (fun _ => fence)
      (fun _ _ held => held) (le_refl s.clock)

theorem inv_readDeadline (inv : Inv s) (stepped : s.readDeadline c = some t) : Inv t := by
  unfold State.readDeadline at stepped
  split at stepped <;> cases stepped
  next claim now leaseStarted at_ =>
    have fence := fence_of_claiming (c := c) inv (by simp [at_, Point.claiming])
    have read : leaseStarted ≤ s.clock := by simpa [at_, PointInv] using (inv.calls c).point
    exact inv_point inv (by simp [at_, Point.hasClaimed]) rfl (fun _ => fence)
      (fun _ _ held => held) ⟨by gcongr, le_refl _⟩

theorem inv_claimedBy {id : Nat} {leaseStarted deadline : Time} {rows : Transitions} (inv : Inv s)
    (unclaimed : (s.calls c).point.hasClaimed = false)
    (claiming : (s.calls c).point.claiming = true) (free : s.writer = none)
    (leased : leaseStarted + leaseTtl ≤ deadline) (bounded : deadline ≤ s.clock + leaseTtl)
    (changed : ∀ row ∈ rows, row ∈ s.rows ∨
      row.leaseOwner = c ∧ row.id = id ∧ row.leaseExpiresAt = deadline) :
    Inv (s.claimedBy c id leaseStarted deadline rows) where
  calls d := by
    by_cases same : d = c
    · subst same
      have mine := inv.calls d
      have fence := fence_of_claiming inv claiming
      have idle := mine.resting (by
        cases at_ : (s.calls d).point <;> simp_all [Point.isOwner, Point.hasClaimed])
      simp only [State.claimedBy, State.setCall, Function.update_self]
      exact {
        fence := fun _ => fence
        tasks := fun k => by
          rw [idle k]
          trivial
        resting := fun _ => idle
        restoring := fun _ => mine.restoring (by
          cases at_ : (s.calls d).point <;> simp_all [Point.isOwner, Point.hasClaimed])
        point := fun _ => leased
        durable := fun _ => bounded }
    · simp only [State.claimedBy, State.setCall, Function.update_of_ne same]
      refine (inv.calls d).frame (le_refl s.clock) (fun held => held) ?_
      intro k held
      simp [free] at held
  rows row member := by
    cases changed row member with
    | inl old =>
      have linked := inv.rows row old
      have other : row.leaseOwner ≠ c := by
        intro same
        have claimed := linked.claimed
        simp [same, unclaimed] at claimed
      simpa [State.claimedBy, State.setCall, Function.update_of_ne other] using linked
    | inr new =>
      obtain ⟨owner, id, lease⟩ := new
      rw [owner]
      simp only [State.claimedBy, State.setCall, Function.update_self]
      exact ⟨rfl, id.symm, lease.symm⟩

theorem inv_claim (inv : Inv s) (stepped : s.claim c = some t) : Inv t := by
  unfold State.claim at stepped
  split at stepped
  next input now leaseStarted deadline at_ =>
    split at stepped <;> cases stepped
    next free =>
      have due := (inv.calls c).point
      rw [at_] at due
      refine inv_claimedBy inv (by simp [at_, Point.hasClaimed]) (by simp [at_, Point.claiming])
        free.1 due.1 due.2 ?_
      intro row member
      cases Table.mem_insert.mp member with
      | inl old => exact .inl old
      | inr new =>
        subst new
        exact .inr ⟨rfl, rfl, rfl⟩
  next row address bootId now leaseStarted deadline at_ =>
    split at stepped
    next free =>
      obtain ⟨rows, written, rfl⟩ := Option.map_eq_some_iff.mp stepped
      obtain ⟨old, member, key, guard, rfl⟩ := writeIf_some written
      have due := (inv.calls c).point
      rw [at_] at due
      refine inv_claimedBy inv (by simp [at_, Point.hasClaimed]) (by simp [at_, Point.claiming])
        free due.1 due.2 ?_
      intro after there
      obtain ⟨before, present, rfl⟩ := mem_write.mp there
      by_cases hit : before.id = row.id
      · refine .inr ?_
        simp [hit, adoptionValues]
      · exact .inl (by simpa [hit] using present)
    next _ => cases stepped
  next _ => cases stepped

theorem inv_abandon (inv : Inv s) (stepped : s.abandon c = some t) : Inv t := by
  unfold State.abandon at stepped
  split at stepped <;> cases stepped
  next claiming =>
    have mine := inv.calls c
    have fence := fence_of_claiming inv claiming
    refine inv.local rfl rfl rfl ?_ (fun _ _ _ held => held) ?_ ?_
    · intro d other held
      rw [fence] at held
      exact absurd (Option.some.inj held).symm other
    · have idle := mine.resting (by
        cases at_ : (s.calls c).point <;> simp_all [Point.isOwner, Point.claiming])
      exact {
        fence := fun holds => by simp [Point.claiming, Call.live, Point.isOwner] at holds
        tasks := fun k => by
          simp only [idle k]
          trivial
        resting := fun _ => idle
        restoring := fun _ => mine.restoring (by
          cases at_ : (s.calls c).point <;> simp_all [Point.isOwner, Point.claiming])
        point := trivial
        durable := fun serving => by simp [Point.serving] at serving }
    · intro row linked
      exact ⟨rfl, linked.id, linked.durable⟩

theorem inv_construct (inv : Inv s) (stepped : s.construct c = some t) : Inv t := by
  unfold State.construct at stepped
  split at stepped <;> cases stepped
  next leaseStarted at_ =>
    have mine := inv.calls c
    have point := mine.point
    rw [at_] at point
    have idle := mine.resting (by simp [at_, Point.isOwner])
    refine inv.local rfl rfl rfl (fun _ _ held => held) (fun _ _ _ held => held) ?_ ?_
    · exact {
        fence := fun _ => mine.fence (by simp [at_, Point.claiming])
        tasks := fun k => by
          simp only [idle k]
          trivial
        resting := fun not => by simp [Point.isOwner] at not
        restoring := fun not => by simp [Point.isOwner] at not
        point := point
        durable := fun _ => mine.durable (by simp [at_, Point.serving]) }
    · intro row linked
      exact ⟨rfl, linked.id, linked.durable⟩

theorem sameLease_setTask (call : Call) (j k : Nat) (task : Task) :
    Call.SameLease j call (call.setTask k task) := ⟨rfl, rfl, rfl, fun held => held⟩

theorem owner_of_busy (inv : Inv s) (busy : (s.calls c).tasks k ≠ .idle) :
    (s.calls c).point.isOwner = true := by
  by_contra not
  exact busy ((inv.calls c).resting (by simpa using not) k)

theorem inv_setTask {task : Task} {writer : Option (Nat × Nat)} (inv : Inv s)
    (resting : (s.calls c).point.isOwner = false → task = .idle)
    (others : ∀ d j, (d, j) ≠ (c, k) → s.writer = some (d, j) → writer = some (d, j))
    (task_inv : TaskInv { s with writer := writer } c k (s.calls c) task) :
    Inv ({ s with writer := writer }.setCall c ((s.calls c).setTask k task)) := by
  have mine := inv.calls c
  refine inv.local rfl rfl rfl (fun _ _ held => held) ?_ ?_ fun row linked => ?_
  · intro d j other held
    exact others d j (fun same => other (Prod.mk.inj same).1) held
  · exact {
      fence := mine.fence
      tasks := fun j => by
        by_cases same : j = k
        · subst same
          simp only [Call.setTask, Function.update_self]
          exact task_inv.frame (le_refl _) (fun held => ⟨held, rfl⟩)
            (sameLease_setTask _ j j task)
        · simp only [Call.setTask, Function.update_of_ne same]
          exact (mine.tasks j).frame (le_refl _)
            (fun held => ⟨others c j (fun pair => same (Prod.mk.inj pair).2) held, rfl⟩)
            (sameLease_setTask _ j k task)
      resting := fun not j => by
        by_cases same : j = k
        · subst same
          simpa [Call.setTask] using resting not
        · simpa [Call.setTask, Function.update_of_ne same] using mine.resting not j
      restoring := mine.restoring
      point := mine.point
      durable := mine.durable }
  · exact ⟨linked.claimed, linked.id, linked.durable⟩

theorem inv_ask {values : Values} (inv : Inv s) (stepped : s.ask c k values = some t) :
    Inv t := by
  unfold State.ask at stepped
  split at stepped
  next at_ idle =>
    split at stepped <;> cases stepped
    next named =>
      obtain ⟨owner, active, expiry⟩ := named
      refine inv_setTask inv (by simp [at_, Point.isOwner]) (fun _ _ _ held => held) ?_
      exact {
        owner := owner
        active := active
        expiry := fun e some => by
          cases expiry with
          | inl none => simp [none] at some
          | inr clock =>
            rw [clock] at some
            exact (Option.some.inj some).ge
        cleanup := fun allowed => by simpa using allowed }
  next _ => cases stepped

theorem inv_beginImmediate (inv : Inv s) (stepped : s.beginImmediate c k = some t) :
    Inv t := by
  unfold State.beginImmediate at stepped
  split at stepped
  next values cleanup retryUntil task =>
    split at stepped <;> cases stepped
    next free =>
      have busy := owner_of_busy (c := c) (k := k) inv (by simp [task])
      have asked := (inv.calls c).tasks k
      rw [task] at asked
      refine inv_setTask inv (by simp [busy]) ?_ ⟨rfl, Asked.frame asked (le_refl _) fun held => held⟩
      intro d j _ held
      simp [free] at held
  next _ => cases stepped

theorem inv_start (inv : Inv s) (stepped : s.start c k = some t) : Inv t := by
  unfold State.start at stepped
  split at stepped
  next values cleanup retryUntil task =>
    split at stepped <;> cases stepped
    next _ =>
      have busy := owner_of_busy (c := c) (k := k) inv (by simp [task])
      have opened := (inv.calls c).tasks k
      rw [task] at opened
      exact inv_setTask inv (by simp [busy]) (fun _ _ _ held => held)
        ⟨opened.1, opened.2, le_refl s.clock⟩
  next _ => cases stepped

theorem inv_update (inv : Inv s) (stepped : s.update c k = some t) : Inv t := by
  unfold State.update at stepped
  split at stepped
  next values cleanup leaseStarted task =>
    split at stepped <;> cases stepped
    next found =>
      have busy := owner_of_busy (c := c) (k := k) inv (by simp [task])
      have started := (inv.calls c).tasks k
      rw [task] at started
      obtain ⟨row, there, renewable⟩ := (Option.any_eq_true _ _).mp found
      obtain ⟨member, key⟩ := Table.find?_mem there
      have renewable : row.heldBy c = true ∧ (cleanup = true ∨ s.clock < row.leaseExpiresAt) := by
        simpa [State.renewable] using renewable
      have durable := (inv.calls c).durable (by
        cases at_ : (s.calls c).point <;> simp_all [Point.isOwner, Point.serving])
      exact inv_setTask inv (by simp [busy]) (fun _ _ _ held => held)
        ⟨started.1, started.2.1, started.2.2, le_refl s.clock, durable, row, member, key,
          renewable⟩
  next _ => cases stepped

theorem inv_giveUp (inv : Inv s) (stepped : s.giveUp c k = some t) : Inv t := by
  cases stepped
  refine inv_setTask inv (fun _ => rfl) ?_ trivial
  intro d j other held
  rw [held, if_neg]
  intro same
  exact other (Option.some.inj same)

theorem inv_written {values : Values} {call' : Call} {writer : Option (Nat × Nat)} (inv : Inv s)
    (ours : ∀ d j, s.writer = some (d, j) → d = c ∧ j = k)
    (row : IngestRadioTransition) (member : row ∈ s.rows) (key : row.id = (s.calls c).row)
    (held : row.heldBy c = true) (owner : values.leaseOwner = none)
    (expiry : values.leaseExpiresAt = some call'.durable)
    (sameRow : call'.row = (s.calls c).row)
    (mine : CallInv { s with rows := write s.rows (s.calls c).row values, writer := writer } c call')
    (claimed : call'.point.hasClaimed = true) :
    Inv ({ s with rows := write s.rows (s.calls c).row values, writer := writer }.setCall c
      call') where
  calls d := by
    by_cases same : d = c
    · subst same
      simp only [State.setCall, Function.update_self]
      exact mine.frame (le_refl _) (fun held => held) fun _ held => ⟨held, rfl⟩
    · simp only [State.setCall, Function.update_of_ne same]
      refine (inv.calls d).frame (le_refl s.clock) (fun held => held) ?_
      intro j transaction
      exact absurd (ours d j transaction).1 same
  rows after there := by
    have own : row.leaseOwner = c := by
      simp only [IngestRadioTransition.heldBy, Bool.and_eq_true, decide_eq_true_eq] at held
      exact held.2
    obtain ⟨before, present, rfl⟩ := mem_write.mp there
    by_cases hit : before.id = (s.calls c).row
    · obtain rfl : before = row := Table.eq_of_key present member (hit.trans key.symm)
      simp only [hit, if_true, Values.write_leaseOwner, owner, Option.getD_none, own]
      simp only [State.setCall, Function.update_self]
      exact ⟨claimed, by simp [sameRow, hit], by simp [expiry]⟩
    · have linked := inv.rows before present
      have other : before.leaseOwner ≠ c := by
        intro same
        exact hit (by rw [← linked.id, same])
      simpa [hit, State.setCall, Function.update_of_ne other] using linked

theorem freshExpiry_le {values : Values} {now : Time}
    (expiry : ∀ e, values.leaseExpiresAt = some e → e ≤ s.clock) (read : now ≤ s.clock) :
    State.freshExpiry values now ≤ s.clock + leaseTtl := by
  unfold State.freshExpiry
  cases named : values.leaseExpiresAt with
  | none =>
    simp only [Option.getD_none]
    gcongr
  | some e =>
    have bound := expiry e named
    simp only [Option.getD_some, leaseTtl]
    exact le_trans bound (le_add_of_nonneg_right (by decide))

theorem TaskInv.written {task : Task} {j : Nat} {rows : Transitions}
    {writer : Option (Nat × Nat)} (inv : TaskInv s c j call task)
    (outside : s.writer ≠ some (c, j))
    (restoring : call.restoringTask = some j → call'.restoringTask = some j)
    (history : call'.handedOver = false → call.handedOver = false ∧ call.durable ≤ call'.durable) :
    TaskInv { s with rows := rows, writer := writer } c j call' task := by
  cases task with
  | idle => trivial
  | asking values cleanup retryUntil => exact Asked.frame inv (le_refl _) restoring
  | opened values cleanup retryUntil => exact absurd inv.1 outside
  | started values cleanup leaseStarted => exact absurd inv.1 outside
  | updated values cleanup leaseStarted now => exact absurd inv.1 outside
  | committed explicit confirmedUntil =>
    intro handed
    obtain ⟨before, grown⟩ := history handed
    obtain ⟨renewal, bound⟩ := inv before
    exact ⟨renewal, le_trans bound grown⟩
  | expiring now => exact inv

theorem inv_commit (inv : Inv s) (stepped : s.commit c k = some t) : Inv t := by
  unfold State.commit at stepped
  split at stepped
  next values cleanup leaseStarted now task =>
    cases stepped
    have mine := inv.calls c
    have busy := owner_of_busy (c := c) (k := k) inv (by simp [task])
    have updated := mine.tasks k
    rw [task] at updated
    obtain ⟨writer, asked, order, read, durable, row, member, key, held, renewable⟩ := updated
    have named : (values.renewing now).leaseExpiresAt = some (State.freshExpiry values now) := rfl
    -- a renewal only raises the expiry; a named expiry hands the row over
    have history : ((s.calls c).handedOver || values.leaseExpiresAt.isSome) = false →
        (s.calls c).handedOver = false ∧ values.leaseExpiresAt = none ∧
          (s.calls c).durable ≤ State.freshExpiry values now := by
      intro kept
      have none : values.leaseExpiresAt = none := by
        cases expiry : values.leaseExpiresAt <;> simp_all
      refine ⟨by simp_all, none, ?_⟩
      simpa [State.freshExpiry, none] using durable
    refine inv_written (k := k) inv ?_ row member key held asked.owner named rfl ?_ ?_
    · intro d j same
      rw [writer] at same
      cases same
      exact ⟨rfl, rfl⟩
    · exact {
        fence := mine.fence
        tasks := fun j => by
          by_cases same : j = k
          · subst same
            simp only [Call.setTask, Function.update_self]
            intro kept
            obtain ⟨-, none, -⟩ := history kept
            have positive : max 0 leaseTtl = leaseTtl := rfl
            refine ⟨by simp [none], ?_⟩
            simp only [State.freshExpiry, none, Option.getD_none, add_sub_cancel_left, positive]
            gcongr
          · simp only [Call.setTask, Function.update_of_ne same]
            refine (mine.tasks j).written ?_ (fun held => held) ?_
            · intro transaction
              rw [writer] at transaction
              cases transaction
              exact same rfl
            · intro kept
              exact ⟨(history kept).1, (history kept).2.2⟩
        resting := fun not => by simp [Call.setTask, busy] at not
        restoring := mine.restoring
        point := by
          have point := mine.point
          simp only [Call.setTask]
          cases at_ : (s.calls c).point with
          | owner =>
            rw [at_] at point
            intro kept
            exact le_trans (point (history kept).1) (history kept).2.2
          | _ => simp_all [Point.isOwner]
        durable := fun _ => freshExpiry_le asked.expiry read }
    · cases at_ : (s.calls c).point <;> simp_all [Point.isOwner, Point.hasClaimed, Call.setTask]
  next _ => cases stepped

theorem inv_assign (inv : Inv s) (stepped : s.assign c k = some t) : Inv t := by
  unfold State.assign at stepped
  split at stepped
  next explicit confirmedUntil task =>
    cases stepped
    have mine := inv.calls c
    have busy := owner_of_busy (c := c) (k := k) inv (by simp [task])
    have committed := mine.tasks k
    rw [task] at committed
    refine inv.local rfl rfl rfl (fun _ _ held => held) (fun _ _ _ held => held) ?_ ?_
    · exact {
        fence := mine.fence
        tasks := fun j => by
          by_cases same : j = k
          · subst same
            simp only [Call.setTask, Function.update_self]
            trivial
          · simp only [Call.setTask, Function.update_of_ne same]
            exact (mine.tasks j).frame (le_refl _) (fun held => ⟨held, rfl⟩) ⟨rfl, rfl, rfl, fun held => held⟩
        resting := fun not => by simp [Call.setTask, busy] at not
        restoring := mine.restoring
        point := by
          have point := mine.point
          simp only [Call.setTask]
          cases at_ : (s.calls c).point with
          | owner =>
            rw [at_] at point
            intro kept
            obtain ⟨renewal, bound⟩ := committed kept
            simpa [renewal] using ⟨point kept, bound⟩
          | _ => simp_all [Point.isOwner]
        durable := mine.durable }
    · intro row linked
      exact ⟨linked.claimed, linked.id, linked.durable⟩
  next _ => cases stepped

theorem inv_persistRestoreFailure {error : String} (inv : Inv s)
    (stepped : s.persistRestoreFailure c k error = some t) : Inv t := by
  unfold State.persistRestoreFailure at stepped
  split at stepped
  next now task =>
    have mine := inv.calls c
    have busy := owner_of_busy (c := c) (k := k) inv (by simp [task])
    have read := mine.tasks k
    rw [task] at read
    split at stepped
    next free =>
      split at stepped <;> cases stepped
      next rows written =>
        obtain ⟨row, member, key, held, rfl⟩ := writeIf_some written
        refine inv_written (k := k) inv ?_ row member key held rfl rfl rfl ?_ ?_
        · intro d j transaction
          simp [free] at transaction
        · exact {
            fence := mine.fence
            tasks := fun j => by
              by_cases same : j = k
              · subst same
                simp only [Call.setTask, Function.update_self]
                trivial
              · simp only [Call.setTask, Function.update_of_ne same]
                exact (mine.tasks j).written (by simp [free]) (fun held => held)
                  (fun kept => by simp at kept)
            resting := fun not => by simp [Call.setTask, busy] at not
            restoring := mine.restoring
            point := by
              simp only [Call.setTask]
              cases at_ : (s.calls c).point with
              | owner =>
                intro kept
                simp at kept
              | _ => simp_all [Point.isOwner]
            durable := fun _ => le_trans read (le_add_of_nonneg_right (by decide)) }
        · cases at_ : (s.calls c).point <;>
            simp_all [Point.isOwner, Point.hasClaimed, Call.setTask]
      next _ =>
        exact inv_setTask inv (fun _ => rfl) (fun _ _ _ held => held) trivial
    next _ => cases stepped
  next _ => cases stepped

theorem inv_setRestoring {restoring : Option Nat} {closed : Bool} (inv : Inv s)
    (tasks : ∀ j, (s.calls c).restoringTask = some j → restoring = some j ∨
      (s.calls c).tasks j = .idle)
    (closing : closed = false → (s.calls c).closed = false)
    (unowned : (s.calls c).point.isOwner = false → restoring = none) :
    Inv (s.setCall c { s.calls c with restoringTask := restoring, closed := closed }) := by
  have mine := inv.calls c
  refine inv.local rfl rfl rfl (fun _ _ held => held) (fun _ _ _ held => held) ?_ ?_
  · exact {
      fence := fun holds => mine.fence (by
        cases closed <;> simp_all [Call.live])
      tasks := fun j => by
        by_cases idle : (s.calls c).tasks j = .idle
        · simp only [idle]
          trivial
        · exact (mine.tasks j).frame (le_refl _) (fun held => ⟨held, rfl⟩)
            ⟨rfl, rfl, rfl, fun held => (tasks j held).resolve_right idle⟩
      resting := mine.resting
      restoring := unowned
      point := by
        have point := mine.point
        cases at_ : (s.calls c).point <;> simp only [at_] at point ⊢ <;> exact point
      durable := mine.durable }
  · intro row linked
    exact ⟨linked.claimed, linked.id, linked.durable⟩

theorem inv_restore (inv : Inv s) (stepped : s.restore c k = some t) : Inv t := by
  unfold State.restore at stepped
  split at stepped
  next idle =>
    split at stepped <;> cases stepped
    next free =>
      refine inv_setRestoring inv (by simp [free.2]) (fun same => same) fun not => ?_
      have live := free.1
      simp [Call.live, not] at live
  next _ => cases stepped

theorem inv_endRestore (inv : Inv s) (stepped : s.endRestore c k = some t) : Inv t := by
  unfold State.endRestore at stepped
  split at stepped
  next idle =>
    split at stepped <;> cases stepped
    next restoring =>
      refine inv_setRestoring inv ?_ (by simp) (fun _ => rfl)
      intro j held
      obtain rfl : k = j := Option.some.inj (restoring.symm.trans held)
      exact .inr idle
  next _ => cases stepped

theorem inv_close (inv : Inv s) (stepped : s.close c = some t) : Inv t := by
  unfold State.close at stepped
  split at stepped <;> cases stepped
  next _ =>
    exact inv_setRestoring inv (fun _ held => .inl held) (by simp) (inv.calls c).restoring

theorem inv_readExpiry (inv : Inv s) (stepped : s.readExpiry c k = some t) : Inv t := by
  unfold State.readExpiry at stepped
  split at stepped
  next idle =>
    split at stepped <;> cases stepped
    next restoring =>
      refine inv_setTask inv ?_ (fun _ _ _ held => held) (le_refl s.clock)
      intro not
      have none := (inv.calls c).restoring not
      simp [none] at restoring
  next _ => cases stepped

theorem inv_release (inv : Inv s) (stepped : s.release c = some t) : Inv t := by
  unfold State.release at stepped
  split at stepped <;> cases stepped
  next closed =>
    obtain ⟨owner, closed, held⟩ := closed
    have mine := inv.calls c
    have after : CallInv { s with fence := none } c (s.calls c) := {
      fence := fun holds => by
        cases at_ : (s.calls c).point <;>
          simp_all [Call.live, Point.isOwner, Point.claiming]
      tasks := fun k => (mine.tasks k).frame (le_refl _) (fun held => ⟨held, rfl⟩) (.refl k _)
      resting := mine.resting
      restoring := mine.restoring
      point := mine.point.frame (le_refl _)
      durable := mine.durable }
    refine inv.local rfl rfl (by simp) ?_ (fun _ _ _ held => held) after (fun _ linked => linked)
    intro d other fence
    exact absurd (Option.some.inj (held.symm.trans fence)).symm other

theorem inv_tick {seconds : Nat} (inv : Inv s) :
    Inv { s with clock := s.clock + seconds } where
  calls c := (inv.calls c).frame (le_add_of_nonneg_right (Int.natCast_nonneg seconds))
    (fun held => held) fun _ held => ⟨held, rfl⟩
  rows := inv.rows

theorem inv_crash {p : Nat} (inv : Inv s) : Inv (s.crash process p) where
  calls c := by
    by_cases dead : process c = p
    · simp only [State.crash, dead, if_true]
      have ended : (s.calls c).crashed.point.claiming = false ∧
          (s.calls c).crashed.live = false ∧ (s.calls c).crashed.point.serving = false := by
        cases at_ : (s.calls c).point <;>
          simp [Call.crashed, Call.live, at_, Point.isIdle, Point.claiming, Point.isOwner,
            Point.serving]
      exact {
        fence := fun holds => by simp [ended] at holds
        tasks := fun _ => trivial
        resting := fun _ _ => rfl
        restoring := fun _ => rfl
        point := by
          cases at_ : (s.calls c).point <;> simp [Call.crashed, at_, Point.isIdle, PointInv]
        durable := fun serving => by simp [ended] at serving }
    · simp only [State.crash, dead, if_false]
      refine (inv.calls c).frame (le_refl s.clock) ?_ ?_
      · intro held
        simp [held, dead]
      · intro k held
        simp [held, dead]
  rows row member := by
    have linked := inv.rows row member
    by_cases dead : process row.leaseOwner = p
    · simp only [State.crash, dead, if_true]
      have claimed := linked.claimed
      refine ⟨?_, linked.id, linked.durable⟩
      cases at_ : (s.calls row.leaseOwner).point <;>
        simp_all [Call.crashed, Point.isIdle, Point.hasClaimed]
    · simpa only [State.crash, dead, if_false] using linked

theorem inv_write {id : Nat} {values : Values} (inv : Inv s) (free : s.writer = none)
    (owner : values.leaseOwner = none) (expiry : values.leaseExpiresAt = none) :
    Inv { s with rows := write s.rows id values } where
  calls c := by
    refine (inv.calls c).frame (le_refl s.clock) (fun held => held) ?_
    intro k held
    simp [free] at held
  rows row member := by
    obtain ⟨before, present, rfl⟩ := mem_write.mp member
    have linked := inv.rows before present
    by_cases hit : before.id = id
    · simp only [hit, if_true, Values.write_leaseOwner, owner, Option.getD_none]
      exact ⟨linked.claimed, by simpa [hit] using linked.id, by simpa [expiry] using linked.durable⟩
    · simpa [hit] using linked

theorem inv_report {id : Nat} {values : Values} (inv : Inv s)
    (stepped : s.report id values = some t) : Inv t := by
  unfold State.report at stepped
  split at stepped <;> cases stepped
  next named => exact inv_write inv named.1 named.2.1 named.2.2.1

theorem inv_finish {error : Option String} {errors : List String} (inv : Inv s)
    (stepped : s.finish c k error errors = some t) : Inv t := by
  unfold State.finish at stepped
  split at stepped
  next idle =>
    split at stepped <;> cases stepped
    next named =>
      cases written : writeIf s.rows (s.calls c).row (·.heldBy c)
          (finishValues s.clock error errors) with
      | none => exact inv
      | some rows =>
        obtain ⟨row, member, key, held, rfl⟩ := writeIf_some written
        exact inv_write inv named.2 rfl rfl
  next _ => cases stepped

theorem inv_step {e : Event} (inv : Inv s) (stepped : s.step process e = some t) : Inv t := by
  cases e with
  | tick seconds =>
    cases stepped
    exact inv_tick inv
  | acquire c claim => exact inv_acquire inv stepped
  | readNow c => exact inv_readNow inv stepped
  | readLeaseStarted c => exact inv_readLeaseStarted inv stepped
  | readDeadline c => exact inv_readDeadline inv stepped
  | claim c => exact inv_claim inv stepped
  | abandon c => exact inv_abandon inv stepped
  | construct c => exact inv_construct inv stepped
  | ask c k values => exact inv_ask inv stepped
  | beginImmediate c k => exact inv_beginImmediate inv stepped
  | start c k => exact inv_start inv stepped
  | update c k => exact inv_update inv stepped
  | commit c k => exact inv_commit inv stepped
  | assign c k => exact inv_assign inv stepped
  | giveUp c k => exact inv_giveUp inv stepped
  | restore c k => exact inv_restore inv stepped
  | readExpiry c k => exact inv_readExpiry inv stepped
  | persistRestoreFailure c k error => exact inv_persistRestoreFailure inv stepped
  | finish c k error errors => exact inv_finish inv stepped
  | endRestore c k => exact inv_endRestore inv stepped
  | close c => exact inv_close inv stepped
  | release c => exact inv_release inv stepped
  | crash p =>
    cases stepped
    exact inv_crash inv
  | report id values => exact inv_report inv stepped

theorem inv_initial (clock : Time) : Inv (State.initial clock) where
  calls c := {
    fence := fun holds => by
      simp [State.initial, Call.initial, Call.live, Point.claiming, Point.isOwner] at holds
    tasks := fun _ => trivial
    resting := fun _ _ => rfl
    restoring := fun _ => rfl
    point := trivial
    durable := fun serving => by
      simp [State.initial, Call.initial, Point.serving] at serving }
  rows row member := absurd member (Table.not_mem_empty row)

/-- How the lease of a row changes: not at all, to a new owner, by a checkpoint of its owner, or by
its owner to a moment that has passed. -/
inductive RowStep (s : State) (e : Event) (row row' : IngestRadioTransition) : Prop where
  | kept : row'.leaseOwner = row.leaseOwner → row'.leaseExpiresAt = row.leaseExpiresAt →
      RowStep s e row row'
  | adopted : (s.calls row'.leaseOwner).point.hasClaimed = false → RowStep s e row row'
  | renewed {k : Nat} {values : Values} {cleanup : Bool} {leaseStarted now : Time} :
      e = .commit row.leaseOwner k →
      (s.calls row.leaseOwner).tasks k = .updated values cleanup leaseStarted now →
      row'.leaseOwner = row.leaseOwner → row'.leaseExpiresAt = State.freshExpiry values now →
      RowStep s e row row'
  | expired : row'.leaseOwner = row.leaseOwner → row'.leaseExpiresAt ≤ s.clock →
      RowStep s e row row'

inductive RowsStep (s : State) (e : Event) (rows : Transitions) : Prop where
  | same : rows = s.rows → RowsStep s e rows
  | inserted : (∀ row ∈ s.rows, row ∈ rows) → RowsStep s e rows
  | written {id : Nat} {values : Values} : rows = write s.rows id values →
      (∀ row ∈ s.rows, row.id = id → RowStep s e row (values.write row)) → RowsStep s e rows

theorem heldBy_owner {row : IngestRadioTransition} (held : row.heldBy c = true) :
    row.leaseOwner = c := by
  simp only [IngestRadioTransition.heldBy, Bool.and_eq_true, decide_eq_true_eq] at held
  exact held.2

theorem rowsStep_claim (stepped : s.claim c = some t) : RowsStep s (.claim c) t.rows := by
  unfold State.claim at stepped
  split at stepped
  next input now leaseStarted deadline at_ =>
    split at stepped <;> cases stepped
    exact .inserted fun _ member => List.mem_append_left _ member
  next row address bootId now leaseStarted deadline at_ =>
    split at stepped
    next free =>
      obtain ⟨rows, written, rfl⟩ := Option.map_eq_some_iff.mp stepped
      obtain ⟨old, member, key, guard, rfl⟩ := writeIf_some written
      refine .written rfl fun before present _ => .adopted ?_
      simp [adoptionValues, at_, Point.hasClaimed]
    next _ => cases stepped
  next _ => cases stepped

theorem rowsStep_commit (inv : Inv s) (stepped : s.commit c k = some t) :
    RowsStep s (.commit c k) t.rows := by
  unfold State.commit at stepped
  split at stepped
  next values cleanup leaseStarted now task =>
    cases stepped
    have updated := (inv.calls c).tasks k
    rw [task] at updated
    obtain ⟨-, asked, -, -, -, row, member, key, held, -⟩ := updated
    refine .written rfl fun before present id => ?_
    obtain rfl : before = row := Table.eq_of_key present member (id.trans key.symm)
    have owner := heldBy_owner held
    refine .renewed (by rw [owner]) (by rw [owner]; exact task) ?_ rfl
    simp [Values.renewing, asked.owner]
  next _ => cases stepped

theorem rowsStep_persistRestoreFailure {error : String} (inv : Inv s)
    (stepped : s.persistRestoreFailure c k error = some t) :
    RowsStep s (.persistRestoreFailure c k error) t.rows := by
  unfold State.persistRestoreFailure at stepped
  split at stepped
  next now task =>
    have read := (inv.calls c).tasks k
    rw [task] at read
    split at stepped
    next free =>
      split at stepped <;> cases stepped
      next rows written =>
        obtain ⟨row, member, key, held, rfl⟩ := writeIf_some written
        exact .written rfl fun before present _ => .expired rfl read
      next _ => exact .same rfl
    next _ => cases stepped
  next _ => cases stepped

theorem rowsStep_finish {error : Option String} {errors : List String}
    (stepped : s.finish c k error errors = some t) :
    RowsStep s (.finish c k error errors) t.rows := by
  unfold State.finish at stepped
  split at stepped
  next idle =>
    split at stepped <;> cases stepped
    cases written : writeIf s.rows (s.calls c).row (·.heldBy c)
        (finishValues s.clock error errors) with
    | none => exact .same rfl
    | some rows =>
      obtain ⟨row, member, key, held, rfl⟩ := writeIf_some written
      exact .written rfl fun _ _ _ => .kept rfl rfl
  next _ => cases stepped

theorem rowsStep_report {id : Nat} {values : Values} (stepped : s.report id values = some t) :
    RowsStep s (.report id values) t.rows := by
  unfold State.report at stepped
  split at stepped <;> cases stepped
  next named =>
    refine .written rfl fun row _ _ => .kept ?_ ?_
    · simp [named.2.1]
    · simp [named.2.2.1]

theorem rows_step {e : Event} (inv : Inv s) (stepped : s.step process e = some t) :
    RowsStep s e t.rows := by
  cases e with
  | claim c => exact rowsStep_claim stepped
  | commit c k => exact rowsStep_commit inv stepped
  | persistRestoreFailure c k error => exact rowsStep_persistRestoreFailure inv stepped
  | finish c k error errors => exact rowsStep_finish stepped
  | report id values => exact rowsStep_report stepped
  | _ =>
    refine .same ?_
    simp only [State.step, State.acquire, State.readNow, State.readLeaseStarted,
      State.readDeadline, State.abandon, State.construct, State.ask, State.beginImmediate,
      State.start, State.update, State.assign, State.giveUp, State.restore, State.readExpiry,
      State.endRestore, State.close, State.release] at stepped
    (repeat' split at stepped) <;> cases stepped <;> rfl

theorem row_step {e : Event} {row : IngestRadioTransition} (inv : Inv s)
    (stepped : s.step process e = some t) (member : row ∈ s.rows) :
    ∃ row' ∈ t.rows, row'.id = row.id ∧ RowStep s e row row' := by
  cases rows_step inv stepped with
  | same rows =>
    rw [rows]
    exact ⟨row, member, rfl, .kept rfl rfl⟩
  | inserted stays => exact ⟨row, stays row member, rfl, .kept rfl rfl⟩
  | @written id values rows changed =>
    rw [rows]
    refine ⟨_, mem_write.mpr ⟨row, member, rfl⟩, ?_⟩
    by_cases hit : row.id = id
    · simpa only [hit, if_true, Values.write_id, true_and] using changed row member hit
    · simpa [hit] using RowStep.kept rfl rfl

def StandsBy (call call' : Call) : Prop :=
  call.point.hasClaimed = true → call'.point.hasClaimed = true ∧ call'.row = call.row

theorem standsBy_setCall (same : t.calls = s.calls) (stands : StandsBy (s.calls c) call) :
    StandsBy (s.calls d) ((t.setCall c call).calls d) := by
  by_cases hit : d = c
  · subst hit
    simpa [State.setCall] using stands
  · intro claimed
    simp [State.setCall, Function.update_of_ne hit, same, claimed]

theorem standsBy_acquire {claim : Claim} (stepped : s.acquire c claim = some t) :
    StandsBy (s.calls d) (t.calls d) := by
  unfold State.acquire at stepped
  split at stepped <;> cases stepped
  next free =>
    refine standsBy_setCall rfl fun claimed => ?_
    cases at_ : (s.calls c).point <;> simp_all [Point.isIdle, Point.hasClaimed]

theorem standsBy_claim (stepped : s.claim c = some t) : StandsBy (s.calls d) (t.calls d) := by
  unfold State.claim at stepped
  split at stepped
  next input now leaseStarted deadline at_ =>
    split at stepped <;> cases stepped
    refine standsBy_setCall rfl fun claimed => ?_
    simp [at_, Point.hasClaimed] at claimed
  next row address bootId now leaseStarted deadline at_ =>
    split at stepped
    next free =>
      obtain ⟨rows, written, rfl⟩ := Option.map_eq_some_iff.mp stepped
      refine standsBy_setCall rfl fun claimed => ?_
      simp [at_, Point.hasClaimed] at claimed
    next _ => cases stepped
  next _ => cases stepped

theorem standsBy_crash {p : Nat} : StandsBy (s.calls c) ((s.crash process p).calls c) := by
  intro claimed
  by_cases dead : process c = p
  · simp only [State.crash, dead, if_true]
    cases at_ : (s.calls c).point <;>
      simp_all [Call.crashed, Point.isIdle, Point.hasClaimed]
  · simpa only [State.crash, dead, if_false, and_true] using claimed

theorem standsBy_step {e : Event} (stepped : s.step process e = some t) :
    StandsBy (s.calls d) (t.calls d) := by
  cases e with
  | acquire c claim => exact standsBy_acquire stepped
  | claim c => exact standsBy_claim stepped
  | crash p =>
    cases stepped
    exact standsBy_crash
  | _ =>
    simp only [State.step, State.readNow, State.readLeaseStarted,
      State.readDeadline, State.abandon, State.construct, State.ask, State.beginImmediate,
      State.start, State.update, State.commit, State.assign, State.giveUp, State.restore,
      State.readExpiry, State.persistRestoreFailure, State.finish, State.endRestore,
      State.close, State.release, State.report] at stepped
    (repeat' split at stepped) <;> cases stepped
    all_goals
      first
      | exact fun claimed => ⟨claimed, rfl⟩
      | refine standsBy_setCall rfl fun claimed => ?_
        simp_all [Point.hasClaimed, Call.setTask]

namespace State

def AtMostOneLive (s : State) : Prop :=
  ∀ c d, (s.calls c).live = true → (s.calls d).live = true → c = d

def Adopted (s : State) (c : Nat) : Prop :=
  (s.calls c).point.hasClaimed = true ∧
    ∃ row ∈ s.rows, row.id = (s.calls c).row ∧ row.leaseOwner ≠ c

def AdoptedSilent (process : Nat → Nat) (s : State) : Prop :=
  ∀ c, s.Adopted c → ∀ es t, Run (Stepped process) anyStep s es t →
    ∀ k, t.step process (.commit c k) = none

def Revives (s : State) (row row' : IngestRadioTransition) : Prop :=
  row'.id = row.id ∧ row'.leaseOwner = row.leaseOwner ∧ row.leaseExpiresAt ≤ s.clock ∧
    s.clock < row'.leaseExpiresAt

instance (s : State) (row row' : IngestRadioTransition) : Decidable (s.Revives row row') :=
  inferInstanceAs (Decidable (_ ∧ _ ∧ _ ∧ _))

def RevivedRestoring (process : Nat → Nat) (s : State) : Prop :=
  ∀ e t, Stepped process s e t → ∀ row ∈ s.rows, ∀ row' ∈ t.rows, s.Revives row row' →
    ∃ k, e = .commit row.leaseOwner k ∧ (s.calls row.leaseOwner).restoringTask = some k

/-- Outside restoration a lease is renewed only by a checkpoint that found it unexpired when it
read the clock under the write lock. -/
def RenewedUnexpired (process : Nat → Nat) (s : State) : Prop :=
  ∀ e t, Stepped process s e t → ∀ row ∈ s.rows, ∀ row' ∈ t.rows, s.Revives row row' →
    ∃ k, e = .commit row.leaseOwner k ∧
      ((s.calls row.leaseOwner).restoringTask = some k ∨
        ∃ values cleanup leaseStarted now,
          (s.calls row.leaseOwner).tasks k = .updated values cleanup leaseStarted now ∧
            now < row.leaseExpiresAt)

def WithinLease (s : State) : Prop :=
  ∀ c, (s.calls c).point.isOwner = true → (s.calls c).leaseValidUntil ≤ (s.calls c).durable

def WithinLeaseUntilHandover (s : State) : Prop :=
  ∀ c, (s.calls c).point.isOwner = true → (s.calls c).handedOver = false →
    (s.calls c).leaseValidUntil ≤ (s.calls c).durable

def DurableInRow (s : State) : Prop :=
  ∀ row ∈ s.rows, (s.calls row.leaseOwner).row = row.id ∧
    (s.calls row.leaseOwner).durable = row.leaseExpiresAt

end State

theorem inv_run {clock : Time} {es : List Event}
    (run : Run (State.Stepped process) anyStep (.initial clock) es s) : Inv s :=
  run.invariant Inv (fun _ _ _ inv _ stepped => inv_step inv stepped) (inv_initial clock)

theorem atMostOneLive (inv : Inv s) : s.AtMostOneLive := by
  intro c d liveC liveD
  have fenceC := (inv.calls c).fence (by simp [liveC])
  have fenceD := (inv.calls d).fence (by simp [liveD])
  exact Option.some.inj (fenceC.symm.trans fenceD)

theorem adopted_step {e : Event} (inv : Inv s) (adopted : s.Adopted c)
    (stepped : s.step process e = some t) : t.Adopted c := by
  obtain ⟨claimed, row, member, id, other⟩ := adopted
  obtain ⟨still, sameRow⟩ := standsBy_step (d := c) stepped claimed
  obtain ⟨row', there, sameId, change⟩ := row_step inv stepped member
  refine ⟨still, row', there, by rw [sameId, id, sameRow], ?_⟩
  cases change with
  | kept owner lease => rwa [owner]
  | adopted unclaimed =>
    intro back
    rw [back, claimed] at unclaimed
    cases unclaimed
  | renewed _ _ owner _ => rwa [owner]
  | expired owner _ => rwa [owner]

theorem silent_of_adopted (inv : Inv s) (adopted : s.Adopted c) (k : Nat) :
    s.step process (.commit c k) = none := by
  obtain ⟨claimed, row, member, id, other⟩ := adopted
  cases task : (s.calls c).tasks k with
  | updated values cleanup leaseStarted now =>
    have updated := (inv.calls c).tasks k
    rw [task] at updated
    obtain ⟨-, -, -, -, -, own, present, key, held, -⟩ := updated
    obtain rfl : own = row := Table.eq_of_key present member (key.trans id.symm)
    exact absurd (heldBy_owner held) other
  | _ => simp [State.step, State.commit, task]

theorem adoptedSilent (inv : Inv s) : s.AdoptedSilent process := by
  intro c adopted es t run
  have held : Inv t ∧ t.Adopted c := by
    refine run.invariant (fun s => Inv s ∧ s.Adopted c) ?_ ⟨inv, adopted⟩
    rintro u e v ⟨inv, adopted⟩ - stepped
    exact ⟨inv_step inv stepped, adopted_step inv adopted stepped⟩
  exact silent_of_adopted held.1 held.2

theorem renewedUnexpired (inv : Inv s) : s.RenewedUnexpired process := by
  intro e t stepped row member row' member' revives
  obtain ⟨sameId, sameOwner, expired, fresh⟩ := revives
  obtain ⟨after, there, id, change⟩ := row_step inv stepped member
  obtain rfl : after = row' := Table.eq_of_key there member' (id.trans sameId.symm)
  cases change with
  | kept _ lease =>
    rw [lease] at fresh
    exact absurd expired (not_le.mpr fresh)
  | adopted unclaimed =>
    have claimed := (inv.rows row member).claimed
    rw [sameOwner, claimed] at unclaimed
    cases unclaimed
  | @renewed k values cleanup leaseStarted now commit task _ lease =>
    refine ⟨k, commit, ?_⟩
    have updated := (inv.calls row.leaseOwner).tasks k
    rw [task] at updated
    obtain ⟨-, asked, -, -, -, own, present, key, held, allowed⟩ := updated
    -- an expiry that the caller names has passed, so it does not revive
    have unnamed : values.leaseExpiresAt.isSome = false := by
      cases named : values.leaseExpiresAt with
      | none => rfl
      | some e =>
        have passed := asked.expiry e named
        rw [lease, State.freshExpiry, named] at fresh
        exact absurd passed (not_le.mpr fresh)
    cases allowed with
    | inl cleanup =>
      refine .inl ((asked.cleanup cleanup).resolve_right ?_)
      simp [unnamed]
    | inr unexpired =>
      have linked := inv.rows row member
      obtain rfl : own = row := Table.eq_of_key present member (key.trans linked.id)
      exact .inr ⟨values, cleanup, leaseStarted, now, task, unexpired⟩
  | expired _ passed => exact absurd passed (not_le.mpr fresh)

theorem withinLeaseUntilHandover (inv : Inv s) : s.WithinLeaseUntilHandover := by
  intro c owner kept
  have point := (inv.calls c).point
  cases at_ : (s.calls c).point with
  | owner =>
    rw [at_] at point
    exact point kept
  | _ => simp [at_, Point.isOwner] at owner

theorem durableInRow (inv : Inv s) : s.DurableInRow :=
  fun row member => ⟨(inv.rows row member).id, (inv.rows row member).durable⟩

theorem single_owner (process : Nat → Nat) (clock : Time) (es : List Event) (s : State)
    (run : Run (State.Stepped process) anyStep (.initial clock) es s) :
    s.AtMostOneLive ∧ s.AdoptedSilent process ∧ s.RenewedUnexpired process ∧
      s.WithinLeaseUntilHandover ∧ s.DurableInRow := by
  have inv := inv_run run
  exact ⟨atMostOneLive inv, adoptedSilent inv, renewedUnexpired inv,
    withinLeaseUntilHandover inv, durableInRow inv⟩

section Examples

def beginInput : BeginInput where
  transitionId := 1
  leaseOwner := 0
  address := "10.0.0.2:5555"
  deviceBootId := "unit@boot"
  loggerStatusPath := none
  unitReportToken := none

def next (s : State) (e : Event) : Option State := s.step id e

-- Call 0 runs `begin` and returns its object.
def begun : List Event :=
  [.acquire 0 (.begin beginInput), .readNow 0, .readLeaseStarted 0, .readDeadline 0, .claim 0,
    .construct 0]

def renewing : List Event :=
  [.ask 0 0 {}, .beginImmediate 0 0, .start 0 0, .update 0 0]

theorem single_owner_renewed :
    ∃ s, Run (State.Stepped id) anyStep (.initial 0)
        (begun ++ [.tick 10] ++ renewing ++ [.commit 0 0, .assign 0 0]) s ∧
      (s.calls 0).live = true ∧ (s.calls 0).leaseValidUntil = 55 ∧ s.AtMostOneLive ∧
      s.AdoptedSilent id ∧ s.RenewedUnexpired id ∧ s.WithinLeaseUntilHandover ∧
      s.DurableInRow := by
  have renewed : (trace next anyStep (.initial 0)
      (begun ++ [.tick 10] ++ renewing ++ [.commit 0 0, .assign 0 0])).any
      (fun s => (s.calls 0).live && (s.calls 0).leaseValidUntil = 55) = true := by
    decide +kernel
  obtain ⟨s, traced, holds⟩ := (Option.any_eq_true _ _).mp renewed
  have holds : (s.calls 0).live = true ∧ (s.calls 0).leaseValidUntil = 55 := by
    simpa using holds
  have run := run_of_trace next anyStep traced
  exact ⟨s, run, holds.1, holds.2, single_owner id 0 _ s run⟩

def revivedBeating (s : State) : Bool :=
  (s.step id (.commit 0 0)).any fun t =>
    s.rows.rows.any fun row => t.rows.rows.any fun row' =>
      decide (s.Revives row row') && (s.calls row.leaseOwner).restoringTask.isNone

/-- A commit that outlasts the lease revives it, and an owner that expires its own lease still
counts on the old one. -/
theorem not_single_owner :
    (¬ ∀ clock es s, Run (State.Stepped id) anyStep (.initial clock) es s →
        s.RevivedRestoring id) ∧
      ¬ ∀ clock es s, Run (State.Stepped id) anyStep (.initial clock) es s → s.WithinLease := by
  constructor
  · intro claimed
    have revived : (trace next anyStep (.initial 0)
        (begun ++ [.tick 10] ++ renewing ++ [.tick 40])).any revivedBeating = true := by
      decide +kernel
    obtain ⟨s, traced, holds⟩ := (Option.any_eq_true _ _).mp revived
    obtain ⟨t, stepped, holds⟩ := (Option.any_eq_true _ _).mp holds
    simp only [List.any_eq_true, Bool.and_eq_true, decide_eq_true_eq,
      Option.isNone_iff_eq_none] at holds
    obtain ⟨row, member, row', member', revives, resting⟩ := holds
    obtain ⟨k, -, restoring⟩ := claimed 0 _ s (run_of_trace next anyStep traced) _ t
      stepped row member row' member' revives
    rw [resting] at restoring
    cases restoring
  · intro claimed
    have expired : (trace next anyStep (.initial 0)
        (begun ++ [.restore 0 0, .tick 1, .readExpiry 0 0,
          .persistRestoreFailure 0 0 "cancelled"])).any
        (fun s => (s.calls 0).point.isOwner &&
          decide ((s.calls 0).durable < (s.calls 0).leaseValidUntil)) = true := by
      decide +kernel
    obtain ⟨s, traced, holds⟩ := (Option.any_eq_true _ _).mp expired
    have holds : (s.calls 0).point.isOwner = true ∧
        (s.calls 0).durable < (s.calls 0).leaseValidUntil := by
      simpa using holds
    exact absurd (claimed 0 _ s (run_of_trace next anyStep traced) 0 holds.1)
      (not_le.mpr holds.2)

end Examples

end DashcamStats.Ingest.Ownership
