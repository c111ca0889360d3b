import DashcamStats.Auth.Lookups

namespace DashcamStats.Auth

open Routine (Kept read modify atomic block)

section Commits

variable {headers : Headers} {i : ℕ} {w : World} {chosen : ℕ → Prop} {P : Ledger → Prop}
variable {α : Type}

theorem careful_any {operation : World → α × World} (lasting : Lasting headers i P)
    (straddled : ∀ w, w.straddled = true → (operation w).2.straddled = true)
    (effect : ∀ (chosen : ℕ → Prop) (w : World), w.ledger.Intact headers →
      Effect headers chosen w.ledger (operation w).2.ledger) :
    Careful headers i P (atomic operation) fun _ => P :=
  careful_atomic lasting (fun _ => lasting) straddled fun w _ intact holds _ =>
    ⟨effect _ w intact, lasting _ _ intact (effect _ w intact) holds⟩

theorem careful_return (result : α) (lasting : Lasting headers i P) :
    Careful headers i P (pure result) fun _ => P :=
  fun _ calm => Routine.Safe.pure result (calm_kept lasting) calm

theorem effect_bumpCredential (intact : w.ledger.Intact headers) :
    Effect headers chosen w.ledger w.bumpCredential.ledger := by
  have clears : Effect headers chosen w.ledger (World.ledger
      { w with credentialEpoch := w.credentialEpoch + 1, basicCache := [], basicRejected := [] }) := {
    intact := { intact with basic := fun entry mem => by cases mem }
    grows := { Grows.refl w.ledger with }
    stays := ⟨fun _ mem _ => mem, fun _ mem _ => mem⟩ }
  exact clears.trans (effect_bumpSessions clears.intact) rfl

theorem careful_acquire (lasting : Lasting headers i P) :
    Careful headers i P (acquire i) fun _ => P := by
  refine careful_block lasting (fun _ => lasting) (fun w was outcome mem => ?_)
    fun w _ intact holds outcome mem _ => ?_
  · split at mem
    · cases List.mem_singleton.mp mem
      exact was
    · cases mem
  · split at mem
    · cases List.mem_singleton.mp mem
      exact ⟨Effect.refl _ intact, holds⟩
    · cases mem

theorem careful_ensureCredentialLoaded (lasting : Lasting headers i P) :
    Careful headers i P (ensureCredentialLoaded i) fun _ => P := by
  have loads : Careful headers i P (modify World.loaded) fun _ => P :=
    careful_any lasting (fun _ was => was) fun chosen w intact =>
      @effect_bumpCredential headers
        { w.release with credentialLoaded := true, credentialRecheckedAt := w.now } chosen intact
  refine careful_bind (careful_aside lasting fun _ => rfl) fun loaded => ?_
  cases loaded with
  | true => exact careful_return () lasting
  | false =>
    refine careful_bind (careful_acquire lasting) fun _ =>
      careful_bind (careful_aside lasting fun _ => rfl) fun loaded => ?_
    cases loaded with
    | true => exact careful_aside lasting fun _ => rfl
    | false =>
      exact careful_bind (careful_aside lasting fun _ => rfl) fun found =>
        careful_bind (careful_aside lasting fun _ => rfl) fun _ => loads

theorem careful_recheckCredential (lasting : Lasting headers i P) :
    Careful headers i P (recheckCredential i) fun _ => P := by
  refine careful_bind (careful_aside lasting fun _ => rfl) fun early => ?_
  cases early with
  | true => exact careful_return () lasting
  | false =>
    have due : Careful headers i P (atomic World.due) fun _ => P :=
      careful_aside lasting fun w => by
        unfold World.due
        split <;> rfl
    refine careful_bind (careful_acquire lasting) fun _ => careful_bind due fun due => ?_
    cases due with
    | false => exact careful_return () lasting
    | true =>
      refine careful_bind (careful_aside lasting fun _ => rfl) fun found => ?_
      refine careful_any lasting (fun w was => ?_) fun chosen w intact => ?_
      · dsimp only
        unfold World.reload
        split <;> exact was
      · dsimp only
        unfold World.reload
        split
        · exact Effect.refl _ intact
        · exact @effect_bumpCredential headers
            (w.release.publish i (found.1.map (·.username)) found.2) chosen intact

theorem careful_signInRequired : Careful headers i (fun _ => True) (signInRequired i)
    fun _ _ => True := by
  refine careful_bind (careful_aside lasting_true fun _ => rfl) fun began => ?_
  have records (call : World → Call) (signs : ∀ w, ∃ guarded required,
      call w = .signIn guarded required) :
      Careful headers i (fun _ => True) (modify fun w => w.record (call w)) fun _ _ => True :=
    careful_any lasting_true (fun _ was => was) fun chosen w intact => by
      obtain ⟨guarded, required, isCall⟩ := signs w
      exact effect_record intact (by rw [isCall]; trivial)
  split
  · exact careful_bind (careful_ensureCredentialLoaded lasting_true) fun _ =>
      careful_bind (careful_recheckCredential lasting_true) fun _ =>
        records _ fun w => ⟨_, _, rfl⟩
  · exact records _ fun w => ⟨_, _, rfl⟩

def Committed (version : ℕ) (l : Ledger) : Prop :=
  version ≤ l.history.length ∧ ∀ entry ∈ l.verifying, version ≤ entry.2

theorem committed_lasting {version : ℕ} : Lasting headers i (Committed version) := by
  intro l l' intact effect committed
  obtain ⟨newer, isNewer⟩ := effect.grows.history
  refine ⟨?_, fun entry mem => ?_⟩
  · rw [isNewer, List.length_append]
    exact Nat.le_trans committed.1 (Nat.le_add_left _ _)
  · rcases effect.grows.verifying entry mem with mem | le
    · exact committed.2 entry mem
    · exact Nat.le_trans committed.1 le

theorem effect_commitAccount (intact : w.ledger.Intact headers) (account : Option Account)
    (kept : account = none ∨ w.verifying = []) :
    Effect headers chosen w.ledger
      { (w.commitAccount account).ledger with sessions := [] } where
  intact := { intact with
    issued := fun row mem => by cases mem
    distinct := List.nodup_nil
    revoked := fun token mem => ⟨(intact.revoked token mem).1, fun row mem => by cases mem⟩
    account := fun stored isStored => ⟨stored, w.history, by
      change account :: w.history = _
      rw [show account = some stored from isStored], rfl, rfl⟩
    returned := Nat.le_succ_of_le intact.returned
    basic := fun entry mem current =>
      ⟨(intact.basic entry mem current).1, (intact.basic entry mem current).2.grows [account]⟩
    calls := fun call mem => (intact.calls call mem).grows [account] }
  grows := { Grows.refl w.ledger with
    history := ⟨[account], rfl⟩
    sessions := fun row mem => by cases mem
    account := fun busy stored isStored => by
      rcases kept with none | empty
      · cases none.symm.trans isStored
      · exact absurd empty busy }
  stays := ⟨fun _ mem _ => mem, fun _ mem _ => mem⟩

theorem deleted_all (intact : w.ledger.Intact headers) (account : Option Account) :
    Deleted (w.sessions.map (·.token))
      { (w.commitAccount account).ledger with sessions := [] } := by
  intro token mem
  obtain ⟨row, isRow, rfl⟩ := List.mem_map.mp mem
  exact ⟨intact.issued row isRow, fun other mem => by cases mem⟩

theorem effect_settle {tokens : List String} {version : ℕ} (intact : w.ledger.Intact headers)
    (deleted : Deleted tokens w.ledger) (committed : Committed version w.ledger)
    (still : (w.revoke tokens).straddled = false) :
    Effect headers chosen w.ledger
      { (w.revoke tokens).bumpCredential.ledger with returned := max w.returned version } := by
  have settles : Effect headers chosen w.ledger (World.ledger { w with
      credentialEpoch := w.credentialEpoch + 1
      basicCache := []
      basicRejected := []
      returned := max w.returned version }) := {
    intact := { intact with
      basic := fun entry mem => by cases mem
      returned := Nat.max_le.mpr ⟨intact.returned, committed.1⟩
      verifying := fun entry mem =>
        Nat.max_le.mpr ⟨intact.verifying entry mem, committed.2 entry mem⟩ }
    grows := { Grows.refl w.ledger with returned := Nat.le_max_left _ _ }
    stays := ⟨fun _ mem _ => mem, fun _ mem _ => mem⟩ }
  exact settles.trans (effect_revoke settles.intact deleted still) rfl

def Commits (committed : List String × ℕ) (l : Ledger) : Prop :=
  Deleted committed.1 l ∧ Committed committed.2 l

theorem commits_lasting {committed : List String × ℕ} :
    Lasting headers i (Commits committed) :=
  lasting_and deleted_lasting committed_lasting

theorem careful_commit {operation : World → (List String × ℕ) × World} (account : Option Account)
    (commits : ∀ w, ((operation w).1 = (w.sessions.map (·.token), w.version + 1)) ∧
      (operation w).2.ledger = { (w.commitAccount account).ledger with
        sessions := []
        straddled := w.straddled || !w.verifying.isEmpty }) :
    Careful headers i (fun _ => True) (atomic operation) Commits := by
  refine careful_atomic lasting_true (fun _ => commits_lasting) (fun w was => ?_)
    fun w was intact _ still => ?_
  · rw [show (operation w).2.straddled = (w.straddled || !w.verifying.isEmpty) from
      congrArg Ledger.straddled (commits w).2, was]
    rfl
  · have still : (w.straddled || !w.verifying.isEmpty) = false :=
      (congrArg Ledger.straddled (commits w).2).symm.trans still
    have empty : w.verifying = [] := by
      rw [Bool.or_eq_false_iff] at still
      simpa using still.2
    have same : (operation w).2.ledger =
        { (w.commitAccount account).ledger with sessions := [] } := by
      rw [(commits w).2, still, ← was]
      rfl
    rw [same, (commits w).1]
    refine ⟨effect_commitAccount intact account (.inr empty), deleted_all intact account,
      Nat.le_refl _, fun entry mem => ?_⟩
    have mem : entry ∈ w.verifying := mem
    rw [empty] at mem
    cases mem

theorem careful_settle {change : World → World} {committed : List String × ℕ}
    (settles : ∀ w, (change w).ledger = { (w.revoke committed.1).bumpCredential.ledger with
      returned := max w.returned committed.2 }) :
    Careful headers i (Commits committed) (modify change) fun _ _ => True := by
  refine careful_atomic commits_lasting (fun _ => lasting_true) (fun w was => ?_)
    fun w _ intact holds still => ?_
  · exact (congrArg Ledger.straddled (settles w)).trans (straddled_revoke was)
  · rw [settles w]
    exact ⟨effect_settle intact holds.1 holds.2
      ((congrArg Ledger.straddled (settles w)).symm.trans still), trivial⟩

theorem careful_setCredential (normalise : String → String) (isSpace : Char → Bool)
    (username password : String) :
    Careful headers i (fun _ => True) (setCredential normalise isSpace username password)
      fun _ _ => True := by
  unfold setCredential
  dsimp only
  split
  · exact careful_bind (careful_commit (some _) fun _ => ⟨rfl, rfl⟩) fun committed =>
      careful_settle fun _ => rfl
  · exact careful_return () lasting_true

theorem careful_clearCredential : Careful headers i (fun _ => True) (clearCredential i)
    fun _ _ => True :=
  careful_bind (careful_commit none fun _ => ⟨rfl, rfl⟩) fun _ =>
    careful_bind (careful_settle fun _ => rfl) fun _ => careful_aside lasting_true fun _ => rfl

end Commits

section Basic

variable {headers : Headers} {i : ℕ} {w : World} {chosen : ℕ → Prop} {P : Ledger → Prop}
variable {header username password : String} {floor now version : ℕ}

def Floor (floor : ℕ) (l : Ledger) : Prop := floor ≤ l.returned

theorem floor_lasting : Lasting headers i (Floor floor) :=
  fun _ _ _ effect le => Nat.le_trans le effect.grows.returned

theorem evidence_lasting :
    Lasting headers i fun l => Evidence headers l.history header version := by
  intro l l' intact effect evidence
  obtain ⟨newer, isNewer⟩ := effect.grows.history
  rw [isNewer]
  exact evidence.grows newer

/-- The account that task `i` has read is that of the commit `version`, and nobody else's. -/
structure Held (i : ℕ) (account : Account) (version : ℕ) (l : Ledger) : Prop where
  mem : (i, version) ∈ l.verifying
  committed : ∃ newer stored older, l.history = newer ++ some stored :: older ∧
    version = older.length + 1 ∧ stored.Same account
  stored : ∀ stored, l.account = some stored → account.Same stored

theorem held_lasting {account : Account} : Lasting headers i (Held i account version) := by
  intro l l' intact effect held
  obtain ⟨newer, stored, older, isHistory, isVersion, same⟩ := held.committed
  obtain ⟨latest, isLatest⟩ := effect.grows.history
  refine ⟨effect.stays.verifying _ held.mem rfl, ⟨latest ++ newer, stored, older, ?_, isVersion,
    same⟩, fun stored' isStored' => ?_⟩
  · rw [isLatest, isHistory, List.append_assoc]
  · obtain ⟨stored, isStored, same'⟩ :=
      effect.grows.account (List.ne_nil_of_mem held.mem) stored' isStored'
    have same := held.stored stored isStored
    exact ⟨same.1.trans same'.1, same.2.trans same'.2⟩

theorem accepts_of_same {account stored : Account} (same : stored.Same account) :
    stored.accepts headers username password = account.accepts headers username password := by
  rw [Account.accepts, Account.accepts, same.1, same.2]

theorem Held.evidence {account : Account} {l : Ledger} (held : Held i account version l)
    (decodes : headers.decode header = some (username, password))
    (accepts : account.accepts headers username password = true) :
    Evidence headers l.history header version := by
  obtain ⟨newer, stored, older, isHistory, isVersion, same⟩ := held.committed
  exact ⟨newer, stored, older, username, password, isHistory, isVersion, decodes,
    (accepts_of_same same).trans accepts⟩

def Verified (headers : Headers) (i : ℕ) (header : String) (floor : ℕ) (verified : Bool × ℕ)
    (l : Ledger) : Prop :=
  verified.1 = true → floor ≤ verified.2 ∧ (i, verified.2) ∈ l.verifying ∧
    Evidence headers l.history header verified.2

theorem verified_lasting {verified : Bool × ℕ} :
    Lasting headers i (Verified headers i header floor verified) :=
  lasting_imp (lasting_and lasting_const
    (lasting_and (fun _ _ _ effect mem => effect.stays.verifying _ mem rfl) evidence_lasting))

theorem effect_readVerified (intact : w.ledger.Intact headers) :
    Effect headers chosen w.ledger (w.readVerified i).2.ledger where
  intact := { intact with
    verifying := fun entry mem => by
      rcases List.mem_cons.mp mem with rfl | mem
      · exact intact.returned
      · exact intact.verifying entry mem }
  grows := { Grows.refl w.ledger with
    verifying := fun entry mem => by
      rcases List.mem_cons.mp mem with rfl | mem
      · exact .inr (Nat.le_refl _)
      · exact .inl mem }
  stays := ⟨fun _ mem _ => mem, fun _ mem _ => List.mem_cons_of_mem _ mem⟩

theorem held_readVerified {account : Account} (intact : w.ledger.Intact headers)
    (isAccount : w.account = some account) :
    Held i account w.version (w.readVerified i).2.ledger := by
  obtain ⟨stored, older, isHistory, same⟩ := intact.account account isAccount
  refine ⟨List.mem_cons_self, ⟨[], stored, older, isHistory, ?_, same⟩, fun other isOther => ?_⟩
  · change w.history.length = _
    rw [show w.history = some stored :: older from isHistory]
    rfl
  · cases isAccount.symm.trans isOther
    exact ⟨rfl, rfl⟩

theorem effect_rehash {account : Account} (intact : w.ledger.Intact headers)
    (held : Held i account version w.ledger) (isPassword : account.password = password) :
    Effect headers chosen w.ledger { w.ledger with account := w.account.map fun stored =>
      { stored with password := password, needsRehash := false } } := by
  have same (stored' : Account) (isStored' : (w.account.map fun stored =>
      { stored with password := password, needsRehash := false }) = some stored') :
      ∃ stored, w.account = some stored ∧ stored.Same stored' := by
    obtain ⟨stored, isStored, rfl⟩ := Option.map_eq_some_iff.mp isStored'
    exact ⟨stored, isStored, rfl, (held.stored stored isStored).2.symm.trans isPassword⟩
  exact {
    intact := { intact with
      account := fun stored' isStored' => by
        obtain ⟨stored, isStored, same⟩ := same stored' isStored'
        obtain ⟨committed, older, isHistory, same'⟩ := intact.account stored isStored
        exact ⟨committed, older, isHistory, same'.1.trans same.1, same'.2.trans same.2⟩ }
    grows := { Grows.refl w.ledger with account := fun _ => same }
    stays := ⟨fun _ mem _ => mem, fun _ mem _ => mem⟩ }

theorem careful_verifyCredential (decodes : headers.decode header = some (username, password)) :
    Careful headers i (Floor floor) (verifyCredential headers i username password)
      (Verified headers i header floor) := by
  have held (found : Option Account × ℕ) : Lasting headers i fun l => floor ≤ found.2 ∧
      ∀ account, found.1 = some account → Held i account found.2 l := fun l l' intact effect holds =>
    ⟨holds.1, fun account isAccount => held_lasting l l' intact effect (holds.2 account isAccount)⟩
  refine careful_bind (R := fun found l => floor ≤ found.2 ∧
    ∀ account, found.1 = some account → Held i account found.2 l) ?_ fun found => ?_
  · exact careful_atomic floor_lasting held (fun _ was => was) fun w _ intact le _ =>
      ⟨effect_readVerified intact, Nat.le_trans le intact.returned,
        fun account isAccount => held_readVerified intact isAccount⟩
  obtain ⟨found, version⟩ := found
  have ends (verified : Bool × ℕ) {P : Ledger → Prop}
      (knows : ∀ l, P l → Verified headers i header floor verified l) :
      Careful headers i P (pure verified) (Verified headers i header floor) :=
    careful_mono (careful_pure verified verified_lasting) knows
  cases found with
  | none => exact ends (false, version) fun _ _ isTrue => by cases isTrue
  | some account =>
    have holds : Lasting headers i fun l => floor ≤ version ∧ Held i account version l :=
      lasting_and lasting_const held_lasting
    refine careful_mono (P := fun l => floor ≤ version ∧ Held i account version l) ?_
      fun l holds => ⟨holds.1, holds.2 account rfl⟩
    refine careful_bind (careful_aside holds fun _ => rfl) fun _ => ?_
    by_cases accepts : account.accepts headers username password = true
    · have verified (l : Ledger) (holds : floor ≤ version ∧ Held i account version l) :
          Verified headers i header floor (true, version) l :=
        fun _ => ⟨holds.1, holds.2.mem, holds.2.evidence decodes accepts⟩
      simp only [accepts, if_true]
      split
      · refine careful_bind (careful_aside holds fun _ => rfl) fun _ => careful_bind
          (R := fun _ l => floor ≤ version ∧ Held i account version l) ?_
          fun _ => ends (true, version) verified
        refine careful_atomic holds (fun _ => holds) (fun _ was => was) fun w _ intact known _ => ?_
        have isPassword : account.password = password := by
          simp only [Account.accepts, Bool.and_eq_true, decide_eq_true_eq] at accepts
          exact accepts.1
        exact ⟨effect_rehash intact known.2 isPassword,
          holds _ _ intact (effect_rehash intact known.2 isPassword) known⟩
      · exact ends (true, version) verified
    · simp only [accepts]
      exact ends (false, version) fun _ _ isTrue => by cases isTrue

def Cached (headers : Headers) (header : String) (floor : ℕ)
    (cached : Option (Option Principal)) (l : Ledger) : Prop :=
  Floor floor l ∧ ∀ principal, cached = some (some principal) →
    ∃ version, floor ≤ version ∧ Evidence headers l.history header version

theorem cached_lasting {cached : Option (Option Principal)} :
    Lasting headers i (Cached headers header floor cached) := by
  intro l l' intact effect holds
  refine ⟨floor_lasting l l' intact effect holds.1, fun principal isCached => ?_⟩
  obtain ⟨version, le, evidence⟩ := holds.2 principal isCached
  exact ⟨version, le, evidence_lasting l l' intact effect evidence⟩

theorem effect_popBasic (intact : w.ledger.Intact headers) (key : String) :
    Effect headers chosen w.ledger { w.ledger with basicCache := w.basicCache.pop key } where
  intact := { intact with
    basic := fun entry mem => intact.basic entry (List.mem_filter.mp mem).1 }
  grows := { Grows.refl w.ledger with }
  stays := ⟨fun _ mem _ => mem, fun _ mem _ => mem⟩

theorem lookUpRejected_ledger : (w.lookUpRejected header).2.ledger = w.ledger := by
  unfold World.lookUpRejected
  split
  · split <;> rfl
  · rfl

theorem lookUpRejected_ne (principal : Principal) :
    (w.lookUpRejected header).1 ≠ some (some principal) := by
  unfold World.lookUpRejected
  split
  · split <;> simp
  · simp

theorem effect_lookUpAccount (intact : w.ledger.Intact headers) (le : Floor floor w.ledger) :
    Effect headers chosen w.ledger (w.lookUpAccount header).2.ledger ∧
      Cached headers header floor (w.lookUpAccount header).1 (w.lookUpAccount header).2.ledger := by
  unfold World.lookUpAccount
  split
  · exact ⟨Effect.refl _ intact, le, fun _ isCached => by cases isCached⟩
  · unfold World.lookUpBasic
    split
    · rename_i hit isHit
      split
      · rename_i current
        refine ⟨Effect.refl _ intact, le, fun principal _ => ?_⟩
        rw [Bool.and_eq_true, decide_eq_true_eq] at current
        obtain ⟨newest, evidence⟩ := intact.basic _ (mem_of_lookup isHit) current.1
        exact ⟨hit.version, Nat.le_trans le newest, evidence⟩
      · rw [lookUpRejected_ledger]
        exact ⟨effect_popBasic intact header, le, fun principal isCached =>
          absurd isCached (lookUpRejected_ne principal)⟩
    · rw [lookUpRejected_ledger]
      exact ⟨Effect.refl _ intact, le, fun principal isCached =>
        absurd isCached (lookUpRejected_ne principal)⟩

theorem lookUpAccount_straddled (w : World) (header : String) :
    (w.lookUpAccount header).2.straddled = w.straddled := by
  have rejected (w : World) : (w.lookUpRejected header).2.straddled = w.straddled :=
    congrArg Ledger.straddled lookUpRejected_ledger
  unfold World.lookUpAccount World.lookUpBasic
  split
  · rfl
  · split
    · split
      · rfl
      · exact rejected _
    · exact rejected w

theorem effect_verified (intact : w.ledger.Intact headers) :
    Effect headers (· ≠ i) w.ledger (w.verified i).ledger where
  intact := { intact with
    verifying := fun entry mem => intact.verifying entry (List.mem_filter.mp mem).1 }
  grows := { Grows.refl w.ledger with
    verifying := fun entry mem => .inl (List.mem_filter.mp mem).1 }
  stays := ⟨fun _ mem _ => mem, fun _ mem other => List.mem_filter.mpr ⟨mem, by simpa using other⟩⟩

theorem effect_accept (intact : w.ledger.Intact headers) (le : floor ≤ version)
    (mem : (i, version) ∈ w.verifying) (evidence : Evidence headers w.history header version) :
    Effect headers (· ≠ i) w.ledger (w.accept i header username floor now version).ledger where
  intact := { intact with
    verifying := fun entry mem => intact.verifying entry (List.mem_filter.mp mem).1
    basic := fun entry isEntry => by
      rcases mem_remember isEntry with rfl | isEntry
      · exact fun _ => ⟨intact.verifying _ mem, evidence⟩
      · exact intact.basic entry isEntry
    calls := fun call isCall => by
      rcases List.mem_cons.mp isCall with rfl | isCall
      · exact fun _ => ⟨version, le, evidence⟩
      · exact intact.calls call isCall }
  grows := { (effect_verified (i := i) intact).grows with }
  stays := ⟨fun _ mem _ => mem, fun _ mem other => List.mem_filter.mpr ⟨mem, by simpa using other⟩⟩

theorem effect_reject (intact : w.ledger.Intact headers) :
    Effect headers (· ≠ i) w.ledger (w.reject i header floor now).ledger where
  intact := { intact with
    verifying := fun entry mem => intact.verifying entry (List.mem_filter.mp mem).1
    calls := fun call isCall => by
      rcases List.mem_cons.mp isCall with rfl | isCall
      · intro isSome
        cases isSome
      · exact intact.calls call isCall }
  grows := { (effect_verified (i := i) intact).grows with }
  stays := ⟨fun _ mem _ => mem, fun _ mem other => List.mem_filter.mpr ⟨mem, by simpa using other⟩⟩

theorem careful_resolveBasic (header : String) :
    Careful headers i (fun _ => True) (resolveBasic headers i header) fun _ _ => True := by
  refine careful_bind (R := Floor) (careful_read lasting_true (fun _ => floor_lasting)
    fun _ _ _ => Nat.le_refl _) fun floor => ?_
  have refuses : Careful headers i (Floor floor)
      (modify fun w => w.record (.basic header floor none)) fun _ _ => True :=
    careful_record floor_lasting fun _ _ _ isSome => by cases isSome
  dsimp only
  split
  · exact refuses
  · refine careful_bind (careful_ensureCredentialLoaded floor_lasting) fun _ =>
      careful_bind (careful_aside floor_lasting fun _ => rfl) fun now =>
      careful_bind (R := Cached headers header floor) ?_ fun cached => ?_
    · refine careful_atomic floor_lasting (fun _ => cached_lasting) (fun w was => ?_)
        fun w _ intact le _ => effect_lookUpAccount intact le
      exact (lookUpAccount_straddled w header).trans was
    · cases cached with
      | some principal =>
        refine careful_record cached_lasting fun w intact holds => ?_
        cases principal with
        | none => exact fun isSome => by cases isSome
        | some principal => exact fun _ => holds.2 principal rfl
      | none =>
        refine careful_mono (P := Floor floor) ?_ fun _ holds => holds.1
        dsimp only
        split
        · exact refuses
        · rename_i username password decodes
          refine careful_bind (R := fun _ => Floor floor) ?_ fun lets => ?_
          · refine careful_block floor_lasting (fun _ => floor_lasting)
              (fun w was outcome mem => ?_) fun w _ intact le outcome mem _ => ?_
            · simp only [List.mem_cons, List.not_mem_nil, or_false] at mem
              rcases mem with rfl | rfl <;> exact was
            · simp only [List.mem_cons, List.not_mem_nil, or_false] at mem
              rcases mem with rfl | rfl <;> exact ⟨Effect.refl _ intact, le⟩
          · split
            · refine careful_bind (careful_verifyCredential decodes) fun verified => ?_
              refine careful_atomic verified_lasting (fun _ => lasting_true) (fun w was => ?_)
                fun w _ intact holds _ => ?_
              · dsimp only
                split <;> exact was
              · dsimp only
                split
                · rename_i isTrue
                  obtain ⟨le, mem, evidence⟩ := holds isTrue
                  exact ⟨effect_accept intact le mem evidence, trivial⟩
                · exact ⟨effect_reject intact, trivial⟩
            · exact refuses

end Basic

section Runs

variable {headers : Headers} {isSpace : Char → Bool} {i : ℕ} {w w' : World} {chosen : ℕ → Prop}

theorem lookUp_straddled (w : World) (token : String) :
    (w.lookUp token).2.straddled = w.straddled := by
  have asks (w : World) (username : String) : (w.ask token username).2.straddled = w.straddled := by
    unfold World.ask
    split <;> rfl
  have missing (w : World) (username : String) :
      (w.askMissing token username).2.straddled = w.straddled := by
    unfold World.askMissing
    split
    · exact asks w username
    · split
      · rfl
      · exact asks _ username
  unfold World.lookUp
  split
  · rfl
  · split
    · exact missing w _
    · split
      · exact missing _ _
      · split
        · rfl
        · split
          · rfl
          · exact missing w _

theorem careful_resolveSession (token : String) :
    Careful headers i (fun _ => True) (resolveSession i token) fun _ _ => True := by
  refine careful_bind (R := Late token) (careful_read lasting_true (fun _ => late_lasting)
    fun _ _ _ isRevoked => of_decide_eq_true isRevoked) fun revoked => ?_
  split
  · exact careful_record late_lasting fun _ _ _ _ => rfl
  · refine careful_bind (careful_ensureCredentialLoaded late_lasting) fun _ =>
      careful_bind (R := fun plan l => Planned token revoked l plan) ?_ fun plan => ?_
    · exact careful_atomic late_lasting (fun _ => planned_lasting _)
        (fun w was => (lookUp_straddled w token).trans was)
        fun w _ intact late _ => effect_lookUp intact late
    · cases plan with
      | answer principal =>
        exact careful_record (planned_lasting (.answer principal)) fun _ _ holds => holds
      | join future => exact careful_awaitFuture
      | load future username wall now =>
        refine careful_bind (careful_loadSession username wall now) fun principal => ?_
        refine careful_atomic loaded_lasting (fun _ => lasting_true) (fun w was => ?_)
          fun w _ intact loaded _ => ⟨effect_finish intact loaded, trivial⟩
        unfold World.finish
        dsimp only
        split <;> exact was

theorem careful_calls {program : Routine World Unit} (isCall : Calls headers isSpace i program) :
    Careful headers i (fun _ => True) program fun _ _ => True := by
  cases isCall with
  | signInRequired => exact careful_signInRequired
  | ensureCredentialLoaded => exact careful_ensureCredentialLoaded lasting_true
  | recheckCredential => exact careful_recheckCredential lasting_true
  | setCredential username password => exact careful_setCredential _ _ _ _
  | clearCredential => exact careful_clearCredential
  | resolveSession token => exact careful_resolveSession token
  | resolveBasic header => exact careful_resolveBasic header
  | revokeSession token =>
    unfold revokeSession
    split
    · exact careful_return () lasting_true
    · exact careful_revokeSessions _
  | revokeSessionId sessionId => exact careful_revokeSessions _
  | revokeAllSessions keep => exact careful_revokeSessions _

theorem effect_issue {row : AuthSession} (intact : w.ledger.Intact headers)
    (fresh : row.token ∉ w.issued) :
    Effect headers chosen w.ledger { w.ledger with
      sessions := row :: w.sessions, issued := row.token :: w.issued } where
  intact := { intact with
    issued := fun other mem => by
      rcases List.mem_cons.mp mem with rfl | mem
      · exact List.mem_cons_self
      · exact List.mem_cons_of_mem _ (intact.issued other mem)
    distinct := List.nodup_cons.mpr ⟨fun mem => by
      obtain ⟨other, isOther, same⟩ := List.mem_map.mp mem
      have same : other.token = row.token := same
      exact fresh (same ▸ intact.issued other isOther), intact.distinct⟩
    revoked := fun token isRevoked => by
      obtain ⟨issued, gone⟩ := intact.revoked token isRevoked
      refine ⟨List.mem_cons_of_mem _ issued, fun other mem => ?_⟩
      rcases List.mem_cons.mp mem with rfl | mem
      · exact fun same => fresh (same ▸ issued)
      · exact gone other mem }
  grows := { Grows.refl w.ledger with
    issued := fun token mem => List.mem_cons_of_mem _ mem
    sessions := fun other mem => by
      rcases List.mem_cons.mp mem with rfl | mem
      · exact .inl fresh
      · exact .inr ⟨other, mem, rfl⟩ }
  stays := ⟨fun _ mem _ => mem, fun _ mem _ => mem⟩

theorem steps_surroundings (step : Surroundings w w') : Steps headers chosen w w' := by
  cases step with
  | passes now wall _ _ => exact .of_ledger rfl
  | issues row fresh => exact ⟨id, fun _ intact => effect_issue intact fresh⟩
  | expires => exact ⟨id, fun _ intact => effect_filter intact _⟩
  | switches requireLogin => exact .of_ledger rfl
  | recovers => exact ⟨id, fun _ intact => effect_commitAccount intact none (.inl rfl)⟩

def Known (headers : Headers) : World → Prop := Calm headers fun _ => True

theorem known_of_steps (known : Known headers w) (steps : Steps headers chosen w w') :
    Known headers w' := by
  intro still
  have before : w.straddled = false := by
    cases was : w.straddled with
    | false => rfl
    | true => exact absurd (still.symm.trans (steps.straddled was)) Bool.false_ne_true
  exact ⟨(steps.effect still (known before).1).intact, trivial⟩

theorem revocation_compatible :
    Tasks.Compatible Surroundings (Calls headers isSpace) (Trusts headers) (Maintains headers)
      (Known headers) fun _ => Known headers where
  safe := fun _ _ isCall w known _ => careful_calls isCall w known
  kept := fun _ _ _ known maintains => known_of_steps known maintains
  others := fun _ _ _ _ apart _ maintains => ⟨maintains.straddled, fun still intact =>
    have effect := maintains.effect still intact
    ⟨effect.intact, effect.grows,
      fun entry mem own => effect.stays.storing entry mem fun same => apart (same.symm.trans own),
      fun entry mem own => effect.stays.verifying entry mem
        fun same => apart (same.symm.trans own)⟩⟩
  env_kept := fun _ _ known step =>
    known_of_steps known (@steps_surroundings headers _ _ (fun _ => True) step)
  env_rely := fun _ _ _ _ step => steps_surroundings step

theorem known_initial (initial : w.Initial) : Known headers w := by
  obtain ⟨sessionCache, _, inflight, futures, basicCache, _⟩ := initial.unasked
  obtain ⟨revoked, storing, verifying, _⟩ := initial.unrevoked
  obtain ⟨_, returned, _, _, _, calls⟩ := initial.fresh
  refine fun _ => ⟨{
    issued := initial.issued
    distinct := initial.distinct
    revoked := fun token mem => ?_
    cache := fun entry mem => ?_
    storing := fun entry mem => ?_
    inflight := fun entry mem => ?_
    futures := fun future lookup isThere => ?_
    account := fun stored isStored => ⟨stored, [], ?_, rfl, rfl⟩
    returned := ?_
    verifying := fun entry mem => ?_
    basic := fun entry mem => ?_
    calls := fun call mem => ?_ }, trivial⟩
  · rw [show w.ledger.revoked = [] from revoked] at mem
    cases mem
  · rw [show w.ledger.sessionCache = [] from sessionCache] at mem
    cases mem
  · rw [show w.ledger.storing = [] from storing] at mem
    cases mem
  · rw [show w.ledger.inflight = [] from inflight] at mem
    cases mem
  · rw [show w.ledger.futures = [] from futures] at isThere
    cases isThere
  · rw [show w.ledger.history = [w.account] from initial.history,
      show w.account = some stored from isStored]
  · rw [show w.ledger.returned = 0 from returned]
    exact Nat.zero_le _
  · rw [show w.ledger.verifying = [] from verifying] at mem
    cases mem
  · rw [show w.ledger.basicCache = [] from basicCache] at mem
    cases mem
  · rw [show w.ledger.calls = [] from calls] at mem
    cases mem

/-- While no revocation goes between what a call reads and what it stores: a call that begins after
a revocation answers no token whose row it deleted, and accepts a header only for an account that
is not older than the newest one whose call had returned. -/
theorem revocation_immediate (initial : w.Initial) {tasks : Tasks World}
    (steps : Relation.ReflTransGen (Service headers isSpace) (.idle w) tasks)
    (apart : tasks.state.straddled = false) :
    (∀ principal, .session true principal ∈ tasks.state.calls → principal = none) ∧
      ∀ header floor principal, .basic header floor (some principal) ∈ tasks.state.calls →
        ∃ newer account older username password,
          tasks.state.history = newer ++ some account :: older ∧ floor ≤ older.length + 1 ∧
            headers.decode header = some (username, password) ∧
            account.accepts headers username password = true := by
  have known : Known headers w := known_initial initial
  have running := Tasks.running_steps revocation_compatible
    (Tasks.running_idle known (fun _ => known) fun _ => calm_kept lasting_true) steps
  have intact := (running.1 apart).1
  refine ⟨fun principal mem => intact.calls _ mem rfl, fun header floor principal mem => ?_⟩
  obtain ⟨version, le, newer, account, older, username, password, isHistory, rfl, decodes,
    accepts⟩ := intact.calls _ mem rfl
  exact ⟨newer, account, older, username, password, isHistory, le, decodes, accepts⟩

-- Headers of the form `name:password`
def plainHeaders : Headers where
  isBasic := fun _ => true
  decode := fun header => if header = "owner:old" then some ("owner", "old") else none
  normalise := id

def signedIn : World where
  account := some ⟨"owner", "old", false⟩
  sessions := [⟨1, "token", 1000, 0⟩]
  history := [some ⟨"owner", "old", false⟩]
  issued := ["token"]

theorem signedIn_initial : signedIn.Initial where
  history := rfl
  broken := rfl
  fresh := ⟨rfl, rfl, rfl, rfl, rfl, rfl⟩
  unasked := ⟨rfl, rfl, rfl, rfl, rfl, rfl⟩
  unrevoked := ⟨rfl, rfl, rfl, rfl⟩
  issued := fun row mem => by
    rw [List.mem_singleton.mp mem]
    exact List.mem_cons_self
  distinct := List.nodup_singleton _

def revokedBetween : Tasks World :=
  let answers := ((Tasks.idle signedIn).begin 0 (resolveSession 0 "token")).turns
    (List.replicate 12 0)
  let revokes := (answers.begin 1 (revokeSession "token")).turns [1, 1]
  (revokes.begin 2 (resolveSession 2 "token")).turns (List.replicate 12 2)

theorem steps_revokedBetween :
    Relation.ReflTransGen (Service plainHeaders (· = ' ')) (.idle signedIn) revokedBetween :=
  (Tasks.steps_begin _ 0 rfl (.resolveSession "token")).trans ((Tasks.steps_turns _ _).trans
    ((Tasks.steps_begin _ 1 rfl (.revokeSession "token")).trans ((Tasks.steps_turns _ _).trans
      ((Tasks.steps_begin _ 2 rfl (.resolveSession "token")).trans (Tasks.steps_turns _ _)))))

theorem revocation_immediate_session :
    revokedBetween.state.calls =
        [.session true none, .session false (some ⟨"owner", .session, some 1⟩)] ∧
      ∀ principal, .session true principal ∈ revokedBetween.state.calls → principal = none :=
  ⟨by decide +kernel,
    (revocation_immediate signedIn_initial steps_revokedBetween (by decide +kernel)).1⟩

def revokedWithin : Tasks World :=
  let reads := ((Tasks.idle signedIn).begin 0 (resolveSession 0 "token")).turns
    (List.replicate 9 0)
  let revokes := (reads.begin 1 (revokeSession "token")).turns [1, 1, 0, 0, 0]
  (revokes.begin 2 (resolveSession 2 "token")).turns (List.replicate 12 2)

def changedWithin : Tasks World :=
  let reads := ((Tasks.idle signedIn).begin 0 (resolveBasic plainHeaders 0 "owner:old")).turns
    (List.replicate 12 0)
  let sets := (reads.begin 1 (setCredential id (· = ' ') "owner" "correct horse")).turns
    [1, 1, 0, 0]
  (sets.begin 2 (resolveBasic plainHeaders 2 "owner:old")).turns (List.replicate 12 2)

theorem revocation_late :
    Relation.ReflTransGen (Service plainHeaders (· = ' ')) (.idle signedIn) revokedWithin ∧
      .session true (some ⟨"owner", .session, some 1⟩) ∈ revokedWithin.state.calls ∧
      Relation.ReflTransGen (Service plainHeaders (· = ' ')) (.idle signedIn) changedWithin ∧
      .basic "owner:old" 2 (some ⟨"owner", .basic, none⟩) ∈ changedWithin.state.calls ∧
      changedWithin.state.account = some ⟨"owner", "correct horse", false⟩ := by
  refine ⟨?_, by decide +kernel, ?_, by decide +kernel, by decide +kernel⟩
  · exact (Tasks.steps_begin _ 0 rfl (.resolveSession "token")).trans
      ((Tasks.steps_turns _ _).trans ((Tasks.steps_begin _ 1 rfl (.revokeSession "token")).trans
        ((Tasks.steps_turns _ _).trans
          ((Tasks.steps_begin _ 2 rfl (.resolveSession "token")).trans (Tasks.steps_turns _ _)))))
  · exact (Tasks.steps_begin _ 0 rfl (.resolveBasic "owner:old")).trans
      ((Tasks.steps_turns _ _).trans
        ((Tasks.steps_begin _ 1 rfl (.setCredential "owner" "correct horse")).trans
          ((Tasks.steps_turns _ _).trans
            ((Tasks.steps_begin _ 2 rfl (.resolveBasic "owner:old")).trans
              (Tasks.steps_turns _ _)))))

end Runs

end DashcamStats.Auth
