import DashcamStats.Auth.Service

namespace DashcamStats.Auth

open Routine (Kept read modify atomic block)

section Gate

structure Gate where
  isAbsent : Bool
  username : Option String
  version : ℕ
  broken : ℕ
  published : ℕ
  returned : ℕ
  pending : List (ℕ × ℕ)
  overtaken : Bool
  replaced : Bool
  calls : List Call

def World.gate (w : World) : Gate :=
  ⟨w.account.isNone, w.credentialUsername, w.version, w.broken, w.published, w.returned, w.pending,
    w.overtaken, w.replaced, w.calls⟩

def Call.Guards : Call → Prop
  | .signIn guarded required => guarded = true → required = true
  | _ => True

structure Gate.Tight (g : Gate) : Prop where
  published_le : g.published ≤ g.version
  returned_le : g.returned ≤ g.published ∨ g.returned ≤ g.broken
  absent : g.isAbsent = true → g.version ≤ g.broken
  named : g.broken < g.published → g.username.isSome = true
  pending : ∀ entry ∈ g.pending, g.published ≤ entry.2
  replaced : g.replaced = false
  calls : ∀ call ∈ g.calls, call.Guards

def Gate.Sound (g : Gate) : Prop := g.overtaken = true ∨ g.Tight

structure Moves (g g' : Gate) : Prop where
  sound : g.Sound → g'.Sound
  overtaken : g.overtaken = true → g'.overtaken = true
  broken : g.broken ≤ g'.broken
  version : g.version ≤ g'.version

/-- What task `i` keeps -/
structure Meets (i : ℕ) (w w' : World) : Prop extends Moves w.gate w'.gate where
  others : ∀ entry ∈ w.pending, entry.1 ≠ i → entry ∈ w'.pending

/-- What task `i` relies on -/
structure Relies (i : ℕ) (w w' : World) : Prop extends Moves w.gate w'.gate where
  own : ∀ entry ∈ w.pending, entry.1 = i → entry ∈ w'.pending

theorem Moves.refl (g : Gate) : Moves g g := ⟨id, id, Nat.le_refl _, Nat.le_refl _⟩

variable {i : ℕ} {w w' : World}

theorem Meets.of_gate (same : w'.gate = w.gate) : Meets i w w' := by
  have pending : w'.pending = w.pending := congrArg Gate.pending same
  refine ⟨?_, fun entry mem _ => pending ▸ mem⟩
  rw [same]
  exact Moves.refl w.gate

theorem sound_kept : Kept (Relies i) fun w => w.gate.Sound :=
  fun _ _ sound relies => relies.sound sound

end Gate

section Fine

variable {i : ℕ} {α β : Type} {w : World}

def Fine (i : ℕ) (routine : Routine World α) : Prop :=
  ∀ w, w.gate.Sound → Routine.Safe (Relies i) (Meets i) (fun _ w => w.gate.Sound) routine w

theorem fine_pure (result : α) : Fine i (pure result) :=
  fun _ sound => Routine.Safe.pure result sound_kept sound

theorem fine_bind {routine : Routine World α} {next : α → Routine World β} (first : Fine i routine)
    (second : ∀ result, Fine i (next result)) : Fine i (routine >>= next) :=
  fun w sound =>
    Routine.Safe.bind ((first w sound).mono fun result w sound => second result w sound)

theorem fine_block {outcomes : World → List (α × World)}
    (meets : ∀ w, w.gate.Sound → ∀ outcome ∈ outcomes w, Meets i w outcome.2) :
    Fine i (block outcomes) :=
  fun _ sound _ steps outcome mem =>
    have here := sound_kept.steps sound steps
    have step := meets _ here outcome mem
    ⟨step, fun _ later => sound_kept.steps (step.sound here) later⟩

theorem fine_atomic {operation : World → α × World}
    (meets : ∀ w, w.gate.Sound → Meets i w (operation w).2) : Fine i (atomic operation) :=
  fine_block fun w sound outcome mem => by
    cases List.mem_singleton.mp mem
    exact meets w sound

theorem fine_modify {change : World → World} (meets : ∀ w, w.gate.Sound → Meets i w (change w)) :
    Fine i (modify change) :=
  fine_atomic meets

theorem fine_read (look : World → α) : Fine i (read look) :=
  fine_atomic fun _ _ => .of_gate rfl

theorem fine_look {look : World → α} {next : α → Routine World β}
    (rest : ∀ w, Fine i (next (look w))) : Fine i (read look >>= next) :=
  fun _ sound =>
    Routine.Safe.read sound_kept sound (fun _ => .of_gate rfl) fun w sound => rest w w sound

theorem safe_last {P : World → Prop} {change : World → World} (kept : Kept (Relies i) P)
    (holds : P w) (sound : ∀ w, P w → w.gate.Sound) (meets : ∀ w, P w → Meets i w (change w)) :
    Routine.Safe (Relies i) (Meets i) (fun _ w => w.gate.Sound) (modify change) w := by
  intro t steps outcome mem
  have here := kept.steps holds steps
  cases List.mem_singleton.mp mem
  have step := meets t here
  exact ⟨step, fun _ later => sound_kept.steps (step.sound (sound t here)) later⟩

theorem fine_aside {change : World → World} (aside : ∀ w, (change w).gate = w.gate) :
    Fine i (modify change) :=
  fine_modify fun w _ => .of_gate (aside w)

end Fine

section Account

variable {i : ℕ} {w : World} {found : Option String} {version : ℕ}

@[simp] theorem gate_release (w : World) : w.release.gate = w.gate := rfl
@[simp] theorem gate_loaded (w : World) : w.loaded.gate = w.gate := rfl

/-- Task `i` has an answer of `version` on its way. -/
structure Holding (i : ℕ) (found : Option String) (version : ℕ) (w : World) : Prop where
  sound : w.gate.Sound
  mem : (i, version) ∈ w.pending
  absent : found = none → w.overtaken = true ∨ version ≤ w.broken

theorem holding_kept : Kept (Relies i) (Holding i found version) := fun _ _ holding relies =>
  ⟨relies.sound holding.sound, relies.own _ holding.mem rfl,
    fun none => (holding.absent none).imp relies.overtaken fun le => Nat.le_trans le relies.broken⟩

theorem meets_readAccount (sound : w.gate.Sound) :
    Meets i w (w.readAccount i).2 ∧
      Holding i ((w.readAccount i).1.1.map (·.username)) (w.readAccount i).1.2
        (w.readAccount i).2 := by
  have still : (w.readAccount i).2.gate.Sound := by
    rcases sound with overtaken | tight
    · exact .inl overtaken
    · refine .inr { tight with pending := fun entry mem => ?_ }
      rcases List.mem_cons.mp mem with rfl | mem
      · exact tight.published_le
      · exact tight.pending entry mem
  refine ⟨⟨⟨fun _ => still, id, Nat.le_refl _, Nat.le_refl _⟩,
    fun entry mem _ => List.mem_cons_of_mem _ mem⟩,
    still, List.mem_cons_self, fun none => ?_⟩
  rcases sound with overtaken | tight
  · exact .inl overtaken
  · exact .inr (tight.absent (Option.isNone_iff_eq_none.mpr (Option.map_eq_none_iff.mp none)))

theorem meets_publish (holding : Holding i found version w) :
    Meets i w (w.publish i found version) := by
  refine ⟨⟨fun sound => ?_, id, Nat.le_refl _, Nat.le_refl _⟩, fun entry mem other => ?_⟩
  · rcases sound with overtaken | tight
    · exact .inl overtaken
    have published : w.published ≤ version := tight.pending _ holding.mem
    refine or_iff_not_imp_left.mpr fun inOrder => { tight with
      named := fun set => ?_
      pending := fun entry mem => tight.pending entry (List.mem_filter.mp mem).1
      replaced := ?_ }
    · cases found with
      | some name => rfl
      | none =>
        rcases holding.absent rfl with overtaken | absent
        · exact absurd overtaken inOrder
        · exact absurd (Nat.lt_of_lt_of_le set (Nat.le_trans published absent)) (Nat.lt_irrefl _)
    · change (w.replaced || decide (version < w.published)) = false
      rw [show w.replaced = false from tight.replaced, decide_eq_false (Nat.not_lt.mpr published)]
      rfl
  · exact List.mem_filter.mpr ⟨mem, by simpa using other⟩

theorem Meets.of_gate_right {w' w'' : World} (meets : Meets i w w') (same : w''.gate = w'.gate) :
    Meets i w w'' :=
  ⟨same ▸ meets.toMoves, fun entry mem other => by
    rw [show w''.pending = w'.pending from congrArg Gate.pending same]
    exact meets.others entry mem other⟩

theorem meets_reload (holding : Holding i found version w) :
    Meets i w (w.reload i found version) := by
  unfold World.reload
  by_cases same : found = w.credentialUsername
  · rw [if_pos same]
    refine ⟨⟨fun sound => ?_, id, Nat.le_refl _, Nat.le_refl _⟩, fun entry mem other =>
      List.mem_filter.mpr ⟨mem, by simpa using other⟩⟩
    exact sound.imp id fun tight => { tight with
      pending := fun entry mem => tight.pending entry (List.mem_filter.mp mem).1 }
  · rw [if_neg same]
    exact (meets_publish holding).of_gate_right rfl

theorem fine_acquire : Fine i (acquire i) :=
  fine_block fun w _ outcome mem => by
    by_cases free : w.credentialLock.isNone = true
    · rw [if_pos free] at mem
      cases List.mem_singleton.mp mem
      exact .of_gate rfl
    · rw [if_neg free] at mem
      cases mem

theorem fine_reads {α : Type} {next : Option Account × ℕ → Routine World α}
    (rest : ∀ found w, Holding i (found.1.map (·.username)) found.2 w →
      Routine.Safe (Relies i) (Meets i) (fun _ w => w.gate.Sound) (next found) w) :
    Fine i (atomic (World.readAccount i) >>= next) :=
  fun _ sound => Routine.Safe.atomic sound_kept sound fun _ sound =>
    have reads := meets_readAccount sound
    ⟨reads.1, rest _ _ reads.2⟩

theorem fine_ensureCredentialLoaded : Fine i (ensureCredentialLoaded i) := by
  refine fine_bind (fine_read _) fun loaded => ?_
  cases loaded with
  | true => exact fine_pure ()
  | false =>
    refine fine_bind fine_acquire fun _ => fine_bind (fine_read _) fun loaded => ?_
    cases loaded with
    | true => exact fine_aside gate_release
    | false =>
      refine fine_reads fun found w holding => ?_
      refine Routine.Safe.modify holding_kept holding (fun w holding => meets_publish holding)
        fun w holding => ?_
      exact fine_aside gate_loaded _ ((meets_publish holding).sound holding.sound)

theorem fine_recheckCredential : Fine i (recheckCredential i) := by
  refine fine_bind (fine_read _) fun early => ?_
  cases early with
  | true => exact fine_pure ()
  | false =>
    have due : Fine i (atomic World.due) := fine_atomic fun w _ => .of_gate <| by
      unfold World.due
      split <;> rfl
    refine fine_bind fine_acquire fun _ => fine_bind due fun due => ?_
    cases due with
    | false => exact fine_pure ()
    | true => exact fine_reads fun found w holding =>
        safe_last holding_kept holding (fun _ holding => holding.sound) fun w => meets_reload

theorem meets_record {call : Call} (guards : w.gate.Tight → call.Guards) :
    Meets i w (w.record call) := by
  refine ⟨⟨fun sound => ?_, id, Nat.le_refl _, Nat.le_refl _⟩, fun entry mem _ => mem⟩
  refine sound.imp id fun tight => { tight with calls := fun other mem => ?_ }
  rcases List.mem_cons.mp mem with rfl | mem
  · exact guards tight
  · exact tight.calls other mem

theorem fine_signInRequired : Fine i (signInRequired i) := by
  have records (guarded : World → Bool) (required : World → Bool)
      (right : ∀ w, w.gate.Tight → guarded w = true → required w = true) :
      Fine i (modify fun w => w.record (.signIn (guarded w) (required w))) :=
    fine_modify fun w _ => meets_record fun tight => right w tight
  refine fine_look fun began => ?_
  cases on : began.requireLogin with
  | true =>
    refine fine_bind fine_ensureCredentialLoaded fun _ => fine_bind fine_recheckCredential fun _ =>
      records _ _ fun w tight guarded => ?_
    have standing : w.broken < w.returned := by
      rw [Bool.and_eq_true] at guarded
      exact of_decide_eq_true guarded.2
    rcases tight.returned_le with le | le
    · exact tight.named (Nat.lt_of_lt_of_le standing le)
    · exact absurd (Nat.lt_of_lt_of_le standing le) (Nat.lt_irrefl _)
  | false =>
    refine records _ _ fun w _ guarded => ?_
    rw [World.guarded, on] at guarded
    cases guarded

theorem moves_commitAccount (account : Option Account) :
    Moves w.gate (w.commitAccount account).gate := by
  have broken : w.broken ≤ (w.commitAccount account).broken := by
    cases account with
    | some account => exact Nat.le_refl _
    | none => exact Nat.le_max_left _ _
  refine ⟨fun sound => sound.imp id fun tight => ?_, id, broken, Nat.le_succ _⟩
  refine { tight with
    published_le := Nat.le_succ_of_le tight.published_le
    returned_le := tight.returned_le.imp id fun le => Nat.le_trans le broken
    absent := fun isNone => ?_
    named := fun set => ?_ }
  · have none : account = none := Option.isNone_iff_eq_none.mp isNone
    rw [none]
    exact Nat.le_max_right _ _
  · cases account with
    | some account => exact tight.named set
    | none =>
      have below : w.version + 1 < w.published := Nat.lt_of_le_of_lt (Nat.le_max_right _ _) set
      exact absurd (Nat.le_succ_of_le tight.published_le) (Nat.not_le.mpr below)

theorem meets_commitAccount (account : Option Account) : Meets i w (w.commitAccount account) :=
  ⟨moves_commitAccount account, fun _ mem _ => mem⟩

theorem meets_setPublished {name : String} {committed : List String × ℕ}
    (committed_le : committed.2 ≤ w.version) : Meets i w (w.setPublished name committed) := by
  refine ⟨⟨fun sound => ?_, fun overtaken => ?_, Nat.le_refl _, Nat.le_refl _⟩,
    fun entry mem _ => mem⟩
  · rcases sound with overtaken | tight
    · exact .inl (by
        change (w.overtaken || _) = true
        rw [show w.overtaken = true from overtaken]
        rfl)
    refine or_iff_not_imp_left.mpr fun inOrder => ?_
    have inOrder : ¬(w.overtaken || w.pending.any fun entry => entry.2 < committed.2) = true :=
      inOrder
    simp only [Bool.or_eq_true, List.any_eq_true, decide_eq_true_eq, not_or, not_exists,
      not_and, Nat.not_lt] at inOrder
    refine { tight with
      published_le := Nat.max_le.mpr ⟨tight.published_le, committed_le⟩
      returned_le := ?_
      named := fun _ => rfl
      pending := fun entry mem =>
        Nat.max_le.mpr ⟨tight.pending entry mem, inOrder.2 entry mem⟩ }
    change max w.returned committed.2 ≤ max w.published committed.2 ∨
      max w.returned committed.2 ≤ w.broken
    have returned := tight.returned_le
    change w.returned ≤ w.published ∨ w.returned ≤ w.broken at returned
    omega
  · change (w.overtaken || _) = true
    rw [show w.overtaken = true from overtaken]
    rfl

theorem fine_setCredential (normalise : String → String) (isSpace : Char → Bool)
    (username password : String) :
    Fine i (setCredential normalise isSpace username password) := by
  unfold setCredential
  by_cases valid : validCredential isSpace (normalise username) password = true
  · simp only [valid, if_true]
    intro w sound
    refine Routine.Safe.atomic sound_kept sound fun w sound => ?_
    have commits : Meets i w (w.setAccount (normalise username) password).2 :=
      (meets_commitAccount (some _)).of_gate_right rfl
    refine ⟨commits, ?_⟩
    have kept : Kept (Relies i) fun next : World => next.gate.Sound ∧ w.version + 1 ≤ next.version :=
      fun _ _ holds relies => ⟨relies.sound holds.1, Nat.le_trans holds.2 relies.version⟩
    exact safe_last kept ⟨commits.sound sound, Nat.le_refl _⟩ (fun _ holds => holds.1)
      fun next holds => meets_setPublished holds.2
  · simp only [valid]
    exact fine_pure ()

theorem meets_clearAccount (sound : w.gate.Sound) :
    Meets i w (w.clearAccount i).2 ∧ Holding i none (w.version + 1) (w.clearAccount i).2 := by
  have commits := @moves_commitAccount w none
  have still : (w.clearAccount i).2.gate.Sound := by
    refine (commits.sound sound).imp id fun tight => { tight with pending := fun entry mem => ?_ }
    rcases List.mem_cons.mp mem with rfl | mem
    · exact tight.published_le
    · exact tight.pending entry mem
  exact ⟨⟨⟨fun _ => still, commits.overtaken, commits.broken, commits.version⟩,
    fun _ mem _ => List.mem_cons_of_mem _ mem⟩, still, List.mem_cons_self,
    fun _ => .inr (Nat.le_max_right _ _)⟩

theorem meets_clearPublished {tokens : List String} (holding : Holding i none version w) :
    Meets i w (w.clearPublished i (tokens, version)) := by
  have publishes := meets_publish holding
  refine ⟨⟨fun sound => ?_, id, Nat.le_refl _, Nat.le_refl _⟩, publishes.others⟩
  refine or_iff_not_imp_left.mpr fun inOrder => ?_
  rcases publishes.sound sound with overtaken | tight
  · exact absurd overtaken inOrder
  refine { tight with returned_le := ?_ }
  have absent : version ≤ w.broken := (holding.absent rfl).resolve_left inOrder
  have returned : w.returned ≤ w.published ∨ w.returned ≤ w.broken := tight.returned_le
  change max w.returned version ≤ w.published ∨ max w.returned version ≤ w.broken
  omega

theorem fine_clearCredential : Fine i (clearCredential i) := by
  intro w sound
  refine Routine.Safe.atomic sound_kept sound fun w sound => ?_
  obtain ⟨clears, holding⟩ := @meets_clearAccount i w sound
  refine ⟨clears, Routine.Safe.modify holding_kept holding (fun _ holding => meets_clearPublished holding)
    fun w holding => ?_⟩
  have switches : Fine i (modify fun w => { w with requireLogin := false }) :=
    fine_aside fun _ => rfl
  exact switches _ ((meets_clearPublished holding).sound holding.sound)

end Account

section Requests

variable {i : ℕ} {w : World}

theorem fine_revokeSessions (keep : AuthSession → Bool) : Fine i (revokeSessions keep) :=
  fine_bind (fine_atomic fun _ _ => .of_gate rfl) fun _ => fine_aside fun _ => rfl

theorem fine_record (call : Call) (guards : call.Guards) : Fine i (modify fun w => w.record call) :=
  fine_modify fun _ _ => meets_record fun _ => guards

theorem gate_ask (token username : String) : (w.ask token username).2.gate = w.gate := by
  unfold World.ask
  split <;> rfl

theorem gate_askMissing (token username : String) :
    (w.askMissing token username).2.gate = w.gate := by
  unfold World.askMissing
  split
  · exact gate_ask token username
  · split
    · rfl
    · exact gate_ask token username

theorem gate_lookUp (token : String) : (w.lookUp token).2.gate = w.gate := by
  unfold World.lookUp
  split
  · rfl
  · split
    · exact gate_askMissing _ _
    · split
      · exact gate_askMissing _ _
      · split
        · rfl
        · split
          · rfl
          · exact gate_askMissing _ _

theorem fine_awaitFuture (future : ℕ) (revoked : Bool) : Fine i (awaitFuture future revoked) := by
  refine fine_block fun w _ outcome mem => ?_
  cases isThere : w.futures[future]? with
  | none =>
    rw [isThere] at mem
    cases mem
  | some lookup =>
    simp only [isThere] at mem
    cases isDone : lookup.outcome with
    | pending =>
      rw [isDone] at mem
      cases mem
    | result principal =>
      simp only [isDone, List.mem_singleton] at mem
      subst mem
      exact meets_record fun _ => trivial
    | cancelled =>
      simp only [isDone, List.mem_singleton] at mem
      subst mem
      exact .of_gate rfl

theorem meets_finish {token : String} {future : ℕ} {revoked : Bool} {principal : Option Principal} :
    Meets i w (w.finish token future revoked principal) := by
  unfold World.finish
  dsimp only
  split
  · exact (@meets_record i w (.session revoked principal) fun _ => trivial).of_gate_right rfl
  · exact .of_gate rfl

theorem fine_loadSession (token username : String) (future wall now : ℕ) :
    Fine i (loadSession i token username future wall now) := by
  refine fine_bind (fine_atomic fun w _ => .of_gate ?_) fun row => ?_
  · unfold World.readSession
    split <;> rfl
  · cases row with
    | none => exact fine_bind (fine_aside fun _ => rfl) fun _ => fine_pure _
    | some row =>
      refine fine_bind (fine_atomic fun w _ => .of_gate ?_) fun touch => ?_
      · dsimp only
        split <;> rfl
      · cases touch with
        | true => exact fine_bind (fine_aside fun _ => rfl) fun _ => fine_pure _
        | false => exact fine_pure _

theorem fine_resolveSession (token : String) : Fine i (resolveSession i token) := by
  refine fine_bind (fine_read _) fun revoked => ?_
  by_cases empty : token = ""
  · simp only [empty, if_true]
    exact fine_record _ trivial
  · simp only [empty, if_false]
    refine fine_bind fine_ensureCredentialLoaded fun _ =>
      fine_bind (fine_atomic fun w _ => .of_gate (gate_lookUp token)) fun plan => ?_
    cases plan with
    | answer principal => exact fine_record _ trivial
    | join future => exact fine_awaitFuture future revoked
    | load future username wall now =>
      refine fine_bind (fine_loadSession _ _ _ _ _) fun principal => fine_modify fun w _ => ?_
      exact meets_finish

theorem gate_lookUpRejected (header : String) : (w.lookUpRejected header).2.gate = w.gate := by
  unfold World.lookUpRejected
  split
  · split <;> rfl
  · rfl

theorem gate_lookUpAccount (header : String) : (w.lookUpAccount header).2.gate = w.gate := by
  unfold World.lookUpAccount World.lookUpBasic
  split
  · rfl
  · split
    · split
      · rfl
      · exact gate_lookUpRejected header
    · exact gate_lookUpRejected header

theorem fine_verifyCredential (headers : Headers) (username password : String) :
    Fine i (verifyCredential headers i username password) := by
  refine fine_bind (fine_atomic fun _ _ => .of_gate rfl) fun found => ?_
  obtain ⟨found, version⟩ := found
  cases found with
  | none => exact fine_pure _
  | some account =>
    refine fine_bind (fine_aside fun _ => rfl) fun _ => ?_
    by_cases accepts : account.accepts headers username password = true
    · simp only [accepts, if_true]
      by_cases rehash : account.needsRehash = true
      · simp only [rehash, if_true]
        refine fine_bind (fine_aside fun _ => rfl) fun _ => fine_bind (fine_modify fun w _ => ?_)
          fun _ => fine_pure _
        refine .of_gate ?_
        simp only [World.gate, Option.isNone_map]
        rfl
      · simp only [rehash]
        exact fine_pure _
    · simp only [accepts]
      exact fine_pure _

theorem fine_resolveBasic (headers : Headers) (header : String) :
    Fine i (resolveBasic headers i header) := by
  refine fine_bind (fine_read _) fun floor => ?_
  have answer (principal : Option Principal) :
      Fine i (modify fun w => w.record (.basic header floor principal)) := fine_record _ trivial
  by_cases isBasic : headers.isBasic header = true
  · simp only [isBasic, Bool.not_true, Bool.false_eq_true, if_false]
    refine fine_bind fine_ensureCredentialLoaded fun _ => fine_bind (fine_read _) fun now =>
      fine_bind (fine_atomic fun w _ => .of_gate (gate_lookUpAccount header)) fun cached => ?_
    cases cached with
    | some principal => exact answer principal
    | none =>
      cases headers.decode header with
      | none => exact answer none
      | some carried =>
        refine fine_bind (fine_block fun w _ outcome mem => ?_) fun lets => ?_
        · simp only [List.mem_cons, List.not_mem_nil, or_false] at mem
          rcases mem with rfl | rfl <;> exact .of_gate rfl
        · cases lets with
          | true =>
            refine fine_bind (fine_verifyCredential _ _ _) fun verified =>
              fine_modify fun w _ => ?_
            split
            · exact (@meets_record i w (.basic header floor _) fun _ => trivial).of_gate_right rfl
            · exact (@meets_record i w (.basic header floor _) fun _ => trivial).of_gate_right rfl
          | false => exact answer none
  · simp only [isBasic]
    exact answer none

end Requests

section Runs

variable {headers : Headers} {isSpace : Char → Bool} {w : World}

structure World.Initial (w : World) : Prop where
  history : w.history = [w.account]
  broken : w.broken = if w.account.isNone then 1 else 0
  fresh : w.published = 0 ∧ w.returned = 0 ∧ w.pending = [] ∧ w.overtaken = false ∧
    w.replaced = false ∧ w.calls = []
  unasked : w.sessionCache = [] ∧ w.sessionMissing = [] ∧ w.inflight = [] ∧ w.futures = [] ∧
    w.basicCache = [] ∧ w.basicRejected = []
  unrevoked : w.revoked = [] ∧ w.storing = [] ∧ w.verifying = [] ∧ w.straddled = false
  issued : ∀ row ∈ w.sessions, row.token ∈ w.issued
  distinct : (w.sessions.map (·.token)).Nodup

theorem tight_initial (initial : w.Initial) : w.gate.Tight := by
  obtain ⟨published, returned, pending, _, replaced, calls⟩ := initial.fresh
  refine ⟨?_, .inl ?_, fun isAbsent => ?_, fun set => ?_, fun entry mem => ?_, replaced,
    fun call mem => ?_⟩
  · change w.published ≤ _
    rw [published]
    exact Nat.zero_le _
  · change w.returned ≤ w.published
    rw [returned]
    exact Nat.zero_le _
  · change w.history.length ≤ w.broken
    have isAbsent : w.account.isNone = true := isAbsent
    rw [initial.history, initial.broken, if_pos isAbsent]
    exact Nat.le_refl 1
  · change w.broken < w.published at set
    rw [published] at set
    exact absurd set (Nat.not_lt_zero _)
  · change entry ∈ w.pending at mem
    rw [pending] at mem
    cases mem
  · change call ∈ w.calls at mem
    rw [calls] at mem
    cases mem

theorem fine_calls {i : ℕ} {program : Routine World Unit} (isCall : Calls headers isSpace i program) :
    Fine i program := by
  cases isCall with
  | signInRequired => exact fine_signInRequired
  | ensureCredentialLoaded => exact fine_ensureCredentialLoaded
  | recheckCredential => exact fine_recheckCredential
  | setCredential username password => exact fine_setCredential _ _ _ _
  | clearCredential => exact fine_clearCredential
  | resolveSession token => exact fine_resolveSession token
  | resolveBasic header => exact fine_resolveBasic headers header
  | revokeSession token =>
    unfold revokeSession
    split
    · exact fine_pure ()
    · exact fine_revokeSessions _
  | revokeSessionId sessionId => exact fine_revokeSessions _
  | revokeAllSessions keep => exact fine_revokeSessions _

theorem moves_surroundings {w w' : World} (step : Surroundings w w') :
    Moves w.gate w'.gate ∧ w'.pending = w.pending := by
  cases step with
  | passes now wall _ _ => exact ⟨.refl _, rfl⟩
  | issues row _ => exact ⟨.refl _, rfl⟩
  | expires => exact ⟨.refl _, rfl⟩
  | switches requireLogin => exact ⟨.refl _, rfl⟩
  | recovers => exact ⟨moves_commitAccount none, rfl⟩

theorem gate_compatible :
    Tasks.Compatible Surroundings (Calls headers isSpace) Relies Meets (fun w => w.gate.Sound)
      fun _ w => w.gate.Sound where
  safe := fun _ _ isCall w sound _ => fine_calls isCall w sound
  kept := fun _ _ _ sound meets => meets.sound sound
  others := fun _ _ _ _ apart _ meets => ⟨meets.toMoves, fun entry mem own =>
    meets.others entry mem fun same => apart (same.symm.trans own)⟩
  env_kept := fun _ _ sound step => (moves_surroundings step).1.sound sound
  env_rely := fun _ _ _ _ step => ⟨(moves_surroundings step).1, fun entry mem _ => by
    rw [(moves_surroundings step).2]
    exact mem⟩

/-- While no name is published over an answer that is still on its way: whoever asks after an
account was set, and before it is cleared, has to sign in; and no answer of the database replaces
that of a later commit. -/
theorem gate_closed (initial : w.Initial) {tasks : Tasks World}
    (steps : Relation.ReflTransGen (Service headers isSpace) (.idle w) tasks)
    (inOrder : tasks.state.overtaken = false) :
    (∀ guarded required, .signIn guarded required ∈ tasks.state.calls → guarded = true →
      required = true) ∧ tasks.state.replaced = false := by
  have sound : w.gate.Sound := .inr (tight_initial initial)
  have running := Tasks.running_steps gate_compatible
    (Tasks.running_idle sound (fun _ => sound) fun _ => sound_kept) steps
  rcases running.1 with overtaken | tight
  · exact absurd (inOrder.symm.trans overtaken) Bool.false_ne_true
  · exact ⟨fun guarded required mem => tight.calls _ mem, tight.replaced⟩

def noHeaders : Headers := ⟨fun _ => false, fun _ => none, id⟩

def unset : World := { account := none, history := [none], broken := 1 }

theorem unset_initial : unset.Initial where
  history := rfl
  broken := rfl
  fresh := ⟨rfl, rfl, rfl, rfl, rfl, rfl⟩
  unasked := ⟨rfl, rfl, rfl, rfl, rfl, rfl⟩
  unrevoked := ⟨rfl, rfl, rfl, rfl⟩
  issued := fun _ mem => by cases mem
  distinct := List.nodup_nil

def setAndAsk : Tasks World :=
  let set := ((Tasks.idle unset).begin 0
    (setCredential id (· = ' ') "owner" "correct horse")).turns [0, 0]
  (set.begin 1 (signInRequired 1)).turns [1, 1, 1, 1]

theorem steps_setAndAsk :
    Relation.ReflTransGen (Service noHeaders (· = ' ')) (.idle unset) setAndAsk :=
  (Tasks.steps_begin _ 0 rfl (.setCredential "owner" "correct horse")).trans
    ((Tasks.steps_turns _ [0, 0]).trans
      ((Tasks.steps_begin _ 1 rfl .signInRequired).trans (Tasks.steps_turns _ [1, 1, 1, 1])))

theorem gate_closed_set :
    setAndAsk.state.calls = [.signIn true true] ∧ setAndAsk.state.replaced = false := by
  have kept := gate_closed unset_initial steps_setAndAsk (by decide +kernel)
  exact ⟨by decide +kernel, kept.2⟩

def reloadOverSet : Tasks World :=
  let reads := ((Tasks.idle { unset with now := 100 }).begin 1 (recheckCredential 1)).turns
    [1, 1, 1, 1]
  let set := (reads.begin 0 (setCredential id (· = ' ') "owner" "correct horse")).turns [0, 0, 1]
  (set.begin 2 (signInRequired 2)).turns [2, 2, 2, 2]

theorem gate_open_reloaded :
    Relation.ReflTransGen (Service noHeaders (· = ' ')) (.idle { unset with now := 100 })
        reloadOverSet ∧
      reloadOverSet.state.calls = [.signIn true false] ∧ reloadOverSet.state.replaced = true := by
  refine ⟨?_, by decide +kernel, by decide +kernel⟩
  exact (Tasks.steps_begin _ 1 rfl .recheckCredential).trans
    ((Tasks.steps_turns _ [1, 1, 1, 1]).trans
      ((Tasks.steps_begin _ 0 rfl (.setCredential "owner" "correct horse")).trans
        ((Tasks.steps_turns _ [0, 0, 1]).trans
          ((Tasks.steps_begin _ 2 rfl .signInRequired).trans
            (Tasks.steps_turns _ [2, 2, 2, 2])))))

end Runs

end DashcamStats.Auth
