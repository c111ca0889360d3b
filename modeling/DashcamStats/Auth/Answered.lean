import DashcamStats.Auth.Flight

namespace DashcamStats.Auth.Flight

-- A lookup that a call may wait on: never cancelled, and with the answer of its own moment.
structure Shared (w : World) (started future : ℕ) (lookup : Lookup) : Prop where
  here : w.futures[future]? = some lookup
  alive : lookup.outcome ≠ .cancelled
  moment : w.warrant lookup.wall = w.warrant started
  result : ∀ principal, lookup.outcome = .result principal → principal = w.warrant lookup.wall

def Found (w : World) (wall : ℕ) : Stage → Prop
  | .reading => True
  | .missed => w.warrant wall = none
  | .found | .stored => w.warrant wall = w.row.map fun row => ⟨w.username, row.id⟩

structure Leads (w : World) (started future wall : ℕ) (stage : Stage) : Prop where
  registered : w.inflight = some future
  pending : w.futures[future]? = some ⟨wall, .pending⟩
  began : started = wall
  found : Found w wall stage

def Sound (w : World) (call : Call) : Prop :=
  call.started ≤ w.wall ∧ Served w call ∧
    match call.phase with
    | .waiting future => ∃ lookup, Shared w call.started future lookup
    | .loading future wall _ stage => Leads w call.started future wall stage
    | _ => True

def Loading (call : Call) : Prop :=
  ∃ future wall now stage, call.phase = .loading future wall now stage

structure Inv (w : World) : Prop where
  flying : ∀ future, w.inflight = some future → ∃ wall, w.futures[future]? = some ⟨wall, .pending⟩
  sound : ∀ call ∈ w.calls, Sound w call
  one : ∀ (i j : ℕ) (call other : Call), w.calls[i]? = some call → w.calls[j]? = some other →
    Loading call → Loading other → i = j
  cached : ∀ cached, w.sessionCache = some cached →
    ∃ row, w.row = some row ∧ cached.expiresAt = row.expiresAt ∧ cached.sessionId = row.id
  missing : ∀ entry, w.sessionMissing = some entry → w.warrant w.wall = none

variable {w v : World} {call old other : Call} {index future wall now : ℕ} {stage : Stage}

theorem warrant_later {earlier later : ℕ} (before : earlier ≤ later)
    (refused : w.warrant earlier = none) : w.warrant later = none := by
  unfold World.warrant at refused ⊢
  cases row : w.row with
  | none => rfl
  | some found =>
    rw [row] at refused
    dsimp only at refused ⊢
    split at refused
    · rw [if_pos (by omega)]
    · cases refused

theorem warrant_some {moment : ℕ} {principal : Principal}
    (found : w.warrant moment = some principal) :
    w.warrant moment = w.row.map fun row => ⟨w.username, row.id⟩ := by
  unfold World.warrant at found ⊢
  cases row : w.row with
  | none => rfl
  | some found' =>
    rw [row] at found
    dsimp only at found ⊢
    split at found
    · cases found
    · rename_i live
      simp [live]

-- The parts of the world that a call's soundness is about.
structure Same (w v : World) : Prop where
  username : v.username = w.username
  row : v.row = w.row
  wall : w.wall ≤ v.wall

theorem Same.warrant (same : Same w v) (moment : ℕ) : v.warrant moment = w.warrant moment := by
  simp [World.warrant, same.username, same.row]

theorem Same.served (same : Same w v) (served : Served w call) : Served v call := by
  intro steady success
  have promise := served steady success
  cases phase : call.phase with
  | returned principal ended =>
    simp only [phase] at promise ⊢
    obtain ⟨moment, after, before, warranted⟩ := promise
    exact ⟨moment, after, before, by rw [same.warrant]; exact warranted⟩
  | raised exc => simp only [phase] at promise
  | waiting future => trivial
  | loading future wall now stage => trivial

theorem Same.found (same : Same w v) (found : Found w wall stage) : Found v wall stage := by
  cases stage with
  | reading => trivial
  | missed => exact (same.warrant wall).trans found
  | found | stored =>
    simp only [Found] at found ⊢
    rw [same.warrant, found, same.row, same.username]

theorem Same.shared {started : ℕ} {lookup : Lookup} (same : Same w v)
    (kept : v.futures[future]? = some lookup) (shared : Shared w started future lookup) :
    Shared v started future lookup where
  here := kept
  alive := shared.alive
  moment := by rw [same.warrant, same.warrant, shared.moment]
  result := by
    intro principal answered
    rw [same.warrant]
    exact shared.result principal answered

theorem Same.sound (same : Same w v) (sound : Sound w call)
    (waits : ∀ future lookup, call.phase = .waiting future →
      Shared w call.started future lookup → ∃ lookup, Shared v call.started future lookup)
    (leads : ∀ future wall now stage, call.phase = .loading future wall now stage →
      Leads w call.started future wall stage → Leads v call.started future wall stage) :
    Sound v call := by
  obtain ⟨past, served, phased⟩ := sound
  refine ⟨le_trans past same.wall, same.served served, ?_⟩
  cases phase : call.phase with
  | waiting future =>
    simp only [phase] at phased ⊢
    obtain ⟨lookup, shared⟩ := phased
    exact waits future lookup phase shared
  | loading future wall now stage =>
    simp only [phase] at phased ⊢
    exact leads future wall now stage phase phased
  | returned principal ended => trivial
  | raised exc => trivial

theorem Same.sound_still (same : Same w v) (futures : v.futures = w.futures)
    (inflight : v.inflight = w.inflight) (sound : Sound w call) : Sound v call := by
  apply same.sound sound
  · intro future lookup _ shared
    refine ⟨lookup, same.shared ?_ shared⟩
    rw [futures]
    exact shared.here
  · intro future wall now stage _ leads
    refine ⟨by rw [inflight]; exact leads.registered, by rw [futures]; exact leads.pending,
      leads.began, same.found leads.found⟩

theorem Inv.leads (inv : Inv w) (at_ : w.calls[index]? = some call)
    (phase : call.phase = .loading future wall now stage) :
    Leads w call.started future wall stage := by
  have sound := (inv.sound call (List.mem_of_getElem? at_)).2.2
  simpa only [phase] using sound

theorem Inv.other_not_loading (inv : Inv w) (at_ : w.calls[index]? = some call)
    (loading : Loading call) {i : ℕ} (there : w.calls[i]? = some other) (different : i ≠ index) :
    ¬ Loading other := by
  intro also
  exact different (inv.one i index other call there at_ also loading)

theorem set_cases {calls : List Call} {i : ℕ} (found : (calls.set index call)[i]? = some other) :
    i = index ∧ other = call ∨ i ≠ index ∧ calls[i]? = some other := by
  by_cases same : i = index
  · subst same
    by_cases small : i < calls.length
    · rw [List.getElem?_set_self small] at found
      exact .inl ⟨rfl, (Option.some.inj found).symm⟩
    · rw [List.getElem?_eq_none (by simpa using small)] at found
      cases found
  · rw [List.getElem?_set_ne (Ne.symm same)] at found
    exact .inr ⟨same, found⟩

theorem Inv.set (inv : Inv w) (at_ : w.calls[index]? = some old)
    (calls : v.calls = w.calls.set index call)
    (flying : ∀ future, v.inflight = some future →
      ∃ wall, v.futures[future]? = some ⟨wall, .pending⟩)
    (changed : Sound v call) (loads : Loading call → Loading old)
    (others : ∀ i other, w.calls[i]? = some other → i ≠ index → Sound v other)
    (cached : ∀ cached, v.sessionCache = some cached →
      ∃ row, v.row = some row ∧ cached.expiresAt = row.expiresAt ∧ cached.sessionId = row.id)
    (missing : ∀ entry, v.sessionMissing = some entry → v.warrant v.wall = none) : Inv v := by
  refine ⟨flying, ?_, ?_, cached, missing⟩
  · intro other member
    rw [calls] at member
    obtain ⟨i, found⟩ := List.mem_iff_getElem?.mp member
    cases set_cases found with
    | inl here => rwa [here.2]
    | inr there => exact others i other there.2 there.1
  · intro i j first second foundi foundj loadi loadj
    rw [calls] at foundi foundj
    rcases set_cases foundi with ⟨hi, rfl⟩ | ⟨hi, before⟩ <;>
      rcases set_cases foundj with ⟨hj, rfl⟩ | ⟨hj, before'⟩
    · rw [hi, hj]
    · rw [hi]
      exact inv.one index j old second at_ before' (loads loadi) loadj
    · rw [hj]
      exact inv.one i index first old before at_ loadi (loads loadj)
    · exact inv.one i j first second before before' loadi loadj

theorem Inv.append (inv : Inv w) (calls : v.calls = w.calls ++ [call])
    (flying : ∀ future, v.inflight = some future →
      ∃ wall, v.futures[future]? = some ⟨wall, .pending⟩)
    (added : Sound v call) (others : ∀ other ∈ w.calls, Sound v other)
    (alone : Loading call → ∀ other ∈ w.calls, ¬ Loading other)
    (cached : ∀ cached, v.sessionCache = some cached →
      ∃ row, v.row = some row ∧ cached.expiresAt = row.expiresAt ∧ cached.sessionId = row.id)
    (missing : ∀ entry, v.sessionMissing = some entry → v.warrant v.wall = none) : Inv v := by
  refine ⟨flying, ?_, ?_, cached, missing⟩
  · intro other member
    rw [calls] at member
    cases List.mem_append.mp member with
    | inl before => exact others other before
    | inr last => rwa [List.mem_singleton.mp last]
  · intro i j first second foundi foundj loadi loadj
    have place : ∀ (k : ℕ) (c : Call), v.calls[k]? = some c →
        w.calls[k]? = some c ∨ k = w.calls.length ∧ c = call := by
      intro k c found
      rw [calls] at found
      by_cases small : k < w.calls.length
      · rw [List.getElem?_append_left small] at found
        exact .inl found
      · rw [List.getElem?_append_right (by omega)] at found
        have single := List.mem_singleton.mp (List.mem_of_getElem? found)
        have bound := (List.getElem?_eq_some_iff.mp found).1
        simp only [List.length_singleton] at bound
        exact .inr ⟨by omega, single⟩
    rcases place i first foundi with before | ⟨hi, rfl⟩ <;>
      rcases place j second foundj with before' | ⟨hj, rfl⟩
    · exact inv.one i j first second before before' loadi loadj
    · exact absurd loadi (alone loadj first (List.mem_of_getElem? before))
    · exact absurd loadj (alone loadi second (List.mem_of_getElem? before'))
    · rw [hi, hj]

section Plan

theorem plan_answer {principal : Option Principal} (inv : Inv w)
    (planned : w.plan = .answer principal) : principal = w.warrant w.wall := by
  unfold World.plan at planned
  cases answer : w.cacheAnswer with
  | some answered =>
    rw [answer] at planned
    obtain rfl : answered = principal := by simpa using planned
    unfold World.cacheAnswer at answer
    cases here : w.sessionCache with
    | none => simp [here] at answer
    | some cached =>
      obtain ⟨row, stored, expires, id⟩ := inv.cached cached here
      rw [here] at answer
      dsimp only at answer
      unfold World.warrant
      rw [stored]
      dsimp only
      split at answer
      · cases answer
      split at answer
      · rename_i expired
        rw [if_pos (by omega)]
        simpa using answer.symm
      · rename_i live
        rw [if_neg (by omega)]
        split at answer
        · rw [← id]
          simpa using answer.symm
        · cases answer
  | none =>
    rw [answer] at planned
    dsimp only at planned
    split at planned
    · rename_i fresh
      obtain rfl : none = principal := by simpa using planned
      unfold World.missingFresh at fresh
      cases here : w.sessionMissing with
      | none => simp [here] at fresh
      | some entry => exact (inv.missing entry here).symm
    · split at planned <;> cases planned

theorem plan_join (planned : w.plan = .join future) : w.inflight = some future := by
  unfold World.plan at planned
  split at planned
  · cases planned
  split at planned
  · cases planned
  split at planned
  · rename_i other flying
    rw [flying]
    simpa using planned
  · cases planned

theorem plan_load (planned : w.plan = .load) : w.inflight = none := by
  unfold World.plan at planned
  split at planned
  · cases planned
  split at planned
  · cases planned
  split at planned
  · cases planned
  · assumption

theorem cacheKept_of_some {cached : CachedSession} (kept : w.cacheKept = some cached) :
    w.sessionCache = some cached := by
  unfold World.cacheKept at kept
  exact (Option.filter_eq_some_iff.mp kept).1

theorem not_loading_of_idle (inv : Inv w) (idle : w.inflight = none) :
    ∀ call ∈ w.calls, ¬ Loading call := by
  rintro call member ⟨future, wall, now, stage, phase⟩
  obtain ⟨index, at_⟩ := List.mem_iff_getElem?.mp member
  have registered := (inv.leads at_ phase).registered
  rw [idle] at registered
  cases registered

theorem Inv.begins (inv : Inv w) (allowed : Allowed w .begins) : Inv w.begin_ := by
  have cached : ∀ cached, w.cacheKept = some cached →
      ∃ row, w.row = some row ∧ cached.expiresAt = row.expiresAt ∧ cached.sessionId = row.id :=
    fun cached kept => inv.cached cached (cacheKept_of_some kept)
  unfold World.begin_
  cases planned : w.plan with
  | answer principal =>
    have right : principal = w.warrant w.wall := plan_answer inv planned
    have same : Same w { w with
        sessionCache := w.cacheKept
        calls := w.calls ++ [⟨w.wall, .returned principal w.wall, false, false⟩] } :=
      ⟨rfl, rfl, le_refl _⟩
    refine inv.append rfl inv.flying ⟨le_refl _, ?_, trivial⟩
      (fun other member => same.sound_still rfl rfl (inv.sound other member)) ?_ cached inv.missing
    · intro _ _
      exact ⟨w.wall, le_refl _, le_refl _, right⟩
    · rintro ⟨_, _, _, _, phase⟩
      cases phase
  | join future =>
    have same : Same w { w with
        sessionCache := w.cacheKept
        sessionMissing := none
        calls := w.calls ++ [⟨w.wall, .waiting future, false, false⟩] } :=
      ⟨rfl, rfl, le_refl _⟩
    obtain ⟨wall, pending⟩ := inv.flying future (plan_join planned)
    refine inv.append rfl inv.flying ⟨le_refl _, fun _ _ => trivial, ⟨wall, .pending⟩, ?_⟩
      (fun other member => same.sound_still rfl rfl (inv.sound other member)) ?_ cached (by simp)
    · refine ⟨pending, by simp, ?_, by simp⟩
      rw [same.warrant, same.warrant]
      simp only [Allowed, World.joinsInTime, planned] at allowed
      exact allowed ⟨wall, .pending⟩ pending
    · rintro ⟨_, _, _, _, phase⟩
      cases phase
  | load =>
    have idle := plan_load planned
    have quiet := not_loading_of_idle inv idle
    have same : Same w { w with
        sessionCache := w.cacheKept
        sessionMissing := none
        inflight := some w.futures.length
        futures := w.futures ++ [⟨w.wall, .pending⟩]
        calls := w.calls ++
          [⟨w.wall, .loading w.futures.length w.wall w.now .reading, false, false⟩] } :=
      ⟨rfl, rfl, le_refl _⟩
    refine inv.append rfl ?_ ⟨le_refl _, fun _ _ => trivial, ?_⟩ ?_ (fun _ => quiet) cached
      (by simp)
    · intro future flies
      obtain rfl : w.futures.length = future := by simpa using flies
      exact ⟨w.wall, by simp⟩
    · exact ⟨rfl, by simp, rfl, trivial⟩
    · intro other member
      apply same.sound (inv.sound other member)
      · intro future lookup _ shared
        refine ⟨lookup, same.shared ?_ shared⟩
        have small := (List.getElem?_eq_some_iff.mp shared.here).1
        rw [List.getElem?_append_left small]
        exact shared.here
      · intro future wall now stage phase _
        exact absurd ⟨future, wall, now, stage, phase⟩ (quiet other member)

end Plan

section Lookup

variable {outcome : Outcome} {principal : Option Principal}

theorem settle_ne {other : ℕ} (different : other ≠ future) :
    (w.settle future outcome).futures[other]? = w.futures[other]? :=
  List.getElem?_modify_ne _ _ (Ne.symm different)

theorem settle_self {lookup : Lookup} (here : w.futures[future]? = some lookup) :
    (w.settle future outcome).futures[future]? =
      some (if lookup.outcome = .pending then { lookup with outcome := outcome } else lookup) := by
  simp [World.settle, here]

theorem Shared.settled {started other : ℕ} {lookup : Lookup}
    (shared : Shared w started other lookup) (pending : w.futures[future]? = some ⟨wall, .pending⟩)
    (alive : outcome ≠ .cancelled)
    (right : ∀ principal, outcome = .result principal → principal = w.warrant wall)
    (same : Same w v) (futures : v.futures = (w.settle future outcome).futures) :
    ∃ lookup, Shared v started other lookup := by
  by_cases here : other = future
  · subst here
    have moment := shared.moment
    obtain rfl : lookup = ⟨wall, .pending⟩ := by
      have := shared.here
      rw [pending] at this
      exact (Option.some.inj this).symm
    refine ⟨⟨wall, outcome⟩, ?_, alive, ?_, ?_⟩
    · rw [futures, settle_self pending]
      simp
    · rw [same.warrant, same.warrant]
      exact moment
    · intro principal answered
      rw [same.warrant]
      exact right principal answered
  · refine ⟨lookup, same.shared ?_ shared⟩
    rw [futures, settle_ne here]
    exact shared.here

theorem Inv.lands (inv : Inv w) (at_ : w.calls[index]? = some old)
    (phase : old.phase = .loading future wall now stage) (same : Same w v)
    (calls : v.calls = w.calls.set index call) (idle : v.inflight = none)
    (futures : v.futures = (w.settle future outcome).futures)
    (changed : Sound v call) (ended : ¬ Loading call)
    (served : (outcome ≠ .cancelled ∧ ∀ principal, outcome = .result principal →
      principal = w.warrant wall) ∨ ∀ other ∈ w.calls, ¬ other.waitsOn future)
    (cache : v.sessionCache = w.sessionCache) (missing : v.sessionMissing = w.sessionMissing) :
    Inv v := by
  have leads := inv.leads at_ phase
  have loading : Loading old := ⟨future, wall, now, stage, phase⟩
  refine inv.set at_ calls ?_ changed (fun loads => absurd loads ended) ?_ ?_ ?_
  · intro other flies
    rw [idle] at flies
    cases flies
  · intro i other there different
    have member := List.mem_of_getElem? there
    apply same.sound (inv.sound other member)
    · intro waited lookup waits shared
      cases served with
      | inl right => exact shared.settled leads.pending right.1 right.2 same futures
      | inr nobody =>
        refine ⟨lookup, same.shared ?_ shared⟩
        rw [futures, settle_ne]
        · exact shared.here
        · rintro rfl
          exact nobody other member waits
    · intro f wl n st loads _
      exact absurd ⟨f, wl, n, st, loads⟩
        (inv.other_not_loading at_ loading there different)
  · intro cached kept
    rw [cache] at kept
    rw [same.row]
    exact inv.cached cached kept
  · intro entry kept
    rw [missing] at kept
    rw [same.warrant]
    exact warrant_later same.wall (inv.missing entry kept)

theorem Inv.finishes (inv : Inv w) (at_ : w.calls[index]? = some call)
    (phase : call.phase = .loading future wall now stage) (right : principal = w.warrant wall) :
    Inv (w.finish index call future principal) := by
  have leads := inv.leads at_ phase
  have sound := inv.sound call (List.mem_of_getElem? at_)
  have pending : w.outcome future = some .pending := by
    simp [World.outcome, leads.pending]
  unfold World.finish
  rw [if_pos pending]
  refine inv.lands at_ phase ⟨rfl, rfl, le_refl _⟩ rfl rfl rfl ⟨sound.1, ?_, trivial⟩ ?_
    (.inl ⟨by simp, ?_⟩) rfl rfl
  · intro _ _
    exact ⟨wall, le_of_eq leads.began, by rw [← leads.began]; exact sound.1, right⟩
  · rintro ⟨_, _, _, _, loads⟩
    cases loads
  · intro other answered
    rw [← Outcome.result.inj answered]
    exact right

theorem Inv.fails (inv : Inv w) (at_ : w.calls[index]? = some call)
    (phase : call.phase = .loading future wall now stage) : Inv (w.fail index call future) := by
  have leads := inv.leads at_ phase
  have sound := inv.sound call (List.mem_of_getElem? at_)
  have pending : w.outcome future = some .pending := by
    simp [World.outcome, leads.pending]
  unfold World.fail
  rw [if_pos pending]
  refine inv.lands at_ phase ⟨rfl, rfl, le_refl _⟩ rfl rfl rfl ⟨sound.1, ?_, trivial⟩ ?_
    (.inl ⟨by simp, by simp⟩) rfl rfl
  · intro _ failed
    cases failed
  · rintro ⟨_, _, _, _, loads⟩
    cases loads

theorem Inv.cancels_leader (inv : Inv w) (at_ : w.calls[index]? = some call)
    (phase : call.phase = .loading future wall now stage)
    (nobody : ∀ other ∈ w.calls, ¬ other.waitsOn future) :
    Inv ((w.settle future .cancelled).pop.setCall index
      { call with phase := .raised .cancelledError, cancelled := true }) := by
  have sound := inv.sound call (List.mem_of_getElem? at_)
  refine inv.lands at_ phase ⟨rfl, rfl, le_refl _⟩ rfl rfl rfl ⟨sound.1, ?_, trivial⟩ ?_
    (.inr nobody) rfl rfl
  · intro steady
    cases steady
  · rintro ⟨_, _, _, _, loads⟩
    cases loads

theorem Inv.moves (inv : Inv w) (at_ : w.calls[index]? = some old) (same : Same w v)
    (calls : v.calls = w.calls.set index call) (inflight : v.inflight = w.inflight)
    (futures : v.futures = w.futures) (changed : Sound v call) (loads : Loading call → Loading old)
    (cached : ∀ cached, v.sessionCache = some cached →
      ∃ row, v.row = some row ∧ cached.expiresAt = row.expiresAt ∧ cached.sessionId = row.id)
    (missing : ∀ entry, v.sessionMissing = some entry → v.warrant v.wall = none) : Inv v := by
  refine inv.set at_ calls ?_ changed loads ?_ cached missing
  · rw [inflight, futures]
    exact inv.flying
  · intro i other there _
    exact same.sound_still futures inflight (inv.sound other (List.mem_of_getElem? there))

theorem Inv.reads (inv : Inv w) (at_ : w.calls[index]? = some call)
    (phase : call.phase = .loading future wall now .reading) :
    Inv (w.read index call future wall now) := by
  have leads := inv.leads at_ phase
  have sound := inv.sound call (List.mem_of_getElem? at_)
  have loading : Loading call := ⟨_, _, _, _, phase⟩
  unfold World.read
  cases answer : w.warrant wall with
  | none =>
    refine inv.moves at_ ⟨rfl, rfl, le_refl _⟩ rfl rfl rfl ⟨sound.1, fun _ _ => trivial, ?_⟩
      (fun _ => loading) (by simp) ?_
    · exact ⟨leads.registered, leads.pending, leads.began, answer⟩
    · intro entry _
      apply warrant_later (w := w) _ answer
      rw [← leads.began]
      exact sound.1
  | some principal =>
    refine inv.moves at_ ⟨rfl, rfl, le_refl _⟩ rfl rfl rfl ⟨sound.1, fun _ _ => trivial, ?_⟩
      (fun _ => loading) inv.cached inv.missing
    exact ⟨leads.registered, leads.pending, leads.began, warrant_some answer⟩

theorem Inv.stores (inv : Inv w) (at_ : w.calls[index]? = some call)
    (phase : call.phase = .loading future wall now .found) :
    Inv (w.store index call future wall now) := by
  have leads := inv.leads at_ phase
  have sound := inv.sound call (List.mem_of_getElem? at_)
  refine inv.moves at_ ⟨rfl, rfl, le_refl _⟩ rfl rfl rfl ⟨sound.1, fun _ _ => trivial, ?_⟩
    (fun _ => ⟨_, _, _, _, phase⟩) ?_ inv.missing
  · exact ⟨leads.registered, leads.pending, leads.began, leads.found⟩
  · intro cached kept
    obtain ⟨row, here, rfl⟩ := Option.map_eq_some_iff.mp kept
    exact ⟨row, here, rfl, rfl⟩

theorem Inv.wakes (inv : Inv w) (at_ : w.calls[index]? = some call)
    (phase : call.phase = .waiting future) {t : World} (stepped : w.next (.wakes index) = some t) :
    Inv t := by
  have sound := inv.sound call (List.mem_of_getElem? at_)
  have waits := sound.2.2
  simp only [phase] at waits
  obtain ⟨lookup, shared⟩ := waits
  have found : w.outcome future = some lookup.outcome := by
    simp [World.outcome, shared.here]
  simp only [World.next, at_, Option.bind_some, phase, found] at stepped
  have over_ : ∀ (call' : Call), Sound (w.setCall index call') call' → ¬ Loading call' →
      Inv (w.setCall index call') := by
    intro call' fine ended
    exact inv.moves at_ ⟨rfl, rfl, le_refl _⟩ rfl rfl rfl fine (fun loads => absurd loads ended)
      inv.cached inv.missing
  cases ended : lookup.outcome with
  | pending => simp [ended] at stepped
  | cancelled => exact absurd ended shared.alive
  | exception =>
    simp only [ended] at stepped
    rw [← Option.some.inj stepped]
    refine over_ _ ⟨sound.1, ?_, trivial⟩ ?_
    · intro _ failed
      cases failed
    · rintro ⟨_, _, _, _, loads⟩
      cases loads
  | result principal =>
    simp only [ended] at stepped
    rw [← Option.some.inj stepped]
    refine over_ _ ⟨sound.1, ?_, trivial⟩ ?_
    · intro _ _
      have right : principal = w.warrant call.started := by
        rw [shared.result principal ended, shared.moment]
      exact ⟨call.started, le_refl _, sound.1, right⟩
    · rintro ⟨_, _, _, _, loads⟩
      cases loads

end Lookup

theorem Inv.step {e : Event} {t : World} (inv : Inv w) (allowed : Allowed w e)
    (stepped : Steps w e t) : Inv t := by
  unfold Steps at stepped
  cases e with
  | ticks wall now =>
    rw [← Option.some.inj stepped]
    have same : Same w { w with wall := w.wall + wall, now := w.now + now } :=
      ⟨rfl, rfl, Nat.le_add_right _ _⟩
    refine ⟨inv.flying, fun call member => same.sound_still rfl rfl (inv.sound call member),
      inv.one, inv.cached, fun entry kept => ?_⟩
    exact warrant_later (w := w) (Nat.le_add_right _ _) (inv.missing entry kept)
  | evictsCache =>
    rw [← Option.some.inj stepped]
    have same : Same w { w with sessionCache := none } := ⟨rfl, rfl, le_refl _⟩
    exact ⟨inv.flying, fun call member => same.sound_still rfl rfl (inv.sound call member),
      inv.one, by simp, inv.missing⟩
  | evictsMissing =>
    rw [← Option.some.inj stepped]
    have same : Same w { w with sessionMissing := none } := ⟨rfl, rfl, le_refl _⟩
    exact ⟨inv.flying, fun call member => same.sound_still rfl rfl (inv.sound call member),
      inv.one, inv.cached, by simp⟩
  | begins =>
    rw [← Option.some.inj stepped]
    exact inv.begins allowed
  | reads index =>
    obtain ⟨call, at_, stepped⟩ := Option.bind_eq_some_iff.mp stepped
    split at stepped
    · rename_i future wall now phase
      rw [← Option.some.inj stepped]
      exact inv.reads at_ phase
    · cases stepped
  | stores index =>
    obtain ⟨call, at_, stepped⟩ := Option.bind_eq_some_iff.mp stepped
    split at stepped
    · rename_i future wall now phase
      rw [← Option.some.inj stepped]
      exact inv.stores at_ phase
    · cases stepped
  | finishes index =>
    obtain ⟨call, at_, stepped⟩ := Option.bind_eq_some_iff.mp stepped
    split at stepped
    · rename_i future wall now phase
      rw [← Option.some.inj stepped]
      exact inv.finishes at_ phase (inv.leads at_ phase).found.symm
    · rename_i future wall now phase
      rw [← Option.some.inj stepped]
      exact inv.finishes at_ phase (inv.leads at_ phase).found.symm
    · cases stepped
  | fails index =>
    obtain ⟨call, at_, stepped⟩ := Option.bind_eq_some_iff.mp stepped
    split at stepped
    · rename_i future wall now stage phase
      rw [← Option.some.inj stepped]
      exact inv.fails at_ phase
    · cases stepped
  | cancels index =>
    obtain ⟨call, at_, stepped⟩ := Option.bind_eq_some_iff.mp stepped
    split at stepped
    · rename_i future wall now stage phase
      rw [← Option.some.inj stepped]
      simp only [Allowed, World.unshared, at_, Option.map_some, phase] at allowed
      exact inv.cancels_leader at_ phase allowed
    · rename_i future phase
      rw [← Option.some.inj stepped]
      have sound := inv.sound call (List.mem_of_getElem? at_)
      refine inv.moves at_ ⟨rfl, rfl, le_refl _⟩ rfl rfl rfl ⟨sound.1, ?_, trivial⟩ ?_
        inv.cached inv.missing
      · intro steady
        cases steady
      · rintro ⟨_, _, _, _, loads⟩
        cases loads
    · cases stepped
  | wakes index =>
    obtain ⟨call, at_, inner⟩ := Option.bind_eq_some_iff.mp stepped
    split at inner
    · rename_i future phase
      exact inv.wakes at_ phase stepped
    · cases inner
  | bumps =>
    rw [← Option.some.inj stepped]
    have idle : w.inflight = none := allowed
    have quiet := not_loading_of_idle inv idle
    have futures : w.bump.futures = w.futures := by simp [World.bump, idle]
    have same : Same w w.bump := ⟨rfl, rfl, le_refl _⟩
    refine ⟨by simp [World.bump], ?_, inv.one, by simp [World.bump], by simp [World.bump]⟩
    intro call member
    apply same.sound_still futures _ (inv.sound call member)
    rw [idle]
    rfl

theorem inv_start (username : String) (row : Option SessionRow) : Inv (start username row) := by
  constructor <;> simp [start]

/-- In every run of allowed steps, every call that is not cancelled and whose database work succeeds
returns what the row warrants at some moment during the call. -/
theorem run_served (username : String) (row : Option SessionRow) (events : List Event) (w : World)
    (run : Run Steps Allowed (start username row) events w) : Good w := by
  intro call member
  have inv := run.invariant Inv (fun _ _ _ inv allowed stepped => inv.step allowed stepped)
    (inv_start username row)
  exact (inv.sound call member).2.1

section Instance

def liveRow : SessionRow := ⟨7, 100⟩

def sharedRun : List Event :=
  [.begins, .begins, .reads 0, .stores 0, .finishes 0, .bumps, .wakes 1]

def sharedWorld : World :=
  { username := "owner", row := some liveRow, sessionEpoch := 1
    futures := [⟨0, .result (some ⟨"owner", 7⟩)⟩]
    calls := [⟨0, .returned (some ⟨"owner", 7⟩) 0, false, false⟩,
      ⟨0, .returned (some ⟨"owner", 7⟩) 0, false, false⟩] }

theorem shared_run : Run Steps Allowed (start "owner" (some liveRow)) sharedRun sharedWorld :=
  run_of_trace World.next Allowed (by decide)

/-- Both requests of the shared lookup are served. -/
theorem run_served_shared : Run Steps Allowed (start "owner" (some liveRow)) sharedRun sharedWorld ∧
    Good sharedWorld :=
  ⟨shared_run, run_served "owner" (some liveRow) sharedRun sharedWorld shared_run⟩

def leaderCancelled : World :=
  { username := "owner", row := some liveRow, futures := [⟨0, .cancelled⟩]
    calls := [⟨0, .raised .cancelledError, true, false⟩,
      ⟨0, .raised .cancelledError, false, false⟩] }

def leaderBumped : World :=
  { username := "owner", row := some liveRow, sessionEpoch := 1
    sessionCache := some ⟨1, 0, 100, 7⟩, futures := [⟨0, .cancelled⟩]
    calls := [⟨0, .raised .invalidStateError, false, false⟩] }

/-- A waiter is cancelled with the leader, and a leader whose future was cancelled raises. -/
theorem not_served :
    (Run Steps anyStep (start "owner" (some liveRow)) [.begins, .begins, .cancels 0, .wakes 1]
      leaderCancelled ∧ ¬ Good leaderCancelled) ∧
    Run Steps anyStep (start "owner" (some liveRow))
      [.begins, .reads 0, .bumps, .stores 0, .finishes 0] leaderBumped ∧ ¬ Good leaderBumped := by
  refine ⟨⟨run_of_trace World.next anyStep (by decide), fun good => ?_⟩,
    run_of_trace World.next anyStep (by decide), fun good => ?_⟩
  · exact good ⟨0, .raised .cancelledError, false, false⟩ (by simp [leaderCancelled]) rfl rfl
  · exact good ⟨0, .raised .invalidStateError, false, false⟩ (by simp [leaderBumped]) rfl rfl

end Instance

end DashcamStats.Auth.Flight
