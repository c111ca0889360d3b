import Mathlib.Data.List.Nodup
import DashcamStats.Auth.Revocation

namespace DashcamStats.Auth

open Routine (Kept read modify atomic block)

section Knowledge

variable {headers : Headers} {i : ℕ} {token : String} {revoked : Bool} {future floor version : ℕ}
variable {tokens : List String}

def Late (token : String) (revoked : Bool) (l : Ledger) : Prop :=
  revoked = true → token ∈ l.revoked

theorem late_lasting : Lasting headers i (Late token revoked) :=
  fun _ _ _ effect late isLate => effect.grows.revoked token (late isLate)

def Deleted (tokens : List String) (l : Ledger) : Prop :=
  ∀ token ∈ tokens, token ∈ l.issued ∧ ∀ row ∈ l.sessions, row.token ≠ token

theorem deleted_lasting : Lasting headers i (Deleted tokens) := by
  intro l l' intact effect deleted token mem
  obtain ⟨issued, gone⟩ := deleted token mem
  refine ⟨effect.grows.issued token issued, fun row' isRow' same => ?_⟩
  rcases effect.grows.sessions row' isRow' with fresh | ⟨row, isRow, isSame⟩
  · exact fresh (same ▸ issued)
  · exact gone row isRow (isSame.trans same)

def Asked (token : String) (future : ℕ) (l : Ledger) : Prop :=
  ∃ lookup, l.futures[future]? = some lookup ∧ lookup.token = token

theorem asked_lasting : Lasting headers i (Asked token future) := by
  rintro l l' intact effect ⟨lookup, isThere, isToken⟩
  obtain ⟨lookup', isThere', same, _⟩ := effect.grows.futures future lookup isThere
  exact ⟨lookup', isThere', same.trans isToken⟩

def Found (i : ℕ) (token : String) (l : Ledger) : Prop := (i, token) ∈ l.storing

theorem found_lasting : Lasting headers i (Found i token) :=
  fun _ _ _ effect found => effect.stays.storing _ found rfl

def Hit (future : ℕ) (l : Ledger) : Prop :=
  ∃ lookup, l.futures[future]? = some lookup ∧ lookup.hit = true

theorem hit_lasting : Lasting headers i (Hit future) := by
  rintro l l' intact effect ⟨lookup, isThere, isHit⟩
  obtain ⟨lookup', isThere', _, hits, _⟩ := effect.grows.futures future lookup isThere
  exact ⟨lookup', isThere', hits isHit⟩

def Missed (token : String) (future : ℕ) (l : Ledger) : Prop :=
  token ∈ l.revoked ∧
    ∃ lookup, l.futures[future]? = some lookup ∧ lookup.token = token ∧ lookup.hit = false

theorem missed_lasting : Lasting headers i (Missed token future) := by
  rintro l l' intact effect ⟨isRevoked, lookup, isThere, rfl, missed⟩
  obtain ⟨lookup', isThere', same, _, hits⟩ := effect.grows.futures future lookup isThere
  refine ⟨effect.grows.revoked _ isRevoked, lookup', isThere', same, ?_⟩
  cases isHit : lookup'.hit with
  | false => rfl
  | true =>
    rcases hits isHit with wasHit | notRevoked
    · exact absurd (missed.symm.trans wasHit) Bool.false_ne_true
    · exact absurd isRevoked notRevoked

end Knowledge

section Effects

variable {headers : Headers} {i : ℕ} {w : World} {chosen : ℕ → Prop}

theorem mem_remember {α : Type} {store : Store α} {key : String} {value : α} {entry : String × α}
    (mem : entry ∈ remember store key value) : entry = (key, value) ∨ entry ∈ store := by
  unfold remember at mem
  split at mem
  · exact .inl (List.mem_singleton.mp mem)
  · exact (List.mem_cons.mp mem).imp id fun mem => (List.mem_filter.mp mem).1

theorem mem_of_lookup {α : Type} {store : Store α} {key : String} {value : α}
    (isThere : store.lookup key = some value) : (key, value) ∈ store := by
  induction store with
  | nil => cases isThere
  | cons entry rest ih =>
    obtain ⟨other, stored⟩ := entry
    by_cases same : key = other
    · subst same
      rw [List.lookup_cons_self] at isThere
      cases isThere
      exact List.mem_cons_self
    · rw [List.lookup_cons, beq_false_of_ne same] at isThere
      exact List.mem_cons_of_mem _ (ih isThere)

structure Lookup.Goes (lookup lookup' : Lookup) : Prop where
  token : lookup'.token = lookup.token
  hit : lookup'.hit = lookup.hit

theorem getElem?_bumpSessions {future : ℕ} {lookup' : Lookup}
    (isThere : w.bumpSessions.futures[future]? = some lookup') :
    ∃ lookup, w.futures[future]? = some lookup ∧ lookup.Goes lookup' ∧
      (lookup'.outcome = lookup.outcome ∨ lookup'.outcome = .cancelled) := by
  simp only [World.bumpSessions, List.getElem?_mapIdx, Option.map_eq_some_iff] at isThere
  obtain ⟨lookup, isThere, rfl⟩ := isThere
  refine ⟨lookup, isThere, ?_⟩
  split
  · exact ⟨⟨rfl, rfl⟩, .inr rfl⟩
  · exact ⟨⟨rfl, rfl⟩, .inl rfl⟩

theorem bumpSessions_getElem? {future : ℕ} {lookup : Lookup}
    (isThere : w.futures[future]? = some lookup) :
    ∃ lookup', w.bumpSessions.futures[future]? = some lookup' ∧ lookup.Goes lookup' := by
  cases isThere' : w.bumpSessions.futures[future]? with
  | none => simp [World.bumpSessions, List.getElem?_mapIdx, isThere] at isThere'
  | some lookup' =>
    obtain ⟨other, isOther, goes, _⟩ := getElem?_bumpSessions isThere'
    cases isThere.symm.trans isOther
    exact ⟨lookup', rfl, goes⟩

theorem grows_of_goes {l l' : Ledger} (grows : Grows l { l' with futures := l.futures })
    (goes : ∀ (future : ℕ) (lookup : Lookup), l.futures[future]? = some lookup →
      ∃ lookup', l'.futures[future]? = some lookup' ∧ lookup.Goes lookup') : Grows l l' :=
  { grows with
    futures := fun future lookup isThere => by
      obtain ⟨lookup', isThere', goes⟩ := goes future lookup isThere
      exact ⟨lookup', isThere', goes.token, fun hit => goes.hit.trans hit,
        fun hit => .inl (goes.hit.symm.trans hit)⟩ }

theorem effect_bumpSessions (intact : w.ledger.Intact headers) :
    Effect headers chosen w.ledger w.bumpSessions.ledger where
  intact := { intact with
    cache := fun entry mem => by cases mem
    inflight := fun entry mem => by cases mem
    futures := fun future lookup' isThere' principal isResult => by
      obtain ⟨lookup, isThere, goes, outcome⟩ := getElem?_bumpSessions isThere'
      rcases outcome with same | cancelled
      · exact goes.hit.trans (intact.futures future lookup isThere principal
          (same.symm.trans isResult))
      · exact absurd (cancelled.symm.trans isResult) (by simp) }
  grows := grows_of_goes { Grows.refl w.ledger with }
    fun future lookup isThere => bumpSessions_getElem? isThere
  stays := ⟨fun _ mem _ => mem, fun _ mem _ => mem⟩

theorem effect_revoke {tokens : List String} (intact : w.ledger.Intact headers)
    (deleted : Deleted tokens w.ledger) (still : (w.revoke tokens).straddled = false) :
    Effect headers chosen w.ledger (w.revoke tokens).bumpSessions.ledger := by
  have still : (w.straddled || w.storing.any fun entry => entry.2 ∈ tokens) = false := still
  rw [Bool.or_eq_false_iff, List.any_eq_false] at still
  have inTokens (token : String) (mem : token ∈ tokens ++ w.revoked) :
      token ∈ w.issued ∧ ∀ row ∈ w.sessions, row.token ≠ token :=
    (List.mem_append.mp mem).elim (deleted token) (intact.revoked token)
  exact {
    intact := { intact with
      revoked := inTokens
      cache := fun entry mem => by cases mem
      storing := fun entry mem isRevoked => (List.mem_append.mp isRevoked).elim
        (fun inTokens => still.2 entry mem (by simpa using inTokens)) (intact.storing entry mem)
      inflight := fun entry mem => by cases mem
      futures := fun future lookup' isThere' principal isResult => by
        obtain ⟨lookup, isThere, goes, outcome⟩ := @getElem?_bumpSessions (w.revoke tokens) _ _ isThere'
        rcases outcome with same | cancelled
        · exact goes.hit.trans (intact.futures future lookup isThere principal
            (same.symm.trans isResult))
        · exact absurd (cancelled.symm.trans isResult) (by simp) }
    grows := grows_of_goes
      { Grows.refl w.ledger with revoked := fun token mem => List.mem_append_right tokens mem }
      fun future lookup isThere => @bumpSessions_getElem? (w.revoke tokens) _ _ isThere
    stays := ⟨fun _ mem _ => mem, fun _ mem _ => mem⟩ }

end Effects

section Revoking

variable {headers : Headers} {i : ℕ} {w : World} {chosen : ℕ → Prop}

theorem effect_fewer {sessions : List AuthSession} (intact : w.ledger.Intact headers)
    (fewer : ∀ row' ∈ sessions, ∃ row ∈ w.sessions, row.token = row'.token)
    (distinct : (sessions.map (·.token)).Nodup) :
    Effect headers chosen w.ledger { w.ledger with sessions := sessions } where
  intact := { intact with
    issued := fun row' isRow' => by
      obtain ⟨row, isRow, same⟩ := fewer row' isRow'
      exact same ▸ intact.issued row isRow
    distinct := distinct
    revoked := fun token isRevoked => ⟨(intact.revoked token isRevoked).1, fun row' isRow' => by
      obtain ⟨row, isRow, same⟩ := fewer row' isRow'
      exact same ▸ (intact.revoked token isRevoked).2 row isRow⟩ }
  grows := { Grows.refl w.ledger with sessions := fun row' isRow' => .inr (fewer row' isRow') }
  stays := ⟨fun _ mem _ => mem, fun _ mem _ => mem⟩

theorem effect_filter (intact : w.ledger.Intact headers) (keep : AuthSession → Bool) :
    Effect headers chosen w.ledger { w.ledger with sessions := w.sessions.filter keep } :=
  effect_fewer intact (fun row isRow => ⟨row, (List.mem_filter.mp isRow).1, rfl⟩)
    (intact.distinct.sublist ((List.filter_sublist (p := keep)).map _))

theorem deleted_deleteSessions (intact : w.ledger.Intact headers) (keep : AuthSession → Bool) :
    Deleted (w.deleteSessions keep).1 (w.deleteSessions keep).2.ledger := by
  intro token mem
  obtain ⟨row, isRow, rfl⟩ := List.mem_map.mp mem
  obtain ⟨isRow, dropped⟩ := List.mem_filter.mp isRow
  refine ⟨intact.issued row isRow, fun other isOther same => ?_⟩
  obtain ⟨isOther, kept⟩ := List.mem_filter.mp isOther
  have isSame := List.inj_on_of_nodup_map intact.distinct isOther isRow same
  rw [isSame] at kept
  simp [kept] at dropped

theorem straddled_revoke {tokens : List String} (was : w.straddled = true) :
    (w.revoke tokens).straddled = true := by
  change (w.straddled || _) = true
  rw [was]
  rfl

theorem careful_revokeSessions (keep : AuthSession → Bool) :
    Careful headers i (fun _ => True) (revokeSessions keep) fun _ _ => True := by
  refine careful_bind (R := Deleted) (careful_atomic lasting_true (fun _ => deleted_lasting)
    (fun _ was => was) fun w _ intact _ _ =>
      ⟨effect_filter intact keep, deleted_deleteSessions intact keep⟩) fun tokens => ?_
  exact careful_atomic deleted_lasting (fun _ => lasting_true) (fun w was => straddled_revoke was)
    fun w _ intact deleted still => ⟨effect_revoke intact deleted still, trivial⟩

end Revoking

section Loading

variable {headers : Headers} {i : ℕ} {w : World} {chosen : ℕ → Prop} {token : String} {future : ℕ}

theorem getElem?_setFuture {futures : List Lookup} {change : Lookup → Lookup} {other : ℕ}
    {lookup' : Lookup} (isThere : (setFuture futures future change)[other]? = some lookup') :
    ∃ lookup, futures[other]? = some lookup ∧
      lookup' = if future = other then change lookup else lookup := by
  simp only [setFuture, List.getElem?_modify, Option.map_eq_map, Option.map_eq_some_iff] at isThere
  obtain ⟨lookup, isThere, rfl⟩ := isThere
  exact ⟨lookup, isThere, rfl⟩

theorem setFuture_getElem? {futures : List Lookup} {change : Lookup → Lookup} {other : ℕ}
    {lookup : Lookup} (isThere : futures[other]? = some lookup) :
    (setFuture futures future change)[other]? =
      some (if future = other then change lookup else lookup) := by
  simp [setFuture, List.getElem?_modify, isThere]

theorem effect_hit {own : Lookup} (intact : w.ledger.Intact headers)
    (isOwn : w.futures[future]? = some own) (ownToken : own.token = token)
    (notRevoked : token ∉ w.revoked) :
    Effect headers chosen w.ledger { w.ledger with
      storing := (i, token) :: w.storing
      futures := setFuture w.futures future fun lookup => { lookup with hit := true } } where
  intact := { intact with
    storing := fun entry mem => by
      rcases List.mem_cons.mp mem with rfl | mem
      · exact notRevoked
      · exact intact.storing entry mem
    inflight := fun entry mem => by
      obtain ⟨lookup, isThere, same, missed⟩ := intact.inflight entry mem
      refine ⟨_, setFuture_getElem? isThere, ?_⟩
      by_cases isFuture : future = entry.2
      · rw [if_pos isFuture]
        refine ⟨same, fun isRevoked => ?_⟩
        cases (isFuture ▸ isOwn).symm.trans isThere
        exact absurd isRevoked (same ▸ ownToken ▸ notRevoked)
      · rw [if_neg isFuture]
        exact ⟨same, missed⟩
    futures := fun other lookup' isThere' principal isResult => by
      obtain ⟨lookup, isThere, rfl⟩ := getElem?_setFuture isThere'
      by_cases isFuture : future = other
      · rw [if_pos isFuture]
      · rw [if_neg isFuture] at isResult ⊢
        exact intact.futures other lookup isThere principal isResult }
  grows := { Grows.refl w.ledger with
    futures := fun other lookup isThere => by
      refine ⟨_, setFuture_getElem? isThere, ?_⟩
      by_cases isFuture : future = other
      · rw [if_pos isFuture]
        cases (isFuture ▸ isOwn).symm.trans isThere
        exact ⟨rfl, fun _ => rfl, fun _ => .inr (ownToken ▸ notRevoked)⟩
      · rw [if_neg isFuture]
        exact ⟨rfl, id, .inl⟩ }
  stays := ⟨fun _ mem _ => List.mem_cons_of_mem _ mem, fun _ mem _ => mem⟩

theorem effect_readSession (intact : w.ledger.Intact headers) (asked : Asked token future w.ledger)
    (wall : ℕ) :
    Effect headers chosen w.ledger (w.readSession i token future wall).2.ledger ∧
      ((w.readSession i token future wall).1.isSome = true →
        token ∉ w.revoked ∧ Found i token (w.readSession i token future wall).2.ledger ∧
          Hit future (w.readSession i token future wall).2.ledger) := by
  unfold World.readSession
  cases isRow : w.sessions.find? fun row => row.token = token && wall < row.expiresAt with
  | none => exact ⟨Effect.refl _ intact, fun isSome => by cases isSome⟩
  | some row =>
    have isToken : row.token = token := by
      have found := List.find?_some isRow
      simp only [Bool.and_eq_true, decide_eq_true_eq] at found
      exact found.1
    have notRevoked : token ∉ w.revoked := fun isRevoked =>
      (intact.revoked token isRevoked).2 row (List.mem_of_find?_eq_some isRow) isToken
    obtain ⟨own, isOwn, ownToken⟩ := asked
    refine ⟨?_, fun _ => ⟨notRevoked, List.mem_cons_self, ?_⟩⟩
    · exact effect_hit intact isOwn ownToken notRevoked
    · exact ⟨_, setFuture_getElem? isOwn, by rw [if_pos rfl]⟩

theorem effect_storeSession (intact : w.ledger.Intact headers) (found : Found i token w.ledger)
    (now : ℕ) (row : AuthSession) :
    Effect headers (· ≠ i) w.ledger (w.storeSession i token now row).ledger where
  intact := { intact with
    cache := fun entry mem isRevoked => by
      rcases mem_remember mem with rfl | mem
      · exact absurd isRevoked (intact.storing _ found)
      · exact intact.cache entry mem isRevoked
    storing := fun entry mem => intact.storing entry (List.mem_filter.mp mem).1 }
  grows := { Grows.refl w.ledger with }
  stays := ⟨fun _ mem other => List.mem_filter.mpr ⟨mem, by simpa using other⟩,
    fun _ mem _ => mem⟩

theorem effect_pop (intact : w.ledger.Intact headers) (key : String) :
    Effect headers chosen w.ledger { w.ledger with sessionCache := w.sessionCache.pop key } where
  intact := { intact with
    cache := fun entry mem => intact.cache entry (List.mem_filter.mp mem).1 }
  grows := { Grows.refl w.ledger with }
  stays := ⟨fun _ mem _ => mem, fun _ mem _ => mem⟩

theorem effect_touch (intact : w.ledger.Intact headers) (sessionId wall : ℕ) :
    Effect headers chosen w.ledger { w.ledger with
      sessions := w.sessions.map fun row =>
        if row.id = sessionId then { row with lastUsedAt := wall } else row } := by
  have token (row : AuthSession) :
      (if row.id = sessionId then { row with lastUsedAt := wall } else row).token = row.token := by
    split <;> rfl
  refine effect_fewer intact (fun row' isRow' => ?_) ?_
  · obtain ⟨row, isRow, rfl⟩ := List.mem_map.mp isRow'
    exact ⟨row, isRow, (token row).symm⟩
  · rw [List.map_map, show ((fun row : AuthSession => row.token) ∘ fun row =>
        if row.id = sessionId then { row with lastUsedAt := wall } else row) =
      fun row => row.token from funext token]
    exact intact.distinct

def Loaded (token : String) (future : ℕ) (revoked : Bool) (principal : Option Principal)
    (l : Ledger) : Prop :=
  Asked token future l ∧ (principal.isSome = true → Hit future l ∧ revoked = false)

variable {revoked : Bool} {principal : Option Principal}

theorem lasting_imp {p : Prop} {P : Ledger → Prop} (lasting : Lasting headers i P) :
    Lasting headers i fun l => p → P l :=
  fun l l' intact effect holds isTrue => lasting l l' intact effect (holds isTrue)

theorem lasting_const {p : Prop} : Lasting headers i fun _ => p := fun _ _ _ _ holds => holds

theorem loaded_lasting : Lasting headers i (Loaded token future revoked principal) :=
  fun l l' intact effect loaded => ⟨asked_lasting l l' intact effect loaded.1, fun isSome =>
    ⟨hit_lasting l l' intact effect (loaded.2 isSome).1, (loaded.2 isSome).2⟩⟩

theorem careful_loadSession (username : String) (wall now : ℕ) :
    Careful headers i (fun l => Late token revoked l ∧ Asked token future l)
      (loadSession i token username future wall now)
      fun principal l => Loaded token future revoked principal l := by
  have found (row : Option AuthSession) : Lasting headers i fun l => Asked token future l ∧
      (row.isSome = true → revoked = false ∧ Found i token l ∧ Hit future l) :=
    lasting_and asked_lasting
      (lasting_imp (lasting_and lasting_const (lasting_and found_lasting hit_lasting)))
  refine careful_bind (R := fun row l => Asked token future l ∧ (row.isSome = true →
      revoked = false ∧ Found i token l ∧ Hit future l)) ?_ fun row => ?_
  · refine careful_atomic (lasting_and late_lasting asked_lasting) found (fun w was => ?_)
      fun w _ intact holds _ => ?_
    · unfold World.readSession
      split <;> exact was
    · have reads := @effect_readSession headers i w (· = i) token future intact holds.2 wall
      refine ⟨(effect_readSession intact holds.2 wall).1,
        asked_lasting _ _ intact reads.1 holds.2, fun isSome => ?_⟩
      obtain ⟨notRevoked, isFound, isHit⟩ := reads.2 isSome
      refine ⟨?_, isFound, isHit⟩
      cases isLate : revoked with
      | false => rfl
      | true => exact absurd (holds.1 isLate) notRevoked
  · cases row with
    | none =>
      refine careful_bind (R := fun _ l => Loaded token future revoked none l) ?_ fun _ =>
        careful_pure _ loaded_lasting
      exact careful_atomic (found none) (fun _ => loaded_lasting) (fun _ was => was)
        fun w _ intact holds _ =>
          ⟨effect_pop intact token, holds.1, fun isSome => by cases isSome⟩
    | some row =>
      have loaded : Lasting headers i fun l => Loaded token future revoked
          (some ⟨username, .session, some row.id⟩) l := loaded_lasting
      refine careful_bind (R := fun _ l => Loaded token future revoked
        (some ⟨username, .session, some row.id⟩) l) ?_ fun touch => ?_
      · refine careful_atomic (found (some row)) (fun _ => loaded) (fun w was => ?_)
          fun w _ intact holds _ => ?_
        · dsimp only
          split <;> exact was
        · obtain ⟨notRevoked, isFound, isHit⟩ := holds.2 rfl
          have stores := effect_storeSession intact isFound now row
          dsimp only
          split <;> exact ⟨stores, holds.1, fun _ => ⟨isHit, notRevoked⟩⟩
      · cases touch with
        | false => exact careful_pure _ loaded
        | true =>
          refine careful_bind (R := fun _ l => Loaded token future revoked
            (some ⟨username, .session, some row.id⟩) l) ?_ fun _ => careful_pure _ loaded
          exact careful_atomic loaded (fun _ => loaded) (fun _ was => was)
            fun w _ intact holds _ => ⟨effect_touch intact row.id wall, holds⟩

end Loading

section Resolving

variable {headers : Headers} {i : ℕ} {w : World} {chosen : ℕ → Prop} {token username : String}
variable {revoked : Bool} {future : ℕ}

-- What `resolve_session` knows of what it does next
def Planned (token : String) (revoked : Bool) (l : Ledger) : Plan → Prop
  | .answer principal => revoked = true → principal = none
  | .join future => revoked = true → Missed token future l
  | .load future _ _ _ => Late token revoked l ∧ Asked token future l

theorem planned_lasting (plan : Plan) :
    Lasting headers i fun l => Planned token revoked l plan := by
  cases plan with
  | answer principal => exact lasting_const
  | join future => exact lasting_imp missed_lasting
  | load future username wall now => exact lasting_and late_lasting asked_lasting

theorem effect_ask (intact : w.ledger.Intact headers) (late : Late token revoked w.ledger) :
    Effect headers chosen w.ledger (w.ask token username).2.ledger ∧
      Planned token revoked (w.ask token username).2.ledger (w.ask token username).1 := by
  unfold World.ask
  cases asked : w.inflight.lookup token with
  | some future =>
    refine ⟨Effect.refl _ intact, fun isRevoked => ?_⟩
    obtain ⟨lookup, isThere, same, missed⟩ := intact.inflight _ (mem_of_lookup asked)
    exact ⟨late isRevoked, lookup, isThere, same, missed (late isRevoked)⟩
  | none =>
    have older (future : ℕ) (lookup : Lookup) (isThere : w.futures[future]? = some lookup) :
        (w.futures ++ [{ token := token : Lookup }])[future]? = some lookup := by
      rw [List.getElem?_append_left (List.getElem?_eq_some_iff.mp isThere).1, isThere]
    have newest : (w.futures ++ [{ token := token : Lookup }])[w.futures.length]? =
        some { token := token } := by simp
    refine ⟨{
      intact := { intact with
        inflight := fun entry mem => ?_
        futures := fun future lookup isThere principal isResult => ?_ }
      grows := { Grows.refl w.ledger with
        futures := fun future lookup isThere =>
          ⟨lookup, older future lookup isThere, rfl, id, .inl⟩ }
      stays := ⟨fun _ mem _ => mem, fun _ mem _ => mem⟩ }, late, _, newest, rfl⟩
    · rcases List.mem_cons.mp mem with rfl | mem
      · exact ⟨_, newest, rfl, fun _ => rfl⟩
      · obtain ⟨lookup, isThere, same, missed⟩ := intact.inflight entry mem
        exact ⟨lookup, older _ _ isThere, same, missed⟩
    · rcases Nat.lt_or_ge future w.futures.length with lt | ge
      · have isThere : (w.futures ++ [{ token := token : Lookup }])[future]? = some lookup := isThere
        rw [List.getElem?_append_left lt] at isThere
        exact intact.futures future lookup isThere principal isResult
      · have isThere : (w.futures ++ [{ token := token : Lookup }])[future]? = some lookup := isThere
        rw [List.getElem?_append_right ge] at isThere
        have isNew := List.mem_of_getElem? isThere
        rw [List.mem_singleton.mp isNew] at isResult
        cases isResult

theorem effect_askMissing (intact : w.ledger.Intact headers) (late : Late token revoked w.ledger) :
    Effect headers chosen w.ledger (w.askMissing token username).2.ledger ∧
      Planned token revoked (w.askMissing token username).2.ledger
        (w.askMissing token username).1 := by
  unfold World.askMissing
  split
  · exact effect_ask intact late
  · split
    · exact ⟨Effect.refl _ intact, fun _ => rfl⟩
    · exact @effect_ask headers { w with sessionMissing := w.sessionMissing.pop token } chosen token
        username revoked intact late

theorem effect_lookUp (intact : w.ledger.Intact headers) (late : Late token revoked w.ledger) :
    Effect headers chosen w.ledger (w.lookUp token).2.ledger ∧
      Planned token revoked (w.lookUp token).2.ledger (w.lookUp token).1 := by
  have pops : Effect headers chosen w.ledger
      (World.ledger { w with sessionCache := w.sessionCache.pop token }) := effect_pop intact token
  unfold World.lookUp
  split
  · exact ⟨Effect.refl _ intact, fun _ => rfl⟩
  · split
    · exact effect_askMissing intact late
    · split
      · have asks (name : String) := @effect_askMissing headers
          { w with sessionCache := w.sessionCache.pop token } chosen token name revoked pops.intact
          late
        exact ⟨pops.trans (asks _).1 rfl, (asks _).2⟩
      · split
        · exact ⟨pops, fun _ => rfl⟩
        · split
          · rename_i isCached current _ _
            refine ⟨Effect.refl _ intact, fun isRevoked => ?_⟩
            exact absurd (not_not.mp current)
              (intact.cache _ (mem_of_lookup isCached) (late isRevoked))
          · exact effect_askMissing intact late

theorem effect_record {call : Call} (intact : w.ledger.Intact headers)
    (revokes : call.Revokes headers w.history) :
    Effect headers chosen w.ledger (w.record call).ledger where
  intact := { intact with
    calls := fun other mem => by
      rcases List.mem_cons.mp mem with rfl | mem
      · exact revokes
      · exact intact.calls other mem }
  grows := { Grows.refl w.ledger with }
  stays := ⟨fun _ mem _ => mem, fun _ mem _ => mem⟩

theorem careful_record {P : Ledger → Prop} {call : Call} (lasting : Lasting headers i P)
    (revokes : ∀ w : World, w.ledger.Intact headers → P w.ledger →
      call.Revokes headers w.history) :
    Careful headers i P (modify fun w => w.record call) fun _ _ => True :=
  careful_atomic lasting (fun _ => lasting_true) (fun _ was => was)
    fun w _ intact holds _ => ⟨effect_record intact (revokes w intact holds), trivial⟩

theorem effect_finish {principal : Option Principal} (intact : w.ledger.Intact headers)
    (loaded : Loaded token future revoked principal w.ledger) :
    Effect headers chosen w.ledger (w.finish token future revoked principal).ledger := by
  have pops : Effect headers chosen w.ledger
      { w.ledger with inflight := w.inflight.pop token } := {
    intact := { intact with
      inflight := fun entry mem => intact.inflight entry (List.mem_filter.mp mem).1 }
    grows := { Grows.refl w.ledger with }
    stays := ⟨fun _ mem _ => mem, fun _ mem _ => mem⟩ }
  unfold World.finish
  dsimp only
  split
  · have sets : Effect headers chosen { w.ledger with inflight := w.inflight.pop token }
        { w.ledger with
          inflight := w.inflight.pop token
          futures := setFuture w.futures future fun lookup =>
            { lookup with outcome := .result principal } } := by
      have goes (lookup : Lookup) (other : ℕ) : lookup.Goes
          (if future = other then { lookup with outcome := .result principal } else lookup) := by
        split <;> exact ⟨rfl, rfl⟩
      exact {
        intact := { pops.intact with
          inflight := fun entry mem => by
            obtain ⟨lookup, isThere, same, missed⟩ := pops.intact.inflight entry mem
            exact ⟨_, setFuture_getElem? isThere, (goes lookup _).token.trans same,
              fun isRevoked => (goes lookup _).hit.trans (missed isRevoked)⟩
          futures := fun other lookup' isThere' found isResult => by
            obtain ⟨lookup, isThere, rfl⟩ := getElem?_setFuture isThere'
            by_cases isFuture : future = other
            · rw [if_pos isFuture] at isResult ⊢
              have isSome : principal = some found := Outcome.result.inj isResult
              obtain ⟨⟨own, isOwn, isHit⟩, _⟩ := loaded.2 (by rw [isSome]; rfl)
              cases (isFuture ▸ isOwn).symm.trans isThere
              exact isHit
            · rw [if_neg isFuture] at isResult ⊢
              exact intact.futures other lookup isThere found isResult }
        grows := grows_of_goes { Grows.refl w.ledger with } fun other lookup isThere =>
          ⟨_, setFuture_getElem? isThere, goes lookup other⟩
        stays := ⟨fun _ mem _ => mem, fun _ mem _ => mem⟩ }
    refine (pops.trans sets rfl).trans (@effect_record headers { w with
      inflight := w.inflight.pop token
      futures := setFuture w.futures future fun lookup =>
        { lookup with outcome := .result principal } } chosen (.session revoked principal)
      sets.intact fun isRevoked => ?_) rfl
    cases isPrincipal : principal with
    | none => rfl
    | some found =>
      exact absurd ((loaded.2 (by rw [isPrincipal]; rfl)).2.symm.trans isRevoked) Bool.false_ne_true
  · exact pops

theorem careful_awaitFuture :
    Careful headers i (fun l => revoked = true → Missed token future l)
      (awaitFuture future revoked) fun _ _ => True := by
  refine careful_block (lasting_imp missed_lasting) (fun _ => lasting_true)
    (fun w was outcome mem => ?_) fun w _ intact missed outcome mem _ => ?_
  · cases isThere : w.futures[future]? with
    | none =>
      rw [isThere] at mem
      cases mem
    | some lookup =>
      cases isDone : lookup.outcome <;> simp only [isThere, isDone, List.mem_singleton,
        List.not_mem_nil] at mem
      all_goals
        subst mem
        exact was
  · cases isThere : w.futures[future]? with
    | none =>
      rw [isThere] at mem
      cases mem
    | some lookup =>
      cases isDone : lookup.outcome with
      | pending =>
        simp only [isThere, isDone] at mem
        cases mem
      | result principal =>
        simp only [isThere, isDone, List.mem_singleton] at mem
        subst mem
        refine ⟨effect_record intact fun isRevoked => ?_, trivial⟩
        obtain ⟨_, own, isOwn, _, notHit⟩ := missed isRevoked
        cases isThere.symm.trans isOwn
        cases isPrincipal : principal with
        | none => rfl
        | some found =>
          have isHit := intact.futures future lookup isThere found (isPrincipal ▸ isDone)
          exact absurd (notHit.symm.trans isHit) Bool.false_ne_true
      | cancelled =>
        simp only [isThere, isDone, List.mem_singleton] at mem
        subst mem
        exact ⟨Effect.refl _ intact, trivial⟩

end Resolving

end DashcamStats.Auth
