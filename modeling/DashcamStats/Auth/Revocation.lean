import DashcamStats.Auth.Gate

namespace DashcamStats.Auth

open Routine (Kept read modify atomic block)

section Ledger

structure Ledger where
  account : Option Account
  sessions : List AuthSession
  sessionEpoch : ℕ
  credentialEpoch : ℕ
  sessionCache : Store CachedSession
  inflight : Store ℕ
  futures : List Lookup
  basicCache : Store CachedBasic
  history : List (Option Account)
  returned : ℕ
  issued : List String
  revoked : List String
  storing : List (ℕ × String)
  verifying : List (ℕ × ℕ)
  straddled : Bool
  calls : List Call

def World.ledger (w : World) : Ledger :=
  ⟨w.account, w.sessions, w.sessionEpoch, w.credentialEpoch, w.sessionCache, w.inflight, w.futures,
    w.basicCache, w.history, w.returned, w.issued, w.revoked, w.storing, w.verifying, w.straddled,
    w.calls⟩

def Account.Same (account other : Account) : Prop :=
  account.username = other.username ∧ account.password = other.password

-- The header is that of the account of the commit `version`.
def Evidence (headers : Headers) (history : List (Option Account)) (header : String)
    (version : ℕ) : Prop :=
  ∃ newer account older username password, history = newer ++ some account :: older ∧
    version = older.length + 1 ∧ headers.decode header = some (username, password) ∧
    account.accepts headers username password = true

def Call.Revokes (headers : Headers) (history : List (Option Account)) : Call → Prop
  | .signIn _ _ => True
  | .session revoked principal => revoked = true → principal = none
  | .basic header floor principal => principal.isSome = true →
      ∃ version, floor ≤ version ∧ Evidence headers history header version

structure Ledger.Intact (headers : Headers) (l : Ledger) : Prop where
  issued : ∀ row ∈ l.sessions, row.token ∈ l.issued
  distinct : (l.sessions.map (·.token)).Nodup
  revoked : ∀ token ∈ l.revoked, token ∈ l.issued ∧ ∀ row ∈ l.sessions, row.token ≠ token
  cache : ∀ entry ∈ l.sessionCache, entry.1 ∈ l.revoked → entry.2.epoch ≠ l.sessionEpoch
  storing : ∀ entry ∈ l.storing, entry.2 ∉ l.revoked
  inflight : ∀ entry ∈ l.inflight, ∃ lookup, l.futures[entry.2]? = some lookup ∧
    lookup.token = entry.1 ∧ (entry.1 ∈ l.revoked → lookup.hit = false)
  futures : ∀ (future : ℕ) (lookup : Lookup), l.futures[future]? = some lookup →
    ∀ principal, lookup.outcome = .result (some principal) → lookup.hit = true
  account : ∀ stored, l.account = some stored →
    ∃ account older, l.history = some account :: older ∧ account.Same stored
  returned : l.returned ≤ l.history.length
  verifying : ∀ entry ∈ l.verifying, l.returned ≤ entry.2
  basic : ∀ entry ∈ l.basicCache, entry.2.epoch = l.credentialEpoch →
    l.returned ≤ entry.2.version ∧ Evidence headers l.history entry.1 entry.2.version
  calls : ∀ call ∈ l.calls, call.Revokes headers l.history

structure Grows (l l' : Ledger) : Prop where
  history : ∃ newer, l'.history = newer ++ l.history
  returned : l.returned ≤ l'.returned
  revoked : ∀ token ∈ l.revoked, token ∈ l'.revoked
  issued : ∀ token ∈ l.issued, token ∈ l'.issued
  sessions : ∀ row' ∈ l'.sessions, row'.token ∉ l.issued ∨ ∃ row ∈ l.sessions, row.token = row'.token
  futures : ∀ (future : ℕ) (lookup : Lookup), l.futures[future]? = some lookup →
    ∃ lookup', l'.futures[future]? = some lookup' ∧ lookup'.token = lookup.token ∧
      (lookup.hit = true → lookup'.hit = true) ∧
      (lookup'.hit = true → lookup.hit = true ∨ lookup.token ∉ l.revoked)
  account : l.verifying ≠ [] → ∀ stored', l'.account = some stored' →
    ∃ stored, l.account = some stored ∧ stored.Same stored'
  verifying : ∀ entry ∈ l'.verifying, entry ∈ l.verifying ∨ l.history.length ≤ entry.2

variable (headers : Headers) (i : ℕ)

/-- The entries of the tasks that `chosen` picks stay. -/
structure Stays (chosen : ℕ → Prop) (l l' : Ledger) : Prop where
  storing : ∀ entry ∈ l.storing, chosen entry.1 → entry ∈ l'.storing
  verifying : ∀ entry ∈ l.verifying, chosen entry.1 → entry ∈ l'.verifying

structure Effect (chosen : ℕ → Prop) (l l' : Ledger) : Prop where
  intact : l'.Intact headers
  grows : Grows l l'
  stays : Stays chosen l l'

structure Steps (chosen : ℕ → Prop) (w w' : World) : Prop where
  straddled : w.straddled = true → w'.straddled = true
  effect : w'.straddled = false → w.ledger.Intact headers → Effect headers chosen w.ledger w'.ledger

-- What task `i` keeps, and what it relies on
def Maintains : World → World → Prop := Steps headers (· ≠ i)
def Trusts : World → World → Prop := Steps headers (· = i)

def Calm (P : Ledger → Prop) (w : World) : Prop :=
  w.straddled = false → w.ledger.Intact headers ∧ P w.ledger

def Lasting (P : Ledger → Prop) : Prop :=
  ∀ l l', l.Intact headers → Effect headers (· = i) l l' → P l → P l'

end Ledger

section Grows

variable {headers : Headers} {l l' : Ledger}

theorem Grows.refl (l : Ledger) : Grows l l where
  history := ⟨[], rfl⟩
  returned := Nat.le_refl _
  revoked := fun _ mem => mem
  issued := fun _ mem => mem
  sessions := fun row mem => .inr ⟨row, mem, rfl⟩
  futures := fun _ lookup isThere => ⟨lookup, isThere, rfl, id, .inl⟩
  account := fun _ stored isStored => ⟨stored, isStored, rfl, rfl⟩
  verifying := fun _ mem => .inl mem

theorem Grows.trans {m : Ledger} (first : Grows l m) (second : Grows m l')
    (same : m.verifying = l.verifying) : Grows l l' where
  history := by
    obtain ⟨newer, isNewer⟩ := first.history
    obtain ⟨latest, isLatest⟩ := second.history
    exact ⟨latest ++ newer, by rw [isLatest, isNewer, List.append_assoc]⟩
  returned := Nat.le_trans first.returned second.returned
  revoked := fun token mem => second.revoked token (first.revoked token mem)
  issued := fun token mem => second.issued token (first.issued token mem)
  sessions := fun row mem => by
    rcases second.sessions row mem with fresh | ⟨between, isBetween, isSame⟩
    · exact .inl fun issued => fresh (first.issued _ issued)
    · rcases first.sessions between isBetween with fresh | ⟨old, isOld, isSame'⟩
      · exact .inl (isSame ▸ fresh)
      · exact .inr ⟨old, isOld, isSame'.trans isSame⟩
  futures := fun future lookup isThere => by
    obtain ⟨between, isBetween, token, hit, hits⟩ := first.futures future lookup isThere
    obtain ⟨last, isLast, token', hit', hits'⟩ := second.futures future between isBetween
    refine ⟨last, isLast, token'.trans token, fun isHit => hit' (hit isHit), fun isHit => ?_⟩
    rcases hits' isHit with isHit | notRevoked
    · exact hits isHit
    · exact .inr fun isRevoked => notRevoked (first.revoked _ (token ▸ isRevoked))
  account := fun busy stored isStored => by
    obtain ⟨between, isBetween, isSame⟩ := second.account (same ▸ busy) stored isStored
    obtain ⟨old, isOld, isSame'⟩ := first.account busy between isBetween
    exact ⟨old, isOld, isSame'.1.trans isSame.1, isSame'.2.trans isSame.2⟩
  verifying := fun entry mem => by
    rcases second.verifying entry mem with mem | le
    · exact first.verifying entry mem
    · obtain ⟨newer, isNewer⟩ := first.history
      rw [isNewer, List.length_append] at le
      exact .inr (Nat.le_trans (Nat.le_add_left _ _) le)

theorem Effect.trans {chosen : ℕ → Prop} {m : Ledger} (first : Effect headers chosen l m)
    (second : Effect headers chosen m l') (same : m.verifying = l.verifying) :
    Effect headers chosen l l' :=
  ⟨second.intact, first.grows.trans second.grows same,
    fun entry mem isChosen => second.stays.storing entry (first.stays.storing entry mem isChosen)
      isChosen,
    fun entry mem isChosen => second.stays.verifying entry
      (first.stays.verifying entry mem isChosen) isChosen⟩

theorem Effect.refl (chosen : ℕ → Prop) (intact : l.Intact headers) : Effect headers chosen l l :=
  ⟨intact, .refl l, fun _ mem _ => mem, fun _ mem _ => mem⟩

theorem Evidence.grows {history : List (Option Account)} {header : String} {version : ℕ}
    (newer : List (Option Account)) (evidence : Evidence headers history header version) :
    Evidence headers (newer ++ history) header version := by
  obtain ⟨between, account, older, username, password, rfl, isVersion, decodes, accepts⟩ := evidence
  exact ⟨newer ++ between, account, older, username, password, by simp, isVersion, decodes, accepts⟩

theorem Call.Revokes.grows {history : List (Option Account)} {call : Call}
    (newer : List (Option Account)) (revokes : call.Revokes headers history) :
    call.Revokes headers (newer ++ history) := by
  cases call with
  | signIn guarded required => trivial
  | session revoked principal => exact revokes
  | basic header floor principal =>
    intro isSome
    obtain ⟨version, le, evidence⟩ := revokes isSome
    exact ⟨version, le, evidence.grows newer⟩

end Grows

section Rules

variable {headers : Headers} {i : ℕ} {α β : Type} {P Q : Ledger → Prop} {w w' : World}

theorem Steps.before (steps : Steps headers (· = i) w w') (still : w'.straddled = false) :
    w.straddled = false := by
  cases straddled : w.straddled with
  | false => rfl
  | true => exact absurd (still.symm.trans (steps.straddled straddled)) Bool.false_ne_true

theorem Steps.of_ledger {chosen : ℕ → Prop} (same : w'.ledger = w.ledger) :
    Steps headers chosen w w' := by
  have straddled : w'.straddled = w.straddled := congrArg Ledger.straddled same
  refine ⟨fun before => straddled.trans before, fun _ intact => ?_⟩
  rw [same]
  exact Effect.refl chosen intact

theorem calm_kept (lasting : Lasting headers i P) :
    Kept (Trusts headers i) (Calm headers P) := by
  intro w w' calm trusts still
  obtain ⟨intact, holds⟩ := calm (trusts.before still)
  have effect := trusts.effect still intact
  exact ⟨effect.intact, lasting _ _ intact effect holds⟩

theorem lasting_true : Lasting headers i fun _ => True := fun _ _ _ _ _ => trivial

theorem lasting_and (first : Lasting headers i P) (second : Lasting headers i Q) :
    Lasting headers i fun l => P l ∧ Q l := fun l l' intact effect holds =>
  ⟨first l l' intact effect holds.1, second l l' intact effect holds.2⟩

-- From wherever `P` holds the routine keeps the ledger, and it ends with `Q`.
def Careful (headers : Headers) (i : ℕ) (P : Ledger → Prop) (routine : Routine World α)
    (Q : α → Ledger → Prop) : Prop :=
  ∀ w, Calm headers P w →
    Routine.Safe (Trusts headers i) (Maintains headers i) (fun result => Calm headers (Q result)) routine w

variable {R : α → Ledger → Prop} {S : β → Ledger → Prop}

theorem careful_bind {routine : Routine World α} {next : α → Routine World β}
    (first : Careful headers i P routine R)
    (second : ∀ result, Careful headers i (R result) (next result) S) :
    Careful headers i P (routine >>= next) S :=
  fun w calm => Routine.Safe.bind ((first w calm).mono fun result w calm => second result w calm)

theorem careful_pure (result : α) (lasting : Lasting headers i (R result)) :
    Careful headers i (R result) (pure result) R :=
  fun _ calm => Routine.Safe.pure result (calm_kept lasting) calm

theorem careful_mono {routine : Routine World α} (careful : Careful headers i P routine R)
    (stronger : ∀ l, Q l → P l) : Careful headers i Q routine R :=
  fun w calm => careful w fun still => (calm still).imp id (stronger _)

theorem careful_block {outcomes : World → List (α × World)} (lasting : Lasting headers i P)
    (lasts : ∀ result, Lasting headers i (R result))
    (straddled : ∀ w, w.straddled = true → ∀ outcome ∈ outcomes w, outcome.2.straddled = true)
    (effect : ∀ w, w.straddled = false → w.ledger.Intact headers → P w.ledger →
      ∀ outcome ∈ outcomes w, outcome.2.straddled = false →
        Effect headers (· ≠ i) w.ledger outcome.2.ledger ∧ R outcome.1 outcome.2.ledger) :
    Careful headers i P (block outcomes) R := by
  intro w calm t steps outcome mem
  have here := (calm_kept lasting).steps calm steps
  have before (still : outcome.2.straddled = false) : t.straddled = false := by
    cases was : t.straddled with
    | false => rfl
    | true => exact absurd (still.symm.trans (straddled t was outcome mem)) Bool.false_ne_true
  have does (still : outcome.2.straddled = false) :=
    have ⟨intact, holds⟩ := here (before still)
    effect t (before still) intact holds outcome mem still
  refine ⟨⟨fun was => straddled t was outcome mem, fun still _ => (does still).1⟩,
    fun u later => (calm_kept (lasts outcome.1)).steps ?_ later⟩
  exact fun still => ⟨(does still).1.intact, (does still).2⟩

theorem careful_atomic {operation : World → α × World} (lasting : Lasting headers i P)
    (lasts : ∀ result, Lasting headers i (R result))
    (straddled : ∀ w, w.straddled = true → (operation w).2.straddled = true)
    (effect : ∀ w, w.straddled = false → w.ledger.Intact headers → P w.ledger →
      (operation w).2.straddled = false →
        Effect headers (· ≠ i) w.ledger (operation w).2.ledger ∧
          R (operation w).1 (operation w).2.ledger) :
    Careful headers i P (atomic operation) R :=
  careful_block lasting lasts
    (fun w was outcome mem => by
      cases List.mem_singleton.mp mem
      exact straddled w was)
    fun w before intact holds outcome mem still => by
      cases List.mem_singleton.mp mem
      exact effect w before intact holds still

theorem careful_aside {operation : World → α × World} (lasting : Lasting headers i P)
    (aside : ∀ w, (operation w).2.ledger = w.ledger) :
    Careful headers i P (atomic operation) fun _ => P :=
  careful_atomic lasting (fun _ => lasting)
    (fun w was => (congrArg Ledger.straddled (aside w)).trans was)
    fun w _ intact holds _ => by
      rw [aside w]
      exact ⟨Effect.refl _ intact, holds⟩

theorem careful_read {look : World → α} (lasting : Lasting headers i P)
    (lasts : ∀ result, Lasting headers i (R result))
    (reads : ∀ w : World, w.ledger.Intact headers → P w.ledger → R (look w) w.ledger) :
    Careful headers i P (read look) R :=
  careful_atomic lasting lasts (fun _ was => was)
    fun w _ intact holds _ => ⟨Effect.refl _ intact, reads w intact holds⟩

end Rules

end DashcamStats.Auth
