import Mathlib.Tactic.Linarith
import DashcamStats.Library.Run
import DashcamStats.Library.Table

namespace DashcamStats.Auth.Ratelimit

def KEY_LIMIT : ℕ := 10

def GLOBAL_LIMIT : ℕ := 60

def WINDOW_S : ℚ := 900

def MAX_DELAY_S : ℚ := 3

def MAX_KEYS : ℕ := 4096

def GLOBAL : String := "\x00global"

structure Bucket where
  key : String
  stamps : List ℚ
  deriving DecidableEq

-- `_hits`; the order of its keys decides nothing.
abbrev Hits := Table Bucket Bucket.key

def limitFor (key : String) : ℕ := if key = GLOBAL then GLOBAL_LIMIT else KEY_LIMIT

def prune (stamps : List ℚ) (now : ℚ) : List ℚ := stamps.dropWhile (· ≤ now - WINDOW_S)

def evict (hits : Hits) (now : ℚ) : Hits :=
  let hits := hits.filter fun b => b.stamps.getLast?.any (now - WINDOW_S < ·)
  if hits.rows.length < MAX_KEYS then hits else hits.filter (·.key = GLOBAL)

-- `_wait_for`
def retryAfter (hits : Hits) (key : String) (now : ℚ) : Option ℚ × Hits :=
  match hits.find? key with
  | none => (none, hits)
  | some bucket =>
    let stamps := prune bucket.stamps now
    (if stamps.length < limitFor key then none
      else stamps.head?.map fun oldest => max 0 (oldest + WINDOW_S - now),
      hits.put ⟨key, stamps⟩)

def delayStep (now : ℚ) (state : ℚ × Hits) (key : String) : ℚ × Hits :=
  match state.2.find? key with
  | none => state
  | some bucket =>
    let stamps := prune bucket.stamps now
    let hits := state.2.put ⟨key, stamps⟩
    if stamps.length ≤ limitFor key then (state.1, hits)
    else (max state.1 (min MAX_DELAY_S (1 / 4 * (stamps.length - limitFor key))), hits)

def delayFor (hits : Hits) (keys : List String) (now : ℚ) : ℚ × Hits :=
  (keys ++ [GLOBAL]).foldl (delayStep now) (0, hits)

def failureStep (now : ℚ) (hits : Hits) (key : String) : Hits :=
  let (stamps, hits) := match hits.find? key with
    | some bucket => (bucket.stamps, hits)
    | none => ([], if MAX_KEYS ≤ hits.rows.length then evict hits now else hits)
  let stamps := prune stamps now
  hits.put ⟨key, if stamps.length < GLOBAL_LIMIT * 4 then stamps ++ [now] else stamps⟩

def recordFailure (hits : Hits) (keys : List String) (now : ℚ) : Hits :=
  (keys ++ [GLOBAL]).foldl (failureStep now) hits

def recordSuccess (hits : Hits) (keys : List String) : Hits := keys.foldl Table.erase hits

inductive Call where
  | retryAfter (addressKey : String)
  | delayFor (keys : List String)
  | recordFailure (keys : List String)
  | recordSuccess (keys : List String)

/-- The buckets, the last reading of the clock, and the failures that were recorded of each key
since its last success. -/
structure Throttle where
  hits : Hits := .empty
  clock : ℚ
  failures : String → List ℚ := fun _ => []

def Throttle.after (s : Throttle) (e : Call × ℚ) : Throttle :=
  match e.1 with
  | .retryAfter key => { s with hits := (Ratelimit.retryAfter s.hits key e.2).2, clock := e.2 }
  | .delayFor keys => { s with hits := (Ratelimit.delayFor s.hits keys e.2).2, clock := e.2 }
  | .recordFailure keys =>
    { hits := Ratelimit.recordFailure s.hits keys e.2
      clock := e.2
      failures := fun key =>
        s.failures key ++ List.replicate ((keys ++ [GLOBAL]).count key) e.2 }
  | .recordSuccess keys =>
    { hits := Ratelimit.recordSuccess s.hits keys
      clock := e.2
      failures := fun key => if key ∈ keys then [] else s.failures key }

def next (s : Throttle) (e : Call × ℚ) : Option Throttle :=
  if s.clock ≤ e.2 then some (s.after e) else none

def Steps (s : Throttle) (e : Call × ℚ) (t : Throttle) : Prop := next s e = some t

theorem prune_sublist (stamps : List ℚ) (now : ℚ) : (prune stamps now).Sublist stamps :=
  List.dropWhile_sublist _

theorem prune_eq_filter {stamps : List ℚ} (sorted : stamps.Pairwise (· ≤ ·)) (now : ℚ) :
    prune stamps now = stamps.filter (now - WINDOW_S < ·) := by
  induction stamps with
  | nil => rfl
  | cons x rest ih =>
    obtain ⟨least, later⟩ := List.pairwise_cons.mp sorted
    by_cases old : x ≤ now - WINDOW_S
    · rw [prune, List.dropWhile_cons_of_pos (by simpa using old),
        List.filter_cons_of_neg (by simpa using old)]
      exact ih later
    · have all : ∀ y ∈ x :: rest, decide (now - WINDOW_S < y) = true := by
        intro y member
        obtain rfl | among := List.mem_cons.mp member
        · simpa using old
        · exact decide_eq_true (lt_of_lt_of_le (not_le.mp old) (least y among))
      rw [prune, List.dropWhile_cons_of_neg (by simpa using old), List.filter_eq_self.mpr all]

def Shrinks (t u : Hits) : Prop :=
  u.rows.length ≤ t.rows.length ∧
    ∀ b ∈ u, ∃ a ∈ t, a.key = b.key ∧ b.stamps.Sublist a.stamps

theorem Shrinks.refl (t : Hits) : Shrinks t t :=
  ⟨le_rfl, fun b member => ⟨b, member, rfl, .refl _⟩⟩

theorem Shrinks.trans {t u v : Hits} (first : Shrinks t u) (second : Shrinks u v) :
    Shrinks t v := by
  refine ⟨second.1.trans first.1, fun b member => ?_⟩
  obtain ⟨a, among, key, part⟩ := second.2 b member
  obtain ⟨c, within, key', part'⟩ := first.2 a among
  exact ⟨c, within, key'.trans key, part.trans part'⟩

theorem shrinks_filter (t : Hits) (p : Bucket → Bool) : Shrinks t (t.filter p) :=
  ⟨List.length_filter_le _ _, fun b member => ⟨b, (Table.mem_filter.mp member).1, rfl, .refl _⟩⟩

theorem length_put_le (t : Hits) (b : Bucket) : (t.put b).rows.length ≤ t.rows.length + 1 := by
  simp only [Table.put, Table.insert, List.length_append, List.length_singleton]
  exact Nat.succ_le_succ (List.length_filter_le _ _)

theorem shrinks_put {t : Hits} {key : String} {a : Bucket} {stamps : List ℚ}
    (found : t.find? key = some a) (part : stamps.Sublist a.stamps) :
    Shrinks t (t.put ⟨key, stamps⟩) := by
  obtain ⟨member, rfl⟩ := Table.find?_mem found
  constructor
  · have fewer : (t.rows.filter fun b => b.key ≠ a.key).length < t.rows.length :=
      List.length_filter_lt_length_iff_exists.mpr ⟨a, member, by simp⟩
    simp only [Table.put, Table.insert, Table.erase, List.length_append, List.length_singleton]
    exact fewer
  · intro b among
    obtain ⟨other, -⟩ | rfl := Table.mem_put.mp among
    · exact ⟨b, other, rfl, .refl _⟩
    · exact ⟨a, member, rfl, part⟩

theorem retryAfter_shrinks (hits : Hits) (key : String) (now : ℚ) :
    Shrinks hits (retryAfter hits key now).2 := by
  unfold retryAfter
  cases found : hits.find? key with
  | none => exact .refl _
  | some bucket => exact shrinks_put found (prune_sublist _ _)

theorem delayStep_shrinks (now : ℚ) (state : ℚ × Hits) (key : String) :
    Shrinks state.2 (delayStep now state key).2 := by
  unfold delayStep
  cases found : state.2.find? key with
  | none => exact .refl _
  | some bucket =>
    dsimp only
    split
    · exact shrinks_put found (prune_sublist _ _)
    · exact shrinks_put found (prune_sublist _ _)

theorem delay_spec (now : ℚ) (keys : List String) (state : ℚ × Hits) :
    Shrinks state.2 (keys.foldl (delayStep now) state).2 ∧
      (state.1 ≤ MAX_DELAY_S → (keys.foldl (delayStep now) state).1 ≤ MAX_DELAY_S) := by
  induction keys generalizing state with
  | nil => exact ⟨.refl _, id⟩
  | cons key rest ih =>
    obtain ⟨shrinks, bound⟩ := ih (delayStep now state key)
    refine ⟨(delayStep_shrinks now state key).trans shrinks, fun low => bound ?_⟩
    unfold delayStep
    split
    · exact low
    · dsimp only
      split
      · exact low
      · exact max_le low (min_le_left _ _)

theorem recordSuccess_spec (hits : Hits) (keys : List String) :
    Shrinks hits (recordSuccess hits keys) ∧ ∀ b ∈ recordSuccess hits keys, b.key ∉ keys := by
  induction keys generalizing hits with
  | nil => exact ⟨.refl _, by simp⟩
  | cons key rest ih =>
    obtain ⟨shrinks, absent⟩ := ih (hits.erase key)
    refine ⟨(shrinks_filter hits _).trans shrinks, fun b member => ?_⟩
    obtain ⟨a, among, same, -⟩ := shrinks.2 b member
    rw [List.mem_cons, not_or, ← same]
    exact ⟨(Table.mem_erase.mp among).2, same ▸ absent b member⟩

theorem evict_shrinks (hits : Hits) (now : ℚ) : Shrinks hits (evict hits now) := by
  unfold evict
  dsimp only
  split
  · exact shrinks_filter _ _
  · exact (shrinks_filter _ _).trans (shrinks_filter _ _)

theorem evict_length (hits : Hits) (now : ℚ) : (evict hits now).rows.length < MAX_KEYS := by
  unfold evict
  dsimp only
  split
  · assumption
  · generalize hits.filter _ = live
    have same : ∀ b ∈ (live.filter (·.key = GLOBAL)).rows, b.key = GLOBAL := by
      intro b member
      simpa using (List.mem_filter.mp member).2
    have distinct := (live.filter (·.key = GLOBAL)).distinct
    match rows : (live.filter (·.key = GLOBAL)).rows with
    | [] => decide
    | [_] => exact (by decide : 1 < MAX_KEYS)
    | a :: b :: rest =>
      rw [rows] at same distinct
      have first := same a List.mem_cons_self
      have second := same b (by simp)
      simp [first, second] at distinct

structure Holds (failures : String → List ℚ) (hits : Hits) : Prop where
  stamps : ∀ b ∈ hits, b.stamps.Sublist (failures b.key)
  small : ∀ b ∈ hits, b.stamps.length ≤ 4 * GLOBAL_LIMIT
  few : hits.rows.length ≤ MAX_KEYS

variable {failures : String → List ℚ} {hits more : Hits} {now : ℚ}

theorem Holds.shrinks (held : Holds failures hits) (shrinks : Shrinks hits more) :
    Holds failures more where
  stamps b member := by
    obtain ⟨a, among, key, part⟩ := shrinks.2 b member
    exact key ▸ part.trans (held.stamps a among)
  small b member := by
    obtain ⟨a, among, -, part⟩ := shrinks.2 b member
    exact part.length_le.trans (held.small a among)
  few := shrinks.1.trans held.few

theorem Holds.failureStep (held : Holds failures hits) (key : String) :
    Holds (fun k => failures k ++ if k = key then [now] else []) (failureStep now hits key) := by
  have more (k : String) :
      (failures k).Sublist (failures k ++ if k = key then [now] else []) :=
    List.sublist_append_left _ _
  -- The bucket before the failure, and a table with room for it
  obtain ⟨stamps, room, shape, known, small, held', short⟩ : ∃ stamps room,
      Ratelimit.failureStep now hits key = room.put ⟨key,
        if (prune stamps now).length < GLOBAL_LIMIT * 4 then prune stamps now ++ [now]
        else prune stamps now⟩ ∧
      stamps.Sublist (failures key) ∧ stamps.length ≤ 4 * GLOBAL_LIMIT ∧ Holds failures room ∧
      ∀ bucket, (room.put ⟨key, bucket⟩).rows.length ≤ MAX_KEYS := by
    unfold Ratelimit.failureStep
    cases found : hits.find? key with
    | some bucket =>
      obtain ⟨member, rfl⟩ := Table.find?_mem found
      refine ⟨bucket.stamps, hits, rfl, held.stamps _ member, held.small _ member, held, ?_⟩
      intro other
      have shrinks := shrinks_put found (List.nil_sublist bucket.stamps)
      have size : (hits.put ⟨bucket.key, other⟩).rows.length =
          (hits.put ⟨bucket.key, []⟩).rows.length := by
        simp [Table.put, Table.insert, Table.erase]
      rw [size]
      exact shrinks.1.trans held.few
    | none =>
      refine ⟨[], _, rfl, List.nil_sublist _, Nat.zero_le _, ?_, fun bucket => ?_⟩
      · split
        · exact held.shrinks (evict_shrinks _ _)
        · exact held
      · refine (length_put_le _ _).trans ?_
        split
        · exact evict_length hits now
        · omega
  rw [shape]
  have part := (prune_sublist stamps now).trans known
  refine ⟨fun b member => ?_, fun b member => ?_, short _⟩
  · obtain ⟨other, -⟩ | rfl := Table.mem_put.mp member
    · exact (held'.stamps b other).trans (more b.key)
    · dsimp only
      rw [if_pos rfl]
      split
      · exact part.append (.refl _)
      · exact part.trans (List.sublist_append_left _ _)
  · obtain ⟨other, -⟩ | rfl := Table.mem_put.mp member
    · exact held'.small b other
    · dsimp only
      split
      · rw [List.length_append, List.length_singleton]
        omega
      · exact (prune_sublist stamps now).length_le.trans small

theorem Holds.recordFailures (held : Holds failures hits) (keys : List String) :
    Holds (fun k => failures k ++ List.replicate (keys.count k) now)
      (keys.foldl (Ratelimit.failureStep now) hits) := by
  induction keys generalizing failures hits with
  | nil => simpa using held
  | cons key rest ih =>
    have first : Holds _ (Ratelimit.failureStep now hits key) := held.failureStep key
    have next := ih first
    have same : (fun k => failures k ++ List.replicate ((key :: rest).count k) now) =
        fun k => (failures k ++ if k = key then [now] else []) ++
          List.replicate (rest.count k) now := by
      funext k
      by_cases here : k = key
      · subst here
        rw [List.count_cons_self, List.replicate_succ, if_pos rfl, List.append_assoc]
        rfl
      · rw [List.count_cons_of_ne (Ne.symm here), if_neg here, List.append_nil]
    rw [same]
    exact next

structure Inv (s : Throttle) : Prop where
  holds : Holds s.failures s.hits
  sorted : ∀ key, (s.failures key).Pairwise (· ≤ ·)
  past : ∀ key, ∀ stamp ∈ s.failures key, stamp ≤ s.clock

theorem Inv.step {s t : Throttle} {e : Call × ℚ} (inv : Inv s) (stepped : Steps s e t) : Inv t := by
  unfold Steps next at stepped
  split at stepped
  case isFalse => cases stepped
  rename_i forward
  obtain rfl := Option.some.inj stepped
  have past (key : String) (stamp : ℚ) (member : stamp ∈ s.failures key) : stamp ≤ e.2 :=
    (inv.past key stamp member).trans forward
  obtain ⟨call, now⟩ := e
  cases call with
  | retryAfter key =>
    exact ⟨inv.holds.shrinks (retryAfter_shrinks s.hits key now), inv.sorted, past⟩
  | delayFor keys =>
    exact ⟨inv.holds.shrinks (delay_spec now (keys ++ [GLOBAL]) (0, s.hits)).1, inv.sorted, past⟩
  | recordFailure keys =>
    refine ⟨inv.holds.recordFailures _, fun key => ?_, fun key stamp member => ?_⟩
    · refine List.pairwise_append.mpr ⟨inv.sorted key, by simp, fun x old y new => ?_⟩
      rw [(List.mem_replicate.mp new).2]
      exact past key x old
    · obtain old | new := List.mem_append.mp member
      · exact past key stamp old
      · exact (List.mem_replicate.mp new).2.le
  | recordSuccess keys =>
    obtain ⟨shrinks, absent⟩ := recordSuccess_spec s.hits keys
    have held := inv.holds.shrinks shrinks
    refine ⟨⟨fun b member => ?_, held.small, held.few⟩, fun key => ?_, fun key stamp member => ?_⟩
    · show b.stamps.Sublist (if b.key ∈ keys then [] else s.failures b.key)
      rw [if_neg (absent b member)]
      exact held.stamps b member
    · show (if key ∈ keys then [] else s.failures key).Pairwise (· ≤ ·)
      split
      · exact .nil
      · exact inv.sorted key
    · change stamp ∈ if key ∈ keys then [] else s.failures key at member
      split at member
      · cases member
      · exact past key stamp member

def Spares (key : String) (_ : Throttle) (e : Call × ℚ) : Prop :=
  ∀ keys, e.1 = .recordFailure keys → key ∉ keys

def Reopens (s : Throttle) (key : String) (now wait : ℚ) : Prop :=
  ∀ events t, Run Steps (Spares key) (s.after (.retryAfter key, now)) events t →
    ∀ later, t.clock ≤ later → now + wait ≤ later → (retryAfter t.hits key later).1 = none

def Opens (hits : Hits) (key : String) (now : ℚ) : Prop :=
  ∀ bucket, hits.find? key = some bucket →
    ∀ oldest rest, prune bucket.stamps now = oldest :: rest →
      (rest.filter (oldest < ·)).length < KEY_LIMIT

theorem mem_failureStep {key : String} {b : Bucket} (member : b ∈ failureStep now hits key)
    (other : b.key ≠ key) : b ∈ hits := by
  unfold failureStep at member
  obtain ⟨before, -⟩ | rfl := Table.mem_put.mp member
  · cases found : hits.find? key with
    | some bucket =>
      rw [found] at before
      exact before
    | none =>
      rw [found] at before
      dsimp only at before
      split at before
      · unfold evict at before
        dsimp only at before
        split at before
        · exact (Table.mem_filter.mp before).1
        · exact (Table.mem_filter.mp (Table.mem_filter.mp before).1).1
      · exact before
  · exact absurd rfl other

theorem mem_recordFailure {keys : List String} {b : Bucket}
    (member : b ∈ keys.foldl (failureStep now) hits) (other : b.key ∉ keys) : b ∈ hits := by
  induction keys generalizing hits with
  | nil => exact member
  | cons key rest ih =>
    rw [List.mem_cons, not_or] at other
    exact mem_failureStep (ih member other.2) other.1

theorem stamps_of_spared {s t : Throttle} {key : String} {stamps : List ℚ}
    {events : List (Call × ℚ)} (named : key ≠ GLOBAL)
    (run : Run Steps (Spares key) s events t)
    (start : ∀ b ∈ s.hits, b.key = key → b.stamps.Sublist stamps) :
    ∀ b ∈ t.hits, b.key = key → b.stamps.Sublist stamps := by
  refine run.invariant (fun s => ∀ b ∈ s.hits, b.key = key → b.stamps.Sublist stamps) ?_ start
  rintro s ⟨call, now⟩ t held spares stepped b member rfl
  unfold Steps next at stepped
  split at stepped
  case isFalse => cases stepped
  obtain rfl := Option.some.inj stepped
  have shrunk {hits : Hits} (shrinks : Shrinks s.hits hits) (member : b ∈ hits) :
      b.stamps.Sublist stamps := by
    obtain ⟨a, among, same, part⟩ := shrinks.2 b member
    exact part.trans (held a among same)
  cases call with
  | retryAfter other => exact shrunk (retryAfter_shrinks s.hits other now) member
  | delayFor keys => exact shrunk (delay_spec now (keys ++ [GLOBAL]) (0, s.hits)).1 member
  | recordFailure keys =>
    refine held b (mem_recordFailure member ?_) rfl
    simpa [named] using spares keys rfl
  | recordSuccess keys => exact shrunk (recordSuccess_spec s.hits keys).1 member

theorem limitFor_of_ne {key : String} (named : key ≠ GLOBAL) : limitFor key = KEY_LIMIT :=
  if_neg named

theorem retryAfter_some {key : String} {wait : ℚ}
    (refused : (retryAfter hits key now).1 = some wait)
    (named : key ≠ GLOBAL) : ∃ bucket oldest rest, hits.find? key = some bucket ∧
      prune bucket.stamps now = oldest :: rest ∧ KEY_LIMIT ≤ rest.length + 1 ∧
        wait = max 0 (oldest + WINDOW_S - now) ∧
          (retryAfter hits key now).2 = hits.put ⟨key, oldest :: rest⟩ := by
  unfold retryAfter at refused ⊢
  cases found : hits.find? key with
  | none => simp [found] at refused
  | some bucket =>
    simp only [found, limitFor_of_ne named] at refused ⊢
    cases stamps : prune bucket.stamps now with
    | nil => simp [stamps] at refused
    | cons oldest rest =>
      rw [stamps] at refused
      split at refused
      · cases refused
      · rename_i many
        refine ⟨bucket, oldest, rest, rfl, stamps, not_lt.mp many, ?_, rfl⟩
        exact (Option.some.inj refused).symm

theorem reopens_iff {s : Throttle} (inv : Inv s) {key : String} (named : key ≠ GLOBAL) {wait : ℚ}
    (refused : (retryAfter s.hits key now).1 = some wait) :
    Reopens s key now wait ↔ Opens s.hits key now := by
  obtain ⟨bucket, oldest, rest, found, stamps, many, rfl, written⟩ := retryAfter_some refused named
  obtain ⟨member, rfl⟩ := Table.find?_mem found
  have sorted : bucket.stamps.Pairwise (· ≤ ·) :=
    (inv.sorted bucket.key).sublist (inv.holds.stamps bucket member)
  have counted := prune_eq_filter sorted now
  rw [stamps] at counted
  have sorted' : (oldest :: rest).Pairwise (· ≤ ·) := counted ▸ sorted.filter _
  have recent : now - WINDOW_S < oldest := by
    have among : oldest ∈ bucket.stamps.filter (now - WINDOW_S < ·) :=
      counted ▸ List.mem_cons_self
    simpa using (List.mem_filter.mp among).2
  have ends : now + max 0 (oldest + WINDOW_S - now) = oldest + WINDOW_S := by
    rw [max_eq_right (by linarith)]
    linarith
  have left : (oldest :: rest).filter (oldest < ·) = rest.filter (oldest < ·) :=
    List.filter_cons_of_neg (by simp)
  constructor
  · intro reopens other found' oldest' rest' stamps'
    obtain rfl := Option.some.inj (found.symm.trans found')
    obtain ⟨rfl, rfl⟩ := List.cons.inj (stamps.symm.trans stamps')
    have answer := reopens [] _ .refl (oldest + WINDOW_S)
      (by show now ≤ _; linarith) ends.le
    have after : (s.after (.retryAfter bucket.key, now)).hits =
        s.hits.put ⟨bucket.key, oldest :: rest⟩ := written
    have here : (s.hits.put ⟨bucket.key, oldest :: rest⟩).find? bucket.key =
        some ⟨bucket.key, oldest :: rest⟩ :=
      Table.find?_self (a := (⟨bucket.key, oldest :: rest⟩ : Bucket))
        (Table.mem_put.mpr (.inr rfl))
    rw [after] at answer
    simp only [retryAfter, here, limitFor_of_ne named, prune_eq_filter sorted',
      add_sub_cancel_right, left] at answer
    by_contra full
    rw [if_neg full] at answer
    have none := List.head?_eq_none_iff.mp (Option.map_eq_none_iff.mp answer)
    rw [none] at full
    exact full (by decide)
  · intro opens events t run later _ lapsed
    have few := opens bucket found oldest rest stamps
    have start : ∀ b ∈ (s.after (.retryAfter bucket.key, now)).hits, b.key = bucket.key →
        b.stamps.Sublist (oldest :: rest) := by
      intro b among same
      have after : (s.after (.retryAfter bucket.key, now)).hits =
          s.hits.put ⟨bucket.key, oldest :: rest⟩ := written
      rw [after] at among
      obtain ⟨-, other⟩ | rfl := Table.mem_put.mp among
      · exact absurd same other
      · exact .refl _
    have kept := stamps_of_spared named run start
    unfold retryAfter
    cases found' : t.hits.find? bucket.key with
    | none => rfl
    | some bucket' =>
      obtain ⟨member', same⟩ := Table.find?_mem found'
      have part := kept bucket' member' same
      have gone := prune_eq_filter (sorted'.sublist part) later
      have fewer : (prune bucket'.stamps later).length < KEY_LIMIT := by
        rw [gone]
        refine lt_of_le_of_lt ?_ few
        rw [← left]
        refine ((part.filter _).trans (List.monotone_filter_right _ ?_)).length_le
        intro stamp late
        rw [decide_eq_true_eq] at late ⊢
        linarith [ends ▸ lapsed]
      exact if_pos (by rwa [limitFor_of_ne named])

structure Throttled (s : Throttle) : Prop where
  refused : ∀ key ≠ GLOBAL, ∀ now, (retryAfter s.hits key now).1 ≠ none →
    KEY_LIMIT ≤ ((s.failures key).filter (now - WINDOW_S < ·)).length
  reopens : ∀ key ≠ GLOBAL, ∀ now wait, (retryAfter s.hits key now).1 = some wait →
    (Reopens s key now wait ↔ Opens s.hits key now)
  delays : ∀ keys now, (delayFor s.hits keys now).1 ≤ MAX_DELAY_S
  keys : s.hits.rows.length ≤ MAX_KEYS
  stamps : ∀ b ∈ s.hits, b.stamps.length ≤ 4 * GLOBAL_LIMIT

/-- After any calls a key is refused for its own failures alone, and the announced wait is enough
exactly when fewer than the limit of them are later than the oldest. -/
theorem run_throttled (start : ℚ) (events : List (Call × ℚ)) (s : Throttle)
    (run : Run Steps anyStep { clock := start } events s) : Throttled s := by
  have inv : Inv s := run.invariant Inv (fun _ _ _ inv _ stepped => inv.step stepped)
    ⟨⟨by simp, by simp, Nat.zero_le _⟩, by simp, by simp⟩
  refine ⟨fun key named now refused => ?_, fun key named now wait => reopens_iff inv named,
    fun keys now => ?_, inv.holds.few, inv.holds.small⟩
  · obtain ⟨wait, refused⟩ := Option.ne_none_iff_exists'.mp refused
    obtain ⟨bucket, oldest, rest, found, stamps, many, -⟩ := retryAfter_some refused named
    obtain ⟨member, rfl⟩ := Table.find?_mem found
    have known := inv.holds.stamps bucket member
    have counted := prune_eq_filter ((inv.sorted bucket.key).sublist known) now
    rw [stamps] at counted
    refine many.trans ?_
    rw [← List.length_cons, counted]
    exact (known.filter _).length_le
  · exact (delay_spec now (keys ++ [GLOBAL]) (0, s.hits)).2
      (by decide +kernel : (0 : ℚ) ≤ MAX_DELAY_S)

def together : List (Call × ℚ) :=
  (List.range 11).map fun second => (.recordFailure ["ip:a", "user:b"], (second : ℚ))

def crowded : Throttle := together.foldl Throttle.after { clock := 0 }

theorem crowded_run : Run Steps anyStep { clock := 0 } together crowded :=
  run_of_trace next anyStep (by rfl)

theorem run_throttled_crowded :
    Run Steps anyStep { clock := 0 } together crowded ∧ Throttled crowded :=
  ⟨crowded_run, run_throttled 0 together crowded crowded_run⟩

theorem crowded_not_reopened : Run Steps anyStep { clock := 0 } together crowded ∧
    (retryAfter crowded.hits "ip:a" 10).1 = some 890 ∧ ¬Reopens crowded "ip:a" 10 890 := by
  refine ⟨crowded_run, by decide +kernel, fun reopens => ?_⟩
  have answer := reopens [] _ .refl 900 (by decide +kernel) (by decide +kernel)
  exact absurd answer (by decide +kernel)

end DashcamStats.Auth.Ratelimit
