import DashcamStats.Settings.Coherence

namespace DashcamStats.Settings

open Relation (ReflTransGen)
open Routine (Kept block atomic)

section Invariant

variable {host : Host} {w w' : World} {i : ℕ}

def Core.Settled (host : Host) (core : Core) : Prop :=
  core.torn = false → core.loaded = true → Coherent host core

structure World.Sound (host : Host) (w : World) : Prop where
  distinct : (w.rows.map Prod.fst).Nodup
  settled : w.lock = none → w.toCore.Settled host
  version : w.version = (w.batches.filter Batch.moved).length
  pending : w.events[w.changeEvent]? = some false
  past : ∀ event, event ≠ w.changeEvent → w.events[event]? ≠ some false
  waiters : ∀ waiter ∈ w.waiters, waiter.2 < w.events.length ∧
    (waiter.2 = w.changeEvent → w.version ≤ waiter.1)

structure Relies (host : Host) (i : ℕ) (w w' : World) : Prop where
  sound : w.Sound host → w'.Sound host
  held : w.lock = some i → w'.lock = some i ∧ w'.toCore = w.toCore

structure Meets (host : Host) (i : ℕ) (w w' : World) : Prop where
  sound : w.Sound host → w'.Sound host
  others : ∀ j, j ≠ i → w.lock = some j → w'.lock = some j ∧ w'.toCore = w.toCore

theorem Meets.refl (w : World) : Meets host i w w := ⟨id, fun _ _ isHeld => ⟨isHeld, rfl⟩⟩

theorem meets_of_held (isHeld : w.lock = some i) (sound : w'.Sound host) : Meets host i w w' :=
  ⟨fun _ => sound, fun _ apart other => absurd (Option.some.inj (other.symm.trans isHeld)) apart⟩

/-- The call holds the lock, and `P` of the core. -/
structure Owned (host : Host) (i : ℕ) (P : Core → Prop) (w : World) : Prop where
  sound : w.Sound host
  held : w.lock = some i
  core : P w.toCore

theorem owned_kept (P : Core → Prop) : Kept (Relies host i) (Owned host i P) := by
  intro w w' owned relies
  obtain ⟨held, same⟩ := relies.held owned.held
  exact ⟨relies.sound owned.sound, held, same ▸ owned.core⟩

theorem sound_kept : Kept (Relies host i) (World.Sound host) :=
  fun _ _ sound relies => relies.sound sound

theorem sound_waits (sound : w.Sound host) (waits : Waits w w') : w'.Sound host := by
  have inRange : w.changeEvent < w.events.length := (List.getElem?_eq_some_iff.mp sound.pending).1
  cases waits with
  | blocks since low =>
    refine { sound with waiters := fun waiter mem => ?_ }
    rcases List.mem_cons.mp mem with rfl | mem
    · exact ⟨inRange, fun _ => low⟩
    · exact sound.waiters waiter mem
  | waitsAgain waiter mem isSet low =>
    refine { sound with waiters := fun other isOther => ?_ }
    rcases List.mem_cons.mp isOther with rfl | isOther
    · exact ⟨inRange, fun _ => low⟩
    · exact sound.waiters other (List.mem_of_mem_erase isOther)
  | returns waiter mem isSet high =>
    refine { sound with waiters := fun other isOther => ?_ }
    exact sound.waiters other (List.mem_of_mem_erase isOther)
  | gives_up waiter mem =>
    refine { sound with waiters := fun other isOther => ?_ }
    exact sound.waiters other (List.mem_of_mem_erase isOther)

theorem relies_waits (waits : Waits w w') : Relies host i w w' :=
  ⟨fun sound => sound_waits sound waits, fun isHeld => by cases waits <;> exact ⟨isHeld, rfl⟩⟩

end Invariant

section Publishing

variable {host : Host} {w : World} {i : ℕ} {cache : Values} {explicit : String → Bool}

theorem sound_release {core : Core} (sound : w.Sound host) (settled : core.Settled host)
    (distinct : (core.rows.map Prod.fst).Nodup) (batches : List Batch)
    (same : (batches.filter Batch.moved).length = w.version) :
    World.Sound host { w with toCore := core, lock := none, batches := batches } :=
  { sound with
    distinct := distinct
    settled := fun _ => settled
    version := same.symm }

theorem sound_bump {core : Core} (sound : w.Sound host) (settled : core.Settled host)
    (distinct : (core.rows.map Prod.fst).Nodup) (batches : List Batch)
    (same : (batches.filter Batch.moved).length = w.version + 1) :
    World.Sound host
      { w.bump with toCore := core, lock := none, batches := batches } := by
  have inRange : w.changeEvent < w.events.length := (List.getElem?_eq_some_iff.mp sound.pending).1
  refine ⟨distinct, fun _ => settled, same.symm, ?_, fun event apart => ?_, fun waiter mem => ?_⟩
  · simp [World.bump]
  · dsimp only [World.bump] at apart ⊢
    rw [List.getElem?_append]
    split
    · next within =>
      by_cases current : w.changeEvent = event
      · subst current
        simp [inRange]
      · rw [List.getElem?_set_ne current]
        exact sound.past event fun same => current same.symm
    · next beyond =>
      have later : event - (w.events.set w.changeEvent true).length ≠ 0 := by
        rw [List.length_set] at beyond ⊢
        omega
      obtain ⟨n, isLater⟩ := Nat.exists_eq_succ_of_ne_zero later
      rw [isLater]
      simp
  · dsimp only [World.bump] at mem ⊢
    obtain ⟨within, _⟩ := sound.waiters waiter mem
    refine ⟨by simp; omega, fun current => ?_⟩
    omega

theorem settingByKey_of_mem {defn : SettingDef} (mem : defn ∈ SETTINGS) :
    settingByKey defn.key = some defn := by
  unfold settingByKey
  cases isThere : SETTINGS.find? (·.key = defn.key) with
  | none => simpa using List.find?_eq_none.mp isThere defn mem
  | some other =>
    have same := List.find?_some isThere
    rw [decide_eq_true_eq] at same
    exact congrArg some (List.inj_on_of_nodup_map settings_nodup
      (List.mem_of_find?_eq_some isThere) mem same)

theorem mem_of_settingByKey {key : String} {defn : SettingDef}
    (isKey : settingByKey key = some defn) : defn ∈ SETTINGS ∧ defn.key = key :=
  ⟨List.mem_of_find?_eq_some isKey, by simpa using List.find?_some isKey⟩

structure Entries (entries : List Row) : Prop where
  found : ∀ entry ∈ entries, entries.lookup entry.1 = some entry.2
  known : ∀ entry ∈ entries, ∃ defn, settingByKey entry.1 = some defn

theorem moved_updateAll {entries : List Row} (isEntries : Entries entries) (before : Values) :
    Batch.moved ⟨before, updateAll before entries, false⟩ = true ↔
      changedEntries before entries ≠ [] := by
  simp only [Batch.moved, Bool.not_false, Bool.true_and, List.any_eq_true, decide_eq_true_eq]
  constructor
  · rintro ⟨defn, mem, moved⟩ unchanged
    unfold updateAll at moved
    cases isWritten : entries.lookup defn.key with
    | none => exact moved (by rw [isWritten])
    | some raw =>
      have changes : before defn.key ≠ some raw := by
        rw [isWritten] at moved
        exact moved
      have mem : (defn.key, raw) ∈ changedEntries before entries :=
        List.mem_filter.mpr ⟨mem_of_lookup isWritten, decide_eq_true changes⟩
      rw [unchanged] at mem
      cases mem
  · intro changed
    obtain ⟨entry, mem⟩ := List.exists_mem_of_ne_nil _ changed
    obtain ⟨mem, changes⟩ := List.mem_filter.mp mem
    obtain ⟨defn, isKey⟩ := isEntries.known entry mem
    obtain ⟨isSetting, same⟩ := mem_of_settingByKey isKey
    refine ⟨defn, isSetting, ?_⟩
    unfold updateAll
    rw [same, isEntries.found entry mem]
    exact of_decide_eq_true changes

theorem sound_adopt {entries : List Row} (isEntries : Entries entries) (sound : w.Sound host)
    (settled : Core.Settled host { w.toCore with
      cache := updateAll w.cache entries, explicit := explicit }) :
    (w.adopt (updateAll w.cache entries) explicit (changedEntries w.cache entries)).release.Sound
      host := by
  have moved := moved_updateAll isEntries w.cache
  unfold World.adopt
  dsimp only
  split
  · next unchanged =>
    have still : Batch.moved ⟨w.cache, updateAll w.cache entries, false⟩ = false :=
      Bool.eq_false_iff.mpr fun isMoved => moved.mp isMoved unchanged
    exact sound_release sound settled sound.distinct
      (⟨w.cache, updateAll w.cache entries, false⟩ :: w.batches) (by
        rw [List.filter_cons, still]
        exact sound.version.symm)
  · next changed =>
    exact sound_bump sound settled sound.distinct
      (⟨w.cache, updateAll w.cache entries, false⟩ :: w.batches) (by
        rw [List.filter_cons, moved.mpr changed, if_pos rfl, List.length_cons, ← sound.version])

theorem moved_items {before after : Values} (total : ∀ defn ∈ SETTINGS, after defn.key ≠ none) :
    Batch.moved ⟨before, after, false⟩ = true ↔ changedEntries before (items after) ≠ [] := by
  simp only [Batch.moved, Bool.not_false, Bool.true_and, List.any_eq_true, decide_eq_true_eq]
  constructor
  · rintro ⟨defn, mem, moved⟩ unchanged
    obtain ⟨value, isValue⟩ := Option.ne_none_iff_exists'.mp (total defn mem)
    have isItem : (defn.key, value) ∈ items after :=
      List.mem_filterMap.mpr ⟨defn, mem, by rw [isValue]; rfl⟩
    have mem : (defn.key, value) ∈ changedEntries before (items after) :=
      List.mem_filter.mpr ⟨isItem, decide_eq_true (isValue ▸ moved)⟩
    rw [unchanged] at mem
    cases mem
  · intro changed
    obtain ⟨entry, mem⟩ := List.exists_mem_of_ne_nil _ changed
    obtain ⟨mem, changes⟩ := List.mem_filter.mp mem
    obtain ⟨defn, isSetting, isItem⟩ := List.mem_filterMap.mp mem
    obtain ⟨value, isValue, rfl⟩ := Option.map_eq_some_iff.mp isItem
    exact ⟨defn, isSetting, isValue ▸ of_decide_eq_true changes⟩

theorem built_total {rows : List Row} {built : Built} (distinct : (rows.map Prod.fst).Nodup)
    (isBuilt : buildCache host rows = .ok built) :
    ∀ defn ∈ SETTINGS, built.values defn.key ≠ none := by
  intro defn mem isNone
  have reads := (Prod.ext_iff.mp (buildCache_reads distinct isBuilt defn.key)).1
  unfold reading at reads
  rw [settingByKey_of_mem mem] at reads
  have absent : built.values defn.key = none := isNone
  cases stored : rows.lookup defn.key with
  | none => simp [Built.at, stored, absent] at reads
  | some raw =>
    simp only [Built.at, stored, absent] at reads
    split at reads <;> cases reads

theorem sound_publishTable (sound : w.Sound host) (settled : w.toCore.Settled host) :
    (publishTable host w.rows w).2.release.Sound host := by
  unfold publishTable
  cases isBuilt : buildCache host w.rows with
  | error refusal => exact sound_release sound settled sound.distinct w.batches sound.version.symm
  | ok built =>
    dsimp only
    have coherent : Core.Settled host { w.toCore with
        cache := built.values, explicit := built.explicit, loaded := true } :=
      fun _ _ => ⟨built, isBuilt, rfl, rfl⟩
    have moved := @moved_items w.cache built.values (built_total sound.distinct isBuilt)
    unfold World.load
    dsimp only
    cases isLoaded : w.loaded with
    | false =>
      -- The first load is the baseline, which bumps nothing.
      simp only [Bool.not_false]
      refine sound_release sound coherent sound.distinct
        (⟨w.cache, built.values, true⟩ :: w.batches) ?_
      simpa [Batch.moved] using sound.version.symm
    | true =>
      simp only [Bool.not_true, if_true]
      split
      · next unchanged =>
        have still : Batch.moved ⟨w.cache, built.values, false⟩ = false :=
          Bool.eq_false_iff.mpr fun isMoved => moved.mp isMoved unchanged
        exact sound_release sound coherent sound.distinct
          (⟨w.cache, built.values, false⟩ :: w.batches) (by
            rw [List.filter_cons, still]
            exact sound.version.symm)
      · next changed =>
        exact sound_bump sound coherent sound.distinct
          (⟨w.cache, built.values, false⟩ :: w.batches) (by
            rw [List.filter_cons, moved.mpr changed, if_pos rfl, List.length_cons,
              ← sound.version])

end Publishing

section Locked

variable {host : Host} {i : ℕ} {w : World} {α : Type}

theorem safe_last {P : World → Prop} {operation : World → α × World}
    (kept : Kept (Relies host i) P) (holds : P w) (isHeld : ∀ w, P w → w.lock = some i)
    (sound : ∀ w, P w → (operation w).2.Sound host) :
    Routine.Safe (Relies host i) (Meets host i) (fun _ => World.Sound host)
      (atomic operation) w := by
  intro t steps outcome mem
  cases List.mem_singleton.mp mem
  have here := kept.steps holds steps
  exact ⟨meets_of_held (isHeld t here) (sound t here),
    fun u later => (sound_kept (i := i)).steps (sound t here) later⟩

-- What the work under the lock leaves: `Ready` for the block that publishes it, or nothing.
def Worked (host : Host) (i : ℕ) (Ready : α → Core → Prop) : Option α → World → Prop
  | some result => Owned host i (Ready result)
  | none => Owned host i (Core.Settled host)

theorem worked_kept (Ready : α → Core → Prop) (result : Option α) :
    Kept (Relies host i) (Worked host i Ready result) := by
  cases result with
  | none => exact owned_kept _
  | some result => exact owned_kept _

theorem locked_safe {work : Routine World (Option α)} {publish : α → World → Reply × World}
    {Ready : α → Core → Prop}
    (works : ∀ w, Owned host i (Core.Settled host) w →
      Routine.Safe (Relies host i) (Meets host i) (Worked host i Ready) work w)
    (publishes : ∀ result w, Owned host i (Ready result) w →
      (publish result w).2.release.Sound host)
    (sound : w.Sound host) :
    Routine.Safe (Relies host i) (Meets host i) (fun _ => World.Sound host)
      (locked i work publish) w := by
  refine Routine.Safe.block sound_kept sound fun t sound outcome mem => ?_
  rcases List.mem_append.mp mem with acquired | cancelled
  · split at acquired
    · next isFree =>
      cases List.mem_singleton.mp acquired
      have owned : Owned host i (Core.Settled host) { t with lock := some i } :=
        ⟨{ sound with settled := fun isFree => by cases isFree }, rfl, sound.settled isFree⟩
      refine ⟨⟨fun _ => owned.sound, fun j _ other => ?_⟩, ?_⟩
      · rw [isFree] at other
        cases other
      · refine Routine.Safe.bind ((works _ owned).mono fun result u worked => ?_)
        cases result with
        | none =>
          refine safe_last (owned_kept _) worked (fun v owned => owned.held) fun v owned => ?_
          exact sound_release owned.sound owned.core owned.sound.distinct v.batches
            owned.sound.version.symm
        | some result =>
          exact safe_last (owned_kept _) worked (fun v owned => owned.held) fun v owned =>
            publishes result v owned
    · cases acquired
  · cases List.mem_singleton.mp cancelled
    exact ⟨.refl t, fun u later => (sound_kept (i := i)).steps sound later⟩

theorem awaited_safe {β : Type} {next : Bool → Routine World β} {Q : β → World → Prop}
    {P : Core → Prop} (owned : Owned host i P w)
    (rest : ∀ went w, Owned host i P w →
      Routine.Safe (Relies host i) (Meets host i) Q (next went) w) :
    Routine.Safe (Relies host i) (Meets host i) Q (awaited >>= next) w := by
  refine Routine.Safe.block (owned_kept P) owned fun t owned outcome mem => ?_
  have same : outcome.2 = t := by
    rcases List.mem_cons.mp mem with rfl | mem
    · rfl
    · exact congrArg Prod.snd (List.mem_singleton.mp mem)
  rw [same]
  exact ⟨.refl t, rest outcome.1 t owned⟩

theorem getRows_safe (rows : List Row) (owned : Owned host i (Core.Settled host) w) :
    Routine.Safe (Relies host i) (Meets host i) (fun _ => Owned host i (Core.Settled host))
      (getRows rows) w := by
  induction rows generalizing w with
  | nil => exact Routine.Safe.pure true (owned_kept _) owned
  | cons row rest ih =>
    refine awaited_safe owned fun went t owned => ?_
    cases went with
    | false => exact Routine.Safe.pure false (owned_kept _) owned
    | true => exact ih owned

def Written (host : Host) (change : List Row → List Row) (core : Core) : Prop :=
  ∃ rows, (rows.map Prod.fst).Nodup ∧ core.rows = change rows ∧
    Core.Settled host { core with rows := rows }

theorem commit_safe {change : List Row → List Row}
    (keeps : ∀ rows : List Row, (rows.map Prod.fst).Nodup → ((change rows).map Prod.fst).Nodup)
    (owned : Owned host i (Core.Settled host) w) :
    Routine.Safe (Relies host i) (Meets host i) (Worked host i fun _ => Written host change)
      (commit change >>= fun committed =>
        if committed = true then pure (some ()) else pure none) w := by
  refine Routine.Safe.block (owned_kept _) owned fun t owned outcome mem => ?_
  have written := keeps t.rows owned.sound.distinct
  simp only [List.mem_cons, List.not_mem_nil, or_false] at mem
  rcases mem with rfl | rfl | rfl
  · have sound : World.Sound host { t with rows := change t.rows } :=
      { owned.sound with
        distinct := written
        settled := fun isFree => by rw [owned.held] at isFree; cases isFree }
    refine ⟨meets_of_held owned.held sound, ?_⟩
    exact Routine.Safe.pure (some ()) (worked_kept _ _)
      ⟨sound, owned.held, t.rows, owned.sound.distinct, rfl, owned.core⟩
  · exact ⟨.refl t, Routine.Safe.pure none (worked_kept (fun _ => Written host change) none) owned⟩
  · have sound : World.Sound host { t with
        rows := change t.rows
        torn := t.torn || decide (change t.rows ≠ t.rows) } :=
      { owned.sound with
        distinct := written
        settled := fun isFree => by rw [owned.held] at isFree; cases isFree }
    refine ⟨meets_of_held owned.held sound, ?_⟩
    refine Routine.Safe.pure none (worked_kept (fun _ => Written host change) none)
      ⟨sound, owned.held, fun intact isLoaded => ?_⟩
    -- An interrupted commit that is not torn has changed nothing.
    simp only [Bool.or_eq_false_iff, decide_eq_false_iff_not, not_not] at intact
    rw [intact.2]
    exact owned.core intact.1 isLoaded

end Locked

section Calls

variable {host : Host} {i : ℕ} {w : World} {values coerced : List Row}
variable {configured internal : Bool}

def Call.Tidy (host : Host) : Call → Prop
  | .setMany _ values _ => ∀ entry ∈ values.entries, ∀ defn,
      settingByKey entry.1 = some defn → Settings.Tidy host defn entry.2
  | .resetMany _ => True
  | .reload => True

theorem coerceEntry_ok {entry stored : Row}
    (coerced : coerceEntry host configured internal entry = .ok stored) :
    stored.1 = entry.1 ∧ ∃ defn, settingByKey entry.1 = some defn ∧
      coerceSetting host defn entry.2 = .ok stored.2 := by
  unfold coerceEntry at coerced
  cases isKey : settingByKey entry.1 with
  | none =>
    rw [isKey] at coerced
    cases coerced
  | some defn =>
    rw [isKey] at coerced
    dsimp only at coerced
    split at coerced
    · cases coerced
    · obtain ⟨value, isValue, coerced⟩ := bind_ok coerced
      split at coerced
      · cases coerced
      · cases coerced
        exact ⟨rfl, defn, rfl, isValue⟩

theorem coerceAll_ok (isCoerced : coerceAll host configured internal values = .ok coerced) :
    coerced.map Prod.fst = values.map Prod.fst ∧ ∀ stored ∈ coerced, ∃ entry ∈ values,
      coerceEntry host configured internal entry = .ok stored := by
  unfold coerceAll at isCoerced
  induction values generalizing coerced with
  | nil =>
    rw [List.mapM_nil] at isCoerced
    cases isCoerced
    exact ⟨rfl, fun _ mem => by cases mem⟩
  | cons entry rest ih =>
    rw [List.mapM_cons] at isCoerced
    obtain ⟨stored, isStored, isCoerced⟩ := bind_ok isCoerced
    obtain ⟨others, areOthers, isCoerced⟩ := bind_ok isCoerced
    cases isCoerced
    obtain ⟨keys, origins⟩ := ih areOthers
    refine ⟨?_, fun row mem => ?_⟩
    · rw [List.map_cons, List.map_cons, keys, (coerceEntry_ok isStored).1]
    · rcases List.mem_cons.mp mem with rfl | mem
      · exact ⟨entry, List.mem_cons_self, isStored⟩
      · obtain ⟨origin, isOrigin, isRow⟩ := origins row mem
        exact ⟨origin, List.mem_cons_of_mem _ isOrigin, isRow⟩

theorem fixed_coerceAll (tidy : ∀ entry ∈ values, ∀ defn, settingByKey entry.1 = some defn →
      Settings.Tidy host defn entry.2)
    (isCoerced : coerceAll host configured internal values = .ok coerced) :
    Fixed host coerced := by
  intro stored mem
  obtain ⟨entry, isEntry, isStored⟩ := (coerceAll_ok isCoerced).2 stored mem
  obtain ⟨same, defn, isKey, isValue⟩ := coerceEntry_ok isStored
  refine ⟨defn, same ▸ isKey, ?_⟩
  exact coerceSetting_again (settings_wellFormed defn (mem_of_settingByKey isKey).1)
    (tidy entry isEntry defn isKey) isValue

theorem publishMany_sound (distinct : (coerced.map Prod.fst).Nodup) (fixed : Fixed host coerced)
    (owned : Owned host i (Written host fun rows => coerced.foldl upsert rows) w) :
    (publishMany coerced w).2.release.Sound host := by
  obtain ⟨rows, separate, changed, settled⟩ := owned.core
  refine sound_adopt ⟨fun entry mem => lookup_of_mem distinct mem, fun entry mem => ?_⟩ owned.sound
    fun intact isLoaded => ?_
  · obtain ⟨defn, isKey, _⟩ := fixed entry mem
    exact ⟨defn, isKey⟩
  · have coherent := coherent_many separate distinct fixed (settled intact isLoaded)
    dsimp only at changed
    rw [← changed] at coherent
    exact coherent

theorem entries_defaultEntries (wanted : List String) : Entries (defaultEntries host wanted) := by
  have isDefault : ∀ entry ∈ defaultEntries host wanted, wanted.contains entry.1 = true ∧
      ∃ defn, settingByKey entry.1 = some defn ∧ entry.2 = effectiveDefault host defn := by
    intro entry mem
    obtain ⟨key, isWanted, isEntry⟩ := List.mem_filterMap.mp mem
    obtain ⟨defn, isKey, rfl⟩ := Option.map_eq_some_iff.mp isEntry
    exact ⟨List.contains_iff_mem.mpr isWanted, defn, isKey, rfl⟩
  refine ⟨fun entry mem => ?_, fun entry mem => ?_⟩
  · obtain ⟨isWanted, defn, isKey, isValue⟩ := isDefault entry mem
    rw [lookup_defaultEntries, if_pos isWanted, isKey, isValue]
    rfl
  · obtain ⟨_, defn, isKey, _⟩ := isDefault entry mem
    exact ⟨defn, isKey⟩

theorem publishDefaults_sound (wanted : List String)
    (owned : Owned host i
      (Written host fun rows => rows.filter fun row => !wanted.contains row.1) w) :
    (publishDefaults host wanted w).2.release.Sound host := by
  obtain ⟨rows, separate, changed, settled⟩ := owned.core
  refine sound_adopt (entries_defaultEntries wanted) owned.sound fun intact isLoaded => ?_
  have coherent := coherent_defaults separate wanted (settled intact isLoaded)
  dsimp only at changed
  rw [← changed] at coherent
  exact coherent

theorem setMany_safe (mapping : Mapping)
    (tidy : Call.Tidy host (.setMany configured mapping internal)) (sound : w.Sound host) :
    Routine.Safe (Relies host i) (Meets host i) (fun _ => World.Sound host)
      (setMany host i configured mapping.entries internal) w := by
  unfold setMany
  split
  · exact Routine.Safe.pure _ sound_kept sound
  · exact Routine.Safe.pure _ sound_kept sound
  · next coerced _ isCoerced =>
    have distinct : (coerced.map Prod.fst).Nodup :=
      (coerceAll_ok isCoerced).1 ▸ mapping.nodup
    refine @locked_safe host i w Unit _ _
      (fun _ => Written host fun rows => coerced.foldl upsert rows)
      (fun t owned => Routine.Safe.bind ((getRows_safe coerced owned).mono fun went u owned => ?_))
      (fun _ t owned => publishMany_sound distinct (fixed_coerceAll tidy isCoerced) owned) sound
    cases went with
    | false => exact Routine.Safe.pure none (worked_kept _ none) owned
    | true => exact commit_safe (fun rows separate => nodup_foldl_upsert separate coerced) owned

theorem resetMany_safe (keys : List String) (sound : w.Sound host) :
    Routine.Safe (Relies host i) (Meets host i) (fun _ => World.Sound host)
      (resetMany host i keys) w := by
  unfold resetMany
  dsimp only
  split
  · exact Routine.Safe.pure _ sound_kept sound
  · split
    · exact Routine.Safe.pure _ sound_kept sound
    · refine @locked_safe host i w Unit _ _
        (fun _ => Written host fun rows => rows.filter fun row => !keys.eraseDups.contains row.1)
        (fun t owned => awaited_safe owned fun went u owned => ?_)
        (fun _ t owned => publishDefaults_sound keys.eraseDups owned) sound
      cases went with
      | false => exact Routine.Safe.pure none (worked_kept _ none) owned
      | true =>
        refine commit_safe (fun rows separate => ?_) owned
        exact separate.sublist (List.filter_sublist.map Prod.fst)

theorem reload_safe (sound : w.Sound host) :
    Routine.Safe (Relies host i) (Meets host i) (fun _ => World.Sound host) (reload host i) w := by
  refine @locked_safe host i w (List Row) _ _
    (fun rows core => core.rows = rows ∧ core.Settled host)
    (fun t owned u steps outcome mem => ?_) (fun rows t owned => ?_) sound
  · have owned := (owned_kept _).steps owned steps
    simp only [List.mem_cons, List.not_mem_nil, or_false] at mem
    rcases mem with rfl | rfl
    · exact ⟨.refl u, Routine.Safe.pure (some u.rows) (worked_kept _ _)
        ⟨owned.sound, owned.held, rfl, owned.core⟩⟩
    · exact ⟨.refl u, Routine.Safe.pure none (worked_kept
        (fun rows core => core.rows = rows ∧ core.Settled host) none) owned⟩
  · obtain ⟨rfl, settled⟩ := owned.core
    exact sound_publishTable owned.sound settled

theorem compatible (host : Host) :
    Tasks.Compatible Waits (Programs host (Call.Tidy host)) (Relies host) (Meets host)
      (World.Sound host) (fun _ _ => True) where
  safe := by
    rintro i program ⟨call, tidy, rfl⟩ s sound _
    have ends : ∀ (reply : Reply) t, t.Sound host → Routine.Safe (Relies host i) (Meets host i)
        (fun _ _ => True) (pure () : Routine World Unit) t :=
      fun _ _ _ _ _ => trivial
    refine Routine.Safe.bind (Routine.Safe.mono (Q := fun _ => World.Sound host) ?_ ends)
    cases call with
    | setMany configured values internal => exact setMany_safe values tidy sound
    | resetMany keys => exact resetMany_safe keys sound
    | reload => exact reload_safe sound
  kept _ _ _ sound meets := meets.sound sound
  others i j _ _ apart _ meets := ⟨meets.sound, fun isHeld => meets.others j apart.symm isHeld⟩
  env_kept _ _ sound waits := sound_waits sound waits
  env_rely _ _ _ _ waits := relies_waits waits

theorem start_sound (host : Host) (table : Mapping) :
    (World.start host table.entries).Sound host where
  distinct := table.nodup
  settled _ _ isLoaded := by cases isLoaded
  version := rfl
  pending := rfl
  past event apart := by
    dsimp only [World.start] at apart ⊢
    cases event with
    | zero => exact absurd rfl apart
    | succ event => simp
  waiters waiter mem := by cases mem

end Calls

section Claim

/-- The cache is what the table gives, each batch that moved a value counts once, and who still
waits was asked for a later version. -/
structure World.Agrees (host : Host) (w : World) : Prop where
  cache : w.lock = none → w.loaded = true → Coherent host w.toCore
  version : w.version = (w.batches.filter Batch.moved).length
  waiters : ∀ waiter ∈ w.waiters, w.events[waiter.2]? = some false → w.version ≤ waiter.1

theorem agrees_of_sound {host : Host} {w : World} (sound : w.Sound host) (intact : w.torn = false) :
    w.Agrees host where
  cache isFree isLoaded := sound.settled isFree intact isLoaded
  version := sound.version
  waiters waiter mem unset := by
    refine (sound.waiters waiter mem).2 ?_
    by_contra apart
    exact sound.past waiter.2 apart unset

end Claim

section Runs

-- A deployment whose file system has no links below `/dashcam`
def plainHost : Host where
  home _ := none
  floatText _ := "0.0".toList
  resolve path := path
  footageDir := "/dashcam".toList
  tz := none
  zoneKnown _ := true
  home_plain _ _ isHome := by cases isHome
  floatText_plain _ := by decide

def emptyTable : Mapping := ⟨[], List.nodup_nil⟩

def runOnce (call : Call) (turns : ℕ) : Tasks World :=
  let loaded := ((Tasks.idle (World.start plainHost [])).begin 0
    (Call.reload.run plainHost 0 >>= fun _ => pure ())).turns (List.replicate 3 0)
  (loaded.begin 1 (call.run plainHost 1 >>= fun _ => pure ())).turns (List.replicate turns 1)

theorem steps_runOnce {allowed : Call → Prop} (reloads : allowed .reload) {call : Call}
    (allows : allowed call) (turns : ℕ) :
    ReflTransGen (Step plainHost allowed) (Tasks.idle (World.start plainHost []))
      (runOnce call turns) :=
  ((Tasks.steps_begin _ 0 rfl ⟨.reload, reloads, rfl⟩).trans (Tasks.steps_turns _ _)).trans
    ((Tasks.steps_begin _ 1 rfl ⟨call, allows, rfl⟩).trans (Tasks.steps_turns _ _))

def widthCall : Call :=
  .setMany false ⟨[("general.thumbnail_width", .str "2,000".toList)], List.nodup_singleton _⟩ false

def blankCall : Call :=
  .setMany false ⟨[("general.footage_dir", .str "/dashcam/a /".toList)], List.nodup_singleton _⟩
    false

theorem widthCall_tidy : Call.Tidy plainHost widthCall := by
  have noPath : (settingByKey "general.thumbnail_width").all (fun defn => defn.type ≠ .path) := by
    decide +kernel
  intro entry mem defn isKey isPath
  cases List.mem_singleton.mp mem
  rw [isKey] at noPath
  exact absurd isPath (of_decide_eq_true noPath)

end Runs

end DashcamStats.Settings
