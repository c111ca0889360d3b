import DashcamStats.Settings.Recoercion
import DashcamStats.Settings.Service

namespace DashcamStats.Settings

theorem lookup_cons (row : Row) (rest : List Row) (key : String) :
    (row :: rest).lookup key = if key = row.1 then some row.2 else rest.lookup key := by
  obtain ⟨other, raw⟩ := row
  by_cases same : key = other
  · rw [List.lookup_cons, same, beq_self_eq_true, if_pos rfl]
  · rw [List.lookup_cons, beq_false_of_ne same, if_neg same]

section Reading

variable (host : Host)

def reading (key : String) (stored : Option Raw) : Option Raw × Bool :=
  match settingByKey key, stored with
  | none, _ => (none, false)
  | some defn, none => (some (effectiveDefault host defn), false)
  | some defn, some raw =>
    match coerceSetting host defn raw with
    | .ok value => (some value, true)
    | .error _ => (some (effectiveDefault host defn), false)

def Readable (row : Row) : Prop :=
  ∀ defn, settingByKey row.1 = some defn → coerceSetting host defn row.2 ≠ .error .overflow

variable {host} {rows : List Row} {built : Built} {row : Row} {key : String}

def Built.at (built : Built) (key : String) : Option Raw × Bool :=
  (built.values key, built.explicit key)

theorem buildRow_at (unread : built.at row.1 = reading host row.1 none)
    (readable : Readable host row) :
    ∃ next, buildRow host built row = .ok next ∧ next.at row.1 = reading host row.1 (some row.2) ∧
      ∀ key, key ≠ row.1 → next.at key = built.at key := by
  unfold buildRow
  cases isKey : settingByKey row.1 with
  | none =>
    refine ⟨_, rfl, ?_, fun key _ => rfl⟩
    simpa [reading, isKey, Built.at] using unread
  | some defn =>
    dsimp only
    cases coerced : coerceSetting host defn row.2 with
    | ok value =>
      refine ⟨_, rfl, ?_, fun key other => ?_⟩
      · simp [Built.at, reading, isKey, coerced]
      · simp [Built.at, other]
    | error refusal =>
      cases refusal with
      | validation _ =>
        refine ⟨_, rfl, ?_, fun key _ => rfl⟩
        simpa [reading, isKey, coerced] using unread
      | overflow => exact absurd coerced (readable defn isKey)

theorem buildRow_readable {next : Built} (ends : buildRow host built row = .ok next) :
    Readable host row := by
  intro defn isKey overflow
  unfold buildRow at ends
  rw [isKey] at ends
  dsimp only at ends
  rw [overflow] at ends
  cases ends

theorem foldlM_buildRow (distinct : (rows.map Prod.fst).Nodup)
    (unread : ∀ row ∈ rows, built.at row.1 = reading host row.1 none)
    (readable : ∀ row ∈ rows, Readable host row) :
    ∃ ends, rows.foldlM (buildRow host) built = .ok ends ∧ ∀ key,
      ends.at key =
        (rows.lookup key).elim (built.at key) fun raw => reading host key (some raw) := by
  induction rows generalizing built with
  | nil => exact ⟨built, rfl, fun key => rfl⟩
  | cons row rest ih =>
    simp only [List.map_cons, List.nodup_cons] at distinct
    obtain ⟨next, isNext, here, others⟩ :=
      buildRow_at (unread row List.mem_cons_self) (readable row List.mem_cons_self)
    have apart : ∀ other ∈ rest, other.1 ≠ row.1 := fun other mem same =>
      distinct.1 (same ▸ List.mem_map_of_mem mem)
    obtain ⟨ends, isEnds, reads⟩ := @ih next distinct.2
      (fun other mem => (others other.1 (apart other mem)).trans
        (unread other (List.mem_cons_of_mem _ mem)))
      (fun other mem => readable other (List.mem_cons_of_mem _ mem))
    refine ⟨ends, ?_, fun key => ?_⟩
    · rw [List.foldlM_cons, isNext]
      exact isEnds
    · rw [reads key]
      by_cases same : key = row.1
      · subst same
        have absent : rest.lookup row.1 = none :=
          List.lookup_eq_none_iff.mpr fun other mem => by simpa using (apart other mem).symm
        rw [absent, lookup_cons, if_pos rfl]
        exact here
      · rw [lookup_cons, if_neg same, others key same]

theorem readable_of_foldlM {ends : Built}
    (isEnds : rows.foldlM (buildRow host) built = .ok ends) : ∀ row ∈ rows, Readable host row := by
  induction rows generalizing built with
  | nil => exact fun row mem => by cases mem
  | cons first rest ih =>
    rw [List.foldlM_cons] at isEnds
    obtain ⟨next, isNext, isEnds⟩ := bind_ok isEnds
    intro row mem
    rcases List.mem_cons.mp mem with rfl | mem
    · exact buildRow_readable isNext
    · exact ih isEnds row mem

theorem baseDefaults_at (key : String) (unknown : List String) :
    Built.at ⟨baseDefaults host, fun _ => false, unknown⟩ key = reading host key none := by
  unfold Built.at baseDefaults reading
  cases isKey : settingByKey key <;> simp [isKey]

theorem buildCache_spec (distinct : (rows.map Prod.fst).Nodup)
    (readable : ∀ row ∈ rows, Readable host row) :
    ∃ built, buildCache host rows = .ok built ∧
      ∀ key, built.at key = reading host key (rows.lookup key) := by
  obtain ⟨built, isBuilt, reads⟩ := foldlM_buildRow distinct
    (fun row _ => baseDefaults_at row.1 []) readable
  refine ⟨built, isBuilt, fun key => (reads key).trans ?_⟩
  cases rows.lookup key with
  | none => exact baseDefaults_at key []
  | some raw => rfl

theorem buildCache_reads (distinct : (rows.map Prod.fst).Nodup)
    (isBuilt : buildCache host rows = .ok built) (key : String) :
    built.at key = reading host key (rows.lookup key) := by
  obtain ⟨other, isOther, reads⟩ := buildCache_spec distinct (readable_of_foldlM isBuilt)
  cases isBuilt.symm.trans isOther
  exact reads key

end Reading

section Coherent

-- The cache is what `buildCache` makes of the rows.
def Coherent (host : Host) (core : Core) : Prop :=
  ∃ built, buildCache host core.rows = .ok built ∧ built.values = core.cache ∧
    built.explicit = core.explicit

variable {host : Host} {rows : List Row} {cache : Values} {explicit : String → Bool}
variable {loaded torn : Bool}

theorem coherent_reads (distinct : (rows.map Prod.fst).Nodup)
    (coherent : Coherent host ⟨rows, cache, explicit, loaded, torn⟩) (key : String) :
    (cache key, explicit key) = reading host key (rows.lookup key) := by
  obtain ⟨built, isBuilt, values, explicits⟩ := coherent
  dsimp only at values explicits
  subst values explicits
  exact buildCache_reads distinct isBuilt key

theorem coherent_readable (coherent : Coherent host ⟨rows, cache, explicit, loaded, torn⟩) :
    ∀ row ∈ rows, Readable host row :=
  let ⟨_, isBuilt, _⟩ := coherent
  readable_of_foldlM isBuilt

theorem coherent_of_reads (distinct : (rows.map Prod.fst).Nodup)
    (readable : ∀ row ∈ rows, Readable host row)
    (reads : ∀ key, (cache key, explicit key) = reading host key (rows.lookup key)) :
    Coherent host ⟨rows, cache, explicit, loaded, torn⟩ := by
  obtain ⟨built, isBuilt, same⟩ := buildCache_spec distinct readable
  have together : ∀ key, (built.values key, built.explicit key) = (cache key, explicit key) :=
    fun key => (same key).trans (reads key).symm
  exact ⟨built, isBuilt, funext fun key => (Prod.ext_iff.mp (together key)).1,
    funext fun key => (Prod.ext_iff.mp (together key)).2⟩

end Coherent

section Writing

variable {host : Host} {rows coerced : List Row} {row entry : Row} {key : String}

theorem mem_upsert (mem : row ∈ upsert rows entry) : row = entry ∨ row ∈ rows := by
  induction rows with
  | nil => exact .inl (List.mem_singleton.mp mem)
  | cons first rest ih =>
    unfold upsert at mem
    split at mem
    · exact (List.mem_cons.mp mem).imp id (List.mem_cons_of_mem _)
    · rcases List.mem_cons.mp mem with rfl | mem
      · exact .inr List.mem_cons_self
      · exact (ih mem).imp id (List.mem_cons_of_mem _)

theorem nodup_upsert (distinct : (rows.map Prod.fst).Nodup) (entry : Row) :
    ((upsert rows entry).map Prod.fst).Nodup := by
  induction rows with
  | nil => exact List.nodup_singleton _
  | cons first rest ih =>
    rw [List.map_cons, List.nodup_cons] at distinct
    unfold upsert
    split
    · next same =>
      rw [List.map_cons, List.nodup_cons, ← same]
      exact distinct
    · next apart =>
      rw [List.map_cons, List.nodup_cons]
      refine ⟨fun mem => ?_, ih distinct.2⟩
      obtain ⟨row, mem, same⟩ := List.mem_map.mp mem
      rcases mem_upsert mem with rfl | mem
      · exact apart same.symm
      · exact distinct.1 (same ▸ List.mem_map_of_mem mem)

theorem lookup_upsert (rows : List Row) (entry : Row) (key : String) :
    (upsert rows entry).lookup key =
      if key = entry.1 then some entry.2 else rows.lookup key := by
  induction rows with
  | nil => exact lookup_cons entry [] key
  | cons first rest ih =>
    unfold upsert
    split
    · next here =>
      rw [lookup_cons, lookup_cons, here]
      split <;> rfl
    · next apart =>
      rw [lookup_cons, lookup_cons, ih]
      by_cases same : key = first.1
      · have other : key ≠ entry.1 := fun isEntry => apart (same.symm.trans isEntry)
        rw [if_pos same, if_neg other, if_pos same]
      · rw [if_neg same, if_neg same]

theorem nodup_foldl_upsert (distinct : (rows.map Prod.fst).Nodup) (coerced : List Row) :
    ((coerced.foldl upsert rows).map Prod.fst).Nodup := by
  induction coerced generalizing rows with
  | nil => exact distinct
  | cons entry rest ih => exact ih (nodup_upsert distinct entry)

theorem mem_foldl_upsert (mem : row ∈ coerced.foldl upsert rows) : row ∈ coerced ∨ row ∈ rows := by
  induction coerced generalizing rows with
  | nil => exact .inr mem
  | cons entry rest ih =>
    rcases ih mem with later | mem
    · exact .inl (List.mem_cons_of_mem _ later)
    · rcases mem_upsert mem with rfl | mem
      · exact .inl List.mem_cons_self
      · exact .inr mem

theorem lookup_foldl_upsert (distinct : (coerced.map Prod.fst).Nodup) (rows : List Row)
    (key : String) :
    (coerced.foldl upsert rows).lookup key =
      (coerced.lookup key).elim (rows.lookup key) some := by
  induction coerced generalizing rows with
  | nil => rfl
  | cons entry rest ih =>
    rw [List.map_cons, List.nodup_cons] at distinct
    rw [List.foldl_cons, ih distinct.2, lookup_upsert]
    by_cases same : key = entry.1
    · subst same
      have absent : rest.lookup entry.1 = none := List.lookup_eq_none_iff.mpr fun other mem => by
        have apart : entry.1 ≠ other.1 := fun isOther =>
          distinct.1 (isOther ▸ List.mem_map_of_mem mem)
        simpa using apart
      rw [absent, lookup_cons, if_pos rfl, if_pos rfl]
      rfl
    · rw [if_neg same, lookup_cons, if_neg same]

theorem lookup_filter (rows : List Row) (p : String → Bool) (key : String) :
    (rows.filter fun row => p row.1).lookup key = if p key then rows.lookup key else none := by
  induction rows with
  | nil => simp
  | cons first rest ih =>
    rw [List.filter_cons, lookup_cons]
    split
    · next keeps =>
      rw [lookup_cons, ih]
      by_cases same : key = first.1
      · rw [if_pos same, if_pos same, same, if_pos keeps]
      · rw [if_neg same, if_neg same]
    · next drops =>
      rw [ih]
      by_cases same : key = first.1
      · rw [same, if_neg drops, if_neg drops]
      · rw [if_neg same]

theorem lookup_of_mem (distinct : (coerced.map Prod.fst).Nodup) (mem : entry ∈ coerced) :
    coerced.lookup entry.1 = some entry.2 := by
  induction coerced with
  | nil => cases mem
  | cons first rest ih =>
    rw [List.map_cons, List.nodup_cons] at distinct
    rcases List.mem_cons.mp mem with rfl | mem
    · rw [lookup_cons, if_pos rfl]
    · have apart : entry.1 ≠ first.1 := fun same => distinct.1 (same ▸ List.mem_map_of_mem mem)
      rw [lookup_cons, if_neg apart]
      exact ih distinct.2 mem

theorem mem_of_lookup {raw : Raw} (isThere : rows.lookup key = some raw) : (key, raw) ∈ rows := by
  induction rows with
  | nil => cases isThere
  | cons first rest ih =>
    rw [lookup_cons] at isThere
    by_cases same : key = first.1
    · rw [if_pos same] at isThere
      cases isThere
      exact same ▸ List.mem_cons_self
    · rw [if_neg same] at isThere
      exact List.mem_cons_of_mem _ (ih isThere)

end Writing

section Steps

variable {host : Host} {rows coerced : List Row} {cache : Values} {explicit : String → Bool}
variable {loaded torn : Bool}

def Fixed (host : Host) (coerced : List Row) : Prop :=
  ∀ entry ∈ coerced, ∃ defn, settingByKey entry.1 = some defn ∧
    coerceSetting host defn entry.2 = .ok entry.2

theorem reading_fixed (fixed : Fixed host coerced) {key : String} {raw : Raw}
    (mem : (key, raw) ∈ coerced) : reading host key (some raw) = (some raw, true) := by
  obtain ⟨defn, isKey, again⟩ := fixed _ mem
  dsimp only at isKey again
  simp [reading, isKey, again]

theorem coherent_many (distinct : (rows.map Prod.fst).Nodup)
    (separate : (coerced.map Prod.fst).Nodup) (fixed : Fixed host coerced)
    (coherent : Coherent host ⟨rows, cache, explicit, loaded, torn⟩) :
    Coherent host ⟨coerced.foldl upsert rows, updateAll cache coerced,
      fun key => explicit key || coerced.any (·.1 = key), loaded, torn⟩ := by
  refine coherent_of_reads (nodup_foldl_upsert distinct coerced) (fun row mem => ?_) fun key => ?_
  · rcases mem_foldl_upsert mem with written | kept
    · obtain ⟨defn, isKey, again⟩ := fixed row written
      intro other isOther overflow
      cases isKey.symm.trans isOther
      cases again.symm.trans overflow
    · exact coherent_readable coherent row kept
  · rw [lookup_foldl_upsert separate]
    have reads := coherent_reads distinct coherent key
    cases isWritten : coerced.lookup key with
    | none =>
      have untouched : coerced.any (·.1 = key) = false :=
        List.any_eq_false.mpr fun entry mem same => by
          have isThere := lookup_of_mem separate mem
          rw [of_decide_eq_true same, isWritten] at isThere
          cases isThere
      simpa [updateAll, isWritten, untouched] using reads
    | some raw =>
      have mem := mem_of_lookup isWritten
      have touched : coerced.any (·.1 = key) = true :=
        List.any_eq_true.mpr ⟨_, mem, decide_eq_true rfl⟩
      simpa [updateAll, isWritten, touched] using (reading_fixed fixed mem).symm

theorem lookup_defaultEntries (host : Host) {wanted : List String} (key : String) :
    (defaultEntries host wanted).lookup key =
      if wanted.contains key then (settingByKey key).map (effectiveDefault host) else none := by
  induction wanted with
  | nil => rfl
  | cons first rest ih =>
    unfold defaultEntries at ih ⊢
    rw [List.filterMap_cons]
    by_cases same : key = first
    · subst same
      cases isKey : settingByKey key with
      | none =>
        simp only [Option.map_none, isKey] at ih ⊢
        rw [ih]
        split <;> simp
      | some defn => simp
    · cases isKey : settingByKey first with
      | none => simpa [same] using ih
      | some defn =>
        simp only [Option.map_some, List.lookup_cons, beq_false_of_ne same]
        simpa [same] using ih

theorem coherent_defaults (distinct : (rows.map Prod.fst).Nodup) (wanted : List String)
    (coherent : Coherent host ⟨rows, cache, explicit, loaded, torn⟩) :
    Coherent host ⟨rows.filter fun row => !wanted.contains row.1,
      updateAll cache (defaultEntries host wanted),
      fun key => explicit key && !wanted.contains key, loaded, torn⟩ := by
  have fewer := (List.filter_sublist (l := rows) (p := fun row => !wanted.contains row.1)).map
    Prod.fst
  refine coherent_of_reads (distinct.sublist fewer)
    (fun row mem => coherent_readable coherent row (List.mem_filter.mp mem).1) fun key => ?_
  rw [lookup_filter rows fun key => !wanted.contains key]
  have reads := coherent_reads distinct coherent key
  by_cases isWanted : wanted.contains key
  · have absent : (!wanted.contains key) = false := by simp only [isWanted, Bool.not_true]
    rw [absent, if_neg Bool.false_ne_true, Bool.and_false]
    unfold updateAll
    rw [lookup_defaultEntries, if_pos isWanted]
    cases isKey : settingByKey key with
    | none =>
      have unknown : cache key = none := by
        simp only [reading, isKey] at reads
        exact (Prod.ext_iff.mp reads).1
      simp [reading, isKey, unknown]
    | some defn => simp [reading, isKey]
  · have present : (!wanted.contains key) = true := by simp only [isWanted, Bool.not_false]
    rw [present, if_pos rfl, Bool.and_true]
    unfold updateAll
    rw [lookup_defaultEntries, if_neg isWanted]
    exact reads

end Steps

end DashcamStats.Settings
