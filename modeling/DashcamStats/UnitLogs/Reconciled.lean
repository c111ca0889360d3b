import DashcamStats.UnitLogs.Overrides

namespace DashcamStats.UnitLogs

open Relation

theorem unset_ne_nil : unset ≠ [] := by decide

theorem getprop_plain {value : Text} (nonempty : value ≠ []) (last : value.getLast? ≠ some '\n') :
    getprop value = value := by
  have same : value.rdropWhile (· = '\n') = value := by
    refine List.rdropWhile_eq_self_iff.mpr fun _ => ?_
    intro ends
    have ends : value.getLast nonempty = '\n' := by simpa using ends
    exact last (by rw [List.getLast?_eq_some_getLast nonempty, ends])
  simp [getprop, same, nonempty]

def Readable (value : Text) : Prop := setting (getprop value) = value

theorem readable_nil : Readable [] := rfl

theorem readable_of_plain {value : Text} (set : value ≠ unset) (last : value.getLast? ≠ some '\n') :
    Readable value := by
  by_cases empty : value = []
  · rw [empty]
    exact readable_nil
  · rw [Readable, getprop_plain empty last, setting, if_neg set]

theorem getprop_setting {level : Text} (fit : level = unset ∨ safeLevel level = true) :
    getprop (setting level) = level ∧ Readable (setting level) := by
  by_cases blank : level = unset
  · rw [blank]
    exact ⟨rfl, rfl⟩
  · have safe := fit.resolve_left blank
    have graphic := graphic_of_level fit
    have nonempty : level ≠ [] := by
      rintro rfl
      simp [safeLevel] at safe
    have last : level.getLast? ≠ some '\n' := by
      intro ends
      have among : '\n' ∈ level := List.mem_of_getLast? ends
      exact absurd (graphic _ among).1 (by decide)
    have same : setting level = level := if_neg blank
    rw [same]
    exact ⟨getprop_plain nonempty last, readable_of_plain blank last⟩

theorem acceptable_fit {value : Text} (fit : acceptable (getprop value) = true) :
    getprop value = unset ∨ safeLevel (getprop value) = true := by
  have nonempty : getprop value ≠ [] := by
    unfold getprop
    dsimp only
    split
    · exact unset_ne_nil
    · assumption
  simp only [acceptable, Bool.and_eq_true, Bool.or_eq_true, decide_eq_true_eq] at fit
  obtain ⟨chars | blank, short⟩ := fit
  · exact .inr (by simpa [safeLevel, nonempty, short] using chars)
  · exact .inl blank

def Record.Matches (record : Record) (current : Text) : Prop :=
  current = record.previous ∨ current = record.target

theorem planTag_spec {tag : Text} {prior : Option Record} {desired : Option Text} {current : Text}
    {entry : Entry} (h : planTag tag prior desired current = some entry) :
    entry.tag = tag ∧ entry.before = current ∧
    ((desired = some entry.target ∧ entry.keep = true) ∨
      (desired = none ∧ entry.keep = false ∧ entry.target = entry.original)) ∧
    ((∃ record, prior = some record ∧ record.Matches current ∧ entry.original = record.original) ∨
      (prior = none ∧ legacy tag = true ∧ current = ['E'] ∧ entry.original = unset) ∨
      ((∀ record, prior = some record → ¬ record.Matches current) ∧ entry.original = current)) := by
  cases prior with
  | none =>
    by_cases inherited : legacy tag = true ∧ current = ['E']
    all_goals cases desired <;> simp_all [planTag]
    all_goals subst h
    all_goals simp_all
  | some record =>
    by_cases managed : record.Matches current
    all_goals cases desired <;> simp_all [planTag, Record.Matches]
    all_goals subst h
    all_goals simp_all

theorem planTag_desired (tag : Text) (prior : Option Record) (level current : Text) :
    ∃ entry, planTag tag prior (some level) current = some entry :=
  ⟨_, rfl⟩

theorem planTag_managed {record : Record} {current : Text} (managed : record.Matches current)
    (tag : Text) (desired : Option Text) :
    ∃ entry, planTag tag (some record) desired current = some entry := by
  cases desired with
  | some level => exact planTag_desired tag (some record) level current
  | none =>
    obtain same | same := managed
    · exact ⟨⟨tag, record.original, current, record.original, false⟩, by simp [planTag, same]⟩
    · exact ⟨⟨tag, record.original, current, record.original, false⟩, by simp [planTag, same]⟩

theorem mem_setupTags {levels : Levels} {previous : List Record} {tag : Text} :
    tag ∈ setupTags levels previous ↔
      tag ∈ levels.map Prod.fst ∨ tag ∈ previous.map Record.tag ∨ tag ∈ legacyAllowTags := by
  simp only [setupTags, List.mem_insertionSort, List.mem_dedup, List.mem_append, or_assoc]

theorem nodup_setupTags (levels : Levels) (previous : List Record) :
    (setupTags levels previous).Nodup :=
  (List.perm_insertionSort _ _).nodup_iff.mpr (List.nodup_dedup _)

structure Record.Blank (record : Record) : Prop where
  previous : record.previous = unset → record.original = unset
  target : record.target = unset → record.original = unset

structure World.Kept (world : World) (records : List Record) : Prop where
  left : (world.head.receipt = none ∧ records = []) ∨
    ∃ file, world.head.receipt = some file ∧ file.text = receiptText records
  fit : Fit records
  blank : ∀ record ∈ records, record.Blank
  origin : ∀ record ∈ records, record.Matches (getprop (world.head.props record.tag)) →
    world.Origin record.tag record.original
  stands : ∀ record ∈ records, world.stands record.tag = true →
    record.Matches (getprop (world.head.props record.tag))
  mine : ∀ tag, world.ours tag = true → ∃ record ∈ records, record.tag = tag ∧
    record.Matches (getprop (world.head.props tag))
  free : ∀ tag, world.ours tag = false → world.head.props tag = world.found tag
  recorded : ∀ record ∈ records, ∀ level ∈ record.levels, level ∈ world.recorded record.tag
  readable : ∀ tag, Readable (world.head.props tag)

structure World.Due (world : World) (levels : Levels) (entry : Entry) : Prop where
  fit : entry.pending.Fit
  blank : entry.pending.Blank
  origin : world.Origin entry.tag entry.original
  kind : (levels.lookup entry.tag = some entry.target ∧ entry.keep = true ∧
      entry.target ≠ unset) ∨
    (levels.lookup entry.tag = none ∧ entry.keep = false ∧ entry.target = entry.original)

structure World.Planned (world : World) (levels : Levels) (done rest : List Entry) : Prop where
  apart : ((done ++ rest).map Entry.tag).Nodup
  few : (done ++ rest).length ≤ maxManagedTags
  due : ∀ entry ∈ done ++ rest, world.Due levels entry
  before : ∀ entry ∈ rest, entry.before = getprop (world.head.props entry.tag)
  after : ∀ entry ∈ done, world.head.props entry.tag = setting entry.target
  covers : ∀ tag level, levels.lookup tag = some level → tag ∈ (done ++ rest).map Entry.tag
  frees : ∀ tag, levels.lookup tag = none → world.ours tag = true → tag ∈ rest.map Entry.tag

structure World.Sound (world : World) (records : List Record) : Prop where
  kept : world.Kept records
  control : match world.head.control with
    | .idle => True
    | .planned levels plan => world.Planned levels [] plan
    | .applying levels done rest =>
      records = (done ++ rest).map Entry.pending ∧ world.Planned levels done rest

variable {world : World} {records : List Record} {levels : Levels}

theorem Fit.find {record : Record} (fit : Fit records) (among : record ∈ records) :
    priorOf records record.tag = some record := by
  obtain ⟨found, h⟩ : ∃ found, priorOf records record.tag = some found := by
    refine Option.isSome_iff_exists.mp (List.find?_isSome.mpr ⟨record, among, by simp⟩)
  have same : found.tag = record.tag := by simpa using List.find?_some h
  rw [h, List.inj_on_of_nodup_map fit.apart (List.mem_of_find?_eq_some h) among same]

theorem World.Kept.origin_of_plan (kept : world.Kept records) {tag : Text} {desired : Option Text}
    {entry : Entry}
    (h : planTag tag (priorOf records tag) desired (getprop (world.head.props tag)) = some entry) :
    world.Origin tag entry.original ∧ (entry.before = unset → entry.original = unset) := by
  obtain ⟨-, before, -, from_⟩ := planTag_spec h
  have free : (∀ record ∈ records, record.tag = tag →
      ¬ record.Matches (getprop (world.head.props tag))) →
      world.head.props tag = world.found tag := by
    intro none
    refine kept.free tag (Bool.eq_false_iff.mpr fun ours => ?_)
    obtain ⟨record, among, same, managed⟩ := kept.mine tag ours
    exact none record among same managed
  obtain ⟨record, prior, managed, same⟩ | ⟨prior, old, current, same⟩ | ⟨none, same⟩ := from_
  · have among := List.mem_of_find?_eq_some prior
    have tagged : record.tag = tag := by simpa using List.find?_some prior
    subst tagged
    have blank := kept.blank record among
    rw [same, before]
    refine ⟨kept.origin record among managed, fun empty => ?_⟩
    obtain first | second := managed
    · exact blank.previous (first ▸ empty)
    · exact blank.target (second ▸ empty)
  · have unmanaged : ∀ record ∈ records, record.tag = tag →
        ¬ record.Matches (getprop (world.head.props tag)) := by
      intro record among tagged
      subst tagged
      simp [kept.fit.find among] at prior
    have found := free unmanaged
    have level : world.head.props tag = ['E'] := by
      rw [← kept.readable tag, current]
      rfl
    exact ⟨.inr ⟨old, found ▸ level, same⟩, fun _ => same⟩
  · have unmanaged : ∀ record ∈ records, record.tag = tag →
        ¬ record.Matches (getprop (world.head.props tag)) := by
      intro record among tagged
      subst tagged
      exact none record (kept.fit.find among)
    refine ⟨.inl ?_, fun empty => ?_⟩
    · rw [same, kept.readable tag]
      exact free unmanaged
    · rw [same, ← before, empty]

theorem filterMap_tags {tags : List Text} {f : Text → Option Entry}
    (tagged : ∀ tag entry, f tag = some entry → entry.tag = tag) :
    ((tags.filterMap f).map Entry.tag).Sublist tags := by
  induction tags with
  | nil => simp
  | cons tag rest ih =>
    cases h : f tag with
    | none => simpa [h] using ih.cons tag
    | some entry =>
      have same := tagged tag entry h
      simpa [h, same] using ih.cons_cons tag

theorem lookup_level {levels : Levels} {tag level : Text} (h : levels.lookup tag = some level) :
    (tag, level) ∈ levels := by
  obtain ⟨before, after, rfl, -⟩ := List.lookup_eq_some_iff.mp h
  simp

theorem level_fit {level : Text} (policy : level = ['E'] ∨ level = ['F'] ∨ level = ['S']) :
    level ≠ unset ∧ safeLevel level = true := by
  obtain rfl | rfl | rfl := policy <;> decide

theorem World.Kept.plans (kept : world.Kept records) {entries : List Entry}
    (checked : accepted levels records = true)
    (h : plan levels records world.head.props = some entries) :
    world.Planned levels [] entries := by
  simp only [accepted, Bool.and_eq_true, decide_eq_true_eq, List.all_eq_true] at checked
  obtain ⟨⟨few, safe⟩, policy⟩ := checked
  unfold plan at h
  dsimp only at h
  split at h
  case isFalse => simp at h
  case isTrue acceptable =>
    have acceptable := List.all_eq_true.mp acceptable
    have same := (Option.some.inj h).symm
    have tagged : ∀ tag entry, planTag tag (priorOf records tag) (levels.lookup tag)
        (getprop (world.head.props tag)) = some entry → entry.tag = tag :=
      fun tag entry made => (planTag_spec made).1
    have part : (entries.map Entry.tag).Sublist (setupTags levels records) :=
      same ▸ filterMap_tags tagged
    have made : ∀ entry ∈ entries, entry.tag ∈ setupTags levels records ∧
        planTag entry.tag (priorOf records entry.tag) (levels.lookup entry.tag)
          (getprop (world.head.props entry.tag)) = some entry := by
      intro entry among
      rw [same] at among
      obtain ⟨tag, listed, made⟩ := List.mem_filterMap.mp among
      have here := tagged tag entry made
      subst here
      exact ⟨listed, made⟩
    have listed : ∀ tag ∈ setupTags levels records, ∀ entry, planTag tag (priorOf records tag)
        (levels.lookup tag) (getprop (world.head.props tag)) = some entry →
        tag ∈ entries.map Entry.tag := by
      intro tag among entry made
      refine List.mem_map.mpr ⟨entry, ?_, tagged tag entry made⟩
      rw [same]
      exact List.mem_filterMap.mpr ⟨tag, among, made⟩
    constructor
    · exact part.nodup (nodup_setupTags levels records)
    · have short := part.length_le
      rw [List.length_map] at short
      exact short.trans few
    · intro entry among
      obtain ⟨listed, made⟩ := made entry among
      obtain ⟨-, before, kind, from_⟩ := planTag_spec made
      obtain ⟨origin, blank⟩ := kept.origin_of_plan made
      have current := acceptable_fit (acceptable entry.tag listed)
      have original : entry.original = unset ∨ safeLevel entry.original = true := by
        obtain ⟨record, prior, -, same⟩ | ⟨-, -, -, same⟩ | ⟨-, same⟩ := from_
        · rw [same]
          exact (kept.fit.each record (List.mem_of_find?_eq_some prior)).original
        · exact .inl same
        · exact same ▸ current
      have target : (levels.lookup entry.tag = some entry.target ∧ entry.keep = true ∧
          entry.target ≠ unset ∧ safeLevel entry.target = true) ∨
          (levels.lookup entry.tag = none ∧ entry.keep = false ∧
            entry.target = entry.original) := by
        obtain ⟨desired, keep⟩ | dropped := kind
        · have asked := policy _ (lookup_level desired)
          simp only [Bool.or_eq_true, decide_eq_true_eq, or_assoc] at asked
          exact .inl ⟨desired, keep, level_fit asked⟩
        · exact .inr dropped
      have fit : entry.target = unset ∨ safeLevel entry.target = true := by
        obtain ⟨-, -, -, fit⟩ | ⟨-, -, same⟩ := target
        · exact .inr fit
        · exact same ▸ original
      have untargeted : entry.target = unset → entry.original = unset := by
        obtain ⟨-, -, set, -⟩ | ⟨-, -, same⟩ := target
        · exact fun empty => absurd empty set
        · exact fun empty => same.symm.trans empty
      have prior : entry.before = unset ∨ safeLevel entry.before = true := before ▸ current
      constructor
      · exact ⟨safe entry.tag listed, original, prior, fit⟩
      · exact ⟨blank, untargeted⟩
      · exact origin
      · obtain ⟨desired, keep, set, -⟩ | dropped := target
        · exact .inl ⟨desired, keep, set⟩
        · exact .inr dropped
    · intro entry among
      exact (planTag_spec (made entry among).2).2.1
    · simp
    · intro tag level desired
      obtain ⟨entry, made⟩ := planTag_desired tag (priorOf records tag) level
        (getprop (world.head.props tag))
      refine listed tag ?_ entry (desired ▸ made)
      exact mem_setupTags.mpr (.inl (List.mem_map.mpr ⟨_, lookup_level desired, rfl⟩))
    · intro tag dropped ours
      obtain ⟨record, among, rfl, managed⟩ := kept.mine tag ours
      obtain ⟨entry, made⟩ := planTag_managed managed record.tag (levels.lookup record.tag)
      refine listed record.tag ?_ entry (by rw [kept.fit.find among, made])
      exact mem_setupTags.mpr (.inr (.inl (List.mem_map.mpr ⟨record, among, rfl⟩)))

theorem mem_recorded {record : Record} (among : record ∈ records) {level : Text}
    (listed : level ∈ record.levels) (recorded : Text → List Text) :
    level ∈ recorded record.tag ++
      (records.filter fun other => other.tag = record.tag).flatMap Record.levels :=
  List.mem_append_right _ (List.mem_flatMap.mpr ⟨record, List.mem_filter.mpr ⟨among, by simp⟩,
    listed⟩)

theorem World.Planned.due_of_mem {done rest : List Entry} (planned : world.Planned levels done rest)
    {record : Record} (among : record ∈ (done ++ rest).map Entry.pending) :
    ∃ entry ∈ done ++ rest, entry.pending = record ∧ world.Due levels entry := by
  obtain ⟨entry, listed, rfl⟩ := List.mem_map.mp among
  exact ⟨entry, listed, rfl, planned.due entry listed⟩

theorem World.Planned.fit {done rest : List Entry} (planned : world.Planned levels done rest) :
    Fit ((done ++ rest).map Entry.pending) where
  each record among := by
    obtain ⟨entry, -, rfl, due⟩ := planned.due_of_mem among
    exact due.fit
  apart := by
    rw [List.map_map]
    exact planned.apart
  few := by
    rw [List.length_map]
    exact planned.few

theorem World.Sound.published (sound : world.Sound records) {plan : List Entry}
    (control : world.head.control = .planned levels plan) (device inode uid : UInt64) :
    World.Sound { world.leave (plan.map Entry.pending) with
      head := { world.head with
        receipt := some ⟨device, inode, uid, receiptText (plan.map Entry.pending)⟩
        control := .applying levels [] plan } } (plan.map Entry.pending) := by
  have planned : world.Planned levels [] plan := by
    have h := sound.control
    rw [control] at h
    exact h
  have kept := sound.kept
  have reads : ∀ record ∈ plan.map Entry.pending,
      record.Matches (getprop (world.head.props record.tag)) := by
    intro record among
    obtain ⟨entry, listed, rfl⟩ := List.mem_map.mp among
    exact .inl (planned.before entry listed).symm
  refine ⟨⟨.inr ⟨_, rfl, rfl⟩, planned.fit, ?_, ?_, fun record among _ => reads record among, ?_,
    kept.free, fun record among level listed => mem_recorded among listed _, kept.readable⟩,
    by simp, ⟨planned.apart, planned.few, fun entry among => ?_, planned.before, planned.after,
      planned.covers, planned.frees⟩⟩
  · intro record among
    obtain ⟨entry, -, rfl, due⟩ := planned.due_of_mem among
    exact due.blank
  · intro record among _
    obtain ⟨entry, -, rfl, due⟩ := planned.due_of_mem among
    exact due.origin
  · intro tag ours
    have listed : tag ∈ plan.map Entry.tag := by
      cases desired : levels.lookup tag with
      | none => exact planned.frees tag desired ours
      | some level => exact planned.covers tag level desired
    obtain ⟨entry, among, rfl⟩ := List.mem_map.mp listed
    exact ⟨entry.pending, List.mem_map.mpr ⟨entry, among, rfl⟩, rfl,
      reads _ (List.mem_map.mpr ⟨entry, among, rfl⟩)⟩
  · have due := planned.due entry among
    exact ⟨due.fit, due.blank, due.origin, due.kind⟩

def World.apply (levels : Levels) (done : List Entry) (entry : Entry) (rest : List Entry)
    (world : World) : World :=
  { world.write entry with
    head := { world.head with
      props := Function.update world.head.props entry.tag (setting entry.target)
      control := .applying levels (done ++ [entry]) rest } }

variable {done rest : List Entry} {entry : Entry}

theorem World.apply_props (tag : Text) : (world.apply levels done entry rest).head.props tag =
    if tag = entry.tag then setting entry.target else world.head.props tag := by
  simp [World.apply, Function.update_apply]

theorem World.apply_ours (tag : Text) : (world.apply levels done entry rest).ours tag =
    if tag = entry.tag then entry.keep else world.ours tag := by
  simp [World.apply, World.write, Function.update_apply]

theorem World.apply_found (tag : Text) : (world.apply levels done entry rest).found tag =
    if tag = entry.tag ∧ entry.keep = false then setting entry.target else world.found tag := by
  cases keep : entry.keep <;> simp [World.apply, World.write, keep, Function.update_apply]

theorem World.Due.apply {other : Entry} (due : world.Due levels other)
    (given : entry.keep = false → other.tag = entry.tag → other.original = entry.target) :
    (world.apply levels done entry rest).Due levels other := by
  refine ⟨due.fit, due.blank, ?_, due.kind⟩
  by_cases back : other.tag = entry.tag ∧ entry.keep = false
  · refine .inl ?_
    rw [World.apply_found, if_pos back, given back.2 back.1]
  · have same : (world.apply levels done entry rest).found other.tag = world.found other.tag := by
      rw [World.apply_found, if_neg back]
    simpa only [World.Origin, same] using due.origin

theorem World.Sound.applied (sound : world.Sound records)
    (control : world.head.control = .applying levels done (entry :: rest)) :
    (world.apply levels done entry rest).Sound records := by
  obtain ⟨plan, planned⟩ : records = (done ++ entry :: rest).map Entry.pending ∧
      world.Planned levels done (entry :: rest) := by
    have h := sound.control
    rw [control] at h
    exact h
  have kept := sound.kept
  have list : done ++ [entry] ++ rest = done ++ entry :: rest := by simp
  have apart := planned.apart
  rw [List.map_append, List.map_cons, List.nodup_append, List.nodup_cons] at apart
  obtain ⟨-, ⟨later, -⟩, earlier⟩ := apart
  have mine : ∀ other ∈ done ++ entry :: rest, other.tag = entry.tag → other = entry :=
    fun other among same => List.inj_on_of_nodup_map planned.apart among (by simp) same
  have due := planned.due entry (by simp)
  have reads := getprop_setting due.fit.target
  have dues : ∀ other ∈ done ++ entry :: rest,
      (world.apply levels done entry rest).Due levels other := by
    refine fun other among => (planned.due other among).apply fun back same => ?_
    rw [mine other among same]
    obtain ⟨-, keep, -⟩ | ⟨-, -, target⟩ := due.kind
    · simp [back] at keep
    · exact target.symm
  have dueOf : ∀ record ∈ records, ∃ other ∈ done ++ entry :: rest, other.pending = record ∧
      (world.apply levels done entry rest).Due levels other := by
    intro record among
    rw [plan] at among
    obtain ⟨other, listed, rfl⟩ := List.mem_map.mp among
    exact ⟨other, listed, rfl, dues other listed⟩
  refine ⟨⟨kept.left, kept.fit, kept.blank, ?_, ?_, ?_, ?_, kept.recorded, ?_⟩, ?_⟩
  · intro record among _
    obtain ⟨other, -, rfl, due⟩ := dueOf record among
    exact due.origin
  · intro record among stands
    by_cases same : record.tag = entry.tag
    · obtain ⟨other, listed, rfl, -⟩ := dueOf record among
      rw [mine other listed same]
      refine .inr ?_
      rw [World.apply_props]
      exact (congrArg getprop (if_pos rfl)).trans reads.1
    · rw [World.apply_props, if_neg same]
      exact kept.stands record among stands
  · intro tag ours
    by_cases same : tag = entry.tag
    · refine ⟨entry.pending, ?_, same.symm, .inr ?_⟩
      · rw [plan]
        exact List.mem_map.mpr ⟨entry, by simp, rfl⟩
      · rw [World.apply_props, if_pos same]
        exact reads.1
    · rw [World.apply_ours, if_neg same] at ours
      obtain ⟨record, among, tagged, reads⟩ := kept.mine tag ours
      refine ⟨record, among, tagged, ?_⟩
      rw [World.apply_props, if_neg same]
      exact reads
  · intro tag free
    by_cases same : tag = entry.tag
    · rw [World.apply_ours, if_pos same] at free
      rw [World.apply_props, World.apply_found, if_pos same, if_pos ⟨same, free⟩]
    · rw [World.apply_ours, if_neg same] at free
      rw [World.apply_props, World.apply_found, if_neg same, if_neg fun h => same h.1]
      exact kept.free tag free
  · intro tag
    by_cases same : tag = entry.tag
    · rw [World.apply_props, if_pos same]
      exact reads.2
    · rw [World.apply_props, if_neg same]
      exact kept.readable tag
  · refine ⟨list ▸ plan, ⟨list ▸ planned.apart, list ▸ planned.few, list ▸ dues, ?_, ?_,
      list ▸ planned.covers, ?_⟩⟩
    · intro other among
      have different : other.tag ≠ entry.tag := fun same =>
        later (same ▸ List.mem_map.mpr ⟨other, among, rfl⟩)
      rw [World.apply_props, if_neg different]
      exact planned.before other (List.mem_cons_of_mem _ among)
    · intro other among
      obtain among | among := List.mem_append.mp among
      · have different : other.tag ≠ entry.tag := fun same =>
          earlier _ (List.mem_map.mpr ⟨other, among, rfl⟩) _ (by simp) same
        rw [World.apply_props, if_neg different]
        exact planned.after other among
      · rw [List.mem_singleton.mp among, World.apply_props, if_pos rfl]
    · intro tag dropped ours
      by_cases same : tag = entry.tag
      · rw [World.apply_ours, if_pos same] at ours
        obtain ⟨desired, -⟩ | ⟨-, keep, -⟩ := due.kind
        · rw [same, desired] at dropped
          cases dropped
        · simp [keep] at ours
      · rw [World.apply_ours, if_neg same] at ours
        have among := planned.frees tag dropped ours
        simpa [same] using among

theorem World.Sound.finished (sound : world.Sound records)
    (control : world.head.control = .applying levels done []) (device inode uid : UInt64) :
    World.Sound { world.leave ((done.filter Entry.keep).map Entry.final) with
      head := { world.head with
        receipt := some ⟨device, inode, uid, receiptText ((done.filter Entry.keep).map Entry.final)⟩
        control := .idle } } ((done.filter Entry.keep).map Entry.final) := by
  obtain ⟨-, planned⟩ : records = (done ++ []).map Entry.pending ∧
      world.Planned levels done [] := by
    have h := sound.control
    rw [control] at h
    exact h
  have kept := sound.kept
  have part : (done.filter Entry.keep).Sublist (done ++ []) := by simp
  have due : ∀ record ∈ (done.filter Entry.keep).map Entry.final,
      ∃ entry ∈ done, entry.final = record ∧ world.Due levels entry := by
    intro record among
    obtain ⟨entry, listed, rfl⟩ := List.mem_map.mp among
    exact ⟨entry, (List.mem_filter.mp listed).1, rfl, planned.due entry (part.subset listed)⟩
  have reads : ∀ record ∈ (done.filter Entry.keep).map Entry.final,
      record.Matches (getprop (world.head.props record.tag)) := by
    intro record among
    obtain ⟨entry, listed, rfl, due⟩ := due record among
    refine .inr ?_
    exact (congrArg getprop (planned.after entry listed)).trans (getprop_setting due.fit.target).1
  have fit : Fit ((done.filter Entry.keep).map Entry.final) := by
    constructor
    · intro record among
      obtain ⟨entry, -, rfl, due⟩ := due record among
      exact ⟨due.fit.tag, due.fit.original, due.fit.target, due.fit.target⟩
    · rw [List.map_map]
      exact (part.map Entry.tag).nodup planned.apart
    · rw [List.length_map]
      exact part.length_le.trans planned.few
  refine ⟨⟨.inr ⟨_, rfl, rfl⟩, fit, ?_, ?_, fun record among _ => reads record among, ?_,
    kept.free, fun record among level listed => mem_recorded among listed _, kept.readable⟩,
    trivial⟩
  · intro record among
    obtain ⟨entry, -, rfl, due⟩ := due record among
    exact ⟨due.blank.target, due.blank.target⟩
  · intro record among _
    obtain ⟨entry, -, rfl, due⟩ := due record among
    exact due.origin
  · intro tag ours
    cases desired : levels.lookup tag with
    | none => simpa using planned.frees tag desired ours
    | some level =>
      obtain ⟨entry, among, rfl⟩ := List.mem_map.mp (planned.covers tag level desired)
      have keep : entry.keep = true := by
        obtain ⟨-, keep, -⟩ | ⟨dropped, -⟩ := (planned.due entry among).kind
        · exact keep
        · rw [desired] at dropped
          cases dropped
      have listed : entry.final ∈ (done.filter Entry.keep).map Entry.final :=
        List.mem_map.mpr ⟨entry, List.mem_filter.mpr ⟨by simpa using among, keep⟩, rfl⟩
      exact ⟨entry.final, listed, rfl, reads _ listed⟩

theorem World.Sound.cut (sound : world.Sound records) :
    World.Sound { world with head := { world.head with control := .idle } } records :=
  ⟨⟨sound.kept.left, sound.kept.fit, sound.kept.blank, sound.kept.origin, sound.kept.stands,
    sound.kept.mine, sound.kept.free, sound.kept.recorded, sound.kept.readable⟩, trivial⟩

theorem Record.Blank.original {record : Record} (blank : record.Blank)
    (reads : record.Matches unset) : record.original = unset := by
  obtain first | second := reads
  · exact blank.previous first.symm
  · exact blank.target second.symm

theorem World.Sound.rebooted (sound : world.Sound records) :
    World.Sound { world with
      head := { world.head with props := fun _ => [], control := .idle }
      found := fun _ => [], ours := fun _ => false, stands := fun _ => false } records := by
  have kept := sound.kept
  refine ⟨⟨kept.left, kept.fit, kept.blank, ?_, by simp, by simp, by simp, kept.recorded,
    fun _ => readable_nil⟩, trivial⟩
  intro record among reads
  have blank := (kept.blank record among).original reads
  exact .inl (by rw [blank]; rfl)

theorem World.Sound.disturbed (sound : world.Sound records)
    (control : world.head.control = .idle) {tag value : Text}
    (foreign : value = [] ∨ value ∉ world.recorded tag) (set : value ≠ unset)
    (last : value.getLast? ≠ some '\n') :
    World.Sound { world with
      head := { world.head with props := Function.update world.head.props tag value }
      found := Function.update world.found tag value
      ours := Function.update world.ours tag false
      stands := Function.update world.stands tag false } records := by
  have kept := sound.kept
  refine ⟨⟨kept.left, kept.fit, kept.blank, ?_, ?_, ?_, ?_, kept.recorded, ?_⟩, by
    rw [control]
    trivial⟩
  · intro record among reads
    by_cases same : record.tag = tag
    · subst same
      simp only [Function.update_self] at reads
      by_cases empty : value = []
      · subst empty
        have blank := (kept.blank record among).original reads
        exact .inl (by rw [blank]; simp [setting])
      · rw [getprop_plain empty last] at reads
        have new := foreign.resolve_left empty
        refine absurd (kept.recorded record among value ?_) new
        obtain rfl | rfl := reads <;> simp [Record.levels]
    · simp only [Function.update_of_ne same] at reads
      simpa only [World.Origin, Function.update_of_ne same] using kept.origin record among reads
  · intro record among stands
    by_cases same : record.tag = tag
    · simp [same] at stands
    · simp only [Function.update_of_ne same] at stands ⊢
      exact kept.stands record among stands
  · intro other ours
    by_cases same : other = tag
    · simp [same] at ours
    · simp only [Function.update_of_ne same] at ours ⊢
      exact kept.mine other ours
  · intro other free
    by_cases same : other = tag
    · simp [same]
    · simp only [Function.update_of_ne same] at free ⊢
      exact kept.free other free
  · intro other
    by_cases same : other = tag
    · simpa [same] using readable_of_plain set last
    · simpa [same] using kept.readable other

end DashcamStats.UnitLogs
