import DashcamStats.Footage.Commit

namespace DashcamStats.Footage

universe u

variable {Byte : Type u}

section Plan

variable (settings : DeltaSettings) (footage : Directory Byte)

def DeltaSettings.Asks (item : RemoteFile) : Prop :=
  settings.alreadySeen item.name = false ∧ settings.active item = false ∧
    settings.wants item = true

def Planned (item : RemoteFile) : Prop :=
  settings.alreadySeen item.name = false ∧ settings.active item = false ∧
    fileSize footage item.name ≠ some item.size ∧ settings.wants item = true

instance (item : RemoteFile) : Decidable (Planned settings footage item) :=
  inferInstanceAs (Decidable (_ ∧ _))

theorem deltaItem_files (plan : DeltaPlan) (item : RemoteFile) :
    (deltaItem settings footage plan item).files =
      if Planned settings footage item then plan.files ++ [item] else plan.files := by
  unfold deltaItem Planned
  by_cases seen : settings.alreadySeen item.name = true
  · simp [seen]
  · by_cases live : settings.active item = true
    · simp [seen, live]
    · by_cases same : fileSize footage item.name = some item.size
      · by_cases wanted : settings.wants item = true <;> simp [seen, live, same, wanted]
      · by_cases wanted : settings.wants item = true <;> simp [seen, live, same, wanted]

theorem deltaItems_files (remote : List RemoteFile) (plan : DeltaPlan) :
    (remote.foldl (deltaItem settings footage) plan).files =
      plan.files ++ remote.filter fun item => Planned settings footage item := by
  induction remote generalizing plan with
  | nil => simp
  | cons item rest ih =>
    rw [List.foldl_cons, ih, deltaItem_files]
    by_cases planned : Planned settings footage item <;> simp [planned]

theorem delta_files_perm (remote : List RemoteFile) :
    (delta settings footage remote).files.Perm
      (remote.filter fun item => Planned settings footage item) := by
  have files := deltaItems_files settings footage remote ⟨[], 0, 0, 0, []⟩
  rw [List.nil_append] at files
  rw [← files]
  exact List.mergeSort_perm _ _

theorem mem_delta_files {remote : List RemoteFile} {item : RemoteFile} :
    item ∈ (delta settings footage remote).files ↔
      item ∈ remote ∧ Planned settings footage item := by
  rw [(delta_files_perm settings footage remote).mem_iff, List.mem_filter, decide_eq_true_iff]

theorem delta_names_nodup {remote : List RemoteFile} (distinct : (remote.map (·.name)).Nodup) :
    ((delta settings footage remote).files.map (·.name)).Nodup := by
  have perm := (delta_files_perm settings footage remote).map (·.name)
  rw [perm.nodup_iff]
  exact distinct.sublist (List.filter_sublist.map _)

end Plan

section Admits

def Admits (footage : Directory Byte) (name : String) (size : ℕ) : Prop :=
  footage.lookup name ≠ some .directory ∧
    ∀ bytes, footage.lookup name = some (.file bytes) → bytes.length ≤ size

variable {settings : DeltaSettings} {footage : Directory Byte} {remote : List RemoteFile}

theorem admits_of_fileSize {name : String} {size : ℕ} (held : fileSize footage name = some size) :
    Admits footage name size := by
  unfold fileSize at held
  split at held
  · rename_i bytes isFile
    refine ⟨by simp [isFile], fun other found => ?_⟩
    rw [isFile] at found
    cases found
    exact (Option.some.inj held).le
  · cases held

theorem admits_planned_iff :
    (∀ item ∈ (delta settings footage remote).files, Admits footage item.name item.size) ↔
      ∀ item ∈ remote, settings.Asks item → Admits footage item.name item.size := by
  constructor
  · rintro admits item mem ⟨unseen, inactive, wanted⟩
    by_cases held : fileSize footage item.name = some item.size
    · exact admits_of_fileSize held
    · exact admits item ((mem_delta_files settings footage).mpr
        ⟨mem, unseen, inactive, held, wanted⟩)
  · intro admits item planned
    obtain ⟨mem, unseen, inactive, _, wanted⟩ := (mem_delta_files settings footage).mp planned
    exact admits item mem ⟨unseen, inactive, wanted⟩

end Admits

-- The inventory that `commit` is given.
def expectedSizes (files : List RemoteFile) (name : String) : Option ℕ :=
  (files.find? fun item => item.name = name).map (·.size)

theorem expectedSizes_of_mem {files : List RemoteFile} (distinct : (files.map (·.name)).Nodup)
    {item : RemoteFile} (mem : item ∈ files) : expectedSizes files item.name = some item.size := by
  induction files with
  | nil => cases mem
  | cons first rest ih =>
    rw [List.map_cons, List.nodup_cons] at distinct
    rcases List.mem_cons.mp mem with rfl | mem
    · simp [expectedSizes]
    · have other : first.name ≠ item.name := by
        intro same
        exact distinct.1 (same ▸ List.mem_map_of_mem mem)
      have later := ih distinct.2 mem
      simpa [expectedSizes, List.find?_cons, other] using later

theorem expectedSizes_eq_none {files : List RemoteFile} {name : String}
    (absent : ∀ item ∈ files, item.name ≠ name) : expectedSizes files name = none := by
  simpa [expectedSizes, List.find?_eq_none] using absent

section Commit

variable [DecidableEq Byte] {expected : String → Option ℕ} {c : Commit Byte} {name other : String}

theorem commitPath_other (apart : other ≠ name) :
    (commitPath expected c name).footage.lookup other = c.footage.lookup other ∧
      (other ∈ (commitPath expected c name).committed ↔ other ∈ c.committed) := by
  unfold commitPath
  split
  · split
    · exact ⟨rfl, Iff.rfl⟩
    · split
      · exact ⟨AList.lookup_insert_ne apart, by simp [Commit.publish, apart]⟩
      · exact ⟨rfl, Iff.rfl⟩
      · split
        · split
          · exact ⟨rfl, by simp [apart]⟩
          · unfold Commit.preserve
            split <;> exact ⟨rfl, Iff.rfl⟩
        · split
          · exact ⟨rfl, Iff.rfl⟩
          · exact ⟨AList.lookup_insert_ne apart, by simp [Commit.publish, apart]⟩
  · exact ⟨rfl, Iff.rfl⟩

theorem commitPath_staged {node : Node Byte} (apart : other ≠ name)
    (staged : c.staging.lookup other = some node) :
    (commitPath expected c name).staging.lookup other = some node := by
  have erased : (c.staging.erase name).lookup other = some node := by
    rw [AList.lookup_erase_ne apart, staged]
  unfold commitPath
  split
  · split
    · exact erased
    · split
      · exact erased
      · exact staged
      · split
        · split
          · exact erased
          · unfold Commit.preserve
            split
            · exact staged
            · rename_i noFile
              have notConflicts : other ≠ ".conflicts" ∨ node = .directory := by
                by_cases same : other = ".conflicts"
                · subst same
                  cases node with
                  | file bytes => exact absurd staged (noFile bytes)
                  | directory => exact .inr rfl
                · exact .inl same
              show ((c.staging.insert ".conflicts" .directory).erase name).lookup other = some node
              rw [AList.lookup_erase_ne apart]
              by_cases same : other = ".conflicts"
              · rcases notConflicts with h | rfl
                · exact absurd same h
                · rw [same, AList.lookup_insert]
              · rw [AList.lookup_insert_ne same, staged]
        · split
          · exact erased
          · exact erased
  · exact staged

theorem commitPath_unexpected (unexpected : expected other = none) :
    (commitPath expected c name).footage.lookup other = c.footage.lookup other := by
  by_cases same : other = name
  · subst same
    simp [commitPath, unexpected]
  · exact (commitPath_other same).1

theorem commitPaths_unexpected (unexpected : expected other = none) (names : List String) :
    (names.foldl (commitPath expected) c).footage.lookup other = c.footage.lookup other := by
  induction names generalizing c with
  | nil => rfl
  | cons name rest ih => rw [List.foldl_cons, ih, commitPath_unexpected unexpected]

variable {size : ℕ} {bytes : List Byte}

theorem commitPath_publishes (isExpected : expected name = some bytes.length)
    (staged : c.staging.lookup name = some (.file bytes))
    (admits : Admits c.footage name bytes.length)
    (differs : fileSize c.footage name ≠ some bytes.length) :
    commitPath expected c name = c.publish name bytes := by
  simp only [commitPath, isExpected, staged, ne_eq, not_true, if_false]
  split
  · rfl
  · rename_i isDirectory
    exact absurd isDirectory admits.1
  · rename_i existing isFile
    have notSame : existing.length ≠ bytes.length := by
      intro same
      exact differs (by simp [fileSize, isFile, same])
    have fits := admits.2 existing isFile
    simp [notSame, Nat.not_lt.mpr fits]

theorem commitPaths_publishes {names : List String} (distinct : names.Nodup) (mem : name ∈ names)
    (isExpected : expected name = some bytes.length)
    (staged : c.staging.lookup name = some (.file bytes))
    (admits : Admits c.footage name bytes.length)
    (differs : fileSize c.footage name ≠ some bytes.length) :
    name ∈ (names.foldl (commitPath expected) c).committed ∧
      fileSize (names.foldl (commitPath expected) c).footage name = some bytes.length := by
  have tail : ∀ (rest : List String) (d : Commit Byte), name ∉ rest →
      (rest.foldl (commitPath expected) d).footage.lookup name = d.footage.lookup name ∧
        (name ∈ (rest.foldl (commitPath expected) d).committed ↔ name ∈ d.committed) := by
    intro rest
    induction rest with
    | nil => exact fun _ _ => ⟨rfl, Iff.rfl⟩
    | cons first rest ih =>
      intro d absent
      rw [List.mem_cons, not_or] at absent
      obtain ⟨sameFile, sameCommitted⟩ := ih (commitPath expected d first) absent.2
      obtain ⟨sameFile', sameCommitted'⟩ :=
        @commitPath_other _ _ expected d first name absent.1
      exact ⟨sameFile.trans sameFile', sameCommitted.trans sameCommitted'⟩
  induction names generalizing c with
  | nil => cases mem
  | cons first rest ih =>
    rw [List.nodup_cons] at distinct
    rw [List.foldl_cons]
    rcases List.mem_cons.mp mem with rfl | mem
    · obtain ⟨sameFile, sameCommitted⟩ := tail rest (commitPath expected c name) distinct.1
      rw [commitPath_publishes isExpected staged admits differs] at sameFile sameCommitted ⊢
      refine ⟨sameCommitted.mpr (by simp [Commit.publish]), ?_⟩
      unfold fileSize
      rw [sameFile]
      simp [Commit.publish, AList.lookup_insert]
    · have apart : name ≠ first := fun same => distinct.1 (same ▸ mem)
      have sameFile := (@commitPath_other _ _ expected c first name apart).1
      refine ih distinct.2 mem (commitPath_staged apart staged) ?_ ?_
      · unfold Admits
        rw [sameFile]
        exact admits
      · unfold fileSize
        rw [sameFile]
        exact differs

theorem commitPath_refuses (isExpected : expected name = some size)
    (refused : ¬Admits c.footage name size) (absent : name ∉ c.committed) (step : String) :
    name ∉ (commitPath expected c step).committed ∧
      (commitPath expected c step).footage.lookup name = c.footage.lookup name := by
  by_cases same : name = step
  · subst same
    cases staged : c.staging.lookup name with
    | none => simp [commitPath, isExpected, staged, absent]
    | some node =>
      cases node with
      | directory => simp [commitPath, isExpected, staged, absent]
      | file bytes =>
        by_cases whole : bytes.length = size
        · cases isThere : c.footage.lookup name with
          | none => exact absurd ⟨by simp [isThere], by simp [isThere]⟩ refused
          | some node =>
            cases node with
            | directory => simp [commitPath, isExpected, staged, whole, isThere, absent]
            | file existing =>
              have larger : size < existing.length := by
                by_contra fits
                refine refused ⟨by simp [isThere], fun e found => ?_⟩
                rw [isThere] at found
                cases found
                exact Nat.not_lt.mp fits
              simp [commitPath, isExpected, staged, whole, isThere, larger,
                Nat.ne_of_gt larger, Commit.discard, absent]
        · simp [commitPath, isExpected, staged, whole, Commit.discard, absent]
  · obtain ⟨sameFile, sameCommitted⟩ := @commitPath_other _ _ expected c step name same
    exact ⟨fun mem => absent (sameCommitted.mp mem), sameFile⟩

theorem commitPaths_refuses (isExpected : expected name = some size)
    (refused : ¬Admits c.footage name size) (absent : name ∉ c.committed) (names : List String) :
    name ∉ (names.foldl (commitPath expected) c).committed := by
  induction names generalizing c with
  | nil => exact absent
  | cons step rest ih =>
    obtain ⟨absent', sameFile⟩ := commitPath_refuses isExpected refused absent step
    refine ih ?_ absent'
    unfold Admits
    rw [sameFile]
    exact refused

end Commit

section Converges

variable [DecidableEq Byte] (settings : DeltaSettings) (remote : List RemoteFile)
variable (staging footage : Directory Byte)

def Streamed (files : List RemoteFile) : Prop :=
  ∀ item ∈ files, fileSize staging item.name = some item.size

def Converges : Prop :=
  ∃ c, commit (some staging) (some footage)
      (expectedSizes (delta settings footage remote).files) = some c ∧
    (∀ item ∈ (delta settings footage remote).files, item.name ∈ c.committed) ∧
    (delta settings c.footage remote).files = []

variable {settings remote staging footage}

/-- The delta converges exactly where the library holds, under the name of no recording that
is asked for, a directory or a larger file. -/
theorem converges_iff (distinct : (remote.map (·.name)).Nodup)
    (streamed : Streamed staging (delta settings footage remote).files) :
    Converges settings remote staging footage ↔
      ∀ item ∈ remote, settings.Asks item → Admits footage item.name item.size := by
  rw [← admits_planned_iff]
  have names := delta_names_nodup settings footage distinct
  have isExpected : ∀ item ∈ (delta settings footage remote).files,
      expectedSizes (delta settings footage remote).files item.name = some item.size :=
    fun item mem => expectedSizes_of_mem names mem
  constructor
  · rintro ⟨c, committed, all, _⟩ item mem
    cases committed
    by_contra refused
    exact commitPaths_refuses (isExpected item mem) refused (by simp) _ (all item mem)
  · intro admits
    have published : ∀ item ∈ (delta settings footage remote).files, ∀ c,
        commit (some staging) (some footage)
          (expectedSizes (delta settings footage remote).files) = some c →
        item.name ∈ c.committed ∧ fileSize c.footage item.name = some item.size := by
      rintro item mem c ⟨⟩
      have arrived := streamed item mem
      unfold fileSize at arrived
      split at arrived
      · rename_i bytes staged
        have size : bytes.length = item.size := Option.some.inj arrived
        have planned := ((mem_delta_files settings footage).mp mem).2
        have isName : item.name ∈ staging.keys.mergeSort (· ≤ ·) := by
          rw [List.mem_mergeSort]
          exact AList.mem_keys.mp (AList.lookup_isSome.mp (by simp [staged]))
        have sorted : (staging.keys.mergeSort (· ≤ ·)).Nodup :=
          (List.mergeSort_perm _ _).nodup_iff.mpr staging.keys_nodup
        have sized := isExpected item mem
        have fits := admits item mem
        have differs := planned.2.2.1
        rw [← size] at sized fits differs ⊢
        exact commitPaths_publishes sorted isName sized staged fits differs
      · cases arrived
    refine ⟨_, rfl, fun item mem => (published item mem _ rfl).1, ?_⟩
    rw [List.eq_nil_iff_forall_not_mem]
    intro item again
    obtain ⟨mem, unseen, inactive, differs, wanted⟩ := (mem_delta_files settings _).mp again
    by_cases planned : Planned settings footage item
    · have was := (mem_delta_files settings footage).mpr ⟨mem, planned⟩
      exact differs (published item was _ rfl).2
    · -- then the library has held the file before, and no planned file has its name
      have held : fileSize footage item.name = some item.size := by
        by_contra other
        exact planned ⟨unseen, inactive, other, wanted⟩
      have unexpected : expectedSizes (delta settings footage remote).files item.name = none := by
        refine expectedSizes_eq_none fun first isPlanned same => ?_
        obtain ⟨isRemote, wasPlanned⟩ := (mem_delta_files settings footage).mp isPlanned
        have equal : first = item := List.inj_on_of_nodup_map distinct isRemote mem same
        exact planned (equal ▸ wasPlanned)
      refine differs ?_
      unfold fileSize
      rw [commitPaths_unexpected unexpected]
      exact held

end Converges

private def cardSettings : DeltaSettings where
  skipActiveS := 30
  camera := "both"
  alreadySeen := fun _ => false
  newestFirst := false
  now := 1000

private def card : List RemoteFile := [⟨"a_front.ts", 2, 0⟩]

private def arrived : Directory ℕ := AList.singleton "a_front.ts" (.file [1, 2])

private def short : Directory ℕ := AList.singleton "a_front.ts" (.file [1])

private def longer : Directory ℕ := AList.singleton "a_front.ts" (.file [1, 2, 3])

private theorem card_files (footage : Directory ℕ)
    (differs : fileSize footage "a_front.ts" ≠ some 2) :
    (delta cardSettings footage card).files = card := by
  refine List.perm_singleton.mp ((delta_files_perm cardSettings footage card).trans ?_)
  have planned : Planned cardSettings footage ⟨"a_front.ts", 2, 0⟩ :=
    ⟨rfl, by decide +kernel, differs, by decide⟩
  simp [card, planned]

/-- A short copy is completed. -/
theorem converges_iff_short :
    Converges cardSettings card arrived short ↔
      ∀ item ∈ card, cardSettings.Asks item → Admits short item.name item.size := by
  refine converges_iff (by decide) fun item mem => ?_
  rw [card_files short (by decide)] at mem
  cases List.mem_singleton.mp mem
  decide

/-- The unit lists two bytes where the library has three: the transfer is discarded, and asked for
again. -/
theorem not_converges_longer :
    ¬ (∀ (settings : DeltaSettings) (remote : List RemoteFile) (staging footage : Directory ℕ),
      (remote.map (·.name)).Nodup → Streamed staging (delta settings footage remote).files →
      Converges settings remote staging footage) := by
  intro always
  have files := card_files longer (by decide)
  obtain ⟨c, committed, all, _⟩ := always cardSettings card arrived longer (by decide)
    (by rw [files]; intro item mem; cases List.mem_singleton.mp mem; decide)
  rw [files] at committed all
  cases committed
  have isName := all ⟨"a_front.ts", 2, 0⟩ (by simp [card])
  revert isName
  refine @commitPaths_refuses _ _ _ _ _ 2 (by decide) ?_ (by simp) _
  exact fun admits => absurd (admits.2 [1, 2, 3] (by decide)) (by decide)

end DashcamStats.Footage
