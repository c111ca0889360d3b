import DashcamStats.Scanner.Scan

namespace DashcamStats.Scanner

section Slices

def Event.entry? : Event → Option Entry
  | .found entry => some entry
  | .unreadable _ => none

def Event.unreadable? : Event → Option Path
  | .found _ => none
  | .unreadable path => some path

def foundEntries (events : List Event) : List Entry :=
  events.filterMap Event.entry?

def unreadablePaths (events : List Event) : List Path :=
  events.filterMap Event.unreadable?

@[simp] theorem foundEntries_found (entry : Entry) (events : List Event) :
    foundEntries (.found entry :: events) = entry :: foundEntries events := rfl

@[simp] theorem foundEntries_unreadable (path : Path) (events : List Event) :
    foundEntries (.unreadable path :: events) = foundEntries events := rfl

@[simp] theorem unreadablePaths_found (entry : Entry) (events : List Event) :
    unreadablePaths (.found entry :: events) = unreadablePaths events := rfl

@[simp] theorem unreadablePaths_unreadable (path : Path) (events : List Event) :
    unreadablePaths (.unreadable path :: events) = path :: unreadablePaths events := rfl

theorem foundPaths_eq (events : List Event) :
    foundPaths events = (foundEntries events).map (·.relPath) := by
  induction events with
  | nil => rfl
  | cons event events ih =>
    cases event with
    | found entry => simp [ih]
    | unreadable path => exact ih

theorem complete_iff (events : List Event) : Complete events ↔ unreadablePaths events = [] := by
  unfold Complete unreadablePaths
  rw [List.filterMap_eq_nil_iff]
  constructor
  · intro complete event mem
    cases event with
    | found entry => rfl
    | unreadable path => exact absurd mem (complete path)
  · intro none path mem
    cases none _ mem

theorem islice_split (count : ℕ) (events : List Event) :
    foundEntries events = (islice count events).1 ++ foundEntries (islice count events).2.2 ∧
      unreadablePaths events =
        (islice count events).2.1 ++ unreadablePaths (islice count events).2.2 ∧
      ((islice count events).1.length = count ∨
        (islice count events).1.length < count ∧ (islice count events).2.2 = []) := by
  induction events generalizing count with
  | nil => cases count <;> simp [islice, foundEntries, unreadablePaths]
  | cons event events ih =>
    cases count with
    | zero => simp [islice]
    | succ count =>
      cases event with
      | found entry =>
        obtain ⟨entries, unreadable, full⟩ := ih count
        refine ⟨?_, ?_, ?_⟩
        · simpa [islice] using entries
        · simpa [islice] using unreadable
        · simpa [islice] using full
      | unreadable path =>
        obtain ⟨entries, unreadable, full⟩ := ih (count + 1)
        refine ⟨?_, ?_, ?_⟩
        · simpa [islice] using entries
        · simpa [islice] using unreadable
        · simpa [islice] using full

end Slices

section Batches

variable (work : WorkErrors)

-- Some error that the scan counts: a directory, a file or a batch from `number` on.
def Counted (entries : List Entry) (unreadable : List Path) (number : ℕ) : Prop :=
  unreadable ≠ [] ∨ (∃ entry ∈ entries, work.reconcile entry.relPath = true) ∨
    ∃ later, later * batchSize < entries.length ∧ (work.batch (number + later)).isSome = true

variable {work}

theorem reconcileErrors_eq_zero (batch : List Entry) :
    reconcileErrors work batch = 0 ↔ ∀ entry ∈ batch, work.reconcile entry.relPath = false := by
  simp [reconcileErrors, List.countP_eq_zero]

theorem counted_split {batch rest : List Entry} {unreadable later : List Path} {number : ℕ}
    (more : batch ≠ []) (full : batch.length = batchSize ∨ batch.length < batchSize ∧ rest = []) :
    Counted work (batch ++ rest) (unreadable ++ later) number ↔
      unreadable ≠ [] ∨ (∃ entry ∈ batch, work.reconcile entry.relPath = true) ∨
        (work.batch number).isSome = true ∨ Counted work rest later (number + 1) := by
  have positive : 0 < batch.length := List.length_pos_iff.mpr more
  have batches : (∃ i, i * batchSize < (batch ++ rest).length ∧
        (work.batch (number + i)).isSome = true) ↔
      (work.batch number).isSome = true ∨
        ∃ i, i * batchSize < rest.length ∧ (work.batch (number + 1 + i)).isSome = true := by
    constructor
    · rintro ⟨i, fits, raises⟩
      cases i with
      | zero => exact .inl raises
      | succ i =>
        refine .inr ⟨i, ?_, by rwa [Nat.add_assoc, Nat.add_comm 1 i]⟩
        rw [List.length_append, Nat.succ_mul] at fits
        rcases full with full | ⟨short, rfl⟩
        · omega
        · simp only [List.length_nil] at fits
          omega
    · rintro (raises | ⟨i, fits, raises⟩)
      · exact ⟨0, by simp; omega, raises⟩
      · refine ⟨i + 1, ?_, by rwa [Nat.add_comm i 1, ← Nat.add_assoc]⟩
        rw [List.length_append, Nat.succ_mul]
        rcases full with full | ⟨short, rfl⟩
        · omega
        · simp at fits
  have files : (∃ entry ∈ batch ++ rest, work.reconcile entry.relPath = true) ↔
      (∃ entry ∈ batch, work.reconcile entry.relPath = true) ∨
        ∃ entry ∈ rest, work.reconcile entry.relPath = true := by
    simp only [List.mem_append, or_and_right, exists_or]
  have directories : unreadable ++ later ≠ [] ↔ unreadable ≠ [] ∨ later ≠ [] := by
    simp only [ne_eq, List.append_eq_nil_iff, not_and_or]
  unfold Counted
  rw [batches, files, directories, or_assoc, or_assoc]
  refine or_congr_right ?_
  rw [or_left_comm]
  refine or_congr_right ?_
  rw [or_left_comm (b := (work.batch number).isSome = true), or_left_comm]

def Scan.errors (scan : Scan) : ℕ :=
  scan.summary.errors + scan.walkErrors.length

theorem see_errors (scan : Scan) (batch : List Entry) (unreadable : List Path) :
    (scan.see batch unreadable).errors = scan.errors + unreadable.length := by
  simp [Scan.errors, Scan.see, Nat.add_assoc]

theorem processBatch_error {number : ℕ} {batch : List Entry} {scan failed : Scan}
    (raises : processBatch work number batch scan = .error failed) :
    (work.batch number).isSome = true ∧ failed.errors ≠ 0 ∧ failed.index = scan.index := by
  unfold processBatch at raises
  split at raises
  · rename_i error fails
    cases raises
    refine ⟨by rw [fails]; rfl, ?_, rfl⟩
    simp only [Scan.errors]
    omega
  · cases raises

theorem processBatch_ok {number : ℕ} {batch : List Entry} {scan done : Scan}
    (returns : processBatch work number batch scan = .ok done) :
    work.batch number = none ∧ done.errors = scan.errors + reconcileErrors work batch ∧
      done.summary.seen = scan.summary.seen ∧ done.seenPaths = scan.seenPaths ∧
      done.index = batch.foldl
        (fun index entry => reconcile work scan.index index entry.relPath) scan.index := by
  unfold processBatch at returns
  split at returns
  · cases returns
  · rename_i works
    cases returns
    refine ⟨works, ?_, rfl, rfl, rfl⟩
    simp only [Scan.errors]
    omega

section Unfold

variable {events : List Event} {number : ℕ} {scan next : Scan}

theorem scanBatches_done (done : (islice batchSize events).1 = []) :
    scanBatches work events number scan = scan.see [] (islice batchSize events).2.1 := by
  rw [scanBatches]
  simp only [done, dif_pos]

theorem scanBatches_error (more : (islice batchSize events).1 ≠ [])
    (raises : processBatch work number (islice batchSize events).1
      (scan.see (islice batchSize events).1 (islice batchSize events).2.1) = .error next) :
    scanBatches work events number scan = next := by
  rw [scanBatches]
  simp only [more, dif_neg, not_false_eq_true, raises]

theorem scanBatches_ok (more : (islice batchSize events).1 ≠ [])
    (returns : processBatch work number (islice batchSize events).1
      (scan.see (islice batchSize events).1 (islice batchSize events).2.1) = .ok next) :
    scanBatches work events number scan =
      scanBatches work (islice batchSize events).2.2 (number + 1) next := by
  rw [scanBatches]
  simp only [more, dif_neg, not_false_eq_true, returns]

end Unfold

theorem islice_done {events : List Event} (done : (islice batchSize events).1 = []) :
    foundEntries events = [] ∧ unreadablePaths events = (islice batchSize events).2.1 := by
  obtain ⟨entries, unreadable, full⟩ := islice_split batchSize events
  have rest : (islice batchSize events).2.2 = [] := by
    rcases full with full | full
    · rw [done] at full
      cases full
    · exact full.2
  rw [rest, done] at entries
  rw [rest] at unreadable
  exact ⟨entries, by simpa [unreadablePaths] using unreadable⟩

theorem islice_counted {events : List Event} (number : ℕ)
    (more : (islice batchSize events).1 ≠ []) :
    Counted work (foundEntries events) (unreadablePaths events) number ↔
      (islice batchSize events).2.1 ≠ [] ∨
        (∃ entry ∈ (islice batchSize events).1, work.reconcile entry.relPath = true) ∨
        (work.batch number).isSome = true ∨
        Counted work (foundEntries (islice batchSize events).2.2)
          (unreadablePaths (islice batchSize events).2.2) (number + 1) := by
  obtain ⟨entries, unreadable, full⟩ := islice_split batchSize events
  rw [entries, unreadable]
  refine counted_split more (full.imp_right fun short => ⟨short.1, ?_⟩)
  rw [short.2]
  rfl

theorem scanBatches_errors (events : List Event) (number : ℕ) (scan : Scan) :
    (scanBatches work events number scan).errors = 0 ↔
      scan.errors = 0 ∧
        ¬Counted work (foundEntries events) (unreadablePaths events) number := by
  induction events, number, scan using scanBatches.induct work with
  | case1 events number scan sliced done =>
    obtain ⟨entries, unreadable⟩ := islice_done done
    rw [scanBatches_done done, see_errors, entries, unreadable]
    simp [Counted, List.length_eq_zero_iff]
  | case2 events number scan sliced seen more failed raises =>
    obtain ⟨fails, errors, _⟩ := processBatch_error raises
    rw [scanBatches_error more raises, islice_counted number more]
    simp [errors, fails]
  | case3 events number scan sliced seen more next returns ih =>
    obtain ⟨works, errors, _⟩ := processBatch_ok returns
    have directories : (islice batchSize events).2.1.length = 0 ↔
        ¬(islice batchSize events).2.1 ≠ [] := by
      rw [List.length_eq_zero_iff, not_not]
    have files : reconcileErrors work (islice batchSize events).1 = 0 ↔ _ :=
      reconcileErrors_eq_zero (islice batchSize events).1
    rw [scanBatches_ok more returns, ih, islice_counted number more, errors, see_errors, works]
    simp only [Nat.add_eq_zero_iff]
    rw [directories, files]
    simp
    tauto

theorem reconcile_lookup {existing index : Index} {path target : Path}
    (set : (reconcile work existing index path).lookup target = some true) :
    index.lookup target = some true := by
  have inserted : (index.insert path false).lookup target = some true →
      index.lookup target = some true := by
    intro set
    by_cases same : target = path
    · rw [same, AList.lookup_insert] at set
      cases set
    · rwa [AList.lookup_insert_ne same] at set
  unfold reconcile at set
  split at set
  · split at set
    · exact inserted set
    · exact set
  · exact inserted set

theorem reconcile_batch_lookup {existing index : Index} {batch : List Entry} {target : Path}
    (set : (batch.foldl (fun index entry => reconcile work existing index entry.relPath)
      index).lookup target = some true) :
    index.lookup target = some true := by
  induction batch generalizing index with
  | nil => exact set
  | cons entry batch ih => exact reconcile_lookup (ih set)

theorem scanBatches_lookup {events : List Event} {number : ℕ} {scan : Scan} {target : Path}
    (set : (scanBatches work events number scan).index.lookup target = some true) :
    scan.index.lookup target = some true := by
  induction events, number, scan using scanBatches.induct work with
  | case1 events number scan sliced done =>
    rw [scanBatches_done done] at set
    exact set
  | case2 events number scan sliced seen more failed raises =>
    rw [scanBatches_error more raises, (processBatch_error raises).2.2] at set
    exact set
  | case3 events number scan sliced seen more next returns ih =>
    obtain ⟨_, _, _, _, index⟩ := processBatch_ok returns
    rw [scanBatches_ok more returns] at set
    have before := ih set
    rw [index] at before
    exact reconcile_batch_lookup before

theorem reconcile_batch_clean {existing index : Index} {batch : List Entry}
    (clean : ∀ entry ∈ batch, work.reconcile entry.relPath = false) (target : Path) :
    (batch.foldl (fun index entry => reconcile work existing index entry.relPath)
      index).lookup target =
      if target ∈ batch.map (·.relPath) then some false else index.lookup target := by
  induction batch generalizing index with
  | nil => simp
  | cons entry batch ih =>
    rw [List.foldl_cons, ih fun later mem => clean later (List.mem_cons_of_mem _ mem)]
    have works : reconcile work existing index entry.relPath =
        index.insert entry.relPath false := by
      simp [reconcile, clean entry List.mem_cons_self]
    rw [works]
    by_cases later : target ∈ batch.map (·.relPath)
    · rw [if_pos later, List.map_cons, if_pos (List.mem_cons_of_mem _ later)]
    · by_cases same : target = entry.relPath
      · subst same
        rw [if_neg later, AList.lookup_insert, List.map_cons, if_pos List.mem_cons_self]
      · rw [if_neg later, List.map_cons, if_neg (by simp [same, later]),
          AList.lookup_insert_ne same]

theorem scanBatches_clean {events : List Event} {number : ℕ} {scan : Scan}
    (clean : ¬Counted work (foundEntries events) (unreadablePaths events) number) :
    (scanBatches work events number scan).summary.seen =
        scan.summary.seen + (foundPaths events).length ∧
      (scanBatches work events number scan).seenPaths = scan.seenPaths ++ foundPaths events ∧
      ∀ target, (scanBatches work events number scan).index.lookup target =
        if target ∈ foundPaths events then some false else scan.index.lookup target := by
  simp only [foundPaths_eq]
  induction events, number, scan using scanBatches.induct work with
  | case1 events number scan sliced done =>
    rw [scanBatches_done done, (islice_done done).1]
    simp [Scan.see]
  | case2 events number scan sliced seen more failed raises =>
    refine absurd ?_ clean
    rw [islice_counted number more]
    exact .inr (.inr (.inl (processBatch_error raises).1))
  | case3 events number scan sliced seen more next returns ih =>
    obtain ⟨works, _, count, paths, index⟩ := processBatch_ok returns
    rw [islice_counted number more] at clean
    simp only [not_or, not_exists, not_and, Bool.not_eq_true] at clean
    obtain ⟨_, files, _, later⟩ := clean
    obtain ⟨ihCount, ihPaths, ihIndex⟩ := ih later
    rw [scanBatches_ok more returns, (islice_split batchSize events).1]
    refine ⟨?_, ?_, fun target => ?_⟩
    · rw [ihCount, count]
      simp [Scan.see, seen, sliced, Nat.add_assoc]
    · rw [ihPaths, paths]
      simp [Scan.see, seen, sliced]
    · rw [ihIndex, index, reconcile_batch_clean files, List.map_append]
      simp only [List.mem_append]
      split_ifs <;> first | rfl | tauto

end Batches

section Index

theorem mem_indexedPaths {index : Index} {path : Path} :
    path ∈ indexedPaths index ↔ index.lookup path = some false := by
  unfold indexedPaths
  rw [List.mem_filter, decide_eq_true_iff]
  refine and_iff_right_of_imp fun found => ?_
  exact AList.mem_keys.mp (AList.lookup_isSome.mp (by rw [found]; rfl))

theorem indexedPaths_nodup (index : Index) : (indexedPaths index).Nodup :=
  index.keys_nodup.filter _

theorem mem_missingPaths {seen : List Path} {index : Index} {path : Path} :
    path ∈ missingPaths seen index ↔ index.lookup path = some false ∧ path ∉ seen := by
  unfold missingPaths
  rw [List.mem_filter, mem_indexedPaths, decide_eq_true_iff]

theorem markMissing_lookup {seen : List Path} {index : Index} {path : Path} :
    (markMissing seen index).lookup path = some true ↔
      path ∈ missingPaths seen index ∨ index.lookup path = some true := by
  unfold markMissing
  generalize missingPaths seen index = missing
  induction missing generalizing index with
  | nil => simp
  | cons first rest ih =>
    rw [List.foldl_cons, ih, List.mem_cons]
    by_cases same : path = first
    · subst same
      simp [AList.lookup_insert]
    · simp [same, AList.lookup_insert_ne same]

theorem indexedCount_seen {visible : List Path} {index after : Index} (distinct : visible.Nodup)
    (lookup : ∀ path, after.lookup path =
      if path ∈ visible then some false else index.lookup path) :
    indexedCount after = visible.length + (missingPaths visible index).length := by
  have perm : (indexedPaths after).Perm (visible ++ missingPaths visible index) := by
    refine (List.perm_ext_iff_of_nodup (indexedPaths_nodup after) ?_).mpr fun path => ?_
    · refine List.nodup_append.mpr ⟨distinct, (indexedPaths_nodup index).filter _, ?_⟩
      rintro path isSeen other isMissing rfl
      exact (mem_missingPaths.mp isMissing).2 isSeen
    · rw [mem_indexedPaths, lookup, List.mem_append, mem_missingPaths]
      by_cases isSeen : path ∈ visible <;> simp [isSeen]
  unfold indexedCount
  rw [perm.length_eq, List.length_append]

theorem blocked_of_errors {summary : ScanSummary} (errors : summary.errors ≠ 0) (indexed : ℕ) :
    ∃ reason, reconciliationBlocked summary indexed = some reason := by
  simp [reconciliationBlocked, errors]

theorem blocked_isSome_iff {summary : ScanSummary} {unseen : ℕ} (clean : summary.errors = 0) :
    (reconciliationBlocked summary (summary.seen + unseen)).isSome = true ↔
      summary.seen < unseen := by
  have ratio : (summary.seen : ℚ) < ((summary.seen + unseen : ℕ) : ℚ) * diskVsIndexMinRatio ↔
      summary.seen < unseen := by
    rw [← Nat.cast_lt (α := ℚ)]
    unfold diskVsIndexMinRatio
    push_cast
    constructor <;> intro less <;> linarith
  unfold reconciliationBlocked
  simp only [clean, ne_eq, not_true_eq_false, if_false, ratio]
  split
  · simp
    omega
  · split
    · simp
      omega
    · split <;> simp_all

end Index

section Sound

variable (settings : ScanSettings) (errors : Errors) (work : WorkErrors)
variable (root : Option Listing) (index : Index)

def OnShare (path : Path) : Prop :=
  ∃ tree, root = some tree ∧ tree.HasFile settings path

def FullyExamined : Prop :=
  ∀ tree, root = some tree → tree.Listed errors [] 0 ∧ tree.Examined settings errors []

-- The scan sets `file_missing` on a row.
def CallsMissing (path : Path) : Prop :=
  index.lookup path ≠ some true ∧ (scan settings errors work root index).1.lookup path = some true

def ScanSound : Prop :=
  (∀ path, CallsMissing settings errors work root index path → ¬OnShare settings root path) ∧
    (¬FullyExamined settings errors root →
      ∀ path, ¬CallsMissing settings errors work root index path)

def unseenPaths (tree : Listing) : List Path :=
  missingPaths (tree.visible settings errors []) index

def ErrorCounted (tree : Listing) : Prop :=
  ¬tree.Listed errors [] 0 ∨
    (∃ path ∈ tree.visible settings errors [], work.reconcile path = true) ∨
    ∃ number, number * batchSize < (tree.visible settings errors []).length ∧
      (work.batch number).isSome = true

def FailuresHarmless : Prop :=
  ∀ tree, root = some tree →
    tree.Examined settings errors [] ∨ ErrorCounted settings errors work tree ∨
      unseenPaths settings errors index tree = [] ∨
      (tree.visible settings errors []).length < (unseenPaths settings errors index tree).length

variable {settings errors work root index} {tree : Listing}

theorem counted_iff :
    Counted work (foundEntries (walk settings errors [([], tree)]))
        (unreadablePaths (walk settings errors [([], tree)])) 0 ↔
      ErrorCounted settings errors work tree := by
  have complete : unreadablePaths (walk settings errors [([], tree)]) = [] ↔
      tree.Listed errors [] 0 := by
    rw [← complete_iff, walk_complete_iff]
    simp [Stack.Listed]
  by_cases listed : tree.Listed errors [] 0
  · have found : (foundPaths (walk settings errors [([], tree)])).Perm
        (Stack.visible settings errors [([], tree)]) := walk_found _ (by simpa [Stack.Listed])
    rw [foundPaths_eq] at found
    have visible : Stack.visible settings errors [([], tree)] =
        tree.visible settings errors [] := by
      simp [Stack.visible]
    rw [visible] at found
    have length := found.length_eq
    rw [List.length_map] at length
    have files : (∃ entry ∈ foundEntries (walk settings errors [([], tree)]),
          work.reconcile entry.relPath = true) ↔
        ∃ path ∈ tree.visible settings errors [], work.reconcile path = true := by
      simp only [← found.mem_iff, List.mem_map, exists_exists_and_eq_and]
    unfold Counted ErrorCounted
    rw [complete.mpr listed, files, length]
    simp [listed]
  · unfold Counted ErrorCounted
    simp [listed, complete]

theorem not_callsMissing_of_counted (counted : ErrorCounted settings errors work tree)
    (path : Path) : ¬CallsMissing settings errors work (some tree) index path := by
  rintro ⟨unset, set⟩
  have fails : (scanBatches work (walk settings errors [([], tree)]) 0
      ⟨index, {}, [], []⟩).errors ≠ 0 := by
    rw [ne_eq, scanBatches_errors, counted_iff]
    exact fun clean => clean.2 counted
  simp only [scan] at set
  generalize isOut : scanBatches work (walk settings errors [([], tree)]) 0
    ⟨index, {}, [], []⟩ = out at set fails
  obtain ⟨reason, blocked⟩ : ∃ reason, reconciliationBlocked { out.summary with
      errors := out.summary.errors + out.walkErrors.length } (indexedCount out.index) =
        some reason := blocked_of_errors fails _
  rw [blocked, ← isOut] at set
  exact unset (scanBatches_lookup set)

theorem callsMissing_iff (distinct : tree.Distinct)
    (clean : ¬ErrorCounted settings errors work tree) (path : Path) :
    CallsMissing settings errors work (some tree) index path ↔
      path ∈ unseenPaths settings errors index tree ∧
        ¬(tree.visible settings errors []).length <
          (unseenPaths settings errors index tree).length := by
  have listed : tree.Listed errors [] 0 := by
    by_contra unlisted
    exact clean (.inl unlisted)
  have counts := counted_iff.not.mpr clean
  have found : (foundPaths (walk settings errors [([], tree)])).Perm
      (Stack.visible settings errors [([], tree)]) := walk_found _ (by simpa [Stack.Listed])
  have visible : Stack.visible settings errors [([], tree)] = tree.visible settings errors [] := by
    simp [Stack.visible]
  rw [visible] at found
  obtain ⟨seen, paths, lookup⟩ := @scanBatches_clean work _ _ ⟨index, {}, [], []⟩ counts
  have noErrors := (scanBatches_errors _ 0 ⟨index, {}, [], []⟩).mpr ⟨rfl, counts⟩
  simp only [found.mem_iff] at lookup
  rw [found.length_eq, Nat.zero_add] at seen
  rw [List.nil_append] at paths
  unfold CallsMissing
  simp only [scan]
  generalize scanBatches work (walk settings errors [([], tree)]) 0 ⟨index, {}, [], []⟩ = out
    at seen paths lookup noErrors
  have indexed := indexedCount_seen (Listing.visible_nodup [] distinct) lookup
  have unseen : ∀ path, path ∈ missingPaths out.seenPaths out.index ↔
      path ∈ unseenPaths settings errors index tree := by
    intro path
    rw [unseenPaths, mem_missingPaths, mem_missingPaths, lookup, paths, found.mem_iff]
    by_cases isSeen : path ∈ tree.visible settings errors [] <;> simp [isSeen]
  have few : (reconciliationBlocked { out.summary with
        errors := out.summary.errors + out.walkErrors.length }
      (out.summary.seen + (unseenPaths settings errors index tree).length)).isSome = true ↔
        out.summary.seen < (unseenPaths settings errors index tree).length :=
    blocked_isSome_iff noErrors
  rw [← seen] at indexed ⊢
  unfold unseenPaths at few unseen ⊢
  rw [← indexed] at few
  cases blocked : reconciliationBlocked { out.summary with
      errors := out.summary.errors + out.walkErrors.length } (indexedCount out.index) with
  | none =>
    rw [blocked] at few
    have many := few.not.mp (by simp)
    simp only [markMissing_lookup, unseen, many, not_false_eq_true, and_true]
    constructor
    · rintro ⟨unset, isMissing | set⟩
      · exact isMissing
      · rw [lookup] at set
        split at set
        · cases set
        · exact absurd set unset
    · intro isMissing
      exact ⟨by simp [(mem_missingPaths.mp isMissing).1], .inl isMissing⟩
  | some reason =>
    rw [blocked] at few
    have many := few.mp rfl
    simp only [many, not_true_eq_false, and_false, iff_false, not_and]
    intro unset set
    rw [lookup] at set
    split at set
    · cases set
    · exact unset set

/-- A scan is sound exactly where no single entry fails, or another reason keeps it from marking
any row. -/
theorem scanSound_iff (distinct : ∀ tree, root = some tree → tree.Distinct) :
    ScanSound settings errors work root index ↔
      FailuresHarmless settings errors work root index := by
  cases root with
  | none =>
    have unset : ∀ path, ¬CallsMissing settings errors work none index path :=
      fun path calls => calls.1 calls.2
    exact iff_of_true ⟨fun path calls => absurd calls (unset path), fun _ => unset⟩
      (fun tree isTree => by cases isTree)
  | some tree =>
    have names := distinct tree rfl
    by_cases counted : ErrorCounted settings errors work tree
    · have unset : ∀ path, ¬CallsMissing settings errors work (some tree) index path :=
        not_callsMissing_of_counted counted
      refine iff_of_true ⟨fun path calls => absurd calls (unset path), fun _ => unset⟩ ?_
      rintro _ ⟨⟩
      exact .inr (.inl counted)
    · have calls : ∀ path, CallsMissing settings errors work (some tree) index path ↔ _ :=
        callsMissing_iff names counted
      have listed : tree.Listed errors [] 0 := by
        by_contra unlisted
        exact counted (.inl unlisted)
      constructor
      · rintro ⟨_, incomplete⟩ _ ⟨⟩
        by_cases examined : tree.Examined settings errors []
        · exact .inl examined
        · have unset := incomplete fun all => examined (all tree rfl).2
          refine .inr (.inr ?_)
          rw [or_iff_not_imp_right]
          intro many
          rw [List.eq_nil_iff_forall_not_mem]
          exact fun path isMissing => unset path ((calls path).mpr ⟨isMissing, many⟩)
      · intro harmless
        rcases harmless tree rfl with examined | isCounted | none | many
        · refine ⟨fun path isCalled onShare => ?_, fun incomplete => absurd ?_ incomplete⟩
          · obtain ⟨_, isTree, has⟩ := onShare
            cases isTree
            have isSeen := (Listing.mem_visible_iff examined path).mpr ⟨path, by simp, has⟩
            exact (mem_missingPaths.mp ((calls path).mp isCalled).1).2 isSeen
          · rintro _ ⟨⟩
            exact ⟨listed, examined⟩
        · exact absurd isCounted counted
        · have unset : ∀ path, ¬CallsMissing settings errors work (some tree) index path := by
            intro path isCalled
            have isMissing := ((calls path).mp isCalled).1
            rw [none] at isMissing
            cases isMissing
          exact ⟨fun path isCalled => absurd isCalled (unset path), fun _ => unset⟩
        · have unset : ∀ path, ¬CallsMissing settings errors work (some tree) index path :=
            fun path isCalled => ((calls path).mp isCalled).2 many
          exact ⟨fun path isCalled => absurd isCalled (unset path), fun _ => unset⟩

end Sound

private def onlyTs : ScanSettings := ⟨"/footage", id, [".ts"]⟩

private def idle : WorkErrors := ⟨fun _ => false, fun _ => none⟩

-- One `is_dir` fails.
private def stale : Errors :=
  ⟨fun _ _ => false, fun path => path = ["a.ts"], fun _ => false, fun _ => false⟩

private def share : Listing :=
  .file "a.ts" ⟨4, 0⟩ (.file "b.ts" ⟨4, 0⟩ (.directory ".ingest_staging" .nil .nil))

private def indexed : Index :=
  (AList.singleton ["b.ts"] false).insert ["a.ts"] false

private theorem share_distinct : share.Distinct := by
  simp [share, Listing.Distinct, Listing.names]

/-- One of two indexed recordings is not examined, and stays on the share. -/
theorem scanSound_iff_stale :
    ScanSound onlyTs stale idle (some share) indexed ↔
      FailuresHarmless onlyTs stale idle (some share) indexed := by
  refine scanSound_iff fun tree isTree => ?_
  cases isTree
  exact share_distinct

theorem not_scanSound_stale : ¬ScanSound onlyTs stale idle (some share) indexed := by
  intro sound
  have visible : share.visible onlyTs stale [] = [["b.ts"]] := by decide +kernel
  have clean : ¬ErrorCounted onlyTs stale idle share := by
    unfold ErrorCounted
    simp [share, Listing.Listed, stale, idle]
  have unseen : unseenPaths onlyTs stale indexed share = [["a.ts"]] := by decide +kernel
  have calls : CallsMissing onlyTs stale idle (some share) indexed ["a.ts"] := by
    refine (callsMissing_iff share_distinct clean ["a.ts"]).mpr ⟨?_, ?_⟩
    · rw [unseen]
      exact List.mem_singleton_self _
    · rw [visible, unseen]
      decide
  refine sound.1 ["a.ts"] calls ⟨share, rfl, .inl ⟨?_, rfl⟩⟩
  decide +kernel

end DashcamStats.Scanner
