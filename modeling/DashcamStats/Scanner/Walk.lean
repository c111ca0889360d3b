import Mathlib.Algebra.Ring.Nat
import Mathlib.Data.Finset.Basic

namespace DashcamStats.Scanner

/-- The components of a path below the root. -/
abbrev Path := List String

structure Stat where
  size : ℕ
  mtimeNs : ℤ
deriving DecidableEq, Repr

/-- A directory, entry by entry. With `follow_symlinks` a link is what it leads to, and `other`
without. -/
inductive Listing where
  | nil
  | file (name : String) (stat : Stat) (rest : Listing)
  | directory (name : String) (entries rest : Listing)
  | other (name : String) (rest : Listing)
deriving DecidableEq, Repr

/-- Which operations raise an `OSError`. -/
structure Errors where
  -- The request for the next entry of a directory.
  scandir : Path → ℕ → Bool
  isDir : Path → Bool
  isFile : Path → Bool
  stat : Path → Bool

structure Entry where
  relPath : Path
  size : ℕ
  mtimeNs : ℤ
deriving DecidableEq, Repr

-- `os.path.splitext(name)[1]`
def extension (name : String) : String :=
  let tail := name.toList.reverse.takeWhile (· ≠ '.')
  let front := name.toList.reverse.drop (tail.length + 1)
  -- leading dots are part of the name
  if front.any (· ≠ '.') then String.ofList ('.' :: tail.reverse) else ""

def hidden (name : String) : Bool :=
  name.toList.head? = some '.'

structure ScanSettings where
  footageDir : String
  -- `str.lower`
  lower : String → String
  extensions : List String

def ScanSettings.accepts (settings : ScanSettings) (name : String) : Bool :=
  settings.lower (extension name) ∈ settings.extensions

inductive Event where
  | found (entry : Entry)
  | unreadable (path : Path)
deriving DecidableEq, Repr

abbrev Stack := List (Path × Listing)

section Walk

variable (settings : ScanSettings) (errors : Errors)

-- The rest of one directory, after `index` entries.
def readDirectory (path : Path) : Listing → ℕ → Stack → List Event × Stack
  | .nil, index, stack =>
    if errors.scandir path index then ([.unreadable path], stack) else ([], stack)
  | .file name stat rest, index, stack =>
    if errors.scandir path index then ([.unreadable path], stack)
    else
      let (events, stack) := readDirectory path rest (index + 1) stack
      let here := path ++ [name]
      if errors.isDir here || errors.isFile here then (events, stack)
      else if !settings.accepts name then (events, stack)
      else if errors.stat here then (events, stack)
      else (.found ⟨here, stat.size, stat.mtimeNs⟩ :: events, stack)
  | .directory name entries rest, index, stack =>
    if errors.scandir path index then ([.unreadable path], stack)
    else
      let here := path ++ [name]
      if errors.isDir here || hidden name then readDirectory path rest (index + 1) stack
      else readDirectory path rest (index + 1) ((here, entries) :: stack)
  | .other _ rest, index, stack =>
    if errors.scandir path index then ([.unreadable path], stack)
    else readDirectory path rest (index + 1) stack

def Listing.weight : Listing → ℕ
  | .nil => 1
  | .file _ _ rest => rest.weight + 1
  | .directory _ entries rest => entries.weight + rest.weight + 1
  | .other _ rest => rest.weight + 1

def Stack.weight (stack : Stack) : ℕ :=
  (stack.map fun directory => directory.2.weight).sum

theorem readDirectory_weight (path : Path) (listing : Listing) (index : ℕ) (stack : Stack) :
    Stack.weight (readDirectory settings errors path listing index stack).2 <
      listing.weight + Stack.weight stack := by
  induction listing generalizing path index stack with
  | nil => unfold readDirectory; split <;> simp [Listing.weight]
  | file name stat rest ih =>
    have later := ih path (index + 1) stack
    unfold readDirectory
    simp only [Listing.weight]
    split
    · simp
    · split
      · simp only; omega
      · split
        · simp only; omega
        · split <;> (simp only; omega)
  | directory name entries rest _ ih =>
    unfold readDirectory
    simp only [Listing.weight]
    split
    · simp
    · split
      · have later := ih path (index + 1) stack
        omega
      · have later := ih path (index + 1) ((path ++ [name], entries) :: stack)
        simp only [Stack.weight, List.map_cons, List.sum_cons] at later ⊢
        omega
  | other name rest ih =>
    have later := ih path (index + 1) stack
    unfold readDirectory
    simp only [Listing.weight]
    split
    · simp
    · omega

-- `_walk`, from the directories on the stack
def walk : Stack → List Event
  | [] => []
  | (current, listing) :: stack =>
    (readDirectory settings errors current listing 0 stack).1 ++
      walk (readDirectory settings errors current listing 0 stack).2
termination_by stack => Stack.weight stack
decreasing_by
  simpa [Stack.weight] using readDirectory_weight settings errors current listing 0 stack

def Listing.HasFile : Listing → Path → Prop
  | .nil, _ => False
  | .file name _ rest, path =>
    (settings.accepts name = true ∧ path = [name]) ∨ rest.HasFile path
  | .directory name entries rest, path =>
    (hidden name = false ∧ ∃ tail, path = name :: tail ∧ entries.HasFile tail) ∨
      rest.HasFile path
  | .other _ rest, path => rest.HasFile path

def Listing.visible (path : Path) : Listing → List Path
  | .nil => []
  | .file name _ rest =>
    let here := path ++ [name]
    if errors.isDir here || errors.isFile here || !settings.accepts name || errors.stat here then
      rest.visible path
    else here :: rest.visible path
  | .directory name entries rest =>
    let here := path ++ [name]
    if errors.isDir here || hidden name then rest.visible path
    else entries.visible here ++ rest.visible path
  | .other _ rest => rest.visible path

def Listing.Listed (path : Path) : Listing → ℕ → Prop
  | .nil, index => errors.scandir path index = false
  | .file _ _ rest, index => errors.scandir path index = false ∧ rest.Listed path (index + 1)
  | .directory name entries rest, index =>
    errors.scandir path index = false ∧ rest.Listed path (index + 1) ∧
      (errors.isDir (path ++ [name]) = false → hidden name = false →
        entries.Listed (path ++ [name]) 0)
  | .other _ rest, index => errors.scandir path index = false ∧ rest.Listed path (index + 1)

def Listing.Examined (path : Path) : Listing → Prop
  | .nil => True
  | .file name _ rest =>
    let here := path ++ [name]
    errors.isDir here = false ∧ errors.isFile here = false ∧
      (settings.accepts name = true → errors.stat here = false) ∧ rest.Examined path
  | .directory name entries rest =>
    let here := path ++ [name]
    errors.isDir here = false ∧ (hidden name = false → entries.Examined here) ∧
      rest.Examined path
  | .other name rest =>
    let here := path ++ [name]
    errors.isDir here = false ∧ errors.isFile here = false ∧ rest.Examined path

def Listing.names : Listing → List String
  | .nil => []
  | .file name _ rest => name :: rest.names
  | .directory name _ rest => name :: rest.names
  | .other name rest => name :: rest.names

def Listing.Distinct : Listing → Prop
  | .nil => True
  | .file name _ rest => name ∉ rest.names ∧ rest.Distinct
  | .directory name entries rest => name ∉ rest.names ∧ entries.Distinct ∧ rest.Distinct
  | .other name rest => name ∉ rest.names ∧ rest.Distinct

variable {settings errors}

theorem Listing.visible_below {listing : Listing} {path target : Path}
    (mem : target ∈ listing.visible settings errors path) :
    ∃ name ∈ listing.names, ∃ tail, target = path ++ name :: tail := by
  induction listing generalizing path with
  | nil => cases mem
  | file name stat rest ih =>
    unfold visible at mem
    simp only at mem
    split at mem
    · obtain ⟨other, isName, below⟩ := ih mem
      exact ⟨other, List.mem_cons_of_mem _ isName, below⟩
    · rcases List.mem_cons.mp mem with rfl | mem
      · exact ⟨name, List.mem_cons_self, [], rfl⟩
      · obtain ⟨other, isName, below⟩ := ih mem
        exact ⟨other, List.mem_cons_of_mem _ isName, below⟩
  | directory name entries rest ihEntries ih =>
    unfold visible at mem
    simp only at mem
    split at mem
    · obtain ⟨other, isName, below⟩ := ih mem
      exact ⟨other, List.mem_cons_of_mem _ isName, below⟩
    · rcases List.mem_append.mp mem with mem | mem
      · obtain ⟨other, _, tail, rfl⟩ := ihEntries mem
        exact ⟨name, List.mem_cons_self, other :: tail, by simp⟩
      · obtain ⟨other, isName, below⟩ := ih mem
        exact ⟨other, List.mem_cons_of_mem _ isName, below⟩
  | other name rest ih =>
    obtain ⟨other, isName, below⟩ := ih mem
    exact ⟨other, List.mem_cons_of_mem _ isName, below⟩

theorem Listing.visible_nodup {listing : Listing} (path : Path) (distinct : listing.Distinct) :
    (listing.visible settings errors path).Nodup := by
  induction listing generalizing path with
  | nil => exact List.nodup_nil
  | file name stat rest ih =>
    have later := ih path distinct.2
    unfold visible
    simp only
    split
    · exact later
    · refine List.nodup_cons.mpr ⟨fun mem => ?_, later⟩
      obtain ⟨other, isName, tail, same⟩ := visible_below mem
      have equal := List.append_cancel_left same
      cases equal
      exact distinct.1 isName
  | directory name entries rest ihEntries ih =>
    have inside := ihEntries (path ++ [name]) distinct.2.1
    have later := ih path distinct.2.2
    unfold visible
    simp only
    split
    · exact later
    · refine List.nodup_append.mpr ⟨inside, later, fun first mem second mem' same => ?_⟩
      obtain ⟨_, _, tail, rfl⟩ := visible_below mem
      obtain ⟨other, isName, tail', rfl⟩ := visible_below mem'
      rw [List.append_assoc] at same
      have equal := List.append_cancel_left same
      cases equal
      exact distinct.1 isName
  | other name rest ih => exact ih path distinct.2

theorem Listing.mem_visible_iff {listing : Listing} {path : Path}
    (examined : listing.Examined settings errors path) (target : Path) :
    target ∈ listing.visible settings errors path ↔
      ∃ tail, target = path ++ tail ∧ listing.HasFile settings tail := by
  induction listing generalizing path target with
  | nil => simp [visible, HasFile]
  | file name stat rest ih =>
    obtain ⟨isDir, isFile, stats, examined⟩ := examined
    have later := ih examined target
    by_cases accepted : settings.accepts name = true
    · simp only [visible, HasFile, isDir, isFile, accepted, stats accepted, Bool.or_self,
        Bool.not_true, Bool.false_eq_true, if_false, List.mem_cons, later, true_and]
      constructor
      · rintro (rfl | ⟨tail, rfl, has⟩)
        · exact ⟨[name], rfl, .inl rfl⟩
        · exact ⟨tail, rfl, .inr has⟩
      · rintro ⟨tail, rfl, rfl | has⟩
        · exact .inl rfl
        · exact .inr ⟨tail, rfl, has⟩
    · simp [visible, HasFile, accepted, later]
  | directory name entries rest ihEntries ih =>
    obtain ⟨isDir, below, examined⟩ := examined
    have later := ih examined target
    by_cases isHidden : hidden name = true
    · simp [visible, HasFile, isHidden, later]
    · have notHidden : hidden name = false := by simpa using isHidden
      have inside := ihEntries (below notHidden) target
      simp only [visible, HasFile, isDir, notHidden, Bool.or_self, Bool.false_eq_true, if_false,
        List.mem_append, inside, later, true_and]
      constructor
      · rintro (⟨tail, rfl, has⟩ | ⟨tail, rfl, has⟩)
        · exact ⟨name :: tail, by simp, .inl ⟨tail, rfl, has⟩⟩
        · exact ⟨tail, rfl, .inr has⟩
      · rintro ⟨tail, rfl, ⟨below, rfl, has⟩ | has⟩
        · exact .inl ⟨below, by simp, has⟩
        · exact .inr ⟨tail, rfl, has⟩
  | other name rest ih =>
    obtain ⟨_, _, examined⟩ := examined
    simpa [visible, HasFile] using ih examined target

def Event.path? : Event → Option Path
  | .found entry => some entry.relPath
  | .unreadable _ => none

def foundPaths (events : List Event) : List Path :=
  events.filterMap Event.path?

def Complete (events : List Event) : Prop :=
  ∀ path, .unreadable path ∉ events

section Stack

variable (settings errors)

def Stack.visible (stack : Stack) : List Path :=
  stack.flatMap fun directory => directory.2.visible settings errors directory.1

def Stack.Listed (stack : Stack) : Prop :=
  ∀ directory ∈ stack, directory.2.Listed errors directory.1 0

end Stack

@[simp] theorem foundPaths_cons_found (entry : Entry) (events : List Event) :
    foundPaths (.found entry :: events) = entry.relPath :: foundPaths events := rfl

@[simp] theorem foundPaths_append (first second : List Event) :
    foundPaths (first ++ second) = foundPaths first ++ foundPaths second :=
  List.filterMap_append

@[simp] theorem complete_cons_found (entry : Entry) (events : List Event) :
    Complete (.found entry :: events) ↔ Complete events := by
  simp [Complete]

@[simp] theorem complete_append (first second : List Event) :
    Complete (first ++ second) ↔ Complete first ∧ Complete second := by
  simp [Complete, forall_and]

@[simp] theorem not_complete_unreadable (path : Path) : ¬Complete [.unreadable path] := by
  simp [Complete]

theorem readDirectory_visible {listing : Listing} {path : Path} {index : ℕ} {stack : Stack}
    (listed : listing.Listed errors path index) :
    Complete (readDirectory settings errors path listing index stack).1 ∧
      (foundPaths (readDirectory settings errors path listing index stack).1 ++
        Stack.visible settings errors
          (readDirectory settings errors path listing index stack).2).Perm
        (listing.visible settings errors path ++ Stack.visible settings errors stack) := by
  induction listing generalizing index stack with
  | nil =>
    have ends : errors.scandir path index = false := listed
    simp [readDirectory, ends, Listing.visible, foundPaths, Complete]
  | file name stat rest ih =>
    obtain ⟨ends, listed⟩ := listed
    obtain ⟨complete, perm⟩ := @ih (index + 1) stack listed
    simp only [readDirectory, ends, Bool.false_eq_true, if_false, Listing.visible]
    by_cases skips : (errors.isDir (path ++ [name]) || errors.isFile (path ++ [name])) = true
    · simp only [skips, if_true, Bool.true_or]
      exact ⟨complete, perm⟩
    · by_cases accepted : settings.accepts name = true
      · by_cases unread : errors.stat (path ++ [name]) = true
        · simp only [skips, accepted, unread, Bool.or_true, if_true, Bool.not_true,
            Bool.false_eq_true, if_false]
          exact ⟨complete, perm⟩
        · simp only [skips, accepted, unread, Bool.or_false, Bool.not_true, Bool.false_eq_true,
            if_false, foundPaths_cons_found, complete_cons_found, List.cons_append]
          exact ⟨complete, perm.cons _⟩
      · simp only [skips, accepted, Bool.not_false, Bool.or_true, Bool.true_or, if_true,
          Bool.false_eq_true, if_false]
        exact ⟨complete, perm⟩
  | directory name entries rest _ ih =>
    obtain ⟨ends, listed, _⟩ := listed
    simp only [readDirectory, ends, Bool.false_eq_true, if_false, Listing.visible]
    by_cases skips : (errors.isDir (path ++ [name]) || hidden name) = true
    · simp only [skips, if_true]
      exact ih listed
    · simp only [skips, Bool.false_eq_true, if_false]
      obtain ⟨complete, perm⟩ := @ih (index + 1) ((path ++ [name], entries) :: stack) listed
      refine ⟨complete, perm.trans ?_⟩
      simp only [Stack.visible, List.flatMap_cons, List.append_assoc]
      exact List.perm_append_comm_assoc _ _ _
  | other name rest ih =>
    obtain ⟨ends, listed⟩ := listed
    simp only [readDirectory, ends, Bool.false_eq_true, if_false, Listing.visible]
    exact ih listed

theorem readDirectory_listed_iff {listing : Listing} {path : Path} {index : ℕ} {stack : Stack} :
    (Complete (readDirectory settings errors path listing index stack).1 ∧
        Stack.Listed errors (readDirectory settings errors path listing index stack).2) ↔
      listing.Listed errors path index ∧ Stack.Listed errors stack := by
  induction listing generalizing index stack with
  | nil =>
    cases ends : errors.scandir path index <;>
      simp [readDirectory, ends, Listing.Listed, Complete]
  | file name stat rest ih =>
    cases ends : errors.scandir path index with
    | true => simp [readDirectory, ends, Listing.Listed]
    | false =>
      simp only [readDirectory, ends, Bool.false_eq_true, if_false, Listing.Listed, true_and]
      rw [← ih]
      split
      · rfl
      · split
        · rfl
        · split <;> simp
  | directory name entries rest _ ih =>
    cases ends : errors.scandir path index with
    | true => simp [readDirectory, ends, Listing.Listed]
    | false =>
      simp only [readDirectory, ends, Bool.false_eq_true, if_false, Listing.Listed, true_and]
      split
      · rename_i skips
        have vacuous : errors.isDir (path ++ [name]) = false → hidden name = false →
            entries.Listed errors (path ++ [name]) 0 := by
          intro isDir notHidden
          simp [isDir, notHidden] at skips
        rw [ih]
        constructor
        · rintro ⟨listed, others⟩
          exact ⟨⟨listed, vacuous⟩, others⟩
        · rintro ⟨⟨listed, _⟩, others⟩
          exact ⟨listed, others⟩
      · rename_i enters
        simp only [Bool.or_eq_true, not_or, Bool.not_eq_true] at enters
        rw [ih]
        simp [Stack.Listed, enters.1, enters.2, and_assoc]
  | other name rest ih =>
    cases ends : errors.scandir path index with
    | true => simp [readDirectory, ends, Listing.Listed]
    | false =>
      simp only [readDirectory, ends, Bool.false_eq_true, if_false, Listing.Listed, true_and]
      exact ih

theorem walk_complete_iff (stack : Stack) :
    Complete (walk settings errors stack) ↔ Stack.Listed errors stack := by
  induction stack using walk.induct settings errors with
  | case1 => simp [walk, Complete, Stack.Listed]
  | case2 current listing stack ih =>
    rw [walk, complete_append, ih, readDirectory_listed_iff]
    simp [Stack.Listed]

theorem walk_found (stack : Stack) (listed : Stack.Listed errors stack) :
    (foundPaths (walk settings errors stack)).Perm (Stack.visible settings errors stack) := by
  induction stack using walk.induct settings errors with
  | case1 => simp [walk, foundPaths, Stack.visible]
  | case2 current listing stack ih =>
    have here : listing.Listed errors current 0 := listed (current, listing) (by simp)
    have others : Stack.Listed errors stack := fun d mem => listed d (by simp [mem])
    have later : Complete (readDirectory settings errors current listing 0 stack).1 ∧
        Stack.Listed errors (readDirectory settings errors current listing 0 stack).2 :=
      readDirectory_listed_iff.mpr ⟨here, others⟩
    rw [walk, foundPaths_append]
    exact ((ih later.2).append_left _).trans (readDirectory_visible here).2

end Walk

end DashcamStats.Scanner
