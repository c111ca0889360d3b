import Mathlib.Data.Char
import Mathlib.Data.List.Dedup
import Mathlib.Data.List.Lex
import Mathlib.Data.List.Sort
import DashcamStats.UnitLogs.Receipt

namespace DashcamStats.UnitLogs

def legacyAllowTags : List Text :=
  ["AndroidRuntime", "DEBUG", "ActivityManager", "lowmemorykiller", "UnisocWatchdog",
    "ThermalManagerService", "ZQC-CamSubStream0", "ZQC-CamSubStream1", "CarPlayTiming",
    "WifiStartupGuard", "zj", "System.err", "WindowManager"].map String.toList

/-- What `writer_levels` gives -/
abbrev Levels := List (Text × Text)

-- `getprop` in a command substitution, and `-` for nothing
def getprop (value : Text) : Text :=
  let read := value.rdropWhile (· = '\n')
  if read = [] then unset else read

-- What `setprop` is given for it
def setting (level : Text) : Text := if level = unset then [] else level

def acceptable (current : Text) : Bool :=
  (current.all isLevelChar || decide (current = unset)) && decide (current.length ≤ 32)

structure Entry where
  tag : Text
  original : Text
  before : Text
  target : Text
  keep : Bool
  deriving DecidableEq

def legacy (tag : Text) : Bool := legacyAllowTags.contains tag

def planTag (tag : Text) (prior : Option Record) (desired : Option Text) (current : Text) :
    Option Entry :=
  let managed := prior.any fun record => current = record.previous || current = record.target
  let inherited := prior.isNone && legacy tag && decide (current = ['E'])
  let original := if inherited then unset else
    match prior with
    | some record => if managed then record.original else current
    | none => current
  match desired with
  | some level => some ⟨tag, original, current, level, true⟩
  | none => if managed || inherited then some ⟨tag, original, current, original, false⟩ else none

def priorOf (previous : List Record) (tag : Text) : Option Record :=
  previous.find? fun record => record.tag = tag

-- The tags of `_level_setup_command`, sorted
def setupTags (levels : Levels) (previous : List Record) : List Text :=
  (levels.map Prod.fst ++ previous.map Record.tag ++ legacyAllowTags).dedup.insertionSort (· ≤ ·)

-- The checks of `_level_setup_command`
def accepted (levels : Levels) (previous : List Record) : Bool :=
  decide ((setupTags levels previous).length ≤ maxManagedTags) &&
    (setupTags levels previous).all safeTag &&
    levels.all fun level => level.2 = ['E'] || level.2 = ['F'] || level.2 = ['S']

def plan (levels : Levels) (previous : List Record) (props : Text → Text) : Option (List Entry) :=
  let tags := setupTags levels previous
  if tags.all fun tag => acceptable (getprop (props tag)) then
    some (tags.filterMap fun tag =>
      planTag tag (priorOf previous tag) (levels.lookup tag) (getprop (props tag)))
  else none

def Entry.pending (entry : Entry) : Record :=
  ⟨entry.tag, entry.original, entry.before, entry.target⟩

def Entry.final (entry : Entry) : Record := ⟨entry.tag, entry.original, entry.target, entry.target⟩

inductive Control where
  | idle
  | planned (levels : Levels) (plan : List Entry)
  | applying (levels : Levels) (done rest : List Entry)

structure Head where
  props : Text → Text
  receipt : Option File
  control : Control

/-- `device`, `inode` and `uid` are those of the new file. -/
inductive Event where
  | start (levels : Levels)
  | publish (device inode uid : UInt64)
  | set
  | finish (device inode uid : UInt64)
  | cut
  | reboot
  -- Another party sets a property.
  | outside (tag value : Text)

variable (sha256 : Text → Digest)

def Head.start (levels : Levels) (head : Head) : Option Head :=
  match levelReceiptRead sha256 head.receipt with
  | none => none
  | some raw =>
    match parseLevelReceipt sha256 raw with
    | none => none
    | some (token, previous) =>
      if accepted levels previous ∧ token = head.receipt.map (File.token sha256) then
        (plan levels previous head.props).map fun plan =>
          { head with control := .planned levels plan }
      else none

def Head.step (event : Event) (head : Head) : Option Head :=
  match event, head.control with
  | .start levels, .idle => head.start sha256 levels
  | .publish device inode uid, .planned levels plan =>
    let text := receiptText (plan.map Entry.pending)
    some { head with
      receipt := some ⟨device, inode, uid, text⟩
      control := .applying levels [] plan }
  | .set, .applying levels done (entry :: rest) =>
    if getprop (head.props entry.tag) = entry.before then
      some { head with
        props := Function.update head.props entry.tag (setting entry.target)
        control := .applying levels (done ++ [entry]) rest }
    else some { head with control := .idle }
  | .finish device inode uid, .applying _ done [] =>
    let text := receiptText ((done.filter Entry.keep).map Entry.final)
    some { head with receipt := some ⟨device, inode, uid, text⟩, control := .idle }
  | .cut, _ => some { head with control := .idle }
  | .reboot, _ => some { head with props := fun _ => [], control := .idle }
  | .outside tag value, .idle =>
    some { head with props := Function.update head.props tag value }
  | _, _ => none

end DashcamStats.UnitLogs
