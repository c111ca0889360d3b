import DashcamStats.UnitLogs.Levels

namespace DashcamStats.UnitLogs

open Relation

structure World where
  head : Head
  -- What a property was before we set it: set by another party, or given back
  found : Text → Text
  -- Its last change was ours, to a level of a policy.
  ours : Text → Bool
  -- Nobody else has set it since the receipt was left.
  stands : Text → Bool
  -- Every level that receipts have recorded for it
  recorded : Text → List Text

def World.fresh : World where
  head := { props := fun _ => [], receipt := none, control := .idle }
  found := fun _ => []
  ours := fun _ => false
  stands := fun _ => true
  recorded := fun _ => []

def Record.levels (record : Record) : List Text := [record.original, record.previous, record.target]

def World.leave (records : List Record) (world : World) : World :=
  { world with
    stands := fun _ => true
    recorded := fun tag => world.recorded tag ++
      (records.filter fun record => record.tag = tag).flatMap Record.levels }

def World.write (entry : Entry) (world : World) : World :=
  { world with
    ours := Function.update world.ours entry.tag entry.keep
    found := if entry.keep then world.found
      else Function.update world.found entry.tag (setting entry.target) }

def World.remember (event : Event) (world : World) : World :=
  match event, world.head.control with
  | .publish .., .planned _ plan => world.leave (plan.map Entry.pending)
  | .set, .applying _ _ (entry :: _) =>
    if getprop (world.head.props entry.tag) = entry.before then world.write entry else world
  | .finish .., .applying _ done _ => world.leave ((done.filter Entry.keep).map Entry.final)
  | .reboot, _ =>
    { world with found := fun _ => [], ours := fun _ => false, stands := fun _ => false }
  | .outside tag value, _ =>
    { world with
      found := Function.update world.found tag value
      ours := Function.update world.ours tag false
      stands := Function.update world.stands tag false }
  | _, _ => world

variable (sha256 : Text → Digest)

def World.step (event : Event) (world : World) : Option World :=
  (world.head.step sha256 event).map fun head => { world.remember event with head }

def Event.Foreign (world : World) : Event → Prop
  | .outside tag value => value = [] ∨ value ∉ world.recorded tag
  | _ => True

def Event.Plain : Event → Prop
  | .outside _ value => value ≠ unset ∧ value.getLast? ≠ some '\n'
  | _ => True

def Step (world world' : World) : Prop :=
  ∃ event : Event, event.Foreign world ∧ world.step sha256 event = some world'

def PlainStep (world world' : World) : Prop :=
  ∃ event : Event, (event.Foreign world ∧ event.Plain) ∧ world.step sha256 event = some world'

-- The level was recorded as the value that the property had, or as none for a legacy `E`.
def World.Origin (world : World) (tag original : Text) : Prop :=
  setting original = world.found tag ∨
    (legacy tag = true ∧ world.found tag = ['E'] ∧ original = unset)

structure World.Recorded (world : World) : Prop where
  accepted : ∀ file, world.head.receipt = some file → ∃ raw,
    levelReceiptRead sha256 (some file) = some raw ∧ (parseLevelReceipt sha256 raw).isSome = true
  original : ∀ file raw token records, world.head.receipt = some file →
    levelReceiptRead sha256 (some file) = some raw →
    parseLevelReceipt sha256 raw = some (token, records) →
    ∀ record ∈ records, world.stands record.tag = true → world.Origin record.tag record.original

structure World.Faithful (world : World) (event : Event) (world' : World) : Prop where
  /-- A property changes to the level of the policy, or it has left the policy, holds one of our
  levels, and gets its original. -/
  changes : ∀ levels done rest, event = .set → world.head.control = .applying levels done rest →
    ∀ tag, world'.head.props tag ≠ world.head.props tag →
      levels.lookup tag = some (world'.head.props tag) ∨
      (levels.lookup tag = none ∧
        (world.ours tag = true ∨ (legacy tag = true ∧ world.head.props tag = ['E'])) ∧
        ∃ original, world.Origin tag original ∧ world'.head.props tag = setting original)
  -- Nothing else that this code does changes one.
  keeps : ∀ tag, event ≠ .set → event ≠ .reboot → (∀ value, event ≠ .outside tag value) →
    world'.head.props tag = world.head.props tag
  completed : ∀ levels done device inode uid, event = .finish device inode uid →
    world.head.control = .applying levels done [] →
    (∀ tag level, levels.lookup tag = some level → world'.head.props tag = level) ∧
      ∀ tag, levels.lookup tag = none → world'.ours tag = false

end DashcamStats.UnitLogs
