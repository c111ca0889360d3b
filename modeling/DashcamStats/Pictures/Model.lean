import Mathlib.Data.List.Nodup
import Mathlib.Logic.Relation

namespace DashcamStats.Pictures

inductive Item where
  | track (key : ℕ)
  | preview (index slot : ℕ)
  deriving DecidableEq

inductive Path where
  | vehicle (key : ℕ)
  | plate (generation index slot : ℕ)
  deriving DecidableEq

def Item.path (run : ℕ) : Item → Path
  | .track key => .vehicle key
  | .preview index slot => .plate run index slot

structure Column where
  run : ℕ
  item : Item
  crop : Option Path

/-- What is on disk: for each path, the run and the item of the picture there -/
abbrev Media := Path → Option (ℕ × Item)

inductive Kind where
  | detection
  | plates
  deriving DecidableEq

inductive Thread where
  | removes
  | saves (run : ℕ) (todo : List Item)

inductive Phase where
  | idle
  -- `_remove_media_dirs` before a detection run builds its paths
  | clearing (run : ℕ)
  | saving (kind : Kind) (run : ℕ) (columns : List Column) (todo : List Item)
  | storing (kind : Kind) (run : ℕ) (columns : List Column)
  -- The deferred removal of the generations that a commit has replaced
  | retiring (generations : List ℕ)
  -- A plate run that failed looks whether its rows have been committed.
  | checking (run : ℕ)
  | discarding (run : ℕ)

structure World where
  media : Media
  objects : List Column
  observations : List Column
  nextRun : ℕ
  phase : Phase
  lingering : List Thread

def Column.generation (column : Column) : Option ℕ :=
  match column.crop with
  | some (.plate generation _ _) => some generation
  | _ => none

def plateGenerationDirs (columns : List Column) : List ℕ := columns.filterMap Column.generation

def World.save (run : ℕ) (item : Item) (left : Option (ℕ × Item)) (w : World) : World :=
  { w with media := Function.update w.media (item.path run) left }

def World.erase (path : Path) (w : World) : World :=
  { w with media := Function.update w.media path none }

def World.store (kind : Kind) (columns : List Column) (w : World) : World :=
  match kind with
  | .detection => { w with objects := columns, phase := .idle }
  | .plates =>
    { w with
      observations := columns
      phase := .retiring (plateGenerationDirs w.observations) }

def blank (run : ℕ) (items : List Item) : List Column := items.map fun item => ⟨run, item, none⟩

/-- `stage_detect` -/
inductive Detects : World → World → Prop
  | begins {w : World} (idle : w.phase = .idle) :
      Detects w { w with nextRun := w.nextRun + 1, phase := .clearing w.nextRun }
  | clears {w : World} {run : ℕ} (at_ : w.phase = .clearing run) (key : ℕ) :
      Detects w (w.erase (.vehicle key))
  | cleared {w : World} {run : ℕ} (at_ : w.phase = .clearing run) (keys bare : List ℕ)
      (apart : keys.Nodup) :
      Detects w { w with
        phase := .saving .detection run (blank run (bare.map .track)) (keys.map .track) }
  | cancelledClearing {w : World} {run : ℕ} (at_ : w.phase = .clearing run) :
      Detects w { w with phase := .idle, lingering := .removes :: w.lingering }
  | cancelledSaving {w : World} {run : ℕ} {columns : List Column} {todo : List Item}
      (at_ : w.phase = .saving .detection run columns todo) :
      Detects w { w with phase := .idle, lingering := .saves run todo :: w.lingering }
  | fails {w : World} {run : ℕ} {columns : List Column}
      (at_ : w.phase = .storing .detection run columns) : Detects w { w with phase := .idle }

/-- `_write_observations` -/
inductive Observes : World → World → Prop
  | begins {w : World} (idle : w.phase = .idle) (items bare : List Item) (apart : items.Nodup)
      (previews : ∀ item ∈ items, ∃ index slot, item = .preview index slot) :
      Observes w { w with
        nextRun := w.nextRun + 1
        phase := .saving .plates w.nextRun (blank w.nextRun bare) items }
  -- The directory goes again when none of its pictures could be written.
  | empties {w : World} {run : ℕ} {columns : List Column}
      (at_ : w.phase = .saving .plates run columns [])
      (nothing : ∀ column ∈ columns, column.crop = none) (index slot : ℕ) :
      Observes w (w.erase (.plate run index slot))
  | failsSaving {w : World} {run : ℕ} {columns : List Column} {todo : List Item}
      (at_ : w.phase = .saving .plates run columns todo) :
      Observes w { w with phase := .discarding run }
  | fails {w : World} {run : ℕ} {columns : List Column}
      (at_ : w.phase = .storing .plates run columns) :
      Observes w { w with phase := .checking run }
  -- The commit is done, but the await on it is cancelled.
  | uncertain {w : World} {run : ℕ} {columns : List Column}
      (at_ : w.phase = .storing .plates run columns) :
      Observes w { w with observations := columns, phase := .checking run }
  | unreferenced {w : World} {run : ℕ} (at_ : w.phase = .checking run)
      (none : run ∉ plateGenerationDirs w.observations) :
      Observes w { w with phase := .discarding run }
  | preserves {w : World} {run : ℕ} (at_ : w.phase = .checking run) :
      Observes w { w with phase := .idle }
  | discards {w : World} {run : ℕ} (at_ : w.phase = .discarding run) (index slot : ℕ) :
      Observes w (w.erase (.plate run index slot))
  | discarded {w : World} {run : ℕ} (at_ : w.phase = .discarding run) :
      Observes w { w with phase := .idle }
  | retires {w : World} {generations : List ℕ} (at_ : w.phase = .retiring generations)
      {generation : ℕ} (old : generation ∈ generations) (index slot : ℕ) :
      Observes w (w.erase (.plate generation index slot))
  | retired {w : World} {generations : List ℕ} (at_ : w.phase = .retiring generations) :
      Observes w { w with phase := .idle }

/-- `_save_jpegs` and `write_with_retry`, which both stages use. A locked attempt is rolled back and
made again. -/
inductive Stores : World → World → Prop
  | saves {w : World} {kind : Kind} {run : ℕ} {columns : List Column} {item : Item}
      {todo : List Item} (at_ : w.phase = .saving kind run columns (item :: todo)) :
      Stores w { w.save run item (some (run, item)) with
        phase := .saving kind run (⟨run, item, some (item.path run)⟩ :: columns) todo }
  | saveFails {w : World} {kind : Kind} {run : ℕ} {columns : List Column} {item : Item}
      {todo : List Item} (at_ : w.phase = .saving kind run columns (item :: todo))
      (left : Option (ℕ × Item)) :
      Stores w { w.save run item left with
        phase := .saving kind run (⟨run, item, none⟩ :: columns) todo }
  | saved {w : World} {kind : Kind} {run : ℕ} {columns : List Column}
      (at_ : w.phase = .saving kind run columns []) :
      Stores w { w with phase := .storing kind run columns }
  | commits {w : World} {kind : Kind} {run : ℕ} {columns : List Column}
      (at_ : w.phase = .storing kind run columns) : Stores w (w.store kind columns)

inductive Lingers : World → World → Prop
  | removes {w : World} (mem : Thread.removes ∈ w.lingering) (key : ℕ) :
      Lingers w (w.erase (.vehicle key))
  | saves {w : World} {before after : List Thread} {run : ℕ} {item : Item} {todo : List Item}
      (split : w.lingering = before ++ .saves run (item :: todo) :: after)
      (left : Option (ℕ × Item)) :
      Lingers w { w.save run item left with lingering := before ++ .saves run todo :: after }
  | ends {w : World} {before after : List Thread} {thread : Thread}
      (split : w.lingering = before ++ thread :: after) :
      Lingers w { w with lingering := before ++ after }

inductive Step : World → World → Prop
  | detects {w w' : World} : Detects w w' → Step w w'
  | observes {w w' : World} : Observes w w' → Step w w'
  | stores {w w' : World} : Stores w w' → Step w w'
  | lingers {w w' : World} : Lingers w w' → Step w w'
  | dies {w : World} : Step w { w with phase := .idle, lingering := [] }

def Column.Owned (media : Media) (column : Column) : Prop :=
  ∀ path ∈ column.crop, media path = some (column.run, column.item)

structure World.Owned (w : World) : Prop where
  objects : ∀ column ∈ w.objects, column.Owned w.media
  observations : ∀ column ∈ w.observations, column.Owned w.media

def World.fresh : World := ⟨fun _ => none, [], [], 0, .idle, []⟩

/-- A detection run may clear its directory: no row has a picture there, and no thread of an earlier
run is left. -/
def World.Clearable (w : World) : Prop :=
  (∀ column ∈ w.objects, column.crop = none) ∧ w.lingering = []

def Orderly (w w' : World) : Prop :=
  Step w w' ∧ (∀ run, w.phase = .idle → w'.phase = .clearing run → w.Clearable)

end DashcamStats.Pictures
