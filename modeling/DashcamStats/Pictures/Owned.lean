import DashcamStats.Pictures.Model

namespace DashcamStats.Pictures

open Relation (ReflTransGen)

def Item.IsOf : Kind → Item → Prop
  | .detection, .track _ => True
  | .plates, .preview _ _ => True
  | _, _ => False

theorem path_injective (run : ℕ) : Function.Injective (Item.path run) := by
  intro item other same
  cases item with
  | track key =>
    cases other with
    | track key' => exact congrArg Item.track (Path.vehicle.inj same)
    | preview index slot => cases same
  | preview index slot =>
    cases other with
    | track key => cases same
    | preview index' slot' =>
      obtain ⟨-, rfl, rfl⟩ := Path.plate.inj same
      rfl

section Columns

variable {column : Column} {media media' : Media} {path : Path} {left : Option (ℕ × Item)}

def Column.Placed (kind : Kind) (column : Column) : Prop :=
  ∀ path ∈ column.crop, path = column.item.path column.run ∧ column.item.IsOf kind

theorem Column.Owned.touch (owned : column.Owned media) (apart : path ∉ column.crop) :
    column.Owned (Function.update media path left) := by
  intro other mem
  have different : other ≠ path := fun same => apart (same ▸ mem)
  rw [Function.update_of_ne different]
  exact owned other mem

theorem notMem_of_none (none : column.crop = none) : path ∉ column.crop := by
  rw [none]
  exact fun mem => by cases mem

theorem vehicle_notMem (placed : column.Placed .plates) (key : ℕ) :
    Path.vehicle key ∉ column.crop := by
  intro mem
  have ⟨same, isOf⟩ := placed _ mem
  cases isItem : column.item with
  | track key => rw [isItem] at isOf; exact isOf
  | preview index slot => rw [isItem] at same; cases same

theorem plate_notMem_of_detection (placed : column.Placed .detection) (generation index slot : ℕ) :
    Path.plate generation index slot ∉ column.crop := by
  intro mem
  have ⟨same, isOf⟩ := placed _ mem
  cases isItem : column.item with
  | track key => rw [isItem] at same; cases same
  | preview index slot => rw [isItem] at isOf; exact isOf

theorem plate_notMem (placed : column.Placed .plates) {generation : ℕ}
    (apart : column.crop ≠ none → column.run ≠ generation) (index slot : ℕ) :
    Path.plate generation index slot ∉ column.crop := by
  intro mem
  have ⟨same, isOf⟩ := placed _ mem
  have some : column.crop ≠ none := fun none => notMem_of_none none mem
  cases isItem : column.item with
  | track key => rw [isItem] at isOf; exact isOf
  | preview index' slot' =>
    rw [isItem] at same
    exact apart some (Path.plate.inj same).1.symm

theorem generation_eq (placed : column.Placed .plates) {generation : ℕ}
    (named : column.generation = some generation) : column.run = generation := by
  unfold Column.generation at named
  split at named
  next crop =>
    have ⟨same, isOf⟩ := placed _ crop
    cases isItem : column.item with
    | track key => rw [isItem] at isOf; exact isOf.elim
    | preview index slot =>
      rw [isItem] at same
      exact (Path.plate.inj same).1.symm.trans (Option.some.inj named)
  next => cases named

theorem generation_of_some (placed : column.Placed .plates) (some : column.crop ≠ none) :
    column.generation = .some column.run := by
  obtain ⟨path, crop⟩ := Option.ne_none_iff_exists'.mp some
  have ⟨same, isOf⟩ := placed path crop
  cases isItem : column.item with
  | track key => rw [isItem] at isOf; exact isOf.elim
  | preview index slot =>
    rw [isItem] at same
    rw [Column.generation, crop, same, Item.path]

end Columns

section Invariant

variable {w w' : World} {kind : Kind} {run : ℕ} {columns : List Column} {item : Item}
  {left : Option (ℕ × Item)}

def Ready (w : World) (run : ℕ) : Kind → Prop
  | .detection => w.Clearable
  | .plates => (∀ column ∈ w.observations, column.run ≠ run) ∧ run < w.nextRun

def Batch (media : Media) (kind : Kind) (run : ℕ) (columns : List Column) : Prop :=
  ∀ column ∈ columns, column.run = run ∧ column.Owned media ∧ column.Placed kind

def Phase.Holds (w : World) : Phase → Prop
  | .idle | .checking _ => True
  | .clearing _ => w.Clearable
  | .saving kind run columns todo =>
    Ready w run kind ∧ Batch w.media kind run columns ∧ todo.Nodup ∧
      (∀ item ∈ todo, item.IsOf kind) ∧
      ∀ column ∈ columns, column.crop ≠ none → column.item ∉ todo
  | .storing kind run columns => Ready w run kind ∧ Batch w.media kind run columns
  | .retiring generations => ∀ column ∈ w.observations, column.run ∉ generations
  | .discarding run => ∀ column ∈ w.observations, column.crop ≠ none → column.run ≠ run

structure World.Sound (w : World) : Prop where
  owned : w.Owned
  objects : ∀ column ∈ w.objects, column.Placed .detection
  observations : ∀ column ∈ w.observations, column.Placed .plates
  numbered : ∀ column ∈ w.observations, column.run < w.nextRun
  lingering : w.lingering ≠ [] → ∀ column ∈ w.objects, column.crop = none
  threads : ∀ run todo, Thread.saves run todo ∈ w.lingering → ∀ item ∈ todo, item.IsOf .detection
  phase : w.phase.Holds w

theorem sound_touch {path : Path} {phase : Phase} {lingering : List Thread} (sound : w.Sound)
    (objects : ∀ column ∈ w.objects, path ∉ column.crop)
    (observations : ∀ column ∈ w.observations, path ∉ column.crop)
    (still : lingering ≠ [] → w.lingering ≠ [])
    (threads : ∀ run todo, Thread.saves run todo ∈ lingering →
      ∀ item ∈ todo, item.IsOf .detection)
    (holds : phase.Holds { w with
      media := Function.update w.media path left, phase := phase, lingering := lingering }) :
    World.Sound { w with
      media := Function.update w.media path left, phase := phase, lingering := lingering } where
  owned := {
    objects := fun column mem => (sound.owned.objects column mem).touch (objects column mem)
    observations := fun column mem =>
      (sound.owned.observations column mem).touch (observations column mem) }
  objects := sound.objects
  observations := sound.observations
  numbered := sound.numbered
  lingering some := sound.lingering (still some)
  threads := threads
  phase := holds

theorem sound_phase {phase : Phase} (sound : w.Sound) (holds : phase.Holds w) :
    World.Sound { w with phase := phase } := by
  refine { sound with owned := ⟨sound.owned.objects, sound.owned.observations⟩, phase := ?_ }
  cases phase with
  | saving kind => cases kind <;> exact holds
  | storing kind => cases kind <;> exact holds
  | _ => exact holds

theorem batch_blank (media : Media) (kind : Kind) (run : ℕ) (items : List Item) :
    Batch media kind run (blank run items) ∧ ∀ column ∈ blank run items, column.crop = none := by
  have bare : ∀ column ∈ blank run items, column.run = run ∧ column.crop = none := by
    intro column mem
    obtain ⟨item, -, rfl⟩ := List.mem_map.mp mem
    exact ⟨rfl, rfl⟩
  refine ⟨fun column mem => ?_, fun column mem => (bare column mem).2⟩
  have none := (bare column mem).2
  exact ⟨(bare column mem).1, fun path mem => (notMem_of_none none mem).elim,
    fun path mem => (notMem_of_none none mem).elim⟩

theorem sound_detects (sound : w.Sound) (step : Detects w w')
    (clearable : ∀ run, w.phase = .idle → w'.phase = .clearing run → w.Clearable) : w'.Sound := by
  have holds := sound.phase
  cases step with
  | begins idle =>
    have clear := clearable _ idle rfl
    exact { sound with
      owned := ⟨sound.owned.objects, sound.owned.observations⟩
      numbered := fun column mem => Nat.lt_succ_of_lt (sound.numbered column mem)
      phase := clear }
  | clears at_ key =>
    rw [at_] at holds
    refine sound_touch sound (fun column mem => notMem_of_none (holds.1 column mem))
      (fun column mem => vehicle_notMem (sound.observations column mem) key) id sound.threads ?_
    rw [at_]
    exact holds
  | @cleared run at_ keys bare apart =>
    rw [at_] at holds
    have ⟨batch, isBare⟩ := batch_blank w.media .detection run (bare.map .track)
    refine sound_phase sound ⟨holds, batch, apart.map fun _ _ => Item.track.inj, ?_, ?_⟩
    · intro item mem
      obtain ⟨key, -, rfl⟩ := List.mem_map.mp mem
      trivial
    · exact fun column mem some => absurd (isBare column mem) some
  | cancelledClearing at_ =>
    rw [at_] at holds
    refine { sound with
      owned := ⟨sound.owned.objects, sound.owned.observations⟩
      lingering := fun _ => holds.1
      threads := fun run todo mem => ?_
      phase := trivial }
    rcases List.mem_cons.mp mem with same | mem
    · cases same
    · exact sound.threads run todo mem
  | @cancelledSaving run columns todo at_ =>
    rw [at_] at holds
    refine { sound with
      owned := ⟨sound.owned.objects, sound.owned.observations⟩
      lingering := fun _ => holds.1.1
      threads := fun run' todo' mem => ?_
      phase := trivial }
    rcases List.mem_cons.mp mem with same | mem
    · cases same
      exact holds.2.2.2.1
    · exact sound.threads run' todo' mem
  | fails at_ => exact sound_phase sound trivial

theorem sound_observations {phase : Phase} (sound : w.Sound) (ready : Ready w run .plates)
    (batch : Batch w.media .plates run columns)
    (holds : phase.Holds { w with observations := columns, phase := phase }) :
    World.Sound { w with observations := columns, phase := phase } where
  owned := ⟨sound.owned.objects, fun column mem => (batch column mem).2.1⟩
  objects := sound.objects
  observations column mem := (batch column mem).2.2
  numbered column mem := (batch column mem).1 ▸ ready.2
  lingering := sound.lingering
  threads := sound.threads
  phase := holds

theorem sound_observes (sound : w.Sound) (step : Observes w w') : w'.Sound := by
  have holds := sound.phase
  cases step with
  | begins idle items bare apart previews =>
    have ⟨batch, isBare⟩ := batch_blank w.media .plates w.nextRun bare
    refine { sound with
      owned := ⟨sound.owned.objects, sound.owned.observations⟩
      numbered := fun column mem => Nat.lt_succ_of_lt (sound.numbered column mem)
      phase := ⟨⟨fun column mem => Nat.ne_of_lt (sound.numbered column mem), Nat.lt_succ_self _⟩,
        batch, apart, fun item mem => ?_, fun column mem some => absurd (isBare column mem) some⟩ }
    obtain ⟨index, slot, rfl⟩ := previews item mem
    trivial
  | @empties run columns at_ nothing index slot =>
    rw [at_] at holds
    have apart : ∀ column ∈ w.observations, column.crop ≠ none → column.run ≠ run :=
      fun column mem _ => holds.1.1 column mem
    refine sound_touch sound
      (fun column mem => plate_notMem_of_detection (sound.objects column mem) run index slot)
      (fun column mem => plate_notMem (sound.observations column mem) (apart column mem) index slot)
      id sound.threads ?_
    rw [at_]
    refine ⟨holds.1, fun column mem => ?_, holds.2.2⟩
    have ⟨sameRun, owned, placed⟩ := holds.2.1 column mem
    exact ⟨sameRun, owned.touch (notMem_of_none (nothing column mem)), placed⟩
  | failsSaving at_ =>
    rw [at_] at holds
    exact sound_phase sound fun column mem _ => holds.1.1 column mem
  | fails at_ => exact sound_phase sound trivial
  | uncertain at_ =>
    rw [at_] at holds
    exact sound_observations sound holds.1 holds.2 trivial
  | @unreferenced run at_ none =>
    refine sound_phase sound fun column mem some same => none ?_
    have named := generation_of_some (sound.observations column mem) some
    exact List.mem_filterMap.mpr ⟨column, mem, same ▸ named⟩
  | preserves at_ => exact sound_phase sound trivial
  | discards at_ index slot =>
    rw [at_] at holds
    refine sound_touch sound
      (fun column mem => plate_notMem_of_detection (sound.objects column mem) _ index slot)
      (fun column mem => plate_notMem (sound.observations column mem) (holds column mem) index slot)
      id sound.threads ?_
    rw [at_]
    exact holds
  | discarded at_ => exact sound_phase sound trivial
  | @retires generations at_ generation old index slot =>
    rw [at_] at holds
    have apart : ∀ column ∈ w.observations, column.crop ≠ none → column.run ≠ generation :=
      fun column mem _ same => holds column mem (same ▸ old)
    refine sound_touch sound
      (fun column mem => plate_notMem_of_detection (sound.objects column mem) _ index slot)
      (fun column mem => plate_notMem (sound.observations column mem) (apart column mem) index slot)
      id sound.threads ?_
    rw [at_]
    exact holds
  | retired at_ => exact sound_phase sound trivial

theorem path_notMem (sound : w.Sound) (ready : Ready w run kind) (isOf : item.IsOf kind) :
    (∀ column ∈ w.objects, item.path run ∉ column.crop) ∧
      ∀ column ∈ w.observations, item.path run ∉ column.crop := by
  cases kind with
  | detection =>
    cases item with
    | track key =>
      exact ⟨fun column mem => notMem_of_none (ready.1 column mem),
        fun column mem => vehicle_notMem (sound.observations column mem) key⟩
    | preview index slot => exact isOf.elim
  | plates =>
    cases item with
    | track key => exact isOf.elim
    | preview index slot =>
      exact ⟨fun column mem =>
          plate_notMem_of_detection (sound.objects column mem) run index slot,
        fun column mem =>
          plate_notMem (sound.observations column mem) (fun _ => ready.1 column mem) index slot⟩

theorem sound_save {crop : Option Path} {todo : List Item} (sound : w.Sound)
    (at_ : w.phase = .saving kind run columns (item :: todo))
    (saved : ∀ path ∈ crop, path = item.path run ∧ left = some (run, item)) :
    World.Sound { w.save run item left with
      phase := .saving kind run (⟨run, item, crop⟩ :: columns) todo } := by
  have holds := sound.phase
  rw [at_] at holds
  obtain ⟨ready, batch, apart, isOf, undone⟩ := holds
  have here : item.IsOf kind := isOf item List.mem_cons_self
  have ⟨objects, observations⟩ := path_notMem sound ready here
  refine sound_touch sound objects observations id sound.threads ⟨?_, ?_, ?_, ?_, ?_⟩
  · cases kind <;> exact ready
  · intro column mem
    rcases List.mem_cons.mp mem with rfl | mem
    · refine ⟨rfl, fun path isThere => ?_, fun path isThere => ⟨(saved path isThere).1, here⟩⟩
      have ⟨same, isLeft⟩ := saved path isThere
      show Function.update w.media (item.path run) left path = some (run, item)
      rw [same, Function.update_self, isLeft]
    · have ⟨sameRun, owned, placed⟩ := batch column mem
      refine ⟨sameRun, owned.touch fun isThere => ?_, placed⟩
      -- The row has this picture, so its item is not among those that are left to write.
      have some : column.crop ≠ none := fun none => notMem_of_none none isThere
      have same := (placed _ isThere).1
      rw [sameRun] at same
      exact undone column mem some (path_injective run same ▸ List.mem_cons_self)
  · exact apart.of_cons
  · exact fun other mem => isOf other (List.mem_cons_of_mem _ mem)
  · intro column mem some
    rcases List.mem_cons.mp mem with rfl | mem
    · exact (List.nodup_cons.mp apart).1
    · exact fun isLeft => undone column mem some (List.mem_cons_of_mem _ isLeft)

theorem sound_stores (sound : w.Sound) (step : Stores w w') : w'.Sound := by
  have holds := sound.phase
  cases step with
  | saves at_ =>
    refine sound_save sound at_ fun path isThere => ?_
    exact ⟨(Option.some.inj isThere).symm, rfl⟩
  | saveFails at_ left => exact sound_save sound at_ fun path isThere => by cases isThere
  | saved at_ =>
    rw [at_] at holds
    exact sound_phase sound ⟨holds.1, holds.2.1⟩
  | @commits kind run columns at_ =>
    rw [at_] at holds
    obtain ⟨ready, batch⟩ := holds
    cases kind with
    | detection =>
      exact { sound with
        owned := ⟨fun column mem => (batch column mem).2.1, sound.owned.observations⟩
        objects := fun column mem => (batch column mem).2.2
        lingering := fun some => absurd ready.2 some
        phase := trivial }
    | plates =>
      refine sound_observations sound ready batch fun column mem old => ?_
      obtain ⟨replaced, isOld, named⟩ := List.mem_filterMap.mp old
      have same := generation_eq (sound.observations replaced isOld) named
      exact ready.1 replaced isOld (same.trans (batch column mem).1)

theorem holds_lingering {media : Media} {phase : Phase} {lingering : List Thread}
    (holds : phase.Holds w) (some : w.lingering ≠ [])
    (same : ∀ path, (∀ key, path ≠ .vehicle key) → media path = w.media path) :
    phase.Holds { w with media := media, lingering := lingering } := by
  have kept : ∀ {run columns}, Batch w.media .plates run columns →
      Batch media .plates run columns := by
    intro run columns batch column mem
    have ⟨sameRun, owned, placed⟩ := batch column mem
    refine ⟨sameRun, fun path isThere => ?_, placed⟩
    rw [same path fun key isVehicle => vehicle_notMem placed key (isVehicle ▸ isThere)]
    exact owned path isThere
  cases phase with
  | idle | checking => trivial
  | clearing => exact absurd holds.2 some
  | saving kind =>
    cases kind with
    | detection => exact absurd holds.1.2 some
    | plates => exact ⟨holds.1, kept holds.2.1, holds.2.2⟩
  | storing kind =>
    cases kind with
    | detection => exact absurd holds.1.2 some
    | plates => exact ⟨holds.1, kept holds.2⟩
  | retiring => exact holds
  | discarding => exact holds

theorem holds_vehicle {key : ℕ} {phase : Phase} {lingering : List Thread} (holds : phase.Holds w)
    (some : w.lingering ≠ []) : phase.Holds { w with
      media := Function.update w.media (.vehicle key) left
      lingering := lingering } :=
  holds_lingering holds some fun _ apart => Function.update_of_ne (apart key) _ _

theorem sound_lingers (sound : w.Sound) (step : Lingers w w') : w'.Sound := by
  have holds := sound.phase
  cases step with
  | removes mem key =>
    have some : w.lingering ≠ [] := List.ne_nil_of_mem mem
    exact sound_touch sound (fun column mem => notMem_of_none (sound.lingering some column mem))
      (fun column mem => vehicle_notMem (sound.observations column mem) key) id sound.threads
      (holds_vehicle holds some)
  | @saves before after run item todo split left =>
    have mem : Thread.saves run (item :: todo) ∈ w.lingering :=
      split ▸ List.mem_append_right _ List.mem_cons_self
    have some : w.lingering ≠ [] := List.ne_nil_of_mem mem
    have all := sound.threads run _ mem
    cases item with
    | preview index slot => exact (all _ List.mem_cons_self).elim
    | track key =>
      refine sound_touch sound
        (fun column mem => notMem_of_none (sound.lingering some column mem))
        (fun column mem => vehicle_notMem (sound.observations column mem) key) (fun _ => some) ?_
        (holds_vehicle holds some)
      intro run' todo' mem'
      rcases List.mem_append.mp mem' with mem' | mem'
      · exact sound.threads run' todo' (split ▸ List.mem_append_left _ mem')
      · rcases List.mem_cons.mp mem' with same | mem'
        · cases same
          exact fun item mem => all item (List.mem_cons_of_mem _ mem)
        · exact sound.threads run' todo'
            (split ▸ List.mem_append_right _ (List.mem_cons_of_mem _ mem'))
  | @ends before after thread split =>
    have some : w.lingering ≠ [] := by
      rw [split]
      exact List.append_ne_nil_of_right_ne_nil _ (List.cons_ne_nil _ _)
    have fewer : ∀ other ∈ before ++ after, other ∈ w.lingering := by
      rw [split]
      exact fun other mem => ((List.sublist_cons_self thread after).append_left before).subset mem
    exact { sound with
      owned := ⟨sound.owned.objects, sound.owned.observations⟩
      lingering := fun _ => sound.lingering some
      threads := fun run todo mem => sound.threads run todo (fewer _ mem)
      phase := holds_lingering holds some fun _ _ => rfl }

theorem sound_step (sound : w.Sound) (step : Orderly w w') : w'.Sound := by
  obtain ⟨step, clearable⟩ := step
  cases step with
  | detects step => exact sound_detects sound step clearable
  | observes step => exact sound_observes sound step
  | stores step => exact sound_stores sound step
  | lingers step => exact sound_lingers sound step
  | dies =>
    exact { sound with
      owned := ⟨sound.owned.objects, sound.owned.observations⟩
      lingering := fun some => absurd rfl some
      threads := fun _ _ mem => absurd mem List.not_mem_nil
      phase := trivial }

theorem sound_fresh : World.fresh.Sound where
  owned := ⟨fun _ mem => absurd mem List.not_mem_nil, fun _ mem => absurd mem List.not_mem_nil⟩
  objects _ mem := absurd mem List.not_mem_nil
  observations _ mem := absurd mem List.not_mem_nil
  numbered _ mem := absurd mem List.not_mem_nil
  lingering some := absurd rfl some
  threads _ _ mem := absurd mem List.not_mem_nil
  phase := trivial

theorem sound_run (run : ReflTransGen Orderly World.fresh w) : w.Sound := by
  induction run with
  | refl => exact sound_fresh
  | tail _ step ih => exact sound_step ih step

theorem rows_kept (step : Step w w')
    (uncommitted : ∀ kind run columns, w.phase ≠ .storing kind run columns) :
    w'.objects = w.objects ∧ w'.observations = w.observations := by
  cases step with
  | detects step => cases step <;> exact ⟨rfl, rfl⟩
  | observes step =>
    cases step with
    | uncertain at_ => exact absurd at_ (uncommitted _ _ _)
    | _ => exact ⟨rfl, rfl⟩
  | stores step =>
    cases step with
    | commits at_ => exact absurd at_ (uncommitted _ _ _)
    | _ => exact ⟨rfl, rfl⟩
  | lingers step => cases step <;> exact ⟨rfl, rfl⟩
  | dies => exact ⟨rfl, rfl⟩

end Invariant

section Pictures

variable {w : World}

theorem pictures_owned (run : ReflTransGen Orderly World.fresh w) :
    w.Owned ∧ ∀ w', Step w w' →
      (∀ kind run columns, w.phase ≠ .storing kind run columns) →
      w'.objects = w.objects ∧ w'.observations = w.observations :=
  ⟨(sound_run run).owned, fun _ step uncommitted => rows_kept step uncommitted⟩

theorem pictures_owned_detected : ∃ w, ReflTransGen Orderly World.fresh w ∧
    w.objects = [⟨0, .track 1, some (.vehicle 1)⟩] ∧ w.Owned := by
  have run := ReflTransGen.refl (r := Orderly) (a := World.fresh)
    |>.tail ⟨.detects (.begins rfl), fun _ _ _ => ⟨fun _ mem => absurd mem List.not_mem_nil, rfl⟩⟩
    |>.tail ⟨.detects (.cleared rfl [1] [] (List.nodup_singleton 1)), fun _ idle => by cases idle⟩
    |>.tail ⟨.stores (.saves rfl), fun _ idle => by cases idle⟩
    |>.tail ⟨.stores (.saved rfl), fun _ idle => by cases idle⟩
    |>.tail ⟨.stores (.commits rfl), fun _ idle => by cases idle⟩
  exact ⟨_, run, rfl, (pictures_owned run).1⟩

/-- The second detection run clears the directory of the first one's pictures and fails. -/
theorem pictures_lost : ∃ w, ReflTransGen Step World.fresh w ∧ w.phase = .idle ∧
    w.objects = [⟨0, .track 1, some (.vehicle 1)⟩] ∧ w.media (.vehicle 1) = none ∧
    ¬ w.Owned := by
  have run := ReflTransGen.refl (r := Step) (a := World.fresh)
    |>.tail (.detects (.begins rfl))
    |>.tail (.detects (.cleared rfl [1] [] (List.nodup_singleton 1)))
    |>.tail (.stores (.saves rfl))
    |>.tail (.stores (.saved rfl))
    |>.tail (.stores (.commits rfl))
    |>.tail (.detects (.begins rfl))
    |>.tail (.detects (.clears rfl 1))
    |>.tail (.detects (.cleared rfl [] [] List.nodup_nil))
    |>.tail (.stores (.saved rfl))
    |>.tail (.detects (.fails rfl))
  refine ⟨_, run, rfl, rfl, rfl, fun owned => ?_⟩
  have lost := owned.objects _ List.mem_cons_self (.vehicle 1) rfl
  cases lost

end Pictures

end DashcamStats.Pictures
