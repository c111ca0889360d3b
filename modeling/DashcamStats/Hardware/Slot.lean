import DashcamStats.Hardware.MediaGate
import DashcamStats.Library.Follow

namespace DashcamStats.Hardware

open Follow Relation

namespace MediaGate

structure Sound (s : MediaGate) : Prop where
  owner : ∀ task, (s.stage task).inSlot = true ↔ s.lock = some task
  registered : ∀ child, s.alive child = true → child ∈ s.children ∨
    ∃ task work, s.stage task = .launching work child ∧ s.lock = some task
  calls : ∀ call, s.calling call = true → s.lock = none ∨
    ∃ task, s.stage task = .inferring call ∧ s.lock = some task
  awaited : ∀ task work pending, s.stage task = .settling work pending →
    ∀ child ∈ s.children, child ∈ pending
  inside : ∀ task work, s.stage task = .inside work → s.unhealthy = true ∨ s.children = []
  alone : ∀ beginning ∈ s.beginnings, beginning = ⟨false, false, false⟩

variable {s : MediaGate} {task : ℕ}

attribute [local simp] MediaGate.step

theorem Sound.fresh : Sound fresh where
  owner := by simp [MediaGate.fresh, Stage.inSlot]
  registered := by simp [MediaGate.fresh]
  calls := by simp [MediaGate.fresh]
  awaited := by simp [MediaGate.fresh]
  inside := by simp [MediaGate.fresh]
  alone := by simp [MediaGate.fresh]

theorem Sound.exclusive (sound : s.Sound) : s.Exclusive := ⟨sound.alone, sound.registered⟩

@[simp]
theorem go_stage (task : ℕ) (stage : Stage) (s : MediaGate) (other : ℕ) :
    (s.go task stage).stage other = if other = task then stage else s.stage other := by
  simp [go, Function.update_apply]

theorem any_eq_false {of : ℕ → Bool} (none : ∀ i, of i = false) (n : ℕ) : any of n = false := by
  simp [any, none]

theorem beginning_eq (dead : ∀ child, s.alive child = false)
    (still : ∀ call, s.calling call = false) (healthy : s.unhealthy = false) :
    s.beginning = ⟨false, false, false⟩ := by
  simp [beginning, any_eq_false dead, any_eq_false still, healthy]

theorem Sound.same (sound : s.Sound) (task other : ℕ) (mine : (s.stage task).inSlot = true)
    (theirs : (s.stage other).inSlot = true) : other = task := by
  have first := (sound.owner task).mp mine
  have second := (sound.owner other).mp theirs
  simpa [first] using second.symm

theorem Sound.still (sound : s.Sound) (task : ℕ) (mine : (s.stage task).inSlot = true)
    (other : ∀ call, s.stage task ≠ .inferring call) (call : ℕ) : s.calling call = false := by
  by_contra running
  obtain free | ⟨caller, at_, held⟩ := sound.calls call (by simpa using running)
  · simp [(sound.owner task).mp mine] at free
  · have same := sound.same task caller mine (by simp [at_, Stage.inSlot])
    exact other call (same ▸ at_)

theorem Sound.dead (sound : s.Sound) {work : Work} (at_ : s.stage task = .inside work)
    (healthy : s.unhealthy = false) (child : ℕ) : s.alive child = false := by
  by_contra living
  have empty : s.children = [] := by simpa [healthy] using sound.inside task work at_
  obtain listed | ⟨launcher, other, launching, _⟩ := sound.registered child (by simpa using living)
  · simp [empty] at listed
  · have same := sound.same task launcher (by simp [at_, Stage.inSlot])
      (by simp [launching, Stage.inSlot])
    subst same
    simp [at_] at launching

theorem Sound.moves (sound : s.Sound) {stage : Stage} (before : (s.stage task).inSlot = false)
    (after : stage.inSlot = false) : (s.go task stage).Sound where
  owner other := by
    by_cases same : other = task
    · subst same
      have free := sound.owner other
      simp_all [go]
    · simpa [same, go] using sound.owner other
  registered child living := by
    obtain listed | ⟨launcher, work, at_, held⟩ := sound.registered child living
    · exact .inl listed
    · refine .inr ⟨launcher, work, ?_, held⟩
      have other : launcher ≠ task := by
        rintro rfl
        simp [at_, Stage.inSlot] at before
      simpa [other] using at_
  calls call running := by
    obtain free | ⟨caller, at_, held⟩ := sound.calls call running
    · exact .inl free
    · refine .inr ⟨caller, ?_, held⟩
      have other : caller ≠ task := by
        rintro rfl
        simp [at_, Stage.inSlot] at before
      simpa [other] using at_
  awaited other work pending at_ := by
    have different : other ≠ task := by
      rintro rfl
      simp only [go_stage, if_true] at at_
      simp [at_, Stage.inSlot] at after
    exact sound.awaited other work pending (by simpa [different] using at_)
  inside other work at_ := by
    have different : other ≠ task := by
      rintro rfl
      simp only [go_stage, if_true] at at_
      simp [at_, Stage.inSlot] at after
    exact sound.inside other work (by simpa [different] using at_)
  alone := sound.alone

theorem Sound.holds (sound : s.Sound) {stage : Stage} (mine : (s.stage task).inSlot = true)
    (launched : ∀ work child, s.stage task = .launching work child → child ∈ s.children)
    (called : ∀ call, s.stage task ≠ .inferring call) (after : stage.inSlot = true)
    (awaits : ∀ work pending, stage ≠ .settling work pending)
    (enters : ∀ work, stage = .inside work → s.unhealthy = true ∨ s.children = []) :
    (s.go task stage).Sound where
  owner other := by
    by_cases same : other = task
    · subst same
      simpa [go, after] using (sound.owner other).mp mine
    · simpa [same, go] using sound.owner other
  registered child living := by
    obtain listed | ⟨launcher, work, at_, held⟩ := sound.registered child living
    · exact .inl listed
    · have same := sound.same task launcher mine (by simp [at_, Stage.inSlot])
      exact .inl (launched work child (same ▸ at_))
  calls call running := by
    have still := sound.still task mine called call
    simp_all [go]
  awaited other work pending at_ := by
    by_cases same : other = task
    · exact absurd (by simpa [same] using at_) (awaits work pending)
    · exact sound.awaited other work pending (by simpa [same] using at_)
  inside other work at_ := by
    by_cases same : other = task
    · exact enters work (by simpa [same] using at_)
    · exact sound.inside other work (by simpa [same] using at_)
  alone := sound.alone

theorem Sound.leaves (sound : s.Sound) (mine : (s.stage task).inSlot = true)
    (launched : ∀ work child, s.stage task ≠ .launching work child) :
    (s.release task).Sound := by
  have alone : ∀ other, other ≠ task → (s.stage other).inSlot = false := by
    intro other different
    by_contra theirs
    exact different (sound.same task other mine (by simpa using theirs))
  constructor
  · intro other
    by_cases same : other = task
    · simp [release, go, same, Stage.inSlot]
    · simpa [release, go, same] using alone other same
  · intro child living
    obtain listed | ⟨launcher, work, at_, held⟩ := sound.registered child living
    · exact .inl listed
    · have same := sound.same task launcher mine (by simp [at_, Stage.inSlot])
      exact absurd (same ▸ at_) (launched work child)
  · intro call running
    exact .inl rfl
  · intro other work pending at_
    by_cases same : other = task
    · simp [release, same] at at_
    · exact sound.awaited other work pending (by simpa [release, same] using at_)
  · intro other work at_
    by_cases same : other = task
    · simp [release, same] at at_
    · exact sound.inside other work (by simpa [release, same] using at_)
  · exact sound.alone

theorem Sound.acquires (sound : s.Sound) (free : s.lock = none)
    (still : ∀ call, s.calling call = false) (wanted : Work) :
    ({ s with lock := some task }.go task
      (if s.children.isEmpty then .inside wanted else .settling wanted s.children)).Sound := by
  have nobody : ∀ other, (s.stage other).inSlot = false := by
    intro other
    by_contra theirs
    simpa [free] using (sound.owner other).mp (by simpa using theirs)
  constructor
  · intro other
    by_cases same : other = task
    · subst same
      by_cases empty : s.children.isEmpty = true <;> simp [go, empty, Stage.inSlot]
    · have different : task ≠ other := fun h => same h.symm
      simpa [go, same, different] using nobody other
  · intro child living
    obtain listed | ⟨launcher, other, _, held⟩ := sound.registered child living
    · exact .inl listed
    · simp [free] at held
  · intro call running
    simp [go, still] at running
  · intro other work pending settling
    by_cases same : other = task
    · by_cases empty : s.children.isEmpty = true
      · simp [same, empty] at settling
      · have all : wanted = work ∧ s.children = pending := by
          simpa [same, empty] using settling
        exact fun child listed => all.2 ▸ listed
    · have theirs := nobody other
      have settling : s.stage other = .settling work pending := by simpa [same] using settling
      simp [settling, Stage.inSlot] at theirs
  · intro other work inside
    by_cases same : other = task
    · by_cases empty : s.children.isEmpty = true
      · exact .inr (show s.children = [] by simpa using empty)
      · simp [same, empty] at inside
    · have theirs := nobody other
      have inside : s.stage other = .inside work := by simpa [same] using inside
      simp [inside, Stage.inSlot] at theirs
  · exact sound.alone

theorem Sound.exits (sound : s.Sound) (child : ℕ) :
    { s with alive := Function.update s.alive child false }.Sound where
  owner := sound.owner
  registered other living := by
    by_cases same : other = child
    · simp [same] at living
    · exact sound.registered other (by simpa [same] using living)
  calls := sound.calls
  awaited := sound.awaited
  inside := sound.inside
  alone := sound.alone

theorem Sound.retires (sound : s.Sound) {child : ℕ} (exited : s.alive child = false) :
    (s.retire child).Sound where
  owner := sound.owner
  registered other living := by
    have different : other ≠ child := by
      rintro rfl
      simp [retire, exited] at living
    obtain listed | launching := sound.registered other living
    · exact .inl (by simpa [retire, different] using listed)
    · exact .inr launching
  calls := sound.calls
  awaited other work pending at_ kept listed :=
    sound.awaited other work pending at_ kept (List.mem_filter.mp listed).1
  inside other work at_ := by
    cases empty : s.children.filter (· ≠ child) with
    | nil => exact .inr empty
    | cons first rest =>
      obtain unhealthy | none := sound.inside other work at_
      · exact .inl (by simp only [retire, empty, unhealthy, List.isEmpty_cons, Bool.not_false,
          Bool.and_self])
      · simp [none] at empty
  alone := sound.alone

theorem Sound.registers (sound : s.Sound) {work : Work} {child : ℕ}
    (at_ : s.stage task = .launching work child) :
    { s with children := s.children ++ [child] }.Sound where
  owner := sound.owner
  registered other living := by
    obtain listed | launching := sound.registered other living
    · exact .inl (by simp [listed])
    · exact .inr launching
  calls := sound.calls
  awaited other waiting pending settling := by
    have same := sound.same task other (by simp [at_, Stage.inSlot])
      (by
        have settling : s.stage other = _ := settling
        simp [settling, Stage.inSlot])
    have settling : s.stage other = _ := settling
    simp [same, at_] at settling
  inside other waiting inside := by
    have inside : s.stage other = _ := inside
    have same := sound.same task other (by simp [at_, Stage.inSlot])
      (by simp [inside, Stage.inSlot])
    simp [same, at_] at inside
  alone := sound.alone

theorem Sound.launches (sound : s.Sound) {before : Work} (work : Work)
    (at_ : s.stage task = .inside before) : (s.launch task work).Sound where
  owner other := by
    by_cases same : other = task
    · subst same
      have mine := (sound.owner other).mp (by simp [at_, Stage.inSlot])
      simpa [launch, go, Stage.inSlot] using mine
    · simpa [same, launch, go] using sound.owner other
  registered child living := by
    have held := (sound.owner task).mp (by simp [at_, Stage.inSlot])
    by_cases mine : child = s.launched
    · exact .inr ⟨task, work, by simp [launch, mine], held⟩
    · obtain listed | ⟨launcher, other, launching, _⟩ :=
        sound.registered child (by simpa [launch, go, mine] using living)
      · exact .inl listed
      · have same := sound.same task launcher (by simp [at_, Stage.inSlot])
          (by simp [launching, Stage.inSlot])
        simp [same, at_] at launching
  calls call running := by
    have still := sound.still task (by simp [at_, Stage.inSlot]) (by simp [at_]) call
    simp_all [launch, go]
  awaited other waiting pending settling := by
    by_cases same : other = task
    · simp [launch, same] at settling
    · exact sound.awaited other waiting pending (by simpa [launch, same] using settling)
  inside other waiting inside := by
    by_cases same : other = task
    · simp [launch, same] at inside
    · exact sound.inside other waiting (by simpa [launch, same] using inside)
  alone := sound.alone

theorem Sound.notes (sound : s.Sound) (begun : s.beginning = ⟨false, false, false⟩) :
    { s with beginnings := s.beginning :: s.beginnings }.Sound where
  owner := sound.owner
  registered := sound.registered
  calls := sound.calls
  awaited := sound.awaited
  inside := sound.inside
  alone noted listed := by
    obtain rfl | earlier := List.mem_cons.mp listed
    · exact begun
    · exact sound.alone noted earlier

theorem Sound.infers (sound : s.Sound) {work : Work} (at_ : s.stage task = .inside work)
    (healthy : s.unhealthy = false) : (s.call task (.inferring s.called)).Sound := by
  have still := sound.still task (by simp [at_, Stage.inSlot]) (by simp [at_])
  have dead := sound.dead at_ healthy
  have noted := sound.notes (beginning_eq dead still healthy)
  have held := (sound.owner task).mp (by simp [at_, Stage.inSlot])
  constructor
  · intro other
    by_cases same : other = task
    · simpa [call, go, same, Stage.inSlot] using held
    · simpa [same, call, go] using sound.owner other
  · intro child living
    simp [call, go, dead] at living
  · intro number running
    by_cases mine : number = s.called
    · exact .inr ⟨task, by simp [call, mine], held⟩
    · simp [call, go, mine, still] at running
  · intro other waiting pending settling
    by_cases same : other = task
    · simp [call, same] at settling
    · exact sound.awaited other waiting pending (by simpa [call, same] using settling)
  · intro other waiting inside
    by_cases same : other = task
    · simp [call, same] at inside
    · exact sound.inside other waiting (by simpa [call, same] using inside)
  · exact noted.alone

theorem Sound.loads (sound : s.Sound) (idle : s.stage task = .idle) (free : s.lock = none)
    (healthy : s.unhealthy = false) (dead : ∀ child, s.alive child = false)
    (still : ∀ call, s.calling call = false) : (s.call task (.compiling s.called)).Sound := by
  have noted := sound.notes (beginning_eq dead still healthy)
  have idle : (s.stage task).inSlot = false := by simp [idle, Stage.inSlot]
  have moved : MediaGate.Sound (go task (.compiling s.called)
      { s with beginnings := s.beginning :: s.beginnings }) := noted.moves idle rfl
  exact ⟨moved.owner, moved.registered, fun _ _ => .inl free, moved.awaited, moved.inside,
    moved.alone⟩

theorem Sound.begins {s' : MediaGate} (sound : s.Sound) {work : Work}
    (orderly : (Event.begin task work).Orderly s) (h : s.step (.begin task work) = some s') :
    s'.Sound := by
  simp only [step, ne_eq, ite_not] at h
  split at h
  case isFalse => simp at h
  case isTrue idle =>
    have out : (s.stage task).inSlot = false := by simp [idle, Stage.inSlot]
    cases work with
    | decode =>
      obtain ⟨_, rfl⟩ : _ ∧ s.go task (.waiting .decode) = s' := by simpa using h
      exact sound.moves out rfl
    | detect =>
      obtain ⟨_, rfl⟩ : _ ∧ s.go task (.waiting .detect) = s' := by simpa using h
      exact sound.moves out rfl
    | load =>
      obtain rfl : s.call task (.compiling s.called) = s' := by simpa using h
      obtain ⟨free, healthy, dead, still⟩ := orderly
      exact sound.loads idle free healthy dead still
    | thumbnail | probe =>
      simp only [Option.some.injEq] at h
      exact h ▸ sound.moves out rfl

theorem Sound.launched {s' : MediaGate} (sound : s.Sound) (h : s.step (.launch task) = some s') :
    s'.Sound := by
  simp only [step] at h
  split at h
  · rename_i at_
    exact Option.some.inj h ▸ sound.launches .probe at_
  all_goals try (simp at h; done)
  all_goals
    rename_i at_
    split at h
    · simp at h
    · rename_i sure
      have healthy : s.unhealthy = false := by
        simp only [softwareDecodeReason, Bool.or_eq_true, not_or, Bool.not_eq_true] at sure
        exact sure.1
      have still := sound.still task (by simp [at_, Stage.inSlot]) (by simp [at_])
      have noted := sound.notes (beginning_eq (sound.dead at_ healthy) still healthy)
      exact Option.some.inj h ▸ noted.launches .decode at_

theorem Sound.cancels {s' : MediaGate} (sound : s.Sound)
    (orderly : (Event.cancel task).Orderly s) (h : s.step (.cancel task) = some s') :
    s'.Sound := by
  cases at_ : s.stage task with
  | idle | closing => simp [step, at_] at h
  | waiting | compiling =>
    simp only [step, at_, Option.some.injEq] at h
    exact h ▸ sound.moves (by simp [at_, Stage.inSlot]) rfl
  | settling | inside | inferring =>
    simp only [step, at_, Option.some.injEq] at h
    exact h ▸ sound.leaves (by simp [at_, Stage.inSlot]) (by simp [at_])
  | launching work child => exact absurd at_ (orderly work child)
  | running work child =>
    simp only [step, at_, Option.some.injEq] at h
    exact h ▸ sound.holds (by simp [at_, Stage.inSlot]) (by simp [at_]) (by simp [at_]) rfl
      (by simp) (by simp)

theorem Sound.step {s' : MediaGate} (sound : s.Sound) {event : Event} (orderly : event.Orderly s)
    (h : s.step event = some s') : s'.Sound := by
  cases event with
  | begin task work => exact sound.begins orderly h
  | retry task =>
    simp only [MediaGate.step, ne_eq, ite_not] at h
    split at h
    case isFalse => simp at h
    case isTrue idle =>
      exact Option.some.inj h ▸ sound.moves (by simp [idle, Stage.inSlot]) rfl
  | acquire task =>
    cases at_ : s.stage task <;> simp only [MediaGate.step, at_, reduceCtorEq] at h
    split at h
    case isTrue => simp at h
    case isFalse free => exact Option.some.inj h ▸ sound.acquires (by simpa using free) orderly _
  | settled task =>
    cases at_ : s.stage task <;> simp only [MediaGate.step, at_, reduceCtorEq] at h
    case settling work pending =>
    split at h
    case isFalse => simp at h
    case isTrue exited =>
      have none : s.children = [] := by
        refine List.eq_nil_iff_forall_not_mem.mpr fun child listed => ?_
        have gone := List.all_eq_true.mp exited child
          (sound.awaited task work pending at_ child listed)
        simp [listed] at gone
      exact Option.some.inj h ▸ sound.holds (by simp [at_, Stage.inSlot]) (by simp [at_])
        (by simp [at_]) rfl (by simp) fun _ _ => .inr none
  | giveUp task =>
    cases at_ : s.stage task <;> simp only [MediaGate.step, at_, reduceCtorEq] at h
    case settling work pending =>
    have distrusted : { s with unhealthy := true }.Sound :=
      ⟨sound.owner, sound.registered, sound.calls, sound.awaited, fun _ _ _ => .inl rfl,
        sound.alone⟩
    exact Option.some.inj h ▸ distrusted.holds (by simp [at_, Stage.inSlot]) (by simp [at_])
      (by simp [at_]) rfl (by simp) fun _ _ => .inl rfl
  | launch task => exact sound.launched h
  | infer task =>
    simp only [MediaGate.step] at h
    split at h
    · rename_i at_
      exact Option.some.inj h ▸ sound.infers at_ orderly
    · simp at h
  | register task =>
    cases at_ : s.stage task <;> simp only [MediaGate.step, at_, reduceCtorEq] at h
    case launching work child =>
    exact Option.some.inj h ▸ (sound.registers at_).holds (by simp [at_, Stage.inSlot])
      (by simp [at_]) (by simp [at_]) rfl (by simp) (by simp)
  | close task =>
    cases at_ : s.stage task <;> simp only [MediaGate.step, at_, reduceCtorEq] at h
    exact Option.some.inj h ▸ sound.holds (by simp [at_, Stage.inSlot]) (by simp [at_])
      (by simp [at_]) rfl (by simp) (by simp)
  | closed task =>
    cases at_ : s.stage task <;> simp only [MediaGate.step, at_, reduceCtorEq] at h
    case closing work child =>
    have mine : (s.stage task).inSlot = true := by simp [at_, Stage.inSlot]
    split at h
    · have handed : { s with reaping := s.reaping ++ [child] }.Sound :=
        ⟨sound.owner, sound.registered, sound.calls, sound.awaited, sound.inside, sound.alone⟩
      exact Option.some.inj h ▸ handed.leaves mine (by simp [at_])
    · rename_i exited
      have retired : (s.retire child).Sound := sound.retires (by simpa using exited)
      exact Option.some.inj h ▸ retired.leaves mine (by simp [retire, at_])
  | returned task =>
    cases at_ : s.stage task <;> simp only [MediaGate.step, at_, reduceCtorEq] at h
    all_goals split at h
    all_goals try (simp at h; done)
    · exact Option.some.inj h ▸ sound.leaves (by simp [at_, Stage.inSlot]) (by simp [at_])
    · exact Option.some.inj h ▸ sound.moves (by simp [at_, Stage.inSlot]) rfl
  | leave task =>
    cases at_ : s.stage task <;> simp only [MediaGate.step, at_, reduceCtorEq] at h
    exact Option.some.inj h ▸ sound.leaves (by simp [at_, Stage.inSlot]) (by simp [at_])
  | cancel task => exact sound.cancels orderly h
  | exit child => exact Option.some.inj h ▸ sound.exits child
  | reap child =>
    simp only [MediaGate.step] at h
    split at h
    case isFalse => simp at h
    case isTrue reaped =>
      have exited : s.alive child = false := by
        simp only [Bool.and_eq_true, Bool.not_eq_true'] at reaped
        exact reaped.2
      have reaped : { s with reaping := s.reaping.filter (· ≠ child) }.Sound :=
        ⟨sound.owner, sound.registered, sound.calls, sound.awaited, sound.inside, sound.alone⟩
      exact Option.some.inj h ▸ reaped.retires exited
  | callEnds call =>
    refine Option.some.inj h ▸ ⟨sound.owner, sound.registered, ?_, sound.awaited, sound.inside,
      sound.alone⟩
    intro other running
    by_cases same : other = call
    · simp [same] at running
    · exact sound.calls other (by simpa [same] using running)
  | engage engaged =>
    exact Option.some.inj h ▸ ⟨sound.owner, sound.registered, sound.calls, sound.awaited,
      sound.inside, sound.alone⟩

end MediaGate

end DashcamStats.Hardware
