import DashcamStats.Library.Follow
import DashcamStats.Radios.Watchdog

namespace DashcamStats.Radios

open Relation

def Task.Fits (active : Option Owner) (reported : List ℕ) : Task → Prop
  | .removing token | .clearing token | .untrapping token =>
    ∀ other, active = some (.generation other) → token = other
  | .unconditional known | .reaping known _ | .wiping known _ =>
    ∀ token ∈ reported, active = some (.generation token) → token ∈ known
  | _ => True

def Place.Fits (token : ℕ) (active : Option Owner) : Place → Prop
  | .removing => ∀ other, active = some (.generation other) → token = other
  | _ => True

namespace Unit

structure Sound (s : Unit) : Prop where
  tasks : ∀ number, (s.task number).Fits s.active s.reported
  places : ∀ token, (s.place token).Fits token s.active

variable {s s' : Unit}

theorem Sound.fresh : Sound fresh := ⟨fun _ => trivial, fun _ => trivial⟩

theorem Sound.go (sound : s.Sound) {token : ℕ} {place : Place}
    (fits : place.Fits token s.active) : (s.go token place).Sound := by
  refine ⟨sound.tasks, fun other => ?_⟩
  by_cases same : other = token
  · simpa [Unit.go, same] using fits
  · simpa [Unit.go, same] using sound.places other

theorem Sound.next (sound : s.Sound) {number : ℕ} {task : Task}
    (fits : task.Fits s.active s.reported) : (s.next number task).Sound := by
  refine ⟨fun other => ?_, sound.places⟩
  by_cases same : other = number
  · simpa [Unit.next, same] using fits
  · simpa [Unit.next, same] using sound.tasks other

theorem Sound.discard (sound : s.Sound) (token : ℕ) : (s.discard token).Sound :=
  ⟨sound.tasks, sound.places⟩

theorem Sound.arm (sound : s.Sound) (token : ℕ) : (s.arm token).Sound :=
  ⟨sound.tasks, sound.places⟩

theorem Sound.expire (sound : s.Sound) (token : ℕ) : (s.expire token).Sound :=
  ⟨sound.tasks, sound.places⟩

theorem Sound.flagged (sound : s.Sound) (flag : Bool) : { s with flag }.Sound :=
  ⟨sound.tasks, sound.places⟩

theorem Sound.disowned (sound : s.Sound) {active : Option Owner}
    (nobody : ∀ token, active ≠ some (.generation token)) : { s with active }.Sound := by
  constructor
  · intro number
    have before := sound.tasks number
    cases task : s.task number <;> simp_all [Task.Fits]
  · intro token
    cases place : s.place token <;> simp_all [Place.Fits]

theorem sound_of_published {token : ℕ}
    (quiet : ∀ number, ¬ (s.task number).Threatens token)
    (alone : ∀ other, other ≠ token → s.place other ≠ .removing) :
    { s with active := some (.generation token) }.Sound := by
  constructor
  · intro number
    have calm := quiet number
    cases task : s.task number <;> simp_all [Task.Fits, Task.Threatens]
  · intro other
    by_cases same : other = token
    · subst same
      cases place : s.place other <;> simp_all [Place.Fits]
    · have calm := alone other same
      cases place : s.place other <;> simp_all [Place.Fits]

theorem Sound.reports (sound : s.Sound) (token : ℕ)
    (quiet : ∀ number, ¬ (s.task number).Wipes) :
    { s with reported := token :: s.reported }.Sound := by
  refine ⟨fun number => ?_, sound.places⟩
  have before := sound.tasks number
  have calm := quiet number
  cases task : s.task number <;> simp_all [Task.Fits, Task.Wipes]

theorem owns_fits {token other : ℕ} (mine : s.owns token = true)
    (active : s.active = some (.generation other)) : token = other := by
  simpa [owns, active, eq_comm] using mine

theorem Sound.run (sound : s.Sound) {token : ℕ} {choice : Bool}
    (orderly : (Event.run token choice).Orderly s) (h : s.run token choice = some s') :
    s'.Sound := by
  cases place : s.place token with
  | absent | gone => simp [Unit.run, place] at h
  | starting =>
    obtain ⟨quiet, alone⟩ := orderly place
    simp only [Unit.run, place, Option.some.injEq] at h
    subst h
    split
    · exact (sound_of_published quiet alone).go trivial
    · exact sound.go trivial
  | leaving =>
    simp only [Unit.run, place, Option.some.injEq] at h
    subst h
    refine sound.go ?_
    split
    · rename_i owns
      exact fun other active => owns_fits owns active
    · trivial
  | removing =>
    simp only [Unit.run, place, Option.some.injEq] at h
    subst h
    exact ((sound.discard token).disowned (by simp)).go trivial
  | ending =>
    simp only [Unit.run, place, Option.some.injEq] at h
    subst h
    exact (sound.discard token).go trivial
  | restoring =>
    simp only [Unit.run, place, Option.some.injEq] at h
    subst h
    exact sound.go trivial
  | top | flagged | armed | waiting | claimed | claimedFlagged | ended | endedOwned =>
    simp only [Unit.run, place, Option.some.injEq] at h
    subst h
    refine sound.go ?_
    split <;> trivial
  | arming =>
    simp only [Unit.run, place, Option.some.injEq] at h
    subst h
    split
    · exact (sound.arm token).go trivial
    · exact sound.go trivial
  | claiming =>
    simp only [Unit.run, place, Option.some.injEq] at h
    subst h
    split
    · exact (sound.expire token).go trivial
    · exact sound.go trivial
  | rereading =>
    simp only [Unit.run, place, Option.some.injEq] at h
    subst h
    split
    · split
      · exact (sound.arm token).go trivial
      · exact sound.go trivial
    · exact sound.go trivial

theorem Sound.advance (sound : s.Sound) {number : ℕ} {choice : Bool}
    (orderly : (Event.advance number choice).Orderly s) (h : s.advance number choice = some s') :
    s'.Sound := by
  have fits := sound.tasks number
  cases task : s.task number
  all_goals simp only [Unit.advance, task, reduceCtorEq, Option.some.injEq] at h
  all_goals try subst h
  case owner token unpublished =>
    split
    · exact sound.next trivial
    · split
      · exact sound.next trivial
      · exact (sound.discard token).next trivial
  case killing token =>
    split
    · split
      · exact sound.go trivial
      · exact sound.next trivial
    · exact sound.next trivial
  case rechecking token =>
    refine sound.next ?_
    split
    · rename_i owns
      exact fun other active => owns_fits owns active
    · trivial
  case removing token =>
    exact (((sound.discard token).disowned (by simp)).flagged false).next trivial
  case claiming token =>
    split
    · exact (sound.disowned (by simp)).next trivial
    · exact (sound.discard token).next trivial
  case marked token =>
    refine sound.next ?_
    split
    · rename_i mark
      exact fun other active => by simp [mark] at active
    · trivial
  case clearing token => exact ((sound.discard token).flagged false).next trivial
  case trapping token =>
    refine sound.next ?_
    split
    · rename_i mark
      exact fun other active => by simp [mark] at active
    · trivial
  case untrapping token => exact (sound.disowned (by simp)).next trivial
  case unconditional known =>
    rw [task] at fits
    exact sound.next fits
  case reaping known read =>
    rw [task] at fits
    split
    · rename_i token
      have reaped : (s.go token .gone).Sound := sound.go trivial
      split
      · exact reaped.next fits
      · exact sound.next fits
    · exact sound.next fits
  case wiping known read => exact ((sound.disowned (by simp)).flagged false).next trivial
  case sweeping read =>
    split
    · exact (sound.discard _).next trivial
    · exact sound.next trivial
  case probing token =>
    refine sound.next ?_
    split <;> trivial
  case probingFlag token =>
    refine sound.next ?_
    split <;> trivial
  case probingReady token =>
    split
    · exact (sound.reports token (orderly token task)).next trivial
    · exact sound.next trivial

theorem Sound.step (sound : s.Sound) {event : Event} (orderly : event.Orderly s)
    (h : s.step event = some s') : s'.Sound := by
  cases event with
  | run token choice => exact sound.run orderly h
  | advance number choice => exact sound.advance orderly h
  | start token | die token =>
    simp only [Unit.step] at h
    split at h
    · obtain rfl := Option.some.inj h
      exact sound.go trivial
    · simp at h
  | owner number token unpublished =>
    simp only [Unit.step] at h
    split at h
    · obtain rfl := Option.some.inj h
      exact sound.next trivial
    · simp at h
  | unconditional number =>
    simp only [Unit.step] at h
    split at h
    · obtain rfl := Option.some.inj h
      exact sound.next fun token known _ => known
    · simp at h
  | probe number token =>
    simp only [Unit.step] at h
    split at h
    · obtain rfl := Option.some.inj h
      exact sound.next trivial
    · simp at h
  | touch => exact Option.some.inj h ▸ sound.flagged true
  | drop number trapped =>
    simp only [Unit.step] at h
    split at h
    all_goals refine Option.some.inj h ▸ sound.next ?_
    any_goals trivial
    all_goals split <;> trivial

theorem run_keeps {token : ℕ} {choice : Bool} (h : s.run token choice = some s')
    (rest : s.place token ≠ .removing) {other : ℕ}
    (active : s.active = some (.generation other)) :
    s'.active = s.active ∧ s'.flag = s.flag := by
  cases place : s.place token
  all_goals simp only [Unit.run, place, reduceCtorEq, Option.some.injEq] at h
  case removing => exact absurd place rest
  case starting =>
    rw [if_neg (by simp [active])] at h
    subst h
    exact ⟨rfl, rfl⟩
  all_goals
    subst h
    repeat' split
    all_goals exact ⟨rfl, rfl⟩

theorem advance_keeps {number : ℕ} {choice : Bool} (h : s.advance number choice = some s')
    {token : ℕ} (rest : ¬ (Event.advance number choice).Entitled token s)
    (sound : s.Sound) (reported : token ∈ s.reported)
    (active : s.active = some (.generation token)) :
    s'.active = s.active ∧ s'.flag = s.flag := by
  have fits := sound.tasks number
  cases task : s.task number
  all_goals simp only [Unit.advance, task, reduceCtorEq, Option.some.injEq] at h
  all_goals simp only [Event.Entitled, task] at rest
  all_goals rw [task] at fits
  case removing other => exact absurd (fits token active) rest
  case clearing other => exact absurd (fits token active) rest
  case untrapping other => exact absurd (fits token active) rest
  case wiping known read => exact absurd (fits token reported active) rest
  case claiming other =>
    rw [if_neg (by simp [active])] at h
    subst h
    exact ⟨rfl, rfl⟩
  all_goals
    subst h
    repeat' split
    all_goals exact ⟨rfl, rfl⟩

theorem Sound.entitled (sound : s.Sound) {event : Event} (h : s.step event = some s') {token : ℕ}
    (removed : s.Removed token s') : event.Entitled token s := by
  obtain ⟨reported, active, gone⟩ := removed
  by_contra rest
  have kept : s'.active = s.active ∧ (s.flag = true → s'.flag = true) := by
    cases event with
    | run other choice =>
      by_cases place : s.place other = .removing
      · have fits := sound.places other
        rw [place] at fits
        exact absurd (fits token active) rest
      · have kept := run_keeps h place active
        exact ⟨kept.1, fun set => kept.2.trans set⟩
    | advance number choice =>
      have kept := advance_keeps h rest sound reported active
      exact ⟨kept.1, fun set => kept.2.trans set⟩
    | start other | die other | owner number other unpublished | unconditional number
    | probe number other =>
      simp only [Unit.step] at h
      split at h
      · rw [← Option.some.inj h]
        exact ⟨rfl, id⟩
      · simp at h
    | touch =>
      rw [← Option.some.inj h]
      exact ⟨rfl, fun _ => rfl⟩
    | drop number trapped =>
      simp only [Unit.step] at h
      split at h
      all_goals
        rw [← Option.some.inj h]
        exact ⟨rfl, id⟩
  obtain changed | ⟨set, cleared⟩ := gone
  · exact changed (kept.1.trans active)
  · rw [kept.2 set] at cleared
    cases cleared

theorem Passes.single {first second : ℕ} (one : s.Passes first) (other : s.Passes second) :
    first = second := by
  have same := one.1.symm.trans other.1
  simpa using same

end Unit

open Follow

end DashcamStats.Radios
