import Mathlib.Algebra.Ring.Nat
import DashcamStats.Retention.Execute

namespace DashcamStats.Retention

open Relation

structure Permitted (call : Call) (spareEvents : Bool) (u : Unlink) : Prop where
  asked : call.dryRun = false
  unblocked : call.plan.blocked = false
  safe : call.report.ok = true ∧ call.report.writable = true
  enabled : call.plan.deletionEnabled = true
  planned : u.candidate ∈ call.plan.candidates
  path : u.row.relPath = u.candidate.relPath
  present : u.row.fileMissing = false ∧ u.row.state ≠ .deleted
  idle : u.row.state ≠ .processing ∧ u.row.activeJob = false
  spared : spareEvents = true → u.row.isEvent = false

namespace Execution

structure Own (call : Call) (s s' : Execution) : Prop where
  /-- At most one file goes, inside the footage root. -/
  files : (s'.world.files = s.world.files ∧ s'.unlinks = s.unlinks) ∨
    ∃ u, s'.unlinks = s.unlinks ++ [u] ∧ s.world.files u.target = some u.size ∧
      s'.world.files = Function.update s.world.files u.target none ∧
      (∃ rootResolved, s.world.resolve u.root = some rootResolved ∧ rootResolved <+: u.target) ∧
      Permitted call s.spareEvents u
  /-- What a removal goes by is the row there is when it is read. -/
  read : ∀ candidate row rest, s'.stage = .unlinking candidate row rest →
    s.world.rows candidate.recordingId = some row
  /-- Rows change once, at the end, and exactly those of the files that went. -/
  rows : s'.world.rows = s.world.rows ∨ (s'.stage = .finished ∧ ∀ id,
    (id ∈ s.unlinks.map (·.candidate.recordingId) → ∃ row, s.world.rows id = some row ∧
      s'.world.rows id = some (row.markDeleted call.plan.excludeFromStats)) ∧
    (id ∉ s.unlinks.map (·.candidate.recordingId) → s'.world.rows id = s.world.rows id))

structure Sound (call : Call) (s : Execution) : Prop where
  permitted : ∀ u ∈ s.unlinks, Permitted call s.spareEvents u
  own : ∀ event s', (∀ world, event ≠ .other world) → s.step call event = some s' → Own call s s'
  counted : s.stage = .finished → s.deletedCount = s.unlinks.length ∧
    s.deletedBytes = (s.unlinks.map (·.size)).sum

structure Inv (call : Call) (s : Execution) : Prop where
  permitted : ∀ u ∈ s.unlinks, Permitted call s.spareEvents u
  before : s.stage = .called → s.unlinks = []
  allowed : s.stage ≠ .called → s.stage ≠ .finished → call.reallyDelete = true
  rest : ∀ rest, s.stage = .reading rest → ∀ candidate ∈ rest, candidate ∈ call.plan.candidates
  reread : ∀ candidate row rest, s.stage = .unlinking candidate row rest →
    candidate ∈ call.plan.candidates ∧ candidate.passed s.spareEvents row = false ∧
      (∀ other ∈ rest, other ∈ call.plan.candidates) ∧
      (s.world.rows candidate.recordingId).isSome
  removed : s.removedIds = s.unlinks.map (·.candidate.recordingId)
  bytes : s.bytes = (s.unlinks.map (·.size)).sum
  kept : ∀ u ∈ s.unlinks, (s.world.rows u.candidate.recordingId).isSome
  counted : s.stage = .finished → s.deletedCount = s.unlinks.length ∧
    s.deletedBytes = (s.unlinks.map (·.size)).sum
  fresh : s.stage ≠ .finished → s.deletedCount = 0 ∧ s.deletedBytes = 0

variable {call : Call} {s s' : Execution}

theorem Inv.start (world : World) : Inv call (start world) := by
  constructor <;> simp [Retention.start]

theorem allowed_of_reallyDelete (h : call.reallyDelete = true) :
    call.dryRun = false ∧ call.plan.blocked = false ∧
      (call.report.ok = true ∧ call.report.writable = true) ∧ call.plan.deletionEnabled = true := by
  simp only [Call.reallyDelete, canDelete, Bool.and_eq_true, Bool.not_eq_true'] at h
  obtain ⟨⟨allowed, asked⟩, unblocked⟩ := h
  cases ok : call.report.ok <;> cases enabled : call.plan.deletionEnabled <;>
    simp_all

theorem permitted_of_read {candidate : RetentionCandidate} {row : Row} {root target : Path}
    {size : ℕ} {spareEvents : Bool} (allowed : call.reallyDelete = true)
    (planned : candidate ∈ call.plan.candidates)
    (stands : candidate.passed spareEvents row = false) :
    Permitted call spareEvents ⟨candidate, row, root, target, size⟩ := by
  obtain ⟨asked, unblocked, safe, enabled⟩ := allowed_of_reallyDelete allowed
  simp only [RetentionCandidate.passed, Bool.or_eq_false_iff, bne_eq_false_iff_eq,
    beq_eq_false_iff_ne, Bool.and_eq_false_iff] at stands
  obtain ⟨⟨⟨⟨⟨path, there⟩, undeleted⟩, unprocessed⟩, idle⟩, spared⟩ := stands
  refine ⟨asked, unblocked, safe, enabled, planned, path, ⟨there, undeleted⟩, ⟨unprocessed, idle⟩, ?_⟩
  intro sparing
  exact spared.resolve_left (by simp [sparing])

theorem safeJoin_inside {resolve : Path → Option Path} {root target : Path} {part : List Char}
    (h : safeJoin resolve root part = some target) :
    ∃ rootResolved, resolve root = some rootResolved ∧ rootResolved <+: target := by
  unfold safeJoin at h
  cases resolved : resolve root with
  | none => simp [resolved] at h
  | some rootResolved =>
    refine ⟨rootResolved, rfl, ?_⟩
    simp only [resolved] at h
    repeat' split at h
    all_goals simp_all

theorem unlink_spec (candidate : RetentionCandidate) (row : Row) (rest : List RetentionCandidate)
    (osError : Bool) :
    s.unlink candidate row rest osError = { s with stage := .reading rest } ∨
      ∃ target size, safeJoin s.world.resolve s.root candidate.relPath = some target ∧
        s.world.files target = some size ∧
        s.unlink candidate row rest osError = { s with
          stage := .reading rest
          world := { s.world with files := Function.update s.world.files target none }
          removedIds := s.removedIds ++ [candidate.recordingId]
          bytes := s.bytes + size
          unlinks := s.unlinks ++ [⟨candidate, row, s.root, target, size⟩] } := by
  unfold unlink
  cases joined : safeJoin s.world.resolve s.root candidate.relPath with
  | none => exact .inl rfl
  | some target =>
    cases found : s.world.files target with
    | none => exact .inl (by simp [found])
    | some size =>
      cases osError with
      | true => exact .inl (by simp [found])
      | false => exact .inr ⟨target, size, rfl, found, by simp [found]⟩

theorem Inv.step (inv : Inv call s) {event : Event} (fair : event.Fair s)
    (h : s.step call event = some s') : Inv call s' := by
  obtain ⟨permitted, before, allowed, planned, reread, removed, bytes, kept, counted, fresh⟩ := inv
  cases event with
  | other world =>
    obtain rfl := Option.some.inj h
    refine ⟨permitted, before, allowed, planned, ?_, removed, bytes, ?_, counted, fresh⟩
    · intro candidate row rest stage
      obtain ⟨planned, stands, later, there⟩ := reread candidate row rest stage
      exact ⟨planned, stands, later, fair _ there⟩
    · exact fun u member => fair _ (kept u member)
  | begin root keepEvents =>
    cases stage : s.stage <;> simp only [Execution.step, stage, reduceCtorEq] at h
    obtain rfl := Option.some.inj h
    have none := before stage
    obtain ⟨count, total⟩ := fresh (by simp [stage])
    split
    · rename_i really
      constructor <;> simp_all
    · constructor <;> simp_all
  | read =>
    cases stage : s.stage <;> simp only [Execution.step, stage, reduceCtorEq] at h
    rename_i rest
    have really := allowed (by simp [stage]) (by simp [stage])
    have planned := planned rest stage
    have fresh := fresh (by simp [stage])
    cases rest with
    | nil =>
      obtain rfl := Option.some.inj h
      constructor <;> simp_all
    | cons candidate rest =>
      obtain rfl := Option.some.inj h
      split
      · constructor <;> simp_all
      · rename_i row found
        split
        · constructor <;> simp_all
        · rename_i stands
          constructor <;> simp_all
  | unlink osError =>
    cases stage : s.stage <;> simp only [Execution.step, stage, reduceCtorEq] at h
    rename_i candidate row rest
    obtain rfl := Option.some.inj h
    have really := allowed (by simp [stage]) (by simp [stage])
    obtain ⟨mine, stands, later, there⟩ := reread candidate row rest stage
    have fresh := fresh (by simp [stage])
    obtain same | ⟨target, size, -, -, gone⟩ := unlink_spec (s := s) candidate row rest osError
    · rw [same]
      constructor <;> simp_all
    · rw [gone]
      refine ⟨?_, by simp, fun _ _ => really, ?_, by simp, ?_, ?_, ?_, by simp, fun _ => fresh⟩
      · intro u member
        obtain old | rfl := by simpa using member
        · exact permitted u old
        · exact permitted_of_read really mine stands
      · rintro _ ⟨⟩
        exact later
      · simp [removed]
      · simp [bytes]
      · intro u member
        obtain old | rfl := by simpa using member
        · exact kept u old
        · exact there
  | mark =>
    cases stage : s.stage <;> simp only [Execution.step, stage, reduceCtorEq] at h
    obtain rfl := Option.some.inj h
    refine ⟨permitted, by simp [mark], by simp [mark], by simp [mark], by simp [mark], removed,
      bytes, ?_, ?_, by simp [mark]⟩
    · intro u member
      have there := kept u member
      simp only [mark]
      split <;> simp [there]
    · intro _
      simp [mark, removed, bytes]

theorem Inv.own (inv : Inv call s) {event : Event} (mine : ∀ world, event ≠ .other world)
    (h : s.step call event = some s') : Own call s s' := by
  cases event with
  | other world => exact absurd rfl (mine world)
  | begin root keepEvents =>
    cases stage : s.stage <;> simp only [Execution.step, stage, reduceCtorEq] at h
    obtain rfl := Option.some.inj h
    split <;> exact ⟨.inl ⟨rfl, rfl⟩, by simp, .inl rfl⟩
  | read =>
    cases stage : s.stage <;> simp only [Execution.step, stage, reduceCtorEq] at h
    rename_i rest
    cases rest with
    | nil =>
      obtain rfl := Option.some.inj h
      exact ⟨.inl ⟨rfl, rfl⟩, by simp, .inl rfl⟩
    | cons candidate rest =>
      obtain rfl := Option.some.inj h
      split
      · exact ⟨.inl ⟨rfl, rfl⟩, by simp, .inl rfl⟩
      · rename_i row found
        split
        · exact ⟨.inl ⟨rfl, rfl⟩, by simp, .inl rfl⟩
        · refine ⟨.inl ⟨rfl, rfl⟩, ?_, .inl rfl⟩
          rintro _ _ _ ⟨⟩
          exact found
  | unlink osError =>
    cases stage : s.stage <;> simp only [Execution.step, stage, reduceCtorEq] at h
    rename_i candidate row rest
    obtain rfl := Option.some.inj h
    have really := inv.allowed (by simp [stage]) (by simp [stage])
    obtain ⟨planned, stands, -, -⟩ := inv.reread candidate row rest stage
    obtain same | ⟨target, size, joined, size_eq, gone⟩ :=
      unlink_spec (s := s) candidate row rest osError
    · rw [same]
      exact ⟨.inl ⟨rfl, rfl⟩, by simp, .inl rfl⟩
    · rw [gone]
      refine ⟨.inr ⟨⟨candidate, row, s.root, target, size⟩, rfl, size_eq, rfl,
        safeJoin_inside joined, permitted_of_read really planned stands⟩, by simp, .inl rfl⟩
  | mark =>
    cases stage : s.stage <;> simp only [Execution.step, stage, reduceCtorEq] at h
    obtain rfl := Option.some.inj h
    refine ⟨.inl ⟨rfl, rfl⟩, by simp [mark], .inr ⟨rfl, fun id => ⟨fun among => ?_, fun not => ?_⟩⟩⟩
    · obtain ⟨u, member, rfl⟩ := List.mem_map.mp among
      obtain ⟨row, found⟩ := Option.isSome_iff_exists.mp (inv.kept u member)
      refine ⟨row, found, ?_⟩
      rw [← inv.removed] at among
      simp [mark, among, found]
    · rw [← inv.removed] at not
      simp [mark, not]

end Execution

open Execution

end DashcamStats.Retention
