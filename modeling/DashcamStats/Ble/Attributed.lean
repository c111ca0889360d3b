import DashcamStats.Ble.Client
import DashcamStats.Library.Follow

namespace DashcamStats.Ble

open Relation
open Elm (Text normalize)

variable {maximumBytes : ℕ} {s s' : Link}

def Stage.unwritten : Stage → Option ℕ
  | .begun n | .assigned n => some n
  | _ => none

def Stage.accepted : Stage → Option ℕ
  | .awaiting n | .leaving n (.returned _) => some n
  | _ => none

def Stage.flying : Stage → Option ℕ
  | .awaiting n | .checking n | .aborting n | .draining n | .tainting n => some n
  | _ => none

def Callback.fragment : Callback → List UInt8
  | .noticed fragment | .held fragment _ => fragment
  | _ => []

def Callback.target : Callback → Option ℕ
  | .held _ pending | .completing pending _ | .failing pending => pending
  | _ => none

def Input.number : Input → Option ℕ
  | .command n _ => some n
  | .space => none

@[simp] theorem Input.number_command (n : ℕ) (command : Text) :
    (Input.command n command).number = some n := rfl

@[simp] theorem Input.number_space : Input.space.number = none := rfl

def Link.unanswered (s : Link) : List ℕ :=
  s.answering.toList ++ s.queue.filterMap Input.number

def Right (answers : ℕ → List UInt8) (n : ℕ) (response : Text) : Prop :=
  ∃ body, prompt ∉ body ∧ answers n = body ++ [prompt] ∧ response = decode (answers n)

def Link.Reliable (s : Link) (n : ℕ) : Prop := s.isOpen = true ∨ ∃ command, (n, command) ∈ s.sent

structure Inv (s : Link) : Prop where
  -- The adapter
  fresh : ∀ n, s.writings ≤ n → s.answers n = []
  number : ∀ n ∈ s.unanswered, n < s.writings
  once : s.unanswered.Nodup
  queued : ∀ n ∈ s.queue.filterMap Input.number, s.answers n = []
  unfinished : ∀ n, s.answering = some n → prompt ∉ s.answers n
  last : ∀ n, prompt ∉ (s.answers n).dropLast
  -- The session
  tainted : s.session.isTainted = true → s.session.waitingForPrompt = false
  owned : s.session.isTainted = false → s.session.waitingForPrompt = true →
    ∃ n, n + 1 = s.writings ∧ (s.Reliable n →
      s.session.buffer ++ s.callback.fragment ++ s.air = s.answers n ∧
      prompt ∉ s.session.buffer ∧ ∀ m ∈ s.unanswered, m = n)
  quiet : s.session.isTainted = false → s.session.waitingForPrompt = false → s.isOpen = true →
    s.callback.fragment = [] ∧ s.air = [] ∧ s.unanswered = []
  -- The deferreds
  known : ∀ n, s.response = some n ∨ s.callback.target = some n → n < s.writings
  virgin : ∀ n, s.writings ≤ n → s.deferred n = .pending
  written : ∀ n command, (n, command) ∈ s.sent → n < s.writings
  single : (s.sent.map Prod.fst).Nodup
  right : ∀ n command response, (n, command) ∈ s.sent → s.deferred n = .completed response →
    Right s.answers n response
  arriving : ∀ n command response, (n, command) ∈ s.sent →
    s.callback = .completing (some n) response → s.deferred n = .pending →
    Right s.answers n response
  returned : ∀ n command response, (n, command, response) ∈ s.returned →
    (n, command) ∈ s.sent ∧ Right s.answers n response
  -- The calls
  below : ∀ frame ∈ s.stack.tail, ∃ n, frame.stage = .confirming n
  unwritten : ∀ frame ∈ s.stack, ∀ n, frame.stage.unwritten = some n →
    n + 1 = s.writings ∧ (∀ command, (n, command) ∉ s.sent) ∧ s.answers n = [] ∧
    n ∉ s.unanswered ∧ (s.isOpen = true →
      (s.session.isTainted = false → s.session.waitingForPrompt = true) ∧
      ∀ response, s.deferred n ≠ .completed response ∧
        s.callback ≠ .completing (some n) response)
  accepted : ∀ frame ∈ s.stack, ∀ n, frame.stage.accepted = some n → (n, frame.command) ∈ s.sent
  leaving : ∀ frame ∈ s.stack, ∀ n response, frame.stage = .leaving n (.returned response) →
    s.deferred n = .completed response
  flying : s.session.isTainted = false → ∀ n command, (n, command) ∈ s.sent →
    s.deferred n = .pending →
      n + 1 = s.writings ∧ ∃ frame ∈ s.stack.head?, frame.stage.flying = some n

attribute [local simp] Link.step Link.callBack

theorem inv_connected : Inv connected := by
  constructor <;> simp [connected, Link.unanswered, Session.freshConnection, Callback.fragment,
    Callback.target]

theorem Right.mem {answers : ℕ → List UInt8} {n : ℕ} {response : Text}
    (right : Right answers n response) : prompt ∈ answers n := by
  obtain ⟨body, -, whole, -⟩ := right
  simp [whole]

theorem Right.update {answers : ℕ → List UInt8} {n m : ℕ} {response : Text} {more : List UInt8}
    (right : Right answers n response) (unfinished : prompt ∉ answers m) :
    Right (Function.update answers m more) n response := by
  have other : n ≠ m := by
    rintro rfl
    exact unfinished right.mem
  obtain ⟨body, free, whole, same⟩ := right
  exact ⟨body, free, by rw [Function.update_of_ne other, whole],
    by rw [Function.update_of_ne other, same]⟩

theorem Inv.answered (inv : Inv s) {n : ℕ} (only : ∀ m ∈ s.unanswered, m = n)
    (finished : prompt ∈ s.answers n) : s.unanswered = [] := by
  rw [List.eq_nil_iff_forall_not_mem]
  intro m among
  obtain rfl := only m among
  obtain answering | queued := List.mem_append.mp among
  · exact inv.unfinished m (by simpa using answering) finished
  · rw [inv.queued m queued] at finished
    cases finished

theorem split_at_prompt {bytes front back : List UInt8} (last : prompt ∉ bytes.dropLast)
    (whole : front ++ back = bytes) (found : prompt ∈ front) :
    back = [] ∧ ∃ body, prompt ∉ body ∧ front = body ++ [prompt] := by
  have empty : back = [] := by
    by_contra nonempty
    rw [← whole, List.dropLast_append_of_ne_nil nonempty] at last
    exact last (List.mem_append_left _ found)
  rw [empty, List.append_nil] at whole
  refine ⟨empty, ?_⟩
  obtain none | ⟨body, byte, rfl⟩ := List.eq_nil_or_concat front
  · simp [none] at found
  · rw [List.concat_eq_append] at whole found ⊢
    rw [← whole, List.dropLast_concat] at last
    obtain inside | same := by simpa using found
    · exact absurd inside last
    · exact ⟨body, last, by rw [same]⟩

theorem Inv.tainting (inv : Inv s) {session : Session} (isTainted : session.isTainted = true)
    (idle : session.waitingForPrompt = false) : Inv { s with session := session } := by
  refine ⟨inv.fresh, inv.number, inv.once, inv.queued, inv.unfinished, inv.last, fun _ => idle,
    by simp [isTainted], by simp [isTainted], inv.known, inv.virgin, inv.written,
    inv.single, inv.right, inv.arriving, inv.returned, inv.below, ?_, inv.accepted, inv.leaving,
    by simp [isTainted]⟩
  intro frame member n unwritten
  obtain ⟨same, unsent, blank, free, fine⟩ := inv.unwritten frame member n unwritten
  exact ⟨same, unsent, blank, free, fun isOpen => ⟨by simp [isTainted], (fine isOpen).2⟩⟩

theorem Inv.callback (inv : Inv s) {callback : Callback}
    (same : s.session.isTainted = false → s.session.waitingForPrompt = true ∨ s.isOpen = true →
      callback.fragment = s.callback.fragment)
    (known : ∀ n, callback.target = some n → n < s.writings)
    (incomplete : ∀ n response, callback ≠ .completing n response) :
    Inv { s with callback := callback } := by
  refine ⟨inv.fresh, inv.number, inv.once, inv.queued, inv.unfinished, inv.last, inv.tainted,
    ?_, ?_, ?_, inv.virgin, inv.written, inv.single, inv.right, ?_, inv.returned, inv.below, ?_,
    inv.accepted, inv.leaving, inv.flying⟩
  · intro untainted waiting
    obtain ⟨n, isLast, rest⟩ := inv.owned untainted waiting
    refine ⟨n, isLast, fun reliable => ?_⟩
    rw [same untainted (.inl waiting)]
    exact rest reliable
  · intro untainted idle isOpen
    rw [same untainted (.inr isOpen)]
    exact inv.quiet untainted idle isOpen
  · rintro n (response | target)
    · exact inv.known n (.inl response)
    · exact known n target
  · intro n command response _ completing
    exact absurd completing (incomplete _ _)
  · intro frame member n unwritten
    obtain ⟨isLast, unsent, blank, free, fine⟩ := inv.unwritten frame member n unwritten
    exact ⟨isLast, unsent, blank, free, fun isOpen =>
      ⟨(fine isOpen).1, fun response => ⟨((fine isOpen).2 response).1, incomplete _ _⟩⟩⟩

theorem Inv.complete (inv : Inv s) {pending : Option ℕ} {deferred : Deferred}
    (resolved : deferred ≠ .pending)
    (target : ∀ n, pending = some n → n < s.writings)
    (right : ∀ n command response, pending = some n → deferred = .completed response →
      (n, command) ∈ s.sent → s.deferred n = .pending → Right s.answers n response)
    (written : ∀ frame ∈ s.stack, ∀ n response, frame.stage.unwritten = some n →
      s.isOpen = true → pending = some n → deferred ≠ .completed response) :
    Inv (s.complete pending deferred) := by
  unfold Link.complete
  cases pending with
  | none => exact inv
  | some n =>
    simp only
    split
    · rename_i waiting
      have other : ∀ m, s.writings ≤ m → m ≠ n := by
        rintro m fresh rfl
        exact absurd (target m rfl) (by omega)
      refine ⟨inv.fresh, inv.number, inv.once, inv.queued, inv.unfinished, inv.last, inv.tainted,
        inv.owned, inv.quiet, inv.known, ?_, inv.written, inv.single, ?_, ?_, inv.returned,
        inv.below, ?_, inv.accepted, ?_, ?_⟩
      · intro m fresh
        exact (Function.update_of_ne (other m fresh) _ _).trans (inv.virgin m fresh)
      · intro m command response sent completed
        by_cases same : m = n
        · subst same
          exact right m command response rfl (by simpa using completed) sent waiting
        · exact inv.right m command response sent
            (by simpa only [Function.update_of_ne same] using completed)
      · intro m command response sent completing unresolved
        by_cases same : m = n
        · subst same
          exact absurd (by simpa using unresolved) resolved
        · exact inv.arriving m command response sent completing
            (by simpa only [Function.update_of_ne same] using unresolved)
      · intro frame member m unwritten
        obtain ⟨isLast, unsent, blank, free, fine⟩ := inv.unwritten frame member m unwritten
        refine ⟨isLast, unsent, blank, free, fun isOpen => ⟨(fine isOpen).1, fun response => ?_⟩⟩
        refine ⟨?_, ((fine isOpen).2 response).2⟩
        by_cases same : m = n
        · subst same
          simpa using written frame member m response unwritten isOpen rfl
        · simpa only [Function.update_of_ne same] using ((fine isOpen).2 response).1
      · intro frame member m response leaving
        have completed := inv.leaving frame member m response leaving
        have same : m ≠ n := by
          rintro rfl
          rw [waiting] at completed
          cases completed
        exact (Function.update_of_ne same _ _).trans completed
      · intro untainted m command sent unresolved
        by_cases same : m = n
        · subst same
          exact absurd (by simpa using unresolved) resolved
        · exact inv.flying untainted m command sent
            (by simpa only [Function.update_of_ne same] using unresolved)
    · exact inv

theorem accept_of_waiting {session : Session} {fragment buffer : List UInt8}
    (waiting : session.waitingForPrompt = true) {assembled : Assembly}
    (h : assemble maximumBytes session.buffer fragment = (assembled, buffer)) :
    session.accept maximumBytes fragment = (assembled, match assembled with
      | .overflow | .trailingData => ⟨buffer, false, true⟩
      | .complete _ => ⟨buffer, false, session.isTainted⟩
      | _ => { session with buffer := buffer }) := by
  unfold Session.accept
  rw [waiting]
  simp only [Bool.not_true, Bool.false_eq_true, if_false, h]
  cases assembled <;> rfl

theorem Inv.pended (inv : Inv s) {fragment : List UInt8} {pending : Option ℕ}
    (held : s.callback = .held fragment pending)
    (free : ∀ n, n + 1 = s.writings → s.Reliable n → prompt ∉ s.session.buffer ++ fragment) :
    Inv { s with
      session := { s.session with buffer := s.session.buffer ++ fragment }
      callback := .idle } := by
  refine ⟨inv.fresh, inv.number, inv.once, inv.queued, inv.unfinished, inv.last, inv.tainted,
    ?_, ?_, ?_, inv.virgin, inv.written, inv.single, inv.right, by simp, inv.returned, inv.below,
    ?_, inv.accepted, inv.leaving, inv.flying⟩
  · intro untainted waiting
    obtain ⟨n, isLast, rest⟩ := inv.owned untainted waiting
    refine ⟨n, isLast, fun reliable => ?_⟩
    obtain ⟨whole, -, only⟩ := rest reliable
    rw [held] at whole
    exact ⟨by simpa [Callback.fragment] using whole, free n isLast reliable, only⟩
  · intro untainted idle isOpen
    obtain ⟨-, air, none⟩ := inv.quiet untainted idle isOpen
    exact ⟨rfl, air, none⟩
  · rintro n (response | target)
    · exact inv.known n (.inl response)
    · cases target
  · intro frame member n unwritten
    obtain ⟨isLast, unsent, blank, free, fine⟩ := inv.unwritten frame member n unwritten
    exact ⟨isLast, unsent, blank, free, fun isOpen =>
      ⟨(fine isOpen).1, fun response => ⟨((fine isOpen).2 response).1, by simp⟩⟩⟩

theorem Inv.completed (inv : Inv s) {fragment : List UInt8} {pending : Option ℕ} {response : Text}
    (held : s.callback = .held fragment pending) (untainted : s.session.isTainted = false)
    (waiting : s.session.waitingForPrompt = true)
    (whole : ∀ n, n + 1 = s.writings → s.Reliable n →
      Right s.answers n response ∧ s.air = [] ∧ s.unanswered = []) :
    Inv { s with
      session := ⟨[], false, s.session.isTainted⟩
      callback := .completing pending response } := by
  obtain ⟨n, isLast, -⟩ := inv.owned untainted waiting
  refine ⟨inv.fresh, inv.number, inv.once, inv.queued, inv.unfinished, inv.last, fun _ => rfl,
    by simp, ?_, ?_, inv.virgin, inv.written, inv.single, inv.right, ?_, inv.returned, inv.below,
    ?_, inv.accepted, inv.leaving, inv.flying⟩
  · intro _ _ isOpen
    obtain ⟨-, air, none⟩ := whole n isLast (.inl isOpen)
    exact ⟨rfl, air, none⟩
  · rintro m (response | target)
    · exact inv.known m (.inl response)
    · exact inv.known m (.inr (held ▸ target))
  · intro m command response' sent completing unresolved
    obtain ⟨mine, -⟩ := inv.flying untainted m command sent unresolved
    obtain ⟨-, rfl⟩ := Callback.completing.inj completing
    exact (whole m mine (.inr ⟨command, sent⟩)).1
  · intro frame member m unwritten
    obtain ⟨mine, unsent, blank, free, fine⟩ := inv.unwritten frame member m unwritten
    refine ⟨mine, unsent, blank, free, fun isOpen => ?_⟩
    have found := (whole m mine (.inl isOpen)).1.mem
    rw [blank] at found
    cases found

theorem complete_callback (s : Link) (pending : Option ℕ) (deferred : Deferred) :
    (s.complete pending deferred).callback = s.callback := by
  unfold Link.complete
  cases pending with
  | none => rfl
  | some n =>
    simp only
    split <;> rfl

theorem Inv.accept (inv : Inv s) {fragment : List UInt8} {pending : Option ℕ}
    (held : s.callback = .held fragment pending) (h : s.callBack maximumBytes = some s') :
    Inv s' := by
  simp only [Link.callBack, held] at h
  obtain rfl := Option.some.inj h
  have known : ∀ n, (Callback.failing pending).target = some n → n < s.writings :=
    fun n target => inv.known n (.inr (held ▸ target))
  have failed : ∀ {session : Session}, session.isTainted = true →
      session.waitingForPrompt = false →
      Inv { s with session := session, callback := .failing pending } := by
    intro session isTainted idle
    exact (inv.tainting isTainted idle).callback (by simp [isTainted]) known (by simp)
  cases waiting : s.session.waitingForPrompt with
  | false =>
    obtain unexpected | ignored := @accept_of_idle maximumBytes fragment _ waiting
    · rw [unexpected]
      exact failed rfl waiting
    · rw [ignored]
      refine inv.callback (fun untainted isOpen => ?_) (by simp [Callback.target]) (by simp)
      obtain waits | isOpen := isOpen
      · rw [waiting] at waits
        cases waits
      · exact (inv.quiet untainted waiting isOpen).1.symm
  | true =>
    have untainted : s.session.isTainted = false := by
      by_contra isTainted
      rw [inv.tainted (by simpa using isTainted)] at waiting
      cases waiting
    obtain ⟨n, isLast, rest⟩ := inv.owned untainted waiting
    rw [held] at rest
    simp only [Callback.fragment] at rest
    have mine : ∀ m, m + 1 = s.writings → m = n := by omega
    obtain tooLong | ⟨free, more⟩ | trailing | ⟨found, response, completed⟩ :=
      @assemble_cases maximumBytes s.session.buffer fragment
    · rw [accept_of_waiting waiting tooLong]
      exact failed rfl rfl
    · rw [accept_of_waiting waiting more]
      exact inv.pended held fun _ _ _ => free
    · rw [accept_of_waiting waiting trailing]
      exact failed rfl rfl
    · rw [accept_of_waiting waiting completed]
      refine inv.completed held untainted waiting fun m isLast reliable => ?_
      obtain rfl := mine m isLast
      obtain ⟨whole, -, only⟩ := rest reliable
      have finished : prompt ∈ s.answers m := whole ▸ List.mem_append_left _ found
      obtain ⟨empty, body, free, front⟩ := split_at_prompt (inv.last m) whole found
      refine ⟨⟨body, free, ?_, ?_⟩, empty, inv.answered only finished⟩
      · rw [← whole, ← front, empty]
        exact List.append_nil _
      · obtain tooLong | good := @assemble_of_prompt maximumBytes _ _ _ front free
        · rw [tooLong] at completed
          cases completed
        · rw [good] at completed
          obtain ⟨same, -⟩ := Prod.mk.inj completed
          rw [← whole, empty, ← Assembly.complete.inj same, ← front]
          exact congrArg decode (List.append_nil _).symm

theorem Inv.callBack (inv : Inv s) (h : s.callBack maximumBytes = some s') : Inv s' := by
  cases callback : s.callback with
  | held fragment pending => exact inv.accept callback h
  | idle => simp [Link.callBack, callback] at h
  | noticed fragment =>
    simp only [Link.callBack, callback] at h
    obtain rfl := Option.some.inj h
    exact inv.callback (by simp [callback, Callback.fragment]) (fun n target => inv.known n (.inl target))
      (by simp)
  | completing pending response =>
    simp only [Link.callBack, callback] at h
    obtain rfl := Option.some.inj h
    have resolved : Inv (s.complete pending (.completed response)) := by
      refine inv.complete (by simp) (fun n target => ?_) ?_ ?_
      · exact inv.known n (.inr (by simp [callback, Callback.target, target]))
      · rintro n command response' rfl same sent waiting
        obtain rfl := Deferred.completed.inj same
        exact inv.arriving n command response sent callback waiting
      · rintro frame member n response' unwritten isOpen rfl
        obtain ⟨-, -, -, -, fine⟩ := inv.unwritten frame member n unwritten
        exact absurd callback ((fine isOpen).2 response).2
    exact resolved.callback (by simp [complete_callback, callback, Callback.fragment])
      (by simp [Callback.target]) (by simp)
  | failing pending =>
    simp only [Link.callBack, callback] at h
    obtain rfl := Option.some.inj h
    have resolved : Inv (s.complete pending .failed) := by
      refine inv.complete (by simp) (fun n target => ?_) (by simp) (by simp)
      exact inv.known n (.inr (by simp [callback, Callback.target, target]))
    exact resolved.callback (by simp [complete_callback, callback, Callback.fragment])
      (by simp [Callback.target]) (by simp)
  | losing =>
    simp only [Link.callBack, callback] at h
    obtain rfl := Option.some.inj h
    have tainted : Inv { s with session := s.session.taint } := inv.tainting rfl rfl
    exact tainted.callback (by simp [Session.taint]) (by simp [Callback.target]) (by simp)
  | lost =>
    simp only [Link.callBack, callback] at h
    obtain rfl := Option.some.inj h
    exact inv.callback (by simp [callback, Callback.fragment])
      (fun n target => inv.known n (.inl target)) (by simp)

theorem Inv.listed (inv : Inv s) {queue : List Input} {answering : Option ℕ}
    (same : answering.toList ++ queue.filterMap Input.number = s.unanswered)
    (queued : ∀ n ∈ queue.filterMap Input.number, s.answers n = [])
    (unfinished : ∀ n, answering = some n → prompt ∉ s.answers n) :
    Inv { s with
      queue := queue
      answering := answering } := by
  have same : Link.unanswered { s with queue := queue, answering := answering } = s.unanswered :=
    same
  refine ⟨inv.fresh, same ▸ inv.number, same ▸ inv.once, queued, unfinished, inv.last,
    inv.tainted, ?_, ?_, inv.known, inv.virgin, inv.written, inv.single, inv.right, inv.arriving,
    inv.returned, inv.below, ?_, inv.accepted, inv.leaving, inv.flying⟩
  · rw [same]
    exact inv.owned
  · rw [same]
    exact inv.quiet
  · rw [same]
    exact inv.unwritten

theorem Inv.read (inv : Inv s) (h : s.read = some s') : Inv s' := by
  unfold Link.read at h
  split at h
  · rename_i rest queue
    obtain rfl := Option.some.inj h
    refine inv.listed ?_ (fun n among => inv.queued n ?_) inv.unfinished
    · rw [Link.unanswered, queue, List.filterMap_cons_none Input.number_space]
    · simpa [queue] using among
  · rename_i n command rest queue answering
    obtain rfl := Option.some.inj h
    refine inv.listed ?_ (fun m among => inv.queued m ?_) ?_
    · simp [Link.unanswered, queue, answering]
    · rw [queue]
      exact List.mem_cons_of_mem n among
    · rintro m ⟨⟩
      simp [inv.queued n (by simp [queue])]
  · cases h

theorem Inv.emit (inv : Inv s) {byte : UInt8} (h : s.emit byte = some s') : Inv s' := by
  unfold Link.emit at h
  obtain ⟨n, answering, rfl⟩ := Option.map_eq_some_iff.mp h
  have unfinished := inv.unfinished n answering
  have among : n ∈ s.unanswered := by simp [Link.unanswered, answering]
  have once : n ∉ s.queue.filterMap Input.number := by
    have distinct := inv.once
    rw [Link.unanswered, answering] at distinct
    exact (List.nodup_cons.mp distinct).1
  have fewer : ((if byte = prompt then none else some n : Option ℕ).toList ++
      s.queue.filterMap Input.number).Sublist s.unanswered := by
    rw [Link.unanswered, answering]
    split
    · exact List.sublist_append_right _ _
    · exact List.Sublist.refl _
  have other : ∀ m, m ≠ n → Function.update s.answers n (s.answers n ++ [byte]) m = s.answers m :=
    fun m different => Function.update_of_ne different _ _
  refine ⟨?_, ?_, ?_, ?_, ?_, ?_, inv.tainted, ?_, ?_, inv.known, inv.virgin, inv.written,
    inv.single, ?_, ?_, ?_, inv.below, ?_, inv.accepted, inv.leaving, inv.flying⟩
  · intro m fresh
    have known := inv.number n among
    have fresh : s.writings ≤ m := fresh
    exact (other m (by omega)).trans (inv.fresh m fresh)
  · exact fun m member => inv.number m (fewer.subset member)
  · exact inv.once.sublist fewer
  · intro m member
    have different : m ≠ n := by
      rintro rfl
      exact once member
    exact (other m different).trans (inv.queued m member)
  · intro m same
    simp only at same
    split at same
    · cases same
    · rename_i more
      obtain rfl := Option.some.inj same
      simp only [Function.update_self, List.mem_append, List.mem_singleton, not_or]
      exact ⟨unfinished, Ne.symm more⟩
  · intro m
    by_cases same : m = n
    · subst same
      simpa [List.dropLast_concat] using unfinished
    · simp only [other m same]
      exact inv.last m
  · intro untainted waiting
    obtain ⟨m, isLast, rest⟩ := inv.owned untainted waiting
    refine ⟨m, isLast, fun reliable => ?_⟩
    obtain ⟨whole, free, only⟩ := rest reliable
    obtain rfl := only n among
    refine ⟨?_, free, fun k member => only k (fewer.subset member)⟩
    simp only [Function.update_self, ← whole, List.append_assoc]
  · intro untainted idle isOpen
    obtain ⟨-, -, none⟩ := inv.quiet untainted idle isOpen
    rw [none] at among
    cases among
  · exact fun m command response sent completed =>
      (inv.right m command response sent completed).update unfinished
  · exact fun m command response sent completing unresolved =>
      (inv.arriving m command response sent completing unresolved).update unfinished
  · intro m command response member
    obtain ⟨sent, right⟩ := inv.returned m command response member
    exact ⟨sent, right.update unfinished⟩
  · intro frame member m unwritten
    obtain ⟨isLast, unsent, blank, free, fine⟩ := inv.unwritten frame member m unwritten
    have different : m ≠ n := by
      rintro rfl
      exact free among
    exact ⟨isLast, unsent, (other m different).trans blank,
      fun member => free (fewer.subset member), fine⟩

theorem Inv.closed (inv : Inv s) : Inv { s with isOpen := false } := by
  have still : ∀ n, Link.Reliable { s with isOpen := false } n → s.Reliable n :=
    fun n reliable => .inr (reliable.resolve_left (by simp))
  refine ⟨inv.fresh, inv.number, inv.once, inv.queued, inv.unfinished, inv.last, inv.tainted, ?_,
    by simp, inv.known, inv.virgin, inv.written, inv.single, inv.right, inv.arriving,
    inv.returned, inv.below, ?_, inv.accepted, inv.leaving, inv.flying⟩
  · intro untainted waiting
    obtain ⟨n, isLast, rest⟩ := inv.owned untainted waiting
    exact ⟨n, isLast, fun reliable => rest (still n reliable)⟩
  · intro frame member n unwritten
    obtain ⟨isLast, unsent, blank, free, -⟩ := inv.unwritten frame member n unwritten
    exact ⟨isLast, unsent, blank, free, by simp⟩

theorem Inv.disconnected (inv : Inv s) (closed : s.isOpen = false) :
    Inv { s with session := s.session.disconnected } := by
  refine ⟨inv.fresh, inv.number, inv.once, inv.queued, inv.unfinished, inv.last, fun _ => rfl,
    by simp [Session.disconnected], by simp [closed], inv.known, inv.virgin, inv.written,
    inv.single, inv.right, inv.arriving, inv.returned, inv.below, ?_, inv.accepted, inv.leaving,
    inv.flying⟩
  intro frame member n unwritten
  obtain ⟨isLast, unsent, blank, free, -⟩ := inv.unwritten frame member n unwritten
  exact ⟨isLast, unsent, blank, free, by simp [closed]⟩

theorem Inv.responds (inv : Inv s) {response : Option ℕ}
    (known : ∀ n, response = some n → n < s.writings) : Inv { s with response := response } := by
  refine ⟨inv.fresh, inv.number, inv.once, inv.queued, inv.unfinished, inv.last, inv.tainted,
    inv.owned, inv.quiet, ?_, inv.virgin, inv.written, inv.single, inv.right, inv.arriving,
    inv.returned, inv.below, inv.unwritten, inv.accepted, inv.leaving, inv.flying⟩
  rintro n (here | target)
  · exact known n here
  · exact inv.known n (.inr target)

theorem Inv.stacked (inv : Inv s) {frame : Frame} {below : List Frame}
    (confirming : ∀ frame ∈ below, ∃ n, frame.stage = .confirming n)
    (unwritten : frame.stage.unwritten = none)
    (accepted : ∀ n, frame.stage.accepted = some n → (n, frame.command) ∈ s.sent)
    (leaving : ∀ n response, frame.stage = .leaving n (.returned response) →
      s.deferred n = .completed response)
    (flying : s.session.isTainted = false → ∀ n command, (n, command) ∈ s.sent →
      s.deferred n = .pending → frame.stage.flying = some n) :
    Inv { s with stack := frame :: below } := by
  refine ⟨inv.fresh, inv.number, inv.once, inv.queued, inv.unfinished, inv.last, inv.tainted,
    inv.owned, inv.quiet, inv.known, inv.virgin, inv.written, inv.single, inv.right,
    inv.arriving, inv.returned, confirming, ?_, ?_, ?_, ?_⟩
  · intro other member n here
    obtain rfl | among := List.mem_cons.mp member
    · rw [unwritten] at here
      cases here
    · obtain ⟨m, stage⟩ := confirming other among
      rw [stage] at here
      cases here
  · intro other member n here
    obtain rfl | among := List.mem_cons.mp member
    · exact accepted n here
    · obtain ⟨m, stage⟩ := confirming other among
      rw [stage] at here
      cases here
  · intro other member n response here
    obtain rfl | among := List.mem_cons.mp member
    · exact leaving n response here
    · obtain ⟨m, stage⟩ := confirming other among
      rw [stage] at here
      cases here
  · intro untainted n command sent unresolved
    obtain ⟨isLast, -⟩ := inv.flying untainted n command sent unresolved
    exact ⟨isLast, frame, rfl, flying untainted n command sent unresolved⟩

theorem Inv.moved (inv : Inv s) {frame : Frame} {below : List Frame} {stage : Stage}
    (top : s.stack = frame :: below) (unwritten : stage.unwritten = none)
    (accepted : ∀ n, stage.accepted = some n → (n, frame.command) ∈ s.sent)
    (leaving : ∀ n response, stage = .leaving n (.returned response) →
      s.deferred n = .completed response)
    (flying : s.session.isTainted = false → ∀ n, frame.stage.flying = some n →
      s.deferred n = .pending → stage.flying = some n) :
    Inv { s with stack := { frame with stage } :: below } := by
  refine inv.stacked (fun other member => ?_) unwritten accepted leaving ?_
  · exact inv.below other (by simp [top, member])
  · intro untainted n command sent unresolved
    obtain ⟨-, other, first, here⟩ := inv.flying untainted n command sent unresolved
    rw [top] at first
    obtain rfl := Option.some.inj first
    exact flying untainted n here unresolved

theorem Inv.popped (inv : Inv s) {frame : Frame} {below : List Frame}
    (top : s.stack = frame :: below) (landed : s.session.isTainted = false →
      frame.stage.flying = none) {rest : List Frame}
    (next : rest = [] ∨ ∃ outer later stage, below = outer :: later ∧
      rest = { outer with stage } :: later ∧ stage.unwritten = none ∧ stage.accepted = none ∧
      ∀ n response, stage ≠ .leaving n (.returned response)) :
    Inv { s with stack := rest } := by
  have none : s.session.isTainted = false → ∀ n command, (n, command) ∈ s.sent →
      s.deferred n ≠ .pending := by
    intro untainted n command sent unresolved
    obtain ⟨-, other, first, here⟩ := inv.flying untainted n command sent unresolved
    rw [top] at first
    obtain rfl := Option.some.inj first
    rw [landed untainted] at here
    cases here
  obtain rfl | ⟨outer, later, stage, rfl, rfl, unwritten, accepted, leaving⟩ := next
  · exact ⟨inv.fresh, inv.number, inv.once, inv.queued, inv.unfinished, inv.last, inv.tainted,
      inv.owned, inv.quiet, inv.known, inv.virgin, inv.written, inv.single, inv.right,
      inv.arriving, inv.returned, by simp, by simp, by simp, by simp,
      fun untainted n command sent unresolved => absurd unresolved (none untainted n command sent)⟩
  · refine inv.stacked (fun other member => ?_) unwritten (by simp [accepted]) ?_ ?_
    · exact inv.below other (by simp [top, member])
    · exact fun n response here => absurd here (leaving n response)
    · exact fun untainted n command sent unresolved =>
        absurd unresolved (none untainted n command sent)

theorem Inv.throwTo (inv : Inv s) {frame : Frame} {below : List Frame}
    (top : s.stack = frame :: below) (landed : s.session.isTainted = false →
      frame.stage.flying = none) : Inv (s.throwTo below) := by
  cases below with
  | nil => exact inv.popped top landed (.inl rfl)
  | cons outer later =>
    obtain ⟨n, stage⟩ := inv.below outer (by simp [top])
    simp only [Link.throwTo, stage]
    exact inv.popped top landed (.inr ⟨outer, later, .tainting n, rfl, rfl, rfl, rfl, by simp⟩)

theorem Inv.returnTo (inv : Inv s) {frame : Frame} {below : List Frame} {n : ℕ}
    {response : Text} (top : s.stack = frame :: below)
    (stage : frame.stage = .leaving n (.returned response)) :
    Inv (s.returnTo n frame.command response below) := by
  have member : frame ∈ s.stack := by simp [top]
  have sent := inv.accepted frame member n (by simp [stage, Stage.accepted])
  have completed := inv.leaving frame member n response stage
  have added : Inv { s with returned := s.returned ++ [(n, frame.command, response)] } := by
    refine ⟨inv.fresh, inv.number, inv.once, inv.queued, inv.unfinished, inv.last, inv.tainted,
      inv.owned, inv.quiet, inv.known, inv.virgin, inv.written, inv.single, inv.right,
      inv.arriving, ?_, inv.below, inv.unwritten, inv.accepted, inv.leaving, inv.flying⟩
    intro m command reply member
    obtain old | ⟨rfl, rfl, rfl⟩ := by simpa using member
    · exact inv.returned m command reply old
    · exact ⟨sent, inv.right m frame.command reply sent completed⟩
  have landed : s.session.isTainted = false → frame.stage.flying = none :=
    fun _ => by simp [stage, Stage.flying]
  cases below with
  | nil => exact added.popped top landed (.inl rfl)
  | cons outer later =>
    obtain ⟨m, outermost⟩ := inv.below outer (by simp [top])
    simp only [Link.returnTo, outermost]
    refine added.popped top landed (.inr ⟨outer, later, _, rfl, rfl, ?_, ?_, ?_⟩)
    · split <;> rfl
    · split <;> rfl
    · intro k reply
      split <;> simp

theorem Inv.begun (inv : Inv s) {frame : Frame} {below : List Frame} {session : Session}
    (top : s.stack = frame :: below) (stage : frame.stage = .gap)
    (begins : s.session.beginCommand = some session) :
    Inv { s with
      session := session
      writings := s.writings + 1
      stack := { frame with stage := .begun s.writings } :: below } := by
  unfold Session.beginCommand at begins
  split at begins
  · cases begins
  · rename_i ready
    obtain rfl := Option.some.inj begins
    obtain ⟨untainted, idle⟩ : s.session.isTainted = false ∧ s.session.waitingForPrompt = false := by
      simpa using ready
    have confirming : ∀ frame ∈ below, ∃ n, frame.stage = .confirming n :=
      fun other member => inv.below other (by simp [top, member])
    have unsent : ∀ command, (s.writings, command) ∉ s.sent :=
      fun command sent => absurd (inv.written _ command sent) (lt_irrefl _)
    have blank := inv.fresh s.writings le_rfl
    have later : ∀ n, s.writings + 1 ≤ n → s.writings ≤ n := fun n h => by omega
    refine ⟨fun n h => inv.fresh n (later n h), fun n h => (inv.number n h).trans (by simp),
      inv.once, inv.queued, inv.unfinished, inv.last, by simp, ?_, by simp,
      fun n h => (inv.known n h).trans (by simp), fun n h => inv.virgin n (later n h),
      fun n command h => (inv.written n command h).trans (by simp), inv.single, inv.right,
      inv.arriving, inv.returned, confirming, ?_, ?_, ?_, ?_⟩
    · refine fun _ _ => ⟨s.writings, rfl, ?_⟩
      rintro (isOpen | ⟨command, sent⟩)
      · obtain ⟨fragment, air, none⟩ := inv.quiet untainted idle isOpen
        have none : Link.unanswered s = [] := none
        refine ⟨?_, by simp, ?_⟩
        · simp only [fragment, air, blank]
          rfl
        · intro m among
          have among : m ∈ s.unanswered := among
          rw [none] at among
          cases among
      · exact absurd sent (unsent command)
    · intro other member n here
      obtain rfl | among := List.mem_cons.mp member
      · obtain rfl := Option.some.inj here
        refine ⟨rfl, unsent, blank, ?_, fun _ => ⟨fun _ => rfl, fun response => ⟨?_, ?_⟩⟩⟩
        · exact fun among => absurd (inv.number _ among) (lt_irrefl _)
        · simp [inv.virgin s.writings le_rfl]
        · intro completing
          have target : s.callback = .completing (some s.writings) response := completing
          exact absurd (inv.known s.writings (.inr (by simp [target, Callback.target])))
            (lt_irrefl _)
      · obtain ⟨m, confirms⟩ := confirming other among
        rw [confirms] at here
        cases here
    · intro other member n here
      obtain rfl | among := List.mem_cons.mp member
      · cases here
      · obtain ⟨m, confirms⟩ := confirming other among
        rw [confirms] at here
        cases here
    · intro other member n response here
      obtain rfl | among := List.mem_cons.mp member
      · cases here
      · obtain ⟨m, confirms⟩ := confirming other among
        rw [confirms] at here
        cases here
    · intro _ n command sent unresolved
      obtain ⟨-, other, first, here⟩ := inv.flying untainted n command sent unresolved
      rw [top] at first
      obtain rfl := Option.some.inj first
      rw [stage] at here
      cases here

theorem Inv.assigned (inv : Inv s) {frame : Frame} {below : List Frame} {n : ℕ}
    (top : s.stack = frame :: below) (stage : frame.stage = .begun n) :
    Inv { s with
      response := some n
      stack := { frame with stage := .assigned n } :: below } := by
  have member : frame ∈ s.stack := by simp [top]
  have mine := inv.unwritten frame member n (by simp [stage, Stage.unwritten])
  have known : n < s.writings := by
    have isLast := mine.1
    omega
  have responds : Inv { s with response := some n } := inv.responds fun m same => by
    obtain rfl := Option.some.inj same
    exact known
  have confirming : ∀ frame ∈ below, ∃ n, frame.stage = .confirming n :=
    fun other among => inv.below other (by simp [top, among])
  refine ⟨inv.fresh, inv.number, inv.once, inv.queued, inv.unfinished, inv.last, inv.tainted,
    inv.owned, inv.quiet, responds.known, inv.virgin, inv.written, inv.single, inv.right,
    inv.arriving, inv.returned, confirming, ?_, ?_, ?_, ?_⟩
  · intro other among m here
    obtain rfl | among := List.mem_cons.mp among
    · obtain rfl := Option.some.inj here
      exact mine
    · exact inv.unwritten other (by simp [top, among]) m here
  · intro other among m here
    obtain rfl | among := List.mem_cons.mp among
    · cases here
    · exact inv.accepted other (by simp [top, among]) m here
  · intro other among m response here
    obtain rfl | among := List.mem_cons.mp among
    · cases here
    · exact inv.leaving other (by simp [top, among]) m response here
  · intro untainted m command sent unresolved
    obtain ⟨-, other, first, here⟩ := inv.flying untainted m command sent unresolved
    rw [top] at first
    obtain rfl := Option.some.inj first
    rw [stage] at here
    cases here

theorem Inv.writeTo (inv : Inv s) {n : ℕ} {command : Text} {arrives : Bool}
    (isLast : n + 1 = s.writings) (blank : s.answers n = []) (free : n ∉ s.unanswered)
    (waiting : arrives = true → s.session.isTainted = false → s.session.waitingForPrompt = true)
    (written : ∀ frame ∈ s.stack, frame.stage.unwritten = none) :
    Inv (s.writeTo (.command n command) arrives) := by
  cases arrives with
  | false => exact inv
  | true =>
    have more : Link.unanswered { s with queue := s.queue ++ [.command n command] } =
        s.unanswered ++ [n] := by
      simp [Link.unanswered, List.filterMap_append]
    refine ⟨inv.fresh, ?_, ?_, ?_, inv.unfinished, inv.last, inv.tainted, ?_, ?_, inv.known,
      inv.virgin, inv.written, inv.single, inv.right, inv.arriving, inv.returned, inv.below, ?_,
      inv.accepted, inv.leaving, inv.flying⟩
    · intro m among
      rw [Link.writeTo, if_pos rfl, more] at among
      obtain old | rfl := by simpa using among
      · exact inv.number m old
      · exact lt_of_lt_of_eq (Nat.lt_succ_self m) isLast
    · rw [Link.writeTo, if_pos rfl, more]
      exact List.nodup_append.mpr ⟨inv.once, by simp, fun a old b new same => by
        obtain rfl := List.mem_singleton.mp new
        exact free (same ▸ old)⟩
    · intro m among
      simp only [Link.writeTo, if_true, List.filterMap_append, List.mem_append] at among
      obtain old | new := among
      · exact inv.queued m old
      · obtain rfl := by simpa [List.filterMap_cons] using new
        exact blank
    · intro untainted waits
      obtain ⟨m, mine, rest⟩ := inv.owned untainted waits
      refine ⟨m, mine, fun reliable => ?_⟩
      obtain ⟨whole, clean, only⟩ := rest reliable
      refine ⟨whole, clean, fun k among => ?_⟩
      rw [Link.writeTo, if_pos rfl, more] at among
      obtain old | rfl := by simpa using among
      · exact only k old
      · omega
    · intro untainted idle isOpen
      have idle : s.session.waitingForPrompt = false := idle
      rw [waiting rfl untainted] at idle
      cases idle
    · intro frame member m here
      rw [written frame member] at here
      cases here

theorem Inv.sends (inv : Inv s) {frame : Frame} {below : List Frame} {n : ℕ} {command : Text}
    (top : s.stack = frame :: below) (flying : frame.stage.flying = some n)
    (isLast : n + 1 = s.writings) (unsent : ∀ command, (n, command) ∉ s.sent)
    (isOpen : s.isOpen = true) (unresolved : ∀ response, s.deferred n ≠ .completed response ∧
      s.callback ≠ .completing (some n) response)
    (written : ∀ frame ∈ s.stack, frame.stage.unwritten = none) :
    Inv { s with sent := s.sent ++ [(n, command)] } := by
  refine ⟨inv.fresh, inv.number, inv.once, inv.queued, inv.unfinished, inv.last, inv.tainted,
    ?_, inv.quiet, inv.known, inv.virgin, ?_, ?_, ?_, ?_, ?_, inv.below, ?_, ?_, inv.leaving, ?_⟩
  · intro untainted waiting
    obtain ⟨m, mine, rest⟩ := inv.owned untainted waiting
    exact ⟨m, mine, fun _ => rest (.inl isOpen)⟩
  · intro m text sent
    obtain old | ⟨rfl, rfl⟩ := by simpa using sent
    · exact inv.written m text old
    · exact lt_of_lt_of_eq (Nat.lt_succ_self m) isLast
  · simp only [List.map_append, List.map_cons, List.map_nil]
    refine List.nodup_append.mpr ⟨inv.single, by simp, fun a old b new same => ?_⟩
    obtain ⟨⟨m, text⟩, sent, rfl⟩ := List.mem_map.mp old
    obtain rfl := List.mem_singleton.mp new
    exact unsent text (same ▸ sent)
  · intro m text response sent completed
    obtain old | ⟨rfl, rfl⟩ := by simpa using sent
    · exact inv.right m text response old completed
    · exact absurd completed (unresolved response).1
  · intro m text response sent completing waiting
    obtain old | ⟨rfl, rfl⟩ := by simpa using sent
    · exact inv.arriving m text response old completing waiting
    · exact absurd completing (unresolved response).2
  · intro m text response member
    obtain ⟨sent, right⟩ := inv.returned m text response member
    exact ⟨List.mem_append_left _ sent, right⟩
  · intro other member m here
    rw [written other member] at here
    cases here
  · exact fun other member m here => List.mem_append_left _ (inv.accepted other member m here)
  · intro untainted m text sent waiting
    obtain old | ⟨rfl, rfl⟩ := by simpa using sent
    · exact inv.flying untainted m text old waiting
    · exact ⟨isLast, frame, by simp [top], flying⟩

theorem Inv.writes (inv : Inv s) {frame : Frame} {below : List Frame} {n : ℕ}
    {written : Written} {arrives : Bool} (top : s.stack = frame :: below)
    (stage : frame.stage = .assigned n)
    (h : s.advance frame below (.write written arrives) = some s') : Inv s' := by
  have member : frame ∈ s.stack := by simp [top]
  obtain ⟨isLast, unsent, blank, free, fine⟩ :=
    inv.unwritten frame member n (by simp [stage, Stage.unwritten])
  simp only [Link.advance, stage] at h
  split at h
  · cases h
  · rename_i possible
    have isOpen : arrives = true ∨ written = .accepted → s.isOpen = true := by
      simpa [not_and, or_imp] using possible
    have confirming : ∀ (frame : Frame), frame.stage.unwritten = none →
        ∀ other ∈ frame :: below, other.stage.unwritten = none := by
      intro frame mine other among
      obtain rfl | among := List.mem_cons.mp among
      · exact mine
      · obtain ⟨m, confirms⟩ := inv.below other (by simp [top, among])
        simp [confirms, Stage.unwritten]
    -- first the stage, then the bytes
    have gone : ∀ stage : Stage, stage.unwritten = none → stage.accepted = none →
        (∀ n response, stage ≠ .leaving n (.returned response)) →
        Inv (Link.writeTo { s with stack := { frame with stage } :: below }
          (.command n frame.command) arrives) := by
      intro stage' written accepted returned
      have moved : Inv { s with stack := { frame with stage := stage' } :: below } :=
        inv.moved top written (by simp [accepted]) (fun n response same =>
          absurd same (returned n response)) (by simp [stage, Stage.flying])
      exact moved.writeTo isLast blank free (fun arrived => (fine (isOpen (.inl arrived))).1)
        (confirming _ written)
    cases written with
    | rejected =>
      obtain rfl := Option.some.inj h
      have left := gone (.tainting n) rfl rfl (by simp)
      cases arrives <;> exact left
    | thrown =>
      obtain rfl := Option.some.inj h
      have left := gone (.leaving n .thrown) rfl rfl (by simp)
      cases arrives <;> exact left
    | accepted =>
      obtain rfl := Option.some.inj h
      have opened := isOpen (.inr rfl)
      have left := gone (.tainting n) rfl rfl (by simp)
      have confirms := confirming { frame with stage := .tainting n } rfl
      cases arrives with
      | false =>
        have sends := @Inv.sends _ left { frame with stage := .tainting n } below n frame.command
          rfl rfl isLast unsent opened (fine opened).2 confirms
        exact @Inv.moved _ sends { frame with stage := .tainting n } below (.awaiting n) rfl rfl
          (by simp [Stage.accepted]) (by simp) (fun _ m same _ => same)
      | true =>
        have sends := @Inv.sends _ left { frame with stage := .tainting n } below n frame.command
          rfl rfl isLast unsent opened (fine opened).2 confirms
        exact @Inv.moved _ sends { frame with stage := .tainting n } below (.awaiting n) rfl rfl
          (by simp [Stage.accepted]) (by simp) (fun _ m same _ => same)

theorem Inv.aborts (inv : Inv s) {arrives : Bool} : Inv (s.writeTo .space arrives) := by
  cases arrives with
  | false => exact inv
  | true =>
    have same : (s.queue ++ [Input.space]).filterMap Input.number = s.queue.filterMap Input.number := by
      simp [List.filterMap_append]
    refine inv.listed (by rw [same]; rfl) (fun n among => ?_) inv.unfinished
    rw [same] at among
    exact inv.queued n among

theorem Inv.advance (inv : Inv s) {frame : Frame} {below : List Frame} {signal : Signal}
    (top : s.stack = frame :: below) (h : s.advance frame below signal = some s') : Inv s' := by
  have taints : ∀ n, (frame.stage.flying = none ∨ frame.stage.flying = some n) →
      Inv { s with stack := { frame with stage := .tainting n } :: below } := by
    intro n before
    refine inv.moved top rfl (by simp [Stage.accepted]) (by simp) fun _ m here _ => ?_
    obtain none | same := before
    · rw [none] at here
      cases here
    · exact same.symm.trans here
  have member : frame ∈ s.stack := by simp [top]
  unfold Link.advance at h
  simp only at h
  split at h
  · rename_i stage
    obtain rfl := Option.some.inj h
    exact inv.throwTo top fun _ => by simp [stage, Stage.flying]
  · rename_i stage
    split at h
    · obtain rfl := Option.some.inj h
      exact inv.throwTo top fun _ => by simp [stage, Stage.flying]
    · rename_i begins
      obtain rfl := Option.some.inj h
      exact inv.begun top stage begins
  · rename_i n stage
    obtain rfl := Option.some.inj h
    exact inv.assigned top stage
  · rename_i n written arrives stage
    have advanced : s.advance frame below (.write written arrives) = some s' := by
      simp only [Link.advance, stage]
      exact h
    exact inv.writes top stage advanced
  · rename_i n stage
    split at h
    · cases h
    · rename_i response completed
      obtain rfl := Option.some.inj h
      refine inv.moved top rfl ?_ ?_ ?_
      · intro m same
        obtain rfl := Option.some.inj same
        exact inv.accepted frame member n (by simp [stage, Stage.accepted])
      · intro m reply same
        simp only [Stage.leaving.injEq, Outcome.returned.injEq] at same
        obtain ⟨rfl, rfl⟩ := same
        exact completed
      · intro _ m here unresolved
        rw [stage] at here
        obtain rfl := Option.some.inj here
        rw [completed] at unresolved
        cases unresolved
    · obtain rfl := Option.some.inj h
      exact taints n (.inr (by simp [stage, Stage.flying]))
  · rename_i n stage
    obtain rfl := Option.some.inj h
    split
    · refine inv.moved top rfl (by simp [Stage.accepted]) (by simp) fun _ m here _ => ?_
      rw [stage] at here
      exact here
    · exact taints n (.inr (by simp [stage, Stage.flying]))
  · rename_i n stage
    obtain rfl := Option.some.inj h
    exact taints n (.inr (by simp [stage, Stage.flying]))
  · rename_i n stage
    obtain rfl := Option.some.inj h
    split
    all_goals
      refine inv.moved top rfl (by simp [Stage.accepted]) (by simp) fun _ m here _ => ?_
      rw [stage] at here
      exact here
  · rename_i n written arrives stage
    split at h
    · cases h
    · obtain rfl := Option.some.inj h
      have aborts : Inv (s.writeTo .space arrives) := inv.aborts
      have same : (s.writeTo .space arrives).stack = frame :: below := by
        cases arrives <;> exact top
      refine aborts.moved same ?_ ?_ ?_ fun _ m here _ => ?_
      · split <;> rfl
      · split <;> simp [Stage.accepted]
      · split <;> simp
      · rw [stage] at here
        split <;> exact here
  · rename_i n stage
    split at h
    · cases h
    · rename_i response completed
      obtain rfl := Option.some.inj h
      refine inv.moved top rfl (by simp [Stage.accepted]) (by simp) fun _ m here unresolved => ?_
      rw [stage] at here
      obtain rfl := Option.some.inj here
      rw [completed] at unresolved
      cases unresolved
    · obtain rfl := Option.some.inj h
      exact taints n (.inr (by simp [stage, Stage.flying]))
  · rename_i n boundary stage
    split at h
    · obtain rfl := Option.some.inj h
      exact taints n (.inl (by simp [stage, Stage.flying]))
    · split at h
      · obtain rfl := Option.some.inj h
        exact inv.moved top rfl (by simp [Stage.accepted]) (by simp) (by simp [stage, Stage.flying])
      · split at h
        · obtain rfl := Option.some.inj h
          have confirms : Inv { s with stack := { frame with stage := .confirming n } :: below } :=
            inv.moved top rfl (by simp [Stage.accepted]) (by simp) (by simp [stage, Stage.flying])
          refine confirms.stacked ?_ rfl (by simp [Stage.accepted]) (by simp) ?_
          · intro other among
            obtain rfl | among := List.mem_cons.mp among
            · exact ⟨n, rfl⟩
            · exact inv.below other (by simp [top, among])
          · intro untainted m command sent unresolved
            obtain ⟨-, other, first, here⟩ := inv.flying untainted m command sent unresolved
            rw [top] at first
            obtain rfl := Option.some.inj first
            rw [stage] at here
            cases here
        · obtain rfl := Option.some.inj h
          exact taints n (.inl (by simp [stage, Stage.flying]))
      · obtain rfl := Option.some.inj h
        exact inv.moved top rfl (by simp [Stage.accepted]) (by simp) (by simp [stage, Stage.flying])
  · rename_i n boundary stage
    obtain rfl := Option.some.inj h
    exact inv.moved top rfl (by simp [Stage.accepted]) (by simp) (by simp [stage, Stage.flying])
  · rename_i n stage
    obtain rfl := Option.some.inj h
    exact taints n (.inr (by simp [stage, Stage.flying]))
  · rename_i n boundary stage
    obtain rfl := Option.some.inj h
    exact taints n (.inl (by simp [stage, Stage.flying]))
  · rename_i n boundary stage
    obtain rfl := Option.some.inj h
    exact taints n (.inl (by simp [stage, Stage.flying]))
  · rename_i n stage
    obtain rfl := Option.some.inj h
    have tainted : Inv { s with session := s.session.taint } := inv.tainting rfl rfl
    exact tainted.moved top rfl (by simp [Stage.accepted]) (by simp) (by simp [Session.taint])
  · rename_i n outcome stage
    have responds : Inv { s with response := none } := inv.responds (by simp)
    split at h
    · obtain rfl := Option.some.inj h
      exact responds.returnTo top stage
    all_goals
      obtain rfl := Option.some.inj h
      exact responds.throwTo top fun _ => by simp [stage, Stage.flying]
  · cases h

theorem Inv.step (inv : Inv s) {event : Event} (h : s.step maximumBytes event = some s') :
    Inv s' := by
  cases event with
  | enter command recover =>
    simp only [Link.step] at h
    split at h
    · rename_i ready
      obtain rfl := Option.some.inj h
      refine inv.stacked (by simp) rfl (by simp [Stage.accepted]) (by simp) ?_
      intro untainted n text sent unresolved
      obtain ⟨-, frame, first, -⟩ := inv.flying untainted n text sent unresolved
      rw [ready.1] at first
      cases first
    · cases h
  | call signal =>
    cases top : s.stack with
    | nil => simp [Link.step, top] at h
    | cons frame below =>
      simp only [Link.step, top] at h
      exact inv.advance top h
  | notify length =>
    simp only [Link.step] at h
    split at h
    · rename_i idle
      obtain rfl := Option.some.inj h
      refine ⟨inv.fresh, inv.number, inv.once, inv.queued, inv.unfinished, inv.last, inv.tainted,
        ?_, ?_, ?_, inv.virgin, inv.written, inv.single, inv.right, by simp, inv.returned,
        inv.below, ?_, inv.accepted, inv.leaving, inv.flying⟩
      · intro untainted waiting
        obtain ⟨n, isLast, rest⟩ := inv.owned untainted waiting
        refine ⟨n, isLast, fun reliable => ?_⟩
        obtain ⟨whole, free, only⟩ := rest reliable
        rw [idle] at whole
        refine ⟨?_, free, only⟩
        simpa [Callback.fragment, List.append_assoc] using whole
      · intro untainted quiet isOpen
        obtain ⟨-, air, none⟩ := inv.quiet untainted quiet isOpen
        exact ⟨by simp [Callback.fragment, air], by simp [air], none⟩
      · rintro n (response | target)
        · exact inv.known n (.inl response)
        · cases target
      · intro frame member n unwritten
        obtain ⟨isLast, unsent, blank, free, fine⟩ := inv.unwritten frame member n unwritten
        exact ⟨isLast, unsent, blank, free, fun isOpen =>
          ⟨(fine isOpen).1, fun response => ⟨((fine isOpen).2 response).1, by simp⟩⟩⟩
    · cases h
  | lose =>
    simp only [Link.step] at h
    split at h
    · rename_i idle
      obtain rfl := Option.some.inj h
      exact inv.callback (by simp [idle, Callback.fragment]) (by simp [Callback.target]) (by simp)
    · cases h
  | callback => exact inv.callBack h
  | read => exact inv.read h
  | emit byte => exact inv.emit h
  | taint =>
    obtain rfl := Option.some.inj h
    exact inv.tainting rfl rfl
  | close =>
    obtain rfl := Option.some.inj h
    exact inv.closed
  | forget =>
    simp only [Link.step] at h
    split at h
    · cases h
    · obtain rfl := Option.some.inj h
      exact ⟨inv.fresh, inv.number, inv.once, inv.queued, inv.unfinished, inv.last, inv.tainted,
        inv.owned, inv.quiet, inv.known, inv.virgin, inv.written, inv.single, inv.right,
        inv.arriving, inv.returned, inv.below, inv.unwritten, inv.accepted, inv.leaving, inv.flying⟩
  | disconnected =>
    simp only [Link.step] at h
    split at h
    · cases h
    · rename_i closed
      obtain rfl := Option.some.inj h
      simp only [Bool.or_eq_true, not_or, Bool.not_eq_true] at closed
      exact inv.disconnected closed.1

theorem Inv.of_run (run : ReflTransGen (Step maximumBytes) connected s) : Inv s := by
  induction run with
  | refl => exact inv_connected
  | tail _ step ih =>
    obtain ⟨event, h⟩ := step
    exact ih.step h

theorem accept_tainted {session : Session} (isTainted : session.isTainted = true)
    (fragment : List UInt8) : (session.accept maximumBytes fragment).2.isTainted = true := by
  unfold Session.accept
  split
  · split
    · rfl
    · exact isTainted
  · split <;> first | rfl | exact isTainted

def Link.Kept (s s' : Link) : Prop := s'.session.isTainted = true ∧ s'.writings = s.writings

theorem throwTo_kept (isTainted : s.session.isTainted = true) (below : List Frame) :
    s.Kept (s.throwTo below) := by
  unfold Link.throwTo
  split
  · exact ⟨isTainted, rfl⟩
  · split <;> exact ⟨isTainted, rfl⟩

theorem returnTo_kept (isTainted : s.session.isTainted = true) (n : ℕ) (command response : Text)
    (below : List Frame) : s.Kept (s.returnTo n command response below) := by
  unfold Link.returnTo
  simp only
  split
  · exact ⟨isTainted, rfl⟩
  · split <;> exact ⟨isTainted, rfl⟩

theorem advance_kept (isTainted : s.session.isTainted = true) {frame : Frame}
    {below : List Frame} {signal : Signal} (h : s.advance frame below signal = some s') :
    s.Kept s' := by
  have written : ∀ (input : Input) (arrives : Bool), s.Kept (s.writeTo input arrives) := by
    intro input arrives
    cases arrives <;> exact ⟨isTainted, rfl⟩
  unfold Link.advance at h
  simp only at h
  split at h
  · obtain rfl := Option.some.inj h
    exact throwTo_kept isTainted below
  · split at h
    · obtain rfl := Option.some.inj h
      exact throwTo_kept isTainted below
    · rename_i begins
      simp [Session.beginCommand, isTainted] at begins
  · obtain rfl := Option.some.inj h
    exact ⟨isTainted, rfl⟩
  · rename_i n written' arrives _
    split at h
    · cases h
    · split at h
      all_goals
        obtain rfl := Option.some.inj h
        exact written _ arrives
  · split at h
    · cases h
    all_goals
      obtain rfl := Option.some.inj h
      exact ⟨isTainted, rfl⟩
  · obtain rfl := Option.some.inj h
    exact ⟨isTainted, rfl⟩
  · obtain rfl := Option.some.inj h
    exact ⟨isTainted, rfl⟩
  · obtain rfl := Option.some.inj h
    exact ⟨isTainted, rfl⟩
  · rename_i n written' arrives _
    split at h
    · cases h
    · obtain rfl := Option.some.inj h
      exact written _ arrives
  · split at h
    · cases h
    all_goals
      obtain rfl := Option.some.inj h
      exact ⟨isTainted, rfl⟩
  · simp only [Session.atBoundary, isTainted, Bool.true_or, Bool.not_true, Bool.not_false,
      if_true] at h
    obtain rfl := Option.some.inj h
    exact ⟨isTainted, rfl⟩
  · obtain rfl := Option.some.inj h
    exact ⟨isTainted, rfl⟩
  · obtain rfl := Option.some.inj h
    exact ⟨isTainted, rfl⟩
  · obtain rfl := Option.some.inj h
    exact ⟨isTainted, rfl⟩
  · obtain rfl := Option.some.inj h
    exact ⟨isTainted, rfl⟩
  · obtain rfl := Option.some.inj h
    exact ⟨rfl, rfl⟩
  · rename_i n outcome _
    split at h
    · obtain rfl := Option.some.inj h
      exact @returnTo_kept { s with response := none } isTainted n _ _ below
    all_goals
      obtain rfl := Option.some.inj h
      exact @throwTo_kept { s with response := none } isTainted below
  · cases h

theorem complete_kept (isTainted : s.session.isTainted = true) (pending : Option ℕ)
    (deferred : Deferred) : s.Kept (s.complete pending deferred) := by
  unfold Link.complete
  split
  · exact ⟨isTainted, rfl⟩
  · split <;> exact ⟨isTainted, rfl⟩

theorem callBack_kept (isTainted : s.session.isTainted = true)
    (h : s.callBack maximumBytes = some s') : s.Kept s' := by
  unfold Link.callBack at h
  split at h
  · cases h
  · obtain rfl := Option.some.inj h
    exact ⟨isTainted, rfl⟩
  · obtain rfl := Option.some.inj h
    exact ⟨accept_tainted isTainted _, rfl⟩
  · obtain rfl := Option.some.inj h
    exact complete_kept isTainted _ _
  · obtain rfl := Option.some.inj h
    exact complete_kept isTainted _ _
  · obtain rfl := Option.some.inj h
    exact ⟨rfl, rfl⟩
  · obtain rfl := Option.some.inj h
    exact ⟨isTainted, rfl⟩

theorem step_kept (isTainted : s.session.isTainted = true) {event : Event}
    (h : s.step maximumBytes event = some s') : s.Kept s' := by
  cases event with
  | call signal =>
    cases top : s.stack with
    | nil => simp [Link.step, top] at h
    | cons frame below =>
      simp only [Link.step, top] at h
      exact advance_kept isTainted h
  | callback => exact callBack_kept isTainted h
  | read =>
    simp only [Link.step, Link.read] at h
    split at h
    · obtain rfl := Option.some.inj h
      exact ⟨isTainted, rfl⟩
    · obtain rfl := Option.some.inj h
      exact ⟨isTainted, rfl⟩
    · cases h
  | emit byte =>
    obtain ⟨n, -, rfl⟩ := Option.map_eq_some_iff.mp h
    exact ⟨isTainted, rfl⟩
  | taint =>
    obtain rfl := Option.some.inj h
    exact ⟨rfl, rfl⟩
  | close =>
    obtain rfl := Option.some.inj h
    exact ⟨isTainted, rfl⟩
  | enter | notify | lose =>
    simp only [Link.step] at h
    split at h
    · obtain rfl := Option.some.inj h
      exact ⟨isTainted, rfl⟩
    · cases h
  | forget | disconnected =>
    simp only [Link.step] at h
    split at h
    · cases h
    · obtain rfl := Option.some.inj h
      exact ⟨isTainted, rfl⟩

theorem run_kept (run : ReflTransGen (Step maximumBytes) s s')
    (isTainted : s.session.isTainted = true) : s.Kept s' := by
  induction run with
  | refl => exact ⟨isTainted, rfl⟩
  | tail _ step ih =>
    obtain ⟨event, h⟩ := step
    obtain ⟨still, same⟩ := step_kept ih.1 h
    exact ⟨still, same.trans ih.2⟩

structure Attributed (maximumBytes : ℕ) (s : Link) : Prop where
  /-- Each writing has its own number. -/
  single : (s.sent.map Prod.fst).Nodup
  /-- A response is the whole of what was sent in answer to that writing of that command. -/
  own : ∀ n command response, (n, command, response) ∈ s.returned →
    (n, command) ∈ s.sent ∧ ∃ body, prompt ∉ body ∧ s.answers n = body ++ [prompt] ∧
      response = decode (s.answers n)
  /-- No command that begins after the session was tainted returns. -/
  tainted : s.session.isTainted = true → ∀ s', ReflTransGen (Step maximumBytes) s s' →
    ∀ n command response, (n, command, response) ∈ s'.returned → n < s.writings

theorem replies_attributed (run : ReflTransGen (Step maximumBytes) connected s) :
    Attributed maximumBytes s := by
  have inv := Inv.of_run run
  refine ⟨inv.single, inv.returned, fun isTainted s' later n command response member => ?_⟩
  have inv' := Inv.of_run (run.trans later)
  have known := inv'.written n command (inv'.returned n command response member).1
  exact (run_kept later isTainted).2 ▸ known

open Follow

/-- A reply in two fragments -/
theorem replies_attributed_ATI : ∃ s, s.returned = [(0, "ATI".toList, "OK>".toList)] ∧
    Attributed 8192 s := by
  have returns : (follow (fun event s => s.step 8192 event)
      ([.enter "at i".toList false, .call .go, .call .go, .call (.write .accepted true), .read,
        .emit 79, .emit 75, .notify 1, .callback, .callback, .emit 62, .notify 2, .callback,
        .callback, .callback, .call .go, .call .go])
      connected).any (fun s => decide (s.returned = [(0, "ATI".toList, "OK>".toList)])) = true := by
    decide +kernel
  obtain ⟨s, run, about⟩ := follow_any returns
  refine ⟨s, of_decide_eq_true about, replies_attributed ?_⟩
  exact ReflTransGen.mono (fun _ _ h => h.imp fun _ => And.right) _ _ run

end DashcamStats.Ble
