import DashcamStats.Elm.Protocol

namespace DashcamStats.Ble

open Elm (Text strip)

def prompt : UInt8 := 62

def isWhitespace (byte : UInt8) : Bool := (9 ≤ byte && byte ≤ 13) || (28 ≤ byte && byte ≤ 32)

def carriesData (fragment : List UInt8) : Bool :=
  fragment.any fun byte => byte ≠ 0 && !isWhitespace byte

def decodeByte (byte : UInt8) : Char := if byte < 128 then Char.ofNat byte.toNat else '\uFFFD'

def decode (bytes : List UInt8) : Text := (bytes.map decodeByte).filter fun c => c ≠ '\x00'

inductive Assembly where
  | pending
  | ignored
  | overflow
  | trailingData
  | unexpectedData
  | complete (response : Text)
  deriving DecidableEq

/-- `ElmResponseAssembler.accept`, with the buffer it leaves -/
def assemble (maximumBytes : ℕ) (buffer fragment : List UInt8) : Assembly × List UInt8 :=
  if maximumBytes < buffer.length + fragment.length then (.overflow, buffer)
  else
    let accumulated := buffer ++ fragment
    if prompt ∉ accumulated then (.pending, accumulated)
    else if carriesData ((accumulated.dropWhile (· ≠ prompt)).drop 1) then (.trailingData, [])
    else (.complete (decode (accumulated.takeWhile (· ≠ prompt) ++ [prompt])), [])

structure Session where
  buffer : List UInt8
  waitingForPrompt : Bool
  isTainted : Bool
  deriving DecidableEq

namespace Session

def freshConnection : Session := ⟨[], false, false⟩

def beginCommand (session : Session) : Option Session :=
  if session.isTainted || session.waitingForPrompt then none else some ⟨[], true, false⟩

def accept (maximumBytes : ℕ) (session : Session) (fragment : List UInt8) : Assembly × Session :=
  if !session.waitingForPrompt then
    if carriesData fragment then (.unexpectedData, { session with isTainted := true })
    else (.ignored, session)
  else
    match assemble maximumBytes session.buffer fragment with
    | (.overflow, buffer) => (.overflow, ⟨buffer, false, true⟩)
    | (.trailingData, buffer) => (.trailingData, ⟨buffer, false, true⟩)
    | (.complete response, buffer) => (.complete response, ⟨buffer, false, session.isTainted⟩)
    | (assembled, buffer) => (assembled, { session with buffer := buffer })

def taint (session : Session) : Session :=
  { session with
    waitingForPrompt := false
    isTainted := true }

def disconnected (session : Session) : Session := ⟨[], false, session.isTainted⟩

-- `requirePromptBoundary`
def atBoundary (session : Session) : Bool := !(session.isTainted || session.waitingForPrompt)

end Session

def isOptionalRecoveryConfirmation (response : Text) : Bool :=
  response.getLast? = some '>' &&
    let lines := ((response.dropLast.splitOnP fun c => c = '\r' || c = '\n').map strip).filter
      fun line => line ≠ []
    lines = ["OK".toList] || lines = ["ATE0".toList, "OK".toList]

section

variable {max : ℕ} {buffer fragment : List UInt8}

theorem takeWhile_prompt {body : List UInt8} (free : prompt ∉ body) :
    (body ++ [prompt]).takeWhile (· ≠ prompt) = body ∧
      (body ++ [prompt]).dropWhile (· ≠ prompt) = [prompt] := by
  induction body with
  | nil => simp
  | cons byte rest ih =>
    rw [List.mem_cons, not_or] at free
    obtain ⟨first, later⟩ := free
    obtain ⟨taken, dropped⟩ := ih later
    have other : byte ≠ prompt := Ne.symm first
    simp only [List.cons_append, List.takeWhile_cons, List.dropWhile_cons, other, decide_true,
      ne_eq, not_false_eq_true, if_true]
    exact ⟨congrArg (byte :: ·) (by simpa using taken), by simpa using dropped⟩

theorem assemble_cases : assemble max buffer fragment = (.overflow, buffer) ∨
    (prompt ∉ buffer ++ fragment ∧
      assemble max buffer fragment = (.pending, buffer ++ fragment)) ∨
    assemble max buffer fragment = (.trailingData, []) ∨
    (prompt ∈ buffer ++ fragment ∧
      ∃ response, assemble max buffer fragment = (.complete response, [])) := by
  unfold assemble
  split
  · exact .inl rfl
  · refine .inr ?_
    by_cases free : prompt ∉ buffer ++ fragment
    · exact .inl ⟨free, by simp only [free, not_false_eq_true, if_true]⟩
    · refine .inr ?_
      simp only [free, if_false]
      split
      · exact .inl rfl
      · exact .inr ⟨not_not.mp free, _, rfl⟩

theorem assemble_of_prompt {body : List UInt8} (whole : buffer ++ fragment = body ++ [prompt])
    (free : prompt ∉ body) :
    assemble max buffer fragment = (.overflow, buffer) ∨
      assemble max buffer fragment = (.complete (decode (body ++ [prompt])), []) := by
  unfold assemble
  split
  · exact .inl rfl
  · obtain ⟨taken, dropped⟩ := takeWhile_prompt free
    refine .inr ?_
    simp only [whole, taken, dropped]
    simp [carriesData]

theorem accept_of_idle {session : Session} (idle : session.waitingForPrompt = false) :
    session.accept max fragment = (.unexpectedData, { session with isTainted := true }) ∨
      session.accept max fragment = (.ignored, session) := by
  unfold Session.accept
  rw [idle]
  cases carriesData fragment
  · exact .inr rfl
  · exact .inl rfl

end

end DashcamStats.Ble
