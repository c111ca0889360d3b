import DashcamStats.Elm.Protocol

namespace DashcamStats.Elm

local instance : LawfulBEq Text := inferInstanceAs (LawfulBEq (List Char))

def isAscii (c : Char) : Bool := c.toNat < 128

structure Unicode where
  -- `Char.isWhitespace`, `str.isspace`
  isWhitespace : Char → Bool
  -- `String.uppercase`, `str.upper`: of one character, or several
  uppercase : Char → Text
  -- The value in base 16 (`Character.digit`, and what `int(value, 16)` takes for a digit)
  digit : Char → Option ℕ
  isWhitespace_ascii : ∀ c, isAscii c → isWhitespace c = isSpace c
  uppercase_ascii : ∀ c, isAscii c → uppercase c = [c.toUpper]
  digit_ascii : ∀ c, isAscii c → digit c = hexValue c

def Unicode.asciiOnly : Unicode where
  isWhitespace := isSpace
  uppercase c := [c.toUpper]
  digit := hexValue
  isWhitespace_ascii _ _ := rfl
  uppercase_ascii _ _ := rfl
  digit_ascii _ _ := rfl

section

variable (unicode : Unicode) (command value : Text)

def stripped : Text := command.filter fun c => !unicode.isWhitespace c

-- `normalize`, `normalize_command`
def normalized : Text := (stripped unicode command).flatMap unicode.uppercase

def digits : Option ℕ :=
  if value = [] then none
  else value.foldl (fun number c => number.bind fun n => (unicode.digit c).map (16 * n + ·))
    (some 0)

namespace Android

inductive ElmCommandCategory where
  | adapterLocal
  | vehicleBus
  deriving DecidableEq

inductive ElmCommandPolicy where
  | fullObd
  | voltageOnly
  deriving DecidableEq

-- The keys of `pidLengths`
def pids : List ℤ :=
  [0x01, 0x03, 0x04, 0x05, 0x06, 0x07, 0x0C, 0x0D, 0x0E, 0x0F, 0x10, 0x11, 0x13, 0x14, 0x15, 0x1C,
   0x20, 0x21]

def safeAt : List Text :=
  ["ATZ", "ATI", "ATD", "ATD0", "ATE0", "ATL0", "ATH1", "ATSP0", "ATM0", "ATS0", "ATAT1", "ATAL",
   "ATST64", "ATRV", "AT@1", "AT@2", "ATIGN", "ATDP", "ATDPN", "ATPC"].map String.toList

def safeDiagnostics : List Text :=
  ["03", "07", "0A", "0900", "0902", "0903", "0904", "0905", "0906", "090A"].map String.toList

def freezeFrame : List Text :=
  ["00", "01", "02", "03", "04", "05", "06", "07", "0C", "0D", "0E", "0F", "10", "11", "14",
   "15"].map fun pid => "02".toList ++ pid.toList ++ "00".toList

def responseCountDigits : List Char := "123456789ABCDEF".toList

def isISOControl (c : Char) : Bool := c.toNat ≤ 0x1F || (0x7F ≤ c.toNat && c.toNat ≤ 0x9F)

-- `toIntOrNull(16)`, of texts too short to overflow
def toIntOrNull : Text → Option ℤ
  | [] => none
  | first :: rest =>
    if first < '0' then
      if rest = [] then none
      else if first = '-' then (digits unicode rest).map fun n : ℕ => -(n : ℤ)
      else if first = '+' then (digits unicode rest).map fun n : ℕ => (n : ℤ)
      else none
    else (digits unicode (first :: rest)).map fun n : ℕ => (n : ℤ)

def commandCategory : Option ElmCommandCategory :=
  if command.any isISOControl then none
  else
    let value := normalized unicode command
    if value ∈ safeAt then some .adapterLocal
    else if value ∈ safeDiagnostics ∨ value ∈ freezeFrame then some .vehicleBus
    else if (value.length = 4 ∨ value.length = 5) ∧ "01".toList.isPrefixOf value then
      let pidHex := (value.take 4).drop 2
      let suffixOk := value.length = 4 ∨ value.getD 4 ' ' ∈ responseCountDigits
      if suffixOk ∧ (toIntOrNull unicode pidHex).any fun pid => decide (pid ∈ pids ∨ pid = 0) then
        some .vehicleBus
      else none
    else none

def parkedVoltageProbe : Text := "ATRV".toList

def commandAllowed (policy : ElmCommandPolicy) : Bool :=
  (commandCategory unicode command).isSome &&
    (policy = .fullObd || normalized unicode command = parkedVoltageProbe)

structure ElmCommandWriteGate where
  policy : ElmCommandPolicy
  voltageOnlyCommandConsumed : Bool := false

-- One call at a time: `@Synchronized`
def ElmCommandWriteGate.authorize (gate : ElmCommandWriteGate) :
    Option ElmCommandCategory × ElmCommandWriteGate :=
  if commandAllowed unicode command gate.policy then
    if gate.policy = .voltageOnly then
      if gate.voltageOnlyCommandConsumed then (none, gate)
      else (commandCategory unicode command, { gate with voltageOnlyCommandConsumed := true })
    else (commandCategory unicode command, gate)
  else (none, gate)

def ElmCommandWriteGate.authorized (gate : ElmCommandWriteGate) : List Text → List Text
  | [] => []
  | command :: rest =>
    let call := gate.authorize unicode command
    (if call.1.isSome then [command] else []) ++ call.2.authorized rest

end Android

namespace Backend

def _SAFE_AT : List Text :=
  ["ATZ", "ATI", "ATD", "ATD0", "ATE0", "ATL0", "ATH1", "ATSP0", "ATM0", "ATS0", "ATAT1", "ATAL",
   "ATST64", "ATRV", "AT@1", "AT@2", "ATIGN", "ATDP", "ATDPN", "ATPC"].map String.toList

def _SAFE_DIAGNOSTICS : List Text :=
  ["03", "07", "0A", "0900", "0902", "0904", "0906", "090A"].map String.toList

def _FREEZE_FRAME : List Text :=
  ["00", "01", "02", "03", "04", "05", "06", "07", "0C", "0D", "0E", "0F", "10", "11", "14",
   "15"].map fun pid => "02".toList ++ pid.toList ++ "00".toList

def PID_LENGTHS : List ℤ :=
  [0x01, 0x03, 0x04, 0x05, 0x06, 0x07, 0x0C, 0x0D, 0x0E, 0x0F, 0x10, 0x11, 0x13, 0x14, 0x15, 0x1C,
   0x20, 0x21]

-- `int(value, 16)`, of two characters: no room for a radix or an underscore
def int16 : Text → Option ℤ
  | '+' :: rest => (digits unicode rest).map fun n : ℕ => (n : ℤ)
  | '-' :: rest => (digits unicode rest).map fun n : ℕ => -(n : ℤ)
  | text => (digits unicode text).map fun n : ℕ => (n : ℤ)

def commandIsSafe : Bool :=
  let command := normalized unicode command
  if command ∈ _SAFE_AT ∨ command ∈ _SAFE_DIAGNOSTICS ∨ command ∈ _FREEZE_FRAME then true
  else if command.length = 4 ∧ "01".toList.isPrefixOf command then
    match int16 unicode (command.drop 2) with
    | some pid => decide (pid ∈ PID_LENGTHS) || command = "0100".toList
    | none => false
  else false

end Backend

end

end DashcamStats.Elm
