import DashcamStats.Library.Strings
import DashcamStats.Settings.Schema

namespace DashcamStats.Settings

open Strings (isSpace strip lower)

section Text

def isSeparator (c : Char) : Bool := c = '/' || c = '\\'

def digitsValue (digits : Text) : ℕ := digits.foldl (fun n c => 10 * n + (c.toNat - 48)) 0

def takeSign : Text → Bool × Text
  | '-' :: rest => (true, rest)
  | '+' :: rest => (false, rest)
  | text => (false, text)

-- `int(text, 10)`, which refuses more than 4300 digits
def parseInt (text : Text) : Option ℤ :=
  let (negative, digits) := takeSign (strip text)
  if digits = [] || digits.any (fun c => !c.isDigit) || 4300 < digits.length then none
  else some (if negative then -(digitsValue digits : ℤ) else digitsValue digits)

def takeDecimal (text : Text) : Option (ℚ × Text) :=
  let whole := text.takeWhile Char.isDigit
  let rest := text.dropWhile Char.isDigit
  match rest with
  | '.' :: rest =>
    let fraction := rest.takeWhile Char.isDigit
    if whole = [] && fraction = [] then none
    else some (digitsValue (whole ++ fraction) / (10 : ℚ) ^ fraction.length,
      rest.dropWhile Char.isDigit)
  | rest => if whole = [] then none else some (digitsValue whole, rest)

def takeExponent : Text → Option ℤ
  | [] => some 0
  | c :: rest =>
    if c = 'e' || c = 'E' then
      let (negative, digits) := takeSign rest
      if digits = [] || digits.any (fun c => !c.isDigit) then none
      else some (if negative then -(digitsValue digits : ℤ) else digitsValue digits)
    else none

def floatOf (q : ℚ) : Number :=
  let rounded := Binary64.round q
  if 2 ^ 1024 ≤ |rounded| then .infinite (q < 0) else .finite rounded

-- `float(text)`
def parseFloat (text : Text) : Option Number :=
  let (negative, body) := takeSign (strip text)
  let name := lower body
  if name = "inf".toList || name = "infinity".toList then some (.infinite negative)
  else if name = "nan".toList then some .nan
  else
    match takeDecimal body with
    | none => none
    | some (value, rest) =>
      (takeExponent rest).map fun exponent =>
        let value := value * (10 : ℚ) ^ exponent
        floatOf (if negative then -value else value)

-- The magnitude and the unit that the pattern `_BYTES_RE` finds
def matchBytes (text : Text) : Option (ℚ × Text) :=
  let whole := text.takeWhile Char.isDigit
  let rest := text.dropWhile Char.isDigit
  let fraction := (rest.drop 1).takeWhile Char.isDigit
  let found :=
    if rest.head? = some '.' && fraction ≠ [] then
      some (digitsValue (whole ++ fraction) / (10 : ℚ) ^ fraction.length,
        (rest.drop 1).dropWhile Char.isDigit)
    else if whole = [] then none else some ((digitsValue whole : ℚ), rest)
  match found with
  | none => none
  | some (magnitude, rest) =>
    let unit := rest.dropWhile isSpace
    if unit.all Char.isAlpha then some (magnitude, unit) else none

end Text

structure Host where
  -- `HOME` or the directory of the account, and the directories of the accounts by name
  home : Text → Option Text
  -- `str` of a float
  floatText : Number → Text
  -- The file system's part in `is_within`
  resolve : Text → Text
  footageDir : Text
  tz : Option Text
  zoneKnown : Text → Bool
  home_plain : ∀ name dir, home name = some dir → '\x00' ∉ dir
  floatText_plain : ∀ x, strip (floatText x) = floatText x ∧ '\x00' ∉ floatText x

inductive Refusal where
  | validation (key : String)
  | overflow
  deriving DecidableEq

section Coercers

variable (host : Host) (defn : SettingDef)

def invalid {α : Type} : Except Refusal α := .error (.validation defn.key)

-- `int(x)` cuts towards zero.
def trunc (q : ℚ) : ℤ := if q < 0 then ⌈q⌉ else ⌊q⌋

def clamp (value : ℚ) : ℚ :=
  match defn.minimum with
  | some minimum => if value < minimum then Binary64.round minimum else most
  | none => most
where
  most : ℚ :=
    match defn.maximum with
    | some maximum => if maximum < value then Binary64.round maximum else value
    | none => value

def isAbsolutePath (value : Text) : Bool :=
  "/".toList.isPrefixOf value || windowsAbsolute value
where
  -- A drive letter and a root, or a share
  windowsAbsolute (value : Text) : Bool :=
    match value.map fun c => if c = '/' then '\\' else c with
    | '\\' :: '\\' :: share =>
      let host := share.takeWhile (· ≠ '\\')
      let rest := (share.dropWhile (· ≠ '\\')).drop 1
      host ≠ [] && rest ≠ [] &&
        (rest.contains '\\' || (host ≠ ['?'] && host ≠ ['.']))
    | _ :: ':' :: '\\' :: _ => true
    | _ => false

def coerceBool : Raw → Except Refusal Raw
  | .bool value => .ok (.bool value)
  | .int n => if n = 0 || n = 1 then .ok (.bool (n = 1)) else invalid defn
  | .float (.finite q) => if q = 0 || q = 1 then .ok (.bool (q = 1)) else invalid defn
  | .str text =>
    let token := lower (strip text)
    if (["1", "true", "yes", "on", "y", "t"].map String.toList).contains token then
      .ok (.bool true)
    else if (["0", "false", "no", "off", "n", "f"].map String.toList).contains token then
      .ok (.bool false)
    else invalid defn
  | _ => invalid defn

def wholeNumber : Number → Except Refusal ℤ
  | .finite q => if q = trunc q then .ok (trunc q) else invalid defn
  | _ => invalid defn

def intFromStr (text : Text) : Except Refusal ℤ :=
  let token := (strip text).filter fun c => c ≠ '_' && c ≠ ','
  if token = [] then invalid defn
  else
    match parseInt token with
    | some n => .ok n
    | none =>
      match parseFloat token with
      | some x => wholeNumber defn x
      | none => invalid defn

-- `float(value)` of an integer
def floatOfInt (n : ℤ) : Except Refusal ℚ :=
  match floatOf n with
  | .finite q => .ok q
  | _ => .error .overflow

def wholeOf : Raw → Except Refusal ℤ
  | .int n => .ok n
  | .float x => wholeNumber defn x
  | .str text => intFromStr defn text
  | _ => invalid defn

def coerceInt (raw : Raw) : Except Refusal Raw := do
  let value ← wholeOf defn raw
  let value ← floatOfInt value
  return .int (trunc (clamp defn value))

def numberOf : Raw → Except Refusal Number
  | .int n => (floatOfInt n).map Number.finite
  | .float x => .ok x
  | .str text =>
    match parseFloat ((strip text).filter fun c => c ≠ '_' && c ≠ ',') with
    | some x => .ok x
    | none => invalid defn
  | _ => invalid defn

def coerceFloat (raw : Raw) : Except Refusal Raw := do
  match ← numberOf defn raw with
  | .finite q => return .float (.finite (clamp defn q))
  | _ => invalid defn

def strOf : Raw → Option Text
  | .str text => some (strip text)
  | .int n => some (toString n).toList
  | .float x => some (host.floatText x)
  | _ => none

def coerceText (raw : Raw) : Except Refusal Text :=
  match strOf host raw with
  | none => invalid defn
  | some value => if '\x00' ∈ value then invalid defn else .ok value

def coerceStr (raw : Raw) : Except Refusal Raw := (coerceText host defn raw).map Raw.str

def coerceSelect (raw : Raw) : Except Refusal Raw := do
  let value ← coerceText host defn raw
  if defn.choices = [] || defn.choices.contains value then return .str value else invalid defn

def expanduser (path : Text) : Text :=
  match path with
  | '~' :: rest =>
    match host.home (rest.takeWhile (· ≠ '/')) with
    | none => path
    | some home =>
      let expanded := home.rdropWhile (· = '/') ++ rest.dropWhile (· ≠ '/')
      if expanded = [] then ['/'] else expanded
  | _ => path

def trimSeparators (value : Text) : Text :=
  let trimmed := value.rdropWhile isSeparator
  if trimmed = [] || trimmed.getLast? = some ':' then value else trimmed

-- `_contains` of the resolved paths
def isWithin (candidate : Text) : Bool :=
  let root := host.resolve (expanduser host host.footageDir)
  let candidate := host.resolve (expanduser host candidate)
  root = candidate ||
    (if root.getLast? = some '/' then root else root ++ ['/']).isPrefixOf candidate

def requireContainment (value : Text) : Except Refusal Unit :=
  if defn.key = "general.footage_dir" && !isWithin host value then invalid defn else .ok ()

def coercePath (raw : Raw) : Except Refusal Raw := do
  let text ← coerceText host defn raw
  let value := expanduser host text
  if value = [] then invalid defn
  else if !isAbsolutePath value then invalid defn
  else
    let trimmed := trimSeparators value
    requireContainment host defn trimmed
    return .str trimmed

def byteUnit (unit : Text) : Option ℚ :=
  ([("", 1), ("b", 1), ("k", 1000), ("kb", 1000), ("kib", 1024), ("m", 1000 ^ 2),
    ("mb", 1000 ^ 2), ("mib", 1024 ^ 2), ("g", 1000 ^ 3), ("gb", 1000 ^ 3), ("gib", 1024 ^ 3),
    ("t", 1000 ^ 4), ("tb", 1000 ^ 4), ("tib", 1024 ^ 4)] : List (String × ℚ)).lookup
      (String.ofList unit)

def coerceBytes (raw : Raw) : Except Refusal Raw :=
  match raw with
  | .str text =>
    match matchBytes (strip text) with
    | none => invalid defn
    | some (magnitude, unit) =>
      match byteUnit (lower unit), floatOf magnitude with
      | some factor, .finite q =>
        match floatOf (q * factor) with
        | .finite value => .ok (.int (trunc (clamp defn value)))
        | _ => invalid defn
      | _, _ => invalid defn
  | raw => coerceInt defn raw

def coercer : SettingType → Raw → Except Refusal Raw
  | .bool => coerceBool defn
  | .int => coerceInt defn
  | .float => coerceFloat defn
  | .string => coerceStr host defn
  | .select => coerceSelect host defn
  | .path => coercePath host defn
  | .bytes => coerceBytes defn

def coerceSetting (raw : Raw) : Except Refusal Raw :=
  if raw = .null then invalid defn
  else (coercer host defn defn.type raw).map fun value =>
    (FIXED_SETTING_VALUES defn.key).getD value

end Coercers

end DashcamStats.Settings
