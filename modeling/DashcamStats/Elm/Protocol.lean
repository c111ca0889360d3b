import Mathlib.Algebra.Ring.Nat
import Mathlib.Data.List.DropRight

namespace DashcamStats.Elm

abbrev Text := List Char

/-- Bytes of the bus. -/
abbrev Frame := List UInt8

section Lines

def isSpace (c : Char) : Bool := (9 ≤ c.toNat && c.toNat ≤ 13) || (28 ≤ c.toNat && c.toNat ≤ 32)

def strip (text : Text) : Text := (text.dropWhile isSpace).rdropWhile isSpace

def upper (text : Text) : Text := text.map Char.toUpper

def normalize (command : Text) : Text := upper (command.filter fun c => !isSpace c)

def contains (text needle : Text) : Bool := text.tails.any needle.isPrefixOf

def rawLines (text : Text) : List Text :=
  (text.map fun c => if c = '>' then '\r' else c).splitOnP fun c => c = '\r' || c = '\n'

def lineContent (isEcho : Text → Bool) (raw : Text) : Option Text :=
  let line := strip raw
  if line = [] || isEcho line then none
  else
    let line :=
      if "SEARCHING...".toList.isPrefixOf (upper line) then strip (line.drop 12) else line
    if line = [] then none else some line

end Lines

section Bytes

def hexValue (c : Char) : Option ℕ :=
  if '0' ≤ c ∧ c ≤ '9' then some (c.toNat - '0'.toNat)
  else if 'a' ≤ c ∧ c ≤ 'f' then some (c.toNat - 'a'.toNat + 10)
  else if 'A' ≤ c ∧ c ≤ 'F' then some (c.toNat - 'A'.toNat + 10)
  else none

def isHex (c : Char) : Bool := (hexValue c).isSome

def hexBytes : Text → Frame
  | high :: low :: rest =>
    UInt8.ofNat (16 * (hexValue high).getD 0 + (hexValue low).getD 0) :: hexBytes rest
  | _ => []

def dropBlanks (text : Text) : Text := text.filter (· ≠ ' ')

end Bytes

section Frames

/-- The bytes of a reply that come one in a line form a run, which ends at a line of several
bytes, at a line of another kind and at the end. -/
def framesOf (parse : Text → Option Frame) (split : Frame → List Frame) :
    Frame → List Text → List Frame
  | run, [] => if run = [] then [] else split run
  | run, line :: rest =>
    match parse line with
    | some [byte] => framesOf parse split (run ++ [byte]) rest
    | some bytes => (if run = [] then [] else split run) ++ bytes :: framesOf parse split [] rest
    | none => (if run = [] then [] else split run) ++ framesOf parse split [] rest

def checksum (frame : Frame) : Bool :=
  5 ≤ frame.length && frame.getLast?.any fun last =>
    (frame.dropLast.map UInt8.toNat).sum % 256 = last.toNat

-- `copyOfRange`, of bounds in their order
def slice (data : Frame) (start stop : ℕ) : Frame := (data.take stop).drop start

def isHeader (data : Frame) (at_ : ℕ) : Bool :=
  data[at_]? = some 0x48 && data[at_ + 1]? = some 0x6B

def validEnd (data : Frame) (headers : List ℕ) (start : ℕ) : Option ℕ :=
  (headers.filter (start < ·) ++ [data.length]).find? fun stop => checksum (slice data start stop)

def cut (data : Frame) (headers : List ℕ) : ℕ → List ℕ → List Frame
  | cursor, [] => if cursor < data.length then [data.drop cursor] else []
  | cursor, start :: rest =>
    match validEnd data headers start with
    | some stop =>
      if cursor ≤ start then
        (if cursor < start then [slice data cursor start] else []) ++
          slice data start stop :: cut data headers stop rest
      else cut data headers cursor rest
    | none => cut data headers cursor rest

def splitAt (headers : List ℕ) (data : Frame) : List Frame :=
  if headers.all fun start => validEnd data headers start = none then [data]
  else cut data headers 0 headers

def findPair (frame : Frame) (first second : UInt8) : Option ℕ :=
  (List.range frame.length).find? fun at_ =>
    frame[at_]? = some first && frame[at_ + 1]? = some second

end Frames

-- The code of two bytes; `%X` and `%02X`
def troubleCode (first second : UInt8) : Text :=
  let digit (n : ℕ) : Char := Nat.digitChar n |>.toUpper
  ["PCBU".toList.getD (first.toNat / 64 % 4) 'P', digit (first.toNat / 16 % 4),
    digit (first.toNat % 16), digit (second.toNat / 16), digit (second.toNat % 16)]

def bytePairs : Frame → List (UInt8 × UInt8)
  | first :: second :: rest => (first, second) :: bytePairs rest
  | _ => []

namespace Android

def cleanedLines (response command : Text) : List Text :=
  (rawLines response).filterMap (lineContent fun line => normalize line = normalize command)

-- `line.substringAfter(':', line)`
def substringAfterColon (line : Text) : Text :=
  if ':' ∈ line then (line.dropWhile (· ≠ ':')).drop 1 else line

def lineBytes (line : Text) : Option Frame :=
  let compact := dropBlanks (substringAfterColon line)
  if compact ≠ [] && compact.all isHex && compact.length % 2 = 0 then some (hexBytes compact)
  else none

def splitIso (data : Frame) : List Frame :=
  splitAt ((List.range (data.length - 1)).filter (isHeader data)) data

def frames (response command : Text) : List Frame :=
  framesOf lineBytes splitIso [] (cleanedLines response command)

def validIso (frame : Frame) (markerIndex : ℕ) (expectedSource : Option ℤ) : Bool :=
  markerIndex = 3 && 5 ≤ frame.length && frame[0]? = some 0x48 && frame[1]? = some 0x6B &&
    checksum frame && expectedSource.all fun source => frame[2]?.any fun byte => byte.toNat = source

def payloadIn (first second : UInt8) (length : ℤ) (expectedSource : Option ℤ) :
    List Frame → Except String (Option (UInt8 × Frame))
  | [] => .ok none
  | frame :: rest =>
    match findPair frame first second with
    | none => payloadIn first second length expectedSource rest
    | some index =>
      let stop := index + 2 + length
      if !validIso frame index expectedSource || (frame.length : ℤ) ≠ stop + 1 then
        payloadIn first second length expectedSource rest
      else if stop < index + 2 then .error "IllegalArgumentException"
      else .ok (some (frame.getD 2 0, slice frame (index + 2) stop.toNat))

def payload (response command : Text) (pid length : ℤ) (expectedSource : Option ℤ) (mode : ℤ) :
    Except String (Option (UInt8 × Frame)) :=
  payloadIn (UInt8.ofInt (mode + 0x40)) (UInt8.ofInt pid) length expectedSource
    (frames response command)

def modePayload (mode expectedSource : ℤ) (frame : Frame) : Option Frame :=
  match frame.findIdx? (· = UInt8.ofInt (mode + 0x40)) with
  | none => none
  | some index =>
    if !validIso frame index (some expectedSource) then none
    else if index + 2 < frame.length then some (slice frame (index + 1) (frame.length - 1))
    else none

def modePayloads (response command : Text) (mode expectedSource : ℤ) : List Frame :=
  (frames response command).filterMap (modePayload mode expectedSource)

def dtcs (payloads : List Frame) : List Text :=
  (payloads.flatMap bytePairs).foldl (fun result (first, second) =>
    if first.toNat = 0 ∧ second.toNat = 0 then result
    else if troubleCode first second ∈ result then result
    else result ++ [troubleCode first second]) []

end Android

namespace Backend

def noDataMarkers : List Text := ["NO DATA".toList]

def transportErrorMarkers : List Text :=
  ["UNABLE TO CONNECT".toList, "BUS INIT: ERROR".toList, "CAN ERROR".toList, "STOPPED".toList,
    "BUFFER FULL".toList, "RX ERROR".toList]

def responseText (raw : Text) : Text := raw.filter (· ≠ '\x00')

def isNoise (line : Text) : Bool :=
  upper line ∈ ["OK".toList, "?".toList, "BUS INIT: OK".toList] ||
    (noDataMarkers ++ transportErrorMarkers).any (contains (upper line))

def cleanedResponseLines (raw command : Text) : List Text :=
  ((rawLines (responseText raw)).filterMap (lineContent fun line =>
    normalize command ≠ [] && normalize line = normalize command)).filter fun line => !isNoise line

-- The text after the index of `_INDEXED_HEX_LINE`, or the text of `_HEX_LINE`
def hexLine (line : Text) : Option Text :=
  if ':' ∈ line then
    let index := line.takeWhile (· ≠ ':')
    let rest := ((line.dropWhile (· ≠ ':')).drop 1).dropWhile isSpace
    if index ≠ [] && index.all isHex && rest ≠ [] && rest.all fun c => isHex c || c = ' ' then
      some rest
    else none
  else if line ≠ [] && line.all fun c => isHex c || c = ' ' then some line
  else none

def lineToBytes (line : Text) : Option Frame :=
  match hexLine line with
  | none => none
  | some text =>
    let compact := dropBlanks text
    if compact.length < 2 || compact.length % 2 ≠ 0 then none else some (hexBytes compact)

def splitIsoByteRun (data : Frame) : List Frame :=
  if data.length < 5 then [data]
  else (splitAt ((List.range (data.length - 2)).filter (isHeader data)) data).filter (· ≠ [])

def responseFrames (raw command : Text) : List Frame :=
  framesOf lineToBytes splitIsoByteRun [] (cleanedResponseLines raw command)

def validFrame (frame : Frame) (markerIndex : ℕ) (strictIso : Bool) (expectedSource : Option ℤ)
    (exactEnd : Option ℤ) : Bool :=
  let checksumOk := markerIndex ≠ 3 || checksum frame
  if strictIso then
    if markerIndex ≠ 3 || frame.length < 5 || frame.take 2 ≠ [0x48, 0x6B] || !checksumOk then false
    else if expectedSource.any fun source => frame[2]?.all fun byte => byte.toNat ≠ source then
      false
    else exactEnd.all fun stop => (frame.length : ℤ) = stop + 1
  else checksumOk

-- `bytes` of one number
def byte? (value : ℤ) : Option UInt8 :=
  if 0 ≤ value ∧ value < 256 then some (UInt8.ofNat value.toNat) else none

-- `frame[start:stop]`; a bound below zero counts from the end.
def sliceTo (frame : Frame) (start : ℕ) (stop : ℤ) : Frame :=
  slice frame start (if stop < 0 then frame.length + stop else stop).toNat

def payloadIn (first second : UInt8) (expectedLength : ℤ) (strictIso : Bool)
    (expectedSource : Option ℤ) : List Frame → Option Frame
  | [] => none
  | frame :: rest =>
    match findPair frame first second with
    | none => payloadIn first second expectedLength strictIso expectedSource rest
    | some start =>
      let stop := start + 2 + expectedLength
      if !validFrame frame start strictIso expectedSource (some stop) then
        payloadIn first second expectedLength strictIso expectedSource rest
      else some (sliceTo frame (start + 2) stop)

def extractPidPayload (raw : Text) (pid expectedLength mode : ℤ) (command : Text)
    (strictIso : Bool) (expectedSource : Option ℤ) : Except String (Option Frame) :=
  match byte? (mode + 0x40), byte? pid with
  | some first, some second =>
    .ok (payloadIn first second expectedLength strictIso expectedSource
      (responseFrames raw command))
  | _, _ => .error "bytes must be in range(0, 256)"

def modePayload (mode : ℤ) (strictIso : Bool) (expectedSource : Option ℤ) (frame : Frame) :
    Option Frame :=
  match (byte? (mode + 0x40)).bind fun byte => frame.findIdx? (· = byte) with
  | none => none
  | some index =>
    if !validFrame frame index strictIso expectedSource none then none
    else
      let payload := frame.drop (index + 1)
      let payload := if 3 ≤ index && payload ≠ [] then payload.dropLast else payload
      if payload ≠ [] then some payload else none

def extractModePayloads (raw : Text) (mode : ℤ) (command : Text) (strictIso : Bool)
    (expectedSource : Option ℤ) : List Frame :=
  (responseFrames raw command).filterMap (modePayload mode strictIso expectedSource)

def decodeDtcs (payloads : List Frame) : List Text :=
  payloads.foldl (fun codes payload => (bytePairs payload).foldl (fun codes pair =>
    if pair.1 = pair.2 ∧ pair.2 = 0 then codes
    else if troubleCode pair.1 pair.2 ∈ codes then codes
    else codes ++ [troubleCode pair.1 pair.2]) codes) []

end Backend

end DashcamStats.Elm
