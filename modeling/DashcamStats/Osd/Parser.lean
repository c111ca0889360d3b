import DashcamStats.Library.Regex
import DashcamStats.Library.Strings
import DashcamStats.Osd.TrackQuality

namespace DashcamStats.Osd

open Regex (Pattern Cursor seq)

abbrev Text := List Char

def DEFAULT_MAX_SPEED_KMH : ℚ := 300

def MIN_YEAR : ℕ := 2000

def MAX_YEAR : ℕ := 2100

def COORD_DECIMALS : ℕ := 4

def DOTLIKE : Text := ['.', ',', '_', Char.ofNat 39, Char.ofNat 96, '~']

inductive Group where
  | year
  | month
  | day
  | hour
  | minute
  | second
  | lonsep
  | lon
  | latsep
  | lat
  | speed
  | lonprefix
  | lonwhole
  | lonpoint
  | lonfrac
  | latprefix
  | latwhole
  | latpoint
  | latfrac
  deriving DecidableEq

def isDigit (c : Char) : Bool := c.isDigit

def notDigit (c : Char) : Bool := !c.isDigit

-- `[^\d+-]`
def unsigned (c : Char) : Bool := !c.isDigit && c != '+' && c != '-'

-- With `re.IGNORECASE`
def letter (l : Char) (c : Char) : Bool := c.toLower == l

def times (p : Char → Bool) (n : ℕ) : Pattern Group := .greedy p n (some n)

def upTo (p : Char → Bool) (lo hi : ℕ) : Pattern Group := .greedy p lo (some hi)

def SEP : Pattern Group := upTo notDigit 1 2

def TIMESTAMP_RE : Pattern Group :=
  seq [.notAfter isDigit, .group .year (times isDigit 4), SEP, .group .month (times isDigit 2),
    SEP, .group .day (times isDigit 2), upTo notDigit 0 4, .group .hour (times isDigit 2), SEP,
    .group .minute (times isDigit 2), SEP, .group .second (times isDigit 2),
    .notBefore isDigit]

def DATE_SHAPE_RE : Pattern Group :=
  seq [times isDigit 4, SEP, times isDigit 2, SEP, times isDigit 2]

def isSign (c : Char) : Bool := c == '-' || c == '+'

-- `[-+]?\d{1,3}\.\d{decimals}`
def coordinatePattern (decimals : ℕ) : Pattern Group :=
  seq [upTo isSign 0 1, upTo isDigit 1 3, times (· == '.') 1, times isDigit decimals]

-- `(?:km/?h)?`
def unitPattern : Pattern Group :=
  .optional (seq [times (letter 'k') 1, times (letter 'm') 1, upTo (· == '/') 0 1,
    times (letter 'h') 1])

def strictPattern (decimals : ℕ) : Pattern Group :=
  seq [.notAfter isDigit, .group .lonsep (upTo unsigned 0 8),
    .group .lon (coordinatePattern decimals),
    .group .latsep (upTo unsigned 0 8), .group .lat (coordinatePattern decimals),
    .optional (seq [upTo notDigit 0 6, .group .speed (upTo isDigit 1 3)]), unitPattern]

def loosePattern (decimals : ℕ) : Pattern Group :=
  seq [.notAfter isDigit, .group .lonsep (upTo unsigned 0 8),
    .group .lon (coordinatePattern decimals),
    .notBefore isDigit, .group .latsep (upTo unsigned 0 8),
    .group .lat (coordinatePattern decimals),
    .notBefore isDigit, .optional (seq [upTo notDigit 0 8, .group .speed (upTo isDigit 1 3)]),
    unitPattern]

def labelledDamagedPattern (decimals : ℕ) : Pattern Group :=
  seq [times (letter 'e') 1, .group Group.lonprefix (upTo notDigit 1 5),
    .group .lonwhole (upTo isDigit 1 3), .group .lonpoint (upTo notDigit 1 2),
    .group .lonfrac (times isDigit decimals), .notBefore isDigit, .lazy (fun _ => true) 0 (some 6),
    times (letter 'n') 1, .group Group.latprefix (upTo notDigit 1 6),
    .group .latwhole (upTo isDigit 1 3),
    .group .latpoint (upTo notDigit 1 2), .group .latfrac (times isDigit decimals)]

def spaces : Pattern Group := .greedy Strings.isSpace 0 none

def SPEED_RE : Pattern Group :=
  seq [.group .speed (upTo isDigit 1 3), spaces, times (letter 'k') 1, spaces,
    times (letter 'm') 1, spaces, upTo (· == '/') 0 1, spaces, times (letter 'h') 1]

def readNat (digits : Text) : ℕ := digits.foldl (fun n c => 10 * n + (c.toNat - '0'.toNat)) 0

def readUnsigned (text : Text) : Option ℚ :=
  let whole := text.takeWhile isDigit
  match text.dropWhile isDigit with
  | [] => if whole.isEmpty then none else some (readNat whole)
  | point :: fraction =>
    if point == '.' && fraction.all isDigit && !(whole.isEmpty && fraction.isEmpty) then
      some (readNat whole + readNat fraction / 10 ^ fraction.length)
    else none

-- `float`, of the texts that the groups can hold
def readFloat (text : Text) : Option ℚ :=
  match text with
  | [] => none
  | c :: rest =>
    if c = '-' then (readUnsigned rest).map fun value => -value
    else if c = '+' then readUnsigned rest
    else readUnsigned text

structure Clock where
  year : ℕ
  month : ℕ
  day : ℕ
  hour : ℕ
  minute : ℕ
  second : ℕ
  deriving DecidableEq

def isLeap (year : ℕ) : Bool := year % 4 = 0 && (year % 100 ≠ 0 || year % 400 = 0)

def daysInMonth (year month : ℕ) : ℕ :=
  if month = 2 then (if isLeap year then 29 else 28)
  else if month = 4 ∨ month = 6 ∨ month = 9 ∨ month = 11 then 30
  else 31

-- What `datetime` accepts of these
def Clock.valid (clock : Clock) : Bool :=
  1 ≤ clock.year && clock.year ≤ 9999 && 1 ≤ clock.month && clock.month ≤ 12 && 1 ≤ clock.day &&
    clock.day ≤ daysInMonth clock.year clock.month && clock.hour < 24 && clock.minute < 60 &&
    clock.second < 60

inductive Status where
  | valid
  | noFix
  | parseFailed
  | rejected
  deriving DecidableEq

-- The entries of `problems`, with what they print
inductive Problem where
  | implausibleYear (year : ℕ)
  | invalidDateTime
  | timestampUnreadable
  | gpsFieldsUnreadable
  | punctuationRecovered
  | coordinatesNotParsed
  | precisionInconsistent (lon lat : Text)
  | signAmbiguous
  | coordinate (problem : CoordinateProblem)
  | speedNotParsed
  | implausibleSpeed (speed : ℚ)
  | noOverlayContent
  deriving DecidableEq

structure OsdReading where
  capturedAt : Option Clock
  lat : Option ℚ
  lon : Option ℚ
  hasFix : Bool
  speedKmh : Option ℚ
  rawText : Text
  confidence : ℚ
  problems : List Problem
  timeStatus : Status
  gpsStatus : Status
  gpsReason : Option GpsReason
  deriving DecidableEq

def OsdReading.hasPosition (reading : OsdReading) : Bool :=
  reading.hasFix && reading.lat.isSome && reading.lon.isSome

def OsdReading.valid (reading : OsdReading) : Bool :=
  reading.capturedAt.isSome || reading.hasPosition || reading.speedKmh.isSome

def OsdReading.blank (rawText : Text) (confidence : ℚ) : OsdReading :=
  { capturedAt := none
    lat := none
    lon := none
    hasFix := false
    speedKmh := none
    rawText
    confidence
    problems := []
    timeStatus := .parseFailed
    gpsStatus := .parseFailed
    gpsReason := none }

def OsdReading.report (reading : OsdReading) (problem : Problem) : OsdReading :=
  { reading with problems := reading.problems ++ [problem] }

def signIsAmbiguous (separator value : Option Text) : Bool :=
  match value with
  | none => false
  | some [] => false
  | some (c :: _) =>
    if isSign c then !(separator.getD []).contains ':'
    else
      match separator with
      | none => false
      | some separator =>
        decide (1 < separator.count ':') || separator.getLast?.any fun last => DOTLIKE.contains last

def fractionWidth (value : Option Text) : Option ℕ :=
  match value with
  | none => none
  | some value =>
    if value.contains '.' then some (value.reverse.takeWhile (· != '.')).length else none

def precisionIsExpected (lon lat : Option Text) (decimals : ℕ) : Bool :=
  decide (fractionWidth lon = some decimals) && decide (fractionWidth lat = some decimals)

def dateShapeEnd (compact : Text) : ℕ :=
  let start := (compact.takeWhile notDigit).length
  if start = compact.length then 0
  else
    match DATE_SHAPE_RE.match_
        { before := (compact.take start).reverse, rest := compact.drop start, groups := [] } with
    | some date => date.before.length
    | none => 0

def Cursor.text (cursor : Cursor Group) (name : Group) : Text := (cursor.group? name).getD []

def parseTimestamp (reading : OsdReading) (stamp : Cursor Group) : OsdReading :=
  let year := readNat (Cursor.text stamp .year)
  if year < MIN_YEAR ∨ MAX_YEAR < year then
    { reading.report (.implausibleYear year) with timeStatus := .rejected }
  else
    let clock : Clock :=
      { year
        month := readNat (Cursor.text stamp .month)
        day := readNat (Cursor.text stamp .day)
        hour := readNat (Cursor.text stamp .hour)
        minute := readNat (Cursor.text stamp .minute)
        second := readNat (Cursor.text stamp .second) }
    if clock.valid then { reading with capturedAt := some clock, timeStatus := .valid }
    else { reading.report .invalidDateTime with timeStatus := .rejected }

structure FixGroups where
  lon : Text
  lat : Text
  lonsep : Option Text
  latsep : Option Text
  speed : Option Text

def fixGroups (cursor : Cursor Group) : FixGroups :=
  { lon := Cursor.text cursor .lon
    lat := Cursor.text cursor .lat
    lonsep := cursor.group? .lonsep
    latsep := cursor.group? .latsep
    speed := cursor.group? .speed }

def recoveredNumber (before whole fraction : Text) : Text :=
  (if before.contains '-' then ['-'] else if before.contains '+' then ['+'] else []) ++ whole ++
    '.' :: fraction

def recoverLabelledCoordinates (compact : Text) (start decimals : ℕ) : Option FixGroups :=
  ((labelledDamagedPattern decimals).search compact start).map fun found =>
    { lon := recoveredNumber (Cursor.text found Group.lonprefix) (Cursor.text found .lonwhole)
        (Cursor.text found .lonfrac)
      lat := recoveredNumber (Cursor.text found Group.latprefix) (Cursor.text found .latwhole)
        (Cursor.text found .latfrac)
      lonsep := some (Cursor.text found Group.lonprefix)
      latsep := some (Cursor.text found Group.latprefix)
      speed := none }

def reject (reading : OsdReading) (reason : GpsReason) (problem : Problem) : OsdReading :=
  { reading.report problem with gpsStatus := .rejected, gpsReason := some reason }

def judgePosition (reading : OsdReading) (groups : FixGroups) (decimals : ℕ) (lon lat : ℚ) :
    OsdReading :=
  if !precisionIsExpected (some groups.lon) (some groups.lat) decimals then
    reject reading .COORDINATE_PARSE_FAILURE (.precisionInconsistent groups.lon groups.lat)
  else if signIsAmbiguous groups.latsep (some groups.lat) ||
      signIsAmbiguous groups.lonsep (some groups.lon) then
    reject reading .COORDINATE_PARSE_FAILURE .signAmbiguous
  else
    match coordinateProblem (some (.finite lat)) (some (.finite lon)) with
    | some problem =>
      if isNoFixPlaceholder (.finite lat) (.finite lon) then
        { reading with gpsStatus := .noFix, gpsReason := some .NO_FIX, hasFix := false }
      else { reject reading .INVALID_LAT_LON (.coordinate problem) with hasFix := false }
    | none =>
      { reading with lat := some lat, lon := some lon, hasFix := true, gpsStatus := .valid }

def readPosition (reading : OsdReading) (groups : FixGroups) (decimals : ℕ) : OsdReading :=
  match readFloat groups.lon, readFloat groups.lat with
  | some lon, some lat => judgePosition reading groups decimals lon lat
  | _, _ => reading.report .coordinatesNotParsed

def readSpeed (reading : OsdReading) (rawSpeed : Option Text) (maxSpeedKmh : ℚ) : OsdReading :=
  match rawSpeed with
  | none => reading.report .speedNotParsed
  | some digits =>
    let speed : ℚ := readNat digits
    if speed ≤ maxSpeedKmh then { reading with speedKmh := some speed }
    else reading.report (.implausibleSpeed speed)

-- `re.sub(r"\s+", "", text)`
def compacted (text : Text) : Text := text.filter fun c => !Strings.isSpace c

def parseOsdText (text : Text) (confidence maxSpeedKmh : ℚ) (coordDecimals : ℕ) : OsdReading :=
  let reading := OsdReading.blank text confidence
  let compact := compacted text
  let stamp := TIMESTAMP_RE.search compact 0
  let reading :=
    match stamp with
    | some stamp => parseTimestamp reading stamp
    | none => reading.report .timestampUnreadable
  let searchFrom := (stamp.map (·.before.length)).getD (dateShapeEnd compact)
  let matched := ((strictPattern coordDecimals).search compact searchFrom).or
    ((loosePattern coordDecimals).search compact searchFrom)
  let recovered := if matched.isSome then none
    else recoverLabelledCoordinates compact searchFrom coordDecimals
  let groups := (matched.map fixGroups).or recovered
  let reading :=
    if matched.isNone && recovered.isNone then
      { reading.report .gpsFieldsUnreadable with gpsReason := some .COORDINATE_PARSE_FAILURE }
    else if recovered.isSome then reading.report .punctuationRecovered
    else reading
  let reading :=
    match groups with
    | some groups => readPosition reading groups coordDecimals
    | none => reading
  let rawSpeed := (groups.bind (·.speed)).or
    ((SPEED_RE.search text 0).bind (·.group? .speed))
  let reading := readSpeed reading rawSpeed maxSpeedKmh
  if reading.valid then reading else reading.report .noOverlayContent

end DashcamStats.Osd
