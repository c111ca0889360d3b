import DashcamStats.Osd.Parser

namespace DashcamStats.Osd

open Regex (Pattern Cursor First seq)

def digitChar (d : ℕ) : Char := Char.ofNat (48 + d)

def twoDigits (n : ℕ) : Text := [digitChar (n / 10 % 10), digitChar (n % 10)]

def fourDigits (n : ℕ) : Text :=
  [digitChar (n / 1000 % 10), digitChar (n / 100 % 10), digitChar (n / 10 % 10), digitChar (n % 10)]

/-- A coordinate as `[-]d{1,3}.dddd` -/
structure Printed where
  neg : Bool
  whole : Text
  fraction : Text
  wholeDigits : ∀ c ∈ whole, isDigit c = true
  fractionDigits : ∀ c ∈ fraction, isDigit c = true
  wholeLength : 1 ≤ whole.length ∧ whole.length ≤ 3
  fractionLength : fraction.length = 4

def Printed.sign (coordinate : Printed) : Text := if coordinate.neg then ['-'] else []

def Printed.digits (coordinate : Printed) : Text :=
  coordinate.whole ++ (['.'] ++ coordinate.fraction)

def Printed.text (coordinate : Printed) : Text := coordinate.sign ++ coordinate.digits

def Printed.magnitude (coordinate : Printed) : ℚ :=
  readNat coordinate.whole + readNat coordinate.fraction / 10 ^ 4

def Printed.value (coordinate : Printed) : ℚ :=
  if coordinate.neg then -coordinate.magnitude else coordinate.magnitude

def dateText (clock : Clock) : Text :=
  fourDigits clock.year ++ (['-'] ++ (twoDigits clock.month ++ (['-'] ++ twoDigits clock.day)))

def timeText (clock : Clock) : Text :=
  twoDigits clock.hour ++ ([':'] ++ (twoDigits clock.minute ++ ([':'] ++ twoDigits clock.second)))

def speedText (speed : ℕ) : Text := Nat.toDigits 10 speed

-- The labels are printed as `E:` and `N:`.
def lineWith (clock : Clock) (lonLabel lonText latLabel latText : Text) (speed : ℕ) : Text :=
  dateText clock ++ ([' '] ++ (timeText clock ++ ([' ', 'E'] ++ (lonLabel ++ (lonText ++
    ([' ', 'N'] ++ (latLabel ++ (latText ++ ([' '] ++ (speedText speed ++
      [' ', 'k', 'm', '/', 'h']))))))))))

def overlayLine (clock : Clock) (lon lat : Printed) (speed : ℕ) : Text :=
  lineWith clock [':'] lon.text [':'] lat.text speed

theorem digitChar_isDigit (n : ℕ) : isDigit (digitChar (n % 10)) = true := by
  have all : ∀ d < 10, isDigit (digitChar d) = true := by decide
  exact all _ (Nat.mod_lt _ (by omega))

theorem digitChar_toNat (n : ℕ) : (digitChar (n % 10)).toNat - '0'.toNat = n % 10 := by
  have all : ∀ d < 10, (digitChar d).toNat - '0'.toNat = d := by decide
  exact all _ (Nat.mod_lt _ (by omega))

theorem readNat_twoDigits {n : ℕ} (h : n < 100) : readNat (twoDigits n) = n := by
  simp only [readNat, twoDigits, List.foldl_cons, List.foldl_nil, digitChar_toNat]
  omega

theorem readNat_fourDigits {n : ℕ} (h : n < 10000) : readNat (fourDigits n) = n := by
  simp only [readNat, fourDigits, List.foldl_cons, List.foldl_nil, digitChar_toNat]
  omega

theorem twoDigits_digits (n : ℕ) : ∀ c ∈ twoDigits n, isDigit c = true := by
  simp [twoDigits, digitChar_isDigit]

theorem fourDigits_digits (n : ℕ) : ∀ c ∈ fourDigits n, isDigit c = true := by
  simp [fourDigits, digitChar_isDigit]

theorem speedText_spec {speed : ℕ} (h : speed ≤ 300) : readNat (speedText speed) = speed ∧
    (∀ c ∈ speedText speed, isDigit c = true) ∧ 1 ≤ (speedText speed).length ∧
      (speedText speed).length ≤ 3 := by
  have all : ∀ n < 301, readNat (speedText n) = n ∧ (speedText n).all isDigit = true ∧
      1 ≤ (speedText n).length ∧ (speedText n).length ≤ 3 := by decide +kernel
  obtain ⟨same, digits, length⟩ := all speed (by omega)
  exact ⟨same, List.all_eq_true.mp digits, length⟩

-- The pattern reads `part`, whatever stands before it, where `rest` follows.
def Reads (pattern : Pattern Group) (part rest : Text) : Prop :=
  ∀ before groups, First pattern { before, rest := part ++ rest, groups }
    { before := part.reverse ++ before, rest, groups }

theorem reads_upTo {p : Char → Bool} {lo hi : ℕ} {part rest : Text}
    (all : ∀ c ∈ part, p c = true) (low : lo ≤ part.length) (high : part.length ≤ hi)
    (stop : rest.head?.any p = false) : Reads (upTo p lo hi) part rest := fun before groups =>
  First.greedy rfl all low (fun n same => by
    obtain rfl := Option.some.inj same
    exact high) (Or.inr stop)

theorem reads_times {p : Char → Bool} {n : ℕ} {part : Text} (rest : Text)
    (all : ∀ c ∈ part, p c = true) (length : part.length = n) : Reads (times p n) part rest :=
  fun before groups => First.greedy rfl all length.ge (fun m same => by
    obtain rfl := Option.some.inj same
    exact length.le) (Or.inl (by rw [length]))

theorem Reads.seq {pattern : Pattern Group} {patterns : List (Pattern Group)}
    {part parts rest : Text} (one : Reads pattern part (parts ++ rest))
    (others : Reads (seq patterns) parts rest) :
    Reads (seq (pattern :: patterns)) (part ++ parts) rest := fun before groups => by
  have first := one before groups
  have second := others (part.reverse ++ before) groups
  rw [← List.append_assoc] at first
  have whole := First.seq first second
  rwa [← List.append_assoc, ← List.reverse_append] at whole

theorem reads_nothing (rest : Text) : Reads (seq []) [] rest := fun _ _ => First.done _

theorem Reads.optional {pattern : Pattern Group} {part rest : Text} (h : Reads pattern part rest) :
    Reads (.optional pattern) part rest := fun before groups => (h before groups).optional

theorem Reads.then_ {pattern : Pattern Group} {patterns : List (Pattern Group)} {part rest : Text}
    {before : Text} {groups : List (Group × Text)} {end_ : Cursor Group}
    (one : Reads pattern part rest)
    (others : First (Regex.seq patterns) { before := part.reverse ++ before, rest, groups } end_) :
    First (Regex.seq (pattern :: patterns)) { before, rest := part ++ rest, groups } end_ :=
  First.seq (one before groups) others

theorem Reads.group {pattern : Pattern Group} {patterns : List (Pattern Group)} {part rest : Text}
    {before : Text} {groups : List (Group × Text)} {name : Group} {end_ : Cursor Group}
    (one : Reads pattern part rest)
    (others : First (Regex.seq patterns)
      { before := part.reverse ++ before, rest, groups := groups ++ [(name, part)] } end_) :
    First (Regex.seq (.group name pattern :: patterns)) { before, rest := part ++ rest, groups }
      end_ := by
  have named := (one before groups).group name
  have since : Cursor.since
      { before := part.reverse ++ before, rest, groups : Cursor Group }
      { before, rest := part ++ rest, groups } = part := by simp [Cursor.since]
  rw [since] at named
  exact First.seq named others

def stampText (clock : Clock) : Text := dateText clock ++ timeText clock

def stampGroups (clock : Clock) : List (Group × Text) :=
  [(.year, fourDigits clock.year), (.month, twoDigits clock.month), (.day, twoDigits clock.day),
    (.hour, twoDigits clock.hour), (.minute, twoDigits clock.minute),
    (.second, twoDigits clock.second)]

theorem notDigit_eq (c : Char) : notDigit c = !isDigit c := rfl

theorem twoDigits_stop (n : ℕ) (rest : Text) :
    (twoDigits n ++ rest).head?.any notDigit = false := by
  simp [twoDigits, notDigit_eq, digitChar_isDigit]

theorem reads_separator {c : Char} (plain : notDigit c = true) {rest : Text}
    (stop : rest.head?.any notDigit = false) : Reads SEP [c] rest :=
  reads_upTo (by simpa using plain) (by simp) (by simp) stop

theorem reads_twoDigits (n : ℕ) (rest : Text) : Reads (times isDigit 2) (twoDigits n) rest :=
  reads_times rest (twoDigits_digits n) rfl

theorem stamp_read (clock : Clock) {rest : Text} (stop : rest.head?.any isDigit = false) :
    First TIMESTAMP_RE { before := [], rest := stampText clock ++ rest, groups := [] }
      { before := (stampText clock).reverse, rest, groups := stampGroups clock } := by
  have text : stampText clock ++ rest = fourDigits clock.year ++ (['-'] ++
      (twoDigits clock.month ++ (['-'] ++ (twoDigits clock.day ++ ([] ++
        (twoDigits clock.hour ++ ([':'] ++ (twoDigits clock.minute ++ ([':'] ++
          (twoDigits clock.second ++ rest)))))))))) := by
    simp [stampText, dateText, timeText]
  rw [text, TIMESTAMP_RE]
  refine First.seq (First.notAfter rfl) ?_
  refine Reads.group (reads_times _ (fourDigits_digits _) rfl) ?_
  refine Reads.then_ (reads_separator rfl (twoDigits_stop _ _)) ?_
  refine Reads.group (reads_twoDigits _ _) ?_
  refine Reads.then_ (reads_separator rfl (twoDigits_stop _ _)) ?_
  refine Reads.group (reads_twoDigits _ _) ?_
  -- The day and the hour touch.
  refine Reads.then_ (reads_upTo (by simp) (by simp) (by simp) (twoDigits_stop _ _)) ?_
  refine Reads.group (reads_twoDigits _ _) ?_
  refine Reads.then_ (reads_separator rfl (twoDigits_stop _ _)) ?_
  refine Reads.group (reads_twoDigits _ _) ?_
  refine Reads.then_ (reads_separator rfl (twoDigits_stop _ _)) ?_
  refine Reads.group (reads_twoDigits _ _) ?_
  refine First.seq (First.notBefore stop) ?_
  exact First.done _

theorem stamp_found (clock : Clock) {rest : Text} (stop : rest.head?.any isDigit = false) :
    TIMESTAMP_RE.search (stampText clock ++ rest) 0 =
      some { before := (stampText clock).reverse, rest, groups := stampGroups clock } :=
  @Regex.search_of_first Group TIMESTAMP_RE (stampText clock ++ rest) [] (stampText clock ++ rest) _
    rfl (stamp_read clock stop)

theorem parseTimestamp_stamp {clock : Clock} (valid : clock.valid = true)
    (early : MIN_YEAR ≤ clock.year) (late : clock.year ≤ MAX_YEAR) (reading : OsdReading)
    (rest : Text) :
    parseTimestamp reading
        { before := (stampText clock).reverse, rest, groups := stampGroups clock } =
      { reading with capturedAt := some clock, timeStatus := .valid } := by
  have bounds := valid
  simp only [Clock.valid, Bool.and_eq_true, decide_eq_true_eq] at bounds
  obtain ⟨⟨⟨⟨⟨⟨⟨⟨-, -⟩, -⟩, month⟩, -⟩, day⟩, hour⟩, minute⟩, second⟩ := bounds
  have short : daysInMonth clock.year clock.month ≤ 31 := by
    unfold daysInMonth
    split_ifs <;> omega
  unfold MIN_YEAR at early
  unfold MAX_YEAR at late
  set stamp : Cursor Group :=
    { before := (stampText clock).reverse, rest, groups := stampGroups clock } with stamp_def
  have year : readNat (Cursor.text stamp .year) = clock.year := readNat_fourDigits (by omega)
  have month : readNat (Cursor.text stamp .month) = clock.month := readNat_twoDigits (by omega)
  have day : readNat (Cursor.text stamp .day) = clock.day := readNat_twoDigits (by omega)
  have hour : readNat (Cursor.text stamp .hour) = clock.hour := readNat_twoDigits (by omega)
  have minute : readNat (Cursor.text stamp .minute) = clock.minute := readNat_twoDigits (by omega)
  have second : readNat (Cursor.text stamp .second) = clock.second := readNat_twoDigits (by omega)
  unfold parseTimestamp
  dsimp only
  rw [year, month, day, hour, minute, second, if_neg (by unfold MIN_YEAR MAX_YEAR; omega),
    if_pos valid]

theorem Printed.wholeStop (coordinate : Printed) {p : Char → Bool}
    (digits : ∀ c, isDigit c = true → p c = false) (rest : Text) :
    (coordinate.whole ++ rest).head?.any p = false := by
  have nonempty := coordinate.wholeLength.1
  have all := coordinate.wholeDigits
  cases whole : coordinate.whole with
  | nil => simp [whole] at nonempty
  | cons c more => simpa using digits c (all c (by simp [whole]))

theorem isSign_of_digit (c : Char) (h : isDigit c = true) : isSign c = false := by
  have minus : c ≠ '-' := by
    rintro rfl
    exact absurd h (by decide)
  have plus : c ≠ '+' := by
    rintro rfl
    exact absurd h (by decide)
  simp [isSign, minus, plus]

theorem unsigned_of_digit (c : Char) (h : isDigit c = true) : unsigned c = false := by
  have digit : c.isDigit = true := h
  simp [unsigned, digit]

theorem reads_coordinate (coordinate : Printed) (rest : Text) :
    Reads (coordinatePattern 4) coordinate.text rest := by
  have sign : Reads (upTo isSign 0 1) coordinate.sign (coordinate.digits ++ rest) := by
    unfold Printed.sign
    split_ifs
    · exact reads_upTo (by simp [isSign]) (by simp) (by simp) (by
        rw [Printed.digits, List.append_assoc]
        exact coordinate.wholeStop isSign_of_digit _)
    · exact reads_upTo (by simp) (by simp) (by simp) (by
        rw [Printed.digits, List.append_assoc]
        exact coordinate.wholeStop isSign_of_digit _)
  have whole : Reads (upTo isDigit 1 3) coordinate.whole
      ((['.'] ++ coordinate.fraction) ++ rest) :=
    reads_upTo coordinate.wholeDigits coordinate.wholeLength.1 coordinate.wholeLength.2 rfl
  have point : Reads (times (· == '.') 1) ['.'] (coordinate.fraction ++ rest) :=
    reads_times _ (by simp) rfl
  have fraction : Reads (times isDigit 4) coordinate.fraction ([] ++ rest) :=
    reads_times _ coordinate.fractionDigits coordinate.fractionLength
  have tail := fraction.seq (reads_nothing rest)
  rw [List.append_nil] at tail
  exact sign.seq (whole.seq (point.seq tail))

theorem Printed.textStop (coordinate : Printed) (rest : Text) :
    (coordinate.text ++ rest).head?.any unsigned = false := by
  rw [Printed.text, List.append_assoc]
  unfold Printed.sign
  split_ifs
  · rfl
  · rw [List.nil_append, Printed.digits, List.append_assoc]
    exact coordinate.wholeStop unsigned_of_digit _

def unitText : Text := ['k', 'm', '/', 'h']

theorem reads_unit : Reads unitPattern unitText [] := by
  have k : Reads (times (letter 'k') 1) ['k'] (['m', '/', 'h'] ++ []) :=
    reads_times _ (List.all_eq_true.mp rfl) rfl
  have m : Reads (times (letter 'm') 1) ['m'] (['/', 'h'] ++ []) :=
    reads_times _ (List.all_eq_true.mp rfl) rfl
  have slash : Reads (upTo (· == '/') 0 1) ['/'] (['h'] ++ []) :=
    reads_upTo (List.all_eq_true.mp rfl) (by decide) (by decide) rfl
  have h : Reads (times (letter 'h') 1) ['h'] ([] ++ []) :=
    reads_times _ (List.all_eq_true.mp rfl) rfl
  exact (k.seq (m.seq (slash.seq (h.seq (reads_nothing []))))).optional

-- What the strict pattern finds in the rest of a line
structure Separated (lonsep latsep : Text) : Prop where
  lon : ∀ c ∈ lonsep, unsigned c = true
  lat : ∀ c ∈ latsep, unsigned c = true
  lonLength : lonsep.length ≤ 8
  latLength : latsep.length ≤ 8

def fixText (lonsep : Text) (lon : Printed) (latsep : Text) (lat : Printed) (speed : ℕ) : Text :=
  lonsep ++ (lon.text ++ (latsep ++ (lat.text ++ (speedText speed ++ unitText))))

def fixRead (lonsep : Text) (lon : Printed) (latsep : Text) (lat : Printed) (speed : ℕ) :
    List (Group × Text) :=
  [(.lonsep, lonsep), (.lon, lon.text), (.latsep, latsep), (.lat, lat.text),
    (.speed, speedText speed)]

theorem speed_read {speed : ℕ} (slow : speed ≤ 300) (before : Text)
    (groups : List (Group × Text)) :
    First (Regex.seq [upTo notDigit 0 6, .group .speed (upTo isDigit 1 3)])
      { before, rest := speedText speed ++ unitText, groups }
      { before := (speedText speed).reverse ++ before, rest := unitText,
        groups := groups ++ [(.speed, speedText speed)] } := by
  obtain ⟨-, digits, some, few⟩ := speedText_spec slow
  have stop : (speedText speed ++ unitText).head?.any notDigit = false := by
    cases text : speedText speed with
    | nil => simp [text] at some
    | cons c rest =>
      have digit := digits c (by simp [text])
      simp [notDigit_eq, digit]
  have gap : Reads (upTo notDigit 0 6) [] (speedText speed ++ unitText) :=
    reads_upTo (by simp) (by simp) (by simp) stop
  exact gap.then_ ((reads_upTo digits some few (by decide)).group (First.done _))

theorem strict_read {lonsep latsep : Text} (separated : Separated lonsep latsep)
    (lon lat : Printed) {speed : ℕ} (slow : speed ≤ 300) {before : Text}
    (outside : before.head?.any isDigit = false) :
    First (strictPattern 4) { before, rest := fixText lonsep lon latsep lat speed, groups := [] }
      { before := unitText.reverse ++ ((speedText speed).reverse ++ (lat.text.reverse ++
          (latsep.reverse ++ (lon.text.reverse ++ (lonsep.reverse ++ before))))),
        rest := [], groups := fixRead lonsep lon latsep lat speed } := by
  unfold strictPattern fixText
  refine First.seq (First.notAfter outside) ?_
  refine Reads.group (reads_upTo separated.lon (by simp) separated.lonLength (lon.textStop _)) ?_
  refine Reads.group (reads_coordinate lon _) ?_
  refine Reads.group (reads_upTo separated.lat (by simp) separated.latLength (lat.textStop _)) ?_
  refine Reads.group (reads_coordinate lat _) ?_
  refine First.seq (First.optional (speed_read slow _ _)) ?_
  exact First.seq (reads_unit _ _) (First.done _)

-- The search starts at the `E`, which touches the clock, and so the match starts after it.
theorem strict_found {lonsep latsep : Text} (separated : Separated lonsep latsep)
    (clock : Clock) (lon lat : Printed) {speed : ℕ} (slow : speed ≤ 300) :
    ∃ found, (strictPattern 4).search
        (stampText clock ++ 'E' :: fixText lonsep lon latsep lat speed) (stampText clock).length =
          some found ∧
      found.groups = fixRead lonsep lon latsep lat speed := by
  have digit : (stampText clock).reverse.head?.any isDigit = true := by
    simp [stampText, timeText, twoDigits, digitChar_isDigit]
  refine ⟨_, Regex.search_of_second rfl ?_ (strict_read separated lon lat slow (by rfl)), rfl⟩
  rw [strictPattern, Regex.seq, Pattern.run, Pattern.run, if_pos digit]
  rfl

theorem readUnsigned_digits (coordinate : Printed) :
    readUnsigned coordinate.digits = some coordinate.magnitude := by
  have whole : coordinate.digits.takeWhile isDigit = coordinate.whole := by
    rw [Printed.digits, List.takeWhile_append_of_pos coordinate.wholeDigits]
    simp [isDigit]
  have fraction : coordinate.digits.dropWhile isDigit = '.' :: coordinate.fraction := by
    rw [Printed.digits, List.dropWhile_append_of_pos coordinate.wholeDigits]
    simp [isDigit]
  have all : coordinate.fraction.all isDigit = true := by
    simpa using coordinate.fractionDigits
  have some : coordinate.whole.isEmpty = false := by
    have := coordinate.wholeLength.1
    cases text : coordinate.whole <;> simp_all
  rw [readUnsigned, fraction, whole]
  simp [all, some, Printed.magnitude, coordinate.fractionLength]

theorem digits_cons (coordinate : Printed) :
    ∃ c rest, coordinate.digits = c :: rest ∧ isDigit c = true := by
  have nonempty := coordinate.wholeLength.1
  cases whole : coordinate.whole with
  | nil => simp [whole] at nonempty
  | cons c more =>
    exact ⟨c, more ++ (['.'] ++ coordinate.fraction), by rw [Printed.digits, whole]; rfl,
      coordinate.wholeDigits c (by simp [whole])⟩

theorem not_sign_of_digit {c : Char} (h : isDigit c = true) : c ≠ '-' ∧ c ≠ '+' := by
  have plain := isSign_of_digit c h
  simpa [isSign] using plain

theorem readFloat_text (coordinate : Printed) :
    readFloat coordinate.text = some coordinate.value := by
  cases neg : coordinate.neg with
  | true =>
    have text : coordinate.text = '-' :: coordinate.digits := by
      simp [Printed.text, Printed.sign, neg]
    rw [text, readFloat, if_pos rfl, readUnsigned_digits, Printed.value, neg]
    rfl
  | false =>
    have text : coordinate.text = coordinate.digits := by simp [Printed.text, Printed.sign, neg]
    obtain ⟨c, rest, eq, digit⟩ := digits_cons coordinate
    have plain := not_sign_of_digit digit
    rw [text, eq, readFloat, if_neg plain.1, if_neg plain.2, ← eq, readUnsigned_digits,
      Printed.value, neg]
    rfl

theorem fractionWidth_text (coordinate : Printed) :
    fractionWidth (some coordinate.text) = some 4 := by
  have text : coordinate.text =
      (coordinate.sign ++ coordinate.whole) ++ '.' :: coordinate.fraction := by
    simp [Printed.text, Printed.digits]
  have point : coordinate.text.contains '.' = true := by simp [text]
  have plain : ∀ c ∈ coordinate.fraction.reverse, (c != '.') = true := by
    intro c among
    have digit := coordinate.fractionDigits c (by simpa using among)
    have apart : c ≠ '.' := by
      rintro rfl
      exact absurd digit (by decide)
    simpa using apart
  have tail : coordinate.text.reverse.takeWhile (· != '.') = coordinate.fraction.reverse := by
    rw [text, List.reverse_append, List.reverse_cons, List.append_assoc,
      List.takeWhile_append_of_pos plain]
    simp
  rw [fractionWidth]
  simp only [point, if_true, tail, List.length_reverse, coordinate.fractionLength]

theorem signIsAmbiguous_text (coordinate : Printed) (separator : Text) :
    signIsAmbiguous (some separator) (some coordinate.text) =
      if coordinate.neg then !separator.contains ':'
      else decide (1 < separator.count ':') ||
        separator.getLast?.any fun last => DOTLIKE.contains last := by
  cases neg : coordinate.neg with
  | true =>
    have text : coordinate.text = '-' :: coordinate.digits := by
      simp [Printed.text, Printed.sign, neg]
    rw [text, signIsAmbiguous]
    rfl
  | false =>
    have text : coordinate.text = coordinate.digits := by simp [Printed.text, Printed.sign, neg]
    obtain ⟨c, rest, eq, digit⟩ := digits_cons coordinate
    rw [text, eq, signIsAmbiguous, isSign_of_digit c digit]
    rfl

def readingOf (text : Text) (confidence : ℚ) (clock : Clock) (lonsep : Text) (lon : Printed)
    (latsep : Text) (lat : Printed) (speed : ℕ) : OsdReading :=
  { judgePosition
      { OsdReading.blank text confidence with capturedAt := some clock, timeStatus := .valid }
      { lon := lon.text
        lat := lat.text
        lonsep := some lonsep
        latsep := some latsep
        speed := some (speedText speed) } 4 lon.value lat.value with
    speedKmh := some speed }

theorem parse_line {text : Text} {clock : Clock} {lonsep latsep : Text} {lon lat : Printed}
    {speed : ℕ} (valid : clock.valid = true) (early : MIN_YEAR ≤ clock.year)
    (late : clock.year ≤ MAX_YEAR) (separated : Separated lonsep latsep) (slow : speed ≤ 300)
    (glyphs : compacted text =
      stampText clock ++ 'E' :: fixText lonsep lon latsep lat speed) (confidence : ℚ) :
    parseOsdText text confidence DEFAULT_MAX_SPEED_KMH COORD_DECIMALS =
      readingOf text confidence clock lonsep lon latsep lat speed := by
  obtain ⟨found, search, groups⟩ := strict_found separated clock lon lat slow
  have stamp := stamp_found clock
    (show ('E' :: fixText lonsep lon latsep lat speed).head?.any isDigit = false from rfl)
  have fix : fixGroups found =
      { lon := lon.text
        lat := lat.text
        lonsep := some lonsep
        latsep := some latsep
        speed := some (speedText speed) } := by
    simp only [fixGroups, Cursor.text, Cursor.group?, groups]
    rfl
  have quick : (speed : ℚ) ≤ DEFAULT_MAX_SPEED_KMH := by
    rw [DEFAULT_MAX_SPEED_KMH]
    exact_mod_cast slow
  simp only [parseOsdText, glyphs, stamp, parseTimestamp_stamp valid early late, Option.map_some,
    Option.getD_some, List.length_reverse, COORD_DECIMALS, search, Option.some_or, fix,
    Option.isSome_some, if_true, Option.isNone_some, Bool.false_and, Option.bind_some,
    Bool.false_eq_true, if_false, readPosition, readFloat_text, readSpeed, quick,
    (speedText_spec slow).1]
  exact if_pos (by simp [OsdReading.valid])

end DashcamStats.Osd
