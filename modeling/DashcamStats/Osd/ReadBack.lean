import DashcamStats.Osd.Overlay

namespace DashcamStats.Osd

-- Whitespace is inserted into a line.
inductive Spaced : Text → Text → Prop where
  | nil : Spaced [] []
  | keep (c : Char) {line text : Text} : Spaced line text → Spaced (c :: line) (c :: text)
  | insert {space : Char} {line text : Text} :
      Strings.isSpace space = true → Spaced line text → Spaced line (space :: text)

theorem Spaced.compacted {line text : Text} (h : Spaced line text) :
    compacted text = compacted line := by
  induction h with
  | nil => rfl
  | keep c _ ih =>
    rw [Osd.compacted, Osd.compacted, List.filter_cons, List.filter_cons]
    split
    · exact congrArg (c :: ·) ih
    · exact ih
  | insert space _ ih =>
    rw [Osd.compacted, List.filter_cons_of_neg (by simp [space])]
    exact ih

theorem Spaced.refl (line : Text) : Spaced line line := by
  induction line with
  | nil => exact .nil
  | cons c line ih => exact .keep c ih

def Plain (text : Text) : Prop := ∀ c ∈ text, Strings.isSpace c = false

theorem compacted_plain {text : Text} (plain : Plain text) : compacted text = text :=
  List.filter_eq_self.mpr fun c among => by simp [plain c among]

theorem compacted_append (one other : Text) :
    compacted (one ++ other) = compacted one ++ compacted other := List.filter_append _ _

theorem isSpace_of_digit {c : Char} (digit : isDigit c = true) : Strings.isSpace c = false := by
  have range : 48 ≤ c.toNat ∧ c.toNat ≤ 57 := by
    simpa [isDigit, Char.isDigit, UInt32.le_iff_toNat_le] using digit
  unfold Strings.isSpace
  simp only [Bool.or_eq_false_iff, Bool.and_eq_false_iff, decide_eq_false_iff_not]
  omega

theorem plain_of_digits {text : Text} (digits : ∀ c ∈ text, isDigit c = true) : Plain text :=
  fun c among => isSpace_of_digit (digits c among)

theorem Plain.append {one other : Text} (first : Plain one) (second : Plain other) :
    Plain (one ++ other) := fun c among =>
  (List.mem_append.mp among).elim (first c) (second c)

theorem label_plain {text : Text} (plain : text.all (fun c => !Strings.isSpace c) = true) :
    Plain text := by
  simpa [Plain] using plain

theorem dateText_plain (clock : Clock) : Plain (dateText clock) :=
  (plain_of_digits (fourDigits_digits _)).append (Plain.append (label_plain (by decide))
    ((plain_of_digits (twoDigits_digits _)).append (Plain.append (label_plain (by decide))
      (plain_of_digits (twoDigits_digits _)))))

theorem timeText_plain (clock : Clock) : Plain (timeText clock) :=
  (plain_of_digits (twoDigits_digits _)).append (Plain.append (label_plain (by decide))
    ((plain_of_digits (twoDigits_digits _)).append (Plain.append (label_plain (by decide))
      (plain_of_digits (twoDigits_digits _)))))

theorem Printed.digits_plain (coordinate : Printed) : Plain coordinate.digits :=
  (plain_of_digits coordinate.wholeDigits).append (Plain.append (label_plain (by decide))
    (plain_of_digits coordinate.fractionDigits))

theorem Printed.text_plain (coordinate : Printed) : Plain coordinate.text := by
  refine Plain.append ?_ coordinate.digits_plain
  unfold Printed.sign
  split_ifs <;> simp [Plain, Strings.isSpace]

theorem compacted_lineWith (clock : Clock) {lonLabel lonText latLabel latText : Text}
    (lonLabelPlain : Plain lonLabel) (lonPlain : Plain lonText) (latLabelPlain : Plain latLabel)
    (latPlain : Plain latText) {speed : ℕ} (slow : speed ≤ 300) :
    compacted (lineWith clock lonLabel lonText latLabel latText speed) =
      stampText clock ++ 'E' :: (lonLabel ++ (lonText ++ ('N' :: (latLabel ++ (latText ++
        (speedText speed ++ unitText)))))) := by
  have speedPlain := plain_of_digits (speedText_spec slow).2.1
  have space : compacted [' '] = [] := by decide
  have east : compacted [' ', 'E'] = ['E'] := by decide
  have north : compacted [' ', 'N'] = ['N'] := by decide
  have unit : compacted [' ', 'k', 'm', '/', 'h'] = unitText := by decide
  simp only [lineWith, compacted_append, compacted_plain (dateText_plain clock),
    compacted_plain (timeText_plain clock), compacted_plain lonLabelPlain,
    compacted_plain lonPlain, compacted_plain latLabelPlain, compacted_plain latPlain,
    compacted_plain speedPlain, space, east, north, unit, stampText]
  simp

def parseLine (text : Text) (confidence : ℚ) : OsdReading :=
  parseOsdText text confidence DEFAULT_MAX_SPEED_KMH COORD_DECIMALS

def Placeholder (lon lat : Printed) : Prop := lon.magnitude ≤ 1 / 10 ∧ lat.magnitude ≤ 1 / 10

theorem Printed.magnitude_nonneg (coordinate : Printed) : 0 ≤ coordinate.magnitude := by
  unfold Printed.magnitude
  positivity

theorem Printed.abs_value (coordinate : Printed) : |coordinate.value| = coordinate.magnitude := by
  have nonneg := coordinate.magnitude_nonneg
  unfold Printed.value
  split_ifs
  · rw [abs_neg, abs_of_nonneg nonneg]
  · exact abs_of_nonneg nonneg

theorem isNoFixPlaceholder_iff (lon lat : Printed) :
    isNoFixPlaceholder (.finite lat.value) (.finite lon.value) = true ↔ Placeholder lon lat := by
  simp [isNoFixPlaceholder, Number.absLe, NO_FIX_EPSILON, Printed.abs_value, Placeholder, and_comm]

theorem judgePosition_printed (reading : OsdReading) (lonsep latsep : Text) {lon lat : Printed}
    (speed : Option Text) (lonRange : lon.magnitude ≤ 180) (latRange : lat.magnitude ≤ 90) :
    judgePosition reading
        { lon := lon.text, lat := lat.text, lonsep := some lonsep, latsep := some latsep,
          speed := speed } 4 lon.value lat.value =
      if signIsAmbiguous (some latsep) (some lat.text) ||
          signIsAmbiguous (some lonsep) (some lon.text) then
        reject reading .COORDINATE_PARSE_FAILURE .signAmbiguous
      else if isNoFixPlaceholder (.finite lat.value) (.finite lon.value) then
        { reading with gpsStatus := .noFix, gpsReason := some .NO_FIX, hasFix := false }
      else
        { reading with
          lat := some lat.value
          lon := some lon.value
          hasFix := true
          gpsStatus := .valid } := by
  have width : precisionIsExpected (some lon.text) (some lat.text) 4 = true := by
    simp [precisionIsExpected, fractionWidth_text]
  have inside : ¬(MAX_LATITUDE < |lat.value| ∨ MAX_LONGITUDE < |lon.value|) := by
    rw [lat.abs_value, lon.abs_value, MAX_LATITUDE, MAX_LONGITUDE]
    exact not_or.mpr ⟨latRange.not_gt, lonRange.not_gt⟩
  unfold judgePosition
  rw [if_neg (by simp [width])]
  refine if_congr Iff.rfl rfl ?_
  rw [coordinateProblem, if_neg inside]
  split_ifs <;> rfl

theorem placed_iff {clock : Clock} {lonsep latsep : Text} {lon lat : Printed} {speed : ℕ}
    {line : Text} (valid : clock.valid = true) (early : 2000 ≤ clock.year)
    (late : clock.year ≤ 2100) (separated : Separated lonsep latsep)
    (lonRange : lon.magnitude ≤ 180) (latRange : lat.magnitude ≤ 90) (slow : speed ≤ 300)
    (glyphs : compacted line = stampText clock ++ 'E' :: fixText lonsep lon latsep lat speed)
    (confidence : ℚ) :
    ((parseLine line confidence).hasFix = true ↔
        signIsAmbiguous (some latsep) (some lat.text) = false ∧
          signIsAmbiguous (some lonsep) (some lon.text) = false ∧ ¬Placeholder lon lat) ∧
      ((parseLine line confidence).hasFix = true →
        (parseLine line confidence).lon = some lon.value ∧
          (parseLine line confidence).lat = some lat.value) := by
  rw [parseLine, parse_line valid early late separated slow glyphs, readingOf,
    judgePosition_printed _ _ _ _ lonRange latRange, ← isNoFixPlaceholder_iff]
  cases signIsAmbiguous (some latsep) (some lat.text) <;>
    cases signIsAmbiguous (some lonsep) (some lon.text) <;>
      cases isNoFixPlaceholder (.finite lat.value) (.finite lon.value) <;>
        simp [reject, OsdReading.report, OsdReading.blank]

theorem signIsAmbiguous_clear {label : Text} (among : label ∈ [[':'], ['N', ':']])
    (coordinate : Printed) : signIsAmbiguous (some label) (some coordinate.text) = false := by
  rw [signIsAmbiguous_text]
  simp only [List.mem_cons, List.not_mem_nil, or_false] at among
  obtain rfl | rfl := among <;> split <;> decide

theorem line_read_back {clock : Clock} {lon lat : Printed} {speed : ℕ} {line : Text}
    (valid : clock.valid = true) (early : 2000 ≤ clock.year) (late : clock.year ≤ 2100)
    (lonRange : |lon.value| ≤ 180) (latRange : |lat.value| ≤ 90) (slow : speed ≤ 300)
    (spaced : Spaced (overlayLine clock lon lat speed) line) (confidence : ℚ) :
    (parseLine line confidence).capturedAt = some clock ∧
      (parseLine line confidence).speedKmh = some (speed : ℚ) ∧
      if |lon.value| ≤ 1 / 10 ∧ |lat.value| ≤ 1 / 10 then
        (parseLine line confidence).hasFix = false ∧ (parseLine line confidence).lon = none ∧
          (parseLine line confidence).lat = none ∧ (parseLine line confidence).gpsStatus = .noFix
      else
        (parseLine line confidence).hasFix = true ∧
          (parseLine line confidence).lon = some lon.value ∧
            (parseLine line confidence).lat = some lat.value := by
  have separated : Separated [':'] ['N', ':'] :=
    ⟨List.all_eq_true.mp rfl, List.all_eq_true.mp rfl, by decide, by decide⟩
  have glyphs : compacted line =
      stampText clock ++ 'E' :: fixText [':'] lon ['N', ':'] lat speed := by
    rw [spaced.compacted, overlayLine, compacted_lineWith clock (label_plain (by decide))
      lon.text_plain (label_plain (by decide)) lat.text_plain slow]
    rfl
  rw [Printed.abs_value] at lonRange latRange
  rw [parseLine, parse_line valid early late separated slow glyphs, readingOf,
    judgePosition_printed _ _ _ _ lonRange latRange, signIsAmbiguous_clear (by simp),
    signIsAmbiguous_clear (by simp), lon.abs_value, lat.abs_value, Bool.or_self,
    if_neg Bool.false_ne_true]
  by_cases near : lon.magnitude ≤ 1 / 10 ∧ lat.magnitude ≤ 1 / 10
  · rw [if_pos near, if_pos ((isNoFixPlaceholder_iff lon lat).mpr near)]
    exact ⟨rfl, rfl, rfl, rfl, rfl, rfl⟩
  · have placed : ¬isNoFixPlaceholder (.finite lat.value) (.finite lon.value) = true :=
      fun placeholder => near ((isNoFixPlaceholder_iff lon lat).mp placeholder)
    rw [if_neg near, if_neg placed]
    exact ⟨rfl, rfl, rfl, rfl, rfl⟩

def adelaideLon : Printed :=
  { neg := false
    whole := ['1', '3', '8']
    fraction := ['7', '0', '1', '4']
    wholeDigits := List.all_eq_true.mp rfl
    fractionDigits := List.all_eq_true.mp rfl
    wholeLength := by decide
    fractionLength := rfl }

def adelaideLat : Printed :=
  { neg := true
    whole := ['3', '4']
    fraction := ['8', '0', '5', '6']
    wholeDigits := List.all_eq_true.mp rfl
    fractionDigits := List.all_eq_true.mp rfl
    wholeLength := by decide
    fractionLength := rfl }

def adelaideClock : Clock :=
  { year := 2026, month := 7, day := 28, hour := 22, minute := 49, second := 19 }

theorem adelaideLon_value : adelaideLon.value = 138.7014 := by
  have whole : readNat adelaideLon.whole = 138 := by decide
  have fraction : readNat adelaideLon.fraction = 7014 := by decide
  rw [Printed.value, Printed.magnitude, whole, fraction, if_neg (by decide)]
  norm_num

theorem adelaideLat_value : adelaideLat.value = -34.8056 := by
  have whole : readNat adelaideLat.whole = 34 := by decide
  have fraction : readNat adelaideLat.fraction = 8056 := by decide
  rw [Printed.value, Printed.magnitude, whole, fraction, if_pos (by decide)]
  norm_num

theorem adelaide_read_back :
    (parseLine (overlayLine adelaideClock adelaideLon adelaideLat 42) 1).lat = some (-34.8056) := by
  have read := line_read_back (by decide) (by decide) (by decide)
    (by rw [adelaideLon_value]; norm_num) (by rw [adelaideLat_value]; norm_num) (by decide)
    (Spaced.refl (overlayLine adelaideClock adelaideLon adelaideLat 42)) 1
  rw [adelaideLon_value, adelaideLat_value] at read
  rw [if_neg (by norm_num [abs_of_pos, abs_of_neg])] at read
  exact read.2.2.2.2

def Printed.flipped (coordinate : Printed) : Printed :=
  { coordinate with neg := !coordinate.neg }

theorem Printed.flipped_value (coordinate : Printed) :
    coordinate.flipped.value = -coordinate.value := by
  unfold Printed.value Printed.flipped
  cases coordinate.neg <;> simp [Printed.magnitude]

inductive Field where
  | lon
  | lat
  deriving DecidableEq

-- A minus read as another glyph, or the colon of a positive coordinate's label read as a minus
inductive Misread where
  | minus (glyph : Char)
  | colon
  deriving DecidableEq

def labelAs (misread : Misread) : Text :=
  match misread with
  | .minus _ => [':']
  | .colon => ['-']

def textAs (misread : Misread) (coordinate : Printed) : Text :=
  match misread with
  | .minus glyph => glyph :: coordinate.digits
  | .colon => coordinate.digits

def misreadLine (field : Field) (misread : Misread) (clock : Clock) (lon lat : Printed)
    (speed : ℕ) : Text :=
  match field with
  | .lon => lineWith clock (labelAs misread) (textAs misread lon) [':'] lat.text speed
  | .lat => lineWith clock [':'] lon.text (labelAs misread) (textAs misread lat) speed

def Field.of {α : Type} (field : Field) (lon lat : α) : α :=
  match field with
  | .lon => lon
  | .lat => lat

def Misread.fits (misread : Misread) (value : ℚ) : Prop :=
  match misread with
  | .minus glyph => value < 0 ∧ glyph ∈ ['.', ':', 'E', 'N', 'k', 'm', '/', 'h']
  | .colon => 0 < value

def separatorAs (misread : Misread) : Text :=
  match misread with
  | .minus glyph => [':', glyph]
  | .colon => []

def Misread.seen (misread : Misread) : Prop :=
  match misread with
  | .minus glyph => glyph = '.' ∨ glyph = ':'
  | .colon => True

theorem neg_of_value_neg {coordinate : Printed} (h : coordinate.value < 0) :
    coordinate.neg = true := by
  by_contra positive
  rw [Printed.value, if_neg positive] at h
  exact absurd coordinate.magnitude_nonneg h.not_ge

theorem neg_of_value_pos {coordinate : Printed} (h : 0 < coordinate.value) :
    coordinate.neg = false := by
  by_contra negative
  rw [Printed.value, if_pos (by simpa using negative)] at h
  exact absurd coordinate.magnitude_nonneg (by linarith)

section

variable {misread : Misread} {coordinate : Printed} (fits : misread.fits coordinate.value)

include fits

theorem misread_text : labelAs misread ++ textAs misread coordinate =
    separatorAs misread ++ coordinate.flipped.text := by
  cases misread with
  | minus glyph =>
    have neg := neg_of_value_neg fits.1
    simp [labelAs, textAs, separatorAs, Printed.text, Printed.sign, Printed.flipped, neg,
      Printed.digits]
  | colon =>
    have neg := neg_of_value_pos fits
    simp [labelAs, textAs, separatorAs, Printed.text, Printed.sign, Printed.flipped, neg,
      Printed.digits]

theorem misread_ambiguous {label : Text} (among : label ∈ [[], ['N']]) :
    signIsAmbiguous (some (label ++ separatorAs misread)) (some coordinate.flipped.text) = false ↔
      ¬misread.seen := by
  simp only [List.mem_cons, List.not_mem_nil, or_false] at among
  rw [signIsAmbiguous_text]
  cases misread with
  | minus glyph =>
    have neg : coordinate.flipped.neg = false := by
      rw [Printed.flipped, neg_of_value_neg fits.1]
      rfl
    have known := fits.2
    simp only [List.mem_cons, List.not_mem_nil, or_false] at known
    rw [if_neg (by simp [neg])]
    obtain rfl | rfl := among <;>
      obtain rfl | rfl | rfl | rfl | rfl | rfl | rfl | rfl := known <;>
        simp [Misread.seen, separatorAs, DOTLIKE]
  | colon =>
    have neg : coordinate.flipped.neg = true := by
      rw [Printed.flipped, neg_of_value_pos fits]
      rfl
    rw [if_pos neg]
    obtain rfl | rfl := among <;> simp [Misread.seen, separatorAs]

theorem misread_separated {label : Text} (among : label ∈ [[], ['N']]) :
    (∀ c ∈ label ++ separatorAs misread, unsigned c = true) ∧
      (label ++ separatorAs misread).length ≤ 8 := by
  simp only [List.mem_cons, List.not_mem_nil, or_false] at among
  cases misread with
  | minus glyph =>
    have all : ['.', ':', 'E', 'N', 'k', 'm', '/', 'h'].all unsigned = true := by decide
    have known := List.all_eq_true.mp all glyph fits.2
    have colon : unsigned ':' = true := by decide
    have north : unsigned 'N' = true := by decide
    obtain rfl | rfl := among <;> simp [separatorAs, known, colon, north]
  | colon => obtain rfl | rfl := among <;> exact ⟨List.all_eq_true.mp rfl, by decide⟩

theorem misread_plain : Plain (labelAs misread) ∧ Plain (textAs misread coordinate) := by
  cases misread with
  | minus glyph =>
    have all : Plain ['.', ':', 'E', 'N', 'k', 'm', '/', 'h'] := label_plain (by decide)
    have plain : Plain [glyph] := by simpa [Plain] using all glyph fits.2
    exact ⟨label_plain rfl, plain.append coordinate.digits_plain⟩
  | colon => exact ⟨label_plain (by decide), coordinate.digits_plain⟩

end

theorem misread_placed {field : Field} {misread : Misread} {clock : Clock}
    {lon lat : Printed} {speed : ℕ} {line : Text} (valid : clock.valid = true)
    (early : 2000 ≤ clock.year) (late : clock.year ≤ 2100) (lonRange : |lon.value| ≤ 180)
    (latRange : |lat.value| ≤ 90) (slow : speed ≤ 300)
    (fits : misread.fits (field.of lon.value lat.value))
    (spaced : Spaced (misreadLine field misread clock lon lat speed) line) (confidence : ℚ) :
    ((parseLine line confidence).hasFix = true ↔ ¬misread.seen ∧ ¬Placeholder lon lat) ∧
      ((parseLine line confidence).hasFix = true →
        field.of (parseLine line confidence).lon (parseLine line confidence).lat =
          some (-field.of lon.value lat.value)) := by
  rw [Printed.abs_value] at lonRange latRange
  have east : [] ∈ [([] : Text), ['N']] := by simp
  have north : ['N'] ∈ [([] : Text), ['N']] := by simp
  cases field with
  | lon =>
    have fits : misread.fits lon.value := fits
    have separated : Separated (separatorAs misread) ['N', ':'] :=
      ⟨(misread_separated fits east).1, List.all_eq_true.mp rfl, (misread_separated fits east).2,
        by decide⟩
    have glyphs : compacted line = stampText clock ++
        'E' :: fixText (separatorAs misread) lon.flipped ['N', ':'] lat speed := by
      rw [spaced.compacted, misreadLine, compacted_lineWith clock (misread_plain fits).1
        (misread_plain fits).2 (label_plain (by decide)) lat.text_plain slow, ← List.append_assoc,
        misread_text fits]
      simp [fixText]
    have lonRange : lon.flipped.magnitude ≤ 180 := lonRange
    obtain ⟨placed, position⟩ :=
      placed_iff valid early late separated lonRange latRange slow glyphs confidence
    have seen := misread_ambiguous fits east
    have clear := signIsAmbiguous_clear (show ['N', ':'] ∈ _ by simp) lat
    rw [List.nil_append] at seen
    rw [clear, seen, eq_self, true_and] at placed
    rw [lon.flipped_value] at position
    exact ⟨placed, fun fix => (position fix).1⟩
  | lat =>
    have fits : misread.fits lat.value := fits
    have separated : Separated [':'] ('N' :: separatorAs misread) :=
      ⟨List.all_eq_true.mp rfl, (misread_separated fits north).1, by decide,
        (misread_separated fits north).2⟩
    have glyphs : compacted line = stampText clock ++
        'E' :: fixText [':'] lon ('N' :: separatorAs misread) lat.flipped speed := by
      rw [spaced.compacted, misreadLine, compacted_lineWith clock (label_plain (by decide))
        lon.text_plain (misread_plain fits).1 (misread_plain fits).2 slow,
        ← List.append_assoc (labelAs misread), misread_text fits]
      simp [fixText]
    have latRange : lat.flipped.magnitude ≤ 90 := latRange
    obtain ⟨placed, position⟩ :=
      placed_iff valid early late separated lonRange latRange slow glyphs confidence
    have seen := misread_ambiguous fits north
    have clear := signIsAmbiguous_clear (show [':'] ∈ _ by simp) lon
    rw [List.singleton_append] at seen
    rw [clear, seen, eq_self, true_and] at placed
    rw [lat.flipped_value] at position
    exact ⟨placed, fun fix => (position fix).2⟩

-- The position is refused where the damage is seen, and where there is no fix to report.
theorem flipped_refused_iff {field : Field} {misread : Misread} {clock : Clock}
    {lon lat : Printed} {speed : ℕ} {line : Text} (valid : clock.valid = true)
    (early : 2000 ≤ clock.year) (late : clock.year ≤ 2100) (lonRange : |lon.value| ≤ 180)
    (latRange : |lat.value| ≤ 90) (slow : speed ≤ 300)
    (fits : misread.fits (field.of lon.value lat.value))
    (spaced : Spaced (misreadLine field misread clock lon lat speed) line) (confidence : ℚ) :
    ¬((parseLine line confidence).hasFix = true ∧
        field.of (parseLine line confidence).lon (parseLine line confidence).lat =
          some (-field.of lon.value lat.value)) ↔
      misread.seen ∨ Placeholder lon lat := by
  obtain ⟨placed, flipped⟩ :=
    misread_placed valid early late lonRange latRange slow fits spaced confidence
  rw [and_iff_left_of_imp flipped, placed, ← not_or, not_not]

theorem southern_fits :
    (Misread.minus 'k').fits (Field.lat.of adelaideLon.value adelaideLat.value) :=
  ⟨by rw [Field.of, adelaideLat_value]; norm_num, by decide⟩

theorem southern_flipped_iff :
    ¬((parseLine (misreadLine .lat (.minus 'k') adelaideClock adelaideLon adelaideLat 42)
          1).hasFix = true ∧
        (parseLine (misreadLine .lat (.minus 'k') adelaideClock adelaideLon adelaideLat 42)
          1).lat = some (-adelaideLat.value)) ↔
      (Misread.minus 'k').seen ∨ Placeholder adelaideLon adelaideLat :=
  @flipped_refused_iff .lat (.minus 'k') adelaideClock adelaideLon adelaideLat 42 _ (by decide)
    (by decide) (by decide) (by rw [adelaideLon_value]; norm_num)
    (by rw [adelaideLat_value]; norm_num) (by decide) southern_fits (Spaced.refl _) 1

-- A southern coordinate's minus read as a `k`
theorem southern_minus_flipped :
    adelaideLat.value = -34.8056 ∧
      (parseLine (misreadLine .lat (.minus 'k') adelaideClock adelaideLon adelaideLat 42)
          1).hasFix = true ∧
        (parseLine (misreadLine .lat (.minus 'k') adelaideClock adelaideLon adelaideLat 42)
          1).lat = some 34.8056 := by
  have read := @misread_placed .lat (.minus 'k') adelaideClock adelaideLon adelaideLat 42 _
    (by decide) (by decide) (by decide) (by rw [adelaideLon_value]; norm_num)
    (by rw [adelaideLat_value]; norm_num) (by decide) southern_fits (Spaced.refl _) 1
  have apart : ¬Placeholder adelaideLon adelaideLat := by
    rw [Placeholder, ← adelaideLon.abs_value, adelaideLon_value]
    norm_num [abs_of_pos]
  have fix := read.1.mpr ⟨by simp [Misread.seen], apart⟩
  refine ⟨adelaideLat_value, fix, (read.2 fix).trans ?_⟩
  rw [Field.of, adelaideLat_value, neg_neg]

end DashcamStats.Osd
