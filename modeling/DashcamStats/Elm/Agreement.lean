import DashcamStats.Elm.Protocol

namespace DashcamStats.Elm

section Splitting

variable {data : Frame} {headers : List ℕ} {last : ℕ}

theorem cut_append_of_none {all : List ℕ} (cursor : ℕ) (starts : List ℕ)
    (none : validEnd data all last = none) :
    cut data all cursor (starts ++ [last]) = cut data all cursor starts := by
  induction starts generalizing cursor with
  | nil => simp [cut, none]
  | cons start rest ih =>
    simp only [List.cons_append, cut]
    cases validEnd data all start with
    | none => exact ih cursor
    | some stop => simp only [ih]

theorem cut_congr {all all' : List ℕ} (cursor : ℕ) (starts : List ℕ)
    (same : ∀ start ∈ starts, validEnd data all start = validEnd data all' start) :
    cut data all cursor starts = cut data all' cursor starts := by
  induction starts generalizing cursor with
  | nil => rfl
  | cons start rest ih =>
    have ih' (cursor : ℕ) := ih cursor fun other mem => same other (List.mem_cons_of_mem _ mem)
    simp only [cut, same start List.mem_cons_self, ih']

theorem checksum_length {frame : Frame} (valid : checksum frame = true) : 5 ≤ frame.length := by
  simp only [checksum, Bool.and_eq_true, decide_eq_true_eq] at valid
  exact valid.1

theorem slice_length_le (start stop : ℕ) : (slice data start stop).length ≤ data.length - start := by
  simp only [slice, List.length_drop, List.length_take]
  omega

theorem validEnd_eq_none {start : ℕ} (short : data.length < start + 5) :
    validEnd data headers start = none := by
  refine List.find?_eq_none.mpr fun stop _ valid => ?_
  have least := checksum_length valid
  have most := @slice_length_le data start stop
  omega

theorem validEnd_append {start : ℕ} (invalid : checksum (slice data start last) = false) :
    validEnd data (headers ++ [last]) start = validEnd data headers start := by
  simp only [validEnd, List.filter_append, List.append_assoc, List.find?_append]
  congr 1
  by_cases after : start < last
  · simp [after, invalid]
  · simp [after]

theorem splitAt_append (short : data.length < last + 5)
    (invalid : ∀ start ∈ headers, checksum (slice data start last) = false) :
    splitAt (headers ++ [last]) data = splitAt headers data := by
  have none : validEnd data (headers ++ [last]) last = none := validEnd_eq_none short
  have same (start : ℕ) (mem : start ∈ headers) :
      validEnd data (headers ++ [last]) start = validEnd data headers start :=
    validEnd_append (invalid start mem)
  have all : ((headers ++ [last]).all fun start => validEnd data (headers ++ [last]) start = .none) =
      headers.all fun start => validEnd data headers start = .none := by
    rw [Bool.eq_iff_iff, List.all_eq_true, List.all_eq_true]
    constructor
    · intro invalid start mem
      have skipped := invalid start (List.mem_append_left _ mem)
      rwa [same start mem] at skipped
    · intro invalid start mem
      rcases List.mem_append.mp mem with mem | mem
      · rw [same start mem]
        exact invalid start mem
      · rw [List.mem_singleton.mp mem, none]
        rfl
  unfold splitAt
  rw [all]
  split
  · rfl
  · rw [cut_append_of_none 0 headers none, cut_congr 0 headers same]

theorem validEnd_slice {all : List ℕ} {start stop : ℕ} (isEnd : validEnd data all start = some stop) :
    slice data start stop ≠ [] := by
  intro empty
  have found : checksum (slice data start stop) = true :=
    @List.find?_some _ (fun stop => checksum (slice data start stop)) _ _ isEnd
  have valid := checksum_length found
  rw [empty] at valid
  cases valid

theorem cut_ne_nil {all : List ℕ} (cursor : ℕ) (starts : List ℕ)
    (inside : ∀ start ∈ starts, start < data.length) :
    ∀ part ∈ cut data all cursor starts, part ≠ [] := by
  induction starts generalizing cursor with
  | nil =>
    intro part mem
    unfold cut at mem
    split at mem
    · rename_i more
      rw [List.mem_singleton.mp mem]
      simpa using more
    · cases mem
  | cons start rest ih =>
    have ih' (cursor : ℕ) := ih cursor fun other mem => inside other (List.mem_cons_of_mem _ mem)
    have more := inside start List.mem_cons_self
    intro part mem
    unfold cut at mem
    split at mem
    · rename_i stop isEnd
      split at mem
      · rcases List.mem_append.mp mem with mem | mem
        · split at mem
          · rename_i gap
            rw [List.mem_singleton.mp mem]
            refine List.ne_nil_of_length_pos ?_
            simp only [slice, List.length_drop, List.length_take]
            omega
          · cases mem
        · rcases List.mem_cons.mp mem with rfl | mem
          · exact validEnd_slice isEnd
          · exact ih' stop part mem
      · exact ih' cursor part mem
    · exact ih' cursor part mem

def EndsAtHeader (data : Frame) : Prop :=
  isHeader data (data.length - 2) = true ∧
    ∃ start, isHeader data start = true ∧ checksum (slice data start (data.length - 2)) = true

theorem isHeader_lt {at_ : ℕ} (header : isHeader data at_ = true) : at_ + 1 < data.length := by
  simp only [isHeader, Bool.and_eq_true, decide_eq_true_eq] at header
  exact (List.getElem?_eq_some_iff.mp header.2).1

theorem splitIso_eq (apart : ¬EndsAtHeader data) :
    Android.splitIso data = Backend.splitIsoByteRun data := by
  unfold Android.splitIso Backend.splitIsoByteRun
  have isShort (headers : List ℕ) (short : data.length < 5) : splitAt headers data = [data] := by
    refine if_pos (List.all_eq_true.mpr fun start _ => ?_)
    rw [validEnd_eq_none (by omega)]
    rfl
  by_cases short : data.length < 5
  · rw [if_pos short, isShort _ short]
  · rw [if_neg short]
    have range : List.range (data.length - 1) =
        List.range (data.length - 2) ++ [data.length - 2] := by
      rw [← List.range_succ]
      congr 1
      omega
    have headers : splitAt ((List.range (data.length - 1)).filter (isHeader data)) data =
        splitAt ((List.range (data.length - 2)).filter (isHeader data)) data := by
      rw [range, List.filter_append]
      by_cases isLast : isHeader data (data.length - 2) = true
      · rw [List.filter_cons_of_pos isLast, List.filter_nil]
        refine splitAt_append (by omega) fun start mem => ?_
        by_contra valid
        exact apart ⟨isLast, start, (List.mem_filter.mp mem).2, by simpa using valid⟩
      · rw [List.filter_cons_of_neg isLast, List.filter_nil, List.append_nil]
    rw [headers]
    refine (List.filter_eq_self.mpr fun part mem => ?_).symm
    unfold splitAt at mem
    split at mem
    · rw [List.mem_singleton.mp mem, decide_eq_true_eq]
      exact List.ne_nil_of_length_pos (by omega)
    · refine decide_eq_true (cut_ne_nil 0 _ (fun start mem => ?_) part mem)
      have header := isHeader_lt (List.mem_filter.mp mem).2
      omega

end Splitting

section Lines

variable {response command : Text}

theorem lineContent_congr {isEcho isEcho' : Text → Bool} {raw : Text}
    (same : strip raw ≠ [] → isEcho (strip raw) = isEcho' (strip raw)) :
    lineContent isEcho raw = lineContent isEcho' raw := by
  unfold lineContent
  by_cases empty : strip raw = []
  · simp [empty]
  · simp only [same empty]

theorem normalize_strip_ne_nil {raw : Text} (content : strip raw ≠ []) :
    normalize (strip raw) ≠ [] := by
  intro empty
  refine content ?_
  have blank : ∀ c ∈ strip raw, isSpace c = true := by
    have none := List.map_eq_nil_iff.mp empty
    intro c mem
    by_contra notSpace
    have kept : c ∈ (strip raw).filter fun c => !isSpace c :=
      List.mem_filter.mpr ⟨mem, by simpa using notSpace⟩
    rw [none] at kept
    cases kept
  have again : (strip raw).rdropWhile isSpace = strip raw := List.rdropWhile_idempotent _ _
  rw [← again]
  exact List.rdropWhile_eq_nil_iff.mpr blank

theorem cleanedResponseLines_eq (noNul : '\x00' ∉ response) :
    Backend.cleanedResponseLines response command =
      (Android.cleanedLines response command).filter fun line => !Backend.isNoise line := by
  have text : Backend.responseText response = response := by
    refine List.filter_eq_self.mpr fun c mem => ?_
    rw [decide_eq_true_eq]
    exact fun same => noNul (same ▸ mem)
  unfold Backend.cleanedResponseLines Android.cleanedLines
  rw [text]
  congr 2
  funext raw
  refine lineContent_congr fun content => ?_
  have nonempty := normalize_strip_ne_nil content
  by_cases same : normalize (strip raw) = normalize command
  · rw [← same]
    simp [nonempty]
  · simp [same]

end Lines

section Reading

variable {line : Text}

def isPairs (text : Text) : Bool :=
  dropBlanks text ≠ [] && (dropBlanks text).all isHex && (dropBlanks text).length % 2 = 0

-- `[0-9A-Fa-f]+`
def isIndex (text : Text) : Bool := text ≠ [] && text.all isHex

def index (line : Text) : Text := line.takeWhile (· ≠ ':')

def afterColon (line : Text) : Text := (line.dropWhile (· ≠ ':')).drop 1

def WellIndexed (line : Text) : Prop :=
  ':' ∈ line → (isPairs (afterColon line) = true → isIndex (index line) = true) ∧
    (isIndex (index line) = true → isPairs ((afterColon line).dropWhile isSpace) = true →
      isPairs (afterColon line) = true)

theorem lineBytes_eq (line : Text) :
    Android.lineBytes line = if isPairs (Android.substringAfterColon line) then
      some (hexBytes (dropBlanks (Android.substringAfterColon line))) else none := rfl

theorem hexText_eq (text : Text) :
    ((text ≠ [] && text.all fun c => isHex c || c = ' ') &&
      !((dropBlanks text).length < 2 || (dropBlanks text).length % 2 ≠ 0)) = isPairs text := by
  have digits : (text.all fun c => isHex c || c = ' ') = (dropBlanks text).all isHex := by
    rw [dropBlanks, List.all_filter]
    congr 1
    funext c
    by_cases blank : c = ' ' <;> simp [blank]
  rw [digits, isPairs]
  cases text with
  | nil => rfl
  | cons first rest =>
    cases compact : dropBlanks (first :: rest) with
    | nil => simp
    | cons c more =>
      simp only [List.length_cons]
      cases (c :: more).all isHex with
      | false => simp
      | true =>
        simp only [ne_eq, reduceCtorEq, not_false_eq_true, decide_true, Bool.true_and,
          Bool.and_true]
        by_cases even : (more.length + 1) % 2 = 0
        · have two : ¬more.length + 1 < 2 := by omega
          simp [even, two]
        · simp [even]

theorem lineToBytes_of {text : Text} {accepted : Bool}
    (isText : Backend.hexLine line =
      if accepted && (text ≠ [] && text.all fun c => isHex c || c = ' ') then some text else none) :
    Backend.lineToBytes line =
      if accepted && isPairs text then some (hexBytes (dropBlanks text)) else none := by
  unfold Backend.lineToBytes
  rw [isText, ← hexText_eq text]
  cases accepted with
  | false => simp
  | true =>
    cases (text ≠ [] && text.all fun c => isHex c || c = ' ' : Bool) with
    | false => simp
    | true =>
      simp only [Bool.and_self, if_true, Bool.true_and]
      generalize ((dropBlanks text).length < 2 || (dropBlanks text).length % 2 ≠ 0 : Bool) = bad
      cases bad with
      | false => rfl
      | true => rfl

theorem lineToBytes_plain (noColon : ':' ∉ line) :
    Backend.lineToBytes line =
      if isPairs line then some (hexBytes (dropBlanks line)) else none := by
  refine @lineToBytes_of line line true ?_
  simp [Backend.hexLine, noColon]

theorem lineToBytes_indexed (colon : ':' ∈ line) :
    Backend.lineToBytes line =
      if isIndex (index line) && isPairs ((afterColon line).dropWhile isSpace) then
        some (hexBytes (dropBlanks ((afterColon line).dropWhile isSpace))) else none := by
  refine lineToBytes_of ?_
  simp [Backend.hexLine, colon, isIndex, index, afterColon, and_assoc]

theorem isSpace_of_isHex {c : Char} (hex : isHex c = true) : isSpace c = false := by
  have least : 48 ≤ c.toNat := by
    unfold isHex hexValue at hex
    split at hex
    · rename_i digit
      exact digit.1
    · split at hex
      · rename_i lower
        exact le_trans (by decide : 48 ≤ 'a'.toNat) lower.1
      · split at hex
        · rename_i capital
          exact le_trans (by decide : 48 ≤ 'A'.toNat) capital.1
        · cases hex
  unfold isSpace
  simp only [Bool.or_eq_false_iff, Bool.and_eq_false_iff, decide_eq_false_iff_not]
  omega

theorem dropBlanks_dropWhile {text : Text} (digits : (dropBlanks text).all isHex = true) :
    dropBlanks (text.dropWhile isSpace) = dropBlanks text := by
  induction text with
  | nil => rfl
  | cons c rest ih =>
    by_cases blank : c = ' '
    · subst blank
      have skips : dropBlanks (' ' :: rest) = dropBlanks rest := rfl
      rw [skips] at digits ⊢
      exact ih digits
    · have keeps : dropBlanks (c :: rest) = c :: dropBlanks rest := by simp [dropBlanks, blank]
      have hex : isHex c = true := by
        rw [keeps, List.all_cons, Bool.and_eq_true] at digits
        exact digits.1
      rw [List.dropWhile_cons_of_neg (by simp [isSpace_of_isHex hex])]

theorem lineBytes_eq_lineToBytes (indexed : WellIndexed line) :
    Android.lineBytes line = Backend.lineToBytes line := by
  rw [lineBytes_eq]
  by_cases colon : ':' ∈ line
  · have after : Android.substringAfterColon line = afterColon line := if_pos colon
    obtain ⟨hasIndex, blanks⟩ := indexed colon
    rw [after, lineToBytes_indexed colon]
    by_cases pairs : isPairs (afterColon line) = true
    · have digits : (dropBlanks (afterColon line)).all isHex = true := by
        simp only [isPairs, Bool.and_eq_true] at pairs
        exact pairs.1.2
      have same := dropBlanks_dropWhile digits
      have pairs' : isPairs ((afterColon line).dropWhile isSpace) = true := by
        rw [isPairs, same]
        exact pairs
      rw [if_pos pairs, hasIndex pairs, pairs', same]
      rfl
    · rw [if_neg pairs]
      by_cases both : (isIndex (index line) &&
          isPairs ((afterColon line).dropWhile isSpace)) = true
      · rw [Bool.and_eq_true] at both
        exact absurd (blanks both.1 both.2) pairs
      · rw [if_neg both]
  · have whole : Android.substringAfterColon line = line := if_neg colon
    rw [whole, lineToBytes_plain colon]

end Reading

section Frames

variable {parse parse' : Text → Option Frame} {split split' : Frame → List Frame}

def runsOf (parse : Text → Option Frame) : Frame → List Text → List Frame
  | run, [] => if run = [] then [] else [run]
  | run, line :: rest =>
    match parse line with
    | some [byte] => runsOf parse (run ++ [byte]) rest
    | _ => (if run = [] then [] else [run]) ++ runsOf parse [] rest

def isByteLine (line : Text) : Bool := (Android.lineBytes line).any (·.length = 1)

inductive Place where
  | outside | inside | interrupted
deriving DecidableEq, Repr

def unbroken : Place → List Text → Bool
  | _, [] => true
  | place, line :: rest =>
    if Backend.isNoise line then
      unbroken (if place = .outside then .outside else .interrupted) rest
    else if isByteLine line then place ≠ .interrupted && unbroken .inside rest
    else unbroken .outside rest

structure ReadAlike (lines : List Text) : Prop where
  noise : ∀ line ∈ lines, Backend.isNoise line = true → Android.lineBytes line = none
  bytes : ∀ line ∈ lines, Backend.isNoise line = false →
    Android.lineBytes line = Backend.lineToBytes line

theorem ReadAlike.tail {line : Text} {rest : List Text} (alike : ReadAlike (line :: rest)) :
    ReadAlike rest where
  noise other mem := alike.noise other (List.mem_cons_of_mem _ mem)
  bytes other mem := alike.bytes other (List.mem_cons_of_mem _ mem)

-- The place of a reader that has read the bytes of `run`.
def placeOf (run : Frame) : Place := if run = [] then .outside else .inside

def flush (split : Frame → List Frame) (run : Frame) : List Frame :=
  if run = [] then [] else split run

theorem framesOf_nil (run : Frame) : framesOf parse split run [] = flush split run := rfl

theorem framesOf_byte {line : Text} {byte : UInt8} (run : Frame) (rest : List Text)
    (isByte : parse line = some [byte]) :
    framesOf parse split run (line :: rest) = framesOf parse split (run ++ [byte]) rest := by
  simp only [framesOf, isByte]

theorem framesOf_other {line : Text} (run : Frame) (rest : List Text)
    (notByte : ∀ byte, parse line ≠ some [byte]) :
    framesOf parse split run (line :: rest) =
      flush split run ++ ((parse line).toList ++ framesOf parse split [] rest) := by
  cases parsed : parse line with
  | none => simp [framesOf, parsed, flush]
  | some bytes =>
    match bytes, parsed with
    | [], parsed => simp [framesOf, parsed, flush]
    | [byte], parsed => exact absurd parsed (notByte byte)
    | first :: second :: more, parsed => simp [framesOf, parsed, flush]

theorem runsOf_byte {line : Text} {byte : UInt8} (run : Frame) (rest : List Text)
    (isByte : parse line = some [byte]) :
    runsOf parse run (line :: rest) = runsOf parse (run ++ [byte]) rest := by
  simp only [runsOf, isByte]

theorem runsOf_other {line : Text} (run : Frame) (rest : List Text)
    (notByte : ∀ byte, parse line ≠ some [byte]) :
    runsOf parse run (line :: rest) = (if run = [] then [] else [run]) ++ runsOf parse [] rest := by
  cases parsed : parse line with
  | none => simp [runsOf, parsed]
  | some bytes =>
    match bytes, parsed with
    | [], parsed => simp [runsOf, parsed]
    | [byte], parsed => exact absurd parsed (notByte byte)
    | first :: second :: more, parsed => simp [runsOf, parsed]

theorem isByteLine_iff {line : Text} :
    isByteLine line = true ↔ ∃ byte, Android.lineBytes line = some [byte] := by
  unfold isByteLine
  rw [Option.any_eq_true]
  constructor
  · rintro ⟨bytes, parsed, one⟩
    obtain ⟨byte, rfl⟩ := List.length_eq_one_iff.mp (by simpa using one)
    exact ⟨byte, parsed⟩
  · rintro ⟨byte, parsed⟩
    exact ⟨[byte], parsed, by simp⟩

theorem framesOf_agree (lines : List Text) (alike : ReadAlike lines) :
    (∀ run, unbroken (placeOf run) lines = true →
      (∀ part ∈ runsOf Android.lineBytes run lines, split part = split' part) →
      framesOf Android.lineBytes split run lines =
        framesOf Backend.lineToBytes split' run (lines.filter fun line => !Backend.isNoise line)) ∧
    ∀ run, run ≠ [] → unbroken .interrupted lines = true → split run = split' run →
      (∀ part ∈ runsOf Android.lineBytes [] lines, split part = split' part) →
      flush split run ++ framesOf Android.lineBytes split [] lines =
        framesOf Backend.lineToBytes split' run (lines.filter fun line => !Backend.isNoise line) := by
  induction lines with
  | nil =>
    constructor
    · intro run _ same
      simp only [List.filter_nil, framesOf_nil, flush]
      split
      · rfl
      · rename_i some
        exact same run (by simp [runsOf, some])
    · intro run some _ same _
      simp [framesOf_nil, flush, some, same]
  | cons line rest ih =>
    obtain ⟨ihRun, ihNoise⟩ := ih alike.tail
    cases isNoise : Backend.isNoise line with
    | true =>
      have silent := alike.noise line List.mem_cons_self isNoise
      have notByte (byte : UInt8) : Android.lineBytes line ≠ some [byte] := by
        rw [silent]
        exact fun same => (by cases same)
      rw [List.filter_cons_of_neg (by simp [isNoise])]
      constructor
      · intro run unbroken same
        rw [framesOf_other run rest notByte, silent]
        rw [runsOf_other run rest notByte] at same
        have parts (part : Frame) (mem : part ∈ runsOf Android.lineBytes [] rest) :=
          same part (List.mem_append_right _ mem)
        by_cases none : run = []
        · subst none
          refine ihRun [] ?_ parts
          simpa [Elm.unbroken, isNoise, placeOf] using unbroken
        · refine ihNoise run none ?_ (same run (by simp [none])) parts
          simpa [Elm.unbroken, isNoise, placeOf, none] using unbroken
      · intro run some unbroken same parts
        rw [framesOf_other [] rest notByte, silent]
        rw [runsOf_other [] rest notByte] at parts
        refine ihNoise run some ?_ same parts
        simpa [Elm.unbroken, isNoise] using unbroken
    | false =>
      have reads := alike.bytes line List.mem_cons_self isNoise
      rw [List.filter_cons_of_pos (by simp [isNoise])]
      by_cases isByte : isByteLine line = true
      · obtain ⟨byte, parsed⟩ := isByteLine_iff.mp isByte
        constructor
        · intro run unbroken same
          rw [framesOf_byte run rest parsed, framesOf_byte run _ (reads ▸ parsed)]
          rw [runsOf_byte run rest parsed] at same
          refine ihRun (run ++ [byte]) ?_ same
          simp only [Elm.unbroken, isNoise, isByte, if_true, Bool.false_eq_true, if_false,
            Bool.and_eq_true] at unbroken
          simpa [placeOf] using unbroken.2
        · intro run some unbroken
          simp [Elm.unbroken, isNoise, isByte] at unbroken
      · have notByte (byte : UInt8) : Android.lineBytes line ≠ some [byte] :=
          fun parsed => isByte (isByteLine_iff.mpr ⟨byte, parsed⟩)
        have notByte' (byte : UInt8) : Backend.lineToBytes line ≠ some [byte] := by
          rw [← reads]
          exact notByte byte
        constructor
        · intro run unbroken same
          rw [framesOf_other run rest notByte, framesOf_other run _ notByte', reads]
          rw [runsOf_other run rest notByte] at same
          have flushed : flush split run = flush split' run := by
            unfold flush
            split
            · rfl
            · rename_i some
              exact same run (by simp [some])
          rw [flushed, ihRun [] ?_ fun part mem => same part (List.mem_append_right _ mem)]
          simpa [Elm.unbroken, isNoise, isByte, placeOf] using unbroken
        · intro run some unbroken same parts
          rw [framesOf_other [] rest notByte, framesOf_other run _ notByte', reads]
          rw [runsOf_other [] rest notByte] at parts
          have flushed : flush split run = flush split' run := by
            simp only [flush, if_neg some, same]
          rw [flushed, ihRun [] ?_ parts]
          · rfl
          · simpa [Elm.unbroken, isNoise, isByte, placeOf] using unbroken

end Frames

section Payloads

variable {frame : Frame} {index : ℕ} {source : ℤ}

theorem validFrame_eq (exactEnd : Option ℤ) :
    Backend.validFrame frame index true (some source) exactEnd =
      (Android.validIso frame index (some source) &&
        exactEnd.all fun stop => (frame.length : ℤ) = stop + 1) := by
  unfold Backend.validFrame Android.validIso
  by_cases third : index = 3
  · subst third
    match frame with
    | [] => rfl
    | [_] => rfl
    | [_, _] => rfl
    | first :: second :: third :: rest =>
      by_cases short : (first :: second :: third :: rest).length < 5
      · have few : ¬5 ≤ (first :: second :: third :: rest).length := by omega
        simp only [short, few, decide_true, decide_false, Bool.or_true, Bool.true_or, if_true,
          Bool.and_false, Bool.false_and]
      · have enough : 5 ≤ (first :: second :: third :: rest).length := by omega
        simp only [short, enough]
        cases checksum (first :: second :: third :: rest) with
        | false => simp
        | true =>
          by_cases header : first = 0x48 ∧ second = 0x6B
          · obtain ⟨rfl, rfl⟩ := header
            by_cases same : (third.toNat : ℤ) = source
            · simp [same]
            · simp [same]
          · have other : ¬[first, second] = [0x48, 0x6B] := by simpa using header
            rcases not_and_or.mp header with wrong | wrong
            · simp [wrong]
            · simp [wrong]
  · simp [third]

theorem validIso_spec (valid : Android.validIso frame index (some source) = true) :
    index = 3 ∧ 5 ≤ frame.length := by
  simp only [Android.validIso, Bool.and_eq_true, decide_eq_true_eq] at valid
  exact ⟨valid.1.1.1.1.1, valid.1.1.1.1.2⟩

theorem payloadIn_eq (first second : UInt8) {length : ℤ} (nonneg : 0 ≤ length)
    (frames : List Frame) :
    (Android.payloadIn first second length (some source) frames).map (Option.map Prod.snd) =
      .ok (Backend.payloadIn first second length true (some source) frames) := by
  induction frames with
  | nil => rfl
  | cons frame rest ih =>
    unfold Android.payloadIn Backend.payloadIn
    cases findPair frame first second with
    | none => exact ih
    | some index =>
      simp only [validFrame_eq, Option.all_some]
      by_cases valid : Android.validIso frame index (some source) = true
      · by_cases exact_ : (frame.length : ℤ) = (index : ℤ) + 2 + length + 1
        · have ordered : ¬(index : ℤ) + 2 + length < (index : ℤ) + 2 := by omega
          have positive : ¬(index : ℤ) + 2 + length < 0 := by omega
          simp [valid, exact_, ordered, Backend.sliceTo, positive, Except.map]
        · simpa [valid, exact_] using ih
      · simpa [valid] using ih

theorem byte?_eq {value : ℤ} (low : 0 ≤ value) (high : value < 256) :
    Backend.byte? value = some (UInt8.ofInt value) := by
  unfold Backend.byte?
  rw [if_pos ⟨low, high⟩]
  have small : value % 2 ^ 8 = value := Int.emod_eq_of_lt low high
  rw [UInt8.ofInt, small]

theorem modePayload_eq {mode : ℤ} (low : 0 ≤ mode + 0x40) (high : mode + 0x40 < 256)
    (frame : Frame) :
    Android.modePayload mode source frame =
      Backend.modePayload mode true (some source) frame := by
  unfold Android.modePayload Backend.modePayload
  rw [byte?_eq low high, Option.bind_some]
  cases frame.findIdx? (· = UInt8.ofInt (mode + 0x40)) with
  | none => rfl
  | some index =>
    simp only [validFrame_eq, Option.all_none, Bool.and_true]
    by_cases valid : Android.validIso frame index (some source) = true
    · obtain ⟨rfl, enough⟩ := validIso_spec valid
      have nonempty : frame.drop 4 ≠ [] := List.ne_nil_of_length_pos (by simp; omega)
      have same : slice frame 4 (frame.length - 1) = (frame.drop 4).dropLast := by
        rw [slice, List.drop_take, List.dropLast_eq_take, List.length_drop]
        congr 1
      by_cases more : 5 < frame.length
      · have some : (frame.drop 4).dropLast ≠ [] := List.ne_nil_of_length_pos (by simp; omega)
        simp [valid, nonempty, more, same, some]
      · have none : (frame.drop 4).dropLast = [] := List.eq_nil_of_length_eq_zero (by simp; omega)
        simp [valid, nonempty, more, none]
    · simp [valid]

theorem dtcs_eq (payloads : List Frame) : Android.dtcs payloads = Backend.decodeDtcs payloads := by
  unfold Android.dtcs Backend.decodeDtcs
  rw [List.foldl_flatMap]
  congr 1
  funext codes payload
  congr 1
  funext codes pair
  have zero : (pair.1.toNat = 0 ∧ pair.2.toNat = 0) = (pair.1 = pair.2 ∧ pair.2 = 0) := by
    refine propext ⟨fun ⟨first, second⟩ => ?_, fun ⟨same, second⟩ => ?_⟩
    · have isFirst : pair.1 = 0 := UInt8.toNat_inj.mp first
      have isSecond : pair.2 = 0 := UInt8.toNat_inj.mp second
      exact ⟨isFirst.trans isSecond.symm, isSecond⟩
    · rw [same, second]
      exact ⟨rfl, rfl⟩
  simp only [zero]

end Payloads

section Replies

/-- A reply of which both readers see the same frames: it has no NUL; digits behind a colon have
an index before it; no line that the backend passes over holds bytes or stands inside a run of
bytes; and no run ends in the first bytes of a header right behind a frame. -/
structure Unambiguous (response command : Text) : Prop where
  noNul : '\x00' ∉ response
  indexed : ∀ line ∈ Android.cleanedLines response command,
    Backend.isNoise line = false → WellIndexed line
  silent : ∀ line ∈ Android.cleanedLines response command,
    Backend.isNoise line = true → isPairs (Android.substringAfterColon line) = false
  unbroken : unbroken .outside (Android.cleanedLines response command) = true
  runs : ∀ run ∈ runsOf Android.lineBytes [] (Android.cleanedLines response command),
    ¬EndsAtHeader run

theorem frames_eq {response command : Text} (clear : Unambiguous response command) :
    Android.frames response command = Backend.responseFrames response command := by
  unfold Android.frames Backend.responseFrames
  rw [cleanedResponseLines_eq clear.noNul]
  have alike : ReadAlike (Android.cleanedLines response command) := by
    refine ⟨fun line mem isNoise => ?_, fun line mem notNoise => ?_⟩
    · rw [lineBytes_eq, clear.silent line mem isNoise]
      rfl
    · exact lineBytes_eq_lineToBytes (clear.indexed line mem notNoise)
  exact (framesOf_agree _ alike).1 [] clear.unbroken fun run mem => splitIso_eq (clear.runs run mem)

theorem readers_agree {response command : Text} {mode pid length : ℤ} (source : ℤ)
    (clear : Unambiguous response command) (modeByte : 0 ≤ mode + 0x40 ∧ mode + 0x40 < 256)
    (pidByte : 0 ≤ pid ∧ pid < 256) (nonneg : 0 ≤ length) :
    (Android.payload response command pid length (some source) mode).map (Option.map Prod.snd) =
      Backend.extractPidPayload response pid length mode command true (some source) ∧
    Android.modePayloads response command mode source =
      Backend.extractModePayloads response mode command true (some source) ∧
    ∀ payloads, Android.dtcs payloads = Backend.decodeDtcs payloads := by
  refine ⟨?_, ?_, dtcs_eq⟩
  · unfold Android.payload Backend.extractPidPayload
    rw [byte?_eq modeByte.1 modeByte.2, byte?_eq pidByte.1 pidByte.2, frames_eq clear]
    exact payloadIn_eq _ _ nonneg _
  · unfold Android.modePayloads Backend.extractModePayloads
    rw [frames_eq clear]
    refine List.filterMap_congr fun frame _ => ?_
    exact modePayload_eq modeByte.1 modeByte.2 frame

def speedReply : Text := "0: 48 6B 10 41 0D 3C 4D\r\r>".toList

theorem readers_agree_speed :
    (Android.payload speedReply "010D".toList 0x0D 1 (some 0x10) 1).map (Option.map Prod.snd) =
      Backend.extractPidPayload speedReply 0x0D 1 1 "010D".toList true (some 0x10) ∧
    Android.modePayloads speedReply "010D".toList 1 0x10 =
      Backend.extractModePayloads speedReply 1 "010D".toList true (some 0x10) ∧
    ∀ payloads, Android.dtcs payloads = Backend.decodeDtcs payloads := by
  have lines : Android.cleanedLines speedReply "010D".toList =
      ["0: 48 6B 10 41 0D 3C 4D".toList] := by decide +kernel
  refine readers_agree 0x10 ⟨by decide +kernel, ?_, ?_, ?_, ?_⟩ (by decide) (by decide) (by decide)
  · rw [lines]
    intro line mem _
    rw [List.mem_singleton.mp mem]
    exact fun _ => ⟨fun _ => by decide +kernel, fun _ _ => by decide +kernel⟩
  · rw [lines]
    intro line mem isNoise
    have notNoise : Backend.isNoise "0: 48 6B 10 41 0D 3C 4D".toList = false := by decide +kernel
    rw [List.mem_singleton.mp mem, notNoise] at isNoise
    cases isNoise
  · rw [lines]
    decide +kernel
  · rw [lines]
    intro run mem
    have none : runsOf Android.lineBytes [] ["0: 48 6B 10 41 0D 3C 4D".toList] = [] := by
      decide +kernel
    rw [none] at mem
    cases mem

-- The speed a byte in a line, with a line `OK` behind the header
def brokenReply : Text := "48\r6B\r10\rOK\r41\r0D\r3C\r4D\r\r>".toList

theorem readers_differ_broken :
    (Android.payload brokenReply "010D".toList 0x0D 1 (some 0x10) 1).map (Option.map Prod.snd) ≠
      Backend.extractPidPayload brokenReply 0x0D 1 1 "010D".toList true (some 0x10) := by
  have logger : (Android.payload brokenReply "010D".toList 0x0D 1 (some 0x10) 1).toOption =
      some none := by decide +kernel
  have backend : (Backend.extractPidPayload brokenReply 0x0D 1 1 "010D".toList true
      (some 0x10)).toOption = some (some [0x3C]) := by decide +kernel
  intro same
  rw [← same] at backend
  cases returned : Android.payload brokenReply "010D".toList 0x0D 1 (some 0x10) 1 with
  | error message =>
    rw [returned] at logger
    cases logger
  | ok value =>
    rw [returned] at logger backend
    cases Option.some.inj logger
    cases backend

end Replies

end DashcamStats.Elm
