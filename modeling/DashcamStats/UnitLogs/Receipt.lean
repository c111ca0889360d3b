import Mathlib.Algebra.Ring.Nat
import Mathlib.Data.List.Infix
import DashcamStats.Library.Lines

namespace DashcamStats.UnitLogs

open Strings

abbrev Text := List Char

def maxManagedTags : ℕ := 64
def maxLevelReceiptBytes : ℕ := 16384
def levelHeader : Text := "dashcam_unit_log_levels_v1".toList
def presentWord : Text := "present".toList
def absentWord : Text := "absent".toList
def levelReadComplete : Text := "__DASHCAM_UNIT_LOG_LEVELS_READ_V1__".toList

def unset : Text := ['-']

/-- `_ManagedLevel` under its tag -/
structure Record where
  tag : Text
  original : Text
  previous : Text
  target : Text
  deriving DecidableEq

def isTagChar (c : Char) : Bool := c.isAlphanum || c = '_' || c = '@' || c = '-'

-- `_SAFE_TAG.fullmatch`
def safeTag (tag : Text) : Bool :=
  tag.head?.any isTagChar && tag.getLast?.any isTagChar && decide (tag.length ≤ 56) &&
    tag.all (fun c => isTagChar c || c = '.') && !decide (['.', '.'] <:+: tag)

def isLevelChar (c : Char) : Bool := c.isAlphanum || c = '_'

-- `_SAFE_LEVEL.fullmatch`
def safeLevel (level : Text) : Bool :=
  !level.isEmpty && decide (level.length ≤ 32) && level.all isLevelChar

def isNumber (digits : Text) : Bool := !digits.isEmpty && digits.all Char.isDigit

def isDigest (digest : Text) : Bool :=
  digest.length = 64 && digest.all fun c => c.isDigit || ('a' ≤ c && c ≤ 'f')

abbrev Digest := { digest : Text // isDigest digest = true }

def bytes (text : Text) : ℕ := (text.map Char.utf8Size).sum

structure File where
  device : UInt64
  inode : UInt64
  uid : UInt64
  text : Text

def number (n : ℕ) : Text := Nat.toDigits 10 n

-- `stat -c '%d:%i:%u:%a:%h:%s'`
def File.identity (file : File) : Text :=
  [':'].intercalate [number file.device.toNat, number file.inode.toNat, number file.uid.toNat,
    "600".toList, "1".toList, number (bytes file.text)]

def File.token (sha256 : Text → Digest) (file : File) : Text :=
  file.identity ++ ' ' :: (sha256 file.text).val

-- `_level_receipt_read_command`
def levelReceiptRead (sha256 : Text → Digest) : Option File → Option Text
  | none => some (unlines [absentWord, levelReadComplete])
  | some file =>
    if 0 < bytes file.text ∧ bytes file.text ≤ maxLevelReceiptBytes then
      some (presentWord ++ ' ' :: file.token sha256 ++ '\n' :: file.text ++
        unlines [levelReadComplete])
    else none

-- What `_parse_level_receipt` takes from one line
def parseRecord (line : Text) : Option Record :=
  match line.splitOn ' ' with
  | [tag, original, previous, target] =>
    if safeTag tag ∧ ∀ value ∈ [original, previous, target], value = unset ∨ safeLevel value then
      some ⟨tag, original, previous, target⟩
    else none
  | _ => none

def parseRecords (records : List Record) : List Text → Option (List Record)
  | [] => some records
  | line :: rest =>
    match parseRecord line with
    | none => none
    | some record =>
      if (records.map Record.tag).contains record.tag then none
      else
        let records := records ++ [record]
        if records.length > maxManagedTags then none else parseRecords records rest

-- The checks on the metadata against the body; `int` reads 4300 digits at most.
def checked (sha256 : Text → Digest) (identity digest body : Text) : Bool :=
  match identity.splitOn ':' with
  | [device, inode, uid, mode, links, size] =>
    [device, inode, uid, mode, links, size].all isNumber && isDigest digest &&
      decide (mode = "600".toList) && decide (links = "1".toList) && decide (size.length ≤ 4300) &&
      decide (0 < Nat.ofDigitChars 10 size 0) &&
      decide (Nat.ofDigitChars 10 size 0 ≤ maxLevelReceiptBytes) &&
      body.all (·.toNat < 128) && decide (body.length = Nat.ofDigitChars 10 size 0) &&
      decide ((sha256 body).val = digest)
  | _ => false

-- `_parse_level_receipt`: the token and the records
def parseLevelReceipt (sha256 : Text → Digest) (raw : Text) :
    Option (Option Text × List Record) :=
  let lines := splitlines raw
  if bytes raw > maxLevelReceiptBytes + 512 then none
  else if lines.getLast? ≠ some levelReadComplete then none
  else if lines = [absentWord, levelReadComplete] then some (none, [])
  else
    match lines with
    | metadata :: header :: rest =>
      if rest.isEmpty ∨ header ≠ levelHeader then none
      else
        match words metadata with
        | [present, identity, digest] =>
          if present = presentWord ∧
              checked sha256 identity digest (unlines (header :: rest.dropLast)) then
            (parseRecords [] rest.dropLast).map (some (identity ++ ' ' :: digest), ·)
          else none
        | _ => none
    | _ => none

def Record.line (record : Record) : Text :=
  [' '].intercalate [record.tag, record.original, record.previous, record.target]

def receiptText (records : List Record) : Text :=
  unlines (levelHeader :: records.map Record.line)

/-- What `_parse_level_receipt` asks of a record -/
structure Record.Fit (record : Record) : Prop where
  tag : safeTag record.tag = true
  original : record.original = unset ∨ safeLevel record.original = true
  previous : record.previous = unset ∨ safeLevel record.previous = true
  target : record.target = unset ∨ safeLevel record.target = true

structure Fit (records : List Record) : Prop where
  each : ∀ record ∈ records, record.Fit
  apart : (records.map Record.tag).Nodup
  few : records.length ≤ maxManagedTags

def Graphic (text : Text) : Prop := ∀ c ∈ text, 33 ≤ c.toNat ∧ c.toNat < 127

theorem graphic_of_isAlphanum {c : Char} (h : c.isAlphanum = true) :
    33 ≤ c.toNat ∧ c.toNat < 127 := by
  delta Char.isAlphanum Char.isAlpha Char.isUpper Char.isLower Char.isDigit at h
  simp only [Bool.or_eq_true, Bool.and_eq_true, decide_eq_true_eq, UInt32.le_iff_toNat_le,
    ge_iff_le] at h
  have same : c.toNat = c.val.toNat := rfl
  simp at h
  omega

theorem graphic_of_isTagChar {c : Char} (h : isTagChar c = true) :
    33 ≤ c.toNat ∧ c.toNat < 127 := by
  simp only [isTagChar, Bool.or_eq_true, decide_eq_true_eq] at h
  obtain ((h | rfl) | rfl) | rfl := h
  · exact graphic_of_isAlphanum h
  all_goals decide

theorem graphic_of_safeTag {tag : Text} (safe : safeTag tag = true) : Graphic tag := by
  simp only [safeTag, Bool.and_eq_true] at safe
  intro c among
  have allowed := List.all_eq_true.mp safe.1.2 c among
  simp only [Bool.or_eq_true, decide_eq_true_eq] at allowed
  obtain allowed | rfl := allowed
  · exact graphic_of_isTagChar allowed
  · decide

theorem graphic_of_level {level : Text} (fit : level = unset ∨ safeLevel level = true) :
    Graphic level := by
  obtain rfl | safe := fit
  · simp [Graphic, unset]
  · simp only [safeLevel, Bool.and_eq_true] at safe
    intro c among
    have allowed := List.all_eq_true.mp safe.2 c among
    simp only [isLevelChar, Bool.or_eq_true, decide_eq_true_eq] at allowed
    obtain allowed | rfl := allowed
    · exact graphic_of_isAlphanum allowed
    · decide

theorem graphic_number (n : ℕ) : Graphic (number n) := fun c among =>
  graphic_of_isAlphanum (by
    simp [Char.isAlphanum, Nat.isDigit_of_mem_toDigits (by decide) (by decide) among])

theorem Graphic.not_space {text : Text} (graphic : Graphic text) :
    ∀ c ∈ text, isSpace c = false := by
  intro c among
  obtain ⟨low, high⟩ := graphic c among
  simp only [isSpace, Bool.or_eq_false_iff, Bool.and_eq_false_iff, decide_eq_false_iff_not]
  omega

theorem Graphic.not_mem_space {text : Text} (graphic : Graphic text) : ' ' ∉ text := fun among => by
  simpa using graphic _ among

theorem length_le_of_level {level : Text} (fit : level = unset ∨ safeLevel level = true) :
    level.length ≤ 32 := by
  obtain rfl | safe := fit
  · decide
  · simp only [safeLevel, Bool.and_eq_true, decide_eq_true_eq] at safe
    exact safe.1.2

def isPlain (c : Char) : Bool := decide (c.toNat < 128) && !isLineBreak c

theorem plain_of_all {text : Text} (all : text.all isPlain = true) :
    ∀ c ∈ text, c.toNat < 128 ∧ isLineBreak c = false := by
  intro c among
  simpa [isPlain] using List.all_eq_true.mp all c among

theorem bytes_of_ascii {text : Text} (ascii : ∀ c ∈ text, c.toNat < 128) :
    bytes text = text.length := by
  induction text with
  | nil => rfl
  | cons c rest ih =>
    have later := ih fun other among => ascii other (by simp [among])
    have small : c.utf8Size = 1 := by
      have bound : c.val.toNat < 128 := ascii c (by simp)
      have low : c.val ≤ 0x7f := UInt32.le_iff_toNat_le.mpr (Nat.le_of_lt_succ bound)
      simp [Char.utf8Size, low]
    simp only [bytes, List.map_cons, List.sum_cons, small, List.length_cons] at later ⊢
    omega

variable {record : Record} {records : List Record}

theorem Record.Fit.parts (fit : record.Fit) :
    ∀ part ∈ [record.tag, record.original, record.previous, record.target], Graphic part := by
  intro part among
  simp only [List.mem_cons, List.not_mem_nil, or_false] at among
  obtain rfl | rfl | rfl | rfl := among
  · exact graphic_of_safeTag fit.tag
  · exact graphic_of_level fit.original
  · exact graphic_of_level fit.previous
  · exact graphic_of_level fit.target

theorem Record.line_eq (record : Record) : record.line = record.tag ++ ' ' ::
    (record.original ++ ' ' :: (record.previous ++ ' ' :: record.target)) := by
  simp [Record.line, List.intercalate, List.intersperse]

theorem parseRecord_line (fit : record.Fit) : parseRecord record.line = some record := by
  have split : record.line.splitOn ' ' =
      [record.tag, record.original, record.previous, record.target] :=
    List.splitOn_intercalate ' ' (fun part among => (fit.parts part among).not_mem_space) (by simp)
  simp [parseRecord, split, fit.tag, fit.original, fit.previous, fit.target]

theorem parseRecords_lines (before : List Record) (fit : Fit (before ++ records)) :
    parseRecords before (records.map Record.line) = some (before ++ records) := by
  induction records generalizing before with
  | nil => simp [parseRecords]
  | cons record rest ih =>
    have here : parseRecord record.line = some record :=
      parseRecord_line (fit.each record (by simp))
    have new : (before.map Record.tag).contains record.tag = false := by
      have apart := fit.apart
      rw [List.map_append, List.nodup_append] at apart
      refine Bool.eq_false_iff.mpr fun listed => ?_
      exact apart.2.2 _ (List.contains_iff_mem.mp listed) _ (by simp) rfl
    have few : (before ++ [record]).length ≤ maxManagedTags := by
      have few := fit.few
      simp only [List.length_append, List.length_cons, List.length_nil] at few ⊢
      omega
    have later := ih (before ++ [record]) (by simpa using fit)
    simp only [List.map_cons, parseRecords, here, new, Bool.false_eq_true, if_false,
      if_neg (Nat.not_lt.mpr few), later]
    simp

theorem Record.Fit.line_ascii (fit : record.Fit) :
    ∀ c ∈ record.line, c.toNat < 128 ∧ isLineBreak c = false := by
  intro c among
  have allowed : c = ' ' ∨ (33 ≤ c.toNat ∧ c.toNat < 127) := by
    rw [record.line_eq] at among
    have parts := fit.parts
    simp only [List.mem_append, List.mem_cons] at among
    obtain h | h | h | h | h | h | h := among
    · exact .inr (parts _ (by simp) c h)
    · exact .inl h
    · exact .inr (parts _ (by simp) c h)
    · exact .inl h
    · exact .inr (parts _ (by simp) c h)
    · exact .inl h
    · exact .inr (parts _ (by simp) c h)
  obtain rfl | allowed := allowed
  · decide
  · refine ⟨by omega, ?_⟩
    simp only [isLineBreak, Bool.or_eq_false_iff, Bool.and_eq_false_iff, decide_eq_false_iff_not]
    omega

theorem Record.Fit.line_length (fit : record.Fit) : record.line.length ≤ 155 := by
  have tag : record.tag.length ≤ 56 := by
    have safe := fit.tag
    simp only [safeTag, Bool.and_eq_true, decide_eq_true_eq] at safe
    exact safe.1.1.2
  have original := length_le_of_level fit.original
  have previous := length_le_of_level fit.previous
  have target := length_le_of_level fit.target
  simp only [record.line_eq, List.length_append, List.length_cons]
  omega

theorem unlines_length_le {lines : List Text} {bound : ℕ}
    (short : ∀ line ∈ lines, line.length ≤ bound) :
    (unlines lines).length ≤ lines.length * (bound + 1) := by
  induction lines with
  | nil => simp
  | cons line rest ih =>
    have here := short line (by simp)
    have later := ih fun other among => short other (by simp [among])
    simp only [unlines_cons, List.length_append, List.length_cons, Nat.add_mul, Nat.one_mul]
    omega

theorem Fit.receiptText_ascii (fit : Fit records) : ∀ c ∈ receiptText records, c.toNat < 128 := by
  intro c among
  simp only [receiptText, unlines, List.mem_flatMap, List.mem_cons, List.mem_append,
    List.mem_map] at among
  obtain ⟨line, rfl | ⟨record, listed, rfl⟩, among | rfl | h⟩ := among
  · exact (plain_of_all (by decide) c among).1
  · decide
  · cases h
  · exact ((fit.each record listed).line_ascii c among).1
  · decide
  · cases h

theorem Fit.receiptText_bytes (fit : Fit records) :
    bytes (receiptText records) = (receiptText records).length ∧
      0 < bytes (receiptText records) ∧ bytes (receiptText records) ≤ 10011 := by
  have same := bytes_of_ascii fit.receiptText_ascii
  have lines : (unlines (records.map Record.line)).length ≤ records.length * 156 := by
    have short : ∀ line ∈ records.map Record.line, line.length ≤ 155 := by
      intro line among
      obtain ⟨record, listed, rfl⟩ := List.mem_map.mp among
      exact (fit.each record listed).line_length
    simpa using unlines_length_le short
  have few : records.length ≤ 64 := fit.few
  have total : (receiptText records).length =
      26 + ((unlines (records.map Record.line)).length + 1) := by
    simp [receiptText, show levelHeader.length = 26 by decide]
  refine ⟨same, ?_⟩
  rw [same]
  omega

theorem number_length {n : ℕ} (small : n < 2 ^ 64) : (number n).length ≤ 20 :=
  (Nat.length_toDigits_le_iff (by decide) (by decide)).mpr (by omega)

theorem isNumber_number (n : ℕ) : isNumber (number n) = true := by
  simp only [isNumber, Bool.and_eq_true, List.all_eq_true]
  exact ⟨by simp [number], fun c among =>
    Nat.isDigit_of_mem_toDigits (by decide) (by decide) among⟩

def File.fields (file : File) : List Text :=
  [number file.device.toNat, number file.inode.toNat, number file.uid.toNat, "600".toList,
    "1".toList, number (bytes file.text)]

theorem File.fields_number (file : File) : ∀ field ∈ file.fields, isNumber field = true := by
  intro field among
  simp only [File.fields, List.mem_cons, List.not_mem_nil, or_false] at among
  obtain rfl | rfl | rfl | rfl | rfl | rfl := among
  any_goals exact isNumber_number _
  all_goals decide

theorem File.identity_split (file : File) : file.identity.splitOn ':' = file.fields := by
  refine List.splitOn_intercalate ':' (fun field among => ?_) (by simp)
  have digits := file.fields_number field among
  simp only [isNumber, Bool.and_eq_true] at digits
  intro colon
  simpa using List.all_eq_true.mp digits.2 _ colon

theorem File.identity_eq (file : File) : file.identity = number file.device.toNat ++ ':' ::
    (number file.inode.toNat ++ ':' :: (number file.uid.toNat ++ ':' :: ("600".toList ++ ':' ::
      ("1".toList ++ ':' :: number (bytes file.text))))) := by
  simp [File.identity, List.intercalate, List.intersperse]

theorem File.identity_graphic (file : File) : Graphic file.identity := by
  intro c among
  rw [file.identity_eq] at among
  simp only [List.mem_append, List.mem_cons] at among
  obtain h | rfl | h | rfl | h | rfl | h | rfl | h | rfl | h := among
  any_goals exact graphic_number _ c h
  any_goals decide
  · have digits : "600".toList.all Char.isAlphanum = true := by decide
    exact graphic_of_isAlphanum (List.all_eq_true.mp digits c h)
  · have digits : "1".toList.all Char.isAlphanum = true := by decide
    exact graphic_of_isAlphanum (List.all_eq_true.mp digits c h)

theorem digest_graphic (digest : Digest) : Graphic digest.val := by
  have fit := digest.property
  simp only [isDigest, Bool.and_eq_true] at fit
  intro c among
  have allowed := List.all_eq_true.mp fit.2 c among
  simp only [Bool.or_eq_true, Bool.and_eq_true, decide_eq_true_eq] at allowed
  obtain digit | ⟨low, high⟩ := allowed
  · exact graphic_of_isAlphanum (by simp [Char.isAlphanum, digit])
  · have low : 97 ≤ c.toNat := low
    have high : c.toNat ≤ 102 := high
    omega

theorem checked_receipt (sha256 : Text → Digest) {file : File} (fit : Fit records)
    (text : file.text = receiptText records) :
    checked sha256 file.identity (sha256 file.text).val (receiptText records) = true := by
  obtain ⟨same, positive, small⟩ := fit.receiptText_bytes
  have numbers : file.fields.all isNumber = true := List.all_eq_true.mpr file.fields_number
  have size : Nat.ofDigitChars 10 (number (bytes (receiptText records))) 0 =
      (receiptText records).length := by
    rw [same]
    exact Nat.ofDigitChars_toDigits (by decide) (by decide)
  have short : (number (bytes (receiptText records))).length ≤ 4300 :=
    (number_length (by omega)).trans (by decide)
  have ascii : ((receiptText records).all fun c => decide (c.toNat < 128)) = true :=
    List.all_eq_true.mpr fun c among => by simpa using fit.receiptText_ascii c among
  have limit : (receiptText records).length ≤ maxLevelReceiptBytes := by
    rw [← same]
    exact small.trans (by decide)
  have nonempty : 0 < (receiptText records).length := by omega
  have digest := (sha256 (receiptText records)).property
  simp only [checked, file.identity_split, File.fields, text] at numbers ⊢
  simp only [numbers, digest, size, ascii, short, limit, nonempty, decide_true, Bool.and_self]

def File.metadata (sha256 : Text → Digest) (file : File) : Text :=
  presentWord ++ ' ' :: file.token sha256

theorem File.words_metadata (sha256 : Text → Digest) (file : File) :
    words (file.metadata sha256) = [presentWord, file.identity, (sha256 file.text).val] := by
  have nonempty : presentWord ≠ [] := by decide
  have present : ∀ c ∈ presentWord, isSpace c = false := by
    have all : (presentWord.all fun c => !isSpace c) = true := by decide
    intro c among
    simpa using List.all_eq_true.mp all c among
  have identity : file.identity ≠ [] := by simp [file.identity_eq, number]
  have digest : (sha256 file.text).val ≠ [] := by
    intro empty
    have fit := (sha256 file.text).property
    rw [empty] at fit
    cases fit
  have first : words (file.metadata sha256) = presentWord :: words (file.token sha256) :=
    words_cons nonempty present
  have second : words (file.token sha256) = file.identity :: words (sha256 file.text).val :=
    words_cons identity file.identity_graphic.not_space
  have third : words (sha256 file.text).val = [(sha256 file.text).val] :=
    words_single digest (digest_graphic _).not_space
  exact first.trans (congrArg _ (second.trans (congrArg _ third)))

theorem Fit.lines_plain (fit : Fit records) (sha256 : Text → Digest) (file : File) :
    ∀ line ∈ file.metadata sha256 :: levelHeader :: records.map Record.line ++ [levelReadComplete],
      ∀ c ∈ line, c.toNat < 128 ∧ isLineBreak c = false := by
  have graphic : ∀ c : Char, 33 ≤ c.toNat ∧ c.toNat < 127 →
      c.toNat < 128 ∧ isLineBreak c = false := by
    intro c bounds
    refine ⟨by omega, ?_⟩
    simp only [isLineBreak, Bool.or_eq_false_iff, Bool.and_eq_false_iff, decide_eq_false_iff_not]
    omega
  intro line among c here
  simp only [List.cons_append, List.mem_cons, List.mem_append, List.mem_map, List.not_mem_nil,
    or_false] at among
  obtain rfl | rfl | ⟨record, listed, rfl⟩ | rfl := among
  · simp only [File.metadata, File.token, List.mem_append, List.mem_cons] at here
    obtain h | rfl | h | rfl | h := here
    · exact plain_of_all (by decide) c h
    · decide
    · exact graphic c (file.identity_graphic c h)
    · decide
    · exact graphic c (digest_graphic _ c h)
  · exact plain_of_all (by decide) c here
  · exact (fit.each record listed).line_ascii c here
  · exact plain_of_all (by decide) c here

theorem File.metadata_length (sha256 : Text → Digest) {file : File}
    (small : bytes file.text < 2 ^ 64) : (file.metadata sha256).length ≤ 162 := by
  have digest : (sha256 file.text).val.length = 64 := by
    have fit := (sha256 file.text).property
    simp only [isDigest, Bool.and_eq_true, decide_eq_true_eq] at fit
    exact fit.1
  have device := number_length file.device.toNat_lt
  have inode := number_length file.inode.toNat_lt
  have uid := number_length file.uid.toNat_lt
  have size := number_length small
  simp only [File.metadata, File.token, file.identity_eq, List.length_append, List.length_cons,
    digest, show presentWord.length = 7 by decide, show "600".toList.length = 3 by decide,
    show "1".toList.length = 1 by decide]
  omega

theorem parse_read (sha256 : Text → Digest) {file : File} (fit : Fit records)
    (text : file.text = receiptText records) : ∃ raw,
      levelReceiptRead sha256 (some file) = some raw ∧
      parseLevelReceipt sha256 raw = some (some (file.token sha256), records) := by
  obtain ⟨same, positive, small⟩ := fit.receiptText_bytes
  have plain := fit.lines_plain sha256 file
  refine ⟨unlines (file.metadata sha256 :: levelHeader :: records.map Record.line ++
    [levelReadComplete]), ?_, ?_⟩
  · have limit : 0 < bytes file.text ∧ bytes file.text ≤ maxLevelReceiptBytes :=
      text ▸ ⟨positive, small.trans (by decide)⟩
    rw [levelReceiptRead, if_pos limit, text]
    simp [receiptText, File.metadata, unlines_append]
  · have lines := splitlines_unlines fun line among c here => (plain line among c here).2
    have ascii : ∀ c ∈ unlines (file.metadata sha256 :: levelHeader :: records.map Record.line ++
        [levelReadComplete]), c.toNat < 128 := by
      intro c among
      simp only [unlines, List.mem_flatMap] at among
      obtain ⟨line, listed, here⟩ := among
      obtain here | here := List.mem_append.mp here
      · exact (plain line listed c here).1
      · rw [List.mem_singleton.mp here]
        decide
    have short : bytes (unlines (file.metadata sha256 :: levelHeader :: records.map Record.line ++
        [levelReadComplete])) ≤ maxLevelReceiptBytes + 512 := by
      have metadata := file.metadata_length sha256 (by rw [text]; omega)
      have body : (levelHeader ++ '\n' :: unlines (records.map Record.line)).length ≤ 10011 := by
        rw [← unlines_cons, ← receiptText, ← same]
        exact small
      have limit : maxLevelReceiptBytes + 512 = 16896 := rfl
      rw [bytes_of_ascii ascii]
      simp only [unlines_append, unlines_cons, unlines_nil, List.length_append, List.length_cons,
        List.length_nil, show levelReadComplete.length = 35 by decide] at body ⊢
      omega
    have read : parseRecords [] (records.map Record.line) = some records := by
      simpa using parseRecords_lines [] (by simpa using fit)
    have passed : checked sha256 file.identity (sha256 file.text).val
        (unlines (levelHeader :: records.map Record.line)) = true := by
      exact checked_receipt sha256 fit text
    unfold parseLevelReceipt
    rw [lines]
    dsimp only
    rw [if_neg (Nat.not_lt.mpr short), if_neg (by rw [List.getLast?_concat]; simp)]
    simp only [List.cons_append, List.cons.injEq, List.append_eq_nil_iff, List.cons_ne_nil,
      and_false, if_false, List.dropLast_concat, file.words_metadata sha256, passed, read, true_and,
      if_true, Option.map_some, File.token]
    rw [if_neg (by simp)]

end DashcamStats.UnitLogs
