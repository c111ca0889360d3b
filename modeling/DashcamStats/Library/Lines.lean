import DashcamStats.Library.Strings

/-!
# Lines and words

The lines of a text without carriage returns, and its words, as Python's `str` splits them.
-/

namespace DashcamStats.Strings

def isLineBreak (c : Char) : Bool :=
  (10 ≤ c.toNat && c.toNat ≤ 12) || (28 ≤ c.toNat && c.toNat ≤ 30) || c.toNat = 0x85 ||
    c.toNat = 0x2028 || c.toNat = 0x2029

def splitlines (text : List Char) : List (List Char) :=
  let lines := text.splitOnP isLineBreak
  if lines.getLast? = some [] then lines.dropLast else lines

-- `str.split` without a separator
def words (text : List Char) : List (List Char) :=
  (text.splitOnP isSpace).filter fun word => !word.isEmpty

def unlines (lines : List (List Char)) : List Char := lines.flatMap (· ++ ['\n'])

@[simp]
theorem unlines_nil : unlines [] = [] := rfl

@[simp]
theorem unlines_cons (line : List Char) (rest : List (List Char)) :
    unlines (line :: rest) = line ++ '\n' :: unlines rest := by
  simp [unlines]

theorem unlines_append (first second : List (List Char)) :
    unlines (first ++ second) = unlines first ++ unlines second := by
  simp [unlines]

theorem splitOnP_unlines {lines : List (List Char)}
    (plain : ∀ line ∈ lines, ∀ c ∈ line, isLineBreak c = false) :
    (unlines lines).splitOnP isLineBreak = lines ++ [[]] := by
  induction lines with
  | nil => simp
  | cons line rest ih =>
    have here := plain line (by simp)
    have later := ih fun other among => plain other (by simp [among])
    rw [unlines_cons, List.splitOnP_append_cons_of_forall_mem here '\n' (by decide), later]
    rfl

theorem splitlines_unlines {lines : List (List Char)}
    (plain : ∀ line ∈ lines, ∀ c ∈ line, isLineBreak c = false) :
    splitlines (unlines lines) = lines := by
  simp [splitlines, splitOnP_unlines plain]

theorem words_cons {word text : List Char} (nonempty : word ≠ [])
    (plain : ∀ c ∈ word, isSpace c = false) : words (word ++ ' ' :: text) = word :: words text := by
  simp [words, List.splitOnP_append_cons_of_forall_mem plain ' ' (by decide), nonempty]

theorem words_single {word : List Char} (nonempty : word ≠ [])
    (plain : ∀ c ∈ word, isSpace c = false) : words word = [word] := by
  simp [words, List.splitOnP_eq_singleton plain, nonempty]

end DashcamStats.Strings
