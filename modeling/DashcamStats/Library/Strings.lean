import Mathlib.Data.List.DropRight

/-!
# Strings

Strings as lists of characters, as the methods of Python's `str` see them.
-/

namespace DashcamStats.Strings

-- The characters that `str.strip` takes away
def isSpace (c : Char) : Bool :=
  (9 ≤ c.toNat && c.toNat ≤ 13) || (28 ≤ c.toNat && c.toNat ≤ 32) || c.toNat = 0x85 ||
    c.toNat = 0xa0 || c.toNat = 0x1680 || (0x2000 ≤ c.toNat && c.toNat ≤ 0x200a) ||
    c.toNat = 0x2028 || c.toNat = 0x2029 || c.toNat = 0x202f || c.toNat = 0x205f ||
    c.toNat = 0x3000

def strip (text : List Char) : List Char := (text.dropWhile isSpace).rdropWhile isSpace

def lower (text : List Char) : List Char := text.map Char.toLower

variable {text : List Char}

theorem strip_strip (text : List Char) : strip (strip text) = strip text := by
  have inner : (strip text).dropWhile isSpace = strip text := by
    refine List.dropWhile_eq_self_iff.mpr fun nonempty => ?_
    have part : strip text <+: text.dropWhile isSpace := List.rdropWhile_prefix isSpace _
    have longer := lt_of_lt_of_le nonempty part.length_le
    have first : (strip text)[0] = (text.dropWhile isSpace)[0] := part.getElem nonempty
    rw [first]
    exact List.dropWhile_eq_self_iff.mp (List.dropWhile_idempotent isSpace text) longer
  have outer : (strip text).rdropWhile isSpace = strip text :=
    List.rdropWhile_idempotent isSpace _
  calc strip (strip text) = ((strip text).dropWhile isSpace).rdropWhile isSpace := rfl
    _ = strip text := by rw [inner, outer]

theorem strip_of_plain (plain : ∀ c ∈ text, isSpace c = false) : strip text = text := by
  have front : text.dropWhile isSpace = text :=
    List.dropWhile_eq_self_iff.mpr fun nonempty =>
      by simp [plain _ (List.getElem_mem nonempty)]
  rw [strip, front]
  exact List.rdropWhile_eq_self_iff.mpr fun nonempty => by
    simp [plain _ (List.getLast_mem nonempty)]

end DashcamStats.Strings
