import Mathlib.Data.List.TakeDrop

/-!
# Regular expressions with groups

Patterns as Python's `re` tries them: the matches of a pattern at a place come in the order in which
a backtracking search would find them, and the first one counts. Repetition is of single characters.
-/

namespace DashcamStats.Regex

universe u

variable {G : Type u}

-- `before` is what lies to the left, the nearest first.
structure Cursor (G : Type u) where
  before : List Char
  rest : List Char
  groups : List (G × List Char)

inductive Pattern (G : Type u) where
  | nothing
  | then_ (first second : Pattern G)
  | greedy (p : Char → Bool) (lo : ℕ) (hi : Option ℕ)
  | lazy (p : Char → Bool) (lo : ℕ) (hi : Option ℕ)
  | optional (inner : Pattern G)
  | group (name : G) (inner : Pattern G)
  | notAfter (p : Char → Bool)
  | notBefore (p : Char → Bool)

def Cursor.advance (cursor : Cursor G) (n : ℕ) : Cursor G :=
  { cursor with
    before := (cursor.rest.take n).reverse ++ cursor.before
    rest := cursor.rest.drop n }

def Cursor.most (cursor : Cursor G) (p : Char → Bool) (hi : Option ℕ) : ℕ :=
  match hi with
  | none => (cursor.rest.takeWhile p).length
  | some hi => min hi (cursor.rest.takeWhile p).length

-- What was read since `start`
def Cursor.since (cursor start : Cursor G) : List Char :=
  (cursor.before.take (cursor.before.length - start.before.length)).reverse

def Pattern.run : Pattern G → Cursor G → List (Cursor G)
  | .nothing, cursor => [cursor]
  | .then_ first second, cursor => (first.run cursor).flatMap second.run
  | .greedy p lo hi, cursor =>
    ((List.range' lo (cursor.most p hi + 1 - lo)).reverse).map cursor.advance
  | .lazy p lo hi, cursor => (List.range' lo (cursor.most p hi + 1 - lo)).map cursor.advance
  | .optional inner, cursor => inner.run cursor ++ [cursor]
  | .group name inner, cursor =>
    (inner.run cursor).map fun end_ =>
      { end_ with groups := end_.groups ++ [(name, end_.since cursor)] }
  | .notAfter p, cursor => if cursor.before.head?.any p then [] else [cursor]
  | .notBefore p, cursor => if cursor.rest.head?.any p then [] else [cursor]

def seq : List (Pattern G) → Pattern G
  | [] => .nothing
  | pattern :: rest => .then_ pattern (seq rest)

-- `pattern.match`: here, and what the first match ends at
def Pattern.match_ (pattern : Pattern G) (cursor : Cursor G) : Option (Cursor G) :=
  (pattern.run cursor).head?

-- `pattern.search` tries each place in turn.
def searchFrom (pattern : Pattern G) : List Char → List Char → Option (Cursor G)
  | before, [] => pattern.match_ { before, rest := [], groups := [] }
  | before, c :: rest =>
    (pattern.match_ { before, rest := c :: rest, groups := [] }).or
      (searchFrom pattern (c :: before) rest)

def Pattern.search (pattern : Pattern G) (text : List Char) (from_ : ℕ) : Option (Cursor G) :=
  searchFrom pattern (text.take from_).reverse (text.drop from_)

def Cursor.group? [DecidableEq G] (cursor : Cursor G) (name : G) : Option (List Char) :=
  cursor.groups.lookup name

attribute [local simp] Pattern.run

def First (pattern : Pattern G) (start end_ : Cursor G) : Prop :=
  (pattern.run start).head? = some end_

theorem First.then_ {first second : Pattern G} {a b c : Cursor G} (one : First first a b)
    (two : First second b c) : First (.then_ first second) a c := by
  obtain ⟨others, eq⟩ := List.head?_eq_some_iff.mp one
  obtain ⟨more, eq'⟩ := List.head?_eq_some_iff.mp two
  rw [First, Pattern.run, eq, List.flatMap_cons, eq']
  rfl

theorem First.optional {inner : Pattern G} {a b : Cursor G} (h : First inner a b) :
    First (.optional inner) a b := by
  obtain ⟨others, eq⟩ := List.head?_eq_some_iff.mp h
  rw [First, Pattern.run, eq]
  rfl

theorem First.group {inner : Pattern G} {a b : Cursor G} (name : G) (h : First inner a b) :
    First (.group name inner) a { b with groups := b.groups ++ [(name, b.since a)] } := by
  obtain ⟨others, eq⟩ := List.head?_eq_some_iff.mp h
  rw [First, Pattern.run, eq]
  rfl

theorem First.notAfter {p : Char → Bool} {a : Cursor G} (h : a.before.head?.any p = false) :
    First (.notAfter p) a a := by
  simp [First, Pattern.run, h]

theorem First.notBefore {p : Char → Bool} {a : Cursor G} (h : a.rest.head?.any p = false) :
    First (.notBefore p) a a := by
  simp [First, Pattern.run, h]

def Cursor.after (cursor : Cursor G) (part rest : List Char) : Cursor G :=
  { cursor with before := part.reverse ++ cursor.before, rest }

theorem First.greedy {p : Char → Bool} {lo : ℕ} {hi : Option ℕ} {a : Cursor G}
    {part rest : List Char} (text : a.rest = part ++ rest) (all : ∀ c ∈ part, p c = true)
    (low : lo ≤ part.length) (high : ∀ n ∈ hi, part.length ≤ n)
    (stop : hi = some part.length ∨ rest.head?.any p = false) :
    First (.greedy p lo hi) a (a.after part rest) := by
  have whole : a.rest.takeWhile p = part ++ rest.takeWhile p := by
    rw [text, List.takeWhile_append_of_pos all]
  have most : a.most p hi = part.length := by
    obtain rfl | other := stop
    · simp [Cursor.most, whole]
    · have none : rest.takeWhile p = [] := by
        cases rest with
        | nil => rfl
        | cons c rest => exact List.takeWhile_cons_of_neg (by simpa using other)
      rw [none, List.append_nil] at whole
      unfold Cursor.most
      split
      · rw [whole]
      · rename_i n
        rw [whole, Nat.min_eq_right (high n rfl)]
  have here : a.advance part.length = a.after part rest := by
    rw [Cursor.advance, text, List.take_left, List.drop_left]
    rfl
  have count : part.length + 1 - lo = (part.length - lo) + 1 := by omega
  have last : lo + (part.length - lo) = part.length := by omega
  rw [First, Pattern.run, most, count, List.range'_1_concat, last, List.reverse_append,
    List.map_append]
  simp [here]

theorem First.seq {pattern : Pattern G} {rest : List (Pattern G)} {a b c : Cursor G}
    (one : First pattern a b) (two : First (seq rest) b c) :
    First (Regex.seq (pattern :: rest)) a c := one.then_ two

theorem First.done (a : Cursor G) : First (Regex.seq []) a a := rfl

theorem searchFrom_of_first {pattern : Pattern G} {before rest : List Char} {end_ : Cursor G}
    (h : First pattern { before, rest, groups := [] } end_) :
    searchFrom pattern before rest = some end_ := by
  unfold searchFrom
  split <;> simp_all [Pattern.match_, First]

theorem search_of_first {pattern : Pattern G} {text before rest : List Char} {end_ : Cursor G}
    (split : text = before ++ rest)
    (h : First pattern { before := before.reverse, rest, groups := [] } end_) :
    pattern.search text before.length = some end_ := by
  rw [Pattern.search, split, List.take_left, List.drop_left]
  exact searchFrom_of_first h

theorem search_of_second {pattern : Pattern G} {text before rest : List Char} {c : Char}
    {end_ : Cursor G} (split : text = before ++ c :: rest)
    (here : pattern.run { before := before.reverse, rest := c :: rest, groups := [] } = [])
    (h : First pattern { before := c :: before.reverse, rest, groups := [] } end_) :
    pattern.search text before.length = some end_ := by
  rw [Pattern.search, split, List.take_left, List.drop_left, searchFrom, Pattern.match_, here]
  exact searchFrom_of_first h

end DashcamStats.Regex
