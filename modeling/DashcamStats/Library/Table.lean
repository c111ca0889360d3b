import Mathlib.Data.List.Lemmas
import Mathlib.Data.List.Nodup

/-!
# Tables with a primary key

Rows in table order, the key of each row unique. Rows change in place and keep their key.
-/

namespace DashcamStats

universe u v w

variable {α : Type u} {κ : Type v} {γ : Type w}

structure Table (α : Type u) {κ : Type v} (key : α → κ) where
  rows : List α
  distinct : (rows.map key).Nodup

namespace Table

variable {key : α → κ}

def Mem (t : Table α key) (a : α) : Prop := a ∈ t.rows

instance : Membership α (Table α key) := ⟨Mem⟩

theorem mem_rows {t : Table α key} {a : α} : a ∈ t ↔ a ∈ t.rows := Iff.rfl

instance [DecidableEq α] (t : Table α key) (a : α) : Decidable (a ∈ t) :=
  inferInstanceAs (Decidable (a ∈ t.rows))

def empty : Table α key := ⟨[], by simp⟩

@[simp] theorem not_mem_empty (a : α) : a ∉ (empty : Table α key) := List.not_mem_nil

theorem eq_of_key {t : Table α key} {a b : α} (ha : a ∈ t) (hb : b ∈ t)
    (same : key a = key b) : a = b :=
  List.inj_on_of_nodup_map t.distinct ha hb same

def find? [DecidableEq κ] (t : Table α key) (k : κ) : Option α :=
  t.rows.find? (fun a => key a = k)

theorem find?_mem [DecidableEq κ] {t : Table α key} {k : κ} {a : α} (found : t.find? k = some a) :
    a ∈ t ∧ key a = k :=
  ⟨List.mem_of_find?_eq_some found, by simpa using List.find?_some found⟩

theorem find?_self [DecidableEq κ] {t : Table α key} {a : α} (member : a ∈ t) :
    t.find? (key a) = some a := by
  cases found : t.find? (key a) with
  | none =>
    have absent := List.find?_eq_none.mp found a member
    simp at absent
  | some b =>
    obtain ⟨memberB, same⟩ := find?_mem found
    rw [eq_of_key memberB member same]

theorem find?_eq_none [DecidableEq κ] {t : Table α key} {k : κ} :
    t.find? k = none ↔ ∀ a ∈ t, key a ≠ k := by
  simp only [find?, List.find?_eq_none, decide_eq_true_eq]
  rfl

-- Change every row that satisfies `p`.
def update (t : Table α key) (p : α → Bool) (f : α → α) (keeps : ∀ a, key (f a) = key a) :
    Table α key where
  rows := t.rows.map fun a => if p a then f a else a
  distinct := by
    have same : (key ∘ fun a => if p a then f a else a) = key := by
      funext a
      by_cases h : p a <;> simp [h, keeps]
    rw [List.map_map, same]
    exact t.distinct

theorem mem_update {t : Table α key} {p : α → Bool} {f : α → α}
    {keeps : ∀ a, key (f a) = key a} {b : α} :
    b ∈ t.update p f keeps ↔ ∃ a ∈ t, (if p a then f a else a) = b :=
  List.mem_map

theorem mem_update_of_mem {t : Table α key} {p : α → Bool} {f : α → α}
    (keeps : ∀ a, key (f a) = key a) {a : α} (member : a ∈ t) :
    (if p a then f a else a) ∈ t.update p f keeps :=
  mem_update.mpr ⟨a, member, rfl⟩

theorem of_mem_update {t : Table α key} {p : α → Bool} {f : α → α}
    (keeps : ∀ a, key (f a) = key a) {b : α} (member : b ∈ t.update p f keeps) :
    ∃ a ∈ t, (if p a then f a else a) = b :=
  mem_update.mp member

theorem key_update {p : α → Bool} {f : α → α} (keeps : ∀ a, key (f a) = key a) (a : α) :
    key (if p a then f a else a) = key a := by
  by_cases h : p a <;> simp [h, keeps]

theorem find?_update [DecidableEq κ] (t : Table α key) (p : α → Bool) (f : α → α)
    (keeps : ∀ a, key (f a) = key a) (k : κ) :
    (t.update p f keeps).find? k = (t.find? k).map fun a => if p a then f a else a := by
  have same : ((fun a => decide (key a = k)) ∘ fun a => if p a then f a else a) =
      fun a => decide (key a = k) := by
    funext a
    simp [key_update keeps]
  simp only [find?, update, List.find?_map, same]

def insert (t : Table α key) (a : α) (fresh : ∀ b ∈ t, key b ≠ key a) : Table α key where
  rows := t.rows ++ [a]
  distinct := by
    rw [List.map_append, List.nodup_append]
    refine ⟨t.distinct, by simp, ?_⟩
    intro k hk k' hk'
    obtain ⟨b, member, rfl⟩ := List.mem_map.mp hk
    obtain rfl : k' = key a := by simpa using hk'
    exact fresh b member

theorem mem_insert {t : Table α key} {a b : α} {fresh : ∀ b ∈ t, key b ≠ key a} :
    b ∈ t.insert a fresh ↔ b ∈ t ∨ b = a := by
  simp [mem_rows, insert]

theorem mem_insert_of_mem {t : Table α key} {a b : α} (fresh : ∀ b ∈ t, key b ≠ key a)
    (member : b ∈ t) : b ∈ t.insert a fresh :=
  mem_insert.mpr (.inl member)

theorem mem_insert_self {t : Table α key} {a : α} (fresh : ∀ b ∈ t, key b ≠ key a) :
    a ∈ t.insert a fresh :=
  mem_insert.mpr (.inr rfl)

theorem of_mem_insert {t : Table α key} {a b : α} (fresh : ∀ b ∈ t, key b ≠ key a)
    (member : b ∈ t.insert a fresh) : b ∈ t ∨ b = a :=
  mem_insert.mp member

def erase [DecidableEq κ] (t : Table α key) (k : κ) : Table α key where
  rows := t.rows.filter fun a => key a ≠ k
  distinct := t.distinct.sublist (List.filter_sublist.map _)

theorem mem_erase [DecidableEq κ] {t : Table α key} {k : κ} {a : α} :
    a ∈ t.erase k ↔ a ∈ t ∧ key a ≠ k := by
  simp [mem_rows, erase]

-- Keep the rows that satisfy `p`.
def filter (t : Table α key) (p : α → Bool) : Table α key where
  rows := t.rows.filter p
  distinct := t.distinct.sublist (List.filter_sublist.map _)

theorem mem_filter {t : Table α key} {p : α → Bool} {a : α} : a ∈ t.filter p ↔ a ∈ t ∧ p a :=
  List.mem_filter

def put [DecidableEq κ] (t : Table α key) (a : α) : Table α key :=
  (t.erase (key a)).insert a fun _ member => (mem_erase.mp member).2

theorem mem_put [DecidableEq κ] {t : Table α key} {a b : α} :
    b ∈ t.put a ↔ (b ∈ t ∧ key b ≠ key a) ∨ b = a := by
  rw [put, mem_insert, mem_erase]

def nextKey {key : α → Nat} (t : Table α key) : Nat := (t.rows.map key).foldr max 0 + 1

theorem key_lt_nextKey {key : α → Nat} {t : Table α key} {a : α} (member : a ∈ t) :
    key a < t.nextKey := by
  have bound (ks : List Nat) (k : Nat) (hk : k ∈ ks) : k ≤ ks.foldr max 0 := by
    induction ks with
    | nil => simp at hk
    | cons x xs ih =>
      rcases List.mem_cons.mp hk with rfl | hk
      · exact le_max_left _ _
      · exact le_trans (ih hk) (le_max_right _ _)
  exact Nat.lt_succ_of_le (bound _ _ (List.mem_map.mpr ⟨a, member, rfl⟩))

-- Each row of `u` comes from the row of `t` with its key by `R`, or has a key `t` does not use.
def Evolves (R : α → α → Prop) (Fresh : α → Prop) (t u : Table α key) : Prop :=
  ∀ b ∈ u, (∃ a ∈ t, key a = key b ∧ R a b) ∨ (∀ a ∈ t, key a ≠ key b) ∧ Fresh b

section Evolves

variable {R S : α → α → Prop} {Fresh : α → Prop} {t u : Table α key}

theorem Evolves.refl (t : Table α key) (same : ∀ a, R a a) : Evolves R Fresh t t :=
  fun b member => .inl ⟨b, member, rfl, same b⟩

theorem Evolves.mono (evolves : Evolves R Fresh t u) (weaker : ∀ a b, R a b → S a b) :
    Evolves S Fresh t u := by
  intro b member
  rcases evolves b member with ⟨a, memberA, same, change⟩ | fresh
  · exact .inl ⟨a, memberA, same, weaker a b change⟩
  · exact .inr fresh

theorem Evolves.update {p : α → Bool} {f : α → α} (keeps : ∀ a, key (f a) = key a)
    (changed : ∀ a ∈ t, p a = true → R a (f a)) (same : ∀ a ∈ t, ¬ p a = true → R a a) :
    Evolves R Fresh t (t.update p f keeps) := by
  intro b member
  obtain ⟨a, memberA, rfl⟩ := mem_update.mp member
  refine .inl ⟨a, memberA, (key_update keeps a).symm, ?_⟩
  by_cases hit : p a
  · simpa [hit] using changed a memberA hit
  · simpa [hit] using same a memberA hit

theorem Evolves.trans_eq {v : Table α key} (first : Evolves R Fresh t u)
    (stays : ∀ a ∈ t, ∃ b ∈ u, key b = key a) (second : Evolves Eq Fresh u v) :
    Evolves R Fresh t v := by
  intro c member
  rcases second c member with ⟨b, memberB, _, rfl⟩ | ⟨absent, fresh⟩
  · exact first b memberB
  · refine .inr ⟨?_, fresh⟩
    intro a memberA same
    obtain ⟨b, memberB, sameB⟩ := stays a memberA
    exact absent b memberB (sameB.trans same)

theorem Evolves.update_row [DecidableEq κ] (evolves : Evolves R Fresh t u) {a : α} (before : a ∈ t)
    (current : a ∈ u) (f : α → α) (keeps : ∀ b, key (f b) = key b) (change : R a (f a)) :
    Evolves R Fresh t (u.update (fun b => key b = key a) f keeps) := by
  intro c member
  obtain ⟨b, memberB, rfl⟩ := mem_update.mp member
  by_cases hit : key b = key a
  · obtain rfl : b = a := eq_of_key memberB current hit
    exact .inl ⟨b, before, by simp [keeps], by simpa using change⟩
  · simpa [hit] using evolves b memberB

end Evolves

-- At most one row of each group satisfies `P`; rows of no group are not limited.
def Exclusive (t : Table α key) (P : α → Prop) (group : α → Option γ) : Prop :=
  ∀ a ∈ t, ∀ b ∈ t, P a → P b → ∀ g, group a = some g → group b = some g → a = b

variable {P : α → Prop} {group : α → Option γ}

theorem exclusive_empty : (empty : Table α key).Exclusive P group := by
  intro a member
  exact absurd member (not_mem_empty a)

-- A row that comes to satisfy `P` must find its group free of other such rows.
theorem Exclusive.update {t : Table α key} {p : α → Bool} {f : α → α}
    (keeps : ∀ a, key (f a) = key a) (held : t.Exclusive P group)
    (stays : ∀ a, group (f a) = group a)
    (free : ∀ a ∈ t, p a = true → P (f a) → ¬ P a → ∀ g, group a = some g →
      ∀ b ∈ t, group b = some g → P (if p b then f b else b) → b = a) :
    (t.update p f keeps).Exclusive P group := by
  have groups (a : α) : group (if p a then f a else a) = group a := by
    by_cases h : p a <;> simp [h, stays]
  intro a' ha' b' hb' pa pb g ga gb
  obtain ⟨a, ha, rfl⟩ := mem_update.mp ha'
  obtain ⟨b, hb, rfl⟩ := mem_update.mp hb'
  rw [groups] at ga gb
  have gained (c : α) (pc : P (if p c then f c else c)) (not : ¬ P c) :
      p c = true ∧ P (f c) := by
    by_cases h : p c
    · exact ⟨h, by simpa [h] using pc⟩
    · exact absurd (by simpa [h] using pc) not
  by_cases oldA : P a
  · by_cases oldB : P b
    · rw [held a ha b hb oldA oldB g ga gb]
    · obtain ⟨h, new⟩ := gained b pb oldB
      rw [free b hb h new oldB g gb a ha ga pa]
  · obtain ⟨h, new⟩ := gained a pa oldA
    rw [free a ha h new oldA g ga b hb gb pb]

theorem Exclusive.insert {t : Table α key} {a : α} (fresh : ∀ b ∈ t, key b ≠ key a)
    (held : t.Exclusive P group)
    (free : P a → ∀ g, group a = some g → ∀ b ∈ t, group b = some g → ¬ P b) :
    (t.insert a fresh).Exclusive P group := by
  intro b hb c hc pb pc g gb gc
  rcases mem_insert.mp hb with oldB | rfl <;> rcases mem_insert.mp hc with oldC | rfl
  · exact held b oldB c oldC pb pc g gb gc
  · exact absurd pb (free pc g gc b oldB gb)
  · exact absurd pc (free pb g gb c oldC gc)
  · rfl

end Table

end DashcamStats
