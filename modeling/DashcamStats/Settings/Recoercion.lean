import DashcamStats.Settings.Coercion

namespace DashcamStats.Settings

open Strings (isSpace strip strip_strip strip_of_plain)

section Numbers

def Representable (q : ℚ) : Prop := floatOf q = .finite q

theorem floatOf_finite {q x : ℚ} (isFinite : floatOf q = .finite x) :
    x = Binary64.round q ∧ |Binary64.round q| < 2 ^ 1024 := by
  unfold floatOf at isFinite
  dsimp only at isFinite
  split at isFinite
  · cases isFinite
  · next small =>
    cases isFinite
    exact ⟨rfl, not_le.mp small⟩

theorem representable_of {q : ℚ} (fixed : Binary64.round q = q) (small : |q| < 2 ^ 1024) :
    Representable q := by
  unfold Representable floatOf
  rw [fixed]
  exact if_neg (not_le.mpr small)

theorem Representable.fixed {q : ℚ} (isThere : Representable q) : Binary64.round q = q :=
  (floatOf_finite isThere).1.symm

theorem Representable.small {q : ℚ} (isThere : Representable q) : |q| < 2 ^ 1024 :=
  isThere.fixed ▸ (floatOf_finite isThere).2

theorem representable_floatOf {q x : ℚ} (isFinite : floatOf q = .finite x) : Representable x := by
  obtain ⟨rfl, small⟩ := floatOf_finite isFinite
  exact representable_of (Binary64.round_round q) small

theorem trunc_intCast (n : ℤ) : trunc n = n := by
  unfold trunc
  split <;> simp

theorem abs_trunc_le (q : ℚ) : |(trunc q : ℚ)| ≤ |q| := by
  unfold trunc
  split
  · next negative =>
    have low : q ≤ ⌈q⌉ := Int.le_ceil q
    have high : (⌈q⌉ : ℚ) ≤ 0 := by exact_mod_cast Int.ceil_le.mpr (by simpa using negative.le)
    rw [abs_of_nonpos high, abs_of_neg negative]
    exact neg_le_neg low
  · next negative =>
    have nonneg : 0 ≤ q := not_lt.mp negative
    have low : (0 : ℚ) ≤ ⌊q⌋ := by exact_mod_cast Int.floor_nonneg.mpr nonneg
    rw [abs_of_nonneg low, abs_of_nonneg nonneg]
    exact Int.floor_le q

theorem Representable.trunc {q : ℚ} (isThere : Representable q) :
    Representable (trunc q : ℤ) := by
  have small := lt_of_le_of_lt (abs_trunc_le q) isThere.small
  refine representable_of ?_ small
  by_cases fine : Binary64.lastPlace q ≤ 0
  · have narrow : |(Settings.trunc q : ℚ)| < 2 ^ 53 :=
      lt_of_le_of_lt (abs_trunc_le q) (Binary64.abs_lt_of_fine fine)
    exact Binary64.round_intCast (by exact_mod_cast narrow)
  · obtain ⟨n, rfl⟩ := Binary64.eq_intCast_of_coarse isThere.fixed (not_le.mp fine)
    rw [trunc_intCast]
    exact isThere.fixed

end Numbers

section Bounds

variable {defn : SettingDef} {q : ℚ}

def SettingDef.Bounded (defn : SettingDef) (bound : ℚ) : Prop :=
  Representable bound ∧ (defn.type = .int ∨ defn.type = .bytes → (trunc bound : ℚ) = bound)

structure SettingDef.WellFormed (defn : SettingDef) : Prop where
  minimum : ∀ least ∈ defn.minimum, defn.Bounded least
  maximum : ∀ most ∈ defn.maximum, defn.Bounded most
  ordered : ∀ least ∈ defn.minimum, ∀ most ∈ defn.maximum, least ≤ most
  fixed : ∀ value ∈ FIXED_SETTING_VALUES defn.key, defn.type = .bool

structure SettingDef.Within (defn : SettingDef) (q : ℚ) : Prop where
  least : ∀ least ∈ defn.minimum, least ≤ q
  most : ∀ most ∈ defn.maximum, q ≤ most

theorem clamp_of_within (within : defn.Within q) : clamp defn q = q := by
  have upper : clamp.most defn q = q := by
    unfold clamp.most
    split
    · next most isMost => exact if_neg (not_lt.mpr (within.most most isMost))
    · rfl
  unfold clamp
  split
  · next least isLeast => exact (if_neg (not_lt.mpr (within.least least isLeast))).trans upper
  · exact upper

theorem clamp_spec (wellFormed : defn.WellFormed) (q : ℚ) :
    defn.Within (clamp defn q) ∧ (Representable q → Representable (clamp defn q)) := by
  have upper : (∀ least ∈ defn.minimum, least ≤ q) → defn.Within (clamp.most defn q) ∧
      (Representable q → Representable (clamp.most defn q)) := by
    intro low
    unfold clamp.most
    split
    · next most isMost =>
      have bounded := (wellFormed.maximum most isMost).1
      split
      · rw [bounded.fixed]
        exact ⟨⟨fun least isLeast => wellFormed.ordered least isLeast most isMost,
          fun other isOther => (Option.mem_unique isMost isOther).le⟩, fun _ => bounded⟩
      · next high =>
        exact ⟨⟨low, fun other isOther => Option.mem_unique isMost isOther ▸ not_lt.mp high⟩, id⟩
    · next none => exact ⟨⟨low, fun other isOther => by simp [none] at isOther⟩, id⟩
  unfold clamp
  split
  · next least isLeast =>
    have bounded := (wellFormed.minimum least isLeast).1
    split
    · rw [bounded.fixed]
      exact ⟨⟨fun other isOther => (Option.mem_unique isLeast isOther).ge,
        fun most isMost => wellFormed.ordered least isLeast most isMost⟩, fun _ => bounded⟩
    · next low =>
      exact upper fun other isOther => Option.mem_unique isLeast isOther ▸ not_lt.mp low
  · next none => exact upper fun other isOther => by simp [none] at isOther

theorem trunc_mono {p q : ℚ} (le : p ≤ q) : trunc p ≤ trunc q := by
  unfold trunc
  split_ifs with negative negative'
  · exact Int.ceil_le_ceil le
  · have ceil : ⌈p⌉ ≤ 0 := Int.ceil_le.mpr (by simpa using negative.le)
    have floor : 0 ≤ ⌊q⌋ := Int.floor_nonneg.mpr (not_lt.mp negative')
    omega
  · exact absurd (lt_of_le_of_lt le ‹q < 0›) negative
  · exact Int.floor_le_floor le

theorem SettingDef.Within.trunc (wellFormed : defn.WellFormed)
    (integral : defn.type = .int ∨ defn.type = .bytes) (within : defn.Within q) :
    defn.Within (trunc q : ℤ) where
  least least isLeast := by
    have whole := (wellFormed.minimum least isLeast).2 integral
    have le := trunc_mono (within.least least isLeast)
    rw [← whole]
    exact_mod_cast le
  most most isMost := by
    have whole := (wellFormed.maximum most isMost).2 integral
    have le := trunc_mono (within.most most isMost)
    rw [← whole]
    exact_mod_cast le

end Bounds

section Texts

variable {text : Text}

theorem trimSeparators_again (value : Text) :
    trimSeparators (trimSeparators value) = trimSeparators value := by
  have cut := List.rdropWhile_idempotent isSeparator value
  by_cases keeps : decide (value.rdropWhile isSeparator = []) ||
      decide ((value.rdropWhile isSeparator).getLast? = some ':')
  · have whole : trimSeparators value = value := if_pos keeps
    rw [whole, whole]
  · have part : trimSeparators value = value.rdropWhile isSeparator := if_neg keeps
    rw [part]
    unfold trimSeparators
    rw [cut]
    exact if_neg keeps

theorem trimSeparators_prefix (value : Text) : trimSeparators value <+: value := by
  unfold trimSeparators
  dsimp only
  split
  · exact List.prefix_refl value
  · exact List.rdropWhile_prefix isSeparator _

theorem intText_plain (n : ℤ) : ∀ c ∈ (toString n).toList, c.isDigit ∨ c = '-' := by
  have digits : ∀ k : ℕ, ∀ c ∈ k.repr.toList, c.isDigit := fun k c mem => by
    rw [Nat.toList_repr] at mem
    exact Nat.isDigit_of_mem_toDigits (by decide) (by decide) mem
  intro c mem
  rw [Int.toString_eq_repr, Int.repr_eq_if] at mem
  split at mem
  · exact .inl (digits _ c mem)
  · rw [String.toList_append] at mem
    rcases List.mem_append.mp mem with minus | digit
    · exact .inr (by simpa using minus)
    · exact .inl (digits _ c digit)

theorem digit_plain {c : Char} (isPlain : c.isDigit ∨ c = '-') :
    isSpace c = false ∧ c ≠ '\x00' := by
  rcases isPlain with digit | rfl
  · have range : 48 ≤ c.toNat ∧ c.toNat ≤ 57 := by
      simp only [Char.isDigit, ge_iff_le, Bool.and_eq_true, decide_eq_true_eq,
        UInt32.le_iff_toNat_le] at digit
      exact digit
    have outside : c.toNat < 0x85 ∧ 32 < c.toNat := by omega
    refine ⟨?_, ?_⟩
    · unfold isSpace
      simp only [Bool.or_eq_false_iff, Bool.and_eq_false_iff, decide_eq_false_iff_not]
      omega
    · rintro rfl
      exact absurd range.1 (by decide)
  · decide

end Texts

section Again

variable {host : Host} {defn : SettingDef} {raw value : Raw}

theorem bind_ok {α β : Type} {x : Except Refusal α} {next : α → Except Refusal β} {result : β}
    (ends : x >>= next = .ok result) : ∃ a, x = .ok a ∧ next a = .ok result := by
  cases x with
  | error _ => cases ends
  | ok a => exact ⟨a, rfl, ends⟩

theorem coerceBool_again (coerced : coerceBool defn raw = .ok value) :
    coerceBool defn value = .ok value := by
  have isBool : ∃ b, value = .bool b := by
    unfold coerceBool at coerced
    cases raw with
    | bool b => exact ⟨b, (Except.ok.inj coerced).symm⟩
    | int n =>
      dsimp only at coerced
      split at coerced
      · exact ⟨_, (Except.ok.inj coerced).symm⟩
      · cases coerced
    | float x =>
      cases x with
      | finite q =>
        dsimp only at coerced
        split at coerced
        · exact ⟨_, (Except.ok.inj coerced).symm⟩
        · cases coerced
      | infinite _ => cases coerced
      | nan => cases coerced
    | str text =>
      dsimp only at coerced
      split at coerced
      · exact ⟨true, (Except.ok.inj coerced).symm⟩
      · split at coerced
        · exact ⟨false, (Except.ok.inj coerced).symm⟩
        · cases coerced
    | null => cases coerced
    | compound => cases coerced
  obtain ⟨b, rfl⟩ := isBool
  rfl

theorem coerceInt_clamped (wellFormed : defn.WellFormed)
    (integral : defn.type = .int ∨ defn.type = .bytes) {q : ℚ} (isThere : Representable q) :
    coerceInt defn (.int (trunc (clamp defn q))) = .ok (.int (trunc (clamp defn q))) := by
  obtain ⟨within, representable⟩ := clamp_spec wellFormed q
  have converted : floatOfInt (trunc (clamp defn q)) = .ok (trunc (clamp defn q) : ℚ) := by
    unfold floatOfInt
    rw [(representable isThere).trunc]
  have kept : clamp defn (trunc (clamp defn q) : ℤ) = (trunc (clamp defn q) : ℤ) :=
    clamp_of_within (within.trunc wellFormed integral)
  calc coerceInt defn (.int (trunc (clamp defn q)))
      = floatOfInt (trunc (clamp defn q)) >>= fun value =>
          pure (.int (trunc (clamp defn value))) := rfl
    _ = .ok (.int (trunc (clamp defn q))) := by
      rw [converted]
      change Except.ok _ = _
      rw [kept, trunc_intCast]

theorem floatOfInt_representable {n : ℤ} {q : ℚ} (converted : floatOfInt n = .ok q) :
    Representable q := by
  unfold floatOfInt at converted
  split at converted
  · next isFinite =>
    cases converted
    exact representable_floatOf isFinite
  · cases converted

theorem coerceInt_ok (coerced : coerceInt defn raw = .ok value) :
    ∃ q, Representable q ∧ value = .int (trunc (clamp defn q)) := by
  unfold coerceInt at coerced
  obtain ⟨n, _, coerced⟩ := bind_ok coerced
  obtain ⟨q, converted, coerced⟩ := bind_ok coerced
  cases coerced
  exact ⟨q, floatOfInt_representable converted, rfl⟩

theorem coerceInt_again (wellFormed : defn.WellFormed)
    (integral : defn.type = .int ∨ defn.type = .bytes)
    (coerced : coerceInt defn raw = .ok value) : coerceInt defn value = .ok value := by
  obtain ⟨q, isThere, rfl⟩ := coerceInt_ok coerced
  exact coerceInt_clamped wellFormed integral isThere

theorem coerceBytes_ok (coerced : coerceBytes defn raw = .ok value) :
    ∃ q, Representable q ∧ value = .int (trunc (clamp defn q)) := by
  unfold coerceBytes at coerced
  split at coerced
  · split at coerced
    · cases coerced
    · split at coerced
      · split at coerced
        · next isFinite =>
          cases coerced
          exact ⟨_, representable_floatOf isFinite, rfl⟩
        · cases coerced
      · cases coerced
  · exact coerceInt_ok coerced

theorem coerceBytes_again (wellFormed : defn.WellFormed) (isBytes : defn.type = .bytes)
    (coerced : coerceBytes defn raw = .ok value) : coerceBytes defn value = .ok value := by
  obtain ⟨q, isThere, rfl⟩ := coerceBytes_ok coerced
  exact coerceInt_clamped wellFormed (.inr isBytes) isThere

theorem coerceFloat_again (wellFormed : defn.WellFormed)
    (coerced : coerceFloat defn raw = .ok value) : coerceFloat defn value = .ok value := by
  unfold coerceFloat at coerced
  obtain ⟨x, _, coerced⟩ := bind_ok coerced
  cases x with
  | finite q =>
    cases coerced
    have kept := clamp_of_within (clamp_spec wellFormed q).1
    exact congrArg (fun q => Except.ok (Raw.float (.finite q))) kept
  | infinite _ => cases coerced
  | nan => cases coerced

theorem strOf_again {text : Text} (isText : strOf host raw = some text) :
    strip text = text := by
  cases raw with
  | str given =>
    cases isText
    exact strip_strip given
  | int n =>
    cases isText
    exact strip_of_plain fun c mem => (digit_plain (intText_plain n c mem)).1
  | float x =>
    cases isText
    exact (host.floatText_plain x).1
  | null => cases isText
  | bool _ => cases isText
  | compound => cases isText

theorem coerceText_ok {text : Text} (coerced : coerceText host defn raw = .ok text) :
    strOf host raw = some text ∧ '\x00' ∉ text := by
  unfold coerceText at coerced
  split at coerced
  · cases coerced
  · next isText =>
    split at coerced
    · cases coerced
    · next clean =>
      cases coerced
      exact ⟨isText, clean⟩

theorem coerceText_of_plain {text : Text} (stripped : strip text = text) (clean : '\x00' ∉ text) :
    coerceText host defn (.str text) = .ok text := by
  have same : strOf host (.str text) = some text := congrArg some stripped
  unfold coerceText
  rw [same]
  exact if_neg clean

theorem coerceText_again {text : Text} (coerced : coerceText host defn raw = .ok text) :
    coerceText host defn (.str text) = .ok text :=
  coerceText_of_plain (strOf_again (coerceText_ok coerced).1) (coerceText_ok coerced).2

theorem coerceStr_again (coerced : coerceStr host defn raw = .ok value) :
    coerceStr host defn value = .ok value := by
  unfold coerceStr at coerced
  cases isText : coerceText host defn raw with
  | error _ =>
    rw [isText] at coerced
    cases coerced
  | ok text =>
    rw [isText] at coerced
    cases coerced
    unfold coerceStr
    rw [coerceText_again isText]
    rfl

theorem coerceSelect_again (coerced : coerceSelect host defn raw = .ok value) :
    coerceSelect host defn value = .ok value := by
  unfold coerceSelect at coerced
  obtain ⟨text, isText, coerced⟩ := bind_ok coerced
  split at coerced
  · next allowed =>
    cases coerced
    unfold coerceSelect
    rw [coerceText_again isText]
    exact if_pos allowed
  · cases coerced

def storedPath (host : Host) (raw : Raw) : Option Text :=
  (strOf host raw).map fun text => trimSeparators (expanduser host text)

/-- A path with no white space at its ends and no `~` to expand -/
structure Lasts (host : Host) (path : Text) : Prop where
  stripped : strip path = path
  absolute : isAbsolutePath path = true
  expanded : expanduser host path = path

theorem expanduser_clean {text : Text} (clean : '\x00' ∉ text) : '\x00' ∉ expanduser host text := by
  unfold expanduser
  split
  · next rest =>
    split
    · exact clean
    · next home isHome =>
      have front : '\x00' ∉ home.rdropWhile (· = '/') := fun mem =>
        host.home_plain _ home isHome ((List.rdropWhile_prefix _ _).subset mem)
      have back : '\x00' ∉ rest.dropWhile (· ≠ '/') := fun mem =>
        clean (List.mem_cons_of_mem _ ((List.dropWhile_suffix _).subset mem))
      dsimp only
      split
      · decide
      · exact fun mem => (List.mem_append.mp mem).elim front back
  · exact clean

theorem coercePath_again (lasts : ∀ path ∈ storedPath host raw, Lasts host path)
    (coerced : coercePath host defn raw = .ok value) :
    coercePath host defn value = .ok value := by
  unfold coercePath at coerced
  obtain ⟨text, isText, coerced⟩ := bind_ok coerced
  dsimp only at coerced
  split at coerced
  · cases coerced
  · next nonempty =>
    split at coerced
    · cases coerced
    · obtain ⟨contained, isContained, coerced⟩ := bind_ok coerced
      cases coerced
      obtain ⟨isStr, clean⟩ := coerceText_ok isText
      have last := lasts (trimSeparators (expanduser host text)) (by simp [storedPath, isStr])
      have part := trimSeparators_prefix (expanduser host text)
      have cleaned : '\x00' ∉ trimSeparators (expanduser host text) :=
        fun mem => expanduser_clean clean (part.subset mem)
      have present : trimSeparators (expanduser host text) ≠ [] := fun empty => by
        have absolute := last.absolute
        rw [empty] at absolute
        cases absolute
      unfold coercePath
      rw [coerceText_of_plain last.stripped cleaned]
      change (if expanduser host _ = [] then _ else _) = _
      rw [last.expanded, if_neg present, last.absolute]
      change (requireContainment host defn (trimSeparators (trimSeparators _)) >>= _) = _
      rw [trimSeparators_again, isContained]
      rfl

def Tidy (host : Host) (defn : SettingDef) (raw : Raw) : Prop :=
  defn.type = .path → ∀ path ∈ storedPath host raw, Lasts host path

theorem coercer_again (wellFormed : defn.WellFormed) (tidy : Tidy host defn raw)
    (coerced : coercer host defn defn.type raw = .ok value) :
    coercer host defn defn.type value = .ok value := by
  generalize isType : defn.type = type at coerced ⊢
  cases type with
  | bool => exact coerceBool_again coerced
  | int => exact coerceInt_again wellFormed (.inl isType) coerced
  | float => exact coerceFloat_again wellFormed coerced
  | string => exact coerceStr_again coerced
  | select => exact coerceSelect_again coerced
  | path => exact coercePath_again (tidy isType) coerced
  | bytes => exact coerceBytes_again wellFormed isType coerced

theorem coerceSetting_ok (coerced : coerceSetting host defn raw = .ok value) :
    ∃ given, coercer host defn defn.type raw = .ok given ∧
      value = (FIXED_SETTING_VALUES defn.key).getD given := by
  unfold coerceSetting at coerced
  split at coerced
  · cases coerced
  · cases isGiven : coercer host defn defn.type raw with
    | error _ =>
      rw [isGiven] at coerced
      cases coerced
    | ok given =>
      rw [isGiven] at coerced
      exact ⟨given, rfl, (Except.ok.inj coerced).symm⟩

theorem coercer_null (type : SettingType) :
    ∀ value, coercer host defn type .null ≠ .ok value := by
  cases type <;> exact fun value isValue => by cases isValue

theorem coerceSetting_of_coercer (coerced : coercer host defn defn.type raw = .ok value) :
    coerceSetting host defn raw = .ok ((FIXED_SETTING_VALUES defn.key).getD value) := by
  have present : raw ≠ .null := fun isNull =>
    @coercer_null host defn defn.type value (isNull ▸ coerced)
  unfold coerceSetting
  rw [if_neg present, coerced]
  rfl

theorem coerceSetting_again (wellFormed : defn.WellFormed) (tidy : Tidy host defn raw)
    (coerced : coerceSetting host defn raw = .ok value) :
    coerceSetting host defn value = .ok value := by
  obtain ⟨given, isGiven, rfl⟩ := coerceSetting_ok coerced
  cases isFixed : FIXED_SETTING_VALUES defn.key with
  | none =>
    have again := coerceSetting_of_coercer (coercer_again wellFormed tidy isGiven)
    rwa [isFixed] at again
  | some fixed =>
    have isBool := wellFormed.fixed fixed isFixed
    have isTrue : fixed = .bool true := by
      unfold FIXED_SETTING_VALUES at isFixed
      split at isFixed
      · exact (Option.some.inj isFixed).symm
      · cases isFixed
    have coerced : coercer host defn defn.type fixed = .ok fixed := by
      rw [isBool, isTrue]
      rfl
    have again := coerceSetting_of_coercer coerced
    rwa [isFixed] at again

end Again

section Catalogue

theorem bounded_of_check {defn : SettingDef} {bound : ℚ}
    (check : decide (floatOf bound = .finite bound) && decide ((trunc bound : ℚ) = bound ∨
      (defn.type ≠ .int ∧ defn.type ≠ .bytes))) : defn.Bounded bound := by
  simp only [Bool.and_eq_true, decide_eq_true_eq] at check
  refine ⟨check.1, fun integral => check.2.resolve_right fun other => ?_⟩
  exact integral.elim other.1 other.2

-- The fields of `WellFormed` as a test
def SettingDef.check (defn : SettingDef) : Bool :=
  let bounded (bound : ℚ) := decide (floatOf bound = .finite bound) &&
    decide ((trunc bound : ℚ) = bound ∨ (defn.type ≠ .int ∧ defn.type ≠ .bytes))
  defn.minimum.all bounded && defn.maximum.all bounded &&
    defn.minimum.all (fun least => defn.maximum.all fun most => least ≤ most) &&
    ((FIXED_SETTING_VALUES defn.key).isNone || defn.type = .bool)

theorem SettingDef.wellFormed_of_check {defn : SettingDef} (checked : defn.check = true) :
    defn.WellFormed := by
  unfold SettingDef.check at checked
  simp only [Bool.and_eq_true, Option.all_eq_true, Bool.or_eq_true] at checked
  obtain ⟨⟨⟨minimum, maximum⟩, ordered⟩, fixed⟩ := checked
  refine ⟨fun least isLeast => bounded_of_check ?_, fun most isMost => bounded_of_check ?_,
    fun least isLeast most isMost => ?_, fun value isValue => ?_⟩
  · simpa using minimum least isLeast
  · simpa using maximum most isMost
  · exact of_decide_eq_true (ordered least isLeast most isMost)
  · rcases fixed with isNone | isBool
    · rw [Option.isNone_iff_eq_none.mp isNone] at isValue
      cases isValue
    · exact of_decide_eq_true isBool

theorem settings_wellFormed : ∀ defn ∈ SETTINGS, defn.WellFormed := by
  have checked : SETTINGS.all SettingDef.check = true := by decide +kernel
  exact fun defn mem => SettingDef.wellFormed_of_check (List.all_eq_true.mp checked defn mem)

def keyNumber (key : String) : ℕ :=
  key.toByteArray.data.toList.foldl (fun number byte => number * 256 + byte.toNat) 0

def apart (p : ℕ) : ℕ → List ℕ → Bool
  | _, [] => true
  | seen, n :: rest => !seen.testBit (n % p) && apart p (seen ||| 2 ^ (n % p)) rest

theorem nodup_of_apart {p seen : ℕ} {numbers : List ℕ} (h : apart p seen numbers = true) :
    (∀ n ∈ numbers, seen.testBit (n % p) = false) ∧ numbers.Nodup := by
  induction numbers generalizing seen with
  | nil => exact ⟨by simp, List.nodup_nil⟩
  | cons n rest ih =>
    rw [apart, Bool.and_eq_true, Bool.not_eq_true'] at h
    obtain ⟨unseen, nodup⟩ := ih h.2
    simp only [Nat.testBit_or, Bool.or_eq_false_iff] at unseen
    refine ⟨fun m member => ?_, List.nodup_cons.mpr ⟨fun member => ?_, nodup⟩⟩
    · obtain rfl | among := List.mem_cons.mp member
      · exact h.1
      · exact (unseen m among).1
    · have bit := (unseen n member).2
      rw [Nat.testBit_two_pow_self] at bit
      cases bit

theorem settings_nodup : (SETTINGS.map (·.key)).Nodup := by
  have numbers : apart 1860 0 ((SETTINGS.map (·.key)).map keyNumber) = true := by
    decide +kernel
  exact (nodup_of_apart numbers).2.of_map

end Catalogue

end DashcamStats.Settings
