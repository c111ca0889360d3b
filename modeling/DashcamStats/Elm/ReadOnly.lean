import DashcamStats.Elm.Gate

namespace DashcamStats.Elm

open Android (responseCountDigits)

def HexPid (p q : Char) : Prop :=
  ∃ a b : ℕ, hexValue p = some a ∧ hexValue q = some b ∧
    (((16 * a + b : ℕ) : ℤ) ∈ Android.pids ∨ 16 * a + b = 0)

/-- A value of the tables, or `01`, two characters that `request` takes and at most one count. -/
def Accepts (tables : List Text) (request : Char → Char → Prop) (counted : Bool)
    (value : Text) : Prop :=
  value ∈ tables ∨ ∃ p q count, value = '0' :: '1' :: p :: q :: count ∧ request p q ∧
    (count = [] ∨ counted = true ∧ ∃ digit ∈ responseCountDigits, count = [digit])

def readOnlyRequests : List Text := Android.safeAt ++ Android.safeDiagnostics ++ Android.freezeFrame

def Grammar (counted : Bool) : Text → Prop := Accepts readOnlyRequests HexPid counted

section

variable (unicode : Unicode)

def plain (command : Text) : Text := (stripped unicode command).map Char.toUpper

def Ascii (text : Text) : Prop := ∀ c ∈ text, isAscii c = true

variable {unicode}

theorem isAscii_toUpper (c : Char) : isAscii c.toUpper = true → isAscii c = true := by
  unfold Char.toUpper
  split
  · rename_i lower
    intro _
    simp only [isAscii, decide_eq_true_eq]
    have high : c.toNat ≤ 122 := lower.2
    omega
  · exact id

theorem ascii_of_plain {command : Text} (ascii : Ascii (plain unicode command)) :
    Ascii (stripped unicode command) := fun c member =>
  isAscii_toUpper c (ascii c.toUpper (List.mem_map_of_mem member))

theorem normalized_eq_plain {command : Text} (ascii : Ascii (stripped unicode command)) :
    normalized unicode command = plain unicode command := by
  unfold normalized plain
  rw [List.map_eq_flatMap]
  exact List.flatMap_congr fun c member => unicode.uppercase_ascii c (ascii c member)

theorem isAscii_of_hex {c : Char} {a : ℕ} (hex : hexValue c = some a) : isAscii c = true := by
  unfold hexValue at hex
  simp only [isAscii, decide_eq_true_eq]
  split at hex
  · rename_i range
    have high : c.toNat ≤ 57 := range.2
    omega
  · split at hex
    · rename_i range
      have high : c.toNat ≤ 102 := range.2
      omega
    · split at hex
      · rename_i range
        have high : c.toNat ≤ 70 := range.2
        omega
      · cases hex

theorem ascii_of_grammar {counted : Bool} {value : Text} (within : Grammar counted value) :
    Ascii value := by
  obtain table | ⟨p, q, count, rfl, ⟨a, b, first, second, -⟩, rest⟩ := within
  · have all : (readOnlyRequests.all fun value => value.all isAscii) = true := by decide +kernel
    exact List.all_eq_true.mp (List.all_eq_true.mp all value table)
  · have counts : ∀ c ∈ count, isAscii c = true := by
      obtain rfl | ⟨-, digit, member, rfl⟩ := rest
      · simp
      · have all : responseCountDigits.all isAscii = true := by decide +kernel
        simpa using List.all_eq_true.mp all digit member
    intro c member
    simp only [List.mem_cons] at member
    obtain rfl | rfl | rfl | rfl | member := member
    · rfl
    · rfl
    · exact isAscii_of_hex first
    · exact isAscii_of_hex second
    · exact counts c member

def Spelled (unicode : Unicode) (tables : List Text) (request : Char → Char → Prop) (counted : Bool)
    (command : Text) : Prop :=
  (normalized unicode command ∈ tables → Ascii (stripped unicode command)) ∧
    ∀ p q count, normalized unicode command = '0' :: '1' :: p :: q :: count → request p q →
      (count = [] ∨ counted = true ∧ ∃ digit ∈ responseCountDigits, count = [digit]) →
        Ascii (stripped unicode command) ∧ isHex p = true ∧ isHex q = true

theorem spelled_iff {tables : List Text} {request : Char → Char → Prop} {counted : Bool}
    (listed : ∀ value ∈ tables, value ∈ readOnlyRequests)
    (hex : ∀ p q, isHex p = true → isHex q = true → request p q → HexPid p q) (command : Text) :
    (Accepts tables request counted (normalized unicode command) →
      Grammar counted (plain unicode command)) ↔
      Spelled unicode tables request counted command := by
  constructor
  · intro within
    refine ⟨fun table => ascii_of_plain (ascii_of_grammar (within (.inl table))),
      fun p q count same asked rest => ?_⟩
    have grammar := within (.inr ⟨p, q, count, same, asked, rest⟩)
    have ascii := ascii_of_plain (ascii_of_grammar grammar)
    rw [← normalized_eq_plain ascii, same] at grammar
    obtain table | ⟨p', q', count', equal, ⟨a, b, first, second, -⟩, -⟩ := grammar
    · have none : ∀ value ∈ readOnlyRequests, value.take 2 ≠ ['0', '1'] := by decide +kernel
      exact absurd rfl (none _ table)
    · simp only [List.cons.injEq, true_and] at equal
      obtain ⟨rfl, rfl, rfl⟩ := equal
      exact ⟨ascii, by simp [isHex, first], by simp [isHex, second]⟩
  · rintro ⟨spelled, requests⟩ (table | ⟨p, q, count, same, asked, rest⟩)
    · rw [← normalized_eq_plain (spelled table)]
      exact .inl (listed _ table)
    · obtain ⟨ascii, first, second⟩ := requests p q count same asked rest
      rw [← normalized_eq_plain ascii]
      exact .inr ⟨p, q, count, same, hex p q first second asked, rest⟩

-- What `toIntOrNull` makes of the two characters is on the list.
def Android.Request (unicode : Unicode) (p q : Char) : Prop :=
  ∃ pid, Android.toIntOrNull unicode [p, q] = some pid ∧ (pid ∈ Android.pids ∨ pid = 0)

-- What `int` makes of the two characters is on the list.
def Backend.Request (unicode : Unicode) (p q : Char) : Prop :=
  ∃ pid, Backend.int16 unicode [p, q] = some pid ∧
    (pid ∈ Backend.PID_LENGTHS ∨ p = '0' ∧ q = '0')

def backendRequests : List Text :=
  Backend._SAFE_AT ++ Backend._SAFE_DIAGNOSTICS ++ Backend._FREEZE_FRAME

theorem shape_iff {value : Text} {n : ℕ} (long : 4 ≤ n) :
    value.length = n ∧ "01".toList.isPrefixOf value = true ↔
      ∃ p q count, value = '0' :: '1' :: p :: q :: count ∧ count.length + 4 = n := by
  constructor
  · rintro ⟨length, start⟩
    rw [List.isPrefixOf_iff_prefix] at start
    obtain ⟨rest, rfl⟩ := start
    match rest, length with
    | p :: q :: count, length => exact ⟨p, q, count, rfl, by simpa using length⟩
    | [], length => simp at length; omega
    | [_], length => simp at length; omega
  · rintro ⟨p, q, count, rfl, length⟩
    exact ⟨by simpa using length, by simp⟩

theorem commandCategory_isSome_iff (command : Text) :
    (Android.commandCategory unicode command).isSome = true ↔
      command.any Android.isISOControl = false ∧
        Accepts readOnlyRequests (Android.Request unicode) true (normalized unicode command) := by
  unfold Android.commandCategory
  cases control : command.any Android.isISOControl with
  | true => simp
  | false =>
    simp only [Bool.false_eq_true, if_false, true_and]
    generalize normalized unicode command = value
    by_cases adapter : value ∈ Android.safeAt
    · rw [if_pos adapter]
      exact iff_of_true rfl (.inl (by simp [readOnlyRequests, adapter]))
    rw [if_neg adapter]
    by_cases vehicle : value ∈ Android.safeDiagnostics ∨ value ∈ Android.freezeFrame
    · rw [if_pos vehicle]
      exact iff_of_true rfl (.inl (by simp [readOnlyRequests, vehicle]))
    rw [if_neg vehicle]
    have unlisted : value ∉ readOnlyRequests := by
      rw [not_or] at vehicle
      simp [readOnlyRequests, adapter, vehicle]
    by_cases shape : (value.length = 4 ∨ value.length = 5) ∧ "01".toList.isPrefixOf value = true
    · rw [if_pos shape]
      obtain ⟨p, q, count, rfl, short⟩ : ∃ p q count,
          value = '0' :: '1' :: p :: q :: count ∧ count.length ≤ 1 := by
        obtain ⟨four | five, start⟩ := shape
        · obtain ⟨p, q, count, same, length⟩ := (shape_iff le_rfl).mp ⟨four, start⟩
          exact ⟨p, q, count, same, by omega⟩
        · obtain ⟨p, q, count, same, length⟩ := (shape_iff (by omega)).mp ⟨five, start⟩
          exact ⟨p, q, count, same, by omega⟩
      have suffix : ((p :: q :: count).length = 2 ∨
          (p :: q :: count).getD 2 ' ' ∈ responseCountDigits) ↔
          (count = [] ∨ true = true ∧ ∃ digit ∈ responseCountDigits, count = [digit]) := by
        match count, short with
        | [], _ => simp
        | [digit], _ => simp
      have request : (Android.toIntOrNull unicode [p, q]).any
          (fun pid => decide (pid ∈ Android.pids ∨ pid = 0)) = true ↔
          Android.Request unicode p q := by
        unfold Android.Request
        cases Android.toIntOrNull unicode [p, q] <;> simp
      have goal : (('0' :: '1' :: p :: q :: count).length = 4 ∨
          ('0' :: '1' :: p :: q :: count).getD 4 ' ' ∈ responseCountDigits) ∧
          (Android.toIntOrNull unicode [p, q]).any
            (fun pid => decide (pid ∈ Android.pids ∨ pid = 0)) = true ↔
          Accepts readOnlyRequests (Android.Request unicode) true
            ('0' :: '1' :: p :: q :: count) := by
        rw [request]
        constructor
        · rintro ⟨ending, asked⟩
          exact .inr ⟨p, q, count, rfl, asked, suffix.mp (by simpa using ending)⟩
        · rintro (table | ⟨p', q', count', same, asked, rest⟩)
          · exact absurd table unlisted
          · simp only [List.cons.injEq, true_and] at same
            obtain ⟨rfl, rfl, rfl⟩ := same
            exact ⟨by simpa using suffix.mpr rest, asked⟩
      rw [← goal]
      show (if _ then some Android.ElmCommandCategory.vehicleBus else none).isSome = true ↔ _
      split <;> simp_all
    · rw [if_neg shape]
      refine iff_of_false (by simp) ?_
      rintro (table | ⟨p, q, count, rfl, -, rest⟩)
      · exact unlisted table
      · obtain rfl | ⟨-, digit, -, rfl⟩ := rest
        · exact shape (by simp)
        · exact shape (by simp)

theorem commandIsSafe_iff (command : Text) : Backend.commandIsSafe unicode command = true ↔
    Accepts backendRequests (Backend.Request unicode) false (normalized unicode command) := by
  unfold Backend.commandIsSafe
  dsimp only
  generalize normalized unicode command = value
  by_cases listed : value ∈ Backend._SAFE_AT ∨ value ∈ Backend._SAFE_DIAGNOSTICS ∨
      value ∈ Backend._FREEZE_FRAME
  · rw [if_pos listed]
    exact iff_of_true rfl (.inl (by simpa [backendRequests, or_assoc] using listed))
  rw [if_neg listed]
  have unlisted : value ∉ backendRequests := by
    simpa [backendRequests, or_assoc] using listed
  by_cases shape : value.length = 4 ∧ "01".toList.isPrefixOf value = true
  · rw [if_pos shape]
    obtain ⟨p, q, count, rfl, length⟩ := (shape_iff le_rfl).mp shape
    obtain rfl := List.length_eq_zero_iff.mp (show count.length = 0 by omega)
    have zero : ['0', '1', p, q] = "0100".toList ↔ p = '0' ∧ q = '0' := by simp
    constructor
    · intro accepted
      refine .inr ⟨p, q, [], rfl, ?_, .inl rfl⟩
      unfold Backend.Request
      simp only [List.drop_succ_cons, List.drop_zero] at accepted
      cases parsed : Backend.int16 unicode [p, q] with
      | none => simp [parsed] at accepted
      | some pid =>
        rw [parsed] at accepted
        simp only [Bool.or_eq_true, decide_eq_true_eq, zero] at accepted
        exact ⟨pid, rfl, accepted⟩
    · rintro (table | ⟨p', q', count', same, ⟨pid, parsed, asked⟩, -⟩)
      · exact absurd table unlisted
      · simp only [List.cons.injEq, true_and] at same
        obtain ⟨rfl, rfl, rfl⟩ := same
        simp only [List.drop_succ_cons, List.drop_zero, parsed, Bool.or_eq_true, decide_eq_true_eq,
          zero]
        exact asked
  · rw [if_neg shape]
    refine iff_of_false (by simp) ?_
    rintro (table | ⟨p, q, count, rfl, -, rfl | ⟨counted, -⟩⟩)
    · exact unlisted table
    · exact shape (by simp)
    · cases counted

theorem digits_hex {p q : Char} {a b : ℕ} (first : hexValue p = some a)
    (second : hexValue q = some b) : digits unicode [p, q] = some (16 * a + b) := by
  simp [digits, unicode.digit_ascii p (isAscii_of_hex first),
    unicode.digit_ascii q (isAscii_of_hex second), first, second]

theorem zero_le_of_hex {c : Char} {a : ℕ} (hex : hexValue c = some a) : '0' ≤ c := by
  unfold hexValue at hex
  split at hex
  · rename_i range
    exact range.1
  · split at hex
    · rename_i range
      exact Char.le_trans (show '0' ≤ 'a' by decide) range.1
    · split at hex
      · rename_i range
        exact Char.le_trans (show '0' ≤ 'A' by decide) range.1
      · cases hex

theorem request_hex {p q : Char} (first : isHex p = true) (second : isHex q = true)
    (asked : Android.Request unicode p q) : HexPid p q := by
  obtain ⟨a, high⟩ := Option.isSome_iff_exists.mp first
  obtain ⟨b, low⟩ := Option.isSome_iff_exists.mp second
  obtain ⟨pid, parsed, listed⟩ := asked
  have unsigned : ¬p < '0' := Char.not_lt.mpr (zero_le_of_hex high)
  rw [Android.toIntOrNull, if_neg unsigned, digits_hex high low] at parsed
  obtain rfl := Option.some.inj parsed
  exact ⟨a, b, high, low, listed.imp_right Int.natCast_eq_zero.mp⟩

theorem backend_request_hex {p q : Char} (first : isHex p = true) (second : isHex q = true)
    (asked : Backend.Request unicode p q) : HexPid p q := by
  obtain ⟨a, high⟩ := Option.isSome_iff_exists.mp first
  obtain ⟨b, low⟩ := Option.isSome_iff_exists.mp second
  obtain ⟨pid, parsed, listed⟩ := asked
  have unsigned : Backend.int16 unicode [p, q] =
      (digits unicode [p, q]).map fun n : ℕ => (n : ℤ) := by
    unfold Backend.int16
    split
    · rename_i same
      obtain ⟨rfl, -⟩ := List.cons.inj same
      cases high
    · rename_i same
      obtain ⟨rfl, -⟩ := List.cons.inj same
      cases high
    · rfl
  rw [unsigned, digits_hex high low] at parsed
  obtain rfl := Option.some.inj parsed
  refine ⟨a, b, high, low, listed.imp_right ?_⟩
  rintro ⟨rfl, rfl⟩
  cases high
  cases low
  rfl

namespace Android

variable (unicode)

theorem authorized_of_consumed (commands : List Text) :
    ElmCommandWriteGate.authorized unicode ⟨.voltageOnly, true⟩ commands = [] := by
  induction commands with
  | nil => rfl
  | cons command rest ih =>
    have call : ElmCommandWriteGate.authorize unicode command ⟨.voltageOnly, true⟩ =
        (none, ⟨.voltageOnly, true⟩) := by
      unfold ElmCommandWriteGate.authorize
      split <;> rfl
    simp [ElmCommandWriteGate.authorized, call, ih]

theorem authorized_voltageOnly (commands : List Text) :
    ElmCommandWriteGate.authorized unicode ⟨.voltageOnly, false⟩ commands = [] ∨
      ∃ command ∈ commands, normalized unicode command = parkedVoltageProbe ∧
        ElmCommandWriteGate.authorized unicode ⟨.voltageOnly, false⟩ commands = [command] := by
  induction commands with
  | nil => exact .inl rfl
  | cons command rest ih =>
    rw [ElmCommandWriteGate.authorized, ElmCommandWriteGate.authorize]
    by_cases allowed : commandAllowed unicode command .voltageOnly = true
    · simp only [allowed, if_true, Bool.false_eq_true, if_false, authorized_of_consumed]
      simp only [commandAllowed, Bool.and_eq_true, Bool.or_eq_true, decide_eq_true_eq,
        reduceCtorEq, false_or] at allowed
      exact .inr ⟨command, List.mem_cons_self, allowed.2, by simp [allowed.1]⟩
    · simp only [allowed, Bool.false_eq_true, if_false, Option.isSome_none, List.nil_append]
      exact ih.imp_right fun ⟨other, among, rest⟩ => ⟨other, List.mem_cons_of_mem _ among, rest⟩

end Android

end

section

variable (java python : Unicode)

def ReadOnly (command : Text) : Prop :=
  ((Android.commandCategory java command).isSome = true → Grammar true (plain java command)) ∧
    (Backend.commandIsSafe python command = true → Grammar false (plain python command))

/-- The logger is asked with a control character or with ASCII and a PID of two digits, the backend
with ASCII and a PID of two digits, in so far as they would take the command at all. -/
def WellSpelled (command : Text) : Prop :=
  (command.any Android.isISOControl = false →
    Spelled java readOnlyRequests (Android.Request java) true command) ∧
  Spelled python backendRequests (Backend.Request python) false command

theorem readOnly_iff (command : Text) : ReadOnly java python command ↔
    WellSpelled java python command := by
  have within : ∀ value ∈ backendRequests, value ∈ readOnlyRequests := by decide +kernel
  unfold ReadOnly WellSpelled
  rw [commandCategory_isSome_iff, commandIsSafe_iff, and_imp,
    spelled_iff (fun _ => id) (fun _ _ => request_hex) command,
    spelled_iff within (fun _ _ => backend_request_hex) command]

end

end DashcamStats.Elm
