import Mathlib
/-
  The parts of Go's `strconv` and integer conversions the server uses.
-/

namespace Vraxel.Strconv

variable (i : Int)

def IsInt64 : Prop := -2 ^ 63 ≤ i ∧ i < 2 ^ 63

instance (i : Int) : Decidable (IsInt64 i) := inferInstanceAs (Decidable (_ ∧ _))

def digitVal (c : Char) : Option Nat :=
  if '0' ≤ c ∧ c ≤ '9' then some (c.toNat - '0'.toNat) else none

def readDigits (acc : Nat) : List Char → Option Nat
  | [] => some acc
  | c :: cs => (digitVal c).bind fun d => readDigits (10 * acc + d) cs

/-- `strconv.ParseUint` without the range check: one digit or more. -/
def parseUint : List Char → Option Nat
  | [] => none
  | c :: cs => readDigits 0 (c :: cs)

def parseSigned : List Char → Option Int
  | '+' :: cs => (parseUint cs).map Int.ofNat
  | '-' :: cs => (parseUint cs).map fun n : Nat => -Int.ofNat n
  | cs => (parseUint cs).map Int.ofNat

/-- `strconv.ParseInt(s, 10, 64)`; `none` is a syntax or a range error. -/
def parseInt (s : String) : Option Int :=
  (parseSigned s.toList).filter fun i => IsInt64 i

def formatInt : String := toString i

/-- `strconv.Quote` of a string of printable characters, and `%q` in a format. -/
def quote (s : String) : String :=
  "\"" ++ String.ofList (s.toList.flatMap fun c => if c = '"' ∨ c = '\\' then ['\\', c] else [c]) ++ "\""

def toInt32 : Int := (i + 2 ^ 31) % 2 ^ 32 - 2 ^ 31

def toInt64 : Int := (i + 2 ^ 63) % 2 ^ 64 - 2 ^ 63

theorem toInt32_eq_self_iff {i : Int} : toInt32 i = i ↔ -2 ^ 31 ≤ i ∧ i < 2 ^ 31 := by
  unfold toInt32
  omega

theorem toInt64_eq_self {i : Int} (h : IsInt64 i) : toInt64 i = i := by
  obtain ⟨hlow, hhigh⟩ := h
  unfold toInt64
  omega

theorem isInt64_toInt64 : IsInt64 (toInt64 i) := by
  unfold IsInt64 toInt64
  omega

theorem toInt32_toInt64 : toInt32 (toInt64 i) = toInt32 i := by
  unfold toInt32 toInt64
  omega

theorem toInt32_mul_toInt32 (j : Int) : toInt32 (i * toInt32 j) = toInt32 (i * j) := by
  obtain ⟨k, hk⟩ : ∃ k, j = toInt32 j + 2 ^ 32 * k := by
    refine ⟨(j + 2 ^ 31) / 2 ^ 32, ?_⟩
    unfold toInt32
    omega
  have hmul : i * j = i * toInt32 j + 2 ^ 32 * (i * k) := by
    nth_rewrite 1 [hk]
    ring
  rw [hmul]
  unfold toInt32
  omega

theorem formatInt_injective {i j : Int} (h : formatInt i = formatInt j) : i = j :=
  Int.repr_inj.1 h

theorem isInt64_of_parseInt {s : String} {i : Int} (h : parseInt s = some i) : IsInt64 i := by
  have := (Option.filter_eq_some_iff.1 h).2
  simpa using this

/-! Reading back what `formatInt` writes. -/

theorem digitVal_digitChar {d : Nat} (h : d < 10) : digitVal (Nat.digitChar d) = some d := by
  interval_cases d <;> decide

theorem readDigits_append (acc : Nat) (cs ds : List Char) :
    readDigits acc (cs ++ ds) = (readDigits acc cs).bind fun n => readDigits n ds := by
  induction cs generalizing acc with
  | nil => rfl
  | cons c cs ih =>
    cases h : digitVal c with
    | none => simp [readDigits, h]
    | some d => simp [readDigits, h, ih]

theorem readDigits_toDigits (n : Nat) : readDigits 0 (Nat.toDigits 10 n) = some n := by
  induction n using Nat.strong_induction_on with
  | _ n ih =>
    by_cases h : n < 10
    · rw [Nat.toDigits_of_lt_base h]
      simp [readDigits, digitVal_digitChar h]
    · have hlt : n / 10 < n := Nat.div_lt_self (by omega) (by omega)
      rw [Nat.toDigits_of_base_le (by omega) (by omega), readDigits_append, ih _ hlt]
      simp [readDigits, digitVal_digitChar (Nat.mod_lt n (by omega : 0 < 10))]
      omega

theorem parseUint_toDigits (n : Nat) : parseUint (Nat.toDigits 10 n) = some n := by
  have h := readDigits_toDigits n
  cases hd : Nat.toDigits 10 n with
  | nil => exact absurd hd (Nat.toDigits_ne_nil)
  | cons c cs => rw [hd] at h; exact h

theorem parseSigned_of_parseUint {cs : List Char} {n : Nat} (h : parseUint cs = some n) :
    parseSigned cs = some (n : Int) := by
  unfold parseSigned
  split
  · have : digitVal '+' = none := by decide
    simp [parseUint, readDigits, this] at h
  · have : digitVal '-' = none := by decide
    simp [parseUint, readDigits, this] at h
  · rw [h]
    rfl

theorem toList_formatInt_ofNat (n : Nat) : (formatInt (Int.ofNat n)).toList = Nat.toDigits 10 n :=
  String.toList_ofList

theorem toList_formatInt_negSucc (n : Nat) :
    (formatInt (Int.negSucc n)).toList = '-' :: Nat.toDigits 10 (n + 1) := by
  change ("-" ++ Nat.repr (n + 1)).toList = _
  simp [Nat.repr]

theorem mem_formatInt {i : Int} {c : Char} (h : c ∈ (formatInt i).toList) : c.isDigit ∨ c = '-' := by
  have hdigit {n : Nat} (h : c ∈ Nat.toDigits 10 n) : c.isDigit := Nat.isDigit_of_mem_toDigits (by decide) (by decide) h
  cases i with
  | ofNat n =>
    rw [toList_formatInt_ofNat] at h
    exact .inl (hdigit h)
  | negSucc n =>
    rw [toList_formatInt_negSucc, List.mem_cons] at h
    exact h.symm.imp_left hdigit

theorem parseSigned_formatInt : parseSigned (formatInt i).toList = some i := by
  cases i with
  | ofNat n =>
    rw [toList_formatInt_ofNat]
    exact parseSigned_of_parseUint (parseUint_toDigits n)
  | negSucc n =>
    rw [toList_formatInt_negSucc]
    simp [parseSigned, parseUint_toDigits, Int.negSucc_eq]

theorem parseInt_formatInt {i : Int} (h : IsInt64 i) : parseInt (formatInt i) = some i := by
  rw [parseInt, parseSigned_formatInt, Option.filter_some, if_pos (decide_eq_true h)]

example : parseInt "-42" = some (-42) := by decide

example : parseInt "4 2" = none := by decide

example : parseInt "9223372036854775808" = none := by decide

end Vraxel.Strconv
