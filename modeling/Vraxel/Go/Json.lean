import Vraxel.Go.Strconv
/-
  `json.Marshal` (Go's `encoding/json`): the bytes of a value, and how many they are.

  A Go string is a list of bytes, whether it is UTF-8 or not.
-/

namespace Vraxel.Json

open Strconv

abbrev Bytes := List UInt8

def ascii (s : String) : Bytes := s.toList.map fun c => UInt8.ofNat c.toNat

variable (b : UInt8)

def isTail : Bool := 0x80 ≤ b ∧ b ≤ 0xBF

def second3 (a b : UInt8) : Bool := (if a = 0xE0 then 0xA0 else 0x80) ≤ b ∧ b ≤ if a = 0xED then 0x9F else 0xBF

def second4 (a b : UInt8) : Bool := (if a = 0xF0 then 0x90 else 0x80) ≤ b ∧ b ≤ if a = 0xF4 then 0x8F else 0xBF

/-- `utf8.DecodeRune`: the length of the rune that the bytes start with; `none` is a `RuneError` of width one. -/
def runeLen : Bytes → Option Nat
  | [] => none
  | a :: s =>
    if a < 0x80 then some 1
    else if 0xC2 ≤ a ∧ a ≤ 0xDF then
      match s with
      | b :: _ => if isTail b then some 2 else none
      | _ => none
    else if 0xE0 ≤ a ∧ a ≤ 0xEF then
      match s with
      | b :: c :: _ => if second3 a b ∧ isTail c then some 3 else none
      | _ => none
    else if 0xF0 ≤ a ∧ a ≤ 0xF4 then
      match s with
      | b :: c :: d :: _ => if second4 a b ∧ isTail c ∧ isTail d then some 4 else none
      | _ => none
    else none

def hexDigit (n : Nat) : UInt8 := (ascii "0123456789abcdef").getD n 0

/-- The escape of a byte below 0x80. The characters `<`, `>` and `&` are escaped for HTML. -/
def escapeByte : Bytes :=
  if b = 0x22 ∨ b = 0x5C then [0x5C, b]
  else if b = 0x08 then ascii "\\b"
  else if b = 0x0C then ascii "\\f"
  else if b = 0x0A then ascii "\\n"
  else if b = 0x0D then ascii "\\r"
  else if b = 0x09 then ascii "\\t"
  else if b < 0x20 ∨ b = 0x3C ∨ b = 0x3E ∨ b = 0x26 then
    ascii "\\u00" ++ [hexDigit (b.toNat / 16), hexDigit (b.toNat % 16)]
  else [b]

def escapeRune (s : Bytes) : Bytes × Nat :=
  match s with
  | [] => ([], 0)
  | b :: _ =>
    if b < 0x80 then (escapeByte b, 1)
    else match runeLen s with
      | none => (ascii "\\ufffd", 1)
      -- U+2028 and U+2029 end a line in JavaScript
      | some n =>
        if s.take 3 = [0xE2, 0x80, 0xA8] then (ascii "\\u2028", 3)
        else if s.take 3 = [0xE2, 0x80, 0xA9] then (ascii "\\u2029", 3)
        else (s.take n, n)

/-- The escapes of a string of which `skip` bytes are already written. -/
def escape : Nat → Bytes → Bytes
  | _, [] => []
  | skip + 1, _ :: s => escape skip s
  | 0, b :: s => (escapeRune (b :: s)).1 ++ escape ((escapeRune (b :: s)).2 - 1) s

def appendString (s : Bytes) : Bytes := 0x22 :: (escape 0 s ++ [0x22])

inductive Float64 where
  | nan
  | inf (neg : Bool)
  | finite (neg : Bool) (digits : List Nat) (point : Int)
  deriving DecidableEq

namespace Float64

def zero : Float64 := .finite false [] 0

def isZero : Float64 → Bool
  | .finite _ digits _ => digits.isEmpty
  | _ => false

def digit (d : Nat) : UInt8 := UInt8.ofNat (48 + d)

def fixed (digits : List Nat) (point : Int) : Bytes :=
  let whole := if 0 < point then
      (digits.take point.toNat).map digit ++ List.replicate (point.toNat - digits.length) 0x30
    else [0x30]
  let fraction := if point < digits.length then
      0x2E :: (List.replicate (-point).toNat 0x30 ++ (digits.drop point.toNat).map digit)
    else []
  whole ++ fraction

/-- `%e` with the shortest precision, without the zero that pads the exponent. -/
def exponent (digits : List Nat) (point : Int) : Bytes :=
  let mantissa := (digits.take 1).map digit ++ if 1 < digits.length then 0x2E :: (digits.drop 1).map digit else []
  let e := point - 1
  mantissa ++ [0x65, if e < 0 then 0x2D else 0x2B] ++ ascii (formatInt e.natAbs)

/-- The number as the encoder writes it; the error is the text of a value that JSON has no number for. -/
def format : Float64 → Except String Bytes
  | .nan => .error "NaN"
  | .inf neg => .error (if neg then "-Inf" else "+Inf")
  | .finite neg digits point =>
    let abs := if digits ≠ [] ∧ (point ≤ -6 ∨ 22 ≤ point) then exponent digits point else fixed digits point
    .ok ((if neg then [0x2D] else []) ++ abs)

end Float64

inductive Value where
  | null
  | bool (b : Bool)
  | int (i : Int)
  | float (f : Float64)
  | str (s : Bytes)
  | arr (elems : List Value)
  | obj (fields : List (String × Value))

def commas : List Bytes → Bytes
  | [] => []
  | [b] => b
  | b :: b' :: bs => b ++ 0x2C :: commas (b' :: bs)

namespace Value

mutual

def unsupported : Value → Option String
  | .float f => match f.format with
    | .error text => some text
    | .ok _ => none
  | .arr elems => unsupportedElems elems
  | .obj fields => unsupportedFields fields
  | .null | .bool _ | .int _ | .str _ => none
termination_by structural v => v

def unsupportedElems : List Value → Option String
  | [] => none
  | v :: vs => (unsupported v).orElse fun _ => unsupportedElems vs
termination_by structural vs => vs

def unsupportedFields : List (String × Value) → Option String
  | [] => none
  | (_, v) :: fs => (unsupported v).orElse fun _ => unsupportedFields fs
termination_by structural fs => fs

end

mutual

def encode : Value → Bytes
  | .null => ascii "null"
  | .bool b => ascii (if b then "true" else "false")
  | .int i => ascii (formatInt i)
  | .float f => f.format.toOption.getD []
  | .str s => appendString s
  | .arr elems => 0x5B :: (commas (encodeElems elems) ++ [0x5D])
  | .obj fields => 0x7B :: (commas (encodeFields fields) ++ [0x7D])
termination_by structural v => v

def encodeElems : List Value → List Bytes
  | [] => []
  | v :: vs => encode v :: encodeElems vs
termination_by structural vs => vs

def encodeFields : List (String × Value) → List Bytes
  | [] => []
  | (k, v) :: fs => (appendString (ascii k) ++ 0x3A :: encode v) :: encodeFields fs
termination_by structural fs => fs

end

mutual

def size : Value → Nat
  | .null => 4
  | .bool b => if b then 4 else 5
  | .int i => (formatInt i).length
  | .float f => (f.format.toOption.getD []).length
  | .str s => (escape 0 s).length + 2
  | .arr elems => sizeElems elems - 1 + 2
  | .obj fields => sizeFields fields - 1 + 2
termination_by structural v => v

def sizeElems : List Value → Nat
  | [] => 0
  | v :: vs => size v + 1 + sizeElems vs
termination_by structural vs => vs

def sizeFields : List (String × Value) → Nat
  | [] => 0
  | (k, v) :: fs => (escape 0 (ascii k)).length + 3 + size v + 1 + sizeFields fs
termination_by structural fs => fs

end

def isEmpty : Value → Bool
  | .null => true
  | .bool b => !b
  | .int i => i = 0
  | .float f => f.isZero
  | .str s => s.isEmpty
  | .arr elems => elems.isEmpty
  | .obj _ => false

@[simp] theorem isEmpty_null : Value.null.isEmpty = true := rfl

@[simp] theorem isEmpty_bool (b : Bool) : (Value.bool b).isEmpty = !b := rfl

@[simp] theorem isEmpty_int (i : Int) : (Value.int i).isEmpty = decide (i = 0) := rfl

@[simp] theorem isEmpty_str (s : Bytes) : (Value.str s).isEmpty = s.isEmpty := rfl

@[simp] theorem isEmpty_arr (vs : List Value) : (Value.arr vs).isEmpty = vs.isEmpty := rfl

@[simp] theorem isEmpty_obj (fs : List (String × Value)) : (Value.obj fs).isEmpty = false := rfl

end Value

class ToJson (α : Type) where
  toJson : α → Value

export ToJson (toJson)

structure Field where
  key : String
  value : Value
  omitempty : Bool := false

def Field.kept (f : Field) : Bool := !(f.omitempty && f.value.isEmpty)

variable (fields : List Field)

def struct : Value := .obj ((fields.filter Field.kept).map fun f => (f.key, f.value))

def list {α : Type} [ToJson α] (xs : List α) : Value := .arr (xs.map toJson)

instance : ToJson Bytes where
  toJson := .str

def pointer {α : Type} [ToJson α] : Option α → Value
  | none => .null
  | some x => toJson x

@[simp] theorem pointer_none {α : Type} [ToJson α] : pointer (none : Option α) = .null := rfl

@[simp] theorem pointer_some {α : Type} [ToJson α] (x : α) : pointer (some x) = toJson x := rfl

def marshal (v : Value) : Except String Bytes :=
  match v.unsupported with
  | some text => .error ("json: unsupported value: " ++ text)
  | none => .ok v.encode

@[simp] theorem length_ascii (s : String) : (ascii s).length = s.length := by
  rw [ascii, List.length_map]
  exact String.length_toList

theorem length_commas (bs : List Bytes) : (commas bs).length = (bs.map fun b => b.length + 1).sum - 1 := by
  induction bs using commas.induct with
  | case1 => rfl
  | case2 b => simp [commas]
  | case3 b b' bs ih =>
    simp only [commas, List.length_append, List.length_cons, ih, List.map_cons, List.sum_cons]
    omega

namespace Value

mutual

theorem length_encode (v : Value) : (encode v).length = size v := by
  cases v with
  | null => rfl
  | bool b => cases b <;> rfl
  | int i => simp [encode, size]
  | float f => simp [encode, size]
  | str s => simp [encode, size, appendString]
  | arr elems => simp [encode, size, length_commas, length_encodeElems elems]
  | obj fields => simp [encode, size, length_commas, length_encodeFields fields]
termination_by structural v

theorem length_encodeElems (vs : List Value) :
    ((encodeElems vs).map fun b => b.length + 1).sum = sizeElems vs := by
  cases vs with
  | nil => simp [encodeElems, sizeElems]
  | cons v vs => simp [encodeElems, sizeElems, length_encode v, length_encodeElems vs]
termination_by structural vs

theorem length_encodeFields (fs : List (String × Value)) :
    ((encodeFields fs).map fun b => b.length + 1).sum = sizeFields fs := by
  cases fs with
  | nil => simp [encodeFields, sizeFields]
  | cons f fs =>
    obtain ⟨k, v⟩ := f
    simp [encodeFields, sizeFields, length_encode v, length_encodeFields fs, appendString]
    omega
termination_by structural fs

end

theorem le_sizeElems {vs : List Value} {c : Nat} (h : ∀ v ∈ vs, c ≤ v.size) : vs.length * (c + 1) ≤ sizeElems vs := by
  induction vs with
  | nil => simp [sizeElems]
  | cons v vs ih =>
    have hv := h v List.mem_cons_self
    have hvs := ih fun w hw => h w (List.mem_cons_of_mem v hw)
    simp only [sizeElems, List.length_cons, Nat.add_mul, Nat.one_mul]
    omega

theorem size_arr {vs : List Value} (h : vs ≠ []) : (Value.arr vs).size = sizeElems vs + 1 := by
  cases vs with
  | nil => exact absurd rfl h
  | cons v vs =>
    simp only [size, sizeElems]
    omega

end Value

def Field.size (f : Field) : Nat := if f.kept then (escape 0 (ascii f.key)).length + 4 + f.value.size else 0

theorem sizeFields_kept :
    Value.sizeFields ((fields.filter Field.kept).map fun f => (f.key, f.value)) = (fields.map Field.size).sum := by
  induction fields with
  | nil => rfl
  | cons f fields ih =>
    by_cases hf : f.kept
    · simp only [List.filter_cons_of_pos hf, List.map_cons, Value.sizeFields, ih, List.sum_cons, Field.size, hf, if_true]
      omega
    · simp [List.filter_cons_of_neg hf, Field.size, hf, ih]

theorem size_struct : (struct fields).size = (fields.map Field.size).sum - 1 + 2 := by
  rw [struct, Value.size, sizeFields_kept]

theorem size_struct_cons {f : Field} (hf : f.kept) (fields : List Field) :
    (struct (f :: fields)).size = f.size + (fields.map Field.size).sum + 1 := by
  rw [size_struct, List.map_cons, List.sum_cons]
  simp only [Field.size, hf, if_true]
  omega

namespace Value

theorem unsupportedElems_eq_none {vs : List Value} : unsupportedElems vs = none ↔ ∀ v ∈ vs, v.unsupported = none := by
  induction vs with
  | nil => simp [unsupportedElems]
  | cons v vs ih => cases hv : v.unsupported <;> simp [unsupportedElems, hv, ih]

theorem unsupportedFields_eq_none {fs : List (String × Value)} :
    unsupportedFields fs = none ↔ ∀ f ∈ fs, f.2.unsupported = none := by
  induction fs with
  | nil => simp [unsupportedFields]
  | cons f fs ih => cases hf : f.2.unsupported <;> simp [unsupportedFields, hf, ih]

end Value

theorem unsupported_struct {fields : List Field} :
    (struct fields).unsupported = none ↔ ∀ f ∈ fields, f.kept → f.value.unsupported = none := by
  rw [struct, Value.unsupported, Value.unsupportedFields_eq_none]
  simp only [List.forall_mem_map, List.mem_filter, and_imp]

theorem marshal_ok_iff {v : Value} {b : Bytes} : marshal v = .ok b ↔ v.unsupported = none ∧ v.encode = b := by
  unfold marshal
  cases v.unsupported <;> simp

def plain : Bool := b < 0x80 ∧ escapeByte b = [b]

theorem escape_of_plain {s : Bytes} (h : ∀ b ∈ s, plain b) : escape 0 s = s := by
  induction s with
  | nil => rfl
  | cons b s ih =>
    have hb := of_decide_eq_true (h b List.mem_cons_self)
    have hs := ih fun c hc => h c (List.mem_cons_of_mem b hc)
    simp [escape, escapeRune, hb.1, hb.2, hs]

theorem plain_toDigits (n : Nat) : ∀ c ∈ Nat.toDigits 10 n, plain (UInt8.ofNat c.toNat) := by
  induction n using Nat.strong_induction_on with
  | _ n ih =>
    have hdigit : ∀ d < 10, plain (UInt8.ofNat (Nat.digitChar d).toNat) := by decide
    intro c hc
    by_cases h : n < 10
    · rw [Nat.toDigits_of_lt_base h, List.mem_singleton] at hc
      exact hc ▸ hdigit n h
    · rw [Nat.toDigits_of_base_le (by omega) (by omega), List.mem_append, List.mem_singleton] at hc
      rcases hc with hc | hc
      · exact ih (n / 10) (by omega) c hc
      · exact hc ▸ hdigit (n % 10) (by omega)

end Vraxel.Json
