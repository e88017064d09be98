import Vraxel.Go.Base64
import Vraxel.Go.Strings
/-
  Go's `hex.DecodeString`, against `hex.EncodeToString`.

  A text is decoded two digits at a time; digits of either case are read, and lowercase ones are
  written. `flipBytes` decodes a text, reverses the bytes and encodes them.
-/

namespace Vraxel.Hex

open Base64

def fromHexChar (c : Char) : Option Nat :=
  if '0' ≤ c ∧ c ≤ '9' then some (c.toNat - '0'.toNat)
  else if 'a' ≤ c ∧ c ≤ 'f' then some (c.toNat - 'a'.toNat + 10)
  else if 'A' ≤ c ∧ c ≤ 'F' then some (c.toNat - 'A'.toNat + 10)
  else none

def decode : List Char → Option (List UInt8)
  | [] => some []
  | [_] => none
  | hi :: lo :: rest => do
    let h ← fromHexChar hi
    let l ← fromHexChar lo
    let bytes ← decode rest
    some (UInt8.ofNat (16 * h + l) :: bytes)

def decodeString (s : String) : Option (List UInt8) := decode s.toList

def isLower (c : Char) : Bool := "0123456789abcdef".toList.contains c

def flipBytes (s : String) : Option String := (decodeString s).map fun bytes => hexEncode bytes.reverse

theorem fromHexChar_hexDigit : ∀ n < 16, fromHexChar (hexDigit n) = some n := by decide

theorem isLower_hexDigit : ∀ n < 16, isLower (hexDigit n) := by decide

theorem exists_hexDigit_of_isLower {c : Char} (hc : isLower c) : ∃ n < 16, c = hexDigit n := by
  have hmem : c ∈ "0123456789abcdef".toList := List.contains_iff_mem.1 hc
  obtain ⟨n, hn, hget⟩ := List.getElem_of_mem hmem
  refine ⟨n, hn, ?_⟩
  rw [hexDigit, ← hget, List.getD_eq_getElem?_getD, List.getElem?_eq_getElem hn, Option.getD_some]

variable (bytes : List UInt8)

theorem toList_hexEncode :
    (hexEncode bytes).toList = bytes.flatMap fun b => [hexDigit (b.toNat / 16), hexDigit (b.toNat % 16)] :=
  String.toList_ofList

theorem isLower_hexEncode : ∀ c ∈ (hexEncode bytes).toList, isLower c := by
  intro c hc
  rw [toList_hexEncode, List.mem_flatMap] at hc
  obtain ⟨b, _, hc⟩ := hc
  have hb := b.toNat_lt
  simp only [List.mem_cons, List.not_mem_nil, or_false] at hc
  rcases hc with rfl | rfl
  · exact isLower_hexDigit _ (by omega)
  · exact isLower_hexDigit _ (by omega)

theorem length_hexEncode : (hexEncode bytes).toList.length = 2 * bytes.length := by
  rw [toList_hexEncode]
  induction bytes with
  | nil => rfl
  | cons b bytes ih => simp [List.flatMap_cons, ih]; omega

theorem decode_hexEncode : decodeString (hexEncode bytes) = some bytes := by
  unfold decodeString
  rw [toList_hexEncode]
  induction bytes with
  | nil => rfl
  | cons b bytes ih =>
    have hb := b.toNat_lt
    have hbyte : 16 * (b.toNat / 16) + b.toNat % 16 = b.toNat := by omega
    simp only [List.flatMap_cons, List.cons_append, List.nil_append, decode,
      fromHexChar_hexDigit _ (show b.toNat / 16 < 16 by omega),
      fromHexChar_hexDigit _ (show b.toNat % 16 < 16 by omega), Option.bind_eq_bind, Option.bind_some]
    rw [ih, hbyte]
    simp

theorem decode_of_isLower {cs : List Char} (hcs : ∀ c ∈ cs, isLower c) (heven : cs.length % 2 = 0) :
    ∃ bytes, decode cs = some bytes ∧ (hexEncode bytes).toList = cs ∧ cs.length = 2 * bytes.length := by
  fun_induction decode cs with
  | case1 => exact ⟨[], rfl, rfl, rfl⟩
  | case2 => simp at heven
  | case3 hi lo rest ih =>
    obtain ⟨h, hh, rfl⟩ := exists_hexDigit_of_isLower (hcs hi (by simp))
    obtain ⟨l, hl, rfl⟩ := exists_hexDigit_of_isLower (hcs lo (by simp))
    simp only [List.length_cons] at heven
    obtain ⟨bytes, hdec, henc, hlen⟩ := ih (fun c hc => hcs c (by simp [hc])) (by omega)
    have hbyte : (UInt8.ofNat (16 * h + l)).toNat = 16 * h + l := by
      rw [UInt8.toNat_ofNat']
      omega
    refine ⟨UInt8.ofNat (16 * h + l) :: bytes, ?_, ?_, ?_⟩
    · simp [fromHexChar_hexDigit h hh, fromHexChar_hexDigit l hl, hdec]
    · rw [toList_hexEncode] at henc ⊢
      rw [List.flatMap_cons, henc, hbyte, show (16 * h + l) / 16 = h by omega, show (16 * h + l) % 16 = l by omega]
      rfl
    · simp only [List.length_cons]
      omega

theorem hexEncode_of_decode {s : String} (hs : ∀ c ∈ s.toList, isLower c) (heven : s.toList.length % 2 = 0) :
    ∃ bytes, decodeString s = some bytes ∧ hexEncode bytes = s ∧ s.toList.length = 2 * bytes.length := by
  obtain ⟨bytes, hdec, henc, hlen⟩ := decode_of_isLower hs heven
  exact ⟨bytes, hdec, String.toList_injective henc, hlen⟩

theorem flipBytes_flipBytes {s : String} (hs : ∀ c ∈ s.toList, isLower c) (heven : s.toList.length % 2 = 0) :
    ∃ t, flipBytes s = some t ∧ flipBytes t = some s ∧ t.toList.length = s.toList.length ∧
      ∀ c ∈ t.toList, isLower c := by
  obtain ⟨bytes, hdec, henc, hlen⟩ := hexEncode_of_decode hs heven
  refine ⟨hexEncode bytes.reverse, ?_, ?_, ?_, isLower_hexEncode _⟩
  · simp [flipBytes, hdec]
  · simp [flipBytes, decode_hexEncode, henc]
  · rw [length_hexEncode, hlen, List.length_reverse]

theorem isLower_of_fromHexChar {c : Char} (h : (fromHexChar c).isSome) (hc : c.toLower = c) : isLower c := by
  have hascii : ∀ n < 128, (fromHexChar (Char.ofNat n)).isSome → (Char.ofNat n).toLower = Char.ofNat n →
      isLower (Char.ofNat n) := by decide
  have hlt : c.toNat < 128 := by
    rw [fromHexChar] at h
    split at h
    · rename_i hr
      exact Nat.lt_of_le_of_lt hr.2 (by decide)
    · split at h
      · rename_i hr
        exact Nat.lt_of_le_of_lt hr.2 (by decide)
      · split at h
        · rename_i hr
          exact Nat.lt_of_le_of_lt hr.2 (by decide)
        · cases h
  rw [← Char.ofNat_toNat c] at h hc ⊢
  exact hascii c.toNat hlt h hc

theorem toLower_of_isLower {c : Char} (h : isLower c) : c.toLower = c := by
  obtain ⟨n, hn, rfl⟩ := exists_hexDigit_of_isLower h
  revert n
  decide

theorem isSpace_of_isLower {c : Char} (h : isLower c) : Strings.isSpace c = false := by
  obtain ⟨n, hn, rfl⟩ := exists_hexDigit_of_isLower h
  revert n
  decide

theorem decode_eq_some {cs : List Char} {bytes : List UInt8} (h : decode cs = some bytes) :
    cs.length = 2 * bytes.length ∧ ∀ c ∈ cs, (fromHexChar c).isSome := by
  fun_induction decode cs generalizing bytes with
  | case1 =>
    cases h
    simp
  | case2 => cases h
  | case3 hi lo rest ih =>
    simp only [Option.bind_eq_bind, Option.bind_eq_some_iff] at h
    obtain ⟨m, hm, l, hl, rest', hrest, hbytes⟩ := h
    cases hbytes
    obtain ⟨hlen, hdigits⟩ := ih hrest
    refine ⟨by simp only [List.length_cons]; omega, ?_⟩
    simp only [List.forall_mem_cons]
    exact ⟨by simp [hm], by simp [hl], hdigits⟩

theorem flipBytes_of_some {s t : String} (h : flipBytes s = some t) :
    ∃ u, flipBytes t = some u ∧ t.toList.length = s.toList.length ∧ (∀ c ∈ t.toList, isLower c) ∧
      (u = s ↔ ∀ c ∈ s.toList, isLower c) ∧ ((∀ c ∈ s.toList, c.toLower = c) → ∀ c ∈ s.toList, isLower c) := by
  obtain ⟨bytes, hbytes, rfl⟩ := Option.map_eq_some_iff.1 h
  obtain ⟨hlen, hdigits⟩ := decode_eq_some hbytes
  refine ⟨hexEncode bytes, by simp [flipBytes, decode_hexEncode], ?_, isLower_hexEncode _, ⟨?_, ?_⟩, ?_⟩
  · rw [length_hexEncode, List.length_reverse, hlen]
  · intro heq
    rw [← heq]
    exact isLower_hexEncode bytes
  · intro hlower
    obtain ⟨bytes', hdec, henc, -⟩ := hexEncode_of_decode hlower (by omega)
    rw [hbytes] at hdec
    cases hdec
    exact henc
  · exact fun hcase c hc => isLower_of_fromHexChar (hdigits c hc) (hcase c hc)

end Vraxel.Hex
