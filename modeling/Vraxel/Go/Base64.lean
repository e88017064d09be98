import Mathlib.Data.List.Basic
import Mathlib.Data.List.Nodup
/-
  Go's `base64.RawURLEncoding` and `hex.EncodeToString`.

  Three bytes are four digits of six bits; one or two bytes at the end are two or three digits,
  without padding.
-/

namespace Vraxel.Base64

def alphabet : List Char := "ABCDEFGHIJKLMNOPQRSTUVWXYZabcdefghijklmnopqrstuvwxyz0123456789-_".toList

def digit (n : Nat) : Char := alphabet.getD n 'A'

def digits : List UInt8 → List Nat
  | [] => []
  | [a] => [a.toNat / 4, a.toNat % 4 * 16]
  | [a, b] => [a.toNat / 4, a.toNat % 4 * 16 + b.toNat / 16, b.toNat % 16 * 4]
  | a :: b :: c :: rest =>
    a.toNat / 4 :: (a.toNat % 4 * 16 + b.toNat / 16) :: (b.toNat % 16 * 4 + c.toNat / 64) :: c.toNat % 64 :: digits rest

def rawURLEncode (bytes : List UInt8) : String := String.ofList ((digits bytes).map digit)

def hexDigit (n : Nat) : Char := "0123456789abcdef".toList.getD n '0'

def hexEncode (bytes : List UInt8) : String :=
  String.ofList (bytes.flatMap fun b => [hexDigit (b.toNat / 16), hexDigit (b.toNat % 16)])

theorem digits_lt (bytes : List UInt8) : ∀ d ∈ digits bytes, d < 64 := by
  fun_induction digits bytes with
  | case1 => simp
  | case2 a =>
    have := a.toNat_lt
    simp only [List.mem_cons, List.not_mem_nil, or_false, forall_eq_or_imp, forall_eq]
    omega
  | case3 a b =>
    have := a.toNat_lt
    have := b.toNat_lt
    simp only [List.mem_cons, List.not_mem_nil, or_false, forall_eq_or_imp, forall_eq]
    omega
  | case4 a b c rest ih =>
    have := a.toNat_lt
    have := b.toNat_lt
    have := c.toNat_lt
    simp only [List.mem_cons, forall_eq_or_imp]
    exact ⟨by omega, by omega, by omega, by omega, ih⟩

theorem digits_injective {bytes bytes' : List UInt8} (h : digits bytes = digits bytes') : bytes = bytes' := by
  -- the two lists have the same number of digits, so they end in the same way
  fun_induction digits bytes generalizing bytes' with
  | case1 => fun_cases digits bytes' <;> simp_all [digits]
  | case2 a =>
    fun_cases digits bytes' with
    | case2 a' =>
      simp only [digits, List.cons.injEq, and_true] at h
      have ha : a = a' := UInt8.toNat_inj.1 (by omega)
      rw [ha]
    | _ => simp_all [digits]
  | case3 a b =>
    fun_cases digits bytes' with
    | case3 a' b' =>
      simp only [digits, List.cons.injEq, and_true] at h
      have := b.toNat_lt
      have := b'.toNat_lt
      have ha : a = a' := UInt8.toNat_inj.1 (by omega)
      have hb : b = b' := UInt8.toNat_inj.1 (by omega)
      rw [ha, hb]
    | _ => simp_all [digits]
  | case4 a b c rest ih =>
    fun_cases digits bytes' with
    | case4 a' b' c' rest' =>
      simp only [digits, List.cons.injEq] at h
      obtain ⟨h₁, h₂, h₃, h₄, hrest⟩ := h
      have := b.toNat_lt
      have := b'.toNat_lt
      have := c.toNat_lt
      have := c'.toNat_lt
      have ha : a = a' := UInt8.toNat_inj.1 (by omega)
      have hb : b = b' := UInt8.toNat_inj.1 (by omega)
      have hc : c = c' := UInt8.toNat_inj.1 (by omega)
      rw [ha, hb, hc, ih hrest]
    | _ => simp_all [digits]

theorem digit_injective {m n : Nat} (hm : m < 64) (hn : n < 64) (h : digit m = digit n) : m = n := by
  have hlen : alphabet.length = 64 := by decide
  have hnodup : alphabet.Nodup := by decide
  simp only [digit, List.getD_eq_getElem?_getD] at h
  rw [List.getElem?_eq_getElem (hlen ▸ hm), List.getElem?_eq_getElem (hlen ▸ hn)] at h
  exact (hnodup.getElem_inj_iff).1 h

theorem map_digit_injective {ds ds' : List Nat} (hds : ∀ d ∈ ds, d < 64) (hds' : ∀ d ∈ ds', d < 64)
    (h : ds.map digit = ds'.map digit) : ds = ds' := by
  induction ds generalizing ds' with
  | nil =>
    cases ds' with
    | nil => rfl
    | cons d' ds' => cases h
  | cons d ds ih =>
    cases ds' with
    | nil => cases h
    | cons d' ds' =>
      simp only [List.map_cons, List.cons.injEq, List.mem_cons, forall_eq_or_imp] at h hds hds'
      rw [digit_injective hds.1 hds'.1 h.1, ih hds.2 hds'.2 h.2]

theorem rawURLEncode_injective : Function.Injective rawURLEncode := by
  intro bytes bytes' h
  apply digits_injective
  exact map_digit_injective (digits_lt bytes) (digits_lt bytes') (String.ofList_inj.1 h)

end Vraxel.Base64
