import Mathlib
/-
  Reading bytes: `io.ReadFull` and the big-endian numbers of `encoding/binary`.

  A reader is the chunks that its calls of `Read` return, a call never crossing from one chunk to
  the next. A chunk may be empty, and the last one may come with `io.EOF` (`eager`) or before it, as
  `io.Reader` allows.
-/

namespace Vraxel.Io

inductive ReadErr where
  | eof
  | unexpectedEOF
  deriving DecidableEq

structure Reader where
  chunks : List (List UInt8)
  eager : Bool

def Reader.bytes (r : Reader) : List UInt8 := r.chunks.flatten

/-- The loop of `io.ReadAtLeast`: what was read, and the chunks that are left. -/
def fill (eager : Bool) : List (List UInt8) → Nat → List UInt8 × List (List UInt8)
  | chunks, 0 => ([], chunks)
  | [], _ + 1 => ([], [])
  | c :: rest, n + 1 =>
    if c.length ≤ n + 1 then
      -- an error ends the loop, whatever came with it
      if eager ∧ rest = [] then (c, [])
      else (c ++ (fill eager rest (n + 1 - c.length)).1, (fill eager rest (n + 1 - c.length)).2)
    else (c.take (n + 1), c.drop (n + 1) :: rest)

def Reader.readFull (r : Reader) (n : Nat) : Except ReadErr (List UInt8) × Reader :=
  let got := (fill r.eager r.chunks n).1
  (if n ≤ got.length then .ok got else if got = [] then .error .eof else .error .unexpectedEOF,
    ⟨(fill r.eager r.chunks n).2, r.eager⟩)

theorem fill_eq (eager : Bool) (chunks : List (List UInt8)) (n : Nat) :
    (fill eager chunks n).1 = chunks.flatten.take n ∧ (fill eager chunks n).2.flatten = chunks.flatten.drop n := by
  induction chunks generalizing n with
  | nil => cases n <;> simp [fill]
  | cons c rest ih =>
    cases n with
    | zero => simp [fill]
    | succ n =>
      obtain ⟨hgot, hleft⟩ := ih (n + 1 - c.length)
      simp only [fill, List.flatten_cons, List.take_append, List.drop_append]
      split_ifs with hlen hlast
      · -- the last chunk, with its end
        simp [hlast.2, List.take_of_length_le hlen, List.drop_of_length_le hlen]
      · simp [hgot, hleft, List.take_of_length_le hlen, List.drop_of_length_le hlen]
      · have hnone : n + 1 - c.length = 0 := by omega
        simp [hnone]

section ReadFull

variable (r : Reader) {n : Nat}

theorem bytes_readFull (n : Nat) : (r.readFull n).2.bytes = r.bytes.drop n := (fill_eq r.eager r.chunks n).2

theorem readFull_of_le (h : n ≤ r.bytes.length) : (r.readFull n).1 = .ok (r.bytes.take n) := by
  have hgot : (fill r.eager r.chunks n).1 = r.bytes.take n := (fill_eq r.eager r.chunks n).1
  have hlen : n ≤ (r.bytes.take n).length := by
    rw [List.length_take]
    omega
  simp only [Reader.readFull, hgot]
  exact if_pos hlen

theorem readFull_of_lt (h : r.bytes.length < n) :
    (r.readFull n).1 = .error (if r.bytes = [] then .eof else .unexpectedEOF) := by
  have hgot : (fill r.eager r.chunks n).1 = r.bytes := by
    rw [(fill_eq r.eager r.chunks n).1]
    exact List.take_of_length_le (Nat.le_of_lt h)
  simp only [Reader.readFull, hgot]
  rw [if_neg (by omega)]
  split <;> rfl

end ReadFull

def putUint32 (n : Nat) : List UInt8 :=
  [UInt8.ofNat (n / 2 ^ 24), UInt8.ofNat (n / 2 ^ 16), UInt8.ofNat (n / 2 ^ 8), UInt8.ofNat n]

def uint32 (bs : List UInt8) : Nat := bs.foldl (fun n b => 256 * n + b.toNat) 0

theorem uint32_putUint32 {n : Nat} (h : n < 2 ^ 32) : uint32 (putUint32 n) = n := by
  simp only [uint32, putUint32, List.foldl, UInt8.toNat_ofNat']
  omega

end Vraxel.Io
