import Vraxel.Go.Io
import Vraxel.Go.Strconv
/-
  The messages of a framed stream (`lib/agent/types/datachannel.go`): a byte for the type,
  four for the length, and the payload. `readMessages` is a caller that reads until an error.
-/

namespace Vraxel.Agent

open Io

def maxMessageBytes : Nat := 2 ^ 20

structure Message where
  typ : UInt8
  payload : List UInt8
  deriving DecidableEq

def exceedsLimit (n : Nat) : String :=
  "message payload " ++ Strconv.formatInt n ++ " bytes exceeds " ++ Strconv.formatInt maxMessageBytes ++ " limit"

def Message.bytes (m : Message) : List UInt8 := m.typ :: putUint32 m.payload.length ++ m.payload

def writeMessage (m : Message) : Except String (List UInt8) :=
  if m.payload.length > maxMessageBytes then .error (exceedsLimit m.payload.length) else .ok m.bytes

def writeMessages : List Message → Except String (List UInt8)
  | [] => .ok []
  | m :: ms => do
    let b ← writeMessage m
    let bs ← writeMessages ms
    return b ++ bs

inductive MessageErr where
  | read (e : ReadErr)
  | limit (text : String)
  deriving DecidableEq

/-- The outcome of one call, the reader after it, and the bytes that it has allocated. -/
structure ReadMessage where
  result : Except MessageErr Message
  rest : Reader
  allocated : Nat

def readPayload (typ : UInt8) (n : Nat) (r : Reader) : ReadMessage :=
  if n > maxMessageBytes then ⟨.error (.limit (exceedsLimit n)), r, 0⟩
  else if n = 0 then ⟨.ok ⟨typ, []⟩, r, 0⟩
  else match r.readFull n with
    | (.error e, r') => ⟨.error (.read e), r', n⟩
    | (.ok buf, r') => ⟨.ok ⟨typ, buf⟩, r', n⟩

def readMessage (r : Reader) : ReadMessage :=
  match r.readFull 5 with
  | (.error e, r') => ⟨.error (.read e), r', 0⟩
  | (.ok hdr, r') => readPayload (hdr.headD 0) (uint32 hdr.tail) r'

/-- Up to `fuel` calls, until one fails: the messages, and the error. -/
def readMessages : Nat → Reader → List Message × Option MessageErr
  | 0, _ => ([], none)
  | fuel + 1, r =>
    match (readMessage r).result with
    | .error e => ([], some e)
    | .ok m => (m :: (readMessages fuel (readMessage r).rest).1, (readMessages fuel (readMessage r).rest).2)

def endErr (left : Nat) : MessageErr := .read (if left = 0 ∨ left = 5 then .eof else .unexpectedEOF)

theorem Message.length_bytes (m : Message) : m.bytes.length = 5 + m.payload.length := by
  simp [Message.bytes, putUint32]
  omega

theorem writeMessage_ok_iff {m : Message} {bs : List UInt8} :
    writeMessage m = .ok bs ↔ m.payload.length ≤ maxMessageBytes ∧ bs = m.bytes := by
  unfold writeMessage
  split
  · exact iff_of_false (by simp) (by omega)
  · rw [Except.ok.injEq]
    exact ⟨fun h' => ⟨by omega, h'.symm⟩, fun h' => h'.2.symm⟩

theorem allocated_readMessage_le (r : Reader) : (readMessage r).allocated ≤ maxMessageBytes := by
  unfold readMessage
  split
  · exact Nat.zero_le _
  · unfold readPayload
    split_ifs with hlimit
    · exact Nat.zero_le _
    · exact Nat.zero_le _
    · split
      · exact Nat.le_of_not_lt hlimit
      · exact Nat.le_of_not_lt hlimit

section OneMessage

variable {m : Message} {r : Reader} {rest : List UInt8}

theorem readPayload_of_prefix (typ : UInt8) {payload : List UInt8} (haccepted : payload.length ≤ maxMessageBytes)
    (hbytes : r.bytes <+: payload ++ rest) :
    if payload.length ≤ r.bytes.length then
      (readPayload typ payload.length r).result = .ok ⟨typ, payload⟩ ∧
        (readPayload typ payload.length r).rest.bytes = r.bytes.drop payload.length
    else (readPayload typ payload.length r).result = .error (.read (if r.bytes = [] then .eof else .unexpectedEOF)) := by
  rw [readPayload, if_neg (Nat.not_lt.2 haccepted)]
  by_cases hempty : payload = []
  · subst hempty
    exact ⟨rfl, rfl⟩
  rw [if_neg (mt List.length_eq_zero_iff.1 hempty)]
  by_cases hwhole : payload.length ≤ r.bytes.length
  · rw [if_pos hwhole]
    have hbuf : (r.readFull payload.length).1 = .ok payload := by
      obtain ⟨tail, htail⟩ := hbytes
      have h := congrArg (List.take payload.length) htail
      rw [List.take_append_of_le_length hwhole, List.take_left] at h
      rw [readFull_of_le r hwhole, h]
    have hrest := bytes_readFull r payload.length
    split
    · rename_i h
      rw [h] at hbuf
      cases hbuf
    · rename_i buf r' h
      rw [h] at hbuf hrest
      cases hbuf
      exact ⟨rfl, hrest⟩
  · rw [if_neg hwhole]
    have herr := readFull_of_lt r (Nat.lt_of_not_le hwhole)
    split
    · rename_i h
      rw [h] at herr
      cases herr
      rfl
    · rename_i h
      rw [h] at herr
      cases herr

theorem readMessage_of_header (hbytes : r.bytes <+: m.bytes ++ rest) (hlen : 5 ≤ r.bytes.length) :
    readMessage r = readPayload m.typ (uint32 (putUint32 m.payload.length)) (r.readFull 5).2 := by
  have htake : r.bytes.take 5 = m.typ :: putUint32 m.payload.length := by
    obtain ⟨tail, htail⟩ := hbytes
    have h := congrArg (List.take 5) htail
    rw [List.take_append_of_le_length hlen] at h
    rw [h]
    rfl
  have hheader : (r.readFull 5).1 = .ok (m.typ :: putUint32 m.payload.length) := by
    rw [readFull_of_le r hlen, htake]
  unfold readMessage
  split
  · rename_i e r' h
    rw [h] at hheader
    cases hheader
  · rename_i hdr r' h
    rw [h] at hheader ⊢
    cases hheader
    rfl

theorem readMessage_of_prefix (haccepted : m.payload.length ≤ maxMessageBytes) (hbytes : r.bytes <+: m.bytes ++ rest) :
    if 5 + m.payload.length ≤ r.bytes.length then
      (readMessage r).result = .ok m ∧ (readMessage r).rest.bytes = r.bytes.drop (5 + m.payload.length)
    else (readMessage r).result = .error (endErr r.bytes.length) := by
  by_cases hheader : r.bytes.length < 5
  · -- the header was cut
    rw [if_neg (by omega)]
    have herr := readFull_of_lt r hheader
    unfold readMessage
    split
    · rename_i e r' h
      rw [h] at herr
      cases herr
      have hleft : (r.bytes.length = 0 ∨ r.bytes.length = 5) ↔ r.bytes = [] := by
        rw [List.length_eq_zero_iff]
        constructor
        · intro h
          rcases h with h | h
          · exact h
          · omega
        · exact .inl
      simp only [endErr, hleft]
    · rename_i h
      rw [h] at herr
      cases herr
  have hread := readMessage_of_header hbytes (by omega)
  have hmax : maxMessageBytes < 2 ^ 32 := by decide
  rw [uint32_putUint32 (by omega)] at hread
  have hleft : (r.readFull 5).2.bytes = r.bytes.drop 5 := bytes_readFull r 5
  -- the bytes behind the header are those of the payload
  have hpayload : r.bytes.drop 5 <+: m.payload ++ rest := by
    obtain ⟨tail, htail⟩ := hbytes
    refine ⟨tail, ?_⟩
    have h := congrArg (List.drop 5) htail
    rw [List.drop_append_of_le_length (by omega)] at h
    exact h
  rw [← hleft] at hpayload
  have hrest := readPayload_of_prefix m.typ haccepted hpayload
  rw [hread]
  have hlen : (r.readFull 5).2.bytes.length = r.bytes.length - 5 := by rw [hleft, List.length_drop]
  by_cases hwhole : 5 + m.payload.length ≤ r.bytes.length
  · rw [if_pos (by omega)] at hrest
    rw [if_pos hwhole]
    refine ⟨hrest.1, ?_⟩
    rw [hrest.2, hleft, List.drop_drop]
  · rw [if_neg (by omega)] at hrest
    rw [if_neg hwhole, hrest, endErr]
    have hnone : (r.bytes.length = 0 ∨ r.bytes.length = 5) ↔ (r.readFull 5).2.bytes = [] := by
      rw [← List.length_eq_zero_iff, hlen]
      omega
    simp only [hnone]

end OneMessage

/-! A stream of messages. -/

def contained : List Message → Nat → List Message
  | [], _ => []
  | m :: ms, n => if 5 + m.payload.length ≤ n then m :: contained ms (n - (5 + m.payload.length)) else []

def cut : List Message → Nat → Nat
  | [], n => n
  | m :: ms, n => if 5 + m.payload.length ≤ n then cut ms (n - (5 + m.payload.length)) else n

/-- A caller gets the whole messages in order, and then `io.EOF` exactly if nothing else is left. -/
def PrefixSafe (msgs : List Message) (r : Reader) : Prop :=
  ∃ err, (∀ fuel > (contained msgs r.bytes.length).length,
      readMessages fuel r = (contained msgs r.bytes.length, some err)) ∧
    (err = .read .eof ↔ cut msgs r.bytes.length = 0)

theorem writeMessages_cons {m : Message} {ms : List Message} {bs : List UInt8} (h : writeMessages (m :: ms) = .ok bs) :
    m.payload.length ≤ maxMessageBytes ∧ ∃ rest, writeMessages ms = .ok rest ∧ bs = m.bytes ++ rest := by
  simp only [writeMessages] at h
  cases hm : writeMessage m with
  | error e =>
    rw [hm] at h
    cases h
  | ok b =>
    rw [hm] at h
    cases hms : writeMessages ms with
    | error e =>
      rw [hms] at h
      cases h
    | ok rest =>
      rw [hms] at h
      cases h
      obtain ⟨haccepted, rfl⟩ := writeMessage_ok_iff.1 hm
      exact ⟨haccepted, rest, rfl, rfl⟩

theorem readMessages_of_prefix {msgs : List Message} {bs : List UInt8} (hwrite : writeMessages msgs = .ok bs) {r : Reader}
    (hbytes : r.bytes <+: bs) {fuel : Nat} (hfuel : (contained msgs r.bytes.length).length < fuel) :
    readMessages fuel r = (contained msgs r.bytes.length, some (endErr (cut msgs r.bytes.length))) := by
  induction msgs generalizing bs r fuel with
  | nil =>
    cases hwrite
    have hempty : r.bytes = [] := List.prefix_nil.1 hbytes
    obtain ⟨fuel, rfl⟩ : ∃ k, fuel = k + 1 := ⟨fuel - 1, by omega⟩
    have herr := readFull_of_lt (n := 5) r (by simp [hempty])
    rw [if_pos hempty] at herr
    have hresult : (readMessage r).result = .error (.read .eof) := by
      unfold readMessage
      split
      · rename_i h
        rw [h] at herr
        cases herr
        rfl
      · rename_i h
        rw [h] at herr
        cases herr
    simp only [readMessages, hresult, hempty]
    rfl
  | cons m ms ih =>
    obtain ⟨haccepted, rest, hrest, rfl⟩ := writeMessages_cons hwrite
    obtain ⟨fuel, rfl⟩ : ∃ k, fuel = k + 1 := ⟨fuel - 1, by omega⟩
    have hread := readMessage_of_prefix haccepted hbytes
    by_cases hwhole : 5 + m.payload.length ≤ r.bytes.length
    · rw [if_pos hwhole] at hread
      obtain ⟨hresult, hleft⟩ := hread
      simp only [contained, cut, if_pos hwhole, List.length_cons] at hfuel ⊢
      -- the reader stands at the next message
      have hnext : (readMessage r).rest.bytes <+: rest := by
        obtain ⟨tail, htail⟩ := hbytes
        refine ⟨tail, ?_⟩
        have h := congrArg (List.drop (5 + m.payload.length)) htail
        rw [List.drop_append_of_le_length hwhole, ← m.length_bytes, List.drop_left, m.length_bytes] at h
        rw [hleft, h]
      have hlen : (readMessage r).rest.bytes.length = r.bytes.length - (5 + m.payload.length) := by
        rw [hleft, List.length_drop]
      have h : readMessages fuel (readMessage r).rest = _ := ih hrest hnext (by rw [hlen]; omega)
      rw [hlen] at h
      simp [readMessages, hresult, h]
    · rw [if_neg hwhole] at hread
      simp [contained, cut, if_neg hwhole, readMessages, hread]

/-- No call allocates more than the limit, and a caller is told the end of the stream exactly
if the cut is not right behind the header of a message. -/
theorem readMessages_prefix_safe_iff (msgs : List Message) (bs : List UInt8) (hwrite : writeMessages msgs = .ok bs) (r : Reader)
    (hbytes : r.bytes <+: bs) :
    (∀ input : Reader, (readMessage input).allocated ≤ maxMessageBytes) ∧
      (PrefixSafe msgs r ↔ cut msgs r.bytes.length ≠ 5) := by
  refine ⟨allocated_readMessage_le, ?_⟩
  have hread : ∀ fuel > (contained msgs r.bytes.length).length,
      readMessages fuel r = (contained msgs r.bytes.length, some (endErr (cut msgs r.bytes.length))) :=
    fun fuel hfuel => readMessages_of_prefix hwrite hbytes hfuel
  have heof : endErr (cut msgs r.bytes.length) = .read .eof ↔
      cut msgs r.bytes.length = 0 ∨ cut msgs r.bytes.length = 5 := by
    unfold endErr
    split_ifs with h
    · exact iff_of_true rfl h
    · exact iff_of_false (by simp) h
  constructor
  · rintro ⟨err, hall, hiff⟩ hcut
    have h := (hread _ (Nat.lt_succ_self _)).symm.trans (hall _ (Nat.lt_succ_self _))
    have herr : endErr (cut msgs r.bytes.length) = err := Option.some.inj (congrArg Prod.snd h)
    have hzero := hiff.1 (herr ▸ heof.2 (.inr hcut))
    omega
  · intro hcut
    refine ⟨_, hread, heof.trans ?_⟩
    omega

/-- A terminal's output and its exit, cut inside the second payload. -/
theorem cut_inside_payload :
    cut [⟨1, [104, 105]⟩, ⟨3, [123, 125]⟩] 13 = 6 ∧
      PrefixSafe [⟨1, [104, 105]⟩, ⟨3, [123, 125]⟩] ⟨[[1, 0, 0], [0, 2, 104, 105, 3, 0], [0, 0, 2, 123]], false⟩ :=
  ⟨by decide, (readMessages_prefix_safe_iff [⟨1, [104, 105]⟩, ⟨3, [123, 125]⟩]
    [1, 0, 0, 0, 2, 104, 105, 3, 0, 0, 0, 2, 123, 125] (by decide)
    ⟨[[1, 0, 0], [0, 2, 104, 105, 3, 0], [0, 0, 2, 123]], false⟩ (by decide)).2.2 (by decide)⟩

/-- The same stream, cut behind the second header, is read like one that has ended. -/
theorem eof_behind_header :
    writeMessages [⟨1, [104, 105]⟩, ⟨3, [123, 125]⟩] = .ok [1, 0, 0, 0, 2, 104, 105, 3, 0, 0, 0, 2, 123, 125] ∧
      cut [⟨1, [104, 105]⟩, ⟨3, [123, 125]⟩] 12 = 5 ∧
        readMessages 3 ⟨[[1, 0, 0, 0, 2, 104, 105, 3, 0, 0, 0, 2]], false⟩ = ([⟨1, [104, 105]⟩], some (.read .eof)) := by
  decide

end Vraxel.Agent
