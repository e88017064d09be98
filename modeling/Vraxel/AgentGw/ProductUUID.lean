import Vraxel.AgentGw.Identity
/-
  Product UUIDs as an identity (`pkg/apis/agentgw/identity.go`).

  Firmware writes the first three fields of a UUID in either byte order, so a UUID is compared in
  both (`sameProductUUID`), and values that whole batches of boards share are refused.
-/

namespace Vraxel.AgentGw

open Db Base64

/-! Every text, accepted or not. -/

theorem toList_join5 (a b c d e : String) : (Strings.join [a, b, c, d, e] "-").toList =
    a.toList ++ '-' :: (b.toList ++ '-' :: (c.toList ++ '-' :: (d.toList ++ '-' :: e.toList))) := by
  simp [Strings.join]

/-- If the text has five fields and the first three are digits, these are in lower case. -/
def LowerFields (v : String) : Prop :=
  match Strings.split v '-' with
  | [a, b, c, _, _] => (Hex.flipBytes a).isSome → (Hex.flipBytes b).isSome → (Hex.flipBytes c).isSome →
    ∀ p ∈ [a, b, c], ∀ ch ∈ p.toList, Hex.isLower ch
  | _ => True

structure SwappedUUID (v w : String) where
  a : String
  b : String
  c : String
  d : String
  e : String
  a' : String
  b' : String
  c' : String
  split : Strings.split v '-' = [a, b, c, d, e]
  ha : Hex.flipBytes a = some a'
  hb : Hex.flipBytes b = some b'
  hc : Hex.flipBytes c = some c'
  join : w = Strings.join [a', b', c', d, e] "-"

theorem swapUUIDByteOrder_cases (v : String) :
    (swapUUIDByteOrder v = v ∧ LowerFields v) ∨ Nonempty (SwappedUUID v (swapUUIDByteOrder v)) := by
  rw [swapUUIDByteOrder, LowerFields]
  rcases hsplit : Strings.split v '-' with _ | ⟨a, _ | ⟨b, _ | ⟨c, _ | ⟨d, _ | ⟨e, _ | ⟨f, fields⟩⟩⟩⟩⟩⟩
  on_goal 6 =>
    dsimp only
    cases ha : Hex.flipBytes a with
    | none => exact .inl ⟨rfl, fun h => by cases h⟩
    | some a' =>
      cases hb : Hex.flipBytes b with
      | none => exact .inl ⟨rfl, fun _ h => by cases h⟩
      | some b' =>
        cases hc : Hex.flipBytes c with
        | none => exact .inl ⟨rfl, fun _ _ h => by cases h⟩
        | some c' => exact .inr ⟨⟨a, b, c, d, e, a', b', c', hsplit, ha, hb, hc, rfl⟩⟩
  all_goals exact .inl ⟨rfl, trivial⟩

namespace SwappedUUID

variable {v w : String} (s : SwappedUUID v w)
include s

theorem text_eq : v = Strings.join [s.a, s.b, s.c, s.d, s.e] "-" := by
  rw [← s.split]
  exact (Strings.join_split v '-').symm

theorem no_dash {x y z : String} (h : ∀ p ∈ [x, y, z], ∀ ch ∈ p.toList, Hex.isLower ch) :
    Strings.split (Strings.join [x, y, z, s.d, s.e] "-") '-' = [x, y, z, s.d, s.e] := by
  apply Strings.split_join _ (by simp)
  have hrest := Strings.not_mem_of_mem_split v '-'
  rw [s.split] at hrest
  intro p hp
  simp only [List.mem_cons, List.not_mem_nil, or_false] at hp
  rcases hp with rfl | rfl | rfl | rfl | rfl
  · exact fun hdash => absurd (h _ (by simp) '-' hdash) (by decide)
  · exact fun hdash => absurd (h _ (by simp) '-' hdash) (by decide)
  · exact fun hdash => absurd (h _ (by simp) '-' hdash) (by decide)
  · exact hrest _ (by simp)
  · exact hrest _ (by simp)

theorem lower : ∀ p ∈ [s.a', s.b', s.c'], ∀ ch ∈ p.toList, Hex.isLower ch := by
  obtain ⟨-, -, -, ha, -⟩ := Hex.flipBytes_of_some s.ha
  obtain ⟨-, -, -, hb, -⟩ := Hex.flipBytes_of_some s.hb
  obtain ⟨-, -, -, hc, -⟩ := Hex.flipBytes_of_some s.hc
  simp only [List.forall_mem_cons, List.not_mem_nil, false_implies, implies_true, and_true]
  exact ⟨ha, hb, hc⟩

theorem swap_eq_iff : swapUUIDByteOrder w = v ↔ LowerFields v := by
  obtain ⟨x, hx, -, -, hxa, -⟩ := Hex.flipBytes_of_some s.ha
  obtain ⟨y, hy, -, -, hyb, -⟩ := Hex.flipBytes_of_some s.hb
  obtain ⟨z, hz, -, -, hzc, -⟩ := Hex.flipBytes_of_some s.hc
  obtain ⟨-, -, -, hlx, -⟩ := Hex.flipBytes_of_some hx
  obtain ⟨-, -, -, hly, -⟩ := Hex.flipBytes_of_some hy
  obtain ⟨-, -, -, hlz, -⟩ := Hex.flipBytes_of_some hz
  have hswap : swapUUIDByteOrder w = Strings.join [x, y, z, s.d, s.e] "-" := by
    simp [swapUUIDByteOrder, s.join, s.no_dash s.lower, hx, hy, hz]
  have hinj : Strings.join [x, y, z, s.d, s.e] "-" = v ↔ x = s.a ∧ y = s.b ∧ z = s.c := by
    constructor
    · intro h
      have hsplit := s.no_dash (x := x) (y := y) (z := z)
        (by simpa only [List.forall_mem_cons, List.not_mem_nil, false_implies, implies_true, and_true] using ⟨hlx, hly, hlz⟩)
      rw [h, s.split] at hsplit
      simp only [List.cons.injEq, and_true] at hsplit
      exact ⟨hsplit.1.symm, hsplit.2.1.symm, hsplit.2.2.symm⟩
    · rintro ⟨rfl, rfl, rfl⟩
      exact s.text_eq.symm
  rw [hswap, hinj, hxa, hyb, hzc, LowerFields, s.split]
  simp [s.ha, s.hb, s.hc]

theorem normal (hcase : Strings.toLower v = v) (htrim : Strings.Trimmed v) :
    Strings.toLower w = w ∧ Strings.Trimmed w := by
  have hdash : Strings.isSpace '-' = false := by decide
  have hlower := s.lower
  have hv := s.text_eq
  rw [Strings.toLower_eq_self_iff, hv, toList_join5] at hcase
  rw [Strings.Trimmed, hv, toList_join5] at htrim
  rw [Strings.toLower_eq_self_iff, Strings.Trimmed, s.join, toList_join5]
  simp only [List.forall_mem_cons, List.not_mem_nil, false_implies, implies_true, and_true] at hlower
  simp only [List.forall_mem_append, List.forall_mem_cons] at hcase ⊢
  obtain ⟨-, hd, -, -, -, -, htail⟩ := hcase
  refine ⟨⟨fun c hc => Hex.toLower_of_isLower (hlower.1 c hc), hd, fun c hc => Hex.toLower_of_isLower (hlower.2.1 c hc),
    hd, fun c hc => Hex.toLower_of_isLower (hlower.2.2 c hc), hd, htail⟩, ?_, ?_⟩
  · intro c hc
    cases ha : s.a'.toList with
    | nil =>
      rw [ha] at hc
      cases hc
      exact hdash
    | cons x xs =>
      rw [ha] at hc
      cases hc
      exact Hex.isSpace_of_isLower (hlower.1 c (by simp [ha]))
  · simpa [List.getLast?_append, List.getLast?_cons] using htrim.2

end SwappedUUID

theorem swapUUIDByteOrder_swap_iff (v : String) : swapUUIDByteOrder (swapUUIDByteOrder v) = v ↔ LowerFields v := by
  rcases swapUUIDByteOrder_cases v with ⟨heq, hlower⟩ | ⟨⟨s⟩⟩
  · rw [heq, heq]
    exact iff_of_true rfl hlower
  · exact s.swap_eq_iff

theorem lowerFields_of_toLower {v : String} (h : Strings.toLower v = v) : LowerFields v := by
  rw [Strings.toLower_eq_self_iff] at h
  rw [LowerFields]
  split
  · rename_i a b c d e hsplit
    have hmem : ∀ p ∈ [a, b, c, d, e], ∀ ch ∈ p.toList, ch.toLower = ch := by
      have hv := Strings.join_split v '-'
      rw [hsplit] at hv
      rw [← hv, show String.singleton '-' = "-" from rfl, toList_join5] at h
      simpa [or_imp, forall_and] using h
    have hfield : ∀ p ∈ [a, b, c, d, e], (Hex.flipBytes p).isSome → ∀ ch ∈ p.toList, Hex.isLower ch := by
      intro p hp hsome
      obtain ⟨t, ht⟩ := Option.isSome_iff_exists.1 hsome
      obtain ⟨-, -, -, -, -, hlower⟩ := Hex.flipBytes_of_some ht
      exact hlower (hmem p hp)
    intro ha hb hc
    simp only [List.forall_mem_cons, List.not_mem_nil, false_implies, implies_true, and_true]
    exact ⟨hfield a (by simp) ha, hfield b (by simp) hb, hfield c (by simp) hc⟩
  · trivial

theorem normaliseProductUUID_eq_empty_iff (v : String) : normaliseProductUUID v = "" ↔
    ¬ uuidShape (Strings.toLower (Strings.trimSpace v)) ∨ Strings.toLower (Strings.trimSpace v) ∈ junkProductUUIDs := by
  rw [normaliseProductUUID]
  split
  · rename_i h
    simpa using h
  · rename_i h
    rw [Bool.not_eq_true, Bool.or_eq_false_iff, Bool.not_eq_false'] at h
    refine iff_of_false (ne_empty_of_uuidShape h.1) ?_
    rw [not_or, not_not]
    exact ⟨h.1, by simpa using h.2⟩

/-- A text that is normalised already stays so under the swap, and is a UUID exactly if its swap is. -/
theorem normal_swap {w : String} (hcase : Strings.toLower w = w) (htrim : Strings.Trimmed w) :
    Strings.toLower (Strings.trimSpace (swapUUIDByteOrder w)) = swapUUIDByteOrder w ∧
      (uuidShape (swapUUIDByteOrder w) ↔ uuidShape w) := by
  have hnormal : Strings.toLower (swapUUIDByteOrder w) = swapUUIDByteOrder w ∧ Strings.Trimmed (swapUUIDByteOrder w) := by
    rcases swapUUIDByteOrder_cases w with ⟨heq, -⟩ | ⟨⟨s⟩⟩
    · rw [heq]
      exact ⟨hcase, htrim⟩
    · exact s.normal hcase htrim
  refine ⟨by rw [Strings.trimSpace_eq_self hnormal.2, hnormal.1], ?_, fun h => (swapUUIDByteOrder_swap h).1⟩
  intro h
  have hback := (swapUUIDByteOrder_swap h).1
  rwa [(swapUUIDByteOrder_swap_iff w).2 (lowerFields_of_toLower hcase)] at hback

def counting : List String := ["03000200-0400-0500-0006-000700080009", "00020003-0004-0005-0006-000700080009"]

theorem mem_junk_swap_iff {w : String} (hw : uuidShape w) :
    (w ∈ junkProductUUIDs ↔ swapUUIDByteOrder w ∈ junkProductUUIDs) ↔ w ∉ counting := by
  have hswap : ∀ x, uuidShape x → (swapUUIDByteOrder w = x ↔ w = swapUUIDByteOrder x) := by
    intro x hx
    constructor
    · rintro rfl
      exact (swapUUIDByteOrder_swap hw).2.symm
    · rintro rfl
      exact (swapUUIDByteOrder_swap hx).2
  have hshape : ∀ x ∈ junkProductUUIDs, uuidShape x := by decide
  have hself : junkProductUUIDs.map swapUUIDByteOrder =
      ["00000000-0000-0000-0000-000000000000", "ffffffff-ffff-ffff-ffff-ffffffffffff",
        "00020003-0004-0005-0006-000700080009"] := by decide
  have hmem : swapUUIDByteOrder w ∈ junkProductUUIDs ↔ w ∈ junkProductUUIDs.map swapUUIDByteOrder := by
    rw [List.mem_map]
    constructor
    · intro h
      exact ⟨_, h, (swapUUIDByteOrder_swap hw).2⟩
    · rintro ⟨x, hx, heq⟩
      rwa [(hswap x (hshape x hx)).2 heq.symm]
  rw [hmem, hself, junkProductUUIDs, counting]
  constructor
  · intro h hw
    rcases List.mem_pair.1 hw with rfl | rfl
    · exact absurd (h.1 (by decide)) (by decide)
    · exact absurd (h.2 (by decide)) (by decide)
  · intro h
    simp only [List.mem_cons, List.not_mem_nil, or_false, not_or] at h ⊢
    simp [h.1, h.2]

def AcceptedUUID : Type := {u : String // u ≠ "" ∧ ∃ v, normaliseProductUUID v = u}

theorem AcceptedUUID.uuidShape (u : AcceptedUUID) : uuidShape u.1 := by
  obtain ⟨u, hne, v, rfl⟩ := u
  have h := mt (normaliseProductUUID_eq_empty_iff v).2 hne
  rw [not_or, not_not] at h
  dsimp only
  rw [normaliseProductUUID, if_neg (by simp [h.1, h.2])]
  exact h.1

theorem equivalence_sameProductUUID : Equivalence fun a b : AcceptedUUID => (sameProductUUID a.1 b.1 : Prop) := by
  refine ⟨fun a => ?_, fun {a b} h => ?_, fun {a b c} hab hbc => ?_⟩
  · rw [sameProductUUID_iff a.uuidShape a.uuidShape]
    simp
  · rw [sameProductUUID_iff a.uuidShape b.uuidShape, List.mem_pair] at h
    rw [sameProductUUID_iff b.uuidShape a.uuidShape, List.mem_pair]
    rcases h with h | h
    · exact .inl h.symm
    · exact .inr (by rw [h, (swapUUIDByteOrder_swap a.uuidShape).2])
  · rw [sameProductUUID_iff a.uuidShape b.uuidShape, List.mem_pair] at hab
    rw [sameProductUUID_iff b.uuidShape c.uuidShape, List.mem_pair] at hbc
    rw [sameProductUUID_iff a.uuidShape c.uuidShape, List.mem_pair]
    rcases hab with hab | hab
    · rwa [hab] at hbc
    · rw [hab, (swapUUIDByteOrder_swap a.uuidShape).2] at hbc
      exact hbc.symm

theorem at_most_two (a b c : AcceptedUUID) (hb : sameProductUUID a.1 b.1) (hc : sameProductUUID a.1 c.1) :
    a = b ∨ a = c ∨ b = c := by
  rw [sameProductUUID_iff a.uuidShape b.uuidShape, List.mem_pair] at hb
  rw [sameProductUUID_iff a.uuidShape c.uuidShape, List.mem_pair] at hc
  rcases hb with hb | hb
  · exact .inl (Subtype.ext hb.symm)
  · rcases hc with hc | hc
    · exact .inr (.inl (Subtype.ext hc.symm))
    · exact .inr (.inr (Subtype.ext (hb.trans hc.symm)))

/-- The swap goes back and forth between UUIDs, and on those that are accepted it gives classes
    of two; a text is refused with its swap unless it is `counting`. -/
theorem product_uuid_identity_iff (v : String) :
    (uuidShape v → uuidShape (swapUUIDByteOrder v) ∧ swapUUIDByteOrder (swapUUIDByteOrder v) = v) ∧
    (swapUUIDByteOrder (swapUUIDByteOrder v) = v ↔ LowerFields v) ∧
    (Equivalence fun a b : AcceptedUUID => (sameProductUUID a.1 b.1 : Prop)) ∧
    (∀ a b c : AcceptedUUID, sameProductUUID a.1 b.1 → sameProductUUID a.1 c.1 → a = b ∨ a = c ∨ b = c) ∧
    ((normaliseProductUUID v = "" ↔
        normaliseProductUUID (swapUUIDByteOrder (Strings.toLower (Strings.trimSpace v))) = "") ↔
      Strings.toLower (Strings.trimSpace v) ∉ counting) := by
  refine ⟨swapUUIDByteOrder_swap, swapUUIDByteOrder_swap_iff v, equivalence_sameProductUUID, at_most_two, ?_⟩
  obtain ⟨hnormal, hshape⟩ := normal_swap (Strings.toLower_toLower (Strings.trimSpace v)) (Strings.trimmed_trimSpace v).toLower
  rw [normaliseProductUUID_eq_empty_iff, normaliseProductUUID_eq_empty_iff, hnormal, hshape]
  generalize Strings.toLower (Strings.trimSpace v) = w
  by_cases hw : uuidShape w
  · simpa only [hw, not_true_eq_false, false_or] using mem_junk_swap_iff hw
  · refine iff_of_true (iff_of_true (.inl hw) (.inl hw)) ?_
    intro hmem
    exact hw ((by decide : ∀ x ∈ counting, uuidShape x) w hmem)

/-- The swapped spelling of a firmware default is accepted. -/
theorem default_accepted_swapped :
    normaliseProductUUID "03000200-0400-0500-0006-000700080009" = "" ∧
      normaliseProductUUID (swapUUIDByteOrder
        (Strings.toLower (Strings.trimSpace "03000200-0400-0500-0006-000700080009"))) ≠ "" := by
  decide +kernel

end Vraxel.AgentGw
