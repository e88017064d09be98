import Mathlib
/-
  The parts of Go's `strings` the server uses, on the characters of a string.

  Go's functions work on bytes; on valid UTF-8, which is all a Lean `String` can hold, prefix,
  suffix and equality of the bytes are those of the characters.
-/

namespace Vraxel.Strings

def hasPrefix (s p : String) : Bool := p.toList.isPrefixOf s.toList

def hasSuffix (s p : String) : Bool := p.toList.isSuffixOf s.toList

def trimSuffix (s p : String) : String :=
  if hasSuffix s p then String.ofList (s.toList.take (s.toList.length - p.toList.length)) else s

def replaceAll (s : String) (old new : Char) : String :=
  String.ofList (s.toList.map fun c => if c = old then new else c)

def join (parts : List String) (sep : String) : String := sep.intercalate parts

def split (s : String) (sep : Char) : List String := (s.toList.splitOn sep).map String.ofList

def toLower (s : String) : String := String.ofList (s.toList.map Char.toLower)

/-- The characters `strings.TrimSpace` takes off: Unicode's white space. -/
def isSpace (c : Char) : Bool :=
  c.toNat ∈ [0x09, 0x0A, 0x0B, 0x0C, 0x0D, 0x20, 0x85, 0xA0, 0x1680, 0x2028, 0x2029, 0x202F, 0x205F, 0x3000]
    || (0x2000 ≤ c.toNat && c.toNat ≤ 0x200A)

def trimSpace (s : String) : String :=
  String.ofList ((s.toList.dropWhile isSpace).reverse.dropWhile isSpace).reverse

def runeCount (s : String) : Nat := s.toList.length

def len (s : String) : Nat := (s.toList.map Char.utf8Size).sum

theorem join_split (s : String) (sep : Char) : join (split s sep) (String.singleton sep) = s := by
  apply String.toList_injective
  rw [join, String.toList_intercalate, split, List.map_map]
  have htexts : (s.toList.splitOn sep).map (String.toList ∘ String.ofList) = s.toList.splitOn sep := by
    simp [Function.comp_def]
  rw [htexts, String.toList_singleton]
  exact List.intercalate_splitOn sep

theorem split_join {parts : List String} {sep : Char} (hparts : ∀ p ∈ parts, sep ∉ p.toList) (hne : parts ≠ []) :
    split (join parts (String.singleton sep)) sep = parts := by
  rw [split, join, String.toList_intercalate, String.toList_singleton,
    List.splitOn_intercalate sep (by simpa using hparts) (by simpa using hne), List.map_map]
  simp [Function.comp_def]

variable {s : String}

theorem hasPrefix_iff {p : String} : hasPrefix s p ↔ p.toList <+: s.toList :=
  List.isPrefixOf_iff_prefix

theorem hasSuffix_iff {p : String} : hasSuffix s p ↔ p.toList <:+ s.toList :=
  List.isSuffixOf_iff_suffix

theorem hasPrefix_eq_false_of_not_mem {p : String} {c : Char} (hs : c ∉ s.toList)
    (hp : c ∈ p.toList) : hasPrefix s p = false := by
  rw [Bool.eq_false_iff]
  intro h
  exact hs ((hasPrefix_iff.1 h).subset hp)

theorem hasSuffix_eq_false_of_not_mem {p : String} {c : Char} (hs : c ∉ s.toList)
    (hp : c ∈ p.toList) : hasSuffix s p = false := by
  rw [Bool.eq_false_iff]
  intro h
  exact hs ((hasSuffix_iff.1 h).subset hp)

theorem append_sep_inj {α : Type} {sep : α} {xs xs' ys ys' : List α} (hx : sep ∉ xs) (hx' : sep ∉ xs')
    (h : xs ++ sep :: ys = xs' ++ sep :: ys') : xs = xs' ∧ ys = ys' := by
  induction xs generalizing xs' with
  | nil =>
    cases xs' with
    | nil => simpa using h
    | cons x' xs' =>
      simp only [List.nil_append, List.cons_append, List.cons.injEq] at h
      exact absurd (h.1 ▸ List.mem_cons_self) hx'
  | cons x xs ih =>
    cases xs' with
    | nil =>
      simp only [List.nil_append, List.cons_append, List.cons.injEq] at h
      exact absurd (h.1 ▸ List.mem_cons_self) hx
    | cons x' xs' =>
      simp only [List.cons_append, List.cons.injEq] at h
      obtain ⟨rfl, rfl⟩ := ih (List.not_mem_of_not_mem_cons hx) (List.not_mem_of_not_mem_cons hx') h.2
      exact ⟨by rw [h.1], rfl⟩

/-- `strings.Cut` at one character: what stands before and after its first occurrence. -/
def cutAt (sep : Char) : List Char → Option (List Char × List Char)
  | [] => none
  | c :: cs => if c = sep then some ([], cs) else (cutAt sep cs).map fun p => (c :: p.1, p.2)

theorem cutAt_eq_some_iff {sep : Char} {cs xs ys : List Char} :
    cutAt sep cs = some (xs, ys) ↔ cs = xs ++ sep :: ys ∧ sep ∉ xs := by
  induction cs generalizing xs with
  | nil => simp [cutAt]
  | cons c cs ih =>
    by_cases hc : c = sep
    · subst hc
      rw [cutAt, if_pos rfl]
      cases xs with
      | nil => simp
      | cons x xs =>
        simp only [Option.some.injEq, Prod.mk.injEq, List.cons_append, List.cons.injEq, List.mem_cons]
        constructor
        · rintro ⟨h, -⟩
          cases h
        · rintro ⟨⟨h, -⟩, hx⟩
          exact absurd (.inl h) hx
    · rw [cutAt, if_neg hc]
      cases xs with
      | nil => simp [hc]
      | cons x xs =>
        simp only [Option.map_eq_some_iff, Prod.mk.injEq, Prod.exists, List.cons.injEq, List.cons_append,
          List.mem_cons, not_or]
        constructor
        · rintro ⟨a, b, hab, ⟨rfl, rfl⟩, rfl⟩
          obtain ⟨rfl, ha⟩ := ih.1 hab
          exact ⟨⟨rfl, rfl⟩, fun h => hc h.symm, ha⟩
        · rintro ⟨⟨rfl, rfl⟩, -, hx⟩
          exact ⟨xs, ys, ih.2 ⟨rfl, hx⟩, ⟨rfl, rfl⟩, rfl⟩

/-! Trimming and lowering. -/

theorem toList_toLower (s : String) : (toLower s).toList = s.toList.map Char.toLower := String.toList_ofList

theorem toLower_eq_self_iff : toLower s = s ↔ ∀ c ∈ s.toList, c.toLower = c := by
  rw [← String.toList_inj, toList_toLower]
  constructor
  · intro h c hc
    exact List.map_inj_left.1 (h.trans (List.map_id _).symm) c hc
  · intro h
    exact (List.map_congr_left h).trans (List.map_id _)

theorem toLower_toLower (v : String) : toLower (toLower v) = toLower v := by
  rw [toLower_eq_self_iff, toList_toLower]
  intro c hc
  obtain ⟨c', -, rfl⟩ := List.mem_map.1 hc
  exact Char.toLower_toLower_eq_toLower c'

theorem isSpace_eq_false {c : Char} (h : 0x21 ≤ c.toNat ∧ c.toNat ≤ 0x7E) : isSpace c = false := by
  simp [isSpace]
  omega

theorem isSpace_toLower (c : Char) : isSpace c.toLower = isSpace c := by
  by_cases h : c.isUpper
  · have hrange : 65 ≤ c.toNat ∧ c.toNat ≤ 90 := by
      simpa [Char.isUpper, UInt32.le_iff_toNat_le] using h
    have hlower : c.toLower.toNat = c.toNat + 32 := by
      rw [Char.toLower_eq_of_isUpper h, Char.toNat_ofNat, if_pos (.inl (by omega))]
    rw [isSpace_eq_false (by omega), isSpace_eq_false (by omega)]
  · rw [Char.toLower_eq_of_not_isUpper h]

theorem not_mem_of_mem_split (s : String) (sep : Char) : ∀ p ∈ split s sep, sep ∉ p.toList := by
  have hlist : ∀ cs : List Char, ∀ x ∈ cs.splitOn sep, sep ∉ x := by
    intro cs
    rw [List.splitOn]
    induction cs with
    | nil => simp
    | cons c cs ih =>
      rw [List.splitOnP_cons_eq_if_modifyHead]
      split
      · simpa using ih
      · rename_i hc
        cases hs : List.splitOnP (· == sep) cs with
        | nil => simp
        | cons x xs =>
          rw [hs] at ih
          rw [List.modifyHead_cons, List.forall_mem_cons, List.mem_cons, not_or]
          rw [List.forall_mem_cons] at ih
          exact ⟨⟨fun h => hc (by simp [h]), ih.1⟩, ih.2⟩
  simpa [split] using hlist s.toList

def Trimmed (s : String) : Prop :=
  (∀ c ∈ s.toList.head?, isSpace c = false) ∧ ∀ c ∈ s.toList.getLast?, isSpace c = false

theorem ends_of_trim (p : Char → Bool) (l : List Char) :
    (∀ c ∈ ((l.dropWhile p).rdropWhile p).head?, p c = false) ∧
      ∀ c ∈ ((l.dropWhile p).rdropWhile p).getLast?, p c = false := by
  constructor
  · intro c hc
    obtain ⟨rest, hprefix⟩ := List.rdropWhile_prefix p (l.dropWhile p)
    have hhead := List.head?_dropWhile_not p l
    rw [← hprefix, List.head?_append, hc] at hhead
    exact hhead
  · intro c hc
    obtain ⟨hne, rfl⟩ := List.mem_getLast?_eq_getLast hc
    simpa using List.rdropWhile_last_not p _ hne

theorem trimmed_trimSpace (s : String) : Trimmed (trimSpace s) := by
  have hlist : (trimSpace s).toList = (s.toList.dropWhile isSpace).rdropWhile isSpace := String.toList_ofList
  rw [Trimmed, hlist]
  exact ends_of_trim isSpace s.toList

theorem trimSpace_eq_self (h : Trimmed s) : trimSpace s = s := by
  apply String.toList_injective
  have hlist : (trimSpace s).toList = (s.toList.dropWhile isSpace).rdropWhile isSpace := String.toList_ofList
  have hdrop : s.toList.dropWhile isSpace = s.toList := by
    cases hs : s.toList with
    | nil => rfl
    | cons c cs => rw [List.dropWhile_cons_of_neg (by simp [h.1 c (by simp [hs])])]
  rw [hlist, hdrop, List.rdropWhile_eq_self_iff]
  intro hne
  simp [h.2 _ (List.getLast?_eq_some_getLast hne)]

theorem Trimmed.toLower (h : Trimmed s) : Trimmed (toLower s) := by
  rw [Trimmed, toList_toLower, List.head?_map, List.getLast?_map]
  constructor
  · rintro c hc
    obtain ⟨c', hc', rfl⟩ := Option.mem_map.1 hc
    rw [isSpace_toLower]
    exact h.1 c' hc'
  · rintro c hc
    obtain ⟨c', hc', rfl⟩ := Option.mem_map.1 hc
    rw [isSpace_toLower]
    exact h.2 c' hc'

end Vraxel.Strings
