import Vraxel.Iam.Roles
/-
  The language of permission patterns.

  A pattern is a list of segments. A star at its front and a star at its end each stand for one or
  more segments of a code.
-/

namespace Vraxel.Iam

open Strings

def segments (s : String) : List String := split s ':'

def Words (s : String) : Prop := ∀ seg ∈ segments s, isSegment seg = true

def IsCode (code : String) : Prop := 2 ≤ (segments code).length ∧ Words code

instance (s : String) : Decidable (Words s) := inferInstanceAs (Decidable (∀ seg ∈ segments s, _))

instance (code : String) : Decidable (IsCode code) := inferInstanceAs (Decidable (_ ∧ _))

variable {a b c p q r s t : String}

theorem segments_colon (a b : String) : segments (a ++ ":" ++ b) = segments a ++ segments b := by
  have hlist : (a ++ ":" ++ b).toList = a.toList ++ ':' :: b.toList := by simp
  rw [segments, split, hlist, List.splitOn_append_cons_self, List.map_append]
  rfl

theorem segments_ne_nil (s : String) : segments s ≠ [] := by
  simp [segments, split, List.splitOn_ne_nil]

theorem join_segments (s : String) : join (segments s) ":" = s := join_split s ':'

theorem colon_not_mem_of_isSegment {seg : String} (h : isSegment seg = true) : ':' ∉ seg.toList := by
  intro hmem
  rw [isSegment] at h
  split at h
  · cases h
  · next x xs heq =>
    rw [heq] at hmem
    simp only [Bool.and_eq_true, List.all_eq_true] at h
    rcases List.mem_cons.1 hmem with rfl | hmem
    · exact absurd h.1 (by decide)
    · exact absurd (h.2 _ hmem) (by decide)

theorem segments_join {segs : List String} (h : ∀ seg ∈ segs, isSegment seg = true) (hne : segs ≠ []) :
    segments (join segs ":") = segs :=
  split_join (fun seg hseg => colon_not_mem_of_isSegment (h seg hseg)) hne

theorem words_join {segs : List String} (h : ∀ seg ∈ segs, isSegment seg = true) (hne : segs ≠ []) :
    Words (join segs ":") := by
  rwa [Words, segments_join h hne]

theorem eq_colon_of_segments {front back : List String} (h : segments c = front ++ back) (hfront : front ≠ [])
    (hback : back ≠ []) : c = join front ":" ++ ":" ++ join back ":" := by
  rw [← join_segments c, h]
  exact String.intercalate_append_of_ne_nil hfront hback

theorem star_not_mem (h : Words s) : "*" ∉ segments s := fun hmem => by
  have hstar := h "*" hmem
  cases hstar

theorem words_colon : Words (a ++ ":" ++ b) ↔ Words a ∧ Words b := by
  simp only [Words, segments_colon, List.forall_mem_append]

theorem two_le_length_colon (a b : String) : 2 ≤ (segments (a ++ ":" ++ b)).length := by
  have h₁ := List.length_pos_iff.2 (segments_ne_nil a)
  have h₂ := List.length_pos_iff.2 (segments_ne_nil b)
  rw [segments_colon, List.length_append]
  omega

theorem isCode_colon (ha : Words a) (hb : Words b) : IsCode (a ++ ":" ++ b) :=
  ⟨two_le_length_colon a b, words_colon.2 ⟨ha, hb⟩⟩

theorem hasPrefix_colon_iff : hasPrefix c (q ++ ":") ↔ ∃ r, c = q ++ ":" ++ r := by
  rw [hasPrefix_iff]
  constructor
  · rintro ⟨r, hr⟩
    exact ⟨String.ofList r, String.toList_injective (by simp [← hr])⟩
  · rintro ⟨r, rfl⟩
    exact ⟨r.toList, by simp⟩

theorem hasSuffix_colon_iff : hasSuffix c (":" ++ s) ↔ ∃ f, c = f ++ ":" ++ s := by
  rw [hasSuffix_iff]
  constructor
  · rintro ⟨f, hf⟩
    exact ⟨String.ofList f, String.toList_injective (by simp [← hf])⟩
  · rintro ⟨f, rfl⟩
    exact ⟨f.toList, by simp⟩

/-! Matching, by the form of the pattern. -/

theorem matchPermission_under (hq : q ≠ "*") : matchPermission (q ++ ":" ++ "*") c = hasPrefix c (q ++ ":") := by
  have hne : q ++ ":" ++ "*" ≠ "*:*" := by
    intro h
    have hseg : segments q ++ ["*"] = ["*"] ++ ["*"] := (segments_colon q "*").symm.trans (congrArg segments h)
    apply hq
    rw [← join_segments q, List.append_inj_left' hseg rfl]
    rfl
  have hsuffix : hasSuffix (q ++ ":" ++ "*") ":*" = true := hasSuffix_colon_iff.2 ⟨q, rfl⟩
  have htake : String.ofList ((q ++ ":" ++ "*").toList.take ((q ++ ":" ++ "*").toList.length - 2)) = q := by
    simp
  rw [matchPermission, if_neg hne, if_pos hsuffix, htake]

theorem Words.ne_star (h : Words s) : s ≠ "*" := by
  rintro rfl
  exact star_not_mem h (by decide)

theorem head_ne_star (h : Words s) : (segments s).head? ≠ some "*" := fun hhead =>
  star_not_mem h (List.mem_of_head? hhead)

theorem getLast_ne_star (h : Words s) : (segments s).getLast? ≠ some "*" := fun hlast =>
  star_not_mem h (List.mem_of_getLast? hlast)

theorem getLast_under (q : String) : (segments (q ++ ":" ++ "*")).getLast? = some "*" := by
  rw [segments_colon]
  exact List.getLast?_concat

theorem head_ending (s : String) : (segments ("*" ++ ":" ++ s)).head? = some "*" := by
  rw [segments_colon]
  rfl

theorem hasSuffix_star_eq_false (h : (segments p).getLast? ≠ some "*") : hasSuffix p ":*" = false := by
  rw [Bool.eq_false_iff]
  intro hsuffix
  obtain ⟨q, rfl⟩ := (hasSuffix_colon_iff (s := "*")).1 hsuffix
  exact h (getLast_under q)

theorem hasPrefix_star_eq_false (h : (segments p).head? ≠ some "*") : hasPrefix p "*:" = false := by
  rw [Bool.eq_false_iff]
  intro hprefix
  obtain ⟨s, rfl⟩ := (hasPrefix_colon_iff (q := "*")).1 hprefix
  exact h (head_ending s)

theorem matchPermission_ending (hs : (segments s).getLast? ≠ some "*") :
    matchPermission ("*" ++ ":" ++ s) c = hasSuffix c (":" ++ s) := by
  have hlast : hasSuffix ("*" ++ ":" ++ s) ":*" = false := by
    apply hasSuffix_star_eq_false
    rwa [segments_colon, List.getLast?_append_of_ne_nil _ (segments_ne_nil s)]
  have hne : "*" ++ ":" ++ s ≠ "*:*" := by
    intro h
    rw [h] at hlast
    exact absurd hlast (by decide)
  have hprefix : hasPrefix ("*" ++ ":" ++ s) "*:" = true := hasPrefix_colon_iff.2 ⟨s, rfl⟩
  have hdrop : String.ofList (("*" ++ ":" ++ s).toList.drop 2) = s := String.toList_injective (by simp)
  rw [matchPermission, if_neg hne, hlast, if_neg Bool.false_ne_true, if_pos hprefix, hdrop]

theorem matchPermission_code (hp : Words p) : matchPermission p c = (p == c) := by
  have hne : p ≠ "*:*" := by
    rintro rfl
    exact star_not_mem hp (by decide)
  simp [matchPermission, hne, hasSuffix_star_eq_false (getLast_ne_star hp), hasPrefix_star_eq_false (head_ne_star hp)]

/-! The forms of patterns. -/

/-- A pattern with at most one star, or the one that matches everything. -/
inductive Proper : String → Prop where
  | all : Proper "*:*"
  | under {q : String} (hq : Words q) : Proper (q ++ ":" ++ "*")
  | ending {s : String} (hs : Words s) : Proper ("*" ++ ":" ++ s)
  | code {c : String} (hc : IsCode c) : Proper c

/-- Stars at both ends, and something between them. -/
def Between (p : String) : Prop := ∃ a, Words a ∧ p = "*" ++ ":" ++ a ++ ":" ++ "*"

theorem proper_or_between (h : validatePermissionPattern p = []) : Proper p ∨ Between p := by
  have hvalid : validPatternRegexp p = true := by
    unfold validatePermissionPattern at h
    split at h
    · cases h
    · by_contra hno
      simp [fieldTest, hno] at h
  unfold validPatternRegexp at hvalid
  split at hvalid
  · next first second rest hsplit =>
    have hp : segments p = first :: second :: rest := hsplit
    simp only [Bool.or_eq_true, Bool.and_eq_true, decide_eq_true_eq, List.all_eq_true] at hvalid
    rcases hvalid with (⟨⟨hfirst, hmid⟩, hlast⟩ | ⟨rfl, htail⟩) | ⟨hfirst, htail⟩
    · obtain ⟨mid, hmid'⟩ := List.getLast?_eq_some_iff.1 hlast
      rw [hmid', List.dropLast_concat] at hmid
      rw [hmid', ← List.cons_append] at hp
      have heq := eq_colon_of_segments hp (List.cons_ne_nil _ _) (List.cons_ne_nil _ _)
      rcases hfirst with rfl | hfirst
      · by_cases hnil : mid = []
        · subst hnil
          exact .inl (heq ▸ .all)
        · right
          refine ⟨join mid ":", words_join hmid hnil, ?_⟩
          have hfront : join ("*" :: mid) ":" = "*" ++ ":" ++ join mid ":" :=
            String.intercalate_append_of_ne_nil (List.cons_ne_nil "*" []) hnil
          rw [heq, hfront]
          rfl
      · left
        rw [heq]
        exact .under (words_join (List.forall_mem_cons.2 ⟨hfirst, hmid⟩) (List.cons_ne_nil _ _))
    · left
      rw [eq_colon_of_segments (show segments p = ["*"] ++ _ from hp) (List.cons_ne_nil _ _) (List.cons_ne_nil _ _)]
      exact .ending (words_join htail (List.cons_ne_nil _ _))
    · left
      refine .code ⟨?_, ?_⟩
      · rw [hp]
        simp
      · rw [Words, hp]
        exact List.forall_mem_cons.2 ⟨hfirst, htail⟩
  · cases hvalid

def inner (pattern : List String) : List String :=
  let rest := if pattern.head? = some "*" then pattern.tail else pattern
  if rest.getLast? = some "*" then rest.dropLast else rest

/-- The code is the inner segments, with one or more segments in the place of each star. -/
def Matches (pattern code : List String) : Prop :=
  ∃ front back, code = front ++ inner pattern ++ back ∧ (front ≠ [] ↔ pattern.head? = some "*") ∧
    (back ≠ [] ↔ pattern.getLast? = some "*")

theorem hasPrefix_segments_iff : hasPrefix c (q ++ ":") ↔ ∃ back, back ≠ [] ∧ segments c = segments q ++ back := by
  rw [hasPrefix_colon_iff]
  constructor
  · rintro ⟨r, rfl⟩
    exact ⟨segments r, segments_ne_nil r, segments_colon q r⟩
  · rintro ⟨back, hback, hseg⟩
    have heq := eq_colon_of_segments hseg (segments_ne_nil q) hback
    rw [join_segments] at heq
    exact ⟨join back ":", heq⟩

theorem hasSuffix_segments_iff : hasSuffix c (":" ++ s) ↔ ∃ front, front ≠ [] ∧ segments c = front ++ segments s := by
  rw [hasSuffix_colon_iff]
  constructor
  · rintro ⟨f, rfl⟩
    exact ⟨segments f, segments_ne_nil f, segments_colon f s⟩
  · rintro ⟨front, hfront, hseg⟩
    have heq := eq_colon_of_segments hseg hfront (segments_ne_nil s)
    rw [join_segments] at heq
    exact ⟨join front ":", heq⟩

theorem head_under (hq : Words q) : (segments (q ++ ":" ++ "*")).head? ≠ some "*" := by
  rw [segments_colon, List.head?_append_of_ne_nil _ (segments_ne_nil q)]
  exact head_ne_star hq

theorem getLast_ending (hs : Words s) : (segments ("*" ++ ":" ++ s)).getLast? ≠ some "*" := by
  rw [segments_colon, List.getLast?_append_of_ne_nil _ (segments_ne_nil s)]
  exact getLast_ne_star hs

theorem inner_under (hq : Words q) : inner (segments (q ++ ":" ++ "*")) = segments q := by
  rw [inner, if_neg (head_under hq), if_pos (getLast_under q), segments_colon]
  exact List.dropLast_concat

theorem inner_ending (hs : Words s) : inner (segments ("*" ++ ":" ++ s)) = segments s := by
  rw [inner, if_pos (head_ending s), segments_colon]
  exact if_neg (getLast_ne_star hs)

theorem inner_code (hp : Words p) : inner (segments p) = segments p := by
  simp [inner, head_ne_star hp, getLast_ne_star hp]

theorem matches_all (hc : 2 ≤ (segments c).length) : Matches ["*", "*"] (segments c) := by
  cases hseg : segments c with
  | nil => exact absurd hseg (segments_ne_nil c)
  | cons first rest =>
    refine ⟨[first], rest, by simp [inner], by simp, ?_⟩
    have hrest : rest ≠ [] := by
      rintro rfl
      rw [hseg] at hc
      simp at hc
    simp [hrest]

theorem matches_under (hq : Words q) : Matches (segments (q ++ ":" ++ "*")) (segments c) ↔ hasPrefix c (q ++ ":") := by
  rw [hasPrefix_segments_iff, Matches, inner_under hq]
  constructor
  · rintro ⟨front, back, hseg, hfront, hback⟩
    have hnil : front = [] := not_ne_iff.1 (mt hfront.1 (head_under hq))
    exact ⟨back, hback.2 (getLast_under q), by simpa [hnil] using hseg⟩
  · rintro ⟨back, hback, hseg⟩
    exact ⟨[], back, by simpa using hseg, iff_of_false (by simp) (head_under hq), iff_of_true hback (getLast_under q)⟩

theorem matches_ending (hs : Words s) : Matches (segments ("*" ++ ":" ++ s)) (segments c) ↔ hasSuffix c (":" ++ s) := by
  rw [hasSuffix_segments_iff, Matches, inner_ending hs]
  constructor
  · rintro ⟨front, back, hseg, hfront, hback⟩
    have hnil : back = [] := not_ne_iff.1 (mt hback.1 (getLast_ending hs))
    exact ⟨front, hfront.2 (head_ending s), by simpa [hnil] using hseg⟩
  · rintro ⟨front, hfront, hseg⟩
    exact ⟨front, [], by simpa using hseg, iff_of_true hfront (head_ending s), iff_of_false (by simp) (getLast_ending hs)⟩

theorem matches_code (hp : Words p) : Matches (segments p) (segments c) ↔ p = c := by
  rw [Matches, inner_code hp]
  constructor
  · rintro ⟨front, back, hseg, hfront, hback⟩
    have hfnil : front = [] := by simpa [head_ne_star hp] using hfront
    have hbnil : back = [] := by simpa [getLast_ne_star hp] using hback
    rw [← join_segments p, ← join_segments c, hseg, hfnil, hbnil]
    simp
  · rintro rfl
    exact ⟨[], [], by simp, by simp [head_ne_star hp], by simp [getLast_ne_star hp]⟩

theorem Proper.match_iff (h : Proper p) (hc : 2 ≤ (segments c).length) :
    matchPermission p c = true ↔ Matches (segments p) (segments c) := by
  cases h with
  | all => exact iff_of_true (matchPermission_all c) (matches_all hc)
  | @under q hq => rw [matchPermission_under hq.ne_star, matches_under hq]
  | @ending s hs => rw [matchPermission_ending (getLast_ne_star hs), matches_ending hs]
  | code hp => rw [matchPermission_code hp.2, beq_iff_eq, matches_code hp.2]

theorem matches_between (a : String) (h : hasPrefix c ("*" ++ ":" ++ a ++ ":")) :
    Matches (segments ("*" ++ ":" ++ a ++ ":" ++ "*")) (segments c) := by
  obtain ⟨back, hback, hseg⟩ := hasPrefix_segments_iff.1 h
  have hhead : (segments ("*" ++ ":" ++ a ++ ":" ++ "*")).head? = some "*" := by
    rw [segments_colon, segments_colon]
    rfl
  have hinner : inner (segments ("*" ++ ":" ++ a ++ ":" ++ "*")) = segments a := by
    rw [inner, if_pos hhead, segments_colon, segments_colon]
    exact (if_pos List.getLast?_concat).trans List.dropLast_concat
  refine ⟨["*"], back, ?_, iff_of_true (List.cons_ne_nil _ _) hhead, iff_of_true hback (getLast_under _)⟩
  rw [hseg, hinner, segments_colon]
  rfl

/-- A pattern with at most one star is matched as its language says. With stars at both ends a code
of the language has to begin with the pattern itself. -/
theorem matchPermission_iff_matches (pattern code : String) (hvalid : validatePermissionPattern pattern = [])
    (hcode : 2 ≤ (segments code).length) :
    (matchPermission pattern code = true ↔ Matches (segments pattern) (segments code)) ↔
      Proper pattern ∨ ¬Matches (segments pattern) (segments code) ∨
        hasPrefix code (String.ofList pattern.toList.dropLast) = true := by
  by_cases hproper : Proper pattern
  · exact iff_of_true (hproper.match_iff hcode) (.inl hproper)
  · obtain ⟨a, ha, rfl⟩ := (proper_or_between hvalid).resolve_left hproper
    have hdrop : String.ofList ("*" ++ ":" ++ a ++ ":" ++ "*").toList.dropLast = "*" ++ ":" ++ a ++ ":" := by
      have htext : ("*" ++ ":" ++ a ++ ":" ++ "*").toList = ("*" ++ ":" ++ a ++ ":").toList ++ ['*'] :=
        String.toList_append
      rw [htext, List.dropLast_concat, String.ofList_toList]
    have hne : "*" ++ ":" ++ a ≠ "*" := by
      intro h
      exact absurd (h ▸ two_le_length_colon "*" a) (by decide)
    rw [hdrop, matchPermission_under hne]
    constructor
    · intro h
      by_cases hm : Matches (segments ("*" ++ ":" ++ a ++ ":" ++ "*")) (segments code)
      · exact .inr (.inr (h.2 hm))
      · exact .inr (.inl hm)
    · rintro (h | h | h)
      · exact absurd h hproper
      · exact ⟨matches_between a, fun hm => absurd hm h⟩
      · exact iff_of_true h (matches_between a h)

theorem matchPermission_list_iff :
    (matchPermission "*:list" "iam:users:list" = true ↔ Matches (segments "*:list") (segments "iam:users:list")) ↔
      Proper "*:list" ∨ ¬Matches (segments "*:list") (segments "iam:users:list") ∨
        hasPrefix "iam:users:list" (String.ofList "*:list".toList.dropLast) = true :=
  matchPermission_iff_matches "*:list" "iam:users:list" (by decide) (by decide)

theorem starred_at_both_ends :
    validatePermissionPattern "*:users:*" = [] ∧ 2 ≤ (segments "iam:users:list").length ∧
      Matches (segments "*:users:*") (segments "iam:users:list") ∧
      matchPermission "*:users:*" "iam:users:list" = false :=
  ⟨by decide, by decide, ⟨["iam"], ["list"], by decide, by decide, by decide⟩, by decide⟩

/-! Codes in common. -/

def Crosses (p p' : String) : Prop := ∃ q s, Words q ∧ Words s ∧ p = q ++ ":" ++ "*" ∧ p' = "*" ++ ":" ++ s

def MixedUp (r t : String) : Prop := Crosses r t ∨ Crosses t r

theorem proper_of_match (hc : IsCode c) (h : matchPermission r c = true) : Proper r := by
  by_cases hsuffix : hasSuffix r ":*" = true
  · obtain ⟨q, rfl⟩ := (hasSuffix_colon_iff (s := "*")).1 hsuffix
    by_cases hq : q = "*"
    · subst hq
      exact .all
    · rw [matchPermission_under hq] at h
      obtain ⟨rest, rfl⟩ := hasPrefix_colon_iff.1 h
      exact .under (words_colon.1 hc.2).1
  by_cases hprefix : hasPrefix r "*:" = true
  · obtain ⟨s, rfl⟩ := (hasPrefix_colon_iff (q := "*")).1 hprefix
    have hs : (segments s).getLast? ≠ some "*" := by
      intro hlast
      obtain ⟨front, hfront⟩ := List.getLast?_eq_some_iff.1 hlast
      refine hsuffix ((hasSuffix_segments_iff (s := "*")).2 ⟨"*" :: front, List.cons_ne_nil _ _, ?_⟩)
      rw [segments_colon, hfront]
      rfl
    rw [matchPermission_ending hs] at h
    obtain ⟨f, rfl⟩ := hasSuffix_colon_iff.1 h
    exact .ending (words_colon.1 hc.2).2
  have hne : r ≠ "*:*" := by
    rintro rfl
    exact hsuffix (by decide)
  rw [matchPermission, if_neg hne, if_neg hsuffix, if_neg hprefix, beq_iff_eq] at h
  exact .code (h ▸ hc)

theorem Proper.self (h : Proper p) : matchPermission p p = true := by
  cases h with
  | all => rfl
  | under hq =>
    rw [matchPermission_under hq.ne_star]
    exact hasPrefix_colon_iff.2 ⟨"*", rfl⟩
  | ending hs =>
    rw [matchPermission_ending (getLast_ne_star hs)]
    exact hasSuffix_colon_iff.2 ⟨"*", rfl⟩
  | code hc =>
    rw [matchPermission_code hc.2]
    exact beq_self_eq_true p

theorem Proper.star_not_mem_inner (h : Proper p) : "*" ∉ inner (segments p) := by
  cases h with
  | all => decide
  | under hq =>
    rw [inner_under hq]
    exact star_not_mem hq
  | ending hs =>
    rw [inner_ending hs]
    exact star_not_mem hs
  | code hc =>
    rw [inner_code hc.2]
    exact star_not_mem hc.2

def fill (seg : String) : String := if seg = "*" then "x" else seg

theorem Matches.fill {pattern code : List String} (hinner : "*" ∉ inner pattern) (h : Matches pattern code) :
    Matches pattern (code.map fill) := by
  obtain ⟨front, back, rfl, hfront, hback⟩ := h
  have hkept : (inner pattern).map Iam.fill = inner pattern :=
    (List.map_congr_left fun seg hseg => if_neg (ne_of_mem_of_not_mem hseg hinner)).trans (List.map_id _)
  refine ⟨front.map Iam.fill, back.map Iam.fill, ?_, by simpa using hfront, by simpa using hback⟩
  rw [List.map_append, List.map_append, hkept]

theorem Proper.isCode_fill (h : Proper p) :
    2 ≤ (segments p).length ∧ ∀ seg ∈ (segments p).map fill, isSegment seg = true := by
  have hwords {s : String} (hs : Words s) : ∀ seg ∈ (segments s).map fill, isSegment seg = true := by
    intro seg hseg
    obtain ⟨seg, hmem, rfl⟩ := List.mem_map.1 hseg
    rw [fill, if_neg (ne_of_mem_of_not_mem hmem (star_not_mem hs))]
    exact hs seg hmem
  have hstar : ∀ seg ∈ (segments "*").map fill, isSegment seg = true := by decide
  cases h with
  | all => decide
  | under hq =>
    rw [segments_colon, List.map_append, List.forall_mem_append, ← segments_colon]
    exact ⟨two_le_length_colon _ _, hwords hq, hstar⟩
  | ending hs =>
    rw [segments_colon, List.map_append, List.forall_mem_append, ← segments_colon]
    exact ⟨two_le_length_colon _ _, hstar, hwords hs⟩
  | code hc => exact ⟨hc.1, hwords hc.2⟩

theorem either_or_mixed (hc : IsCode c) (ht : matchPermission t c = true) (hr : matchPermission r c = true) :
    matchesEither r t = true ∨ MixedUp r t := by
  rw [matchesEither, Bool.or_eq_true]
  cases proper_of_match hc ht with
  | all => exact .inl (.inr (matchPermission_all r))
  | code hcode =>
    rw [matchPermission_code hcode.2, beq_iff_eq] at ht
    exact .inl (.inl (ht ▸ hr))
  | @under q hq =>
    rw [matchPermission_under hq.ne_star] at ht ⊢
    cases proper_of_match hc hr with
    | all => exact .inl (.inl (matchPermission_all _))
    | code hcode =>
      rw [matchPermission_code hcode.2, beq_iff_eq] at hr
      exact .inl (.inr (hr ▸ ht))
    | @ending s hs => exact .inr (.inr ⟨q, s, hq, hs, rfl, rfl⟩)
    | @under q' hq' =>
      rw [matchPermission_under hq'.ne_star] at hr ⊢
      rw [hasPrefix_iff] at ht hr ⊢
      have htext (q : String) : (q ++ ":" ++ "*").toList = (q ++ ":").toList ++ "*".toList := String.toList_append
      rw [hasPrefix_iff, htext, htext]
      rcases List.prefix_or_prefix_of_prefix ht hr with h | h
      · exact .inl (.inr (h.trans (List.prefix_append _ _)))
      · exact .inl (.inl (h.trans (List.prefix_append _ _)))
  | @ending s hs =>
    rw [matchPermission_ending (getLast_ne_star hs)] at ht ⊢
    cases proper_of_match hc hr with
    | all => exact .inl (.inl (matchPermission_all _))
    | code hcode =>
      rw [matchPermission_code hcode.2, beq_iff_eq] at hr
      exact .inl (.inr (hr ▸ ht))
    | @under q hq => exact .inr (.inl ⟨q, s, hq, hs, rfl, rfl⟩)
    | @ending s' hs' =>
      rw [matchPermission_ending (getLast_ne_star hs')] at hr ⊢
      rw [hasSuffix_iff] at ht hr ⊢
      have htext (s : String) : ("*" ++ ":" ++ s).toList = "*".toList ++ (":" ++ s).toList := by simp
      rw [hasSuffix_iff, htext, htext]
      rcases List.suffix_or_suffix_of_suffix ht hr with h | h
      · exact .inl (.inr (h.trans (List.suffix_append _ _)))
      · exact .inl (.inl (h.trans (List.suffix_append _ _)))

theorem exists_shared_of_match (hr : Proper r) (ht : Proper t) (h : matchPermission r t = true) :
    ∃ c, IsCode c ∧ matchPermission t c = true ∧ matchPermission r c = true := by
  obtain ⟨hlen, hwords⟩ := ht.isCode_fill
  have hne : (segments t).map fill ≠ [] := by simp [segments_ne_nil]
  have hseg := segments_join hwords hne
  have hc : IsCode (join ((segments t).map fill) ":") := ⟨by rwa [hseg, List.length_map], words_join hwords hne⟩
  -- a pattern that matches the target matches it with its stars filled in
  have hfill {p : String} (hp : Proper p) (h : matchPermission p t = true) :
      matchPermission p (join ((segments t).map fill) ":") = true := by
    rw [hp.match_iff hlen] at h
    rw [hp.match_iff hc.1, hseg]
    exact h.fill hp.star_not_mem_inner
  exact ⟨_, hc, hfill ht ht.self, hfill hr h⟩

theorem MixedUp.exists_shared (h : MixedUp r t) :
    Proper r ∧ Proper t ∧ ∃ c, IsCode c ∧ matchPermission t c = true ∧ matchPermission r c = true := by
  have hcross {q s : String} (hq : Words q) (hs : Words s) :
      matchPermission (q ++ ":" ++ "*") (q ++ ":" ++ s) = true ∧ matchPermission ("*" ++ ":" ++ s) (q ++ ":" ++ s) = true := by
    rw [matchPermission_under hq.ne_star, matchPermission_ending (getLast_ne_star hs)]
    exact ⟨hasPrefix_colon_iff.2 ⟨s, rfl⟩, hasSuffix_colon_iff.2 ⟨q, rfl⟩⟩
  rcases h with ⟨q, s, hq, hs, rfl, rfl⟩ | ⟨q, s, hq, hs, rfl, rfl⟩
  · exact ⟨.under hq, .ending hs, _, isCode_colon hq hs, (hcross hq hs).2, (hcross hq hs).1⟩
  · exact ⟨.ending hs, .under hq, _, isCode_colon hq hs, (hcross hq hs).1, (hcross hq hs).2⟩

/-- Two patterns have a code in common exactly if both have at most one star, and they match each
other or are a prefix and a suffix. -/
theorem shared_iff : (∃ c, IsCode c ∧ matchPermission t c = true ∧ matchPermission r c = true) ↔
    (Proper r ∧ Proper t ∧ matchesEither r t = true) ∨ MixedUp r t := by
  constructor
  · rintro ⟨c, hc, ht, hr⟩
    rcases either_or_mixed hc ht hr with h | h
    · exact .inl ⟨proper_of_match hc hr, proper_of_match hc ht, h⟩
    · exact .inr h
  · rintro (⟨hr, ht, h⟩ | h)
    · rcases Bool.or_eq_true _ _ ▸ h with h | h
      · exact exists_shared_of_match hr ht h
      · obtain ⟨c, hc, hcr, hct⟩ := exists_shared_of_match ht hr h
        exact ⟨c, hc, hct, hcr⟩
    · exact h.exists_shared.2.2

namespace UserPermissionEntry

variable (e : UserPermissionEntry) (target scope : String) (wsID nsID : Int)

def applies (rule : String) : Bool := e.chain (· == rule) scope wsID nsID

theorem chain_iff_applies {hit : String → Bool} :
    e.chain hit scope wsID nsID = true ↔ ∃ rule, e.applies scope wsID nsID rule = true ∧ hit rule = true := by
  simp only [applies, chain_iff, beq_iff_eq]
  constructor
  · rintro (⟨p, hp, h⟩ | ⟨hs, hw, p, hp, h⟩ | ⟨hs, hn, p, hp, h⟩)
    · exact ⟨p, .inl ⟨p, hp, rfl⟩, h⟩
    · exact ⟨p, .inr (.inl ⟨hs, hw, p, hp, rfl⟩), h⟩
    · exact ⟨p, .inr (.inr ⟨hs, hn, p, hp, rfl⟩), h⟩
  · rintro ⟨rule, ⟨p, hp, rfl⟩ | ⟨hs, hw, p, hp, rfl⟩ | ⟨hs, hn, p, hp, rfl⟩, h⟩
    · exact .inl ⟨p, hp, h⟩
    · exact .inr (.inl ⟨hs, hw, p, hp, h⟩)
    · exact .inr (.inr ⟨hs, hn, p, hp, h⟩)

/-- The check of a target says whether one of its codes is granted, if a rule and the target with at
most one star each match, or if rules that match and rules that cross the target are both there or
both missing. -/
theorem hasAnyPermission_shared_iff :
    (e.hasAnyPermission [target] scope wsID nsID = true ↔
        ∃ code, IsCode code ∧ matchPermission target code = true ∧ e.hasPermission code scope wsID nsID = true) ↔
      (∃ rule, e.applies scope wsID nsID rule = true ∧ Proper rule ∧ Proper target ∧ matchesEither rule target = true) ∨
      ((∃ rule, e.applies scope wsID nsID rule = true ∧ matchesEither rule target = true) ↔
        ∃ rule, e.applies scope wsID nsID rule = true ∧ MixedUp rule target) := by
  have hany : e.hasAnyPermission [target] scope wsID nsID = true ↔
      ∃ rule, e.applies scope wsID nsID rule = true ∧ matchesEither rule target = true := by
    simp only [hasAnyPermission, List.any_cons, List.any_nil, Bool.or_false, hasAnyPermissionTarget]
    exact chain_iff_applies e scope wsID nsID
  have hshared : (∃ code, IsCode code ∧ matchPermission target code = true ∧ e.hasPermission code scope wsID nsID = true) ↔
      (∃ rule, e.applies scope wsID nsID rule = true ∧ Proper rule ∧ Proper target ∧ matchesEither rule target = true) ∨
        ∃ rule, e.applies scope wsID nsID rule = true ∧ MixedUp rule target := by
    simp only [hasPermission, chain_iff_applies]
    constructor
    · rintro ⟨code, hcode, htarget, rule, hrule, hmatch⟩
      rcases shared_iff.1 ⟨code, hcode, htarget, hmatch⟩ with h | h
      · exact .inl ⟨rule, hrule, h⟩
      · exact .inr ⟨rule, hrule, h⟩
    · rintro (⟨rule, hrule, h⟩ | ⟨rule, hrule, h⟩)
      · obtain ⟨code, hcode, htarget, hmatch⟩ := shared_iff.2 (.inl h)
        exact ⟨code, hcode, htarget, rule, hrule, hmatch⟩
      · obtain ⟨code, hcode, htarget, hmatch⟩ := shared_iff.2 (.inr h)
        exact ⟨code, hcode, htarget, rule, hrule, hmatch⟩
  rw [hany, hshared]
  -- a proper rule that matches makes both sides true
  by_cases hproper : ∃ rule, e.applies scope wsID nsID rule = true ∧ Proper rule ∧ Proper target ∧
      matchesEither rule target = true
  · have hmatch := hproper.imp fun rule h => (⟨h.1, h.2.2.2⟩ : _ ∧ matchesEither rule target = true)
    exact iff_of_true (iff_of_true hmatch (.inl hproper)) (.inl hproper)
  · simp [hproper]

end UserPermissionEntry

theorem suffix_rule_overlooked :
    validatePermissionPattern "compute:hosts:*" = [] ∧ IsCode "compute:hosts:list" ∧
    matchPermission "compute:hosts:*" "compute:hosts:list" = true ∧
    (⟨false, ["*:list"], [], []⟩ : UserPermissionEntry).hasPermission "compute:hosts:list" "platform" 0 0 = true ∧
    (⟨false, ["*:list"], [], []⟩ : UserPermissionEntry).hasAnyPermission ["compute:hosts:*"] "platform" 0 0 = false := by
  decide

end Vraxel.Iam
