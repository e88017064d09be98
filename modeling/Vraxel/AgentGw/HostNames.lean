import Vraxel.Go.Json
import Vraxel.Compute.Create
import Vraxel.AgentGw.Register
/-
  The names under which agents are registered (`pkg/apis/compute/agent_registrar.go`,
  `NameSuffixForAgent` of `pkg/apis/agentgw/token.go`) meet the rule for the names of hosts.

  A reported hostname is any sequence of bytes; the functions on it see its runes.
-/

namespace Vraxel.AgentGw

open Json

/-- The runes of a Go string, each invalid byte as U+FFFD; `skip` bytes belong to the last one. -/
def runes : Nat → Bytes → List Char
  | _, [] => []
  | skip + 1, _ :: s => runes skip s
  | 0, a :: s =>
    let tail (n : Nat) (lead : Nat) := (s.take n).foldl (fun r b => r * 64 + b.toNat % 64) (a.toNat % lead)
    match runeLen (a :: s) with
    | none => Char.ofNat 0xFFFD :: runes 0 s
    | some 1 => Char.ofNat a.toNat :: runes 0 s
    | some 2 => Char.ofNat (tail 1 32) :: runes 1 s
    | some 3 => Char.ofNat (tail 2 16) :: runes 2 s
    | some _ => Char.ofNat (tail 3 8) :: runes 3 s

example : runes 0 [0xC3, 0xA9, 0xFF, 0x61] = ['é', Char.ofNat 0xFFFD, 'a'] := by decide

/-- Valid characters, the first and the last of them alphanumeric. -/
structure Named (l : List Char) : Prop where
  valid : ∀ c ∈ l, validNameChar c
  first : ∀ c ∈ l.head?, c.isAlphanum
  last : ∀ c ∈ l.getLast?, c.isAlphanum

theorem validNameChar_of_mem_replaceInvalid {cs : List Char} {c : Char} (h : c ∈ replaceInvalid cs) : validNameChar c := by
  fun_induction replaceInvalid cs <;> grind [validNameChar]

theorem isAlphanum_of_valid {c : Char} (h : validNameChar c) (hc : (c = '-' || c = '_') = false) : c.isAlphanum := by
  simp_all [validNameChar]

theorem trimHyphens_sublist (l : List Char) : (trimHyphens l).Sublist l := by
  exact (List.rdropWhile_prefix _ _).sublist.trans (List.dropWhile_sublist _)

/-- Valid characters are those of a name once its ends are trimmed. -/
theorem named_trimHyphens {l : List Char} (h : ∀ c ∈ l, validNameChar c) : Named (trimHyphens l) := by
  have hvalid : ∀ c ∈ trimHyphens l, validNameChar c := fun c hc => h c ((trimHyphens_sublist l).subset hc)
  obtain ⟨hfirst, hlast⟩ := Strings.ends_of_trim (fun c => c = '-' || c = '_') l
  exact ⟨hvalid, fun c hc => isAlphanum_of_valid (hvalid c (List.mem_of_mem_head? hc)) (hfirst c hc),
    fun c hc => isAlphanum_of_valid (hvalid c (List.mem_of_mem_getLast? hc)) (hlast c hc)⟩

theorem named_agentHostName (hostname : String) :
    Named (agentHostName hostname).toList ∧ 3 ≤ (agentHostName hostname).toList.length ∧
      (agentHostName hostname).toList.length ≤ 37 := by
  unfold agentHostName
  have hname := named_trimHyphens fun c (hc : c ∈ replaceInvalid (Strings.trimSpace hostname).toList) =>
    validNameChar_of_mem_replaceInvalid hc
  generalize trimHyphens (replaceInvalid (Strings.trimSpace hostname).toList) = name at hname ⊢
  dsimp only
  have hcut := named_trimHyphens fun c (hc : c ∈ name.take 37) => hname.valid c (List.mem_of_mem_take hc)
  have hlen : (trimHyphens (name.take 37)).length ≤ 37 :=
    (trimHyphens_sublist _).length_le.trans (List.length_take_le 37 name)
  have hname' : Named (if name.length > 37 then trimHyphens (name.take 37) else name) ∧
      (if name.length > 37 then trimHyphens (name.take 37) else name).length ≤ 37 := by
    split_ifs with hlong
    · exact ⟨hcut, hlen⟩
    · exact ⟨hname, by omega⟩
  generalize (if name.length > 37 then trimHyphens (name.take 37) else name) = name' at hname' ⊢
  split_ifs with hshort
  · exact ⟨⟨List.all_eq_true.1 (by decide), by simp, by simp⟩, by decide, by decide⟩
  · rw [String.toList_ofList]
    exact ⟨hname'.1, by omega, hname'.2⟩

theorem isAlphanum_of_mem_hex {n : Nat} {c : Char} (h : c ∈ Nat.toDigits 16 n) : c.isAlphanum := by
  have hdigit : ∀ d < 16, (Nat.digitChar d).isAlphanum := by decide
  induction n using Nat.strong_induction_on with
  | _ n ih =>
    by_cases hn : n < 16
    · rw [Nat.toDigits_of_lt_base hn, List.mem_singleton] at h
      exact h ▸ hdigit n hn
    · rw [Nat.toDigits_of_base_le (by omega) (by omega), List.mem_append, List.mem_singleton] at h
      rcases h with h | h
      · exact ih (n / 16) (by omega) h
      · exact h ▸ hdigit (n % 16) (by omega)

theorem nameSuffixForAgent_spec (cfg : RegConfig) (seed : String) (n : Nat) :
    (nameSuffixForAgent cfg seed n).toList.length = n ∧ ∀ c ∈ (nameSuffixForAgent cfg seed n).toList, c.isAlphanum := by
  rw [nameSuffixForAgent, String.toList_ofList]
  refine ⟨by simp; omega, fun c hc => ?_⟩
  rcases List.mem_append.1 (List.mem_of_mem_take hc) with hc | hc
  · exact isAlphanum_of_mem_hex hc
  · rw [List.eq_of_mem_replicate hc]
    decide

theorem nameRegexp_of_named {name : String} (h : Named name.toList) (hmin : 3 ≤ name.toList.length)
    (hmax : name.toList.length ≤ 50) : Compute.nameRegexp name := by
  obtain ⟨hvalid, hfirst, hlast⟩ := h
  unfold Compute.nameRegexp
  generalize name.toList = l at *
  rcases l with _ | ⟨c, cs⟩
  · simp at hmin
  · have hne : cs ≠ [] := by
      intro h
      simp [h] at hmin
    have hall : ∀ d ∈ cs.dropLast, validNameChar d := fun d hd => hvalid d (.tail c (List.mem_of_mem_dropLast hd))
    have hend : (cs.getLast hne).isAlphanum := hlast _ (by simp [List.getLast?_eq_some_getLast, hne])
    have hhead : c.isAlphanum := hfirst c (by simp)
    simp [hhead, hne, List.getLast?_eq_some_getLast, hend]
    simp at hmin hmax
    exact ⟨⟨by omega, by omega⟩, by simpa [validNameChar] using hall⟩

theorem Named.append {l suffix : List Char} (h : Named l) (hne : l ≠ []) (hsuffix : ∀ c ∈ suffix, c.isAlphanum)
    (hne' : suffix ≠ []) : Named (l ++ '-' :: suffix) where
  valid c hc := by
    rcases List.mem_append.1 hc with hc | hc
    · exact h.valid c hc
    · rcases List.mem_cons.1 hc with rfl | hc
      · decide
      · simp [validNameChar, hsuffix c hc]
  first c hc := by
    rw [List.head?_append_of_ne_nil _ hne] at hc
    exact h.first c hc
  last c hc := by
    rw [← List.singleton_append, ← List.append_assoc, List.getLast?_append_of_ne_nil _ hne'] at hc
    exact hsuffix c (List.mem_of_mem_getLast? hc)

/-- For every hostname, every digest of the seed and every seed: all three names are valid. -/
theorem derived_names_valid (cfg : RegConfig) (hostname : Bytes) (nameSeed : String) :
    ∀ name ∈ agentHostNameCandidates cfg (agentHostName (String.ofList (runes 0 hostname))) nameSeed,
      Compute.nameRegexp name := by
  obtain ⟨hbase, hmin, hmax⟩ := named_agentHostName (String.ofList (runes 0 hostname))
  generalize agentHostName (String.ofList (runes 0 hostname)) = base at *
  have hsuffixed (n : Nat) (hn : 0 < n) (hn' : n ≤ 12) :
      Compute.nameRegexp (base ++ "-" ++ nameSuffixForAgent cfg nameSeed n) := by
    obtain ⟨hlen, hsuffix⟩ := nameSuffixForAgent_spec cfg nameSeed n
    have hlist : (base ++ "-" ++ nameSuffixForAgent cfg nameSeed n).toList =
        base.toList ++ '-' :: (nameSuffixForAgent cfg nameSeed n).toList := by simp
    refine nameRegexp_of_named ?_ ?_ ?_
    · rw [hlist]
      exact hbase.append (List.ne_nil_of_length_pos (by omega)) hsuffix (List.ne_nil_of_length_pos (by omega))
    · rw [hlist, List.length_append]
      omega
    · rw [hlist, List.length_append, List.length_cons]
      omega
  simp only [agentHostNameCandidates, List.forall_mem_cons]
  exact ⟨nameRegexp_of_named hbase hmin (by omega), hsuffixed 6 (by decide) (by decide), hsuffixed 12 (by decide) (by decide),
    by simp⟩

/-- "web é", the second rune of two bytes. -/
theorem derived_names_valid_web :
    Compute.nameRegexp "web" :=
  derived_names_valid ⟨id, fun _ => 0, fun _ => .ok ""⟩ [0x77, 0x65, 0x62, 0x20, 0xC3, 0xA9] "seed" "web" (by decide)

end Vraxel.AgentGw
