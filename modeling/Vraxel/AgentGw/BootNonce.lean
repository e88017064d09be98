import Vraxel.Db.HostAgents
/-
  The history of boot nonces of one agent row (`CheckHostAgentIdentity` in `host_agent.sql`): the
  nonce of the last connection and the one before it that differed.
-/

namespace Vraxel.AgentGw

open Db

def checkAll (r : HostAgentRow) : List (String × Int) → HostAgentRow
  | [] => r
  | (nonce, now) :: xs => checkAll (r.checkIdentity nonce now) xs

theorem checkAll_append (r : HostAgentRow) (xs ys : List (String × Int)) :
    checkAll r (xs ++ ys) = checkAll (checkAll r xs) ys := by
  induction xs generalizing r with
  | nil => rfl
  | cons x xs ih => exact ih (r.checkIdentity x.1 x.2)

def nonces (xs : List (String × Int)) : List String := ((xs.map (·.1)).filter (· ≠ "")).reverse

def retired : List String → Option String
  | [] => none
  | current :: before => before.find? (· ≠ current)

def NeverReturns (ns : List String) : Prop := ∀ a b, a ≠ b → ¬ List.Sublist [a, b, a] ns

/-- Empty nonces change nothing; another one sets the conflict exactly if it is the one just
retired; and where none comes back, no connection is refused. -/
def JudgedAsMeant (r : HostAgentRow) (xs : List (String × Int)) : Prop :=
  (∀ pre nonce now post, xs = pre ++ (nonce, now) :: post →
    let old := checkAll r pre
    let new := old.checkIdentity nonce now
    (nonce = "" → new.bootNonce = old.bootNonce ∧ new.prevBootNonce = old.prevBootNonce ∧
      new.conflictAt = old.conflictAt) ∧
    (nonce ≠ "" → new.conflictAt = if retired (nonces pre) = some nonce then some now else old.conflictAt)) ∧
  (NeverReturns (nonces xs) → ∀ pre post, xs = pre ++ post → ∀ now cooldown, (checkAll r pre).contended now cooldown = false)

def EmptyFirst (xs : List (String × Int)) : Prop :=
  ∀ pre now post, xs = pre ++ ("", now) :: post → nonces pre = []

theorem nonces_snoc (xs : List (String × Int)) (nonce : String) (now : Int) :
    nonces (xs ++ [(nonce, now)]) = if nonce = "" then nonces xs else nonce :: nonces xs := by
  by_cases h : nonce = "" <;> simp [nonces, h]

theorem EmptyFirst.left {xs ys : List (String × Int)} (h : EmptyFirst (xs ++ ys)) : EmptyFirst xs :=
  fun pre now post hxs => h pre now (post ++ ys) (by rw [hxs]; simp)

section History

variable {r : HostAgentRow} (hboot : r.bootNonce = "") (hprev : r.prevBootNonce = "")
include hboot hprev

variable {xs : List (String × Int)}

theorem history_of_checkAll (h : EmptyFirst xs) :
    (checkAll r xs).bootNonce = (nonces xs).head?.getD "" ∧
      (checkAll r xs).prevBootNonce = (retired (nonces xs)).getD "" := by
  induction xs using List.reverseRecOn with
  | nil => exact ⟨hboot, hprev⟩
  | append_singleton xs x ih =>
    obtain ⟨nonce, now⟩ := x
    obtain ⟨hb, hp⟩ := ih h.left
    rw [checkAll_append, nonces_snoc]
    simp only [checkAll, HostAgentRow.checkIdentity, hb, hp]
    by_cases hempty : nonce = ""
    · -- the history is empty still
      have hnil : nonces xs = [] := h xs now [] (by rw [hempty])
      simp [hempty, hnil, retired]
    · rw [if_neg hempty]
      cases nonces xs with
      | nil => simp [retired, hempty]
      | cons current before =>
        by_cases hsame : nonce = current
        · simp [hsame, retired]
        · simp [hsame, retired, Ne.symm hsame]

theorem conflict_of_check (h : EmptyFirst xs) {nonce : String} (hne : nonce ≠ "") (now : Int) :
    ((checkAll r xs).checkIdentity nonce now).conflictAt =
      if retired (nonces xs) = some nonce then some now else (checkAll r xs).conflictAt := by
  have hiff : (nonce ≠ "" ∧ nonce = (checkAll r xs).prevBootNonce) ↔ retired (nonces xs) = some nonce := by
    rw [(history_of_checkAll hboot hprev h).2]
    cases retired (nonces xs) with
    | none => simp [hne]
    | some old => simp [hne, eq_comm]
  simp [HostAgentRow.checkIdentity, hiff]

theorem inert_of_emptyFirst (h : EmptyFirst xs) (hnil : nonces xs = []) (now : Int) :
    (checkAll r xs).checkIdentity "" now = checkAll r xs := by
  obtain ⟨hb, hp⟩ := history_of_checkAll hboot hprev h
  have hb' : (checkAll r xs).bootNonce = "" := by simpa [hnil] using hb
  simp [HostAgentRow.checkIdentity, ← hb']

omit hboot hprev in
theorem not_neverReturns {ns : List String} {nonce : String} (h : retired ns = some nonce) :
    ¬ NeverReturns (nonce :: ns) := by
  cases ns with
  | nil => cases h
  | cons current before =>
    have hne : nonce ≠ current := by simpa using List.find?_some h
    have hsub : List.Sublist [nonce] before := List.singleton_sublist.2 (List.mem_of_find?_eq_some h)
    exact fun hnever => hnever nonce current hne ((hsub.cons_cons current).cons_cons nonce)

theorem conflictAt_of_neverReturns (hconflict : r.conflictAt = none) (h : EmptyFirst xs)
    (hnever : NeverReturns (nonces xs)) : (checkAll r xs).conflictAt = none := by
  induction xs using List.reverseRecOn with
  | nil => exact hconflict
  | append_singleton xs x ih =>
    obtain ⟨nonce, now⟩ := x
    rw [nonces_snoc] at hnever
    rw [checkAll_append]
    by_cases hempty : nonce = ""
    · subst hempty
      exact ih h.left (by simpa using hnever)
    · rw [if_neg hempty] at hnever
      rw [checkAll, checkAll, conflict_of_check hboot hprev h.left hempty,
        if_neg fun hretired => not_neverReturns hretired hnever]
      exact ih h.left fun a b hab hsub => hnever a b hab (hsub.trans (List.sublist_cons_self nonce _))

end History

theorem emptyFirst_snoc {xs : List (String × Int)} {nonce : String} {now : Int} (h : EmptyFirst xs)
    (hlast : nonce = "" → nonces xs = []) : EmptyFirst (xs ++ [(nonce, now)]) := by
  intro pre now' post heq
  rcases List.eq_nil_or_concat post with rfl | ⟨post', x, rfl⟩
  · obtain ⟨rfl, hx⟩ := List.append_inj' heq rfl
    cases hx
    exact hlast rfl
  · rw [List.concat_eq_append, ← List.cons_append, ← List.append_assoc] at heq
    exact h pre now' post' (List.append_inj' heq rfl).1

def withoutHistory (r : HostAgentRow) : HostAgentRow :=
  { r with bootNonce := "", prevBootNonce := "", conflictAt := none }

/-- The executions are judged as meant if and only if no empty nonce comes after one that is not. -/
theorem nonce_history_iff (r : HostAgentRow) (xs : List (String × Int)) :
    JudgedAsMeant (withoutHistory r) xs ↔ EmptyFirst xs := by
  constructor
  · intro hmeant
    have hpre : ∀ pre post, xs = pre ++ post → EmptyFirst pre := by
      intro pre
      induction pre using List.reverseRecOn with
      | nil => exact fun _ _ pre now post h => by cases pre <;> cases h
      | append_singleton pre x ih =>
        intro post hxs
        rw [List.append_assoc] at hxs
        have hfirst := ih _ hxs
        refine emptyFirst_snoc hfirst fun hempty => ?_
        -- the column takes the empty nonce, so it held none
        have hinert := ((hmeant.1 pre x.1 x.2 post hxs).1 hempty).1
        have hboot := (history_of_checkAll (r := withoutHistory r) rfl rfl hfirst).1
        rw [← hinert, hempty] at hboot
        cases hns : nonces pre with
        | nil => rfl
        | cons current before =>
          have hmem : current ∈ nonces pre := by simp [hns]
          have hne : current ≠ "" := by
            simp only [nonces, List.mem_reverse, List.mem_filter] at hmem
            simpa using hmem.2
          rw [hns] at hboot
          exact absurd hboot.symm hne
    exact hpre xs [] (List.append_nil xs).symm
  · intro h
    refine ⟨fun pre nonce now post hxs => ?_, fun hnever pre post hxs now cooldown => ?_⟩
    · rw [hxs] at h
      refine ⟨fun hempty => ?_, fun hne => conflict_of_check rfl rfl h.left hne now⟩
      subst hempty
      rw [inert_of_emptyFirst rfl rfl h.left (h pre now post rfl)]
      exact ⟨rfl, rfl, rfl⟩
    · rw [hxs] at h hnever
      have hsub : List.Sublist (nonces pre) (nonces (pre ++ post)) := by
        simp [nonces]
      rw [HostAgentRow.contended, conflictAt_of_neverReturns rfl rfl rfl h.left fun a b hab habc => hnever a b hab (habc.trans hsub)]

/-- The process with nonce `a` connects, an agent without a nonce does, and the first one connects
again: it finds its nonce retired. -/
theorem empty_nonce_retires :
    ¬ JudgedAsMeant (withoutHistory (.fresh 1 "agent" "v1" ⟨"", "", [], "", none⟩)) [("a", 1), ("", 2), ("a", 3)] := by
  intro h
  have hconflict := (h.1 [("a", 1), ("", 2)] "a" 3 [] rfl).2 (by decide)
  exact absurd hconflict (by decide)

end Vraxel.AgentGw
