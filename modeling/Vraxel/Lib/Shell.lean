import Mathlib.Data.List.Basic
/-
  How a POSIX shell takes a command line apart, one character at a time.

  What has been read is a list of words and operators, and the word being read. A word is a list of
  pieces: characters that stand for themselves, the output of a command substitution, and what the
  shell replaces by something else, of which only the presence is kept. Inside `$(` … `)` another line
  is read, so the frames of the enclosing lines are kept in a stack.
-/

namespace Shell

abbrev Text := List Char

inductive Piece
  | lit (c : Char)
  | subst (argv : List Text)
  | wild
  deriving DecidableEq

inductive Token
  | word (pieces : List Piece)
  | op (c : Char)
  deriving DecidableEq

inductive Mode
  | bare
  | single
  | double
  | escape
  | doubleEscape
  | dollar
  | doubleDollar
  | comment
  deriving DecidableEq

structure Frame where
  tokens : List Token
  word : Option (List Piece)
  mode : Mode
  /-- A tilde read here would be replaced. -/
  tilde : Bool
  /-- An equals sign has been read in a word that assigns. -/
  assign : Bool
  /-- The parentheses that are open. -/
  depth : Nat
  deriving DecidableEq

/-- The lines that enclose the one being read, from the inside, and that one. -/
structure State where
  outer : List Frame
  here : Frame
  deriving DecidableEq

def Piece.char? : Piece → Option Char
  | .lit c => some c
  | _ => none

def Token.literal? : Token → Option Text
  | .word ps => ps.mapM Piece.char?
  | .op _ => none

def lits (v : Text) : List Piece := v.map .lit

def Token.lit (v : Text) : Token := .word (lits v)

def Frame.boundary (ts : List Token) : Frame := ⟨ts, none, .bare, true, false, 0⟩

def boundary (ts : List Token) : State := ⟨[], .boundary ts⟩

def start : State := boundary []

variable (f : Frame)

def Frame.pieces : List Piece := f.word.getD []

def Frame.add (p : Piece) : Frame :=
  { f with word := some (f.pieces ++ [p]), tilde := false }

def Frame.turn (mode : Mode) : Frame := { f with mode := mode }

def Frame.endWord : Frame :=
  match f.word with
  | none => { f with tilde := true, assign := false }
  | some ps => { f with tokens := f.tokens ++ [.word ps], word := none, tilde := true, assign := false }

def commandWords (ts : List Token) : List Token :=
  ts.foldl (fun ws t => match t with | .word _ => ws ++ [t] | .op _ => []) []

def declares (ts : List Token) : Bool :=
  match (commandWords ts).head? with
  | none => true
  | some t => t = .lit "export".toList || t = .lit "readonly".toList

def isBlank (c : Char) : Bool := c = ' ' || c = '\t'

def isOperator (c : Char) : Bool := "|&;<>()\n".toList.contains c

def isQuoting (c : Char) : Bool := "'\"\\".toList.contains c

def isExpanding (c : Char) : Bool := "$`*?[".toList.contains c

def Frame.bare (c : Char) : Frame :=
  if c = '\'' then { f with word := some f.pieces, mode := .single, tilde := false }
  else if c = '"' then { f with word := some f.pieces, mode := .double, tilde := false }
  else if c = '\\' then f.turn .escape
  else if c = '$' then f.turn .dollar
  else if isBlank c then f.endWord
  else if isOperator c then
    { f.endWord with
        tokens := f.endWord.tokens ++ [.op c]
        depth := if c = '(' then f.depth + 1 else if c = ')' then f.depth - 1 else f.depth }
  else if c = '#' ∧ f.word = none then f.turn .comment
  else if isExpanding c ∨ (c = '~' ∧ f.tilde) then f.add .wild
  else
    { f.add (.lit c) with
        tilde := declares f.tokens && (c = '=' || (c = ':' && f.assign))
        assign := f.assign || (declares f.tokens && c = '=') }

def Frame.double (c : Char) : Frame :=
  if c = '"' then f.turn .bare
  else if c = '\\' then f.turn .doubleEscape
  else if c = '$' then f.turn .doubleDollar
  else if c = '`' then f.add .wild
  else f.add (.lit c)

/-- One character after a backslash between double quotes: it keeps the backslash unless it means
    something there. -/
def Frame.doubleEscape (c : Char) : Frame :=
  if c = '$' ∨ c = '`' ∨ c = '"' ∨ c = '\\' then (f.add (.lit c)).turn .double
  else if c = '\n' then f.turn .double
  else ((f.add (.lit '\\')).add (.lit c)).turn .double

def substitute (ts : List Token) : Piece :=
  match ts.mapM Token.literal? with
  | some argv => .subst argv
  | none => .wild

variable (s : State)

/-- The frame on top is left for a new one; `mode` is the one to come back to. -/
def State.enter (mode : Mode) : State := ⟨s.here.turn mode :: s.outer, .boundary []⟩

def State.bare (s : State) (c : Char) : State :=
  match s.outer with
  | f :: fs =>
    if c = ')' ∧ s.here.depth = 0 then ⟨fs, f.add (substitute s.here.endWord.tokens)⟩
    else ⟨s.outer, s.here.bare c⟩
  | [] => ⟨s.outer, s.here.bare c⟩

def State.feed (c : Char) : State :=
  match s.here.mode with
  | .bare => s.bare c
  | .single =>
    if c = '\'' then ⟨s.outer, s.here.turn .bare⟩ else ⟨s.outer, s.here.add (.lit c)⟩
  | .double => ⟨s.outer, s.here.double c⟩
  | .escape =>
    -- a backslash joins two lines
    if c = '\n' then ⟨s.outer, s.here.turn .bare⟩
    else ⟨s.outer, (s.here.add (.lit c)).turn .bare⟩
  | .doubleEscape => ⟨s.outer, s.here.doubleEscape c⟩
  | .dollar =>
    if c = '(' then s.enter .bare
    else State.bare ⟨s.outer, (s.here.add .wild).turn .bare⟩ c
  | .doubleDollar =>
    if c = '(' then s.enter .double
    else ⟨s.outer, ((s.here.add .wild).turn .double).double c⟩
  | .comment =>
    if c = '\n' then ⟨s.outer, { s.here with mode := .bare, tokens := s.here.tokens ++ [.op c] }⟩ else s

def State.feedAll (t : Text) : State := t.foldl State.feed s

def State.finish : Option (List Token) :=
  if s.outer = [] ∧ (s.here.mode = .bare ∨ s.here.mode = .comment) then some s.here.endWord.tokens else none

def read (t : Text) : Option (List Token) := (start.feedAll t).finish

@[simp]
theorem feedAll_nil : s.feedAll [] = s := rfl

@[simp]
theorem feedAll_cons (c : Char) (t : Text) : s.feedAll (c :: t) = (s.feed c).feedAll t := rfl

@[simp]
theorem feedAll_append (t u : Text) : s.feedAll (t ++ u) = (s.feedAll t).feedAll u :=
  List.foldl_append

@[simp]
theorem lits_nil : lits [] = [] := rfl

variable (v : Text) (w : List Piece)

@[simp]
theorem lits_cons (c : Char) (v : Text) : lits (c :: v) = .lit c :: lits v := rfl

@[simp]
theorem lits_append (w : Text) : lits (v ++ w) = lits v ++ lits w := List.map_append

@[simp]
theorem length_lits : (lits v).length = v.length := List.length_map _

/-- Reading `t` in this state only adds the characters of `v` to the word being read. -/
def Literal (s : State) (t v : Text) : Prop :=
  ∃ w tilde assign,
    s.feedAll t = ⟨s.outer, { s.here with word := w, mode := .bare, tilde := tilde, assign := assign }⟩ ∧
    w.getD [] = s.here.pieces ++ lits v

/- Quoting. -/

def escape (v : Text) : Text := v.flatMap fun c => if c = '\'' then "'\\''".toList else [c]

def quote (v : Text) : Text := '\'' :: (escape v ++ ['\''])

/-- Between the quotes every character stands for itself; a quote is closed, escaped and opened
    again. -/
theorem feedAll_escape (outer : List Frame) (ts : List Token) (w : List Piece) (assign : Bool) (depth : Nat) (v : Text) :
    State.feedAll ⟨outer, ts, some w, .single, false, assign, depth⟩ (escape v)
      = ⟨outer, ts, some (w ++ lits v), .single, false, assign, depth⟩ := by
  induction v generalizing w with
  | nil => simp [escape]
  | cons c v ih =>
    have hone : State.feedAll ⟨outer, ts, some w, .single, false, assign, depth⟩
        (if c = '\'' then "'\\''".toList else [c])
        = ⟨outer, ts, some (w ++ [.lit c]), .single, false, assign, depth⟩ := by
      by_cases hc : c = '\''
      · subst hc
        cases outer <;> rfl
      · simp [State.feed, hc, Frame.add, Frame.pieces]
    have hsplit : escape (c :: v) = (if c = '\'' then "'\\''".toList else [c]) ++ escape v := by
      simp [escape]
    rw [hsplit, feedAll_append, hone, ih (w ++ [Piece.lit c])]
    simp [lits]

theorem feedAll_quote (s : State) (v : Text) (hs : s.here.mode = .bare) :
    s.feedAll (quote v)
      = ⟨s.outer, { s.here with word := some (s.here.pieces ++ lits v), tilde := false }⟩ := by
  obtain ⟨outer, ts, w, mode, tilde, assign, depth⟩ := s
  subst hs
  have hopen : State.feed ⟨outer, ts, w, .bare, tilde, assign, depth⟩ '\''
      = ⟨outer, ts, some (w.getD []), .single, false, assign, depth⟩ := by
    cases outer <;> rfl
  rw [quote, feedAll_cons, feedAll_append, hopen, feedAll_escape]
  simp [State.feed, Frame.pieces, Frame.turn]

theorem literal_quote (s : State) (v : Text) (hs : s.here.mode = .bare) : Literal s (quote v) v := by
  refine ⟨some (s.here.pieces ++ lits v), false, s.here.assign, ?_, rfl⟩
  rw [feedAll_quote s v hs, ← hs]

/- Text that stands for itself. -/

/-- No character of the text means anything to the shell. `declares` says that the word may be an
    assignment, `fresh` that it has not begun, `tilde` and `assign` are as in a frame. -/
def plainFrom (declares fresh tilde assign : Bool) : Text → Bool
  | [] => true
  | c :: v =>
    !(isQuoting c || isExpanding c || isBlank c || isOperator c) && !(c = '#' && fresh) && !(c = '~' && tilde) &&
      plainFrom declares false (declares && (c = '=' || (c = ':' && assign))) (assign || (declares && c = '=')) v

def plainWord (v : Text) : Bool := plainFrom false true true false v

def plainName (v : Text) : Bool := plainFrom true true true false v

def Frame.takes (c : Char) : Prop :=
  (isQuoting c || isExpanding c || isBlank c || isOperator c) = false ∧ ¬(c = '#' ∧ f.word = none) ∧
    ¬(c = '~' ∧ f.tilde = true)

instance (f : Frame) (c : Char) : Decidable (f.takes c) := inferInstanceAs (Decidable (_ ∧ _))

theorem Frame.bare_of_takes {f : Frame} {c : Char} (h : f.takes c) :
    f.bare c = { f.add (.lit c) with
      tilde := declares f.tokens && (c = '=' || (c = ':' && f.assign))
      assign := f.assign || (declares f.tokens && c = '=') } := by
  obtain ⟨hc, hhash, htilde⟩ := h
  simp only [Bool.or_eq_false_iff] at hc
  obtain ⟨⟨⟨hq, he⟩, hb⟩, ho⟩ := hc
  have hq' : c ≠ '\'' ∧ c ≠ '"' ∧ c ≠ '\\' := by
    simpa [isQuoting] using hq
  have hd : c ≠ '$' := by
    intro h
    subst h
    simp [isExpanding] at he
  unfold Frame.bare
  rw [if_neg hq'.1, if_neg hq'.2.1, if_neg hq'.2.2, if_neg hd, if_neg (by simp [hb]), if_neg (by simp [ho]),
    if_neg hhash, if_neg (by simp only [he]; simpa using htilde)]

/- A character that does not stand for itself adds no character to the word, and no later one can
   make up for it: each adds at most one. -/

/-- The characters in the word, with the backslash between quotes that may still be one. -/
def Frame.chars : Nat :=
  (f.pieces.filterMap Piece.char?).length + if f.mode = .doubleEscape then 1 else 0

/-- More than `k` tokens have been read, or the word has at most `n` characters. -/
def Frame.Behind (k n : Nat) (f : Frame) : Prop := k ≤ f.tokens.length ∧ (k < f.tokens.length ∨ f.chars ≤ n)

variable {ts : List Token} {s t s' : State} {f g : Frame} {k m n : Nat} {c : Char}

theorem char?_substitute (ts : List Token) : (substitute ts).char? = none := by
  unfold substitute
  split <;> rfl

theorem Frame.chars_add (f : Frame) (p : Piece) : (f.add p).chars = f.chars + p.char?.toList.length := by
  have hpieces : (f.add p).pieces = f.pieces ++ [p] := rfl
  rw [chars, hpieces, List.filterMap_append, List.length_append, chars, Nat.add_right_comm]
  cases p <;> rfl

namespace Frame.Behind

variable (h : f.Behind k n)

include h

theorem of_chars (htokens : g.tokens = f.tokens) (hchars : g.chars + n ≤ f.chars + m) :
    g.Behind k m := by
  obtain ⟨hle, h⟩ := h
  rw [← htokens] at hle h
  exact ⟨hle, h.imp_right fun h => by omega⟩

theorem add (p : Piece) : (f.add p).Behind k (n + p.char?.toList.length) :=
  h.of_chars rfl (by rw [chars_add]; omega)

/-- Leaving a mode, only a backslash between quotes may still have to be counted. -/
theorem turn {mode : Mode} (hmode : mode = .doubleEscape → f.mode = .doubleEscape) :
    (f.turn mode).Behind k n := by
  refine h.of_chars rfl ?_
  simp only [chars, Frame.turn]
  split_ifs <;> simp_all [pieces]

theorem op (c : Char) (mode : Mode) (depth : Nat) :
    { f with tokens := f.tokens ++ [Token.op c], mode := mode, depth := depth }.Behind k n := by
  have hle := h.1
  exact ⟨by simp; omega, .inl (by simp; omega)⟩

theorem endWord : f.endWord.Behind k n := by
  unfold Frame.endWord
  split
  · exact h
  · exact ⟨by simpa using Nat.le_succ_of_le h.1, .inl (by simpa using Nat.lt_succ_of_le h.1)⟩

theorem bare (c : Char) :
    (f.bare c).Behind k (if f.takes c then n + 1 else n) := by
  by_cases hc : f.takes c
  · rw [if_pos hc, Frame.bare_of_takes hc]
    exact h.add (.lit c)
  rw [if_neg hc, Frame.bare]
  split
  · exact h.of_chars rfl (by simp [chars, pieces])
  split
  · exact h.of_chars rfl (by simp [chars, pieces])
  split
  · exact h.turn (by simp)
  split
  · exact h.turn (by simp)
  split
  · exact h.endWord
  split
  · exact h.endWord.op c _ _
  split
  · exact h.turn (by simp)
  split
  · exact h.add .wild
  · next hsingle hdouble hescape _ hblank hop hhash hwild =>
    refine absurd ⟨?_, hhash, fun h => hwild (Or.inr h)⟩ hc
    have hexp : isExpanding c = false := by simpa using fun h => hwild (Or.inl h)
    simp [isQuoting, hsingle, hdouble, hescape, hexp, hblank, hop]

theorem succ : f.Behind k (n + 1) := h.of_chars rfl (by omega)

theorem bare_succ (c : Char) : (f.bare c).Behind k (n + 1) := by
  have hbare := h.bare c
  split at hbare
  · exact hbare
  · exact hbare.succ

theorem double (hmode : f.mode = .double) (c : Char) : (f.double c).Behind k (n + 1) := by
  unfold Frame.double
  split
  · exact h.succ.turn (by simp)
  split
  · exact h.of_chars rfl (by simp [chars, pieces, Frame.turn, hmode]; omega)
  split
  · exact h.succ.turn (by simp)
  split
  · exact h.succ.add .wild
  · exact h.add (.lit c)

theorem doubleEscape (hmode : f.mode = .doubleEscape) (c : Char) :
    (f.doubleEscape c).Behind k (n + 1) := by
  unfold Frame.doubleEscape
  split
  · exact (h.add (.lit c)).turn (by simp)
  split
  · exact h.succ.turn (by simp)
  · -- the backslash was counted when it was read
    refine h.of_chars rfl ?_
    simp [chars, pieces, Frame.add, Frame.turn, Piece.char?, hmode, List.filterMap]
    omega

end Frame.Behind

theorem bare_inside (f g : Frame) (fs : List Frame) (c : Char) :
    ∃ f', State.bare ⟨g :: fs, f⟩ c = ⟨g :: fs, f'⟩ ∨ State.bare ⟨g :: fs, f⟩ c = ⟨fs, g.add (substitute f'.tokens)⟩ := by
  unfold State.bare
  dsimp only
  split
  · exact ⟨_, .inr rfl⟩
  · exact ⟨_, .inl rfl⟩

/-- Inside a substitution the enclosing lines stay as they are until it ends. -/
theorem feed_inside (f g : Frame) (fs : List Frame) (c : Char) :
    ∃ f', State.feed ⟨g :: fs, f⟩ c = ⟨g :: fs, f'⟩ ∨ State.feed ⟨g :: fs, f⟩ c = ⟨f' :: g :: fs, .boundary []⟩ ∨
      State.feed ⟨g :: fs, f⟩ c = ⟨fs, g.add (substitute f'.tokens)⟩ := by
  unfold State.feed
  cases f.mode with
  | bare => exact (bare_inside f g fs c).imp fun f' h => h.imp_right .inr
  | dollar =>
    dsimp only
    split
    · exact ⟨_, .inr (.inl rfl)⟩
    · exact (bare_inside _ g fs c).imp fun f' h => h.imp_right .inr
  | doubleDollar =>
    dsimp only
    split
    · exact ⟨_, .inr (.inl rfl)⟩
    · exact ⟨_, .inl rfl⟩
  | double => exact ⟨_, .inl rfl⟩
  | doubleEscape => exact ⟨_, .inl rfl⟩
  | _ =>
    dsimp only
    split <;> exact ⟨_, .inl rfl⟩

/-- The line that no substitution encloses. -/
def State.base (s : State) : Frame := s.outer.getLastD s.here

theorem behind_feed (h : s.base.Behind k n) (c : Char) : (s.feed c).base.Behind k (n + 1) := by
  obtain ⟨outer, f⟩ := s
  cases outer with
  | cons g fs =>
    obtain ⟨f', heq | heq | heq⟩ := feed_inside f g fs c
    · rw [heq]
      exact h.succ
    · rw [heq]
      exact h.succ
    · rw [heq]
      cases fs with
      | cons => exact h.succ
      | nil =>
        have hadd := h.succ.add (substitute f'.tokens)
        rwa [char?_substitute] at hadd
  | nil =>
    have hwild : (f.add .wild).Behind k n := h.add .wild
    unfold State.feed
    cases hmode : f.mode with
    | bare => exact h.bare_succ c
    | double => exact h.double hmode c
    | doubleEscape => exact h.doubleEscape hmode c
    | dollar =>
      dsimp only
      split
      · exact h.succ.turn (by simp)
      · exact (hwild.turn (by simp)).bare_succ c
    | doubleDollar =>
      dsimp only
      split
      · exact h.succ.turn (by simp)
      · exact (hwild.turn (by simp)).double rfl c
    | single =>
      dsimp only
      split
      · exact h.succ.turn (by simp)
      · exact h.add (.lit c)
    | escape =>
      dsimp only
      split
      · exact h.succ.turn (by simp)
      · exact (h.add (.lit c)).turn (by simp)
    | comment =>
      dsimp only
      split
      · exact h.succ.op c _ _
      · exact h.succ

theorem behind_feedAll (h : s.base.Behind k n) (t : Text) : (s.feedAll t).base.Behind k (n + t.length) := by
  induction t generalizing s n with
  | nil => exact h
  | cons c t ih => exact (ih (behind_feed h c)).of_chars rfl (by simp; omega)

theorem chars_of_lits {u : Text} (hmode : f.mode = .bare) (hpieces : f.pieces = lits u) : f.chars = u.length := by
  have hsome (c : Char) : (Piece.lit c).char? = some c := rfl
  simp [Frame.chars, hmode, hpieces, lits, List.filterMap_map, hsome]

theorem takes_iff : f.takes c ↔
    (!(isQuoting c || isExpanding c || isBlank c || isOperator c) && !(c = '#' && f.word.isNone) &&
      !(c = '~' && f.tilde)) = true := by
  simp only [Frame.takes, Bool.and_eq_true, Bool.not_eq_eq_eq_not, Bool.not_true, Bool.and_eq_false_iff,
    decide_eq_false_iff_not, Option.isNone_eq_false_iff, and_assoc]
  simp [imp_iff_not_or, Option.isSome_iff_ne_none]

theorem literal_raw_iff {u : Text} (houter : s.outer = []) (hmode : s.here.mode = .bare)
    (hpieces : s.here.pieces = lits u) (v : Text) :
    Literal s v v ↔
      plainFrom (declares s.here.tokens) s.here.word.isNone s.here.tilde s.here.assign v = true := by
  induction v generalizing s u with
  | nil =>
    simp only [plainFrom, iff_true]
    exact ⟨s.here.word, s.here.tilde, s.here.assign, by rw [feedAll_nil, ← hmode], by simp [Frame.pieces]⟩
  | cons c v ih =>
    obtain ⟨outer, f⟩ := s
    simp only at houter hmode hpieces
    subst houter
    have hfeed : State.feed ⟨[], f⟩ c = ⟨[], f.bare c⟩ := by
      simp [State.feed, hmode, State.bare]
    rw [plainFrom, Bool.and_eq_true, ← takes_iff]
    by_cases hc : f.takes c
    · -- the character is read into the word, and the rest of the text after it
      have hnext : (f.bare c).pieces = lits (u ++ [c]) := by
        rw [Frame.bare_of_takes hc, lits_append, ← hpieces]
        rfl
      have hmode' : (f.bare c).mode = .bare := by
        rw [Frame.bare_of_takes hc]
        exact hmode
      have hrest := ih (s := ⟨[], f.bare c⟩) rfl hmode' hnext
      rw [show Literal ⟨[], f⟩ (c :: v) (c :: v) ↔ Literal ⟨[], f.bare c⟩ v v by
        unfold Literal
        rw [feedAll_cons, hfeed]
        simp only [hnext, hpieces, lits_append, lits_cons, lits_nil, List.append_assoc, List.singleton_append]
        rw [Frame.bare_of_takes hc]
        rfl, hrest]
      simp only [hc, true_and]
      rw [Frame.bare_of_takes hc]
      rfl
    · -- the character adds nothing to the word, and the rest cannot make up for it
      simp only [hc, false_and, iff_false]
      intro hlit
      obtain ⟨w, tilde, assign, hstate, hw⟩ := hlit
      have hstart : f.Behind f.tokens.length u.length := 
        ⟨Nat.le_refl _, .inr (Nat.le_of_eq (chars_of_lits hmode hpieces))⟩
      have hbehind := hstart.bare c
      rw [if_neg hc] at hbehind
      have hend := behind_feedAll (s := ⟨[], f.bare c⟩) hbehind v
      rw [← hfeed, ← feedAll_cons, hstate] at hend
      have hchars := chars_of_lits (u := u ++ c :: v) (f := { f with word := w, mode := .bare, tilde, assign }) rfl
        (by rw [lits_append, ← hpieces]; exact hw)
      have hlen := Nat.le_trans (Nat.le_of_eq hchars.symm) (hend.2.resolve_left (Nat.lt_irrefl _))
      rw [List.length_append, List.length_cons] at hlen
      omega

theorem literal_word_iff (hts : declares ts = false) (v : Text) : Literal (boundary ts) v v ↔ plainWord v = true := by
  have h := literal_raw_iff (s := boundary ts) (u := []) rfl rfl rfl v
  rw [show declares (boundary ts).here.tokens = false from hts] at h
  exact h

theorem literal_name_iff (hts : declares ts = true) (v : Text) : Literal (boundary ts) v v ↔ plainName v = true := by
  have h := literal_raw_iff (s := boundary ts) (u := []) rfl rfl rfl v
  rw [show declares (boundary ts).here.tokens = true from hts] at h
  exact h

def isPlain (c : Char) : Bool :=
  !(isQuoting c || isExpanding c || isBlank c || isOperator c) && c ≠ '#' && c ≠ '~'

theorem Frame.takes_of_isPlain {c : Char} (h : isPlain c = true) (f : Frame) : f.takes c := by
  simp only [isPlain, Bool.and_eq_true, Bool.not_eq_eq_eq_not, Bool.not_true, decide_eq_true_eq] at h
  obtain ⟨⟨hspecial, hhash⟩, htilde⟩ := h
  exact ⟨hspecial, fun hc => hhash hc.1, fun hc => htilde hc.1⟩

theorem feed_of_isPlain {c : Char} (h : isPlain c = true) {f : Frame} (hf : f.mode = .bare) (outer : List Frame) :
    State.feed ⟨outer, f⟩ c = ⟨outer, f.bare c⟩ := by
  have hparen : c ≠ ')' := by
    rintro rfl
    simp [isPlain, isOperator] at h
  cases outer <;> simp [State.feed, State.bare, hf, hparen]

theorem feedAll_of_all {v : Text} (hv : v.all isPlain = true) {f : Frame} (hf : f.mode = .bare) (outer : List Frame) :
    ∃ w tilde assign, State.feedAll ⟨outer, f⟩ v = ⟨outer, { f with word := w, tilde := tilde, assign := assign }⟩ ∧
      w.getD [] = f.pieces ++ lits v := by
  induction v generalizing f with
  | nil => exact ⟨f.word, f.tilde, f.assign, rfl, by simp [Frame.pieces]⟩
  | cons c v ih =>
    rw [List.all_cons, Bool.and_eq_true] at hv
    have hbare := Frame.bare_of_takes (f.takes_of_isPlain hv.1)
    have hmode : (f.bare c).mode = .bare := by
      rw [hbare]
      exact hf
    obtain ⟨w, tilde, assign, hstate, hw⟩ := ih hv.2 hmode
    refine ⟨w, tilde, assign, ?_, ?_⟩
    · rw [feedAll_cons, feed_of_isPlain hv.1 hf, hstate, hbare]
      rfl
    · rw [hw, hbare]
      simp [Frame.add, Frame.pieces]

theorem literal_of_all {v : Text} (hv : v.all isPlain = true) (ts : List Token) : Literal (boundary ts) v v :=
  feedAll_of_all hv rfl []

def inWord (ts : List Token) (w : List Piece) (tilde assign : Bool) : State := ⟨[], ts, some w, .bare, tilde, assign, 0⟩

@[simp]
theorem feed_inWord_blank (tilde assign : Bool) :
    (inWord ts w tilde assign).feed ' ' = boundary (ts ++ [.word w]) := rfl

@[simp]
theorem feed_boundary_blank : (boundary ts).feed ' ' = boundary ts := rfl

@[simp]
theorem feed_boundary_and : (boundary ts).feed '&' = boundary (ts ++ [.op '&']) := rfl

@[simp]
theorem feed_inWord_semicolon (tilde assign : Bool) :
    (inWord ts w tilde assign).feed ';' = boundary (ts ++ [.word w, .op ';']) := by
  rw [show ts ++ [.word w, .op ';'] = ts ++ [Token.word w] ++ [.op ';'] by simp]
  rfl

@[simp]
theorem finish_inWord (tilde assign : Bool) :
    (inWord ts w tilde assign).finish = some (ts ++ [.word w]) := rfl

@[simp]
theorem finish_boundary : (boundary ts).finish = some ts := rfl

theorem feedAll_boundary_quote : (boundary ts).feedAll (quote v) = inWord ts (lits v) false false :=
  feedAll_quote (boundary ts) v rfl

theorem feedAll_boundary_raw {v : Text} (hv : Literal (boundary ts) v v) (hne : v ≠ []) :
    ∃ tilde assign, (boundary ts).feedAll v = inWord ts (lits v) tilde assign := by
  obtain ⟨w, tilde, assign, hstate, hw⟩ := hv
  have hsome : w = some (lits v) := by
    cases w with
    | none => exact absurd hw.symm (by simpa [boundary, Frame.boundary, Frame.pieces, lits] using hne)
    | some w => exact congrArg some hw
  exact ⟨tilde, assign, by rw [hstate, hsome]; rfl⟩

def spaced (ws : List Text) : Text := ws.flatMap fun w => w ++ [' ']

theorem feedAll_spaced {ws : List Text} (hws : ∀ w ∈ ws, w ≠ [] ∧ w.all isPlain = true) (outer : List Frame) :
    State.feedAll ⟨outer, .boundary ts⟩ (spaced ws) = ⟨outer, .boundary (ts ++ ws.map .lit)⟩ := by
  induction ws generalizing ts with
  | nil => simp [spaced]
  | cons w ws ih =>
    have hw := hws w (List.mem_cons_self ..)
    obtain ⟨v, tilde, assign, hstate, hv⟩ := feedAll_of_all hw.2 (f := .boundary ts) rfl outer
    have hsome : v = some (lits w) := by
      cases v with
      | none => exact absurd hv.symm (by simpa [Frame.boundary, Frame.pieces, lits] using hw.1)
      | some v => exact congrArg some hv
    have hblank : State.feed ⟨outer, ts, some (lits w), .bare, tilde, assign, 0⟩ ' ' = ⟨outer, .boundary (ts ++ [.lit w])⟩ := by
      cases outer <;> rfl
    have hsplit : spaced (w :: ws) = w ++ ' ' :: spaced ws := by simp [spaced]
    rw [hsplit, feedAll_append, hstate, hsome, feedAll_cons]
    exact hblank ▸ (ih fun w' hw' => hws w' (List.mem_cons_of_mem w hw')).trans (by simp)

@[simp]
theorem literal?_lit : (Token.lit v).literal? = some v := by
  simp only [Token.lit, Token.literal?, lits]
  induction v with
  | nil => rfl
  | cons c v ih => simp [Piece.char?, ih]

/- Lines built from fixed texts and values. -/

inductive Item
  | fixed (text : Text)
  | value (text v : Text)

def Item.text : Item → Text
  | .fixed text => text
  | .value text _ => text

def render (is : List Item) : Text := is.flatMap Item.text

/-- Every value is data where it stands. -/
def Contained (s : State) : List Item → Prop
  | [] => True
  | .fixed text :: is => Contained (s.feedAll text) is
  | .value text v :: is => Literal s text v ∧ Contained (s.feedAll text) is

/-- Every value of the line is data, and the line is read as these tokens. -/
def Reads (is : List Item) (ts : List Token) : Prop := Contained start is ∧ read (render is) = some ts

/-- From one state to the next with every value as data. -/
def Leads (s : State) (is : List Item) (s' : State) : Prop := Contained s is ∧ s.feedAll (render is) = s'

@[simp]
theorem render_nil : render [] = [] := rfl

@[simp]
theorem render_cons (i : Item) (is : List Item) : render (i :: is) = i.text ++ render is := rfl

@[simp]
theorem render_append (is js : List Item) : render (is ++ js) = render is ++ render js := List.flatMap_append

theorem contained_append (s : State) (is js : List Item) :
    Contained s (is ++ js) ↔ Contained s is ∧ Contained (s.feedAll (render is)) js := by
  induction is generalizing s with
  | nil => simp [Contained]
  | cons i is ih =>
    cases i with
    | fixed text => simpa [Contained, Item.text] using ih (s.feedAll text)
    | value text v => simp [Contained, Item.text, ih (s.feedAll text), and_assoc]

theorem Leads.refl (s : State) : Leads s [] s := ⟨trivial, rfl⟩

variable {is : List Item}

theorem Leads.append {js : List Item} (h : Leads s is t) (h' : Leads t js s') : Leads s (is ++ js) s' := by
  obtain ⟨hc, rfl⟩ := h
  obtain ⟨hc', rfl⟩ := h'
  exact ⟨(contained_append s is js).mpr ⟨hc, hc'⟩, by rw [render_append, feedAll_append]⟩

theorem Leads.fixed {text : Text} (h : Leads (s.feedAll text) is s') : Leads s (.fixed text :: is) s' :=
  ⟨h.1, by rw [render_cons, feedAll_append]; exact h.2⟩

theorem Leads.quoted {v : Text} (hs : s.here.mode = .bare)
    (h : Leads ⟨s.outer, { s.here with word := some (s.here.pieces ++ lits v), tilde := false }⟩ is s') :
    Leads s (.value (quote v) v :: is) s' := by
  rw [← feedAll_quote s v hs] at h
  exact ⟨⟨literal_quote s v hs, h.1⟩, by rw [render_cons, feedAll_append]; exact h.2⟩

theorem Leads.quotedWord {v : Text} (h : Leads (inWord ts (lits v) false false) is s') :
    Leads (boundary ts) (.value (quote v) v :: is) s' := .quoted rfl h

theorem Leads.raw {v : Text} (hv : Literal (boundary ts) v v) (hne : v ≠ [])
    (h : ∀ tilde assign, Leads (inWord ts (lits v) tilde assign) is s') :
    Leads (boundary ts) (.value v v :: is) s' := by
  obtain ⟨tilde, assign, hstate⟩ := feedAll_boundary_raw hv hne
  have hrest := h tilde assign
  rw [← hstate] at hrest
  exact ⟨⟨hv, hrest.1⟩, by rw [render_cons, feedAll_append]; exact hrest.2⟩

theorem reads_of_leads (h : Leads start is s) (hs : s.finish = some ts) : Reads is ts :=
  ⟨h.1, by rw [read, h.2, hs]⟩

end Shell
