import Vraxel.Go.Strconv
import Vraxel.Go.Strings
import Vraxel.Lib.Shell
/-
  The command lines of the `file`, `copy` and `service` modules (`lib/ansible/modules/file/file.go`,
  `copy/copy.go`, `service/service.go`, `internal/helpers.go`), with the words they are meant to be.
-/

namespace Vraxel.Ansible

open Shell Strconv Strings

/-- A value of the argument map: what a playbook's YAML or a template makes of it. -/
inductive Arg
  | str (s : String)
  | int (i : Int)
  /-- A `float64`, of which only the integer part is read. -/
  | float (i : Int)
  | bool (b : Bool)
  | other

abbrev Args := String → Option Arg

variable (args : Args)

def stringArg (key : String) : String :=
  match args key with
  | some (.str s) => s
  | _ => ""

def sscanfOctal (s : String) : Option Nat :=
  let digits := (s.toList.dropWhile fun c => isSpace c && c ≠ '\n').takeWhile fun c => '0' ≤ c && c ≤ '7' || c = '_'
  if digits = [] ∨ '_' ∈ digits then none
  else
    let n := digits.foldl (fun n c => 8 * n + (c.toNat - '0'.toNat)) 0
    if n < 2 ^ 32 then some n else none

def fileModeArg (key : String) (defaultMode : Nat) : Nat :=
  match args key with
  | some (.int i) => (i % 2 ^ 32).toNat
  | some (.float i) => (i % 2 ^ 32).toNat
  | some (.str s) => (sscanfOctal s).getD defaultMode
  | _ => defaultMode

def boolArg (key : String) : Option Bool :=
  match args key with
  | some (.bool b) => some b
  | some (.str s) =>
    let s := toLower (trimSpace s)
    if s = "true" ∨ s = "yes" ∨ s = "1" then some true
    else if s = "false" ∨ s = "no" ∨ s = "0" then some false
    else none
  | _ => none

structure Command where
  items : List Item
  tokens : List Token

def fixed (s : String) : Item := .fixed s.toList

def quoted (s : String) : Item := .value (quote s.toList) s.toList

def raw (s : String) : Item := .value s.toList s.toList

def arg (s : String) : Token := .lit s.toList

def octal (mode : Nat) : String := String.ofList (List.leftpad 4 '0' (Nat.toDigits 8 mode))

/-- A command whose last word is a path or a name; `words` are the ones before it. -/
def simpleCommand (text : String) (words : List String) (path : String) : Command :=
  ⟨[fixed text, quoted path], words.map arg ++ [arg path]⟩

def touchCommand (path : String) : Command where
  items := [fixed "mkdir -p \"$(dirname ", quoted path, fixed ")\" && touch ", quoted path]
  tokens :=
    [arg "mkdir", arg "-p", .word [.subst ["dirname".toList, path.toList]], .op '&', .op '&', arg "touch", arg path]

def linkCommand (src path : String) : Command where
  items := [fixed "ln -sfn ", quoted src, fixed " ", quoted path]
  tokens := [arg "ln", arg "-sfn", arg src, arg path]

def chmodCommand (mode : Nat) (path : String) : Command where
  items := [fixed "chmod ", raw (octal mode), fixed " ", quoted path]
  tokens := [arg "chmod", arg (octal mode), arg path]

def chownCommand (chownArg path : String) : Command where
  items := [fixed "chown ", raw chownArg, fixed " ", quoted path]
  tokens := [arg "chown", arg chownArg, arg path]

def moveCommand (tmpPath dest : String) (mode : Nat) : Command where
  items := [fixed "mv ", raw tmpPath, fixed " ", quoted dest, fixed " && chmod ", raw (octal mode), fixed " ", quoted dest]
  tokens := [arg "mv", arg tmpPath, arg dest, .op '&', .op '&', arg "chmod", arg (octal mode), arg dest]

def daemonReload : Command := ⟨[fixed "systemctl daemon-reload"], [arg "systemctl", arg "daemon-reload"]⟩

def systemctl (verb name : String) : Command := simpleCommand ("systemctl " ++ verb ++ " ") ["systemctl", verb] name

/-- The environment is a map; its variables are written in the order of their names. -/
abbrev Env := List (String × String)

def Env.sorted (env : Env) : Env := env.mergeSort fun a b => a.1 ≤ b.1

def exportItems (kv : String × String) : List Item :=
  [fixed "export ", raw kv.1, fixed "=", quoted kv.2, fixed "; "]

def exportTokens (kv : String × String) : List Token :=
  [arg "export", .lit (kv.1.toList ++ '=' :: kv.2.toList), .op ';']

def envPrefix (env : Env) : List Item := env.sorted.flatMap exportItems

def Command.withEnv (c : Command) (env : Env) : Command :=
  ⟨envPrefix env ++ c.items, env.sorted.flatMap exportTokens ++ c.tokens⟩

/-- A shell reads the command as it is meant, with every value as data. -/
def Command.Safe (c : Command) : Prop := Reads c.items c.tokens

/-! The modules: the commands they send, and the error they end with. -/

def chownArg (owner group : String) : String :=
  if owner ≠ "" ∧ group ≠ "" then owner ++ ":" ++ group
  else if owner ≠ "" then owner
  else if group ≠ "" then ":" ++ group
  else ""

def chown (path : String) : List Command :=
  let chownArg := chownArg (stringArg args "owner") (stringArg args "group")
  if chownArg = "" then [] else [chownCommand chownArg path]

def stateCommand (state path src : String) : Except String Command :=
  if state = "directory" then .ok (simpleCommand "mkdir -p " ["mkdir", "-p"] path)
  else if state = "touch" then .ok (touchCommand path)
  else if state = "absent" then .ok (simpleCommand "rm -rf " ["rm", "-rf"] path)
  else if state = "link" then
    if src = "" then .error "file: src is required for state=link" else .ok (linkCommand src path)
  else if state = "file" then .ok (simpleCommand "test -e " ["test", "-e"] path)
  else .error ("file: unsupported state " ++ Strconv.quote state)

def applyOwnership (path : String) : List Command :=
  (if (args "mode").isSome then [chmodCommand (fileModeArg args "mode" 0o644) path] else []) ++ chown args path

def fileState : String := if stringArg args "state" = "" then "file" else stringArg args "state"

def moduleFile : List Command × Option String :=
  let path := stringArg args "path"
  if path = "" then ([], some "file: path is required")
  else
    match stateCommand (fileState args) path (stringArg args "src") with
    | .error e => ([], some e)
    | .ok cmd => if fileState args = "absent" then ([cmd], none) else (cmd :: applyOwnership args path, none)

/-- Whether there is something to write; `source` answers for the files of the playbook. -/
def moduleCopyResolveData (source : Option (String → Except String Unit)) : Except String Unit :=
  match args "content", args "src" with
  | some (.str _), _ => .ok ()
  | _, some (.str src) =>
    if src = "" then .error "copy: either src or content is required"
    else
      match source with
      | none => .error ("copy: read source " ++ src ++ ": no source available")
      | some readFile => (readFile src).mapError fun e => "copy: read source " ++ src ++ ": " ++ e
  | _, _ => .error "copy: either src or content is required"

/-- The file is uploaded where it belongs, or with `become` to a temporary file and moved; `now` is
the time in nanoseconds. -/
def writeFile (become : Bool) (now : Int) (dest : String) (mode : Nat) : List Command :=
  if become then [moveCommand ("/tmp/.ansible_tmp_" ++ formatInt now) dest mode] else []

def moduleCopy (become : Bool) (now : Int) (source : Option (String → Except String Unit)) :
    List Command × Option String :=
  let dest := stringArg args "dest"
  if dest = "" then ([], some "copy: dest is required")
  else
    let mode := fileModeArg args "mode" 0o644
    match moduleCopyResolveData args source with
    | .error e => ([], some e)
    | .ok () => (writeFile become now dest mode ++ chown args dest, none)

def stateVerb (state : String) : Except String String :=
  if state = "started" then .ok "start"
  else if state = "stopped" then .ok "stop"
  else if state = "restarted" then .ok "restart"
  else if state = "reloaded" then .ok "reload"
  else .error ("service: unsupported state " ++ Strconv.quote state)

def prepare (reload : Bool) (enabled : Option Bool) (name : String) : List Command :=
  (if reload then [daemonReload] else []) ++
    match enabled with
    | none => []
    | some enabled => [systemctl (if enabled then "enable" else "disable") name]

def moduleService : List Command × Option String :=
  let name := stringArg args "name"
  if name = "" then ([], some "service: name is required")
  else
    let state := stringArg args "state"
    let enabled := boolArg args "enabled"
    let reload := (boolArg args "daemon_reload").getD false
    if state = "" ∧ enabled = none ∧ reload = false then
      ([], some "service: one of state, enabled or daemon_reload is required")
    else
      if state = "" then (prepare reload enabled name, none)
      else
        match stateVerb state with
        | .error e => (prepare reload enabled name, some e)
        | .ok verb => (prepare reload enabled name ++ [systemctl verb name], none)

inductive Call
  | file (args : Args)
  | copy (args : Args) (become : Bool) (now : Int) (source : Option (String → Except String Unit))
  | service (args : Args)

def Call.commands : Call → List Command
  | .file args => (moduleFile args).1
  | .copy args become now source => (moduleCopy args become now source).1
  | .service args => (moduleService args).1

/-! How the commands are read, from the beginning of a command on. -/

/-- The command is read as it is meant wherever a command can begin. -/
def Command.Fits (c : Command) : Prop :=
  ∀ ts, commandWords ts = [] → ∃ s, Leads (boundary ts) c.items s ∧ s.finish = some (ts ++ c.tokens)

variable {ts : List Token} {is : List Item}

theorem leads_words {s : State} {text : String} (words : List String)
    (htext : text.toList = spaced (words.map String.toList))
    (hwords : ∀ w ∈ words, w.toList ≠ [] ∧ w.toList.all isPlain = true)
    (h : Leads (boundary (ts ++ words.map arg)) is s) : Leads (boundary ts) (fixed text :: is) s := by
  apply Leads.fixed
  rw [htext, boundary, feedAll_spaced (by simpa using hwords), List.map_map]
  exact h

theorem fits_simpleCommand {text : String} {words : List String} (path : String)
    (htext : text.toList = spaced (words.map String.toList))
    (hwords : ∀ w ∈ words, w.toList ≠ [] ∧ w.toList.all isPlain = true) : (simpleCommand text words path).Fits := by
  intro ts _
  refine ⟨_, leads_words words htext hwords (.quotedWord (.refl _)), ?_⟩
  rw [finish_inWord, List.append_assoc]
  rfl

theorem leads_blank {s : State} {w : List Piece} {tilde assign : Bool}
    (h : Leads (boundary (ts ++ [.word w])) is s) : Leads (inWord ts w tilde assign) (fixed " " :: is) s :=
  .fixed h

theorem fits_linkCommand (src path : String) : (linkCommand src path).Fits := by
  intro ts _
  refine ⟨_, leads_words ["ln", "-sfn"] (by decide) (by decide) (.quotedWord (leads_blank (.quotedWord (.refl _)))), ?_⟩
  simp [linkCommand, arg, Token.lit]

theorem feedAll_and {w : List Piece} {tilde assign : Bool} {word : String}
    (hword : word.toList ≠ [] ∧ word.toList.all isPlain = true) :
    (inWord ts w tilde assign).feedAll (" && ".toList ++ spaced [word.toList])
      = boundary (ts ++ [.word w, .op '&', .op '&', arg word]) := by
  have hand : (inWord ts w tilde assign).feedAll " && ".toList = boundary (ts ++ [.word w, .op '&', .op '&']) := by
    simp
  rw [feedAll_append, hand, boundary, feedAll_spaced (by simpa using hword)]
  simp [arg, boundary]

theorem leads_and {s : State} {w : List Piece} {tilde assign : Bool} {text : String} (word : String)
    (htext : text.toList = " && ".toList ++ spaced [word.toList])
    (hword : word.toList ≠ [] ∧ word.toList.all isPlain = true)
    (h : Leads (boundary (ts ++ [.word w, .op '&', .op '&', arg word])) is s) :
    Leads (inWord ts w tilde assign) (fixed text :: is) s := by
  apply Leads.fixed
  rw [htext, feedAll_and hword]
  exact h

def substituted (ts : List Token) (f : Frame) : State := ⟨[⟨ts, some [], .double, false, false, 0⟩], f⟩

theorem feedAll_dirname :
    (boundary ts).feedAll "mkdir -p \"$(dirname ".toList
      = substituted (ts ++ [arg "mkdir", arg "-p"]) (.boundary [arg "dirname"]) := by
  rw [show "mkdir -p \"$(dirname ".toList = spaced ["mkdir".toList, "-p".toList] ++ "\"$(dirname ".toList by decide,
    feedAll_append, boundary, feedAll_spaced (by decide),
    show "\"$(dirname ".toList = "\"$(".toList ++ spaced ["dirname".toList] by decide, feedAll_append]
  exact feedAll_spaced (by decide) _

theorem feedAll_dirname_close (path : String) :
    (substituted ts ⟨[arg "dirname"], some (lits path.toList), .bare, false, false, 0⟩).feedAll ")\"".toList
      = inWord ts [.subst ["dirname".toList, path.toList]] false false := by
  have hsub : substitute [arg "dirname", arg path] = .subst ["dirname".toList, path.toList] := by
    simp [substitute, arg]
  rw [← hsub]
  rfl

theorem fits_touchCommand (path : String) : (touchCommand path).Fits := by
  intro ts _
  refine ⟨inWord (ts ++ [arg "mkdir", arg "-p"] ++ [.word [.subst ["dirname".toList, path.toList]], .op '&', .op '&',
    arg "touch"]) (lits path.toList) false false, ?_, by simp [touchCommand, arg, Token.lit]⟩
  apply Leads.fixed
  rw [feedAll_dirname]
  apply Leads.quoted rfl
  apply Leads.fixed
  rw [show ")\" && touch ".toList = ")\"".toList ++ (" && ".toList ++ spaced ["touch".toList]) by decide, feedAll_append]
  have hclose := @feedAll_dirname_close (ts ++ [arg "mkdir", arg "-p"]) path
  have hand := @feedAll_and (ts ++ [arg "mkdir", arg "-p"]) [.subst ["dirname".toList, path.toList]] false false "touch"
    (by decide)
  rw [← hclose] at hand
  exact hand ▸ .quotedWord (.refl _)

theorem isPlain_of_isDigit {c : Char} (h : c.isDigit = true) : isPlain c = true := by
  have hne (d : Char) (hd : d.isDigit = false) : c ≠ d := by
    intro hcd
    rw [hcd, hd] at h
    exact Bool.noConfusion h
  simp [isPlain, isQuoting, isExpanding, isBlank, isOperator, hne]

theorem all_toDigits {b : Nat} (hb : 0 < b) (hb' : b ≤ 10) (n : Nat) : (Nat.toDigits b n).all isPlain = true := by
  rw [List.all_eq_true]
  intro c hc
  exact isPlain_of_isDigit (Nat.isDigit_of_mem_toDigits hb hb' hc)

theorem all_octal (mode : Nat) : (octal mode).toList ≠ [] ∧ (octal mode).toList.all isPlain = true := by
  rw [octal, String.toList_ofList, List.leftpad]
  constructor
  · simp [Nat.toDigits_ne_nil]
  · rw [List.all_append, all_toDigits (by decide) (by decide), Bool.and_true, List.all_eq_true]
    intro c hc
    rw [List.eq_of_mem_replicate hc]
    decide

theorem all_tmpPath (now : Int) : ("/tmp/.ansible_tmp_" ++ formatInt now).toList.all isPlain = true := by
  rw [String.toList_append, List.all_append, Bool.and_eq_true]
  refine ⟨by decide, List.all_eq_true.2 fun c hc => ?_⟩
  obtain hdigit | rfl := mem_formatInt hc
  · exact isPlain_of_isDigit hdigit
  · rfl

theorem fits_chmodCommand (mode : Nat) (path : String) : (chmodCommand mode path).Fits := by
  intro ts _
  have hmode := all_octal mode
  refine ⟨_, leads_words ["chmod"] (by decide) (by decide) (.raw (literal_of_all hmode.2 _) hmode.1 fun _ _ =>
    leads_blank (.quotedWord (.refl _))), ?_⟩
  simp [chmodCommand, arg, Token.lit]

theorem fits_moveCommand (now : Int) (dest : String) (mode : Nat) :
    (moveCommand ("/tmp/.ansible_tmp_" ++ formatInt now) dest mode).Fits := by
  intro ts _
  have hmode := all_octal mode
  refine ⟨_, leads_words ["mv"] (by decide) (by decide) (.raw (literal_of_all (all_tmpPath now) _) (by simp) fun _ _ =>
    leads_blank (.quotedWord (leads_and "chmod" (by decide) (by decide) (.raw (literal_of_all hmode.2 _) hmode.1 fun _ _ =>
      leads_blank (.quotedWord (.refl _)))))), ?_⟩
  simp [moveCommand, arg, Token.lit]

theorem fits_daemonReload : daemonReload.Fits := by
  intro ts _
  obtain ⟨tilde, assign, hword⟩ := feedAll_boundary_raw (v := "daemon-reload".toList)
    (literal_of_all (by decide) (ts ++ [arg "systemctl"])) (by decide)
  refine ⟨_, .fixed (.refl _), ?_⟩
  rw [show "systemctl daemon-reload".toList = spaced ["systemctl".toList] ++ "daemon-reload".toList by decide,
    feedAll_append, boundary, feedAll_spaced (by decide)]
  rw [show ts ++ List.map Token.lit ["systemctl".toList] = ts ++ [arg "systemctl"] from rfl, ← boundary, hword,
    finish_inWord]
  simp [daemonReload, arg, Token.lit]

theorem fits_systemctl {verb : String} (hverb : verb.toList ≠ [] ∧ verb.toList.all isPlain = true) (name : String) :
    (systemctl verb name).Fits := by
  apply fits_simpleCommand
  · simp [spaced]
  · intro w hw
    rw [List.mem_pair] at hw
    cases hw with
    | inl h => rw [h]; decide
    | inr h => rw [h]; exact hverb

theorem commandWords_append_word (h : commandWords ts = []) (ps : List Piece) :
    commandWords (ts ++ [.word ps]) = [.word ps] := by
  unfold commandWords at h ⊢
  rw [List.foldl_append, h]
  rfl

theorem literal_chown_iff (hts : commandWords ts = []) (v : Text) :
    Literal (boundary (ts ++ [arg "chown"])) v v ↔ plainWord v = true := by
  apply literal_word_iff
  simp [declares, arg, Token.lit, commandWords_append_word hts]

theorem fits_chownCommand {chownArg : String} (hplain : plainWord chownArg.toList = true) (hne : chownArg ≠ "")
    (path : String) : (chownCommand chownArg path).Fits := by
  intro ts hts
  have hlit := (literal_chown_iff hts chownArg.toList).mpr hplain
  refine ⟨_, leads_words ["chown"] (by decide) (by decide) (.raw hlit (by simpa using hne) fun _ _ =>
    leads_blank (.quotedWord (.refl _))), ?_⟩
  simp [chownCommand, arg, Token.lit]

theorem plainWord_of_contained {chownArg path : String} (hts : commandWords ts = [])
    (h : Contained (boundary ts) (chownCommand chownArg path).items) : plainWord chownArg.toList = true := by
  exact (literal_chown_iff hts _).mp h.1

theorem literal_export_iff (hts : commandWords ts = []) (v : Text) :
    Literal (boundary (ts ++ [arg "export"])) v v ↔ plainName v = true := by
  apply literal_name_iff
  simp [declares, arg, Token.lit, commandWords_append_word hts]

theorem feedAll_export : (boundary ts).feedAll "export ".toList = boundary (ts ++ [arg "export"]) :=
  @feedAll_spaced ts ["export".toList] (by decide) []

theorem feedAll_assign {k : Text} (hk : Literal (boundary ts) k k) :
    ∃ tilde assign, ((boundary ts).feedAll k).feedAll "=".toList = inWord ts (lits k ++ [.lit '=']) tilde assign := by
  obtain ⟨w, tilde, assign, hstate, hw⟩ := hk
  refine ⟨declares ts && ('=' = '=' || ('=' = ':' && assign)), assign || (declares ts && '=' = '='), ?_⟩
  rw [hstate, ← show w.getD [] = lits k from hw]
  rfl

theorem commandWords_append_op (c : Char) : commandWords (ts ++ [.op c]) = [] := by
  unfold commandWords
  rw [List.foldl_append]
  rfl

theorem commandWords_export (ts : List Token) (kv : String × String) : commandWords (ts ++ exportTokens kv) = [] := by
  rw [show ts ++ exportTokens kv = ts ++ [arg "export", .lit (kv.1.toList ++ '=' :: kv.2.toList)] ++ [.op ';'] by
    simp [exportTokens]]
  exact commandWords_append_op ';'

theorem leads_export (hts : commandWords ts = []) {kv : String × String} (hk : plainName kv.1.toList = true) :
    Leads (boundary ts) (exportItems kv) (boundary (ts ++ exportTokens kv)) := by
  have hlit := (literal_export_iff hts _).mpr hk
  obtain ⟨tilde, assign, hassign⟩ := feedAll_assign hlit
  have hquote : (inWord (ts ++ [arg "export"]) (lits kv.1.toList ++ [.lit '=']) tilde assign).feedAll (quote kv.2.toList)
      = inWord (ts ++ [arg "export"]) (lits kv.1.toList ++ [.lit '='] ++ lits kv.2.toList) false assign :=
    feedAll_quote _ _ rfl
  have hend : (inWord (ts ++ [arg "export"]) (lits kv.1.toList ++ [.lit '='] ++ lits kv.2.toList) false assign).feedAll
      "; ".toList = boundary (ts ++ exportTokens kv) := by
    simp [exportTokens, Token.lit]
  constructor
  · simp only [exportItems, fixed, raw, quoted, Contained, feedAll_export, hassign, and_true]
    exact ⟨hlit, literal_quote _ _ rfl⟩
  · simp only [exportItems, fixed, raw, quoted, render_cons, render_nil, Item.text, feedAll_append, List.append_nil,
      feedAll_export, hassign, hquote, hend]

theorem leads_exports (hts : commandWords ts = []) {env : Env} (henv : ∀ kv ∈ env, plainName kv.1.toList = true) :
    Leads (boundary ts) (env.flatMap exportItems) (boundary (ts ++ env.flatMap exportTokens)) := by
  induction env generalizing ts with
  | nil => simpa using Leads.refl (boundary ts)
  | cons kv env ih =>
    rw [List.forall_mem_cons] at henv
    rw [List.flatMap_cons, List.flatMap_cons, ← List.append_assoc]
    exact (leads_export hts henv.1).append (ih (commandWords_export ts kv) henv.2)

/-- Where the variables are data their names are plain, and what follows is read from the beginning
of a command on. -/
theorem plainName_of_contained (hts : commandWords ts = []) {env : Env}
    (h : Contained (boundary ts) (env.flatMap exportItems ++ is)) :
    (∀ kv ∈ env, plainName kv.1.toList = true) ∧ Contained (boundary (ts ++ env.flatMap exportTokens)) is := by
  induction env generalizing ts with
  | nil => simpa using h
  | cons kv env ih =>
    rw [List.flatMap_cons, List.append_assoc, contained_append] at h
    have hk : plainName kv.1.toList = true := by
      have hitems := h.1
      exact (literal_export_iff hts _).mp hitems.1
    have hrest := h.2
    rw [(leads_export hts hk).2] at hrest
    have henv := ih (commandWords_export ts kv) hrest
    rw [List.append_assoc] at henv
    exact ⟨List.forall_mem_cons.mpr ⟨hk, henv.1⟩, henv.2⟩

theorem commandWords_exports (env : Env) : commandWords (env.flatMap exportTokens) = [] := by
  induction env using List.reverseRecOn with
  | nil => rfl
  | append_singleton env kv _ =>
    rw [List.flatMap_append, List.flatMap_singleton]
    exact commandWords_export _ kv

theorem mem_sorted {env : Env} {kv : String × String} : kv ∈ env.sorted ↔ kv ∈ env := List.mem_mergeSort

variable {c : Command}

theorem Command.Fits.safe (hc : c.Fits) {env : Env} (henv : ∀ kv ∈ env, plainName kv.1.toList = true) :
    (c.withEnv env).Safe := by
  have hsorted : ∀ kv ∈ env.sorted, plainName kv.1.toList = true := fun kv hkv => henv kv (mem_sorted.mp hkv)
  have hexports := @leads_exports [] rfl _ hsorted
  obtain ⟨s, hleads, hfinish⟩ := hc _ (commandWords_exports env.sorted)
  exact reads_of_leads (hexports.append hleads) hfinish

theorem contained_of_safe {env : Env} (h : (c.withEnv env).Safe) :
    (∀ kv ∈ env, plainName kv.1.toList = true) ∧ Contained (boundary (env.sorted.flatMap exportTokens)) c.items := by
  have hcontained := @plainName_of_contained [] _ rfl _ h.1
  exact ⟨fun kv hkv => hcontained.1 kv (mem_sorted.mpr hkv), hcontained.2⟩

/-- What the modules send: commands that always fit, and `chown`. -/
def Known (c : Command) : Prop := c.Fits ∨ ∃ chownArg path, chownArg ≠ "" ∧ c = chownCommand chownArg path

theorem known_chown {args : Args} {path : String} (hc : c ∈ chown args path) : Known c := by
  unfold chown at hc
  simp only at hc
  split at hc
  · simp at hc
  · next hne =>
    rw [List.mem_singleton] at hc
    exact Or.inr ⟨_, path, hne, hc⟩

theorem fits_stateCommand {state path src : String} (h : stateCommand state path src = .ok c) : c.Fits := by
  unfold stateCommand at h
  split at h
  · cases h
    exact fits_simpleCommand path (by decide) (by decide)
  split at h
  · cases h
    exact fits_touchCommand path
  split at h
  · cases h
    exact fits_simpleCommand path (by decide) (by decide)
  split at h
  · split at h
    · cases h
    · cases h
      exact fits_linkCommand src path
  split at h
  · cases h
    exact fits_simpleCommand path (by decide) (by decide)
  · cases h

theorem known_moduleFile {args : Args} (hc : c ∈ (moduleFile args).1) : Known c := by
  unfold moduleFile at hc
  simp only at hc
  split at hc
  · simp at hc
  · split at hc
    · simp at hc
    · next cmd hcmd =>
      have hfits := fits_stateCommand hcmd
      split at hc
      · rw [List.mem_singleton] at hc
        exact Or.inl (hc ▸ hfits)
      · rw [List.mem_cons] at hc
        cases hc with
        | inl h => exact Or.inl (h ▸ hfits)
        | inr h =>
          unfold applyOwnership at h
          rw [List.mem_append] at h
          cases h with
          | inl hmode =>
            split at hmode
            · rw [List.mem_singleton] at hmode
              exact Or.inl (hmode ▸ fits_chmodCommand _ _)
            · simp at hmode
          | inr hchown => exact known_chown hchown

theorem known_moduleCopy {args : Args} {become : Bool} {now : Int} {source : Option (String → Except String Unit)} (hc : c ∈ (moduleCopy args become now source).1) : Known c := by
  unfold moduleCopy at hc
  simp only at hc
  split at hc
  · simp at hc
  · split at hc
    · simp at hc
    · rw [List.mem_append] at hc
      cases hc with
      | inl hwrite =>
        unfold writeFile at hwrite
        split at hwrite
        · rw [List.mem_singleton] at hwrite
          exact Or.inl (hwrite ▸ fits_moveCommand now _ _)
        · simp at hwrite
      | inr hchown => exact known_chown hchown

theorem plain_stateVerb {state verb : String} (h : stateVerb state = .ok verb) :
    verb.toList ≠ [] ∧ verb.toList.all isPlain = true := by
  unfold stateVerb at h
  split at h
  · cases h
    decide
  split at h
  · cases h
    decide
  split at h
  · cases h
    decide
  split at h
  · cases h
    decide
  · cases h

theorem known_prepare {reload : Bool} {enabled : Option Bool} {name : String}
    (hc : c ∈ prepare reload enabled name) : Known c := by
  unfold prepare at hc
  rw [List.mem_append] at hc
  cases hc with
  | inl hreload =>
    split at hreload
    · rw [List.mem_singleton] at hreload
      exact Or.inl (hreload ▸ fits_daemonReload)
    · simp at hreload
  | inr henable =>
    split at henable
    · simp at henable
    · next enabled =>
      rw [List.mem_singleton] at henable
      exact Or.inl (henable ▸ fits_systemctl (by cases enabled <;> decide) name)

theorem known_moduleService {args : Args} (hc : c ∈ (moduleService args).1) : Known c := by
  unfold moduleService at hc
  simp only at hc
  split at hc
  · simp at hc
  split at hc
  · simp at hc
  split at hc
  · exact known_prepare hc
  split at hc
  · exact known_prepare hc
  · next verb hverb =>
    rw [List.mem_append, List.mem_singleton] at hc
    cases hc with
    | inl h => exact known_prepare h
    | inr h => exact Or.inl (h ▸ fits_systemctl (plain_stateVerb hverb) _)

theorem known_commands {call : Call} (hc : c ∈ call.commands) : Known c := by
  cases call with
  | file args => exact known_moduleFile hc
  | copy args become now source => exact known_moduleCopy hc
  | service args => exact known_moduleService hc

/-- Every command of a call is read as it is meant exactly if the names in the environment are plain,
and so is the argument of a `chown`. -/
theorem commands_contained_iff (call : Call) (env : Env) :
    (∀ c ∈ call.commands, (c.withEnv env).Safe) ↔
      (call.commands ≠ [] → ∀ kv ∈ env, plainName kv.1.toList = true) ∧
      ∀ chownArg path, chownCommand chownArg path ∈ call.commands → plainWord chownArg.toList = true := by
  constructor
  · intro h
    constructor
    · intro hne
      obtain ⟨c, hc⟩ := List.exists_mem_of_ne_nil _ hne
      exact (contained_of_safe (h c hc)).1
    · intro chownArg path hc
      exact plainWord_of_contained (commandWords_exports _) (contained_of_safe (h _ hc)).2
  · intro h c hc
    obtain ⟨henv, hchown⟩ := h
    have hnames := henv (List.ne_nil_of_mem hc)
    cases known_commands hc with
    | inl hfits => exact hfits.safe hnames
    | inr hown =>
      obtain ⟨chownArg, path, hne, rfl⟩ := hown
      exact (fits_chownCommand (hchown chownArg path hc) hne path).safe hnames

def ownerArgs : Args := fun key =>
  if key = "path" then some (.str "/srv/data")
  else if key = "state" then some (.str "directory")
  else if key = "owner" then some (.str "root;reboot")
  else none

/-- The owner's second half is a command of its own. -/
theorem owner_runs_command :
    chownCommand "root;reboot" "/srv/data" ∈ (Call.file ownerArgs).commands ∧
      read (render (chownCommand "root;reboot" "/srv/data").items)
        = some [arg "chown", arg "root", .op ';', arg "reboot", arg "/srv/data"] ∧
      ¬((chownCommand "root;reboot" "/srv/data").withEnv []).Safe := by
  have hread : read (render (chownCommand "root;reboot" "/srv/data").items)
      = some [arg "chown", arg "root", .op ';', arg "reboot", arg "/srv/data"] := by
    decide
  refine ⟨?_, hread, ?_⟩
  · simp [Call.commands, moduleFile, stateCommand, fileState, applyOwnership, chown, chownArg, stringArg, ownerArgs]
  · intro h
    have htokens := h.2
    exact absurd htokens (by decide +kernel)

end Vraxel.Ansible
