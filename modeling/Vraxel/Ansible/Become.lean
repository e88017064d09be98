import Vraxel.Ansible.Commands
/-
  How a command becomes another user's (`lib/ansible/connector/ssh/ssh.go`,
  `lib/clients/sshclient/command.go`). What is sent is read by the shell of the login; a line of
  `sudo` is an argument list for `sudo`.
-/

namespace Vraxel.Ansible

open Shell

structure SSHConnector where
  become : Bool
  becomeUser : String
  password : String
  ptyEnabled : Bool
  live : Bool

/-- What is sent: the line, and what is written to its standard input. -/
structure Sent where
  line : List Item
  stdin : Option String

variable (cmd : String) (c : SSHConnector)

def exec : Sent := ⟨[fixed cmd], none⟩

def execWithSudo (password : String) : Sent :=
  if password ≠ "" then ⟨[fixed "sudo -S -p '' sh -c ", quoted cmd], some (password ++ "\n")⟩
  else ⟨[fixed "sudo sh -c ", quoted cmd], none⟩

def SSHConnector.userArg : List Item :=
  if c.becomeUser ≠ "" ∧ c.becomeUser ≠ "root" then [fixed " -u ", raw c.becomeUser] else []

def SSHConnector.buildPtyCommand (cmd : String) : Sent :=
  if c.become = false then exec cmd
  else if c.password = "" then ⟨fixed "sudo" :: c.userArg ++ [fixed " sh -c ", quoted cmd], none⟩
  else ⟨fixed "sudo -p '' -S" :: c.userArg ++ [fixed " sh -c ", quoted cmd], some (c.password ++ "\n")⟩

def SSHConnector.executeCommand (cmd : String) : Sent :=
  if c.ptyEnabled && c.live then c.buildPtyCommand cmd
  else if c.become then execWithSudo cmd c.password
  else exec cmd

/-- The user and the command that `sudo` runs, with these arguments. -/
def sudoRun (user : Text) : List Text → Option (Text × List Text)
  | [] => none
  | [word] => if word = "-S".toList ∨ word = "-p".toList ∨ word = "-u".toList then none else some (user, [word])
  | word :: next :: rest =>
    if word = "-S".toList then sudoRun user (next :: rest)
    else if word = "-p".toList then sudoRun user rest
    else if word = "-u".toList then sudoRun next rest
    else some (user, word :: next :: rest)

/-- The user and the script of a line that is one call of `sudo` with a shell for its command. -/
def script (line : Text) : Option (Text × Text) := do
  let words ← (← read line).mapM Token.literal?
  match words with
  | name :: args =>
    if name = "sudo".toList then
      match sudoRun "root".toList args with
      | some (user, [sh, c, text]) => if sh = "sh".toList ∧ c = "-c".toList then some (user, text) else none
      | _ => none
    else none
  | [] => none

def SSHConnector.target : String := if c.becomeUser = "" then "root" else c.becomeUser

/-- The line is the command itself, or makes it the script of a shell that the wanted user runs, with
the name and the command as data. -/
def SSHConnector.Becomes (cmd : String) : Prop :=
  if c.become then
    Contained start (c.executeCommand cmd).line ∧
      script (render (c.executeCommand cmd).line) = some (c.target.toList, cmd.toList)
  else render (c.executeCommand cmd).line = cmd.toList

/-! Reading the lines. -/

theorem mapM_literal? (vs : List Text) : (vs.map Token.lit).mapM Token.literal? = some vs := by
  induction vs with
  | nil => rfl
  | cons v vs ih => simp [ih]

theorem script_of_read {line : Text} {args : List Text} {user cmd : Text}
    (hread : read line = some (("sudo".toList :: args).map Token.lit))
    (hsudo : sudoRun "root".toList args = some (user, ["sh".toList, "-c".toList, cmd])) :
    script line = some (user, cmd) := by
  unfold script
  simp only [hread, Option.bind_eq_bind, Option.bind_some, mapM_literal?, if_true, hsudo, and_self]

theorem reads_script {is : List Item} {ws : List Text} (hws : Leads start is (boundary (ws.map Token.lit))) (cmd : String) :
    Reads (is ++ [quoted cmd]) ((ws ++ [cmd.toList]).map Token.lit) :=
  reads_of_leads (hws.append (.quotedWord (.refl _))) (by simp [Token.lit])

def userLine (text user cmd : String) : List Item := [fixed text, fixed " -u ", raw user, fixed " sh -c ", quoted cmd]

theorem reads_userLine {text : String} {ws : List Text}
    (hws : (start.feedAll text.toList).feedAll " -u ".toList = boundary (ws.map Token.lit))
    (hdeclares : declares (ws.map Token.lit) = false) {user : String} (huser : plainWord user.toList = true)
    (hne : user ≠ "") (cmd : String) :
    Reads (userLine text user cmd) ((ws ++ [user.toList, "sh".toList, "-c".toList, cmd.toList]).map Token.lit) := by
  have hshell (tilde assign : Bool) : (inWord (ws.map Token.lit) (lits user.toList) tilde assign).feedAll " sh -c ".toList
      = boundary ((ws ++ [user.toList, "sh".toList, "-c".toList]).map Token.lit) := by
    rw [show " sh -c ".toList = ' ' :: spaced ["sh".toList, "-c".toList] by decide, feedAll_cons, feed_inWord_blank, boundary,
      feedAll_spaced (by decide)]
    simp [boundary, Token.lit]
  have hleads : Leads start [fixed text, fixed " -u ", raw user, fixed " sh -c "]
      (boundary ((ws ++ [user.toList, "sh".toList, "-c".toList]).map Token.lit)) := by
    apply Leads.fixed
    apply Leads.fixed
    rw [hws]
    refine .raw ((literal_word_iff hdeclares _).mpr huser) (by simpa using hne) fun tilde assign => ?_
    apply Leads.fixed
    rw [hshell]
    exact .refl _
  simpa [userLine] using reads_script hleads cmd

theorem plainWord_of_contained_userLine {text user cmd : String} {ws : List Text}
    (hws : (start.feedAll text.toList).feedAll " -u ".toList = boundary (ws.map Token.lit))
    (hdeclares : declares (ws.map Token.lit) = false) (h : Contained start (userLine text user cmd)) :
    plainWord user.toList = true := by
  simp only [userLine, fixed, raw, Contained, hws] at h
  exact (literal_word_iff hdeclares _).mp h.1

/-! The lines that are sent. -/

theorem reads_execWithSudo (password : String) :
    ∃ args, Reads (execWithSudo cmd password).line (("sudo".toList :: args).map Token.lit) ∧
      sudoRun "root".toList args = some ("root".toList, ["sh".toList, "-c".toList, cmd.toList]) := by
  unfold execWithSudo
  split
  · refine ⟨["-S".toList, "-p".toList, [], "sh".toList, "-c".toList, cmd.toList], ?_, rfl⟩
    exact @reads_script [fixed "sudo -S -p '' sh -c "]
      ["sudo".toList, "-S".toList, "-p".toList, [], "sh".toList, "-c".toList] ⟨trivial, by decide⟩ cmd
  · refine ⟨["sh".toList, "-c".toList, cmd.toList], ?_, rfl⟩
    exact @reads_script [fixed "sudo sh -c "] ["sudo".toList, "sh".toList, "-c".toList] ⟨trivial, by decide⟩ cmd

theorem reads_buildPtyCommand {c : SSHConnector} (hc : c.become = true) (huser : c.userArg = []) (cmd : String) :
    ∃ args, Reads (c.buildPtyCommand cmd).line (("sudo".toList :: args).map Token.lit) ∧
      sudoRun "root".toList args = some ("root".toList, ["sh".toList, "-c".toList, cmd.toList]) := by
  unfold SSHConnector.buildPtyCommand
  rw [if_neg (by simp [hc]), huser]
  split
  · refine ⟨["sh".toList, "-c".toList, cmd.toList], ?_, rfl⟩
    exact @reads_script [fixed "sudo", fixed " sh -c "] ["sudo".toList, "sh".toList, "-c".toList]
      ⟨trivial, by decide⟩ cmd
  · refine ⟨["-p".toList, [], "-S".toList, "sh".toList, "-c".toList, cmd.toList], ?_, rfl⟩
    exact @reads_script [fixed "sudo -p '' -S", fixed " sh -c "]
      ["sudo".toList, "-p".toList, [], "-S".toList, "sh".toList, "-c".toList] ⟨trivial, by decide⟩ cmd

theorem buildPtyCommand_user_iff {c : SSHConnector} (hc : c.become = true) (hne : c.becomeUser ≠ "")
    (hroot : c.becomeUser ≠ "root") (cmd : String) :
    (Contained start (c.buildPtyCommand cmd).line ∧
      script (render (c.buildPtyCommand cmd).line) = some (c.becomeUser.toList, cmd.toList)) ↔
    plainWord c.becomeUser.toList = true := by
  have hone {text : String} {args : List Text}
      (hws : (start.feedAll text.toList).feedAll " -u ".toList = boundary (("sudo".toList :: args).map Token.lit))
      (hdeclares : declares (("sudo".toList :: args).map Token.lit) = false)
      (hsudo : sudoRun "root".toList (args ++ [c.becomeUser.toList, "sh".toList, "-c".toList, cmd.toList])
        = some (c.becomeUser.toList, ["sh".toList, "-c".toList, cmd.toList])) :
      (Contained start (userLine text c.becomeUser cmd) ∧
        script (render (userLine text c.becomeUser cmd)) = some (c.becomeUser.toList, cmd.toList)) ↔
      plainWord c.becomeUser.toList = true := by
    constructor
    · intro h
      exact plainWord_of_contained_userLine hws hdeclares h.1
    · intro hplain
      have hreads := reads_userLine hws hdeclares hplain hne cmd
      exact ⟨hreads.1, script_of_read hreads.2 hsudo⟩
  have huser : c.userArg = [fixed " -u ", raw c.becomeUser] := by
    unfold SSHConnector.userArg
    rw [if_pos ⟨hne, hroot⟩]
  unfold SSHConnector.buildPtyCommand
  rw [if_neg (by simp [hc]), huser]
  split
  · exact @hone "sudo" ["-u".toList] (by decide) (by decide) rfl
  · exact @hone "sudo -p '' -S" ["-p".toList, [], "-S".toList, "-u".toList] (by decide)
      (by decide) rfl

theorem becomes_root_iff {c : SSHConnector} {cmd : String} {line : List Item} {args : List Text}
    (hreads : Reads line (("sudo".toList :: args).map Token.lit))
    (hsudo : sudoRun "root".toList args = some ("root".toList, ["sh".toList, "-c".toList, cmd.toList])) :
    (Contained start line ∧ script (render line) = some (c.target.toList, cmd.toList)) ↔
      c.becomeUser = "" ∨ c.becomeUser = "root" := by
  rw [and_iff_right hreads.1, script_of_read hreads.2 hsudo]
  unfold SSHConnector.target
  by_cases hempty : c.becomeUser = ""
  · simp [hempty]
  · simp only [hempty, if_false, Option.some.injEq, Prod.mk.injEq, and_true, false_or, String.toList_inj]
    exact eq_comm

/-- The command runs as the wanted user exactly if there is none, it is root, or the line is built for
a terminal and the name is plain. -/
theorem becomes_iff (c : SSHConnector) (cmd : String) :
    c.Becomes cmd ↔
      c.become = false ∨ c.becomeUser = "" ∨ c.becomeUser = "root" ∨
        (c.ptyEnabled = true ∧ c.live = true ∧ plainWord c.becomeUser.toList = true) := by
  unfold SSHConnector.Becomes SSHConnector.executeCommand
  cases hbecome : c.become with
  | false =>
    have hexec : render (exec cmd).line = cmd.toList := by simp [exec, fixed, Item.text]
    simp [SSHConnector.buildPtyCommand, hbecome, hexec]
  | true =>
    simp only [if_true, reduceCtorEq, false_or]
    by_cases hpty : c.ptyEnabled = true ∧ c.live = true
    · rw [if_pos (by simp [hpty])]
      by_cases hroot : c.becomeUser = "" ∨ c.becomeUser = "root"
      · have huser : c.userArg = [] := by
          unfold SSHConnector.userArg
          rw [if_neg (by tauto)]
        obtain ⟨args, hreads, hsudo⟩ := reads_buildPtyCommand hbecome huser cmd
        rw [becomes_root_iff hreads hsudo]
        tauto
      · rw [not_or] at hroot
        have htarget : c.target = c.becomeUser := by
          unfold SSHConnector.target
          rw [if_neg hroot.1]
        rw [htarget, buildPtyCommand_user_iff hbecome hroot.1 hroot.2]
        tauto
    · rw [if_neg (by simpa using hpty)]
      obtain ⟨args, hreads, hsudo⟩ := reads_execWithSudo cmd c.password
      rw [becomes_root_iff hreads hsudo]
      tauto

def postgres : SSHConnector := ⟨true, "postgres", "", false, false⟩

/-- Its command runs as root; with a terminal and a live writer it runs as `postgres`. -/
theorem postgres_runs_as_root :
    script (render (postgres.executeCommand "createdb app").line) = some ("root".toList, "createdb app".toList) ∧
      script (render (SSHConnector.executeCommand { postgres with ptyEnabled := true, live := true } "createdb app").line)
        = some ("postgres".toList, "createdb app".toList) ∧
      ¬postgres.Becomes "createdb app" := by
  refine ⟨by decide, by decide, ?_⟩
  intro h
  exact absurd h.2 (by decide)

end Vraxel.Ansible
