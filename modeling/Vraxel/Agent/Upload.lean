import Vraxel.Agent.Stream
/-
  Uploads (`fileWrite` of `lib/agent/datachan/file.go`).

  The messages are those that `ReadMessage` returns until it fails. Every file operation can fail:
  a write after some of its bytes, the others without an effect. Permissions are left out.
-/

namespace Vraxel.Agent

abbrev Files := String → Option (List UInt8)

def Files.set (fs : Files) (path : String) (content : Option (List UInt8)) : Files :=
  fun p => if p = path then content else fs p

def msgData : UInt8 := 1

def msgEOF : UInt8 := 5

/-- The name `CreateTemp` draws, the error of each operation, and how many bytes a failing write
has written. -/
structure UploadFaults where
  tmpName : String
  create : Option String
  read : String
  write : Nat → Option (Nat × String)
  sync : Option String
  chmod : Option String
  close : Option String
  rename : Option String
  remove : Option String

namespace UploadFaults

variable (env : UploadFaults) (size : Int)

/-- The loop: what is written to the temporary file, and the error that ends it. -/
def receive : Nat → List Message → List UInt8 → List UInt8 × Option String
  | _, [], content => (content, some ("read upload: " ++ env.read))
  | k, m :: ms, content =>
    if m.typ = msgEOF then (content, none)
    else if m.typ ≠ msgData then receive k ms content
    else match env.write k with
      | some (n, err) => (content ++ m.payload.take n, some err)
      | none =>
        if 0 < size ∧ size < (content ++ m.payload).length then
          (content ++ m.payload, some ("upload exceeds declared size " ++ Strconv.formatInt size))
        else receive (k + 1) ms (content ++ m.payload)

def cleanup (fs : Files) : Files := if env.remove.isSome then fs else fs.set env.tmpName none

def fileWrite (path : String) (ms : List Message) (fs : Files) : (Nat × Option String) × Files :=
  match env.create with
  | some err => ((0, some err), fs)
  | none =>
    -- an existing file is never opened
    if (fs env.tmpName).isSome then ((0, some "file exists"), fs)
    else
      let (content, err) := env.receive size 0 ms []
      let written := content.length
      let tmp := fs.set env.tmpName (some content)
      let mismatch := if 0 < size ∧ (written : Int) ≠ size then
        some ("upload is " ++ Strconv.formatInt written ++ " bytes, declared " ++ Strconv.formatInt size) else none
      match err.or (mismatch.or (env.sync.or (env.chmod.or (env.close.or env.rename)))) with
      | some err => ((written, some err), env.cleanup tmp)
      | none => ((written, none), env.cleanup ((tmp.set env.tmpName none).set path (some content)))

end UploadFaults

def uploaded (ms : List Message) : List UInt8 :=
  ((ms.takeWhile (·.typ ≠ msgEOF)).filter (·.typ = msgData)).flatMap Message.payload

theorem receive_spec (env : UploadFaults) (size : Int) {k : Nat} {ms : List Message} {content content' : List UInt8}
    (h : env.receive size k ms content = (content', none)) :
    (∃ m ∈ ms, m.typ = msgEOF) ∧ content' = content ++ uploaded ms := by
  induction ms generalizing k content with
  | nil => simp [UploadFaults.receive] at h
  | cons m ms ih =>
    unfold UploadFaults.receive at h
    split at h
    · next heof =>
      simp at h
      simp [uploaded, heof, h]
    · next hne =>
      split at h
      · next hdata =>
        obtain ⟨heof, rfl⟩ := ih h
        exact ⟨by simp [heof], by simp [uploaded, hne, hdata]⟩
      · next hdata =>
        simp only [ne_eq, not_not] at hdata
        split at h
        · simp at h
        · split at h
          · simp at h
          · obtain ⟨heof, rfl⟩ := ih h
            have hother : msgData ≠ msgEOF := by decide
            exact ⟨by simp [heof], by simp [uploaded, hdata, hother]⟩

theorem set_restored {fs : Files} {path : String} (h : fs path = none) (content : Option (List UInt8)) :
    (fs.set path content).set path none = fs := by
  funext p
  by_cases hp : p = path <;> simp [Files.set, hp, h]

/-- An error and the file as it was, or no error and the file as it was declared and sent; and no
other file has changed. -/
def Atomic (env : UploadFaults) (size : Int) (path : String) (ms : List Message) (fs : Files) : Prop :=
  let r := env.fileWrite size path ms fs
  ((r.1.2.isSome ∧ r.2 path = fs path) ∨
    (r.1.2 = none ∧ (∃ m ∈ ms, m.typ = msgEOF) ∧ ((uploaded ms).length : Int) = size ∧ r.2 path = some (uploaded ms))) ∧
    ∀ p, p ≠ path → r.2 p = fs p

def drawn : UploadFaults := ⟨".agent-upload-1", none, "EOF", fun _ => none, none, none, none, none, none⟩

end Vraxel.Agent
