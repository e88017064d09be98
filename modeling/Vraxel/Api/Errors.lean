import Vraxel.Go.Strconv
/-
  Errors of the store layer and the status an API answer gives them.

  A Go error is a chain of wrapped errors; what the server asks of one is whether the chain holds a
  status error, a database error or a sentinel, and its text. `Err` keeps exactly that.
-/

namespace Vraxel.Api

inductive PgCode where
  | stringTooLong       -- 22001
  | restrictViolation   -- 23001
  | foreignKeyViolation -- 23503
  | uniqueViolation     -- 23505
  | checkViolation      -- 23514
  deriving DecidableEq

def PgCode.sqlState : PgCode → String
  | .stringTooLong => "22001"
  | .restrictViolation => "23001"
  | .foreignKeyViolation => "23503"
  | .uniqueViolation => "23505"
  | .checkViolation => "23514"

structure PgError where
  code : PgCode
  message : String
  detail : String
  constraintName : String
  deriving DecidableEq

def PgError.error (e : PgError) : String :=
  "ERROR: " ++ e.message ++ " (SQLSTATE " ++ e.code.sqlState ++ ")"

inductive Sentinel where
  | notFound
  | conflict
  | badRequest
  | forbidden
  deriving DecidableEq

def Sentinel.error : Sentinel → String
  | .notFound => "not found"
  | .conflict => "conflict"
  | .badRequest => "bad request"
  | .forbidden => "forbidden"

structure FieldError where
  field : String
  message : String
  deriving DecidableEq

structure StatusError where
  status : Nat
  reason : String
  message : String
  details : List FieldError
  deriving DecidableEq

variable (message resource : String)

def newBadRequest (details : List FieldError) : StatusError :=
  ⟨400, "BadRequest", message, details⟩

def newInvalidJSONBody (details : List FieldError) : StatusError :=
  ⟨400, "InvalidJSONBody", message, details⟩

def newNotFound (name : String) : StatusError :=
  ⟨404, "NotFound", resource ++ " " ++ name ++ " not found", []⟩

def newConflict (name : String) : StatusError :=
  ⟨409, "Conflict", resource ++ " " ++ name ++ " already exists", []⟩

def newConflictMessage : StatusError := ⟨409, "Conflict", message, []⟩

def newForbidden : StatusError := ⟨403, "Forbidden", message, []⟩

structure Err where
  text : String
  sentinel : Option Sentinel
  pg : Option PgError
  status : Option StatusError
  deriving DecidableEq

namespace Err

def ofStatus (e : StatusError) : Err := ⟨e.reason ++ ": " ++ e.message, none, none, some e⟩

def tagged (text : String) (s : Sentinel) : Err := ⟨text ++ ": " ++ s.error, some s, none, none⟩

def plain (text : String) : Err := ⟨text, none, none, none⟩

def ofPg (e : PgError) : Err := ⟨e.error, none, some e, none⟩

def wrap (text : String) (e : Err) : Err := { e with text := text ++ ": " ++ e.text }

end Err

def badRequest : Err := .ofStatus (newBadRequest message [])

def checkPG (e : Err) : Err :=
  match e.pg with
  | none => e
  | some p => match p.code with
    | .stringTooLong | .checkViolation =>
      { e with text := Sentinel.badRequest.error ++ ": " ++ e.text, sentinel := some .badRequest }
    | .restrictViolation | .foreignKeyViolation | .uniqueViolation =>
      { e with text := Sentinel.conflict.error ++ ": " ++ e.text, sentinel := some .conflict }

def sentinelStatus (text : String) : Sentinel → StatusError
  | .notFound => ⟨404, "NotFound", text, []⟩
  | .conflict => newConflictMessage text
  | .badRequest => newBadRequest text []
  | .forbidden => newForbidden text

def fromDomain (e : Err) (resource : String) : Option StatusError :=
  let bySentinel := e.sentinel.map (sentinelStatus e.text)
  match e.pg with
  | none => bySentinel
  | some p => match p.code with
    | .stringTooLong => some (newBadRequest ("value too long for " ++ resource) [])
    | .restrictViolation | .foreignKeyViolation =>
      if p.detail ≠ "" then
        some (newConflictMessage ("cannot delete " ++ resource ++ ": "
          ++ String.ofList (p.detail.toList.filter (· ≠ '"'))))
      else
        some (newConflictMessage ("cannot delete " ++ resource
          ++ ": still referenced by other resources"))
    | .uniqueViolation => some (newConflict resource p.constraintName)
    | .checkViolation => bySentinel

/-- `mapDomain`, and `domainErr` of the API modules: the status error a domain
error stands for, or the error itself. -/
def mapDomain (e : Err) (label : String) : Err :=
  match fromDomain e label with
  | some se => .ofStatus se
  | none => e

def Err.httpStatus (e : Err) : Nat :=
  match e.status with
  | some se => se.status
  | none => 500

def Err.isNotFound (e : Err) : Bool := e.httpStatus == 404

end Vraxel.Api
