import StatSchema.Error
import StatSchema.Text.Split

/-!
# `StatSchema.Server.Basic` — a database server as a run sees it

The library renders statements and watches whether the server accepts them; what they do inside the
database is not its concern. So a server is known by which statements it refuses, by how it answers a
request for a transaction, and by the one table that the library itself reads back: the versions of the
migrations that have been applied. That table takes part in transactions.

## Contents
- **Faults.** `Fault`, `firstHit` with its three cases: which statements are refused.
- **Transactions.** `Admission`, `Server`, `Server.depth`, `begin`, `commit`, `rollback`.
-/

namespace StatSchema

/-! ## Faults -/

/-- A rule by which the server refuses statements. -/
structure Fault where
  /-- The rule concerns the statements that contain this text. -/
  pattern : String
  /-- So many of them are let through first. -/
  skip : Nat
  /-- So many are refused then; without a number, all. -/
  times : Option Nat
  error : DbError

namespace Fault

/-- Whether the rule concerns a statement. -/
def concerns (f : Fault) (sql : List Char) : Bool :=
  f.times ≠ some 0 && Text.contains f.pattern.toList sql

end Fault

/-- The error of the first rule that refuses the statement, with all rules as they stand afterwards. -/
def firstHit (sql : List Char) : List Fault → Option DbError × List Fault
  | [] => (none, [])
  | f :: faults =>
    if !f.concerns sql then
      let (hit, faults) := firstHit sql faults
      (hit, f :: faults)
    else if f.skip = 0 then (some f.error, { f with times := f.times.map (· - 1) } :: faults)
    else
      let (hit, faults) := firstHit sql faults
      (hit, { f with skip := f.skip - 1 } :: faults)

section FirstHit

variable {sql : List Char} {f : Fault} {faults : List Fault}

theorem firstHit_of_unconcerned (h : f.concerns sql = false) :
    firstHit sql (f :: faults) = ((firstHit sql faults).1, f :: (firstHit sql faults).2) := by
  simp [firstHit, h]

theorem firstHit_of_skipped (h : f.concerns sql = true) (hskip : f.skip ≠ 0) :
    firstHit sql (f :: faults) =
      ((firstHit sql faults).1, { f with skip := f.skip - 1 } :: (firstHit sql faults).2) := by
  simp [firstHit, h, hskip]

theorem firstHit_of_refused (h : f.concerns sql = true) (hskip : f.skip = 0) :
    firstHit sql (f :: faults) =
      (some f.error, { f with times := f.times.map (· - 1) } :: faults) := by
  simp [firstHit, h, hskip]

end FirstHit

/-! ## Transactions -/

/-- How the server answers a request for a transaction. -/
inductive Admission where
  /-- It begins one. -/
  | granted
  /-- It begins one and lets the caller wait for so many milliseconds. -/
  | delayed (millis : Nat)
  /-- It begins none. -/
  | refused (error : DbError)
  /-- It never answers. -/
  | unanswered

/-- The state of a server. -/
structure Server where
  /-- The versions of the applied migrations. -/
  applied : List String := []
  /-- The versions as they were when each open transaction began, the innermost first. -/
  saved : List (List String) := []
  faults : List Fault := []
  /-- The answers to the next requests for a transaction; later ones are granted. -/
  admissions : List Admission := []

namespace Server

/-- The number of open transactions, each within the one before. -/
def depth (s : Server) : Nat :=
  s.saved.length

/-- Opens a transaction. -/
def begin (s : Server) : Server :=
  { s with saved := s.applied :: s.saved }

/-- Closes the innermost transaction and keeps what it did. -/
def commit (s : Server) : Server :=
  { s with saved := s.saved.tail }

/-- Closes the innermost transaction and undoes what it did. -/
def rollback (s : Server) : Server :=
  { s with applied := s.saved.head?.getD s.applied, saved := s.saved.tail }

/-- Whether the server refuses a statement, and its state afterwards. -/
def check (s : Server) (sql : String) : Except DbError Unit × Server :=
  let (hit, faults) := firstHit sql.toList s.faults
  (match hit with
   | some error => .error error
   | none => .ok (),
   { s with faults })

/-- The answer to a request for a transaction, and the server that will answer the next one. -/
def nextAdmission (s : Server) : Admission × Server :=
  match s.admissions with
  | [] => (.granted, s)
  | admission :: admissions => (admission, { s with admissions })

end Server

end StatSchema
