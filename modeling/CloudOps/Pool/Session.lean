import CloudOps.Pool.Program
import Mathlib.Logic.Function.Basic

namespace CloudOps.Pool

-- The values of a database session's custom settings, by name.
abbrev Settings (ν : Type) := ν → Option String

-- RESET and SET are set_config too, and END ends a transaction as COMMIT does.
inductive Statement (ν : Type) where
  | plain (text : String)
  | setConfig (name : ν) (value : String) (isLocal : Bool)
  | startTransaction
  | commit
  | rollback
  | savepoint (name : String)
  | rollbackTo (name : String)
  | releaseSavepoint (name : String)
  deriving DecidableEq

-- What of a transaction block its savepoints go back to: the settings in effect, and
-- those its COMMIT will leave.
structure Point (ν : Type) where
  inEffect : Settings ν
  atCommit : Settings ν

structure TransactionBlock (ν : Type) where
  point : Point ν
  savepoints : List (String × Point ν)
  aborted : Bool

structure Session (ν : Type) where
  settings : Settings ν
  block : Option (TransactionBlock ν)

inductive Reply (ρ ε : Type) where
  | answered (rows : ρ)
  | failed (error : ε)
  | lost (error : ε)

variable {ν ρ ε : Type}

-- Values are taken back. A setting that was not there before stays, with an empty value.
def Settings.revert (before settings : Settings ν) : Settings ν := fun name =>
  (before name).or ((settings name).map fun _ => "")

def Session.new : Session ν := ⟨fun _ => none, none⟩

def Session.inEffect (session : Session ν) : Settings ν :=
  match session.block with
  | none => session.settings
  | some block => block.point.inEffect

def TransactionBlock.begin (settings : Settings ν) : TransactionBlock ν := ⟨⟨settings, settings⟩, [], false⟩

-- The session after the block's end, with these settings kept.
def TransactionBlock.ended (block : TransactionBlock ν) (kept : Settings ν) : Session ν :=
  ⟨kept.revert block.point.inEffect, none⟩

variable [DecidableEq ν]

def Point.set (point : Point ν) (name : ν) (value : String) (isLocal : Bool) : Point ν where
  inEffect := Function.update point.inEffect name (some value)
  atCommit := if isLocal then point.atCommit else Function.update point.atCommit name (some value)

-- The savepoints from the named one down.
def TransactionBlock.downTo (block : TransactionBlock ν) (name : String) : List (String × Point ν) :=
  block.savepoints.dropWhile fun savepoint => savepoint.1 != name

-- What the server does on a statement that it answers: outside a block, where a local
-- value lasts for the statement only,
def Session.alone (settings : Settings ν) : Statement ν → Session ν
  | .setConfig name value isLocal =>
      ⟨if isLocal then settings.revert (Function.update settings name (some value))
        else Function.update settings name (some value), none⟩
  | .startTransaction => ⟨settings, some (.begin settings)⟩
  | .plain _ | .commit | .rollback | .savepoint _ | .rollbackTo _ | .releaseSavepoint _ => ⟨settings, none⟩

-- and inside one.
def Session.within (settings : Settings ν) (block : TransactionBlock ν) : Statement ν → Session ν
  | .plain _ | .startTransaction => ⟨settings, some block⟩
  | .setConfig name value isLocal => ⟨settings, some { block with point := block.point.set name value isLocal }⟩
  | .commit => block.ended (if block.aborted then settings else block.point.atCommit)
  | .rollback => block.ended settings
  | .savepoint name => ⟨settings, some { block with savepoints := (name, block.point) :: block.savepoints }⟩
  | .rollbackTo name =>
      match block.downTo name with
      | [] => ⟨settings, some block⟩
      | savepoint :: rest =>
          let back := ⟨savepoint.2.inEffect.revert block.point.inEffect, savepoint.2.atCommit⟩
          ⟨settings, some ⟨back, savepoint :: rest, false⟩⟩
  | .releaseSavepoint name => ⟨settings, some { block with savepoints := (block.downTo name).tail }⟩

def Session.answered (session : Session ν) (statement : Statement ν) : Session ν :=
  match session.block with
  | none => .alone session.settings statement
  | some block => .within session.settings block statement

-- A statement that fails takes the values back to those at the last savepoint, or at the
-- block's beginning.
def TransactionBlock.abort (block : TransactionBlock ν) (settings : Settings ν) : TransactionBlock ν :=
  let back := match block.savepoints with
    | [] => settings
    | savepoint :: _ => savepoint.2.inEffect
  { block with point := { block.point with inEffect := back.revert block.point.inEffect }, aborted := true }

-- A COMMIT that fails has rolled back, and a ROLLBACK cannot fail but with its connection.
def Session.failed (session : Session ν) (statement : Statement ν) : Session ν :=
  match session.block, statement with
  | none, _ => session
  | some block, .commit | some block, .rollback => block.ended session.settings
  | some block, _ => { session with block := some (block.abort session.settings) }

-- In a block that has failed only its end, whole or to a savepoint it has, is executed.
def Session.rejects (session : Session ν) : Statement ν → Bool
  | .commit | .rollback => false
  | .rollbackTo name => session.block.any fun block => block.aborted && (block.downTo name).isEmpty
  | .plain _ | .setConfig .. | .startTransaction | .savepoint _ | .releaseSavepoint _ =>
      session.block.any TransactionBlock.aborted

def Session.perform (inFailedBlock : ε) (session : Session ν) (statement : Statement ν) :
    Reply ρ ε → Option (Session ν) × Except ε ρ
  | .lost error => (none, .error error)
  | .answered rows =>
      if session.rejects statement then (some session, .error inFailedBlock)
      else (some (session.answered statement), .ok rows)
  | .failed error =>
      if session.rejects statement then (some session, .error inFailedBlock)
      else (some (session.failed statement), .error error)

end CloudOps.Pool
