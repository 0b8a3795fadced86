import CloudOps.ReadCommitted.Table
import CloudOps.Runs

namespace CloudOps.ReadCommitted

inductive InsertResult (K : Type) where
  | inserted (id : K)
  | duplicateKey

-- The code of one transaction, statement by statement. Between two statements
-- other transactions may run. `write` is a statement on the row of one key: from
-- the version it finds it makes the new one, which RETURNING hands back, or none to
-- leave the row alone. It is an UPDATE where the absent row stays absent and an
-- upsert otherwise. `insert` takes a generated key; it is the one statement whose
-- unique violation a transaction may catch, any other one is an exception.
inductive Prog (K R ε α : Type) : Type where
  | ret (value : α)
  | throw (error : ε)
  | clock (next : Nat → Prog K R ε α)
  | select (matching : K → R → Bool) (next : List (K × R) → Prog K R ε α)
  | write (id : K) (change : Option R → Option R) (next : Option R → Prog K R ε α)
  | insert (row : R) (next : InsertResult K → Prog K R ε α)

namespace Prog

variable {K R ε α β : Type}

def bind : Prog K R ε α → (α → Prog K R ε β) → Prog K R ε β
  | ret value, after => after value
  | throw error, _ => throw error
  | clock next, after => clock fun now => (next now).bind after
  | select matching next, after => select matching fun rows => (next rows).bind after
  | write id change next, after => write id change fun result => (next result).bind after
  | insert row next, after => insert row fun result => (next result).bind after

instance : Monad (Prog K R ε) where
  pure := ret
  bind := bind

-- `Date.now()` in the process that runs the transaction.
def dateNow : Prog K R ε Nat := clock ret

def query (matching : K → R → Bool) : Prog K R ε (List (K × R)) := select matching ret

def update (id : K) (set : R → R) : Prog K R ε (Option R) :=
  write id (Option.map set) ret

def updateWhere (id : K) (condition : R → Bool) (set : R → R) : Prog K R ε (Option R) :=
  write id (fun row => (row.filter condition).map set) ret

def insertRow (row : R) : Prog K R ε (InsertResult K) := insert row ret

@[simp] theorem pure_eq (value : α) : (pure value : Prog K R ε α) = ret value := rfl

@[simp] theorem ret_bind (value : α) (after : α → Prog K R ε β) :
    ret value >>= after = after value := rfl

@[simp] theorem throw_bind (error : ε) (after : α → Prog K R ε β) :
    throw error >>= after = throw error := rfl

@[simp] theorem dateNow_bind (after : Nat → Prog K R ε β) : dateNow >>= after = clock after := rfl

@[simp] theorem query_bind (matching : K → R → Bool) (after : List (K × R) → Prog K R ε β) :
    query matching >>= after = select matching after := rfl

@[simp] theorem update_bind (id : K) (set : R → R) (after : Option R → Prog K R ε β) :
    update id set >>= after = write id (Option.map set) after := rfl

@[simp] theorem updateWhere_bind (id : K) (condition : R → Bool) (set : R → R)
    (after : Option R → Prog K R ε β) :
    updateWhere id condition set >>= after =
      write id (fun row => (row.filter condition).map set) after := rfl

@[simp] theorem insertRow_bind (row : R) (after : InsertResult K → Prog K R ε β) :
    insertRow row >>= after = insert row after := rfl

-- The result of a transaction that has run all its statements.
def value? : Prog K R ε α → Option α
  | ret value => some value
  | throw _ | clock _ | select .. | write .. | insert .. => none

theorem value?_eq_some {prog : Prog K R ε α} {value : α} :
    prog.value? = some value ↔ prog = ret value := by
  cases prog <;> simp [value?]

-- The same transaction with its result renamed.
def map (rename : α → β) (prog : Prog K R ε α) : Prog K R ε β := prog.bind fun value => ret (rename value)

theorem map_id (prog : Prog K R ε α) : prog.map id = prog := by
  unfold map
  induction prog with
  | ret value | throw error => rfl
  | clock _ ih => exact congrArg clock (funext fun now => ih now)
  | select matching _ ih => exact congrArg (select _) (funext fun rows => ih rows)
  | write id change _ ih => exact congrArg (write id _) (funext fun result => ih result)
  | insert row _ ih => exact congrArg (insert _) (funext fun result => ih result)

theorem map_bind {γ : Type} (rename : β → γ) (prog : Prog K R ε α) (next : α → Prog K R ε β) :
    (prog >>= next).map rename = prog >>= fun value => (next value).map rename := by
  change (prog.bind next).map rename = prog.bind _
  induction prog with
  | ret value | throw error => rfl
  | clock _ ih => exact congrArg clock (funext fun now => ih now)
  | select matching _ ih => exact congrArg (select _) (funext fun rows => ih rows)
  | write id change _ ih => exact congrArg (write id _) (funext fun result => ih result)
  | insert row _ ih => exact congrArg (insert _) (funext fun result => ih result)

end Prog

-- A unique index: `conflict` says which two rows may not stand together.
def uniqueClash {K R : Type} [DecidableEq K] (conflict : R → R → Bool) (id : K) (row : R)
    (table : Table K R) : Bool :=
  table.rows.any fun other => decide (other.1 ≠ id) && conflict row other.2

-- What a transaction that runs with no other one beside it meets: the order of its
-- scans and its generated keys, which are new.
structure Solo (K R : Type) [DecidableEq K] where
  order : ScanOrder (K × R)
  newId : Table K R → K
  fresh : ∀ table, newId table ∉ table

-- Rows as they are stored, and each key one above all others.
def Solo.counting (R : Type) : Solo Nat R where
  order := .stored _
  newId table := table.keys.foldr max 0 + 1
  fresh table := by
    have hle : ∀ (keys : List Nat) (id : Nat), id ∈ keys → id ≤ keys.foldr max 0 := by
      intro keys
      induction keys with
      | nil => simp
      | cons key rest ih =>
          intro id hid
          rcases List.mem_cons.mp hid with rfl | hid
          · exact Nat.le_max_left _ _
          · exact Nat.le_trans (ih id hid) (Nat.le_max_right _ _)
    intro hmem
    exact absurd (hle _ _ (AList.mem_keys.mp hmem)) (by omega)

-- A statement that fails uncaught ends the transaction. After a caught failure
-- every further statement fails, and a COMMIT keeps no write.
inductive Outcome (K R ε α : Type) where
  | returned (value : α) (writes : Table K R)
  | threw (error : ε)
  | failed

namespace Prog

variable {K R ε α : Type}

def afterFailure (now : Nat) : Prog K R ε α → Outcome K R ε α
  | ret value => .returned value ∅
  | throw error => .threw error
  | clock next => (next now).afterFailure now
  | select .. | write .. | insert .. => .failed

variable [DecidableEq K] (conflict : R → R → Bool) (solo : Solo K R) (now : Nat)

def alone : Prog K R ε α → Table K R → Table K R → Outcome K R ε α
  | ret value, writes, _ => .returned value writes
  | throw error, _, _ => .threw error
  | clock next, writes, committed => (next now).alone writes committed
  | select matching next, writes, committed =>
      (next (solo.order.apply ((writes ∪ committed).rows.filter fun row => matching row.1 row.2))).alone
        writes committed
  | write id change next, writes, committed =>
      match change ((writes ∪ committed).lookup id) with
      | none => (next none).alone writes committed
      | some row =>
          if uniqueClash conflict id row (writes ∪ committed) then .failed
          else (next (some row)).alone (writes.insert id row) committed
  | insert row next, writes, committed =>
      let id := solo.newId (writes ∪ committed)
      if uniqueClash conflict id row (writes ∪ committed) then
        (next .duplicateKey).afterFailure now
      else (next (.inserted id)).alone (writes.insert id row) committed

end Prog

end CloudOps.ReadCommitted

namespace CloudOps.ReadCommitted

-- A service: the transaction each call runs, given the time it starts at (what
-- now() returns in it), and the unique index of the table.
structure Service (K R ε α C : Type) where
  body : C → Nat → Prog K R ε α
  conflict : R → R → Bool

-- A transaction in flight. `begunOn` records the committed table at its start;
-- the code never reads it.
structure Txn (K R ε α C : Type) where
  call : C
  begunOn : Table K R
  startedAt : Nat
  writes : Table K R
  aborted : Bool
  prog : Prog K R ε α

-- What a call handed back to its caller once its transaction had committed.
structure Returned (K R α C : Type) where
  call : C
  begunOn : Table K R
  startedAt : Nat
  value : α
  returnedAt : Nat

structure World (K R α C : Type) where
  committed : Table K R
  clock : Nat
  returned : List (Returned K R α C)

structure Db (K R ε α C : Type) where
  world : World K R α C
  active : Table Nat (Txn K R ε α C)

inductive Event (K R C : Type) where
  | begin (tid : Nat) (call : C)
  | exec (tid : Nat) (order : ScanOrder (K × R)) (newId : K)
  | commit (tid : Nat)
  | rollback (tid : Nat)
  | tick (elapsed : Nat)

variable {K R ε α C : Type} [DecidableEq K]

def World.start (committed : Table K R) (clock : Nat) : World K R α C := ⟨committed, clock, []⟩

def World.tick (world : World K R α C) (elapsed : Nat) : World K R α C :=
  { world with clock := world.clock + elapsed }

def World.publish (world : World K R α C) (call : C) (begunOn : Table K R) (startedAt : Nat)
    (writes : Table K R) (value : α) : World K R α C where
  committed := writes ∪ world.committed
  clock := world.clock
  returned := world.returned ++ [⟨call, begunOn, startedAt, value, world.clock⟩]

namespace Db

def start (world : World K R α C) : Db K R ε α C := ⟨world, ∅⟩

def resume (db : Db K R ε α C) (tid : Nat) (txn : Txn K R ε α C) : Db K R ε α C :=
  { db with active := db.active.insert tid txn }

def discard (db : Db K R ε α C) (tid : Nat) : Db K R ε α C :=
  { db with active := db.active.erase tid }

-- A row stays locked from the statement that writes it to the end of its
-- transaction, and a key of the unique index to the end of the transaction that
-- is giving it up or taking it.
def waits (conflict : R → R → Bool) (db : Db K R ε α C) (tid : Nat) (id : K) (row : R) : Bool :=
  db.active.rows.any fun other => decide (other.1 ≠ tid) &&
    (decide (id ∈ other.2.writes) || other.2.writes.rows.any fun pending =>
      conflict row pending.2 || (db.world.committed.lookup pending.1).any (conflict row))

-- One new row version: it waits for the locks it needs, or clashes with the unique
-- index, or is written.
def place (conflict : R → R → Bool) (db : Db K R ε α C) (tid : Nat) (txn : Txn K R ε α C)
    (id : K) (row : R) (onWritten : Prog K R ε α) (onClash : Db K R ε α C) : Db K R ε α C :=
  if db.waits conflict tid id row then db
  else if uniqueClash conflict id row (txn.writes ∪ db.world.committed) then onClash
  else db.resume tid { txn with writes := txn.writes.insert id row, prog := onWritten }

-- A caught failure leaves the transaction aborted: the locks go at once, and a
-- later COMMIT ends it without publishing anything.
def abort (db : Db K R ε α C) (tid : Nat) (txn : Txn K R ε α C) (prog : Prog K R ε α) : Db K R ε α C :=
  db.resume tid { txn with writes := ∅, aborted := true, prog := prog }

def execute (svc : Service K R ε α C) (db : Db K R ε α C) (tid : Nat)
    (order : ScanOrder (K × R)) (newId : K) (txn : Txn K R ε α C) : Db K R ε α C :=
  match txn.prog with
  | .ret _ | .throw _ => db
  | .clock next => db.resume tid { txn with prog := next db.world.clock }
  | .select matching next =>
      if txn.aborted then db.discard tid
      else db.resume tid { txn with prog := next (order.apply
        ((txn.writes ∪ db.world.committed).rows.filter fun row => matching row.1 row.2)) }
  | .write id change next =>
      if txn.aborted then db.discard tid
      else match change ((txn.writes ∪ db.world.committed).lookup id) with
        | none => db.resume tid { txn with prog := next none }
        | some row => db.place svc.conflict tid txn id row (next (some row)) (db.discard tid)
  | .insert row next =>
      if txn.aborted then db.discard tid
      else if newId ∈ txn.writes ∪ db.world.committed then db
      else db.place svc.conflict tid txn newId row (next (.inserted newId))
        (db.abort tid txn (next .duplicateKey))

def step (svc : Service K R ε α C) (db : Db K R ε α C) : Event K R C → Db K R ε α C
  | .begin tid call =>
      if tid ∈ db.active then db
      else db.resume tid
        { call := call
          begunOn := db.world.committed
          startedAt := db.world.clock
          writes := ∅
          aborted := false
          prog := svc.body call db.world.clock }
  | .exec tid order newId =>
      match db.active.lookup tid with
      | none => db
      | some txn => db.execute svc tid order newId txn
  | .commit tid =>
      match db.active.lookup tid with
      | none => db
      | some txn =>
          match txn.prog with
          | .ret value => { (db.discard tid) with
              world := db.world.publish txn.call txn.begunOn txn.startedAt txn.writes value }
          | _ => db
  | .rollback tid => db.discard tid
  | .tick elapsed => { db with world := db.world.tick elapsed }

end Db

end CloudOps.ReadCommitted
