import CloudOps.ReadCommitted.Table
import CloudOps.Runs

namespace CloudOps.Redis

open CloudOps.ReadCommitted (Table)

-- A key's value, and the time it expires at once it has been given one. Times are in
-- milliseconds.
structure Entry where
  value : Nat
  expiresAt : Option Nat
  deriving DecidableEq

abbrev Store := Table String Entry

-- An expired key is gone for every command.
def Entry.live (now : Nat) (entry : Entry) : Bool := entry.expiresAt.all fun time => decide (now < time)

def Store.get? (store : Store) (now : Nat) (key : String) : Option Entry :=
  (store.lookup key).filter (Entry.live now)

-- A key with a time to live answers until that time.
theorem Store.map_value_get? {store : Store} {key : String} {value time : Nat}
    (h : store.lookup key = some ⟨value, some time⟩) (now : Nat) :
    (store.get? now key).map Entry.value = if now < time then some value else none := by
  rw [Store.get?, h, Option.filter_some]
  by_cases hlive : now < time
  · simp [Entry.live, hlive]
  · simp [Entry.live, hlive]

inductive Command where
  | incr (key : String)
  | expire (key : String) (seconds : Nat)
  | ttl (key : String)
  | del (key : String)
  | get (key : String)
  | setEx (key : String) (value seconds : Nat)

namespace Command

def key : Command → String
  | incr key | expire key _ | ttl key | del key | get key | setEx key _ _ => key

abbrev Reply : Command → Type
  | incr _ => Nat
  | expire _ _ | del _ => Bool
  | ttl _ => Int
  | get _ => Option Nat
  | setEx _ _ _ => Unit

-- What the server does in one step. INCR keeps the time a live key expires at, and
-- TTL answers -1 for a key without one and -2 for no key.
def apply (now : Nat) (store : Store) : (command : Command) → command.Reply × Store
  | incr key =>
      match store.get? now key with
      | none => (1, store.insert key ⟨1, none⟩)
      | some entry => (entry.value + 1, store.insert key { entry with value := entry.value + 1 })
  | expire key seconds =>
      match store.get? now key with
      | none => (false, store)
      | some entry => (true, store.insert key { entry with expiresAt := some (now + seconds * 1000) })
  | ttl key =>
      match store.get? now key with
      | none => (-2, store)
      | some entry => (entry.expiresAt.elim (-1) fun time => ((time - now + 500) / 1000 : Nat), store)
  | del key => ((store.get? now key).isSome, store.erase key)
  | get key => ((store.get? now key).map Entry.value, store)
  | setEx key value seconds => ((), store.insert key ⟨value, some (now + seconds * 1000)⟩)

-- Commands one after the other, each at its time.
def applyAll (store : Store) (commands : List (Nat × Command)) : Store :=
  commands.foldl (fun store timed => (timed.2.apply timed.1 store).2) store

theorem lookup_apply_of_ne {command : Command} {key : String} (h : command.key ≠ key) (now : Nat)
    (store : Store) : (command.apply now store).2.lookup key = store.lookup key := by
  have hne : key ≠ command.key := Ne.symm h
  cases command with
  | incr other | expire other seconds =>
      simp only [apply]
      split
      all_goals first
        | rfl
        | exact AList.lookup_insert_ne hne
  | ttl other =>
      simp only [apply]
      split
      all_goals rfl
  | del other => exact AList.lookup_erase_ne hne
  | get other => rfl
  | setEx other value seconds => exact AList.lookup_insert_ne hne

theorem lookup_applyAll_of_ne {key : String} {commands : List (Nat × Command)}
    (h : ∀ timed ∈ commands, timed.2.key ≠ key) (store : Store) :
    (applyAll store commands).lookup key = store.lookup key := by
  induction commands generalizing store with
  | nil => rfl
  | cons timed rest ih =>
      obtain ⟨hfirst, hrest⟩ := List.forall_mem_cons.mp h
      exact (ih hrest _).trans (lookup_apply_of_ne hfirst timed.1 store)

end Command

-- Why a request fails: the client has no answer from the server, or the service
-- throws.
inductive Failure (ε : Type) where
  | redis (message : String)
  | service (error : ε)

-- A request, command by command. Between two commands other requests may run.
inductive Prog (ε α : Type) : Type where
  | ret (value : α)
  | throw (error : Failure ε)
  | clock (next : Nat → Prog ε α)
  | call (command : Command) (next : Except String command.Reply → Prog ε α)

namespace Prog

variable {ε α β : Type}

def bind : Prog ε α → (α → Prog ε β) → Prog ε β
  | ret value, after => after value
  | throw error, _ => throw error
  | clock next, after => clock fun now => (next now).bind after
  | call command next, after => call command fun reply => (next reply).bind after

def tryCatch : Prog ε α → (Failure ε → Prog ε α) → Prog ε α
  | ret value, _ => ret value
  | throw error, handle => handle error
  | clock next, handle => clock fun now => (next now).tryCatch handle
  | call command next, handle => call command fun reply => (next reply).tryCatch handle

instance : Monad (Prog ε) where
  pure := ret
  bind := bind

-- A command whose failure nothing catches.
def run (command : Command) : Prog ε command.Reply :=
  call command fun
    | .ok reply => ret reply
    | .error message => throw (.redis message)

def incr (key : String) : Prog ε Nat := run (.incr key)

def expire (key : String) (seconds : Nat) : Prog ε Bool := run (.expire key seconds)

def ttl (key : String) : Prog ε Int := run (.ttl key)

def del (key : String) : Prog ε Bool := run (.del key)

def get (key : String) : Prog ε (Option Nat) := run (.get key)

def setEx (key : String) (value seconds : Nat) : Prog ε Unit := run (.setEx key value seconds)

-- `Date.now()` in the process of the request.
def dateNow : Prog ε Nat := clock ret

-- A fixed window: the first count sets the time the key expires at.
def countInWindow (key : String) (window : Nat) : Prog ε Nat := do
  let count ← incr key
  if count = 1 then
    let _ ← expire key window
  return count

@[simp] theorem pure_eq (value : α) : (pure value : Prog ε α) = ret value := rfl

@[simp] theorem ret_bind (value : α) (after : α → Prog ε β) : ret value >>= after = after value := rfl

@[simp] theorem throw_bind (error : Failure ε) (after : α → Prog ε β) :
    throw error >>= after = throw error := rfl

@[simp] theorem call_bind (command : Command) (next : Except String command.Reply → Prog ε α)
    (after : α → Prog ε β) : call command next >>= after = call command fun reply => next reply >>= after :=
  rfl

@[simp] theorem dateNow_bind (after : Nat → Prog ε β) : dateNow >>= after = clock after := rfl

-- The request by itself at one time, with no failure.
def alone (now : Nat) : Prog ε α → Store → Except (Failure ε) α × Store
  | ret value, store => (.ok value, store)
  | throw error, store => (.error error, store)
  | clock next, store => (next now).alone now store
  | call command next, store =>
      (next (.ok (command.apply now store).1)).alone now (command.apply now store).2

-- One part of a request after another.
theorem alone_bind (prog : Prog ε α) (after : α → Prog ε β) (now : Nat) (store : Store) :
    (prog >>= after).alone now store =
      match (prog.alone now store).1 with
      | .ok value => (after value).alone now (prog.alone now store).2
      | .error error => (.error error, (prog.alone now store).2) := by
  induction prog generalizing store with
  | ret value | throw error => rfl
  | clock next ih => exact ih now store
  | call command next ih => exact ih _ _

end Prog

-- What may become of one command: the server has run it and answered, it has not
-- run it, or it has run it and the answer is lost.
inductive Delivery where
  | answered
  | refused (message : String)
  | lost (message : String)

-- The requests in flight over one server. One that has finished is no longer there.
structure Db (ε α : Type) where
  store : Store
  now : Nat
  requests : Table Nat (Prog ε α)

-- A crash ends a request wherever it is: its process has died.
inductive Event (C : Type) where
  | start (id : Nat) (call : C)
  | exec (id : Nat) (delivery : Delivery)
  | crash (id : Nat)
  | tick (elapsed : Nat)

namespace Db

variable {ε α C : Type}

def start (now : Nat) : Db ε α := ⟨∅, now, ∅⟩

def settle (db : Db ε α) (id : Nat) (store : Store) : Prog ε α → Db ε α
  | .ret _ | .throw _ => { db with store := store, requests := db.requests.erase id }
  | prog => { db with store := store, requests := db.requests.insert id prog }

def execute (db : Db ε α) (id : Nat) (delivery : Delivery) : Prog ε α → Db ε α
  | .ret _ | .throw _ => db
  | .clock next => db.settle id db.store (next db.now)
  | .call command next =>
      let done := command.apply db.now db.store
      match delivery with
      | .answered => db.settle id done.2 (next (.ok done.1))
      | .refused message => db.settle id db.store (next (.error message))
      | .lost message => db.settle id done.2 (next (.error message))

def step (body : C → Prog ε α) (db : Db ε α) : Event C → Db ε α
  | .start id call => if id ∈ db.requests then db else db.settle id db.store (body call)
  | .exec id delivery =>
      match db.requests.lookup id with
      | none => db
      | some prog => db.execute id delivery prog
  | .crash id => { db with requests := db.requests.erase id }
  | .tick elapsed => { db with now := db.now + elapsed }

-- No request is in flight.
def quiet (db : Db ε α) : Bool := db.requests.keys.isEmpty

end Db

end CloudOps.Redis
