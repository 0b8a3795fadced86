import CloudOps.ReadCommitted.Table
import CloudOps.Runs

namespace CloudOps.Pool

open CloudOps.ReadCommitted (Table)

-- Code that takes a resource from a pool, performs operations on it, each of which is
-- answered or throws, and gives it back.
inductive Prog (ο α ε β : Type) : Type where
  | done (result : Except ε β)
  | acquire (next : Except ε Unit → Prog ο α ε β)
  | perform (operation : ο) (next : Except ε α → Prog ο α ε β)
  | release (next : Prog ο α ε β)

namespace Prog

variable {ο α ε β γ : Type}

-- What comes next, however the code before it ends.
def andThen : Prog ο α ε β → (Except ε β → Prog ο α ε γ) → Prog ο α ε γ
  | done result, after => after result
  | acquire next, after => acquire fun result => (next result).andThen after
  | perform operation next, after => perform operation fun result => (next result).andThen after
  | release next, after => release (next.andThen after)

instance : Monad (Prog ο α ε) where
  pure value := done (.ok value)
  bind prog after := prog.andThen fun
    | .ok value => after value
    | .error error => done (.error error)

instance : MonadExceptOf ε (Prog ο α ε) where
  throw error := done (.error error)
  tryCatch prog handle := prog.andThen fun
    | .ok value => done (.ok value)
    | .error error => handle error

instance : MonadFinally (Prog ο α ε) where
  tryFinally' prog finalizer := prog.andThen fun
    | .ok value => (finalizer (some value)).andThen fun
        | .ok other => done (.ok (value, other))
        | .error error => done (.error error)
    | .error error => (finalizer none).andThen fun
        | .ok _ => done (.error error)
        | .error error => done (.error error)

end Prog

-- A kind of resource: what an operation makes of one, where the world decides how it goes
-- and whether the resource is lost, what can be observed of it, and the exception of an
-- operation on a resource that is lost or was given back.
structure Kind (σ ο χ α ε ω : Type) where
  fresh : σ
  perform : σ → ο → χ → Option σ × Except ε α
  observe : σ → ο → Option ω
  unavailable : ε

inductive Held (σ : Type) where
  | nothing
  | lost
  | holding (resource : σ)

variable {σ ο χ α ε ω β C : Type}

def Held.afterwards : Option σ → Held σ
  | none => lost
  | some resource => holding resource

def Held.returned : Held σ → List σ
  | nothing | lost => []
  | holding resource => [resource]

variable (kind : Kind σ ο χ α ε ω)

def Held.perform (operation : ο) (outcome : χ) : Held σ → Held σ × Except ε α
  | holding resource =>
      (.afterwards (kind.perform resource operation outcome).1, (kind.perform resource operation outcome).2)
  | lost => (lost, .error kind.unavailable)
  | nothing => (nothing, .error kind.unavailable)

def Held.observe (operation : ο) : Held σ → Option ω
  | holding resource => kind.observe resource operation
  | lost | nothing => none

-- The resources no one holds, the calls and what each holds, and what has been observed.
structure State (σ ο α ε ω β : Type) where
  idle : List σ
  calls : Table Nat (Prog ο α ε β × Held σ)
  log : List ω

def State.empty : State σ ο α ε ω β := ⟨[], ∅, []⟩

-- How a turn goes: which resource is taken, or that none can be, or how an operation goes.
inductive Choice (χ ε : Type) where
  | idle (position : Nat)
  | fresh
  | refused (error : ε)
  | outcome (outcome : χ)

-- A call begins or takes its next turn, or a resource that no one holds is discarded.
inductive Event (C χ ε : Type) where
  | start (id : Nat) (call : C)
  | turn (id : Nat) (choice : Choice χ ε)
  | discard (position : Nat)

def State.put (state : State σ ο α ε ω β) (id : Nat) (prog : Prog ο α ε β)
    (held : Held σ) : State σ ο α ε ω β :=
  { state with calls := state.calls.insert id (prog, held) }

def State.turn (state : State σ ο α ε ω β) (id : Nat) (held : Held σ) :
    Prog ο α ε β → Choice χ ε → State σ ο α ε ω β
  | .acquire next, .idle position =>
      match state.idle[position]? with
      | none => state
      | some resource =>
          { state with idle := state.idle.eraseIdx position }.put id (next (.ok ())) (.holding resource)
  | .acquire next, .fresh => state.put id (next (.ok ())) (.holding kind.fresh)
  | .acquire next, .refused error => state.put id (next (.error error)) .nothing
  | .perform operation next, .outcome outcome =>
      { state with log := state.log ++ (held.observe kind operation).toList }.put id
        (next (held.perform kind operation outcome).2) (held.perform kind operation outcome).1
  | .release next, _ => { state with idle := state.idle ++ held.returned }.put id next .nothing
  | .done _, _ | .acquire _, .outcome _ | .perform .., .idle _ | .perform .., .fresh | .perform .., .refused _ => state

variable (body : C → Prog ο α ε β)

def State.step (state : State σ ο α ε ω β) : Event C χ ε → State σ ο α ε ω β
  | .start id call => if id ∈ state.calls then state else state.put id (body call) .nothing
  | .turn id choice =>
      match state.calls.lookup id with
      | none => state
      | some (prog, held) => state.turn kind id held prog choice
  | .discard position => { state with idle := state.idle.eraseIdx position }

end CloudOps.Pool
