import CloudOps.EventBus.ConsumerGroup
import CloudOps.ReadCommitted.Table
import CloudOps.Runs

namespace CloudOps.EventBus

open CloudOps.ReadCommitted (Table)

-- `J` is the type of what JSON.parse returns. A field that the entry does not
-- carry is `undefined`.
structure DomainEventMessage (J : Type) where
  id : Option String
  tenantId : Option String
  eventType : Option String
  payload : J
  createdAt : Option String

-- The fields of a stream entry as an object: names and values alternate, a later
-- value replaces an earlier one, and a last name without a value is `undefined`.
def fieldMap : List String → List (String × Option String) → List (String × Option String)
  | name :: value :: rest, map => fieldMap rest ((name, some value) :: map)
  | [name], map => (name, none) :: map
  | [], map => map

-- parseFields: none where JSON.parse throws, as it does on `undefined`.
def parseFields {J : Type} (parse : String → Option J) (fields : List String) :
    Option (DomainEventMessage J) := do
  let map := fieldMap fields []
  let field := fun name => (map.lookup name).join
  let payload ← field "payload"
  let payload ← parse payload
  return {
    id := field "id"
    tenantId := field "tenantId"
    eventType := field "eventType"
    payload := payload
    createdAt := field "createdAt" }

-- The entry that publish appends.
def publishedFields (id tenantId eventType payload createdAt : String) : List String :=
  ["id", id, "tenantId", tenantId, "eventType", eventType, "payload", payload, "createdAt", createdAt]

theorem parseFields_publishedFields {J : Type} (parse : String → Option J)
    (id tenantId eventType payload createdAt : String) :
    parseFields parse (publishedFields id tenantId eventType payload createdAt) =
      (parse payload).map fun value =>
        ⟨some id, some tenantId, some eventType, value, some createdAt⟩ := by
  cases h : parse payload <;> simp [parseFields, publishedFields, fieldMap, List.lookup_cons, h]

def jsonObject (text : String) : Option Unit := if text = "{}" then some () else none

-- Where a process stands in its loop: about to poll, about to handle the next
-- message of its batch, or about to acknowledge the one it has handled.
inductive Loop where
  | polling
  | handling (messageId : Nat) (fields : List String) (rest : List (Nat × List String))
  | acknowledging (messageId : Nat) (rest : List (Nat × List String))

def Loop.next : List (Nat × List String) → Loop
  | [] => polling
  | (messageId, fields) :: rest => handling messageId fields rest

-- The messages the process has been given and is not done with.
def Loop.held : Loop → List Nat
  | polling => []
  | handling messageId _ rest => messageId :: rest.map Prod.fst
  | acknowledging messageId rest => messageId :: rest.map Prod.fst

-- The fields of the message about to be handled, and the message about to be
-- acknowledged.
def Loop.fields : Loop → Option (List String)
  | handling _ fields _ => some fields
  | polling | acknowledging .. => none

def Loop.handled : Loop → Option Nat
  | acknowledging messageId _ => some messageId
  | polling | handling .. => none

structure ConsumeOptions where
  consumerName : Option String

def consumerName (groupName : String) (options : ConsumeOptions) (pid : Nat) : String :=
  options.consumerName.getD s!"{groupName}-{pid}"

-- The group, the processes with a running loop by their process id, all process
-- ids used so far, and every delivery made.
structure Bus where
  group : ConsumerGroup (List String)
  loops : Table Nat Loop
  started : List Nat
  deliveries : List (Nat × String)

-- What can happen: an entry is appended, a process starts its loop, one of its
-- steps runs (with what the handler and Redis answer), or it dies.
-- A poll is an XREADGROUP that is answered. One that fails, after which the loop goes on, is left
-- out, and with it the entries that stay pending when only the answer is lost.
inductive BusEvent where
  | publish (fields : List String)
  | start (pid : Nat)
  | poll (pid : Nat)
  | handle (pid : Nat) (resolves : Bool)
  | acknowledge (pid : Nat) (replies : Bool)
  | crash (pid : Nat)

namespace Bus

def start (group : ConsumerGroup (List String)) : Bus := ⟨group, ∅, [], []⟩

def enter (bus : Bus) (pid : Nat) (loop : Loop) : Bus :=
  { bus with loops := bus.loops.insert pid loop }

def leave (bus : Bus) (pid : Nat) : Bus :=
  { bus with loops := bus.loops.erase pid }

variable {J : Type} (parse : String → Option J) (groupName : String) (options : ConsumeOptions)

def step (bus : Bus) : BusEvent → Bus
  | .publish fields => { bus with group := bus.group.xadd fields }
  | .start pid =>
      if pid ∈ bus.started then bus
      else { (bus.enter pid .polling) with started := pid :: bus.started }
  | .poll pid =>
      match bus.loops.lookup pid with
      | some .polling =>
          let consumer := consumerName groupName options pid
          let messages := bus.group.undelivered 10
          { (bus.enter pid (.next messages)) with
            group := bus.group.xreadgroup consumer 10
            deliveries := bus.deliveries ++ messages.map fun message => (message.1, consumer) }
      | _ => bus
  | .handle pid resolves =>
      match bus.loops.lookup pid with
      | some (.handling messageId fields rest) =>
          match parseFields parse fields with
          -- parseFields stands outside the try, so its exception ends the loop
          | none => bus.leave pid
          | some _ =>
              if resolves then bus.enter pid (.acknowledging messageId rest)
              else bus.enter pid (.next rest)
      | _ => bus
  | .acknowledge pid replies =>
      match bus.loops.lookup pid with
      | some (.acknowledging messageId rest) =>
          if replies then
            { (bus.enter pid (.next rest)) with group := bus.group.xack messageId }
          else bus.enter pid (.next rest)
      | _ => bus
  | .crash pid => bus.leave pid

end Bus

theorem Loop.held_next (messages : List (Nat × List String)) :
    (Loop.next messages).held = messages.map Prod.fst := by
  cases messages <;> rfl

end CloudOps.EventBus
