import CloudOps.Ticketing.TicketStore
import CloudOps.Transaction

namespace CloudOps.Ticketing.TicketLinks

open CloudOps.ReadCommitted CloudOps.Transaction

-- An id as a path spells it. ParseUUIDPipe takes any spelling of a uuid; only the
-- database's own is equal to the text of an id that was read.
structure PathId where
  id : Uuid
  canonical : Bool

-- ticket_link_type_enum
inductive LinkType where
  | related
  | parentOf
  deriving DecidableEq

-- LINK_TYPES
inductive RequestedType where
  | related
  | parentOf
  | childOf
  deriving DecidableEq

structure CreateTicketLinkDto where
  toTicketNumber : Nat
  linkType : RequestedType

-- An edge from a ticket to another.
structure Edge where
  fromTicketId : Uuid
  toTicketId : Uuid
  linkType : LinkType
  deriving DecidableEq

-- A row of ticket_links.
structure TicketLink extends Edge where
  createdAt : Nat

inductive Relation where
  | related
  | parent
  | child
  deriving DecidableEq

structure LinkedTicket where
  linkId : Uuid
  relation : Relation
  ticketId : Uuid
  ticketNumber : Nat
  subject : String
  status : TicketStatus

-- The tables, and the id gen_random_uuid gives next, which it has not given before.
structure LinkStore where
  tickets : Table Uuid Ticket
  ticketLinks : Table Uuid TicketLink
  nextId : Uuid

abbrev LinkM := StateT LinkStore (Except ServiceError)

-- SELECT id FROM tickets WHERE ticket_number = $1
def ticketNumbered (store : LinkStore) (ticketNumber : Nat) : Option Uuid :=
  (store.tickets.rows.find? fun row => row.2.ticketNumber = ticketNumber).map Prod.fst

-- A row that the unique index would find for the edge.
def conflicting (store : LinkStore) (edge : Edge) : Bool :=
  store.ticketLinks.rows.any fun row => row.2.toEdge = edge

def LinkStore.withEdge (store : LinkStore) (edge : Edge) (now : Nat) : LinkStore :=
  { store with
    ticketLinks := store.ticketLinks.insert store.nextId ⟨edge, now⟩
    nextId := store.nextId + 1 }

-- INSERT .. ON CONFLICT (from_ticket_id, to_ticket_id, link_type) DO NOTHING RETURNING *
-- The store is one tenant's. A foreign key is checked past row security, so the database takes the
-- id of another tenant's ticket too.
def insertLink (edge : Edge) (now : Nat) : LinkM (Option TicketLink) := do
  let store ← get
  if conflicting store edge then return none
  else if edge.fromTicketId ∉ store.tickets ∨ edge.toTicketId ∉ store.tickets then
    throw (.error "insert or update on table \"ticket_links\" violates foreign key constraint")
  else
    set (store.withEdge edge now)
    return some ⟨edge, now⟩

-- One canonical row shape: 'child_of' is a parent_of edge the other way.
def normalized (ticketId other : Uuid) : RequestedType → Edge
  | .related => ⟨ticketId, other, .related⟩
  | .parentOf => ⟨ticketId, other, .parentOf⟩
  | .childOf => ⟨other, ticketId, .parentOf⟩

-- TicketLinksService.create
def create (ticketId : PathId) (dto : CreateTicketLinkDto) (now : Nat) : LinkM TicketLink := do
  let store ← get
  match ticketNumbered store dto.toTicketNumber with
  | none => throw (.notFound s!"Ticket #{dto.toTicketNumber} not found")
  | some other =>
      if ticketId.canonical && other = ticketId.id then
        throw (.badRequest "A ticket cannot be linked to itself")
      else
        match ← insertLink (normalized ticketId.id other dto.linkType) now with
        | none => throw (.badRequest "That link already exists")
        | some row => return row

def Edge.touches (edge : Edge) (id : Uuid) : Bool := edge.fromTicketId = id || edge.toTicketId = id

-- CASE WHEN l.from_ticket_id = $1 THEN l.to_ticket_id ELSE l.from_ticket_id END
def Edge.otherEnd (edge : Edge) (id : Uuid) : Uuid :=
  if edge.fromTicketId = id then edge.toTicketId else edge.fromTicketId

-- What the link is to the ticket whose view it is in.
def relationOf (ticketId : PathId) (edge : Edge) : Relation :=
  match edge.linkType with
  | .related => .related
  | .parentOf => if ticketId.canonical && edge.fromTicketId = ticketId.id then .child else .parent

-- JOIN tickets: a link whose other ticket is not there has no row.
def linkedTicket (store : LinkStore) (ticketId : PathId) (row : Uuid × TicketLink) : Option LinkedTicket :=
  (store.tickets.lookup (row.2.otherEnd ticketId.id)).map fun ticket =>
    { linkId := row.1
      relation := relationOf ticketId row.2.toEdge
      ticketId := row.2.otherEnd ticketId.id
      ticketNumber := ticket.ticketNumber
      subject := ticket.subject
      status := ticket.status }

-- TicketLinksService.list
def list (store : LinkStore) (ticketId : PathId) : List LinkedTicket :=
  let rows := (store.ticketLinks.rows.filter fun row => row.2.touches ticketId.id).insertionSort
    fun first second => first.2.createdAt ≤ second.2.createdAt
  rows.filterMap (linkedTicket store ticketId)

-- TicketLinksService.remove
def remove (linkId : Uuid) : LinkM Unit := do
  let store ← get
  if linkId ∈ store.ticketLinks then
    set { store with ticketLinks := store.ticketLinks.erase linkId }
  else throw (.notFound s!"Ticket link {linkId} not found")

inductive LinkCall where
  | create (ticketId : PathId) (dto : CreateTicketLinkDto) (now : Nat)
  | remove (linkId : Uuid)
  | list (ticketId : PathId)

def linkStep (store : LinkStore) : LinkCall → LinkStore
  | .create ticketId dto now => commit (create ticketId dto now) store
  | .remove linkId => commit (remove linkId) store
  | .list _ => store

-- The edge is stored.
def LinkStore.Stored (store : LinkStore) (edge : Edge) : Prop :=
  ∃ id link, store.ticketLinks.lookup id = some link ∧ link.toEdge = edge

section Create

variable {store : LinkStore} {ticketId : PathId} {dto : CreateTicketLinkDto} {other : Uuid} {now : Nat}

theorem conflicting_iff (edge : Edge) : conflicting store edge = true ↔ store.Stored edge := by
  simp only [conflicting, List.any_eq_true, decide_eq_true_eq, LinkStore.Stored]
  constructor
  · rintro ⟨⟨id, link⟩, hmem, hedge⟩
    exact ⟨id, link, Table.mem_rows.mp hmem, hedge⟩
  · rintro ⟨id, link, hlookup, hedge⟩
    exact ⟨(id, link), Table.mem_rows.mpr hlookup, hedge⟩

theorem ticketNumbered_mem {ticketNumber : Nat} (h : ticketNumbered store ticketNumber = some other) :
    other ∈ store.tickets := by
  obtain ⟨⟨id, ticket⟩, hfound, rfl⟩ := Option.map_eq_some_iff.mp h
  exact Table.mem_of_lookup (Table.mem_rows.mp (List.mem_of_find?_eq_some hfound))

-- What a call needs to insert a row.
structure Accepted (store : LinkStore) (ticketId : PathId) (dto : CreateTicketLinkDto) (other : Uuid) : Prop where
  found : ticketNumbered store dto.toTicketNumber = some other
  notItself : (ticketId.canonical && decide (other = ticketId.id)) = false
  known : ticketId.id ∈ store.tickets
  fresh : ¬ store.Stored (normalized ticketId.id other dto.linkType)

theorem ends_known (h : Accepted store ticketId dto other) :
    ¬((normalized ticketId.id other dto.linkType).fromTicketId ∉ store.tickets ∨
      (normalized ticketId.id other dto.linkType).toTicketId ∉ store.tickets) := by
  have hother := ticketNumbered_mem h.found
  have hknown := h.known
  cases dto.linkType <;> simp [normalized, hother, hknown]

theorem create_accepted (h : Accepted store ticketId dto other) :
    commit (create ticketId dto now) store = store.withEdge (normalized ticketId.id other dto.linkType) now := by
  have hfresh : conflicting store (normalized ticketId.id other dto.linkType) = false := by
    rw [← Bool.not_eq_true, conflicting_iff]
    exact h.fresh
  have hinsert : (insertLink (normalized ticketId.id other dto.linkType) now).run store =
      .ok (some ⟨normalized ticketId.id other dto.linkType, now⟩,
        store.withEdge (normalized ticketId.id other dto.linkType) now) := by
    refine (run_bind_ok rfl).trans ?_
    rw [if_neg (by rw [hfresh]; exact Bool.false_ne_true), if_neg (ends_known h)]
    rfl
  have hrun : (create ticketId dto now).run store =
      .ok (⟨normalized ticketId.id other dto.linkType, now⟩,
        store.withEdge (normalized ticketId.id other dto.linkType) now) := by
    refine (run_bind_ok rfl).trans ?_
    rw [h.found]
    dsimp only
    rw [if_neg (by rw [h.notItself]; exact Bool.false_ne_true)]
    exact (run_bind_ok hinsert).trans rfl
  rw [commit, hrun]

-- A call that commits has inserted its row.
theorem create_ensures (ticketId : PathId) (dto : CreateTicketLinkDto) (now : Nat) (store : LinkStore) :
    Ensures (create ticketId dto now) store fun _ after => ∃ other, Accepted store ticketId dto other ∧
      after = store.withEdge (normalized ticketId.id other dto.linkType) now := by
  refine .get_bind ?_
  split
  · exact .throw _
  · rename_i other hfound
    split
    · exact .throw _
    · rename_i hitself
      have hinsert : Ensures (insertLink (normalized ticketId.id other dto.linkType) now) store
          fun row after => row.isSome = true → ∃ other, Accepted store ticketId dto other ∧
            after = store.withEdge (normalized ticketId.id other dto.linkType) now := by
        refine .get_bind ?_
        split
        · exact .pure fun h => absurd h Bool.false_ne_true
        · rename_i hfresh
          split
          · exact .throw _
          · rename_i hends
            have haccepted : Accepted store ticketId dto other := {
              found := hfound
              notItself := Bool.not_eq_true _ ▸ hitself
              known := by
                by_contra hknown
                apply hends
                cases dto.linkType <;> simp [normalized, hknown]
              fresh := fun hstored => hfresh ((conflicting_iff _).mpr hstored) }
            intro row after hrun
            obtain ⟨rfl, rfl⟩ := Prod.mk.inj (Except.ok.inj hrun)
            exact fun _ => ⟨other, haccepted, rfl⟩
      refine hinsert.bind ?_
      intro row after hafter
      cases row with
      | none => exact .throw _
      | some row => exact .pure (hafter rfl)

end Create

end CloudOps.Ticketing.TicketLinks
