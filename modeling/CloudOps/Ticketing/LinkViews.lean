import CloudOps.Runs
import CloudOps.Ticketing.MergePointers
import CloudOps.Ticketing.TicketLinks

namespace CloudOps.Ticketing.TicketLinks

open CloudOps.ReadCommitted CloudOps.Runs CloudOps.Transaction

-- A ticket's own id, as the database writes it.
def own (id : Uuid) : PathId := ⟨id, true⟩

def Edge.reversed (edge : Edge) : Edge := ⟨edge.toTicketId, edge.fromTicketId, edge.linkType⟩

-- A related link is the same from either end.
def SameRelationship (edge other : Edge) : Prop :=
  edge = other ∨ edge.linkType = .related ∧ other = edge.reversed

theorem SameRelationship.symm {edge other : Edge} (h : SameRelationship edge other) :
    SameRelationship other edge := by
  rcases h with rfl | ⟨hrelated, rfl⟩
  · exact .inl rfl
  · exact .inr ⟨hrelated, rfl⟩

def OneRow (store : LinkStore) : Prop :=
  ∀ id other link otherLink, store.ticketLinks.lookup id = some link →
    store.ticketLinks.lookup other = some otherLink → SameRelationship link.toEdge otherLink.toEdge → id = other

-- The view of a ticket has another one in a relation.
def Lists (store : LinkStore) (ticketId : PathId) (relation : Relation) (other : Uuid) : Prop :=
  ∃ item ∈ list store ticketId, item.relation = relation ∧ item.ticketId = other

-- A view and that of another ticket tell the same, each link once.
structure Dual (store : LinkStore) (ticketId : PathId) (other : Uuid) : Prop where
  child : Lists store ticketId .child other ↔ Lists store (own other) .parent ticketId.id
  parent : Lists store ticketId .parent other ↔ Lists store (own other) .child ticketId.id
  related : Lists store ticketId .related other ↔ Lists store (own other) .related ticketId.id
  once : ∀ relation, ((list store ticketId).filter fun item =>
    item.relation = relation && item.ticketId = other).length ≤ 1

structure Canonical (store : LinkStore) : Prop where
  oneRow : OneRow store
  dual : ∀ id other, Dual store (own id) other

-- The call of a view shows each link as it is.
def SpelledRight (store : LinkStore) (ticketId : PathId) : Prop :=
  ticketId.canonical = true ∨ ∀ child, ¬ store.Stored ⟨ticketId.id, child, .parentOf⟩

-- The foreign keys of ticket_links.
def EndsKnown (store : LinkStore) : Prop :=
  ∀ edge, store.Stored edge → edge.fromTicketId ∈ store.tickets ∧ edge.toTicketId ∈ store.tickets

-- What the calls keep.
structure LinksInv (store : LinkStore) : Prop where
  known : EndsKnown store
  below : ∀ id ∈ store.ticketLinks, id < store.nextId
  oneRow : OneRow store
  noneOwn : ∀ id, ¬ store.Stored ⟨id, id, .parentOf⟩

section Views

variable {store : LinkStore} {ticketId : PathId} {edge : Edge} {id other : Uuid} {relation : Relation}

theorem mem_list {item : LinkedTicket} :
    item ∈ list store ticketId ↔ ∃ linkId link, store.ticketLinks.lookup linkId = some link ∧
      link.touches ticketId.id = true ∧ linkedTicket store ticketId (linkId, link) = some item := by
  simp only [list, List.mem_filterMap, (List.perm_insertionSort _ _).mem_iff, List.mem_filter, Prod.exists,
    Table.mem_rows, and_assoc]

theorem of_linkedTicket {linkId : Uuid} {link : TicketLink} {item : LinkedTicket}
    (h : linkedTicket store ticketId (linkId, link) = some item) :
    item.linkId = linkId ∧ item.relation = relationOf ticketId link.toEdge ∧
      item.ticketId = link.otherEnd ticketId.id := by
  obtain ⟨ticket, -, rfl⟩ := Option.map_eq_some_iff.mp h
  exact ⟨rfl, rfl, rfl⟩

theorem touches_iff : edge.touches id = true ∧ edge.otherEnd id = other ↔
    edge.fromTicketId = id ∧ edge.toTicketId = other ∨
      edge.fromTicketId ≠ id ∧ edge.toTicketId = id ∧ edge.fromTicketId = other := by
  unfold Edge.touches Edge.otherEnd
  by_cases hfrom : edge.fromTicketId = id
  · simp [hfrom]
  · simp [hfrom]

theorem relationOf_eq_child_iff {first last : Uuid} :
    relationOf ticketId ⟨first, last, .parentOf⟩ = .child ↔ ticketId.canonical = true ∧ first = ticketId.id := by
  simp [relationOf]

theorem relationOf_eq_parent_iff {first last : Uuid} :
    relationOf ticketId ⟨first, last, .parentOf⟩ = .parent ↔
      ¬(ticketId.canonical = true ∧ first = ticketId.id) := by
  simp [relationOf]

theorem otherEnd_known (h : EndsKnown store) (hstored : store.Stored edge) :
    edge.otherEnd id ∈ store.tickets := by
  unfold Edge.otherEnd
  split_ifs
  · exact (h edge hstored).2
  · exact (h edge hstored).1

-- A view has the other end of each link of the ticket.
theorem lists_iff (h : EndsKnown store) : Lists store ticketId relation other ↔
    ∃ edge, store.Stored edge ∧ relationOf ticketId edge = relation ∧
      edge.touches ticketId.id = true ∧ edge.otherEnd ticketId.id = other := by
  constructor
  · rintro ⟨item, hitem, rfl, rfl⟩
    obtain ⟨linkId, link, hlookup, htouches, hlinked⟩ := mem_list.mp hitem
    obtain ⟨-, hrelation, hother⟩ := of_linkedTicket hlinked
    exact ⟨link.toEdge, ⟨linkId, link, hlookup, rfl⟩, hrelation.symm, htouches, hother.symm⟩
  · rintro ⟨_, ⟨linkId, link, hlookup, rfl⟩, hrelation, htouches, hother⟩
    have hknown : link.otherEnd ticketId.id ∈ store.tickets := otherEnd_known h ⟨linkId, link, hlookup, rfl⟩
    have hsome : (linkedTicket store ticketId (linkId, link)).isSome = true := by
      rw [linkedTicket, Option.isSome_map]
      exact AList.lookup_isSome.mpr hknown
    obtain ⟨item, hitem⟩ := Option.isSome_iff_exists.mp hsome
    obtain ⟨-, hitemRelation, hitemOther⟩ := of_linkedTicket hitem
    exact ⟨item, mem_list.mpr ⟨linkId, link, hlookup, htouches, hitem⟩, hitemRelation.trans hrelation,
      hitemOther.trans hother⟩

theorem lists_related_iff (h : EndsKnown store) : Lists store ticketId .related other ↔
    store.Stored ⟨ticketId.id, other, .related⟩ ∨ store.Stored ⟨other, ticketId.id, .related⟩ := by
  rw [lists_iff h]
  constructor
  · rintro ⟨⟨first, last, linkType⟩, hstored, hrelation, hends⟩
    cases linkType with
    | parentOf =>
        unfold relationOf at hrelation
        dsimp only at hrelation
        split_ifs at hrelation
    | related =>
        rcases touches_iff.mp hends with ⟨rfl, rfl⟩ | ⟨-, rfl, rfl⟩
        · exact .inl hstored
        · exact .inr hstored
  · rintro (hstored | hstored)
    · exact ⟨_, hstored, rfl, touches_iff.mpr (.inl ⟨rfl, rfl⟩)⟩
    · refine ⟨_, hstored, rfl, touches_iff.mpr ?_⟩
      by_cases hsame : other = ticketId.id
      · exact .inl ⟨hsame, hsame.symm⟩
      · exact .inr ⟨hsame, rfl, rfl⟩

-- What a view shows as a parent or a child is the other end of a parent_of edge.
theorem lists_parentOf_iff (h : EndsKnown store) (hrelation : relation ≠ .related) :
    Lists store ticketId relation other ↔ ∃ first last, store.Stored ⟨first, last, .parentOf⟩ ∧
      relationOf ticketId ⟨first, last, .parentOf⟩ = relation ∧
      (first = ticketId.id ∧ last = other ∨ first ≠ ticketId.id ∧ last = ticketId.id ∧ first = other) := by
  rw [lists_iff h]
  constructor
  · rintro ⟨⟨first, last, linkType⟩, hstored, hshown, hends⟩
    cases linkType with
    | related => exact absurd hshown.symm hrelation
    | parentOf => exact ⟨first, last, hstored, hshown, touches_iff.mp hends⟩
  · rintro ⟨first, last, hstored, hshown, hends⟩
    exact ⟨_, hstored, hshown, touches_iff.mpr hends⟩

-- The views of a ticket under its own id.
theorem lists_child_iff (h : EndsKnown store) :
    Lists store (own id) .child other ↔ store.Stored ⟨id, other, .parentOf⟩ := by
  rw [lists_parentOf_iff h (by decide)]
  constructor
  · rintro ⟨first, last, hstored, hshown, ⟨rfl, rfl⟩ | ⟨hfrom, -, -⟩⟩
    · exact hstored
    · exact absurd (relationOf_eq_child_iff.mp hshown).2 hfrom
  · intro hstored
    exact ⟨id, other, hstored, relationOf_eq_child_iff.mpr ⟨rfl, rfl⟩, .inl ⟨rfl, rfl⟩⟩

-- Under another spelling the comparison with from_ticket_id fails, and all are parents.
theorem not_lists_child (h : EndsKnown store) (hspelling : ticketId.canonical = false) :
    ¬ Lists store ticketId .child other := by
  rw [lists_parentOf_iff h (by decide)]
  rintro ⟨first, last, -, hshown, -⟩
  have hcanonical := (relationOf_eq_child_iff.mp hshown).1
  rw [hspelling] at hcanonical
  cases hcanonical

-- The view shows a ticket's parents as such, and nothing else, if it spells the id as the
-- database does or the ticket has no child.
theorem lists_parent_iff (h : LinksInv store) (hspelled : SpelledRight store ticketId) :
    Lists store ticketId .parent other ↔ store.Stored ⟨other, ticketId.id, .parentOf⟩ := by
  rw [lists_parentOf_iff h.known (by decide)]
  constructor
  · rintro ⟨first, last, hstored, hshown, ⟨rfl, rfl⟩ | ⟨-, rfl, rfl⟩⟩
    · rcases hspelled with hcanonical | hnone
      · exact absurd ⟨hcanonical, rfl⟩ (relationOf_eq_parent_iff.mp hshown)
      · exact absurd hstored (hnone _)
    · exact hstored
  · intro hstored
    have hne : other ≠ ticketId.id := fun hsame => h.noneOwn other (by rw [hsame] at hstored ⊢; exact hstored)
    exact ⟨other, ticketId.id, hstored, relationOf_eq_parent_iff.mpr fun hown => hne hown.2, .inr ⟨hne, rfl, rfl⟩⟩

-- Two links of a ticket that its view shows alike are one relationship.
theorem sameRelationship_of_view (hspelled : SpelledRight store ticketId) {first second : Edge}
    (hfirst : store.Stored first) (hsecond : store.Stored second)
    (hrelation : relationOf ticketId first = relationOf ticketId second)
    (hfirstEnds : first.touches ticketId.id = true ∧ first.otherEnd ticketId.id = other)
    (hsecondEnds : second.touches ticketId.id = true ∧ second.otherEnd ticketId.id = other) :
    SameRelationship first second := by
  have hends := touches_iff.mp hfirstEnds
  have hends' := touches_iff.mp hsecondEnds
  obtain ⟨from₁, to₁, type₁⟩ := first
  obtain ⟨from₂, to₂, type₂⟩ := second
  dsimp only at hends hends'
  cases type₁ with
  | related =>
      cases type₂ with
      | parentOf =>
          simp only [relationOf] at hrelation
          split_ifs at hrelation
      | related =>
          rcases hends with ⟨rfl, rfl⟩ | ⟨-, rfl, rfl⟩
          · rcases hends' with ⟨rfl, rfl⟩ | ⟨-, rfl, rfl⟩
            · exact .inl rfl
            · exact .inr ⟨rfl, rfl⟩
          · rcases hends' with ⟨rfl, rfl⟩ | ⟨-, rfl, rfl⟩
            · exact .inr ⟨rfl, rfl⟩
            · exact .inl rfl
  | parentOf =>
      cases type₂ with
      | related =>
          simp only [relationOf] at hrelation
          split_ifs at hrelation
      | parentOf =>
          -- both are from the ticket or both are to it
          have hsame : from₁ = ticketId.id ↔ from₂ = ticketId.id := by
            rcases hspelled with hcanonical | hnone
            · have hchild : ∀ first last,
                  relationOf ticketId ⟨first, last, .parentOf⟩ = .child ↔ first = ticketId.id := by
                intro first last
                rw [relationOf_eq_child_iff, and_iff_right hcanonical]
              rw [← hchild from₁ to₁, hrelation, hchild]
            · refine iff_of_false ?_ ?_
              · rintro rfl
                exact hnone _ hfirst
              · rintro rfl
                exact hnone _ hsecond
          rcases hends with ⟨hfrom, hto⟩ | ⟨hfrom, hto, hother⟩
          · rcases hends' with ⟨hfrom', hto'⟩ | ⟨hfrom', -, -⟩
            · exact .inl (by rw [hfrom, hto, hfrom', hto'])
            · exact absurd (hsame.mp hfrom) hfrom'
          · rcases hends' with ⟨hfrom', -⟩ | ⟨-, hto', hother'⟩
            · exact absurd (hsame.mpr hfrom') hfrom
            · exact .inl (by rw [hto, hother, hto', hother'])

theorem list_distinct (store : LinkStore) (ticketId : PathId) :
    (list store ticketId).Pairwise fun first second => first.linkId ≠ second.linkId := by
  have hrows : (store.ticketLinks.rows.filter fun row => row.2.touches ticketId.id).Pairwise
      fun first second => first.1 ≠ second.1 :=
    (List.pairwise_map.mp (Table.nodup_rows_ids store.ticketLinks)).filter _
  have hsorted := hrows.perm (List.perm_insertionSort (fun first second : Uuid × TicketLink =>
    first.2.createdAt ≤ second.2.createdAt) _).symm fun hne => Ne.symm hne
  refine hsorted.filterMap (linkedTicket store ticketId) ?_
  rintro ⟨linkId, link⟩ ⟨linkId', link'⟩ hne item hitem item' hitem'
  rw [(of_linkedTicket hitem).1, (of_linkedTicket hitem').1]
  exact hne

theorem filter_view_le_one (h : LinksInv store) (hspelled : SpelledRight store ticketId) (relation : Relation)
    (other : Uuid) :
    ((list store ticketId).filter fun item => item.relation = relation && item.ticketId = other).length ≤ 1 := by
  have hdistinct := (list_distinct store ticketId).filter fun item =>
    item.relation = relation && item.ticketId = other
  match hfilter : (list store ticketId).filter fun item => item.relation = relation && item.ticketId = other with
  | [] => rw [hfilter]; exact Nat.zero_le 1
  | [_] => rw [hfilter]; exact Nat.le_refl 1
  | first :: second :: rest =>
      rw [hfilter] at hdistinct
      have hlisted : ∀ item ∈ first :: second :: rest, ∃ link, store.ticketLinks.lookup item.linkId = some link ∧
          relationOf ticketId link.toEdge = relation ∧
          link.touches ticketId.id = true ∧ link.otherEnd ticketId.id = other := by
        intro item hitem
        rw [← hfilter] at hitem
        obtain ⟨hmem, hshown⟩ := List.mem_filter.mp hitem
        obtain ⟨hrelation, hother⟩ := Bool.and_eq_true_iff.mp hshown
        obtain ⟨linkId, link, hlookup, htouches, hlinked⟩ := mem_list.mp hmem
        obtain ⟨hid, hitemRelation, hitemOther⟩ := of_linkedTicket hlinked
        rw [hid]
        exact ⟨link, hlookup, hitemRelation.symm.trans (of_decide_eq_true hrelation), htouches,
          hitemOther.symm.trans (of_decide_eq_true hother)⟩
      obtain ⟨link, hlookup, hrelation, hends⟩ := hlisted first List.mem_cons_self
      obtain ⟨link', hlookup', hrelation', hends'⟩ :=
        hlisted second (List.mem_cons_of_mem _ List.mem_cons_self)
      have hsame := sameRelationship_of_view hspelled ⟨_, link, hlookup, rfl⟩ ⟨_, link', hlookup', rfl⟩
        (hrelation.trans hrelation'.symm) hends hends'
      exact absurd (h.oneRow _ _ _ _ hlookup hlookup' hsame)
        ((List.pairwise_cons.mp hdistinct).1 second List.mem_cons_self)

-- A view that shows each link as it is tells what the other ticket's own view tells.
theorem dual_of_spelledRight (h : LinksInv store) (hspelled : SpelledRight store ticketId) (other : Uuid) :
    Dual store ticketId other where
  child := by
    rw [lists_parent_iff h (.inl rfl)]
    cases hcanonical : ticketId.canonical with
    | true =>
        have hown : ticketId = own ticketId.id := by rw [own, ← hcanonical]
        rw [hown, lists_child_iff h.known]
        rfl
    | false =>
        have hnone := hspelled.resolve_left (by rw [hcanonical]; exact Bool.false_ne_true)
        exact iff_of_false (not_lists_child h.known hcanonical) (hnone other)
  parent := by
    rw [lists_child_iff h.known, lists_parent_iff h hspelled]
  related := by
    rw [lists_related_iff h.known, lists_related_iff h.known]
    exact or_comm
  once := fun relation => filter_view_le_one h hspelled relation other

theorem canonical_of_inv (h : LinksInv store) : Canonical store where
  oneRow := h.oneRow
  dual _ other := dual_of_spelledRight h (.inl rfl) other

-- The views are not dual where a link is shown as what it is not.
theorem spelledRight_of_dual (h : LinksInv store) (hdual : ∀ other, Dual store ticketId other) :
    SpelledRight store ticketId := by
  by_contra hnot
  obtain ⟨hspelling, hsome⟩ := not_or.mp hnot
  obtain ⟨child, hstored⟩ := not_forall_not.mp hsome
  have hparent : Lists store (own child) .parent ticketId.id := (lists_parent_iff h (.inl rfl)).mpr hstored
  exact not_lists_child h.known (Bool.not_eq_true _ ▸ hspelling) ((hdual child).child.mpr hparent)

end Views

section Steps

variable {store : LinkStore} {ticketId : PathId} {dto : CreateTicketLinkDto} {edge : Edge} {other : Uuid}

theorem lookup_withEdge (now : Nat) (id : Uuid) : (store.withEdge edge now).ticketLinks.lookup id =
    if id = store.nextId then some ⟨edge, now⟩ else store.ticketLinks.lookup id :=
  Table.lookup_insert_eq _ _ _ _

theorem nextId_unused (h : LinksInv store) : store.ticketLinks.lookup store.nextId = none := by
  rw [AList.lookup_eq_none]
  exact fun hmem => lt_irrefl _ (h.below _ hmem)

theorem stored_withEdge_iff (h : LinksInv store) (now : Nat) (edge' : Edge) :
    (store.withEdge edge now).Stored edge' ↔ edge' = edge ∨ store.Stored edge' := by
  constructor
  · rintro ⟨id, link, hlookup, rfl⟩
    rw [lookup_withEdge] at hlookup
    split_ifs at hlookup
    · exact .inl (congrArg TicketLink.toEdge (Option.some.inj hlookup).symm)
    · exact .inr ⟨id, link, hlookup, rfl⟩
  · rintro (rfl | ⟨id, link, hlookup, rfl⟩)
    · exact ⟨store.nextId, ⟨edge', now⟩, (lookup_withEdge now _).trans (if_pos rfl), rfl⟩
    · have hne : id ≠ store.nextId := by
        rintro rfl
        rw [nextId_unused h] at hlookup
        cases hlookup
      exact ⟨id, link, (lookup_withEdge now id).trans ((if_neg hne).trans hlookup), rfl⟩

-- A new row keeps the invariant if its relationship is not there yet and it is no one's own
-- parent.
theorem withEdge_inv (h : LinksInv store) (now : Nat)
    (hknown : edge.fromTicketId ∈ store.tickets ∧ edge.toTicketId ∈ store.tickets)
    (hnew : ∀ edge', store.Stored edge' → ¬ SameRelationship edge edge')
    (hown : ∀ id, edge ≠ ⟨id, id, .parentOf⟩) : LinksInv (store.withEdge edge now) where
  known edge' hstored := by
    rcases (stored_withEdge_iff h now edge').mp hstored with rfl | hbefore
    · exact hknown
    · exact h.known edge' hbefore
  below id hid := by
    rcases (AList.mem_insert _).mp hid with rfl | hbefore
    · exact Nat.lt_succ_self _
    · exact Nat.lt_succ_of_lt (h.below id hbefore)
  oneRow id id' link link' hlookup hlookup' hsame := by
    rw [lookup_withEdge] at hlookup hlookup'
    split_ifs at hlookup with hid
    · split_ifs at hlookup' with hid'
      · exact hid.trans hid'.symm
      · obtain rfl := Option.some.inj hlookup
        exact absurd hsame (hnew _ ⟨id', link', hlookup', rfl⟩)
    · split_ifs at hlookup' with hid'
      · obtain rfl := Option.some.inj hlookup'
        exact absurd hsame.symm (hnew _ ⟨id, link, hlookup, rfl⟩)
      · exact h.oneRow id id' link link' hlookup hlookup' hsame
  noneOwn id hstored := by
    rcases (stored_withEdge_iff h now _).mp hstored with hsame | hbefore
    · exact hown id hsame.symm
    · exact h.noneOwn id hbefore

theorem lookup_erase_of {id linkId : Uuid} {link : TicketLink}
    (h : (store.ticketLinks.erase linkId).lookup id = some link) : store.ticketLinks.lookup id = some link := by
  by_cases hsame : id = linkId
  · subst hsame
    rw [AList.lookup_erase] at h
    cases h
  · rwa [AList.lookup_erase_ne hsame] at h

theorem remove_inv (h : LinksInv store) (linkId : Uuid) :
    LinksInv { store with ticketLinks := store.ticketLinks.erase linkId } where
  known edge' hstored := by
    obtain ⟨id, link, hlookup, hedge⟩ := hstored
    exact h.known edge' ⟨id, link, lookup_erase_of hlookup, hedge⟩
  below id hid := h.below id (AList.mem_erase.mp hid).2
  oneRow id id' link link' hlookup hlookup' hsame :=
    h.oneRow id id' link link' (lookup_erase_of hlookup) (lookup_erase_of hlookup') hsame
  noneOwn id hstored := by
    obtain ⟨linkId', link, hlookup, hedge⟩ := hstored
    exact h.noneOwn id ⟨linkId', link, lookup_erase_of hlookup, hedge⟩

-- No link is stored the other way round as well, and none makes a ticket its own parent
-- because its id came in another spelling.
def CreatesOne (store : LinkStore) (ticketId : PathId) (dto : CreateTicketLinkDto) : Prop :=
  ∀ other, ticketNumbered store dto.toTicketNumber = some other →
    (dto.linkType = .related → other ≠ ticketId.id → ¬ store.Stored ⟨other, ticketId.id, .related⟩) ∧
      (dto.linkType ≠ .related → other = ticketId.id → ticketId.canonical = true)

def StaysCanonical (store : LinkStore) : LinkCall → Prop
  | .create ticketId dto _ => CreatesOne store ticketId dto
  | .remove _ => True
  | .list ticketId => SpelledRight store ticketId

-- The rows are canonical after the call, and a view that is asked for is dual to the others.
def CallSound (store : LinkStore) (call : LinkCall) : Prop :=
  Canonical (linkStep store call) ∧ ∀ ticketId, call = .list ticketId → ∀ other, Dual store ticketId other

theorem create_inv (h : LinksInv store) (hone : CreatesOne store ticketId dto) (now : Nat) :
    LinksInv (commit (create ticketId dto now) store) := by
  refine ((create_ensures ticketId dto now store).mono fun _ after hafter => ?_).commit h
  obtain ⟨other, haccepted, rfl⟩ := hafter
  obtain ⟨hmirrored, hitself⟩ := hone other haccepted.found
  have hends := not_or.mp (ends_known haccepted)
  refine withEdge_inv h now ⟨not_not.mp hends.1, not_not.mp hends.2⟩ ?_ ?_
  · rintro edge' hstored (rfl | ⟨hrelated, rfl⟩)
    · exact haccepted.fresh hstored
    · cases htype : dto.linkType with
      | parentOf => rw [htype] at hrelated; cases hrelated
      | childOf => rw [htype] at hrelated; cases hrelated
      | related =>
          rw [htype] at hstored
          by_cases hother : other = ticketId.id
          · apply haccepted.fresh
            rw [hother] at hstored
            rw [htype, hother]
            exact hstored
          · exact hmirrored htype hother hstored
  · intro id hsame
    have hother : dto.linkType ≠ .related ∧ other = ticketId.id := by
      cases htype : dto.linkType with
      | related => rw [htype] at hsame; cases hsame
      | parentOf => rw [htype] at hsame; cases hsame; exact ⟨by simp, rfl⟩
      | childOf => rw [htype] at hsame; cases hsame; exact ⟨by simp, rfl⟩
    have hnotItself := haccepted.notItself
    rw [hitself hother.1 hother.2, hother.2] at hnotItself
    simp at hnotItself

theorem createsOne_of_canonical (h : LinksInv store) (now : Nat)
    (hafter : Canonical (commit (create ticketId dto now) store)) : CreatesOne store ticketId dto := by
  intro other hfound
  constructor
  · intro htype hother hstored
    have haccepted : Accepted store ticketId dto other := {
      found := hfound
      notItself := by simp [hother]
      known := (h.known _ hstored).2
      fresh := by
        -- both rows would be the same relationship
        rw [htype]
        rintro ⟨id, link, hlookup, hedge⟩
        obtain ⟨id', link', hlookup', hedge'⟩ := hstored
        have hsame : SameRelationship link.toEdge link'.toEdge := by
          rw [hedge, hedge']
          exact .inr ⟨rfl, rfl⟩
        obtain rfl := h.oneRow id id' link link' hlookup hlookup' hsame
        rw [hlookup] at hlookup'
        obtain rfl := Option.some.inj hlookup'
        rw [hedge] at hedge'
        exact hother (congrArg Edge.fromTicketId hedge').symm }
    rw [create_accepted haccepted, htype] at hafter
    obtain ⟨id, link, hlookup, hedge⟩ := hstored
    have hne : id ≠ store.nextId := by
      rintro rfl
      rw [nextId_unused h] at hlookup
      cases hlookup
    refine hne (hafter.oneRow id store.nextId link ⟨_, now⟩ ?_ ((lookup_withEdge now _).trans (if_pos rfl)) ?_)
    · exact (lookup_withEdge now id).trans ((if_neg hne).trans hlookup)
    · rw [hedge]
      exact .inr ⟨rfl, rfl⟩
  · intro htype hother
    by_contra hspelling
    subst hother
    have hnormalized : normalized ticketId.id ticketId.id dto.linkType = ⟨ticketId.id, ticketId.id, .parentOf⟩ := by
      cases hrequested : dto.linkType with
      | related => exact absurd hrequested htype
      | parentOf => rfl
      | childOf => rfl
    have haccepted : Accepted store ticketId dto ticketId.id := {
      found := hfound
      notItself := by simp [hspelling]
      known := ticketNumbered_mem hfound
      fresh := by
        rw [hnormalized]
        exact h.noneOwn ticketId.id }
    rw [create_accepted haccepted, hnormalized] at hafter
    have hknown : EndsKnown (store.withEdge ⟨ticketId.id, ticketId.id, .parentOf⟩ now) := by
      intro edge hstored
      rcases (stored_withEdge_iff h now edge).mp hstored with rfl | hbefore
      · exact ⟨ticketNumbered_mem hfound, ticketNumbered_mem hfound⟩
      · exact h.known edge hbefore
    -- the ticket would be its own child and not its own parent
    have hchild := (lists_child_iff hknown).mpr ((stored_withEdge_iff h now _).mpr (.inl rfl))
    have hparent := (hafter.dual ticketId.id ticketId.id).child.mp hchild
    obtain ⟨first, last, -, hshown, hends⟩ := (lists_parentOf_iff hknown (by decide)).mp hparent
    rcases hends with ⟨hfrom, -⟩ | ⟨hfrom, -, hsame⟩
    · exact relationOf_eq_parent_iff.mp hshown ⟨rfl, hfrom⟩
    · exact hfrom hsame

-- The tickets before any is linked.
def unlinked (tickets : Table Uuid Ticket) (nextId : Uuid) : LinkStore := ⟨tickets, ∅, nextId⟩

theorem not_stored_unlinked (tickets : Table Uuid Ticket) (nextId : Uuid) (edge' : Edge) :
    ¬ (unlinked tickets nextId).Stored edge' := by
  rintro ⟨id, link, hlookup, -⟩
  cases hlookup

theorem unlinked_inv (tickets : Table Uuid Ticket) (nextId : Uuid) : LinksInv (unlinked tickets nextId) where
  known edge' hstored := absurd hstored (not_stored_unlinked tickets nextId edge')
  below id hid := absurd hid (AList.notMem_empty id)
  oneRow id id' link link' hlookup := by cases hlookup
  noneOwn id := not_stored_unlinked tickets nextId _

theorem linkStep_inv {call : LinkCall} (h : LinksInv store) (hstays : StaysCanonical store call) :
    LinksInv (linkStep store call) := by
  cases call with
  | create ticketId dto now => exact create_inv h hstays now
  | list ticketId => exact h
  | remove linkId =>
      have hremove : Ensures (remove linkId) store fun _ after => LinksInv after := by
        refine .get_bind ?_
        split
        · intro value after hrun
          obtain ⟨-, rfl⟩ := Prod.mk.inj (Except.ok.inj hrun)
          exact remove_inv h linkId
        · exact .throw _
      exact hremove.commit h

theorem callSound_iff {call : LinkCall} (h : LinksInv store) :
    CallSound store call ↔ StaysCanonical store call := by
  constructor
  · rintro ⟨hafter, hdual⟩
    cases call with
    | create ticketId dto now => exact createsOne_of_canonical h now hafter
    | remove linkId => trivial
    | list ticketId => exact spelledRight_of_dual h (hdual ticketId rfl)
  · intro hstays
    refine ⟨canonical_of_inv (linkStep_inv h hstays), ?_⟩
    rintro ticketId rfl
    exact dual_of_spelledRight h hstays

end Steps

-- Tickets 1 and 2, each related to the other at its own request.
def mutualRequests : List LinkCall :=
  [.create (own 1) ⟨2, .related⟩ 0, .create (own 2) ⟨1, .related⟩ 1]

end CloudOps.Ticketing.TicketLinks
