import CloudOps.ReadCommitted.Table
import CloudOps.Ticketing.Ticket
import Mathlib.Data.Rat.Defs
import Mathlib.Algebra.Order.Field.Rat

namespace CloudOps.Ticketing

open CloudOps.ReadCommitted

def clusterLimit : Nat := 10

def clusterThreshold : ℚ := 1 / 4

structure KbCluster where
  subject : String
  ticketIds : List Uuid
  ticketCount : Nat
  deriving DecidableEq

-- The transaction's queries one after the other: the committed tickets each finds,
-- and the order it reads them in. At READ COMMITTED they need not find the same.
structure KbReads where
  tickets : Nat → Table Uuid Ticket
  scan : Nat → ScanOrder (Uuid × Ticket)

-- pg_trgm's similarity of two subjects.
variable (similarity : String → String → ℚ) (reads : KbReads) (now : Nat)

def isRecentlyResolved (ticket : Ticket) : Bool :=
  ticket.status.isClosing && ticket.resolvedAt.any fun resolvedAt => now ≤ resolvedAt + 90 * 86400000

-- The anchors, the last resolved first.
def resolvedTickets : List (Uuid × String) :=
  let rows := (reads.scan 0).apply ((reads.tickets 0).rows.filter fun row => isRecentlyResolved now row.2)
  let latestFirst := rows.insertionSort fun first second => second.2.resolvedAt.getD 0 ≤ first.2.resolvedAt.getD 0
  (latestFirst.take 500).map fun row => (row.1, row.2.subject)

def isSimilar (anchor : Uuid × String) (assigned : List Uuid) (row : Uuid × Ticket) : Bool :=
  row.1 ≠ anchor.1 && row.1 ∉ assigned && clusterThreshold < similarity row.2.subject anchor.2 &&
    row.2.status.isClosing

def similarTickets (query : Nat) (anchor : Uuid × String) (assigned : List Uuid) : List Uuid :=
  let rows := (reads.scan query).apply ((reads.tickets query).rows.filter (isSimilar similarity anchor assigned))
  (rows.take (clusterLimit - 1)).map Prod.fst

-- The loop over the anchors; `query` is the transaction's next query.
def clusterLoop : Nat → List (Uuid × String) → List Uuid → List KbCluster → List KbCluster
  | _, [], _, clusters => clusters
  | query, anchor :: rest, assigned, clusters =>
      if anchor.1 ∈ assigned then clusterLoop query rest assigned clusters
      else
        let similar := similarTickets similarity reads query anchor assigned
        -- a singleton is not a cluster worth noting
        if similar.isEmpty then clusterLoop (query + 1) rest assigned clusters
        else
          let members := anchor.1 :: similar
          let found := clusters ++ [⟨anchor.2, members, members.length⟩]
          if 20 ≤ found.length then found
          else clusterLoop (query + 1) rest (assigned ++ members) found

def suggestClusters : List KbCluster :=
  clusterLoop similarity reads 1 (resolvedTickets reads now) [] []

-- A ticket as one of the queries found it.
def KbReads.Found (id : Uuid) (ticket : Ticket) : Prop :=
  ∃ query, (reads.tickets query).lookup id = some ticket

-- What a cluster is: a first ticket with its subject, the others similar to it.
structure KbCluster.WellFormed (cluster : KbCluster) : Prop where
  distinct : cluster.ticketIds.Nodup
  atLeastTwo : 2 ≤ cluster.ticketIds.length
  atMostTen : cluster.ticketIds.length ≤ 10
  counted : cluster.ticketCount = cluster.ticketIds.length
  anchored : ∃ (id : Uuid) (first : Ticket) (others : List Uuid), cluster.ticketIds = id :: others ∧
    reads.Found id first ∧ cluster.subject = first.subject ∧
    ∀ other ∈ others, ∃ ticket, reads.Found other ticket ∧
      clusterThreshold < similarity ticket.subject first.subject

-- The members so far are those assigned, each once.
structure Clustered (assigned : List Uuid) (clusters : List KbCluster) : Prop where
  members : clusters.flatMap KbCluster.ticketIds = assigned
  nodup : assigned.Nodup
  wellFormed : ∀ cluster ∈ clusters, cluster.WellFormed similarity reads

variable {similarity reads}

theorem mem_similarTickets {query : Nat} {anchor : Uuid × String} {assigned : List Uuid} {id : Uuid}
    (h : id ∈ similarTickets similarity reads query anchor assigned) :
    ∃ ticket, (reads.tickets query).lookup id = some ticket ∧
      isSimilar similarity anchor assigned (id, ticket) = true := by
  obtain ⟨⟨_, ticket⟩, htaken, rfl⟩ := List.mem_map.mp h
  have hscanned := ((reads.scan query).perm _).mem_iff.mp (List.mem_of_mem_take htaken)
  obtain ⟨hrow, hsimilar⟩ := List.mem_filter.mp hscanned
  exact ⟨ticket, Table.mem_rows.mp hrow, hsimilar⟩

theorem nodup_similarTickets (query : Nat) (anchor : Uuid × String) (assigned : List Uuid) :
    (similarTickets similarity reads query anchor assigned).Nodup := by
  have hscanned := Table.nodup_ids_of_perm
    ((reads.scan query).perm ((reads.tickets query).rows.filter (isSimilar similarity anchor assigned)))
  exact hscanned.sublist ((List.take_sublist _ _).map Prod.fst)

theorem length_similarTickets (query : Nat) (anchor : Uuid × String) (assigned : List Uuid) :
    (similarTickets similarity reads query anchor assigned).length ≤ 9 := by
  rw [similarTickets, List.length_map]
  exact List.length_take_le _ _

-- What the query leaves out: the anchor, and the members of the clusters before.
theorem members_fresh {query : Nat} {anchor : Uuid × String} {assigned : List Uuid}
    (hanchor : anchor.1 ∉ assigned) :
    (anchor.1 :: similarTickets similarity reads query anchor assigned).Nodup ∧
      ∀ id ∈ anchor.1 :: similarTickets similarity reads query anchor assigned, id ∉ assigned := by
  have hsimilar : ∀ id ∈ similarTickets similarity reads query anchor assigned,
      id ≠ anchor.1 ∧ id ∉ assigned := by
    intro id hid
    obtain ⟨ticket, -, h⟩ := mem_similarTickets hid
    simp only [isSimilar, Bool.and_eq_true, decide_eq_true_eq] at h
    exact h.1.1
  constructor
  · exact List.nodup_cons.mpr ⟨fun h => (hsimilar _ h).1 rfl, nodup_similarTickets query anchor assigned⟩
  · intro id hid
    rcases List.mem_cons.mp hid with rfl | hid
    · exact hanchor
    · exact (hsimilar id hid).2

theorem wellFormed_of_similar {query : Nat} {anchor : Uuid × String} {assigned : List Uuid} {first : Ticket}
    (hanchor : anchor.1 ∉ assigned) (hfound : reads.Found anchor.1 first) (hsubject : anchor.2 = first.subject)
    (hsome : similarTickets similarity reads query anchor assigned ≠ []) :
    let members := anchor.1 :: similarTickets similarity reads query anchor assigned
    KbCluster.WellFormed similarity reads ⟨anchor.2, members, members.length⟩ where
  distinct := (members_fresh hanchor).1
  atLeastTwo := Nat.succ_le_succ (List.length_pos_iff.mpr hsome)
  atMostTen := Nat.succ_le_succ (length_similarTickets query anchor assigned)
  counted := rfl
  anchored := by
    refine ⟨anchor.1, first, _, rfl, hfound, hsubject, fun other hother => ?_⟩
    obtain ⟨ticket, hlookup, h⟩ := mem_similarTickets hother
    simp only [isSimilar, Bool.and_eq_true, decide_eq_true_eq, hsubject] at h
    exact ⟨ticket, ⟨query, hlookup⟩, h.1.2⟩

theorem Clustered.concat {assigned : List Uuid} {clusters : List KbCluster} {cluster : KbCluster}
    (h : Clustered similarity reads assigned clusters) (hwell : cluster.WellFormed similarity reads)
    (hfresh : ∀ id ∈ cluster.ticketIds, id ∉ assigned) :
    Clustered similarity reads (assigned ++ cluster.ticketIds) (clusters ++ [cluster]) where
  members := by
    rw [List.flatMap_append, h.members, List.flatMap_cons, List.flatMap_nil, List.append_nil]
  nodup := List.nodup_append'.mpr ⟨h.nodup, hwell.distinct, fun id hold hnew => hfresh id hnew hold⟩
  wellFormed := by
    intro other hother
    rcases List.mem_append.mp hother with hold | hnew
    · exact h.wellFormed other hold
    · exact List.mem_singleton.mp hnew ▸ hwell

-- What the loop keeps, by induction on the anchors still to come.
theorem clustered_clusterLoop (query : Nat) (anchors : List (Uuid × String)) (assigned : List Uuid)
    (clusters : List KbCluster)
    (hanchors : ∀ anchor ∈ anchors, ∃ first, reads.Found anchor.1 first ∧ anchor.2 = first.subject)
    (h : Clustered similarity reads assigned clusters) (hlength : clusters.length < 20) :
    ∃ all, Clustered similarity reads all (clusterLoop similarity reads query anchors assigned clusters) ∧
      (clusterLoop similarity reads query anchors assigned clusters).length ≤ 20 := by
  induction anchors generalizing query assigned clusters with
  | nil => exact ⟨assigned, h, hlength.le⟩
  | cons anchor rest ih =>
      obtain ⟨⟨first, hfound, hsubject⟩, hrest⟩ := List.forall_mem_cons.mp hanchors
      rw [clusterLoop]
      by_cases hassigned : anchor.1 ∈ assigned
      · rw [if_pos hassigned]
        exact ih query assigned clusters hrest h hlength
      rw [if_neg hassigned]
      by_cases hsome : similarTickets similarity reads query anchor assigned = []
      · simp only [hsome, List.isEmpty_nil, if_true]
        exact ih (query + 1) assigned clusters hrest h hlength
      have hwell := wellFormed_of_similar hassigned hfound hsubject hsome
      have hextended := h.concat hwell (members_fresh hassigned).2
      simp only [List.isEmpty_iff, hsome, if_false]
      split
      · refine ⟨_, hextended, ?_⟩
        rw [List.length_append, List.length_singleton]
        exact hlength
      · rename_i hmore
        exact ih (query + 1) _ _ hrest hextended (Nat.lt_of_not_le hmore)

variable {now}

theorem found_of_resolved {anchor : Uuid × String} (h : anchor ∈ resolvedTickets reads now) :
    ∃ first, reads.Found anchor.1 first ∧ anchor.2 = first.subject := by
  obtain ⟨⟨id, ticket⟩, htaken, rfl⟩ := List.mem_map.mp h
  have hsorted := (List.perm_insertionSort _ _).mem_iff.mp (List.mem_of_mem_take htaken)
  have hscanned := ((reads.scan 0).perm _).mem_iff.mp hsorted
  exact ⟨ticket, ⟨0, Table.mem_rows.mp (List.mem_filter.mp hscanned).1⟩, rfl⟩

variable (similarity reads now)

theorem suggestClusters_disjoint :
    (suggestClusters similarity reads now).length ≤ 20 ∧
      (suggestClusters similarity reads now).Pairwise
        (fun first second => first.ticketIds.Disjoint second.ticketIds) ∧
      ∀ cluster ∈ suggestClusters similarity reads now, cluster.WellFormed similarity reads := by
  have hstart : Clustered similarity reads [] [] := ⟨rfl, List.nodup_nil, fun _ h => absurd h List.not_mem_nil⟩
  obtain ⟨assigned, h, hlength⟩ := clustered_clusterLoop 1 (resolvedTickets reads now) [] []
    (fun _ => found_of_resolved) hstart (by decide)
  have hnodup := h.members ▸ h.nodup
  exact ⟨hlength, (List.nodup_flatMap.mp hnodup).2, h.wellFormed⟩

end CloudOps.Ticketing
