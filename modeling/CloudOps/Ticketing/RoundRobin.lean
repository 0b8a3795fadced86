import CloudOps.Ticketing.TicketsService
import CloudOps.Turns

namespace CloudOps.Ticketing

open CloudOps.ReadCommitted CloudOps.Transaction

-- Whose turn it is in a group depends on nothing else.
structure SameTurn (groupId : Uuid) (before after : TicketStore) : Prop where
  agents : activeGroupAgents after groupId = activeGroupAgents before groupId
  group : after.groups.lookup groupId = before.groups.lookup groupId
  cursor : after.groupAssignmentCursor.lookup groupId = before.groupAssignmentCursor.lookup groupId

-- A ticket that lands in the group, and what is done up to the next one that does.
structure Landing (groupId : Uuid) where
  requiredSkill : Option String
  change : TicketStore → TicketStore
  sameTurn : ∀ store, SameTurn groupId store (change store)

def assignAll (groupId : Uuid) : List (Landing groupId) → TicketM (List (Option Uuid))
  | [] => return []
  | landing :: rest => do
      let agentId ← pickAssignee groupId landing.requiredSkill
      modify landing.change
      let later ← assignAll groupId rest
      return agentId :: later

section Turn

variable {groupId : Uuid} {store : TicketStore} {config : GroupAssignmentConfig}

theorem nodup_activeGroupAgents (store : TicketStore) (groupId : Uuid) :
    (activeGroupAgents store groupId).Nodup := by
  apply (List.mergeSort_perm _ _).nodup_iff.mpr
  exact (List.filter_sublist.map Prod.fst).nodup store.agents.nodup_rows_ids

theorem roundRobin_run (groupId : Uuid) (store : TicketStore) (agentIds : List Uuid) :
    ∃ after, (roundRobin groupId agentIds).run store =
        .ok (agentIds[Turns.nextIndex agentIds (store.groupAssignmentCursor.lookup groupId)]?, after) ∧
      after.agents = store.agents ∧ after.groups = store.groups ∧
      after.groupAssignmentCursor.lookup groupId =
        (agentIds[Turns.nextIndex agentIds (store.groupAssignmentCursor.lookup groupId)]?).or
          (store.groupAssignmentCursor.lookup groupId) := by
  cases hchosen : agentIds[Turns.nextIndex agentIds (store.groupAssignmentCursor.lookup groupId)]? with
  | none =>
      refine ⟨store, (run_bind_ok rfl).trans ?_, rfl, rfl, rfl⟩
      dsimp only
      split
      · rfl
      · rename_i other hother
        cases hchosen.symm.trans hother
  | some chosen =>
      refine ⟨{ store with groupAssignmentCursor := store.groupAssignmentCursor.insert groupId chosen },
        (run_bind_ok rfl).trans ?_, rfl, rfl, AList.lookup_insert _⟩
      dsimp only
      split
      · rename_i hnone
        cases hchosen.symm.trans hnone
      · rename_i other hother
        obtain rfl := Option.some.inj (hchosen.symm.trans hother)
        rfl

theorem pickAssignee_roundRobin (hgroup : store.groups.lookup groupId = some config)
    (hstrategy : config.assignmentStrategy = .roundRobin) (requiredSkill : Option String) :
    (pickAssignee groupId requiredSkill).run store =
      (roundRobin groupId (activeGroupAgents store groupId)).run store := by
  refine (run_bind_ok rfl).trans ?_
  rw [hgroup]
  simp only [hstrategy]

theorem assignAll_run (hgroup : store.groups.lookup groupId = some config)
    (hstrategy : config.assignmentStrategy = .roundRobin) (landings : List (Landing groupId)) :
    ∃ after, (assignAll groupId landings).run store =
      .ok (Turns.turns (activeGroupAgents store groupId) landings.length
        (store.groupAssignmentCursor.lookup groupId), after) := by
  induction landings generalizing store with
  | nil => exact ⟨store, rfl⟩
  | cons landing rest ih =>
      obtain ⟨middle, hpick, hagents, hgroups, hcursor⟩ :=
        roundRobin_run groupId store (activeGroupAgents store groupId)
      rw [← pickAssignee_roundRobin hgroup hstrategy landing.requiredSkill] at hpick
      have hsame := landing.sameTurn middle
      have hlist : activeGroupAgents (landing.change middle) groupId = activeGroupAgents store groupId := by
        rw [hsame.agents]
        unfold activeGroupAgents
        rw [hagents]
      obtain ⟨after, hrest⟩ := ih (hsame.group.trans (by rw [hgroups, hgroup]))
      refine ⟨after, ?_⟩
      rw [hlist, hsame.cursor, hcursor] at hrest
      rw [assignAll, run_bind_ok hpick]
      change ((assignAll groupId rest >>= fun later => pure (_ :: later)).run (landing.change middle)) = _
      rw [run_bind_ok hrest]
      rfl

end Turn

-- Any k rounds of consecutive assignments, wherever the cursor stood before them.
theorem pickAssignee_is_fair {groupId : Uuid} {store : TicketStore} {config : GroupAssignmentConfig}
    (hgroup : store.groups.lookup groupId = some config) (hstrategy : config.assignmentStrategy = .roundRobin)
    (rounds : Nat) (landings : List (Landing groupId))
    (hlen : landings.length = rounds * (activeGroupAgents store groupId).length) :
    ∃ assignees after, (assignAll groupId landings).run store = .ok (assignees, after) ∧
      assignees.length = landings.length ∧
      ∀ agentId ∈ activeGroupAgents store groupId, assignees.count (some agentId) = rounds := by
  obtain ⟨after, hrun⟩ := assignAll_run hgroup hstrategy landings
  refine ⟨_, after, hrun, Turns.length_turns _ _ _, fun agentId hmem => ?_⟩
  rw [hlen]
  exact Turns.count_turns (nodup_activeGroupAgents store groupId) hmem rounds _

-- Agents 1 and 2 take turns; the last ticket went to agent 9, who has left the group.
def pairOfAgents : TicketStore where
  tickets := ∅
  messages := []
  attachments := []
  activities := []
  nextTicketNumber := none
  contacts := ∅
  ticketTypes := ∅
  groups := AList.singleton 7 ⟨.roundRobin, none⟩
  agents := ((AList.singleton 2 ⟨[7], true⟩).insert 1 ⟨[7], true⟩).insert 9 ⟨[], true⟩
  agentSkills := []
  groupAssignmentCursor := AList.singleton 7 9
  resources := []
  slaPolicies := ∅
  businessHours := none
  automationRules := []

def Landing.alone (groupId : Uuid) : Landing groupId where
  requiredSkill := none
  change := id
  sameTurn _ := ⟨rfl, rfl, rfl⟩

theorem activeGroupAgents_pair : (activeGroupAgents pairOfAgents 7).Perm [1, 2] :=
  List.mergeSort_perm _ _

theorem pickAssignee_is_fair_pair :
    ∃ assignees after,
      (assignAll 7 (List.replicate 4 (Landing.alone 7))).run pairOfAgents = .ok (assignees, after) ∧
      assignees.length = 4 ∧ assignees.count (some 1) = 2 ∧ assignees.count (some 2) = 2 := by
  have hlen : (List.replicate 4 (Landing.alone 7)).length =
      2 * (activeGroupAgents pairOfAgents 7).length := by
    rw [activeGroupAgents_pair.length_eq]
    rfl
  have hgroup : pairOfAgents.groups.lookup 7 = some ⟨.roundRobin, none⟩ := rfl
  obtain ⟨assignees, after, hrun, hlength, hcount⟩ := pickAssignee_is_fair hgroup rfl 2 _ hlen
  exact ⟨assignees, after, hrun, hlength, hcount 1 (activeGroupAgents_pair.mem_iff.mpr (by decide)),
    hcount 2 (activeGroupAgents_pair.mem_iff.mpr (by decide))⟩

end CloudOps.Ticketing
