import CloudOps.ReadCommitted.InFlight
import CloudOps.Ticketing.ChatMessages

namespace CloudOps.Ticketing.Chat

open CloudOps.ReadCommitted

abbrev ChatTxn := Txn ChatKey ChatRow ServiceError ChatResult ChatCall

variable (refs : ChatReferences) (tenantId sessionId : Uuid)

-- A message of the model in the session.
def isReply (row : ChatMessage) : Bool :=
  row.authorType == .ai && (row.chatSessionId == sessionId && row.tenantId == tenantId)

def repliesIn (table : ChatTable) : List (Uuid × ChatMessage) :=
  (table.rows.filterMap messageEntry).filter fun entry => isReply tenantId sessionId entry.2

def assigneeIn (table : ChatTable) : Option Uuid :=
  match table.lookup (.session sessionId) with
  | some (.session session) => session.assignedAgentId
  | _ => none

-- Between any two messages of the model there is one of the visitor.
def RepliesApart (table : ChatTable) : Prop :=
  ∀ id other first second, messageAt tenantId sessionId table id = some first →
    messageAt tenantId sessionId table other = some second → id ≠ other →
    first.authorType = .ai → second.authorType = .ai → first.createdAt ≤ second.createdAt →
    ∃ turn visitor, messageAt tenantId sessionId table turn = some visitor ∧ visitor.authorType = .visitor ∧
      first.createdAt < visitor.createdAt ∧ visitor.createdAt < second.createdAt

-- A message of the model is committed only where no agent's claim of the session is.
def SilentOnceClaimed : ChatDb → ChatEvent → Prop :=
  CommitMeets fun world _ writes _ =>
    repliesIn tenantId sessionId writes ≠ [] → assigneeIn sessionId world.committed = none

-- The transaction is past the look of its INSERT, and has inserted a reply or is about to.
def isReplying (txn : ChatTxn) : Bool :=
  !(repliesIn tenantId sessionId txn.writes).isEmpty ||
    match txn.prog with
    | .insert (.message row) _ => isReply tenantId sessionId row
    | _ => false

def claims (committed writes : ChatTable) : Bool :=
  (assigneeIn sessionId committed).isNone && (assigneeIn sessionId writes).isSome

-- An agent's claim is committed while a reply is between its look and its commit.
def claimOvertakes (db : ChatDb) : ChatEvent → Bool
  | .commit tid => (db.active.lookup tid).any fun txn =>
      txn.prog.value?.isSome && claims sessionId db.world.committed txn.writes &&
        db.active.rows.any fun other => decide (other.1 ≠ tid) && isReplying tenantId sessionId other.2
  | _ => false

-- A reply is let through whose transaction began no later than the turn of the visitor it
-- has found newest, or that turn has the date of an earlier reply.
def turnOvertakes (db : ChatDb) : ChatEvent → Bool
  | .exec tid order _ => (db.active.lookup tid).any fun txn =>
      match txn.call.request, txn.prog with
      | .answer _ answered _, .select matching _ =>
          answered == sessionId && txn.call.tenantId == tenantId &&
            ((lookAt (order.apply ((txn.writes ∪ db.world.committed).rows.filter fun row =>
              matching row.1 row.2))).filter Look.allows).any fun look =>
                decide (txn.startedAt ≤ look.newest.createdAt) ||
                  (repliesIn tenantId sessionId db.world.committed).any fun reply =>
                    reply.2.createdAt == look.newest.createdAt
      | _, _ => false
  | _ => false

instance (db : ChatDb) : DecidablePred (SilentOnceClaimed tenantId sessionId db) :=
  inferInstanceAs (DecidablePred (CommitMeets (fun world _ writes _ =>
    repliesIn tenantId sessionId writes ≠ [] → assigneeIn sessionId world.committed = none) db))

def NotOvertaken (db : ChatDb) (event : ChatEvent) : Prop :=
  claimOvertakes tenantId sessionId db event = false ∧ turnOvertakes tenantId sessionId db event = false

instance (db : ChatDb) : DecidablePred (NotOvertaken tenantId sessionId db) :=
  fun _ => inferInstanceAs (Decidable (_ ∧ _))

-- What a reply that has been let through goes by, to its commit.
structure ItsTurn (committed : ChatTable) (startedAt : Nat) : Prop where
  unclaimed : assigneeIn sessionId committed = none
  turn : ∃ id visitor, messageAt tenantId sessionId committed id = some visitor ∧ visitor.authorType = .visitor ∧
    visitor.createdAt < startedAt ∧ ∀ other reply, messageAt tenantId sessionId committed other = some reply →
      reply.authorType = .ai → reply.createdAt < visitor.createdAt

def lockTaken (taken : Nat) : ChatTable := (∅ : ChatTable).insert (.lock sessionId) (.lock taken)

-- A step that writes under the id of no message.
def KeepsMessages (key : ChatKey) (_ : Option ChatRow) (_ : ChatRow) : Prop := ∀ id, key ≠ .message id

-- A transaction in flight: one that makes no reply in the session, or an answer there at one
-- of its stages.
inductive InTurn (committed : ChatTable) (txn : ChatTxn) : Prop where
  | other
      (written : NewMessages (fun row => isReply tenantId sessionId row = false) committed txn.writes)
      (rest : txn.prog.Changes (AddsMessage fun row => isReply tenantId sessionId row = false))
  | begun (responder : Nat) (reply : String)
      (call : txn.call = ⟨tenantId, .answer responder sessionId reply⟩)
      (written : txn.writes = ∅)
      (rest : txn.prog = (answer tenantId sessionId reply txn.startedAt).map .answered)
  | locked (responder : Nat) (reply : String) (taken : Nat)
      (call : txn.call = ⟨tenantId, .answer responder sessionId reply⟩)
      (written : txn.writes = lockTaken sessionId taken)
      (rest : txn.prog = .select (lookedFor tenantId sessionId) fun rows =>
        (afterLook tenantId sessionId reply txn.startedAt rows).map .answered)
  | looked (taken : Nat) (row : ChatMessage) (next : InsertResult ChatKey → ChatProg ChatResult)
      (written : txn.writes = lockTaken sessionId taken)
      (isReply : isReply tenantId sessionId row = true)
      (dated : row.createdAt = txn.startedAt)
      (rest : txn.prog = .insert (.message row) next)
      (silent : ∀ result, (next result).Changes KeepsMessages)
      (turn : ItsTurn tenantId sessionId committed txn.startedAt)
  | posted (id : Uuid) (row : ChatMessage)
      (locked : ChatKey.lock sessionId ∈ txn.writes)
      (written : txn.writes.lookup (.message id) = some (.message row))
      (only : ∀ other, ChatKey.message other ∈ txn.writes → other = id)
      (new : ChatKey.message id ∉ committed)
      (isReply : isReply tenantId sessionId row = true)
      (dated : row.createdAt = txn.startedAt)
      (silent : txn.prog.Changes KeepsMessages)
      (turn : ItsTurn tenantId sessionId committed txn.startedAt)

section Tables

variable {tenantId sessionId : Uuid} {table committed writes : ChatTable} {id : Uuid} {row : ChatMessage}

theorem isReply_eq_true :
    isReply tenantId sessionId row = true ↔
      row.authorType = .ai ∧ row.chatSessionId = sessionId ∧ row.tenantId = tenantId := by
  simp only [isReply, Bool.and_eq_true, beq_iff_eq]

theorem mem_repliesIn :
    (id, row) ∈ repliesIn tenantId sessionId table ↔
      messageAt tenantId sessionId table id = some row ∧ row.authorType = .ai := by
  rw [repliesIn, List.mem_filter, mem_filterMap_messageEntry, Table.mem_rows, messageAt_eq_some, isReply_eq_true]
  tauto

-- A message of the session after the commit was there before, or has been written.
theorem messageAt_union (h : messageAt tenantId sessionId (writes ∪ committed) id = some row) :
    messageAt tenantId sessionId writes id = some row ∨ messageAt tenantId sessionId committed id = some row := by
  obtain ⟨hlookup, hof⟩ := messageAt_eq_some.mp h
  rcases Table.lookup_union_cases hlookup with hown | ⟨-, hbase⟩
  · exact .inl (messageAt_eq_some.mpr ⟨hown, hof⟩)
  · exact .inr (messageAt_eq_some.mpr ⟨hbase, hof⟩)

-- Where only others' messages are written, the replies of the session stay what they were.
theorem NewMessages.reply_union
    (h : NewMessages (fun row => isReply tenantId sessionId row = false) committed writes)
    (hrow : messageAt tenantId sessionId (writes ∪ committed) id = some row) (hai : row.authorType = .ai) :
    messageAt tenantId sessionId committed id = some row := by
  rcases messageAt_union hrow with hown | hbase
  · obtain ⟨hlookup, hof⟩ := messageAt_eq_some.mp hown
    have hother : isReply tenantId sessionId row = false := (h id _ hlookup).2 row rfl
    rw [isReply_eq_true.mpr ⟨hai, hof⟩] at hother
    cases hother
  · exact hbase

theorem NewMessages.mono {allowed other : ChatMessage → Prop} (h : NewMessages allowed committed writes)
    (himp : ∀ row, allowed row → other row) : NewMessages other committed writes :=
  fun id row hrow => ⟨(h id row hrow).1, fun message hmessage => himp _ ((h id row hrow).2 message hmessage)⟩

theorem assigneeIn_union (h : ∀ row, writes.lookup (.session sessionId) = some (.session row) →
      row.assignedAgentId = none) (hcommitted : assigneeIn sessionId committed = none) :
    assigneeIn sessionId (writes ∪ committed) = none := by
  unfold assigneeIn at hcommitted ⊢
  rw [Table.lookup_union]
  cases hown : writes.lookup (.session sessionId) with
  | none => exact hcommitted
  | some own =>
      cases own with
      | session row => exact h row hown
      | message _ | lock _ => rfl

theorem mem_lockTaken {taken : Nat} {key : ChatKey} : key ∈ lockTaken sessionId taken ↔ key = .lock sessionId := by
  simp only [lockTaken, AList.mem_insert, AList.notMem_empty, or_false]

theorem lookup_lockTaken (taken : Nat) (key : ChatKey) :
    (lockTaken sessionId taken).lookup key = if key = .lock sessionId then some (.lock taken) else none := by
  rw [lockTaken, Table.lookup_insert_eq, AList.lookup_empty]

theorem NewMessages.lockTaken (allowed : ChatMessage → Prop) (committed : ChatTable) (taken : Nat) :
    NewMessages allowed committed (lockTaken sessionId taken) := by
  intro id row hrow
  rw [lookup_lockTaken, if_neg (by simp)] at hrow
  cases hrow

end Tables

section Look

variable {rows : List (ChatKey × ChatRow)} {look : Look}

-- An answer that is let through inserts its reply, and no other message.
theorem afterLook_allowed (reply : String) (startedAt : Nat) (h : (lookAt rows).filter Look.allows = some look) :
    ∃ row next, isReply tenantId sessionId row = true ∧ row.createdAt = startedAt ∧
      (afterLook tenantId sessionId reply startedAt rows).map ChatResult.answered = .insert (.message row) next ∧
      ∀ result, (next result).Changes KeepsMessages := by
  rw [afterLook, h]
  refine ⟨_, _, isReply_eq_true.mpr ⟨rfl, rfl, rfl⟩, rfl, rfl, fun result => ?_⟩
  cases result with
  | inserted key =>
      cases key with
      | message id => exact ⟨fun old row _ => by simp [KeepsMessages], fun _ => trivial⟩
      | session _ | lock _ => trivial
  | duplicateKey => trivial

-- What lookAt takes is a session and a message it is given, and no message is newer.
theorem lookAt_eq_some (h : lookAt rows = some look) :
    (∃ key, (key, ChatRow.session look.session) ∈ rows) ∧
      (∃ key, (key, ChatRow.message look.newest) ∈ rows) ∧
      ∀ key row, (key, ChatRow.message row) ∈ rows → row.createdAt ≤ look.newest.createdAt := by
  unfold lookAt at h
  split at h
  · rename_i session newest hsession hnewest
    obtain rfl := Option.some.inj h
    obtain ⟨sorted, hsorted⟩ := List.head?_eq_some_iff.mp hnewest
    have hmem : ∀ row, row ∈ newestFirst rows ↔ ∃ key, (key, ChatRow.message row) ∈ rows := by
      intro row
      rw [newestFirst, List.mem_insertionSort, List.mem_filterMap]
      constructor
      · rintro ⟨⟨key, stored⟩, hstored, hrow⟩
        cases stored with
        | message found =>
            obtain rfl := Option.some.inj hrow
            exact ⟨key, hstored⟩
        | session _ | lock _ => cases hrow
      · exact fun ⟨key, hrow⟩ => ⟨_, hrow, rfl⟩
    refine ⟨?_, (hmem newest).mp (hsorted ▸ List.mem_cons_self), fun key row hrow => ?_⟩
    · obtain ⟨⟨key, stored⟩, hstored, hfound⟩ := List.exists_of_findSome?_eq_some hsession
      cases stored with
      | session found =>
          obtain rfl := Option.some.inj hfound
          exact ⟨key, hstored⟩
      | message _ | lock _ => cases hfound
    · have hpairwise : (newestFirst rows).Pairwise fun first second => second.createdAt ≤ first.createdAt :=
        pairwise_descending ChatMessage.createdAt _
      have hlisted := (hmem row).mpr ⟨key, hrow⟩
      rw [hsorted] at hpairwise hlisted
      rcases List.mem_cons.mp hlisted with rfl | hlater
      · exact Nat.le_refl _
      · exact List.rel_of_pairwise_cons hpairwise hlater
  · cases h

theorem Look.allows_eq_true : look.allows = true ↔
    look.session.status = .opened ∧ look.session.aiEnabled = true ∧
    look.session.assignedAgentId = none ∧ look.newest.authorType = .visitor := by
  simp only [Look.allows, Bool.and_eq_true, decide_eq_true_eq, Option.isNone_iff_eq_none, beq_iff_eq, and_assoc]

end Look

section Stages

variable {refs} {tenantId sessionId : Uuid} {committed : ChatTable} {txn : ChatTxn}

-- The look of an answer that is let through, with nothing in its way.
theorem itsTurn_of_look {writes : ChatTable} {taken startedAt : Nat} (hwrites : writes = lockTaken sessionId taken)
    {rows : List (ChatKey × ChatRow)} {look : Look}
    (hrows : rows.Perm ((writes ∪ committed).rows.filter fun row => lookedFor tenantId sessionId row.1 row.2))
    (hlook : (lookAt rows).filter Look.allows = some look) (hstarted : look.newest.createdAt < startedAt)
    (hapart : ∀ reply ∈ repliesIn tenantId sessionId committed, reply.2.createdAt ≠ look.newest.createdAt) :
    ItsTurn tenantId sessionId committed startedAt := by
  obtain ⟨hat, hallows⟩ := Option.filter_eq_some_iff.mp hlook
  obtain ⟨⟨sessionKey, hsession⟩, ⟨key, hnewest⟩, hnewer⟩ := lookAt_eq_some hat
  obtain ⟨-, -, hunclaimed, hvisitor⟩ := Look.allows_eq_true.mp hallows
  have hmem : ∀ key row, (key, row) ∈ rows ↔
      (writes ∪ committed).lookup key = some row ∧ lookedFor tenantId sessionId key row = true := by
    intro key row
    rw [hrows.mem_iff, List.mem_filter, Table.mem_rows]
  have hmessage : ∀ id row, messageAt tenantId sessionId committed id = some row ↔
      (ChatKey.message id, ChatRow.message row) ∈ rows := by
    intro id row
    rw [hmem, hwrites, Table.lookup_union, lookup_lockTaken, if_neg (by simp), Option.none_or, messageAt_eq_some]
    simp [lookedFor, sessionWithId, messageOf]
  refine ⟨?_, ?_⟩
  · obtain ⟨hfound, hfor⟩ := (hmem sessionKey _).mp hsession
    cases sessionKey with
    | session id =>
        simp only [lookedFor, sessionWithId, messageOf, Bool.or_false, Bool.and_eq_true, beq_iff_eq] at hfor
        obtain ⟨rfl, -⟩ := hfor
        rw [hwrites, Table.lookup_union, lookup_lockTaken, if_neg (by simp), Option.none_or] at hfound
        rw [assigneeIn, hfound]
        exact hunclaimed
    | message _ | lock _ => simp [lookedFor, sessionWithId, messageOf] at hfor
  · have hfor := ((hmem key _).mp hnewest).2
    cases key with
    | message id =>
        refine ⟨id, look.newest, (hmessage id _).mpr hnewest, hvisitor, hstarted, fun other reply hreply hai => ?_⟩
        have hle := hnewer _ _ ((hmessage other reply).mp hreply)
        have hne := hapart (other, reply) (mem_repliesIn.mpr ⟨hreply, hai⟩)
        exact Nat.lt_of_le_of_ne hle hne
    | session _ | lock _ => simp [lookedFor, sessionWithId, messageOf] at hfor

-- A transaction has written no reply in the session, or one, behind the lock and in its turn.
theorem InTurn.written_cases (h : InTurn tenantId sessionId committed txn) :
    NewMessages (fun row => isReply tenantId sessionId row = false) committed txn.writes ∨
      ∃ id row, ChatKey.lock sessionId ∈ txn.writes ∧ txn.writes.lookup (.message id) = some (.message row) ∧
        (∀ other, ChatKey.message other ∈ txn.writes → other = id) ∧ ChatKey.message id ∉ committed ∧
        row.createdAt = txn.startedAt ∧ ItsTurn tenantId sessionId committed txn.startedAt := by
  cases h with
  | other written rest => exact .inl written
  | begun responder reply call written rest => exact .inl (written ▸ .empty _ committed)
  | locked responder reply taken call written rest => exact .inl (written ▸ .lockTaken _ committed taken)
  | looked taken row next written isReply dated rest silent turn =>
      exact .inl (written ▸ .lockTaken _ committed taken)
  | posted id row locked written only new isReply dated silent turn =>
      exact .inr ⟨id, row, locked, written, only, new, dated, turn⟩

-- At no stage is a message written over a committed one.
theorem InTurn.newMessages (h : InTurn tenantId sessionId committed txn) :
    NewMessages (fun _ => True) committed txn.writes := by
  rcases h.written_cases with hnone | ⟨id, row, -, -, honly, hnew, -⟩
  · exact hnone.mono fun _ _ => trivial
  · intro other found hfound
    obtain rfl := honly other (Table.mem_of_lookup hfound)
    exact ⟨hnew, fun _ _ => trivial⟩

variable {conflict : ChatRow → ChatRow → Bool} {world : ChatWorld} {order : ScanOrder (ChatKey × ChatRow)}
  {newId : ChatKey} {after : ChatTxn}

-- One step of the code of a transaction that makes no reply in the session.
theorem InTurn.other_becomes
    (hwritten : NewMessages (fun row => isReply tenantId sessionId row = false) world.committed txn.writes)
    (hrest : txn.prog.Changes (AddsMessage fun row => isReply tenantId sessionId row = false))
    (h : txn.Becomes conflict world order newId after) : InTurn tenantId sessionId world.committed after := by
  obtain ⟨hafter, hsame | hnothing | ⟨key, row, hstep, hmore⟩⟩ := h.changes hrest
  · exact .other (hsame ▸ hwritten) hafter
  · exact .other (hnothing ▸ .empty _ world.committed) hafter
  · exact .other (hmore ▸ hwritten.write hstep) hafter

theorem changes_silent {α : Type} {prog : ChatProg α} (h : prog.Changes KeepsMessages)
    (allowed : ChatMessage → Prop) : prog.Changes (AddsMessage allowed) :=
  h.mono fun _ _ _ hkeeps id hid => absurd hid (hkeeps id)

theorem InTurn.begun_becomes {responder : Nat} {reply : String}
    (hcall : txn.call = ⟨tenantId, .answer responder sessionId reply⟩) (hwritten : txn.writes = ∅)
    (hrest : txn.prog = (answer tenantId sessionId reply txn.startedAt).map .answered)
    (h : txn.Becomes conflict world order newId after) : InTurn tenantId sessionId world.committed after := by
  have hprog : txn.prog = .write (.lock sessionId) (fun old => some (takenAgain old)) fun _ =>
      .select (lookedFor tenantId sessionId) fun rows =>
        (afterLook tenantId sessionId reply txn.startedAt rows).map .answered := hrest
  simp only [Txn.Becomes, hprog] at h
  have htaken : ∀ old, ∃ taken, takenAgain old = .lock taken := by
    intro old
    unfold takenAgain
    split <;> exact ⟨_, rfl⟩
  obtain ⟨taken, hrow⟩ := htaken ((txn.writes ∪ world.committed).lookup (.lock sessionId))
  subst h
  refine .locked responder reply taken hcall ?_ rfl
  rw [hrow, hwritten]
  rfl

-- The answer looks: it is let through in its turn, or has nothing more to do.
theorem InTurn.locked_becomes {reply : String} {taken : Nat} (hwritten : txn.writes = lockTaken sessionId taken)
    (hrest : txn.prog = .select (lookedFor tenantId sessionId) fun rows =>
      (afterLook tenantId sessionId reply txn.startedAt rows).map .answered)
    (h : txn.Becomes conflict world order newId after)
    (hturn : ∀ look, (lookAt (order.apply ((txn.writes ∪ world.committed).rows.filter fun row =>
        lookedFor tenantId sessionId row.1 row.2))).filter Look.allows = some look →
      look.newest.createdAt < txn.startedAt ∧
        ∀ reply ∈ repliesIn tenantId sessionId world.committed, reply.2.createdAt ≠ look.newest.createdAt) :
    InTurn tenantId sessionId world.committed after := by
  simp only [Txn.Becomes, hrest] at h
  have hrows := order.perm ((txn.writes ∪ world.committed).rows.filter fun row =>
    lookedFor tenantId sessionId row.1 row.2)
  revert hturn h hrows
  generalize order.apply _ = rows
  intro hturn h hrows
  subst h
  cases hlook : (lookAt rows).filter Look.allows with
  | none =>
      have hquiet : afterLook tenantId sessionId reply txn.startedAt rows = .ret none := by
        rw [afterLook, hlook]
        rfl
      refine .other (hwritten ▸ .lockTaken _ world.committed taken) ?_
      rw [hquiet]
      trivial
  | some look =>
      obtain ⟨hstarted, hapart⟩ := hturn look hlook
      obtain ⟨row, next, hreply, hdated, hinserts, hsilent⟩ :=
        afterLook_allowed tenantId sessionId reply txn.startedAt hlook
      exact .looked taken row next hwritten hreply hdated hinserts hsilent
        (itsTurn_of_look hwritten hrows hlook hstarted hapart)

-- The answer inserts its reply.
theorem InTurn.looked_becomes {taken : Nat} {row : ChatMessage} {next : InsertResult ChatKey → ChatProg ChatResult}
    (hwritten : txn.writes = lockTaken sessionId taken) (hreply : isReply tenantId sessionId row = true)
    (hdated : row.createdAt = txn.startedAt) (hrest : txn.prog = .insert (.message row) next)
    (hsilent : ∀ result, (next result).Changes KeepsMessages)
    (hturn : ItsTurn tenantId sessionId world.committed txn.startedAt)
    (h : txn.Becomes conflict world order newId after) : InTurn tenantId sessionId world.committed after := by
  simp only [Txn.Becomes, hrest] at h
  obtain ⟨hnew, h⟩ := h
  split at h
  · subst h
    exact .other (.empty _ world.committed) (changes_silent (hsilent _) _)
  · subst h
    cases newId with
    | message id =>
        rw [AList.mem_union, not_or] at hnew
        refine .posted id row ?_ (by simp) (fun other hother => ?_) hnew.2 hreply hdated (hsilent _) hturn
        · rw [hwritten, AList.mem_insert, mem_lockTaken]
          exact .inr rfl
        · rw [AList.mem_insert, hwritten, mem_lockTaken] at hother
          rcases hother with hsame | hlock
          · exact ChatKey.message.inj hsame
          · cases hlock
    | session id =>
        refine .other ?_ (changes_silent (hsilent _) _)
        rw [hwritten]
        exact NewMessages.write (.lockTaken _ world.committed taken) (addsMessage_session id _ _)
    | lock id =>
        refine .other ?_ (changes_silent (hsilent _) _)
        rw [hwritten]
        exact NewMessages.write (.lockTaken _ world.committed taken) (by simp [AddsMessage])

theorem InTurn.posted_becomes {id : Uuid} {row : ChatMessage} (hlocked : ChatKey.lock sessionId ∈ txn.writes)
    (hwritten : txn.writes.lookup (.message id) = some (.message row))
    (honly : ∀ other, ChatKey.message other ∈ txn.writes → other = id)
    (hnew : ChatKey.message id ∉ world.committed)
    (hreply : isReply tenantId sessionId row = true) (hdated : row.createdAt = txn.startedAt)
    (hsilent : txn.prog.Changes KeepsMessages)
    (hturn : ItsTurn tenantId sessionId world.committed txn.startedAt)
    (h : txn.Becomes conflict world order newId after) : InTurn tenantId sessionId world.committed after := by
  have hstarted := h.same.2
  obtain ⟨hafter, hsame | hnothing | ⟨key, added, hstep, hmore⟩⟩ := h.changes hsilent
  · exact .posted id row (hsame ▸ hlocked) (hsame ▸ hwritten) (hsame ▸ honly) hnew hreply (hstarted ▸ hdated) hafter
      (hstarted ▸ hturn)
  · exact .other (hnothing ▸ .empty _ world.committed) (changes_silent hafter _)
  · have hother : ∀ id, ChatKey.message id ≠ key := fun id => (hstep id).symm
    refine .posted id row ?_ ?_ ?_ hnew hreply (hstarted ▸ hdated) hafter (hstarted ▸ hturn)
    · rw [hmore, AList.mem_insert]
      exact .inr hlocked
    · rw [hmore, AList.lookup_insert_ne (hother id), hwritten]
    · intro other hmem
      rw [hmore, AList.mem_insert] at hmem
      exact honly other (hmem.resolve_left (hother other))

-- What the others publish leaves an answer its turn, as long as it is no reply and no claim.
theorem ItsTurn.publish {startedAt : Nat} {writes : ChatTable}
    (h : ItsTurn tenantId sessionId committed startedAt)
    (hwritten : NewMessages (fun row => isReply tenantId sessionId row = false) committed writes)
    (hclaims : claims sessionId committed writes = false) :
    ItsTurn tenantId sessionId (writes ∪ committed) startedAt := by
  obtain ⟨id, visitor, hvisitor, hauthor, hbefore, hlast⟩ := h.turn
  refine ⟨assigneeIn_union (fun row hrow => ?_) h.unclaimed, id, visitor, hwritten.messageAt_kept hvisitor, hauthor,
    hbefore, fun other reply hreply hai => hlast other reply (hwritten.reply_union hreply hai) hai⟩
  rw [claims, h.unclaimed] at hclaims
  simpa [assigneeIn, hrow] using hclaims

theorem InTurn.begun_call (refs : ChatReferences) (call : ChatCall) :
    InTurn tenantId sessionId world.committed ((chatService refs).begun world call) := by
  have hother : ∀ {α : Type} {prog : ChatProg α} (rename : α → ChatResult),
      prog.Changes (AddsMessage fun row => isReply tenantId sessionId row = false) →
      (prog.map rename).Changes (AddsMessage fun row => isReply tenantId sessionId row = false) :=
    fun _ h => h.bind fun _ => trivial
  obtain ⟨callTenant, request⟩ := call
  cases request with
  | createSession dto =>
      exact .other (.empty _ world.committed) (hother .session (changes_createSession refs dto world.clock))
  | addMessage id dto =>
      refine .other (.empty _ world.committed) (hother .message (changes_addMessage refs id dto world.clock ?_))
      intro row hrow
      have hhuman : row.authorType ≠ .ai := by
        rw [hrow]
        cases dto.authorType <;> simp [DtoAuthorType.stored]
      exact Bool.eq_false_iff.mpr fun hreply => hhuman (isReply_eq_true.mp hreply).1
  | closeSession id => exact .other (.empty _ world.committed) (hother .session (changes_closeSession id))
  | loadContext responder id => exact .other (.empty _ world.committed) (hother .context (changes_loadContext id))
  | answer responder id reply =>
      by_cases hours : id = sessionId ∧ callTenant = tenantId
      · obtain ⟨rfl, rfl⟩ := hours
        exact .begun responder reply rfl rfl rfl
      · refine .other (.empty _ world.committed) (hother .answered (changes_answer id reply world.clock ?_))
        intro row hsession htenant
        refine Bool.eq_false_iff.mpr fun hreply => hours ?_
        obtain ⟨-, hsame, htenantSame⟩ := isReply_eq_true.mp hreply
        exact ⟨hsession.symm.trans hsame, htenant.symm.trans htenantSame⟩

-- The replies that are committed stay apart when a transaction publishes one in its turn.
theorem InTurn.apart_publish (h : InTurn tenantId sessionId committed txn)
    (hapart : RepliesApart tenantId sessionId committed) :
    RepliesApart tenantId sessionId (txn.writes ∪ committed) := by
  have hkept : ∀ {id row}, messageAt tenantId sessionId committed id = some row →
      messageAt tenantId sessionId (txn.writes ∪ committed) id = some row :=
    fun hrow => h.newMessages.messageAt_kept hrow
  rcases h.written_cases with hnone | ⟨new, reply, -, hwritten, honly, -, hdated, hturn⟩
  · intro id other first second hfirst hsecond hne hfirstAi hsecondAi hle
    obtain ⟨turn, visitor, hvisitor, hbetween⟩ := hapart id other first second
      (hnone.reply_union hfirst hfirstAi) (hnone.reply_union hsecond hsecondAi) hne hfirstAi hsecondAi hle
    exact ⟨turn, visitor, hkept hvisitor, hbetween⟩
  · obtain ⟨turnId, visitor, hvisitor, hauthor, hbefore, hlast⟩ := hturn.turn
    -- a message of the model is the one published, or dated before the visitor's turn
    have hcases : ∀ id row, messageAt tenantId sessionId (txn.writes ∪ committed) id = some row →
        row.authorType = .ai → (id = new ∧ row.createdAt = txn.startedAt) ∨
          messageAt tenantId sessionId committed id = some row ∧ row.createdAt < visitor.createdAt := by
      intro id row hrow hai
      rcases messageAt_union hrow with hown | hbase
      · obtain ⟨hlookup, -⟩ := messageAt_eq_some.mp hown
        obtain rfl := honly id (Table.mem_of_lookup hlookup)
        obtain rfl := ChatRow.message.inj (Option.some.inj (hlookup.symm.trans hwritten))
        exact .inl ⟨rfl, hdated⟩
      · exact .inr ⟨hbase, hlast id row hbase hai⟩
    intro id other first second hfirst hsecond hne hfirstAi hsecondAi hle
    rcases hcases id first hfirst hfirstAi with ⟨rfl, hfirstAt⟩ | ⟨hfirstOld, hfirstBefore⟩
    · rcases hcases other second hsecond hsecondAi with ⟨rfl, -⟩ | ⟨-, hsecondBefore⟩
      · exact absurd rfl hne
      · omega
    · rcases hcases other second hsecond hsecondAi with ⟨rfl, hsecondAt⟩ | ⟨hsecondOld, -⟩
      · exact ⟨turnId, visitor, hkept hvisitor, hauthor, hfirstBefore, hsecondAt ▸ hbefore⟩
      · obtain ⟨turn, between, hbetween, hrest⟩ :=
          hapart id other first second hfirstOld hsecondOld hne hfirstAi hsecondAi hle
        exact ⟨turn, between, hkept hbetween, hrest⟩

-- Another transaction in flight, as one is committed.
theorem InTurn.publish {other : ChatTxn} (h : InTurn tenantId sessionId committed txn)
    (hother : InTurn tenantId sessionId committed other) (hlocks : ∀ key ∈ other.writes, key ∉ txn.writes)
    (hclaims : isReplying tenantId sessionId other = true → claims sessionId committed txn.writes = false) :
    InTurn tenantId sessionId (txn.writes ∪ committed) other := by
  have hturn : ∀ {startedAt : Nat}, ChatKey.lock sessionId ∈ other.writes →
      isReplying tenantId sessionId other = true → ItsTurn tenantId sessionId committed startedAt →
      ItsTurn tenantId sessionId (txn.writes ∪ committed) startedAt := by
    intro startedAt hlock hreplying hturn
    rcases h.written_cases with hnone | ⟨_, _, hlocked, _⟩
    · exact hturn.publish hnone (hclaims hreplying)
    · exact absurd hlocked (hlocks _ hlock)
  cases hother with
  | other written rest =>
      exact .other (written.stable fun key hkey => Table.lookup_union_of_notMem (hlocks key hkey)) rest
  | begun responder reply call written rest => exact .begun responder reply call written rest
  | locked responder reply taken call written rest => exact .locked responder reply taken call written rest
  | looked taken row next written reply dated rest silent turn =>
      have hlock : ChatKey.lock sessionId ∈ other.writes := written ▸ mem_lockTaken.mpr rfl
      have hreplying : isReplying tenantId sessionId other = true := by
        simp [isReplying, rest, reply]
      exact .looked taken row next written reply dated rest silent (hturn hlock hreplying turn)
  | posted id row locked written only new reply dated silent turn =>
      have hmem : (id, row) ∈ repliesIn tenantId sessionId other.writes := by
        obtain ⟨hai, hof⟩ := isReply_eq_true.mp reply
        exact mem_repliesIn.mpr ⟨messageAt_eq_some.mpr ⟨written, hof⟩, hai⟩
      have hreplying : isReplying tenantId sessionId other = true := by
        rw [isReplying, List.isEmpty_eq_false_iff.mpr (List.ne_nil_of_mem hmem), Bool.not_false, Bool.true_or]
      refine .posted id row locked written only ?_ reply dated silent (hturn locked hreplying turn)
      rw [AList.mem_union, not_or]
      exact ⟨hlocks _ (Table.mem_of_lookup written), new⟩

end Stages

-- What holds of the session at any time, as long as nothing has overtaken a reply.
structure InOrder (db : ChatDb) : Prop where
  unique : UniqueHolds (chatService refs).conflict db
  inFlight : InFlight (fun world txn => InTurn tenantId sessionId world.committed txn) db
  apart : RepliesApart tenantId sessionId db.world.committed

section Runs

variable {refs tenantId sessionId} {db : ChatDb}

theorem turnOvertakes_eq_false {tid : Nat} {order : ScanOrder (ChatKey × ChatRow)} {newId : ChatKey} {txn : ChatTxn}
    {responder : Nat} {reply : String} {next : List (ChatKey × ChatRow) → ChatProg ChatResult}
    (ht : db.active.lookup tid = some txn) (hcall : txn.call = ⟨tenantId, .answer responder sessionId reply⟩)
    (hprog : txn.prog = .select (lookedFor tenantId sessionId) next)
    (h : turnOvertakes tenantId sessionId db (.exec tid order newId) = false) {look : Look}
    (hlook : (lookAt (order.apply ((txn.writes ∪ db.world.committed).rows.filter fun row =>
      lookedFor tenantId sessionId row.1 row.2))).filter Look.allows = some look) :
    look.newest.createdAt < txn.startedAt ∧
      ∀ reply ∈ repliesIn tenantId sessionId db.world.committed, reply.2.createdAt ≠ look.newest.createdAt := by
  simp only [turnOvertakes, ht, hcall, hprog, hlook, Option.any_some, beq_self_eq_true, Bool.true_and,
    Bool.or_eq_false_iff, decide_eq_false_iff_not, Nat.not_le, List.any_eq_false, beq_iff_eq] at h
  exact h

theorem claimOvertakes_eq_false {tid other : Nat} {txn otherTxn : ChatTxn} {value : ChatResult}
    (ht : db.active.lookup tid = some txn) (hp : txn.prog = .ret value) (hne : other ≠ tid)
    (ho : db.active.lookup other = some otherTxn) (hreplying : isReplying tenantId sessionId otherTxn = true)
    (h : claimOvertakes tenantId sessionId db (.commit tid) = false) :
    claims sessionId db.world.committed txn.writes = false := by
  have hany : (db.active.rows.any fun other =>
      decide (other.1 ≠ tid) && isReplying tenantId sessionId other.2) = true :=
    List.any_eq_true.mpr ⟨(other, otherTxn), Table.mem_rows.mpr ho, by simp [hne, hreplying]⟩
  rw [claimOvertakes, ht, Option.any_some, hp, hany] at h
  simpa [Prog.value?] using h

theorem InOrder.inTurn (h : InOrder refs tenantId sessionId db) {tid : Nat} {txn : ChatTxn}
    (ht : db.active.lookup tid = some txn) : InTurn tenantId sessionId db.world.committed txn :=
  h.inFlight tid txn ht

theorem InOrder.locks (h : InOrder refs tenantId sessionId db) {tid other : Nat} {txn otherTxn : ChatTxn}
    (ht : db.active.lookup tid = some txn) (ho : db.active.lookup other = some otherTxn) (hne : other ≠ tid) :
    ∀ key ∈ otherTxn.writes, key ∉ txn.writes := by
  intro key hkey hmem
  obtain ⟨row, hrow⟩ := Option.isSome_iff_exists.mp (AList.lookup_isSome.mpr hkey)
  obtain ⟨own, hown⟩ := Option.isSome_iff_exists.mp (AList.lookup_isSome.mpr hmem)
  exact (h.unique.apart other otherTxn tid txn ho ht hne key row key own hrow hown).1 rfl

theorem InOrder.step (h : InOrder refs tenantId sessionId db) {event : ChatEvent}
    (hcondition : NotOvertaken tenantId sessionId db event) :
    InOrder refs tenantId sessionId (db.step (chatService refs) event) := by
  obtain ⟨hclaim, hturn⟩ := hcondition
  refine ⟨h.unique.step (fun _ _ => rfl) event, h.inFlight.step event ?_ ?_ ?_ fun _ _ hin => hin, ?_⟩
  case refine_1 => exact fun tid call _ => .begun_call refs call
  case refine_2 =>
    rintro tid order newId txn after rfl ht hbecomes
    cases h.inTurn ht with
    | other written rest => exact .other_becomes written rest hbecomes
    | begun responder reply call written rest => exact .begun_becomes call written rest hbecomes
    | locked responder reply taken call written rest =>
        exact .locked_becomes written rest hbecomes fun look hlook => turnOvertakes_eq_false ht call rest hturn hlook
    | looked taken row next written reply dated rest silent turn =>
        exact .looked_becomes written reply dated rest silent turn hbecomes
    | posted id row locked written only new reply dated silent turn =>
        exact .posted_becomes locked written only new reply dated silent turn hbecomes
  case refine_3 =>
    rintro tid txn value other otherTxn rfl ht hp hne ho
    exact (h.inTurn ht).publish (h.inTurn ho) (h.locks ht ho hne) fun hreplying =>
      claimOvertakes_eq_false ht hp hne ho hreplying hclaim
  case refine_4 =>
    by_cases hcommits : RelyGuarantee.Commits db event
    · obtain ⟨tid, txn, value, rfl, ht, hp⟩ := hcommits
      rw [RelyGuarantee.step_commit ht hp]
      exact (h.inTurn ht).apart_publish h.apart
    · rw [(RelyGuarantee.step_of_not_commits (chatService refs) hcommits).1]
      exact h.apart

theorem InOrder.silentOnceClaimed (h : InOrder refs tenantId sessionId db) (event : ChatEvent) :
    SilentOnceClaimed tenantId sessionId db event := by
  cases event with
  | commit tid =>
      intro txn ht value _ hreplies
      rcases (h.inTurn ht).written_cases with hnone | ⟨id, row, -, -, -, -, -, hturn⟩
      · obtain ⟨⟨id, row⟩, hmem⟩ := List.exists_mem_of_ne_nil _ hreplies
        obtain ⟨hrow, hai⟩ := mem_repliesIn.mp hmem
        obtain ⟨hlookup, hof⟩ := messageAt_eq_some.mp hrow
        have hother : isReply tenantId sessionId row = false := (hnone id _ hlookup).2 row rfl
        rw [isReply_eq_true.mpr ⟨hai, hof⟩] at hother
        cases hother
      · exact hturn.unclaimed
  | begin tid call => trivial
  | exec tid order newId => trivial
  | rollback tid => trivial
  | tick elapsed => trivial

end Runs

-- In every run in which no claim overtakes a reply, and no turn of the visitor, the model
-- answers no claimed session, and no two of its messages stand side by side.
theorem ai_talks_over_nobody (committed : ChatTable) (clock : Nat)
    (hstart : RepliesApart tenantId sessionId committed) (events : List ChatEvent)
    (hcondition : Runs.AllSteps (step refs) (NotOvertaken tenantId sessionId)
      (Db.start (World.start committed clock)) events) :
    Runs.AllSteps (step refs) (SilentOnceClaimed tenantId sessionId) (Db.start (World.start committed clock)) events ∧
      Runs.Always (step refs) (fun db => RepliesApart tenantId sessionId db.world.committed)
        (Db.start (World.start committed clock)) events := by
  have hkeep : ∀ db event, InOrder refs tenantId sessionId db → NotOvertaken tenantId sessionId db event →
      InOrder refs tenantId sessionId (step refs db event) := by
    intro db event h hevent
    unfold step
    split
    · exact h.step hevent
    · exact h
  have hinOrder : InOrder refs tenantId sessionId (Db.start (World.start committed clock)) :=
    ⟨.start fun _ _ _ _ _ _ _ => rfl, .start _, hstart⟩
  refine ⟨?_, (Runs.invariant hinOrder hkeep hcondition).mono fun db h => h.apart⟩
  exact Runs.allSteps_of_invariant hinOrder
    (fun db event h hevent => ⟨hkeep db event h hevent, h.silentOnceClaimed event⟩) hcondition

def agentSays (body : String) : ChatCall := ⟨1, .addMessage 1 ⟨.agent, some 7, body⟩⟩

def responderLoads (responder : Nat) : ChatCall := ⟨1, .loadContext responder 1⟩

def responderAnswers (responder : Nat) (reply : String) : ChatCall := ⟨1, .answer responder 1 reply⟩

-- The visitor writes, and a responder loads the context.
def visitorAsks : List ChatEvent :=
  [.tick 1000, .begin 1 (visitorSays "hello"), chatStatement 1 0, chatStatement 1 10, chatStatement 1 0, .commit 1,
    .begin 2 (responderLoads 1), chatStatement 2 0, chatStatement 2 0, .commit 2, .tick 1000]

-- The reply is through before the agent's message.
def answeredThenClaimed : List ChatEvent :=
  visitorAsks ++ [.begin 3 (responderAnswers 1 "Hi!"), chatStatement 3 0, chatStatement 3 0, chatStatement 3 11,
    chatStatement 3 0, .commit 3, .begin 4 (agentSays "I am here"), chatStatement 4 0, chatStatement 4 12,
    chatStatement 4 0, .commit 4]

theorem repliesApart_openChat : RepliesApart 1 1 openChat := by
  intro id other first second hfirst
  obtain ⟨hlookup, -⟩ := messageAt_eq_some.mp hfirst
  rw [openChat, AList.lookup_insert_ne (by simp), AList.lookup_empty] at hlookup
  cases hlookup

theorem answeredThenClaimed_talks_over_nobody :
    Runs.AllSteps (step frontDesk) (SilentOnceClaimed 1 1) (Db.start (World.start openChat 0)) answeredThenClaimed ∧
      Runs.Always (step frontDesk) (fun db => RepliesApart 1 1 db.world.committed)
        (Db.start (World.start openChat 0)) answeredThenClaimed :=
  ai_talks_over_nobody frontDesk 1 1 openChat 0 repliesApart_openChat answeredThenClaimed (by decide +kernel)

-- The agent's claim is committed after the reply has looked at the session and before it is
-- through.
def claimedWithinReply : List ChatEvent :=
  visitorAsks ++ [.begin 4 (agentSays "I am here"), chatStatement 4 0, chatStatement 4 12, chatStatement 4 0,
    .begin 3 (responderAnswers 1 "Hi!"), chatStatement 3 0, chatStatement 3 0, .commit 4, chatStatement 3 11,
    chatStatement 3 0]

-- Two responders begin to answer. The visitor writes again after the first, and the second
-- answers that, dated before it.
def answeredBeforeTurn : List ChatEvent :=
  visitorAsks ++ [.begin 3 (responderLoads 2), chatStatement 3 0, chatStatement 3 0, .commit 3,
    .begin 4 (responderAnswers 1 "Hi!"), .tick 1000, .begin 5 (responderAnswers 2 "Hello!"), chatStatement 4 0,
    chatStatement 4 0, chatStatement 4 11, chatStatement 4 0, .commit 4, .tick 1000,
    .begin 6 (visitorSays "anyone?"), chatStatement 6 0, chatStatement 6 12, chatStatement 6 0, .commit 6,
    chatStatement 5 0, chatStatement 5 0, chatStatement 5 13, chatStatement 5 0, .commit 5]

def replied (createdAt : Nat) (body : String) : ChatMessage := ⟨1, 1, .ai, none, body, createdAt⟩

theorem ai_talks_over_agent_and_itself :
    ¬ Runs.AllSteps (step frontDesk) (SilentOnceClaimed 1 1) (Db.start (World.start openChat 0))
        (claimedWithinReply ++ [.commit 3]) ∧
      ¬ Runs.Always (step frontDesk) (fun db => RepliesApart 1 1 db.world.committed)
        (Db.start (World.start openChat 0)) answeredBeforeTurn := by
  constructor
  · decide +kernel
  · intro h
    obtain ⟨turn, visitor, hvisitor, -, hafter, hbefore⟩ := h.last 11 13
      (replied 2000 "Hi!") (replied 3000 "Hello!")
      (by decide +kernel) (by decide +kernel) (by decide) rfl rfl (by decide)
    obtain ⟨hlookup, -⟩ := messageAt_eq_some.mp hvisitor
    have hmem := mem_filterMap_messageEntry.mpr (Table.mem_rows.mpr hlookup)
    have hnone : ∀ entry ∈ (Runs.run (step frontDesk) (Db.start (World.start openChat 0))
        answeredBeforeTurn).world.committed.rows.filterMap messageEntry,
        ¬ (2000 < entry.2.createdAt ∧ entry.2.createdAt < 3000) := by decide +kernel
    exact hnone _ hmem ⟨hafter, hbefore⟩

end CloudOps.Ticketing.Chat
