import CloudOps.Ticketing.ChatMessages

namespace CloudOps.Ticketing.Chat

open CloudOps.ReadCommitted

-- A timestamp in JSON: whole milliseconds.
def isoMillis (createdAt : Nat) : Nat := createdAt / 1000

def isNewer (since : Option Nat) : ChatRow → Bool
  | .message row => since.all fun since => decide (since * 1000 < row.createdAt)
  | .session _ | .lock _ => true

-- ORDER BY created_at ASC
def oldestFirst (rows : List (ChatKey × ChatRow)) : List (Uuid × ChatMessage) :=
  (rows.filterMap messageEntry).insertionSort fun first second => first.2.createdAt ≤ second.2.createdAt

variable (refs : ChatReferences) (tenantId sessionId : Uuid)

-- ChatService.listMessages, on the rows that are committed when its one SELECT runs.
def listMessages (order : ScanOrder (ChatKey × ChatRow)) (table : ChatTable) (since : Option Nat) :
    List (Uuid × ChatMessage) :=
  oldestFirst (order.apply (table.rows.filter fun row =>
    messageOf tenantId sessionId row.1 row.2 && isNewer since row.2))

-- A client of one session beside all that writes to it, and what it has received so far.
structure Poller where
  db : ChatDb
  received : List (Uuid × ChatMessage)

inductive PollEvent where
  | chat (event : ChatEvent)
  | poll (order : ScanOrder (ChatKey × ChatRow))

namespace Poller

def since (poller : Poller) : Option Nat := poller.received.getLast?.map fun last => isoMillis last.2.createdAt

def step (poller : Poller) : PollEvent → Poller
  | .chat event => { poller with db := Chat.step refs poller.db event }
  | .poll order =>
      { poller with received := poller.received ++
          listMessages tenantId sessionId order poller.db.world.committed poller.since }

def start (world : ChatWorld) : Poller := ⟨Db.start world, []⟩

-- Every committed message of the session has come once.
def EachOnce (poller : Poller) : Prop :=
  ∀ id row, messageAt tenantId sessionId poller.db.world.committed id = some row →
    poller.received.count (id, row) = 1

def OnceAfterPoll (poller : Poller) : PollEvent → Prop
  | .poll order => EachOnce tenantId sessionId (poller.step refs tenantId sessionId (.poll order))
  | .chat _ => True

-- The last message received is dated a whole millisecond, and before every message that is
-- committed but not received yet.
def UpToDate (poller : Poller) : Prop :=
  ∀ last ∈ poller.received.getLast?, last.2.createdAt % 1000 = 0 ∧
    ∀ id row, messageAt tenantId sessionId poller.db.world.committed id = some row →
      (id, row) ∉ poller.received → last.2.createdAt < row.createdAt

def PollsUpToDate (poller : Poller) : PollEvent → Prop
  | .poll _ => poller.UpToDate tenantId sessionId
  | .chat _ => True

end Poller

section ListMessages

variable {tenantId sessionId : Uuid} {order : ScanOrder (ChatKey × ChatRow)} {table : ChatTable} {since : Option Nat}

theorem mem_oldestFirst {rows : List (ChatKey × ChatRow)} {id : Uuid} {row : ChatMessage} :
    (id, row) ∈ oldestFirst rows ↔ (ChatKey.message id, ChatRow.message row) ∈ rows := by
  rw [oldestFirst, List.mem_insertionSort, mem_filterMap_messageEntry]

theorem mem_listMessages {id : Uuid} {row : ChatMessage} :
    (id, row) ∈ listMessages tenantId sessionId order table since ↔
      messageAt tenantId sessionId table id = some row ∧ ∀ millis ∈ since, millis * 1000 < row.createdAt := by
  rw [listMessages, mem_oldestFirst, (order.perm _).mem_iff, List.mem_filter, Table.mem_rows, messageAt_eq_some]
  simp only [messageOf, isNewer, Bool.and_eq_true, beq_iff_eq, Option.all_eq_true, decide_eq_true_eq,
    Option.mem_def, and_assoc]

theorem nodup_listMessages : (listMessages tenantId sessionId order table since).Nodup := by
  have hrows : table.rows.Nodup := List.Nodup.of_map Prod.fst table.nodup_rows_ids
  have hinjective : ∀ first second entry, entry ∈ messageEntry first → entry ∈ messageEntry second →
      first = second := by
    rintro ⟨key, row⟩ ⟨other, otherRow⟩ ⟨id, message⟩ hfirst hsecond
    cases key <;> cases row <;> cases other <;> cases otherRow <;> simp_all [messageEntry]
  refine (List.perm_insertionSort _ _).nodup_iff.mpr (List.Nodup.filterMap hinjective ?_)
  exact (order.perm _).nodup_iff.mpr (hrows.filter _)

theorem pairwise_listMessages : (listMessages tenantId sessionId order table since).Pairwise
    fun first second => first.2.createdAt ≤ second.2.createdAt :=
  pairwise_ascending (fun entry : Uuid × ChatMessage => entry.2.createdAt) _

end ListMessages

def MessagesKept (before after : ChatWorld) : Prop :=
  ∀ id row, before.committed.lookup (.message id) = some row → after.committed.lookup (.message id) = some row

def messageStages : Stages MessagesKept (fun _ => True) Unit where
  holds _ world writes := NewMessages (fun _ => True) world.committed writes
  refl _ _ _ h := h
  stable h hi := h.stable hi.2.2

theorem wp_messages (call : ChatCall) (world : ChatWorld) :
    ((chatService refs).body call world.clock).wp MessagesKept (fun _ => True)
      (fun world writes _ => NewMessages (fun _ => True) world.committed writes) ∅ world := by
  have hgoes : ∀ {α : Type} {prog : ChatProg α}, prog.Changes (AddsMessage fun _ => True) →
      messageStages.Goes () prog fun _ _ => True := by
    intro α prog h
    have hstage : messageStages.Goes () prog fun _ after => after = () :=
      .of_changes h (fun world _ _ => .empty _ world.committed) fun _ _ _ _ hholds hstep => hholds.write hstep
    exact hstage.mono fun _ _ _ => trivial
  have hbody : messageStages.Goes () ((chatService refs).body call world.clock) fun _ _ => True := by
    obtain ⟨tenantId, request⟩ := call
    cases request with
    | createSession dto => exact (hgoes (changes_createSession refs dto _)).map
    | addMessage sessionId dto =>
        exact (hgoes (changes_addMessage refs sessionId dto _ fun _ _ => trivial)).map
    | closeSession id => exact (hgoes (changes_closeSession id)).map
    | loadContext responder sessionId => exact (hgoes (changes_loadContext sessionId)).map
    | answer responder sessionId reply =>
        exact (hgoes (changes_answer sessionId reply _ fun _ _ _ => trivial)).map
  exact (hbody world ∅ (.empty _ world.committed)).mono fun _ _ _ _ ⟨_, _, hholds⟩ => hholds

-- Messages are only ever added.
def messages : RelyGuarantee (chatService refs) where
  rely := MessagesKept
  inv _ := True
  post _ _ _ world writes _ := NewMessages (fun _ => True) world.committed writes
  condition _ _ _ _ := True
  refl _ _ _ h := h
  trans _ _ _ hfirst hsecond id row h := hsecond id row (hfirst id row h)
  tick _ _ _ := ⟨trivial, fun _ _ h => h⟩
  body call world _ := wp_messages refs call world
  commit _ _ _ _ _ _ _ hnew _ := ⟨trivial, fun _ _ h => hnew.lookup_message h⟩

theorem holds_step {db : ChatDb} (h : (messages refs).Holds db) (event : ChatEvent) :
    (messages refs).Holds (step refs db event) ∧ MessagesKept db.world (step refs db event).world := by
  unfold step
  split
  · exact h.step (.trivial db event)
  · exact ⟨h, (messages refs).refl db.world⟩

namespace Poller

-- What the client has received, as long as each poll was up to date: messages of the
-- session that are committed, each once, in the order of their dates.
structure Received (poller : Poller) : Prop where
  holds : (messages refs).Holds poller.db
  committed : ∀ entry ∈ poller.received,
    messageAt tenantId sessionId poller.db.world.committed entry.1 = some entry.2
  nodup : poller.received.Nodup
  sorted : poller.received.Pairwise fun first second => first.2.createdAt ≤ second.2.createdAt

variable {refs tenantId sessionId} {poller : Poller}

theorem Received.le_last (h : poller.Received refs tenantId sessionId) {last entry : Uuid × ChatMessage}
    (hlast : last ∈ poller.received.getLast?) (hentry : entry ∈ poller.received) :
    entry.2.createdAt ≤ last.2.createdAt := by
  obtain ⟨before, hbefore⟩ := List.getLast?_eq_some_iff.mp hlast
  have hsorted := h.sorted
  rw [hbefore] at hsorted hentry
  rcases List.mem_append.mp hentry with hmem | hmem
  · exact (List.pairwise_append.mp hsorted).2.2 entry hmem last (List.mem_singleton_self last)
  · obtain rfl := List.mem_singleton.mp hmem
    exact Nat.le_refl _

theorem mem_since {millis : Nat} :
    millis ∈ poller.since ↔ ∃ last ∈ poller.received.getLast?, isoMillis last.2.createdAt = millis :=
  Option.map_eq_some_iff

theorem isoMillis_mul {createdAt : Nat} (h : createdAt % 1000 = 0) : isoMillis createdAt * 1000 = createdAt := by
  unfold isoMillis
  omega

-- What comes with a poll that is up to date comes after all that came before.
theorem Received.lt_of_mem_listMessages (h : poller.Received refs tenantId sessionId)
    (hcurrent : poller.UpToDate tenantId sessionId) {order : ScanOrder (ChatKey × ChatRow)}
    {entry new : Uuid × ChatMessage} (hentry : entry ∈ poller.received)
    (hnew : new ∈ listMessages tenantId sessionId order poller.db.world.committed poller.since) :
    entry.2.createdAt < new.2.createdAt := by
  have hlast := List.getLast?_eq_some_getLast (List.ne_nil_of_mem hentry)
  generalize poller.received.getLast _ = last at hlast
  have hnewer := (mem_listMessages.mp hnew).2 _ (mem_since.mpr ⟨last, hlast, rfl⟩)
  rw [isoMillis_mul (hcurrent last hlast).1] at hnewer
  exact Nat.lt_of_le_of_lt (h.le_last hlast hentry) hnewer

-- A poll leaves each message with the client once exactly if it was up to date.
theorem Received.eachOnce_poll_iff (h : poller.Received refs tenantId sessionId)
    (order : ScanOrder (ChatKey × ChatRow)) :
    EachOnce tenantId sessionId (poller.step refs tenantId sessionId (.poll order)) ↔
      poller.UpToDate tenantId sessionId := by
  have hcount : ∀ entry, (poller.step refs tenantId sessionId (.poll order)).received.count entry =
      poller.received.count entry +
        (listMessages tenantId sessionId order poller.db.world.committed poller.since).count entry :=
    fun entry => List.count_append
  constructor
  · intro honce last hlast
    have hmem := List.mem_of_getLast? hlast
    have hwhole : last.2.createdAt % 1000 = 0 := by
      by_contra hpart
      have hagain : last ∈ listMessages tenantId sessionId order poller.db.world.committed poller.since := by
        refine mem_listMessages.mpr ⟨h.committed last hmem, fun millis hmillis => ?_⟩
        obtain ⟨other, hother, rfl⟩ := mem_since.mp hmillis
        obtain rfl := Option.some.inj (hlast.symm.trans hother)
        unfold isoMillis
        omega
      have hlastOnce : (poller.step refs tenantId sessionId (.poll order)).received.count last = 1 :=
        honce last.1 last.2 (h.committed last hmem)
      rw [hcount] at hlastOnce
      have hbefore := List.count_pos_iff.mpr hmem
      have hafter := List.count_pos_iff.mpr hagain
      omega
    refine ⟨hwhole, fun id row hrow hmissing => ?_⟩
    have hrowOnce := honce id row hrow
    rw [hcount, List.count_eq_zero.mpr hmissing, Nat.zero_add] at hrowOnce
    have hcomes := List.count_pos_iff.mp (hrowOnce ▸ Nat.one_pos)
    have hnewer := (mem_listMessages.mp hcomes).2 _ (mem_since.mpr ⟨last, hlast, rfl⟩)
    rwa [isoMillis_mul hwhole] at hnewer
  · intro hcurrent id row hrow
    rw [hcount]
    by_cases hmem : (id, row) ∈ poller.received
    · have hgone : (id, row) ∉ listMessages tenantId sessionId order poller.db.world.committed poller.since :=
        fun hagain => Nat.lt_irrefl _ (h.lt_of_mem_listMessages hcurrent hmem hagain)
      rw [List.count_eq_one_of_mem h.nodup hmem, List.count_eq_zero.mpr hgone]
    · have hcomes : (id, row) ∈ listMessages tenantId sessionId order poller.db.world.committed poller.since := by
        refine mem_listMessages.mpr ⟨hrow, fun millis hmillis => ?_⟩
        obtain ⟨last, hlast, rfl⟩ := mem_since.mp hmillis
        rw [isoMillis_mul (hcurrent last hlast).1]
        exact (hcurrent last hlast).2 id row hrow hmem
      rw [List.count_eq_zero.mpr hmem, List.count_eq_one_of_mem nodup_listMessages hcomes]

theorem Received.step (h : poller.Received refs tenantId sessionId) {event : PollEvent}
    (hcondition : poller.PollsUpToDate tenantId sessionId event) :
    (poller.step refs tenantId sessionId event).Received refs tenantId sessionId := by
  cases event with
  | chat event =>
      obtain ⟨hholds, hkept⟩ := holds_step refs h.holds event
      refine ⟨hholds, fun entry hentry => ?_, h.nodup, h.sorted⟩
      obtain ⟨hrow, hof⟩ := messageAt_eq_some.mp (h.committed entry hentry)
      exact messageAt_eq_some.mpr ⟨hkept _ _ hrow, hof⟩
  | poll order =>
      have hlater : ∀ entry ∈ poller.received, ∀ new ∈ listMessages tenantId sessionId order
          poller.db.world.committed poller.since, entry.2.createdAt < new.2.createdAt :=
        fun _ hentry _ hnew => h.lt_of_mem_listMessages hcondition hentry hnew
      refine ⟨h.holds, fun entry hentry => ?_, ?_, ?_⟩
      · rcases List.mem_append.mp hentry with hmem | hmem
        · exact h.committed entry hmem
        · exact (mem_listMessages.mp hmem).1
      · refine List.nodup_append.mpr ⟨h.nodup, nodup_listMessages, ?_⟩
        rintro entry hentry new hnew rfl
        exact Nat.lt_irrefl _ (hlater entry hentry entry hnew)
      · refine List.pairwise_append.mpr ⟨h.sorted, pairwise_listMessages, ?_⟩
        exact fun entry hentry new hnew => Nat.le_of_lt (hlater entry hentry new hnew)

end Poller

-- Each poll leaves the client with every committed message of the session once, in
-- exactly the runs in which each poll is made up to date.
theorem polled_once_iff (refs : ChatReferences) (tenantId sessionId : Uuid) (committed : ChatTable) (clock : Nat)
    (events : List PollEvent) :
    Runs.AllSteps (Poller.step refs tenantId sessionId) (Poller.OnceAfterPoll refs tenantId sessionId)
        (.start (World.start committed clock)) events ↔
      Runs.AllSteps (Poller.step refs tenantId sessionId) (Poller.PollsUpToDate tenantId sessionId)
        (.start (World.start committed clock)) events := by
  have hstart : (Poller.start (World.start committed clock)).Received refs tenantId sessionId :=
    ⟨.start trivial, by simp [Poller.start], List.nodup_nil, List.Pairwise.nil⟩
  refine Runs.allSteps_iff_allSteps events hstart (fun _ _ h hcondition => h.step hcondition) ?_
  intro poller event h
  cases event with
  | chat event => exact Iff.rfl
  | poll order => exact h.eachOnce_poll_iff order

def sent (createdAt : Nat) (body : String) : ChatMessage := ⟨1, 1, .visitor, none, body, createdAt⟩

-- The first message is begun before the second and committed after it, with a poll between.
def lateCommit : List PollEvent :=
  [.chat (.begin 1 (visitorSays "hello")), .chat (.tick 1000), .chat (.begin 2 (visitorSays "anyone?")),
    .chat (chatStatement 2 0), .chat (chatStatement 2 20), .chat (chatStatement 2 0), .chat (.commit 2),
    .poll (.stored _), .chat (chatStatement 1 0), .chat (chatStatement 1 10), .chat (chatStatement 1 0),
    .chat (.commit 1)]

-- One message, dated half a millisecond after a whole one, and a poll.
def betweenMillis : List PollEvent :=
  [.chat (.tick 500), .chat (.begin 1 (visitorSays "hello")), .chat (chatStatement 1 0),
    .chat (chatStatement 1 10), .chat (chatStatement 1 0), .chat (.commit 1), .poll (.stored _)]

-- The next poll misses the late message, and brings the other one again.
theorem polls_lose_and_repeat :
    ¬ Runs.AllSteps (Poller.step frontDesk 1 1) (Poller.OnceAfterPoll frontDesk 1 1)
        (.start (World.start openChat 1000)) (lateCommit ++ [.poll (.stored _)]) ∧
      ¬ Runs.AllSteps (Poller.step frontDesk 1 1) (Poller.OnceAfterPoll frontDesk 1 1)
        (.start (World.start openChat 1000)) (betweenMillis ++ [.poll (.stored _)]) := by
  constructor
  · intro h
    have hlate := (Runs.allSteps_append.mp h).2.1 10 (sent 1000 "hello") (by decide +kernel)
    revert hlate
    decide +kernel
  · intro h
    have hagain := (Runs.allSteps_append.mp h).2.1 10 (sent 1500 "hello") (by decide +kernel)
    revert hagain
    decide +kernel

end CloudOps.Ticketing.Chat
