import CloudOps.ReadCommitted.Table
import CloudOps.Runs

namespace CloudOps.Monitoring.Network

open CloudOps.Runs

inductive OperStatus where
  | up
  | down
  | unknown
  deriving DecidableEq

def OPER_STATUS_UP : Int := 1
def OPER_STATUS_DOWN : Int := 2

-- A row of the ifTable, with the columns the client reads; 3 is testing.
structure IfTableEntry where
  ifIndex : Nat
  ifDescr : Option String
  ifOperStatus : Int
  ifInOctets : Option Nat
  ifOutOctets : Option Nat

structure SnmpInterfaceReading where
  ifIndex : Nat
  ifName : String
  operStatus : OperStatus
  inOctets : Nat
  outOctets : Nat

-- NetSnmpClient.walkInterfaces, of one row.
def IfTableEntry.reading (entry : IfTableEntry) : SnmpInterfaceReading where
  ifIndex := entry.ifIndex
  ifName := entry.ifDescr.getD s!"if{entry.ifIndex}"
  operStatus :=
    if entry.ifOperStatus = OPER_STATUS_UP then .up
    else if entry.ifOperStatus = OPER_STATUS_DOWN then .down
    else .unknown
  inOctets := entry.ifInOctets.getD 0
  outOctets := entry.ifOutOctets.getD 0

structure NetworkDevice where
  id : Nat
  name : String
  host : String

-- A device and an ifIndex of it.
abbrev Interface := Nat × Nat

-- A row of network_interface_samples.
structure InterfaceSample where
  interface : Interface
  ifName : String
  operStatus : OperStatus
  inOctets : Nat
  outOctets : Nat
  ts : Nat

-- A ticket that /internal/tickets/from_alert has opened, and the interface it is about.
structure InterfaceTicket where
  interface : Interface
  subject : String
  description : String
  priority : String

structure NetworkStore where
  samples : List InterfaceSample
  tickets : List InterfaceTicket
  clock : Nat

def NetworkStore.empty : NetworkStore := ⟨[], [], 0⟩

-- An interface is read so long after the last reading, and a call made for it would
-- succeed or fail.
structure Poll where
  device : NetworkDevice
  entry : IfTableEntry
  elapsed : Nat
  callSucceeds : Bool

def Poll.interface (poll : Poll) : Interface := (poll.device.id, poll.entry.ifIndex)

def Poll.operStatus (poll : Poll) : OperStatus := poll.entry.reading.operStatus

-- SELECT oper_status .. ORDER BY ts DESC LIMIT 1
def previousStatus (store : NetworkStore) (interface : Interface) : Option OperStatus :=
  ((store.samples.filter fun sample => sample.interface = interface).insertionSort fun first second =>
    second.ts ≤ first.ts).head?.map InterfaceSample.operStatus

def insertSample (store : NetworkStore) (poll : Poll) : NetworkStore :=
  let reading := poll.entry.reading
  let now := store.clock + poll.elapsed + 1
  { store with
    clock := now
    samples :=
      { interface := poll.interface
        ifName := reading.ifName
        operStatus := reading.operStatus
        inOctets := reading.inOctets
        outOctets := reading.outOctets
        ts := now } :: store.samples }

-- A call that fails is logged.
def openInterfaceDownTicket (store : NetworkStore) (poll : Poll) : NetworkStore :=
  let reading := poll.entry.reading
  if poll.callSucceeds then
    { store with tickets := store.tickets ++ [
      { interface := poll.interface
        subject := s!"[Network] {poll.device.name}: interface {reading.ifName} is down"
        description := s!"Interface {reading.ifName} (ifIndex {reading.ifIndex}) on {poll.device.name} "
          ++ s!"({poll.device.host}) transitioned from up to down."
        priority := "high" }] }
  else store

-- The call is made.
def calls (store : NetworkStore) (poll : Poll) : Bool :=
  previousStatus store poll.interface = some .up && poll.operStatus = .down

-- NetworkPollerService.recordReading
def recordReading (store : NetworkStore) (poll : Poll) : NetworkStore :=
  let stored := insertSample store poll
  if calls store poll then openInterfaceDownTicket stored poll else stored

-- NetworkPollerService.pollDevice, of the rows a walk returns.
def pollDevice (store : NetworkStore) (device : NetworkDevice) (rows : List (IfTableEntry × Nat × Bool)) :
    NetworkStore :=
  rows.foldl (fun store row => recordReading store ⟨device, row.1, row.2.1, row.2.2⟩) store

def afterPolls (polls : List Poll) : NetworkStore := run recordReading .empty polls

theorem pollDevice_eq (store : NetworkStore) (device : NetworkDevice) (rows : List (IfTableEntry × Nat × Bool)) :
    pollDevice store device rows =
      run recordReading store (rows.map fun row => ⟨device, row.1, row.2.1, row.2.2⟩) := by
  rw [run, List.foldl_map]
  rfl

section Samples

variable {store : NetworkStore} {poll : Poll} {interface : Interface}

-- The samples are stored the latest first.
structure Ordered (store : NetworkStore) : Prop where
  sorted : store.samples.Pairwise fun first second => second.ts ≤ first.ts
  past : ∀ sample ∈ store.samples, sample.ts ≤ store.clock

@[simp] theorem samples_recordReading : (recordReading store poll).samples = (insertSample store poll).samples := by
  unfold recordReading openInterfaceDownTicket
  dsimp only
  split_ifs <;> rfl

@[simp] theorem clock_recordReading : (recordReading store poll).clock = store.clock + poll.elapsed + 1 := by
  unfold recordReading openInterfaceDownTicket insertSample
  dsimp only
  split_ifs <;> rfl

theorem ordered_empty : Ordered .empty where
  sorted := .nil
  past _ h := nomatch h

theorem recordReading_ordered (store : NetworkStore) (poll : Poll) (h : Ordered store) :
    Ordered (recordReading store poll) where
  sorted := by
    rw [samples_recordReading]
    refine List.pairwise_cons.mpr ⟨fun sample hsample => ?_, h.sorted⟩
    have hpast := h.past sample hsample
    dsimp only
    omega
  past := by
    rw [samples_recordReading, clock_recordReading]
    refine List.forall_mem_cons.mpr ⟨Nat.le_refl _, fun sample hsample => ?_⟩
    have hpast := h.past sample hsample
    omega

theorem previousStatus_eq_find? (h : Ordered store) :
    previousStatus store interface =
      (store.samples.find? fun sample => sample.interface = interface).map InterfaceSample.operStatus := by
  have hsorted := h.sorted.filter fun sample => decide (sample.interface = interface)
  rw [previousStatus, hsorted.insertionSort_eq, List.head?_filter]

-- What the next reading of an interface finds is what this one stores.
theorem previousStatus_recordReading (h : Ordered store) :
    previousStatus (recordReading store poll) interface =
      if poll.interface = interface then some poll.operStatus else previousStatus store interface := by
  rw [previousStatus_eq_find? h, previousStatus_eq_find? (recordReading_ordered store poll h), samples_recordReading]
  by_cases hsame : poll.interface = interface
  · simp [insertSample, hsame, Poll.operStatus]
  · simp [insertSample, hsame]

end Samples

section Stretches

variable {interface : Interface} {before stretch after : List Poll}

-- The status the last of the polls has read of the interface.
def lastStatus (interface : Interface) (polls : List Poll) : Option OperStatus :=
  (polls.filter fun poll => poll.interface = interface).getLast?.map Poll.operStatus

def ticketsOf (interface : Interface) (store : NetworkStore) : Nat :=
  (store.tickets.filter fun ticket => ticket.interface = interface).length

-- A maximal stretch of the polls after one that has read up, in which none does.
structure Outage (interface : Interface) (before stretch after : List Poll) : Prop where
  begins : ∃ first rest, stretch = first :: rest ∧ first.interface = interface
  afterUp : lastStatus interface before = some .up
  notUp : ∀ poll ∈ stretch, poll.interface = interface → poll.operStatus ≠ .up
  ended : after = [] ∨ ∃ next rest, after = next :: rest ∧ next.interface = interface ∧ next.operStatus = .up

-- It is down at some poll at which a call would succeed.
def Reportable (interface : Interface) (stretch : List Poll) : Prop :=
  ∃ poll ∈ stretch, poll.interface = interface ∧ poll.operStatus = .down ∧ poll.callSucceeds = true

-- While the interface is down a call is made at each poll until a ticket is there, and there
-- is at most one.
structure Reported (interface : Interface) (before stretch : List Poll) : Prop where
  called : ∀ earlier poll later, stretch = earlier ++ poll :: later → poll.interface = interface →
    poll.operStatus = .down → calls (afterPolls (before ++ earlier)) poll = true ∨
      ticketsOf interface (afterPolls before) < ticketsOf interface (afterPolls (before ++ earlier))
  atMostOne : ticketsOf interface (afterPolls (before ++ stretch)) ≤ ticketsOf interface (afterPolls before) + 1

def FirstCallSucceeds (stretch : List Poll) : Prop :=
  ∃ first rest, stretch = first :: rest ∧ first.operStatus = .down ∧ first.callSucceeds = true

theorem afterPolls_ordered (polls : List Poll) : Ordered (afterPolls polls) :=
  (always_of_step Ordered ordered_empty recordReading_ordered polls).last

theorem afterPolls_concat (polls : List Poll) (poll : Poll) :
    afterPolls (polls ++ [poll]) = recordReading (afterPolls polls) poll := run_append _ _ _

theorem previousStatus_afterPolls (interface : Interface) (polls : List Poll) :
    previousStatus (afterPolls polls) interface = lastStatus interface polls := by
  induction polls using List.reverseRecOn with
  | nil => rfl
  | append_singleton polls poll ih =>
      rw [afterPolls_concat, previousStatus_recordReading (afterPolls_ordered polls), ih]
      unfold lastStatus
      by_cases hsame : poll.interface = interface
      · simp [hsame]
      · simp [hsame]

theorem calls_afterPolls {polls : List Poll} {poll : Poll} :
    calls (afterPolls polls) poll = true ↔ lastStatus poll.interface polls = some .up ∧ poll.operStatus = .down := by
  simp [calls, previousStatus_afterPolls]

theorem ticketsOf_concat (polls : List Poll) (poll : Poll) :
    ticketsOf interface (afterPolls (polls ++ [poll])) = ticketsOf interface (afterPolls polls) +
      if poll.interface = interface ∧ calls (afterPolls polls) poll = true ∧ poll.callSucceeds = true
        then 1 else 0 := by
  rw [afterPolls_concat]
  unfold recordReading openInterfaceDownTicket insertSample ticketsOf
  dsimp only
  cases calls (afterPolls polls) poll with
  | false => simp
  | true =>
      cases poll.callSucceeds with
      | false => simp
      | true => by_cases hsame : poll.interface = interface <;> simp [hsame]

-- After the first poll of a stretch the last status is never up again.
theorem lastStatus_within (h : Outage interface before stretch after) {first : Poll} {earlier later : List Poll}
    (hstretch : stretch = first :: earlier ++ later) (hfirst : first.interface = interface) :
    lastStatus interface (before ++ (first :: earlier)) ≠ some .up := by
  intro hup
  obtain ⟨last, hlast, hstatus⟩ := Option.map_eq_some_iff.mp hup
  rw [List.filter_append, List.getLast?_append] at hlast
  have hsome : ((first :: earlier).filter fun poll => poll.interface = interface).getLast?.isSome = true := by
    simp [hfirst]
  obtain ⟨found, hfound⟩ := Option.isSome_iff_exists.mp hsome
  rw [hfound, Option.some_or] at hlast
  obtain rfl := Option.some.inj hlast
  obtain ⟨hmem, hof⟩ := List.mem_filter.mp (List.mem_of_getLast? hfound)
  refine h.notUp found ?_ (of_decide_eq_true hof) hstatus
  rw [hstretch]
  exact List.mem_append_left _ hmem

theorem not_calls_within (h : Outage interface before stretch after) {first poll : Poll} {earlier later : List Poll}
    (hstretch : stretch = first :: earlier ++ poll :: later) (hfirst : first.interface = interface)
    (hpoll : poll.interface = interface) : ¬ calls (afterPolls (before ++ (first :: earlier))) poll = true := by
  rw [calls_afterPolls, hpoll]
  exact fun hcalls => lastStatus_within h hstretch hfirst hcalls.1

-- So no ticket comes after the first poll's.
theorem ticketsOf_within (h : Outage interface before stretch after) {first : Poll} {earlier later : List Poll}
    (hstretch : stretch = first :: earlier ++ later) (hfirst : first.interface = interface) :
    ticketsOf interface (afterPolls (before ++ (first :: earlier))) =
      ticketsOf interface (afterPolls (before ++ [first])) := by
  induction earlier using List.reverseRecOn generalizing later with
  | nil => rfl
  | append_singleton earlier poll ih =>
      have hsplit : stretch = first :: earlier ++ poll :: later := by rw [hstretch]; simp
      rw [← List.cons_append, ← List.append_assoc, ticketsOf_concat, ih hsplit, if_neg, Nat.add_zero]
      rintro ⟨hpoll, hcalls, -⟩
      exact not_calls_within h hsplit hfirst hpoll hcalls

theorem ticketsOf_first (h : Outage interface before stretch after) {first : Poll}
    (hfirst : first.interface = interface) :
    ticketsOf interface (afterPolls (before ++ [first])) = ticketsOf interface (afterPolls before) +
      if first.operStatus = .down ∧ first.callSucceeds = true then 1 else 0 := by
  have hcalls : calls (afterPolls before) first = true ↔ first.operStatus = .down := by
    rw [calls_afterPolls, hfirst, and_iff_right h.afterUp]
  rw [ticketsOf_concat]
  simp only [hfirst, true_and, hcalls]

theorem reported_of_first (h : Outage interface before stretch after) (hfirst : FirstCallSucceeds stretch) :
    Reported interface before stretch := by
  obtain ⟨first, rest, rfl, hof⟩ := h.begins
  obtain ⟨_, _, hsame, hdown, hsucceeds⟩ := hfirst
  obtain ⟨rfl, rfl⟩ := List.cons.inj hsame
  have hopened := ticketsOf_first h hof
  rw [if_pos ⟨hdown, hsucceeds⟩] at hopened
  constructor
  · intro earlier poll later hsplit hpoll hstatus
    cases earlier with
    | nil =>
        obtain ⟨rfl, rfl⟩ := List.cons.inj hsplit
        left
        rw [List.append_nil, calls_afterPolls, hof]
        exact ⟨h.afterUp, hdown⟩
    | cons head earlier =>
        obtain ⟨rfl, hrest⟩ := List.cons.inj hsplit
        right
        rw [ticketsOf_within h hsplit hof, hopened]
        exact Nat.lt_succ_self _
  · rw [ticketsOf_within h (List.append_nil _).symm hof, hopened]

theorem first_of_reported (h : Outage interface before stretch after) (hreportable : Reportable interface stretch)
    (hreported : Reported interface before stretch) : FirstCallSucceeds stretch := by
  obtain ⟨first, rest, rfl, hof⟩ := h.begins
  obtain ⟨poll, hmem, hpoll, hdown, hsucceeds⟩ := hreportable
  by_contra hnot
  -- no ticket is opened at the first poll, and no call is made later
  have hopened := ticketsOf_first h hof
  rw [if_neg fun hfirst => hnot ⟨first, rest, rfl, hfirst⟩, Nat.add_zero] at hopened
  rcases List.mem_cons.mp hmem with rfl | hrest
  · exact hnot ⟨poll, rest, rfl, hdown, hsucceeds⟩
  · obtain ⟨earlier, later, rfl⟩ := List.append_of_mem hrest
    rcases hreported.called (first :: earlier) poll later rfl hpoll hdown with hcalls | hless
    · exact not_calls_within h rfl hof hpoll hcalls
    · have hsplit : first :: (earlier ++ poll :: later) = first :: earlier ++ poll :: later := rfl
      rw [ticketsOf_within h hsplit hof, hopened] at hless
      exact lt_irrefl _ hless

theorem outage_reported_iff (interface : Interface) (before stretch after : List Poll)
    (h : Outage interface before stretch after) (hreportable : Reportable interface stretch) :
    Reported interface before stretch ↔ FirstCallSucceeds stretch :=
  ⟨first_of_reported h hreportable, reported_of_first h⟩

def coreSwitch : NetworkDevice := ⟨1, "core-sw", "10.0.0.1"⟩

def pollOf (ifOperStatus : Int) (callSucceeds : Bool) : Poll where
  device := coreSwitch
  entry := ⟨1, some "eth0", ifOperStatus, none, none⟩
  elapsed := 120
  callSucceeds := callSucceeds

-- Up, down, down, up.
theorem outage_reported_downTwice : Reported (1, 1) [pollOf 1 true] [pollOf 2 true, pollOf 2 true] :=
  (outage_reported_iff (1, 1) [pollOf 1 true] [pollOf 2 true, pollOf 2 true] [pollOf 1 true]
    { begins := ⟨_, _, rfl, rfl⟩
      afterUp := by decide
      notUp := by decide
      ended := .inr ⟨_, _, rfl, rfl, by decide⟩ }
    ⟨pollOf 2 true, List.mem_cons_self, rfl, by decide, rfl⟩).mpr ⟨_, _, rfl, by decide, rfl⟩

-- Up, testing, down: no call is made, though each would succeed.
theorem outage_after_testing_unreported :
    ¬ ∀ interface before stretch after, Outage interface before stretch after → Reportable interface stretch →
      Reported interface before stretch := by
  intro h
  have houtage : Outage (1, 1) [pollOf 1 true] [pollOf 3 true, pollOf 2 true] [] :=
    { begins := ⟨_, _, rfl, rfl⟩
      afterUp := by decide
      notUp := by decide
      ended := .inl rfl }
  have hreported := h _ _ _ _ houtage ⟨pollOf 2 true, by simp, rfl, by decide, rfl⟩
  rcases hreported.called [pollOf 3 true] (pollOf 2 true) [] rfl rfl (by decide) with hcalls | hless
  · exact absurd hcalls (by decide)
  · exact absurd hless (by decide)

end Stretches

end CloudOps.Monitoring.Network
