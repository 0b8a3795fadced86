import CloudOps.EventBus.EventBusService

namespace CloudOps.EventBus

variable {J : Type} (parse : String → Option J) (handler : Nat → DomainEventMessage J → Bool)

-- What one pass of the loop over a batch did: the messages it passed to the
-- handler, those it acknowledged, and whether the loop goes on to the next poll.
structure BatchOutcome where
  handled : List Nat
  acknowledged : List Nat
  running : Bool

-- `handler` says for each message whether the handler resolves or throws.
def handleMessages : List (Nat × List String) → BatchOutcome
  | [] => ⟨[], [], true⟩
  | (messageId, fields) :: rest =>
      match parseFields parse fields with
      -- parseFields stands outside the try, so its exception ends the loop
      | none => ⟨[], [], false⟩
      | some event =>
          let outcome := handleMessages rest
          { handled := messageId :: outcome.handled
            acknowledged :=
              if handler messageId event then messageId :: outcome.acknowledged
              else outcome.acknowledged
            running := outcome.running }

def Parses (message : Nat × List String) : Bool := (parseFields parse message.2).isSome

-- A message that is no poison: its fields parse and its handler resolves.
def Wholesome (message : Nat × List String) : Bool :=
  (parseFields parse message.2).any (handler message.1)

-- Each good message is handled once and acknowledged, whatever its neighbours are.
def NeighboursServed (messages : List (Nat × List String)) : Prop :=
  ∀ message ∈ messages, Wholesome parse handler message = true →
    (handleMessages parse handler messages).handled.count message.1 = 1 ∧
    message.1 ∈ (handleMessages parse handler messages).acknowledged

-- No good message stands behind one that does not parse.
def PoisonLast (messages : List (Nat × List String)) : Prop :=
  messages.Pairwise fun earlier later =>
    Wholesome parse handler later = true → Parses parse earlier = true

variable {parse handler}

theorem wholesome_parses {message : Nat × List String} (h : Wholesome parse handler message = true) :
    Parses parse message = true := by
  unfold Wholesome at h
  cases hp : parseFields parse message.2 with
  | none => simp [hp] at h
  | some event => simp [Parses, hp]

-- The loop handles what stands before the first message that does not parse.
theorem handled_eq (messages : List (Nat × List String)) :
    (handleMessages parse handler messages).handled =
      (messages.takeWhile (Parses parse)).map Prod.fst := by
  induction messages with
  | nil => rfl
  | cons message rest ih =>
      obtain ⟨messageId, fields⟩ := message
      unfold handleMessages
      cases hp : parseFields parse fields with
      | none => simp [Parses, hp]
      | some event => simp [Parses, hp, ih]

theorem acknowledged_eq (messages : List (Nat × List String)) :
    (handleMessages parse handler messages).acknowledged =
      ((messages.takeWhile (Parses parse)).filter (Wholesome parse handler)).map Prod.fst := by
  induction messages with
  | nil => rfl
  | cons message rest ih =>
      obtain ⟨messageId, fields⟩ := message
      unfold handleMessages
      cases hp : parseFields parse fields with
      | none => simp [Parses, hp]
      | some event =>
          cases hh : handler messageId event with
          | true => simp [Parses, Wholesome, hp, hh, ih]
          | false => simp [Parses, Wholesome, hp, hh, ih]

-- No good message stands behind one that does not parse: the loop comes to every
-- good one.
theorem poisonLast_iff {messages : List (Nat × List String)} (hnodup : messages.Nodup) :
    PoisonLast parse handler messages ↔
      ∀ message ∈ messages, Wholesome parse handler message = true →
        message ∈ messages.takeWhile (Parses parse) := by
  induction messages with
  | nil => simp [PoisonLast]
  | cons first rest ih =>
      obtain ⟨hfirst, hrest⟩ := List.nodup_cons.mp hnodup
      have ih := ih hrest
      unfold PoisonLast at ih ⊢
      rw [List.pairwise_cons, ih]
      by_cases hp : Parses parse first = true
      · rw [List.takeWhile_cons_of_pos hp]
        constructor
        · intro h message hm hw
          rcases List.mem_cons.mp hm with rfl | hm
          · exact List.mem_cons_self
          · exact List.mem_cons_of_mem _ (h.2 message hm hw)
        · intro h
          refine ⟨fun _ _ _ => hp, fun message hm hw => ?_⟩
          have hmem := h message (List.mem_cons_of_mem _ hm) hw
          refine (List.mem_cons.mp hmem).resolve_left ?_
          rintro rfl
          exact hfirst hm
      · rw [List.takeWhile_cons_of_neg hp]
        constructor
        · intro h message hm hw
          rcases List.mem_cons.mp hm with rfl | hm
          · exact absurd (wholesome_parses hw) hp
          · exact absurd (h.1 message hm hw) hp
        · intro h
          have hnone : ∀ message ∈ rest, Wholesome parse handler message ≠ true := fun message hm hw => by
            simpa using h message (List.mem_cons_of_mem _ hm) hw
          exact ⟨fun message hm hw => absurd hw (hnone message hm),
            fun message hm hw => absurd hw (hnone message hm)⟩

-- A batch as XREADGROUP returns it: its neighbours are served exactly when no good
-- message stands behind one that does not parse.
theorem neighbours_served_iff (parse : String → Option J)
    (handler : Nat → DomainEventMessage J → Bool) (group : ConsumerGroup (List String)) (count : Nat) :
    NeighboursServed parse handler (group.undelivered count) ↔
      PoisonLast parse handler (group.undelivered count) := by
  have hnodup := group.nodup_undelivered count
  rw [poisonLast_iff hnodup.of_map]
  have hreached : ((group.undelivered count).takeWhile (Parses parse)).Sublist
      (group.undelivered count) := List.takeWhile_sublist _
  constructor
  · intro h message hm hw
    have hcount := (h message hm hw).1
    rw [handled_eq] at hcount
    have hmem : message.1 ∈ ((group.undelivered count).takeWhile (Parses parse)).map Prod.fst :=
      List.count_pos_iff.mp (by omega)
    obtain ⟨other, ho, hsame⟩ := List.mem_map.mp hmem
    have he : message = other := List.inj_on_of_nodup_map hnodup hm (hreached.subset ho) hsame.symm
    exact he ▸ ho
  · intro h message hm hw
    have hmem := h message hm hw
    constructor
    · rw [handled_eq]
      exact List.count_eq_one_of_mem (hnodup.sublist (hreached.map _)) (List.mem_map_of_mem hmem)
    · rw [acknowledged_eq]
      exact List.mem_map_of_mem (List.mem_filter.mpr ⟨hmem, hw⟩)

def poisonedStream : ConsumerGroup (List String) :=
  .create [["id", "e1", "eventType", "ticket.overdue"],
    publishedFields "e2" "t1" "ticket.overdue" "{}" "now"]

theorem poison_loses_neighbour :
    ¬ NeighboursServed jsonObject (fun _ _ => true) (poisonedStream.undelivered 10) := by
  intro h
  have hserved := h (1, publishedFields "e2" "t1" "ticket.overdue" "{}" "now") (by decide) (by decide)
  exact absurd hserved.1 (by decide)

section Steps

variable (parse handler) (groupName : String) (options : ConsumeOptions) (pid : Nat)

-- The steps of a process over its batch while Redis answers and it stays alive.
def batchEvents : List (Nat × List String) → List BusEvent
  | [] => []
  | (messageId, fields) :: rest =>
      match parseFields parse fields with
      | none => [.handle pid true]
      | some event =>
          if handler messageId event then
            .handle pid true :: .acknowledge pid true :: batchEvents rest
          else .handle pid false :: batchEvents rest

-- A pass over a batch is what the loop does step by step.
theorem handleMessages_is_run (messages : List (Nat × List String)) (bus : Bus)
    (hl : bus.loops.lookup pid = some (.next messages)) :
    let after := Runs.run (Bus.step parse groupName options) bus (batchEvents parse handler pid messages)
    let outcome := handleMessages parse handler messages
    after.group = outcome.acknowledged.foldl ConsumerGroup.xack bus.group ∧
      after.loops.lookup pid = if outcome.running then some .polling else none := by
  induction messages generalizing bus with
  | nil => exact ⟨rfl, hl⟩
  | cons message rest ih =>
      obtain ⟨messageId, fields⟩ := message
      have hhandling : bus.loops.lookup pid = some (.handling messageId fields rest) := hl
      unfold batchEvents handleMessages
      cases hp : parseFields parse fields with
      | none => simp [Bus.step, hhandling, hp, Bus.leave, AList.lookup_erase]
      | some event =>
          by_cases hh : handler messageId event = true
          · have hstep : Bus.step parse groupName options
                (Bus.step parse groupName options bus (.handle pid true)) (.acknowledge pid true) =
                { (bus.enter pid (.next rest)) with group := bus.group.xack messageId } := by
              simp [Bus.step, hhandling, hp, Bus.enter]
            have hnext := ih { (bus.enter pid (.next rest)) with group := bus.group.xack messageId }
              (AList.lookup_insert _)
            simp only [if_pos hh, Runs.run_cons, hstep]
            exact hnext
          · have hstep : Bus.step parse groupName options bus (.handle pid false) =
                bus.enter pid (.next rest) := by
              simp [Bus.step, hhandling, hp]
            have hnext := ih (bus.enter pid (.next rest)) (AList.lookup_insert _)
            simp only [if_neg hh, Runs.run_cons, hstep]
            exact hnext

end Steps

end CloudOps.EventBus
