import CloudOps.EventBus.EventBusService

namespace CloudOps.EventBus

open CloudOps.ReadCommitted (Table)

variable {J : Type} (parse : String → Option J) (groupName : String) (options : ConsumeOptions)

-- Delivered and not acknowledged, and no running loop is going to come to it.
def Bus.Abandoned (bus : Bus) (messageId : Nat) : Prop :=
  bus.group.IsPending messageId ∧ ∀ process ∈ bus.loops.rows, messageId ∉ process.2.held

instance (bus : Bus) : DecidablePred bus.Abandoned := fun messageId =>
  inferInstanceAs (Decidable (bus.group.IsPending messageId ∧
    ∀ process ∈ bus.loops.rows, messageId ∉ process.2.held))

-- A poll between the two states has delivered the entry.
def DeliveredSince (messageId : Nat) (before after : Bus) : Prop :=
  ∃ deliveries, after.deliveries = before.deliveries ++ deliveries ∧
    messageId ∈ deliveries.map Prod.fst

-- At-least-once delivery: in every state of the run, an entry that was delivered,
-- not acknowledged and abandoned can still be delivered again.
def AtLeastOnce (bus : Bus) (events : List BusEvent) : Prop :=
  Runs.Always (Bus.step parse groupName options) (fun reached => ∀ messageId,
    reached.Abandoned messageId → ∃ later, DeliveredSince messageId reached
      (Runs.run (Bus.step parse groupName options) reached later)) bus events

-- The step does not part a process from an entry it has not acknowledged: entries
-- parse, handlers and XACKs succeed, and a process that dies holds nothing.
def KeepsHold (bus : Bus) : BusEvent → Prop
  | .handle pid resolves => ∀ loop ∈ bus.loops.lookup pid, ∀ fields ∈ loop.fields,
      resolves = true ∧ (parseFields parse fields).isSome = true
  | .acknowledge pid replies => ∀ loop ∈ bus.loops.lookup pid, loop.handled.isSome → replies = true
  | .crash pid => ∀ loop ∈ bus.loops.lookup pid, loop.held = []
  | .publish _ | .start _ | .poll _ => True

instance (bus : Bus) : DecidablePred (KeepsHold parse bus)
  | .handle pid resolves => inferInstanceAs (Decidable (∀ loop ∈ bus.loops.lookup pid,
      ∀ fields ∈ loop.fields, resolves = true ∧ (parseFields parse fields).isSome = true))
  | .acknowledge pid replies => inferInstanceAs (Decidable (∀ loop ∈ bus.loops.lookup pid,
      loop.handled.isSome → replies = true))
  | .crash pid => inferInstanceAs (Decidable (∀ loop ∈ bus.loops.lookup pid, loop.held = []))
  | .publish _ | .start _ | .poll _ => isTrue trivial

-- Polls only ever ask for entries that were never delivered.
structure OnlyNew (before after : Bus) : Prop where
  lastDelivered : before.group.lastDelivered ≤ after.group.lastDelivered
  deliveries : ∃ deliveries, after.deliveries = before.deliveries ++ deliveries ∧
    ∀ delivery ∈ deliveries, before.group.lastDelivered ≤ delivery.1

theorem OnlyNew.of_same {before after : Bus} (hgroup : after.group.lastDelivered = before.group.lastDelivered)
    (hdeliveries : after.deliveries = before.deliveries) : OnlyNew before after where
  lastDelivered := Nat.le_of_eq hgroup.symm
  deliveries := ⟨[], by rw [hdeliveries, List.append_nil], by simp⟩

theorem OnlyNew.trans {a b c : Bus} (hab : OnlyNew a b) (hbc : OnlyNew b c) : OnlyNew a c where
  lastDelivered := Nat.le_trans hab.lastDelivered hbc.lastDelivered
  deliveries := by
    obtain ⟨first, hfirst, hfirstNew⟩ := hab.deliveries
    obtain ⟨second, hsecond, hsecondNew⟩ := hbc.deliveries
    refine ⟨first ++ second, by rw [hsecond, hfirst, List.append_assoc], ?_⟩
    intro delivery hd
    rcases List.mem_append.mp hd with hd | hd
    · exact hfirstNew delivery hd
    · exact Nat.le_trans hab.lastDelivered (hsecondNew delivery hd)

theorem onlyNew_step (bus : Bus) (event : BusEvent) :
    OnlyNew bus (bus.step parse groupName options event) := by
  cases event with
  | publish fields => exact .of_same rfl rfl
  | start pid =>
      simp only [Bus.step]
      split
      · exact .of_same rfl rfl
      · exact .of_same rfl rfl
  | poll pid =>
      simp only [Bus.step]
      split
      · refine ⟨?_, _, rfl, ?_⟩
        · have hle := bus.group.delivered_le
          simp only [ConsumerGroup.xreadgroup]
          omega
        · intro delivery hd
          obtain ⟨message, hm, rfl⟩ := List.mem_map.mp hd
          exact (ConsumerGroup.mem_undelivered hm).1
      · exact .of_same rfl rfl
  | handle pid resolves =>
      simp only [Bus.step]
      split
      · split
        · exact .of_same rfl rfl
        · split
          · exact .of_same rfl rfl
          · exact .of_same rfl rfl
      · exact .of_same rfl rfl
  | acknowledge pid replies =>
      simp only [Bus.step]
      split
      · split
        · exact .of_same rfl rfl
        · exact .of_same rfl rfl
      · exact .of_same rfl rfl
  | crash pid => exact .of_same rfl rfl

theorem onlyNew_run (bus : Bus) (events : List BusEvent) :
    OnlyNew bus (Runs.run (Bus.step parse groupName options) bus events) := by
  induction events generalizing bus with
  | nil => exact .of_same rfl rfl
  | cons event rest ih => exact (onlyNew_step parse groupName options bus event).trans (ih _)

-- What has been delivered once is never delivered again.
theorem not_deliveredSince {bus : Bus} {messageId : Nat}
    (hdelivered : messageId < bus.group.lastDelivered) (events : List BusEvent) :
    ¬ DeliveredSince messageId bus (Runs.run (Bus.step parse groupName options) bus events) := by
  rintro ⟨deliveries, hd, hmem⟩
  obtain ⟨same, hsame, hnew⟩ := (onlyNew_run parse groupName options bus events).deliveries
  rw [hsame] at hd
  obtain rfl := List.append_cancel_left hd
  obtain ⟨delivery, hdelivery, rfl⟩ := List.mem_map.mp hmem
  have hle := hnew delivery hdelivery
  omega

-- So an abandoned entry is lost.
theorem recoverable_iff (bus : Bus) :
    (∀ messageId, bus.Abandoned messageId → ∃ later, DeliveredSince messageId bus
      (Runs.run (Bus.step parse groupName options) bus later)) ↔
    ∀ messageId, ¬ bus.Abandoned messageId := by
  constructor
  · intro h messageId habandoned
    obtain ⟨later, hlater⟩ := h messageId habandoned
    exact not_deliveredSince parse groupName options habandoned.1.lt later hlater
  · exact fun h messageId habandoned => absurd habandoned (h messageId)

-- The invariant of every run: a running loop holds entries that are pending, each
-- of them once, and no two loops hold the same one.
structure Held (bus : Bus) : Prop where
  pending : ∀ pid loop, bus.loops.lookup pid = some loop → ∀ id ∈ loop.held, bus.group.IsPending id
  nodup : ∀ pid loop, bus.loops.lookup pid = some loop → loop.held.Nodup
  disjoint : ∀ pid other loop otherLoop, bus.loops.lookup pid = some loop →
    bus.loops.lookup other = some otherLoop → pid ≠ other → ∀ id ∈ loop.held, id ∉ otherLoop.held
  started : ∀ pid loop, bus.loops.lookup pid = some loop → pid ∈ bus.started

theorem lookup_leave {bus : Bus} {pid other : Nat} {loop : Loop}
    (hl : (bus.leave pid).loops.lookup other = some loop) :
    other ≠ pid ∧ bus.loops.lookup other = some loop := by
  by_cases he : other = pid
  · subst he
    simp [Bus.leave, AList.lookup_erase] at hl
  · exact ⟨he, by simpa only [Bus.leave, AList.lookup_erase_ne he] using hl⟩

theorem Held.leave {bus : Bus} (h : Held bus) (pid : Nat) : Held (bus.leave pid) where
  pending other loop hl := h.pending other loop (lookup_leave hl).2
  nodup other loop hl := h.nodup other loop (lookup_leave hl).2
  disjoint first second loop otherLoop hf hs :=
    h.disjoint first second loop otherLoop (lookup_leave hf).2 (lookup_leave hs).2
  started other loop hl := h.started other loop (lookup_leave hl).2

-- A loop that moves on, in a group where what the other loops hold stays pending.
theorem Held.enter {bus after : Bus} (h : Held bus) (pid : Nat) (loop : Loop)
    (hloops : after.loops = bus.loops.insert pid loop)
    (hstarted : pid ∈ after.started ∧ ∀ other ∈ bus.started, other ∈ after.started)
    (hown : ∀ id ∈ loop.held, after.group.IsPending id) (hnodup : loop.held.Nodup)
    (hothers : ∀ other otherLoop, bus.loops.lookup other = some otherLoop → other ≠ pid →
      ∀ id ∈ otherLoop.held, after.group.IsPending id ∧ id ∉ loop.held) : Held after := by
  have hlookup : ∀ other found, after.loops.lookup other = some found →
      other = pid ∧ found = loop ∨ other ≠ pid ∧ bus.loops.lookup other = some found := by
    intro other found hl
    rw [hloops, Table.lookup_insert_eq] at hl
    split at hl
    · exact .inl ⟨‹_›, (Option.some.inj hl).symm⟩
    · exact .inr ⟨‹_›, hl⟩
  refine ⟨fun other found hl => ?_, fun other found hl => ?_, fun first second found otherFound hf hs => ?_,
    fun other found hl => ?_⟩
  · rcases hlookup other found hl with ⟨-, rfl⟩ | ⟨hne, hl⟩
    · exact hown
    · exact fun id hid => (hothers other found hl hne id hid).1
  · rcases hlookup other found hl with ⟨-, rfl⟩ | ⟨-, hl⟩
    · exact hnodup
    · exact h.nodup other found hl
  · rcases hlookup first found hf with ⟨rfl, rfl⟩ | ⟨hfne, hf⟩
    · rcases hlookup second otherFound hs with ⟨rfl, rfl⟩ | ⟨hsne, hs⟩
      · exact fun hne => absurd rfl hne
      · exact fun _ id hid hother => (hothers second otherFound hs hsne id hother).2 hid
    · rcases hlookup second otherFound hs with ⟨rfl, rfl⟩ | ⟨hsne, hs⟩
      · exact fun _ id hid => (hothers first found hf hfne id hid).2
      · exact h.disjoint first second found otherFound hf hs
  · rcases hlookup other found hl with ⟨rfl, -⟩ | ⟨-, hl⟩
    · exact hstarted.1
    · exact hstarted.2 other (h.started other found hl)

-- A process that goes on with some of what it held, nothing else changing.
theorem Held.shrink {bus : Bus} (h : Held bus) {pid : Nat} {old loop : Loop}
    (hl : bus.loops.lookup pid = some old) (hsub : loop.held.Sublist old.held) :
    Held (bus.enter pid loop) := by
  refine h.enter pid loop rfl ⟨h.started pid old hl, fun _ ho => ho⟩ ?_ ?_ ?_
  · exact fun id hid => h.pending pid old hl id (hsub.subset hid)
  · exact (h.nodup pid old hl).sublist hsub
  · intro other otherLoop ho hne id hid
    exact ⟨h.pending other otherLoop ho id hid, fun hown =>
      h.disjoint other pid otherLoop old ho hl hne id hid (hsub.subset hown)⟩

theorem Held.step {bus : Bus} (h : Held bus) (event : BusEvent) :
    Held (bus.step parse groupName options event) := by
  cases event with
  | publish fields => exact ⟨h.pending, h.nodup, h.disjoint, h.started⟩
  | start pid =>
      simp only [Bus.step]
      split
      · exact h
      · refine h.enter pid .polling rfl ⟨by simp, fun other ho => by simp [ho]⟩ ?_ ?_ ?_
        · simp [Loop.held]
        · simp [Loop.held]
        · exact fun other otherLoop ho _ id hid => ⟨h.pending other otherLoop ho id hid, by simp [Loop.held]⟩
  | poll pid =>
      simp only [Bus.step]
      split
      · rename_i hl
        refine h.enter pid (.next _) rfl ⟨h.started pid _ hl, fun _ ho => ho⟩ ?_ ?_ ?_
        · intro id hid
          rw [Loop.held_next] at hid
          exact ConsumerGroup.isPending_xreadgroup.mpr (.inr hid)
        · rw [Loop.held_next]
          exact bus.group.nodup_undelivered 10
        · intro other otherLoop ho _ id hid
          have hpending := h.pending other otherLoop ho id hid
          refine ⟨ConsumerGroup.isPending_xreadgroup.mpr (.inl hpending), fun hnew => ?_⟩
          rw [Loop.held_next] at hnew
          obtain ⟨message, hm, rfl⟩ := List.mem_map.mp hnew
          have hge := (ConsumerGroup.mem_undelivered hm).1
          have hlt := hpending.lt
          omega
      · exact h
  | handle pid resolves =>
      simp only [Bus.step]
      split
      · rename_i messageId fields rest hl
        split
        · exact h.leave pid
        · split
          · exact h.shrink hl (List.Sublist.refl _)
          · apply h.shrink hl
            rw [Loop.held_next]
            exact List.sublist_cons_self _ _
      · exact h
  | acknowledge pid replies =>
      simp only [Bus.step]
      split
      · rename_i messageId rest hl
        have hheld : (Loop.next rest).held.Sublist (Loop.acknowledging messageId rest).held := by
          rw [Loop.held_next]
          exact List.sublist_cons_self _ _
        split
        · have hnodup := h.nodup pid _ hl
          refine h.enter pid (.next rest) rfl ⟨h.started pid _ hl, fun _ ho => ho⟩ ?_ ?_ ?_
          · intro id hid
            refine ConsumerGroup.isPending_xack.mpr ⟨h.pending pid _ hl id (hheld.subset hid), ?_⟩
            rw [Loop.held_next] at hid
            rintro rfl
            exact (List.nodup_cons.mp hnodup).1 hid
          · exact hnodup.sublist hheld
          · intro other otherLoop ho hne id hid
            have hdisjoint := h.disjoint other pid otherLoop _ ho hl hne id hid
            refine ⟨ConsumerGroup.isPending_xack.mpr ⟨h.pending other otherLoop ho id hid, ?_⟩,
              fun hown => hdisjoint (hheld.subset hown)⟩
            rintro rfl
            exact hdisjoint (by simp [Loop.held])
        · exact h.shrink hl hheld
      · exact h
  | crash pid => exact h.leave pid

-- Nothing is abandoned: some running loop is going to come to each pending entry.
def Tended (bus : Bus) : Prop :=
  ∀ id, bus.group.IsPending id → ∃ pid loop, bus.loops.lookup pid = some loop ∧ id ∈ loop.held

theorem tended_iff (bus : Bus) : Tended bus ↔ ∀ id, ¬ bus.Abandoned id := by
  constructor
  · intro h id habandoned
    obtain ⟨pid, loop, hl, hid⟩ := h id habandoned.1
    exact habandoned.2 (pid, loop) (Table.mem_rows.mpr hl) hid
  · intro h id hpending
    by_contra hnone
    refine h id ⟨hpending, fun process hp hid => hnone ?_⟩
    exact ⟨process.1, process.2, Table.mem_rows.mp hp, hid⟩

-- A loop that moves on still holds what it held, unless that is no longer pending.
theorem Tended.enter {bus after : Bus} (h : Tended bus) (pid : Nat) (loop : Loop)
    (hloops : after.loops = bus.loops.insert pid loop)
    (hold : ∀ id, after.group.IsPending id → id ∉ loop.held →
      bus.group.IsPending id ∧ ∀ old, bus.loops.lookup pid = some old → id ∉ old.held) :
    Tended after := by
  intro id hpending
  by_cases hid : id ∈ loop.held
  · exact ⟨pid, loop, by rw [hloops, AList.lookup_insert], hid⟩
  · obtain ⟨hbefore, hnotOld⟩ := hold id hpending hid
    obtain ⟨other, found, hl, hfound⟩ := h id hbefore
    have hne : other ≠ pid := by
      rintro rfl
      exact hnotOld found hl hfound
    exact ⟨other, found, by rw [hloops, AList.lookup_insert_ne hne, hl], hfound⟩

theorem Tended.step {bus : Bus} (h : Tended bus) (hstarted : Held bus) {event : BusEvent}
    (hkeeps : KeepsHold parse bus event) : Tended (bus.step parse groupName options event) := by
  cases event with
  | publish fields => exact h
  | start pid =>
      simp only [Bus.step]
      split
      · exact h
      · rename_i hnew
        refine h.enter pid .polling rfl fun id hpending _ => ⟨hpending, fun old hl => ?_⟩
        exact absurd (hstarted.started pid old hl) hnew
  | poll pid =>
      simp only [Bus.step]
      split
      · rename_i hl
        refine h.enter pid _ rfl fun id hpending hid => ?_
        rcases ConsumerGroup.isPending_xreadgroup.mp hpending with hbefore | hnew
        · refine ⟨hbefore, fun old ho => ?_⟩
          obtain rfl := Option.some.inj (hl.symm.trans ho)
          simp [Loop.held]
        · rw [Loop.held_next] at hid
          exact absurd hnew hid
      · exact h
  | handle pid resolves =>
      simp only [Bus.step]
      split
      · rename_i messageId fields rest hl
        obtain ⟨rfl, hparses⟩ := hkeeps _ hl fields rfl
        split
        · rename_i hnone
          simp [hnone] at hparses
        · refine h.enter pid _ rfl fun id hpending hid => ⟨hpending, fun old ho => ?_⟩
          obtain rfl := Option.some.inj (hl.symm.trans ho)
          exact hid
      · exact h
  | acknowledge pid replies =>
      simp only [Bus.step]
      split
      · rename_i messageId rest hl
        obtain rfl := hkeeps _ hl rfl
        refine h.enter pid _ rfl fun id hpending hid => ?_
        obtain ⟨hbefore, hne⟩ := ConsumerGroup.isPending_xack.mp hpending
        refine ⟨hbefore, fun old ho => ?_⟩
        obtain rfl := Option.some.inj (hl.symm.trans ho)
        rw [Loop.held_next] at hid
        simp only [Loop.held, List.mem_cons, not_or]
        exact ⟨hne, hid⟩
      · exact h
  | crash pid =>
      intro id hpending
      obtain ⟨other, loop, hl, hid⟩ := h id hpending
      have hne : other ≠ pid := by
        rintro rfl
        rw [hkeeps loop hl] at hid
        simp at hid
      exact ⟨other, loop, by rw [Bus.step, Bus.leave, AList.lookup_erase_ne hne, hl], hid⟩

-- An entry that its loop drops while it is pending is in nobody's hands.
theorem Held.not_tended {bus after : Bus} (h : Held bus) {pid id : Nat} {old : Loop}
    (hl : bus.loops.lookup pid = some old) (hid : id ∈ old.held) (hpending : after.group.IsPending id)
    (hloops : ∀ other loop, after.loops.lookup other = some loop →
      other ≠ pid ∧ bus.loops.lookup other = some loop ∨ id ∉ loop.held) : ¬ Tended after := by
  intro htended
  obtain ⟨other, loop, ho, hheld⟩ := htended id hpending
  rcases hloops other loop ho with ⟨hne, hother⟩ | hnot
  · exact h.disjoint other pid loop old hother hl hne id hheld hid
  · exact hnot hheld

theorem lookup_enter {bus : Bus} {pid id other : Nat} {entered loop : Loop} (hid : id ∉ entered.held)
    (hl : (bus.enter pid entered).loops.lookup other = some loop) :
    other ≠ pid ∧ bus.loops.lookup other = some loop ∨ id ∉ loop.held := by
  simp only [Bus.enter, Table.lookup_insert_eq] at hl
  split at hl
  · obtain rfl := Option.some.inj hl
    exact .inr hid
  · exact .inl ⟨‹_›, hl⟩

theorem Held.keepsHold {bus : Bus} (h : Held bus) (event : BusEvent)
    (htended : Tended (bus.step parse groupName options event)) : KeepsHold parse bus event := by
  cases event with
  | publish _ | start _ | poll _ => trivial
  | handle pid resolves =>
      intro loop hl fields hfields
      cases loop with
      | polling => simp [Loop.fields] at hfields
      | acknowledging _ _ => simp [Loop.fields] at hfields
      | handling messageId found rest =>
          obtain rfl : found = fields := Option.some.inj hfields
          have hid : messageId ∈ (Loop.handling messageId found rest).held := by simp [Loop.held]
          have hpending := h.pending pid _ hl messageId hid
          simp only [Bus.step, Option.mem_def.mp hl] at htended
          cases hparse : parseFields parse found with
          | none =>
              simp only [hparse] at htended
              exact absurd htended (h.not_tended hl hid hpending fun _ _ ho => .inl (lookup_leave ho))
          | some event =>
              cases resolves with
              | true => simp
              | false =>
                  simp only [hparse] at htended
                  have hnodup := h.nodup pid _ hl
                  have hrest : messageId ∉ (Loop.next rest).held := by
                    rw [Loop.held_next]
                    exact (List.nodup_cons.mp hnodup).1
                  exact absurd htended (h.not_tended hl hid hpending fun _ _ ho => lookup_enter hrest ho)
  | acknowledge pid replies =>
      intro loop hl hhandled
      cases loop with
      | polling => simp [Loop.handled] at hhandled
      | handling _ _ _ => simp [Loop.handled] at hhandled
      | acknowledging messageId rest =>
          cases replies with
          | true => rfl
          | false =>
              have hid : messageId ∈ (Loop.acknowledging messageId rest).held := by simp [Loop.held]
              have hpending := h.pending pid _ hl messageId hid
              simp only [Bus.step, Option.mem_def.mp hl] at htended
              have hnodup := h.nodup pid _ hl
              have hrest : messageId ∉ (Loop.next rest).held := by
                rw [Loop.held_next]
                exact (List.nodup_cons.mp hnodup).1
              exact absurd htended (h.not_tended hl hid hpending fun _ _ ho => lookup_enter hrest ho)
  | crash pid =>
      intro loop hl
      by_contra hne
      obtain ⟨id, hid⟩ := List.exists_mem_of_ne_nil _ hne
      have hpending := h.pending pid loop hl id hid
      exact absurd htended (h.not_tended hl hid hpending fun _ _ ho => .inl (lookup_leave ho))

def Kept (bus : Bus) : Prop := Held bus ∧ Tended bus

-- At-least-once delivery holds in exactly the runs in which no process parts from
-- an entry it has not acknowledged: there is no second delivery.
theorem at_least_once_iff (entries : List (List String)) (events : List BusEvent) :
    AtLeastOnce parse groupName options (Bus.start (.create entries)) events ↔
      Runs.AllSteps (Bus.step parse groupName options) (KeepsHold parse)
        (Bus.start (.create entries)) events := by
  have hheld : Held (Bus.start (.create entries)) := by
    refine ⟨?_, ?_, ?_, ?_⟩ <;> simp [Bus.start]
  have htended : Tended (Bus.start (.create entries)) := by
    intro id hpending
    simp [Bus.start, ConsumerGroup.create, ConsumerGroup.IsPending] at hpending
  have hrecoverable : ∀ bus, Tended bus ↔ ∀ messageId, bus.Abandoned messageId →
      ∃ later, DeliveredSince messageId bus (Runs.run (Bus.step parse groupName options) bus later) :=
    fun bus => (tended_iff bus).trans (recoverable_iff parse groupName options bus).symm
  have hstart : Kept (Bus.start (.create entries)) := ⟨hheld, htended⟩
  refine Runs.always_iff_allSteps events hstart (fun bus h => (hrecoverable bus).mp h.2) ?_ ?_
  · intro bus event h hkeeps
    exact ⟨h.1.step parse groupName options event, h.2.step parse groupName options h.1 hkeeps⟩
  · intro bus event h hafter
    exact h.1.keepsHold parse groupName options event ((hrecoverable _).mpr hafter)

-- A process dies with the entry it has just been given; the next one polls in vain.
def crashWithinBatch : List BusEvent := [.start 1, .poll 1, .crash 1, .start 2, .poll 2]

theorem crash_loses_entry :
    ¬ AtLeastOnce jsonObject "notifications" ⟨none⟩
      (Bus.start (.create [publishedFields "e1" "t1" "ticket.overdue" "{}" "now"])) crashWithinBatch := by
  intro h
  have hend := (recoverable_iff _ _ _ _).mp h.last
  exact absurd (hend 0) (by decide)

end CloudOps.EventBus
