import Mathlib.Data.List.Basic
import Mathlib.Data.List.Range
import Mathlib.Tactic.Common

namespace CloudOps.EventBus

-- A Redis stream with one consumer group. The id of an entry is its place in the
-- stream. `pending` is the group's pending entries list: what has been delivered
-- and not acknowledged, with the consumer it was delivered to.
structure ConsumerGroup (E : Type) where
  entries : List E
  lastDelivered : Nat
  pending : List (Nat × String)
  delivered_le : lastDelivered ≤ entries.length
  pending_lt : ∀ entry ∈ pending, entry.1 < lastDelivered

namespace ConsumerGroup

variable {E : Type}

-- XGROUP CREATE with "0", to read the whole stream.
def create (entries : List E) : ConsumerGroup E where
  entries := entries
  lastDelivered := 0
  pending := []
  delivered_le := Nat.zero_le _
  pending_lt := by simp

-- XADD key * ...
def xadd (group : ConsumerGroup E) (entry : E) : ConsumerGroup E :=
  { group with
    entries := group.entries ++ [entry]
    delivered_le := by
      have h := group.delivered_le
      rw [List.length_append]
      omega }

-- What XREADGROUP ... COUNT count STREAMS key > returns: entries that no consumer
-- of the group has been given yet.
def undelivered (group : ConsumerGroup E) (count : Nat) : List (Nat × E) :=
  (List.range' group.lastDelivered count).filterMap fun id =>
    (group.entries[id]?).map fun entry => (id, entry)

def xreadgroup (group : ConsumerGroup E) (consumer : String) (count : Nat) : ConsumerGroup E :=
  { group with
    lastDelivered := min (group.lastDelivered + count) group.entries.length
    pending := group.pending ++ (group.undelivered count).map fun entry => (entry.1, consumer)
    delivered_le := Nat.min_le_right _ _
    pending_lt := by
      have hle := group.delivered_le
      intro entry he
      rcases List.mem_append.mp he with he | he
      · have hlt := group.pending_lt entry he
        omega
      · obtain ⟨new, hn, rfl⟩ := List.mem_map.mp he
        obtain ⟨id, hid, hentry⟩ := List.mem_filterMap.mp hn
        obtain ⟨_, hget, rfl⟩ := Option.map_eq_some_iff.mp hentry
        have hlt := (List.getElem?_eq_some_iff.mp hget).1
        have hrange := (List.mem_range'_1.mp hid).2
        dsimp only
        omega }

-- XACK
def xack (group : ConsumerGroup E) (id : Nat) : ConsumerGroup E :=
  { group with
    pending := group.pending.filter fun entry => entry.1 ≠ id
    pending_lt := fun entry he => group.pending_lt entry (List.mem_filter.mp he).1 }

def IsPending (group : ConsumerGroup E) (id : Nat) : Prop := id ∈ group.pending.map Prod.fst

instance (group : ConsumerGroup E) : DecidablePred group.IsPending :=
  fun id => inferInstanceAs (Decidable (id ∈ group.pending.map Prod.fst))

variable {group : ConsumerGroup E} {count id : Nat} {consumer : String}

theorem IsPending.lt (h : group.IsPending id) : id < group.lastDelivered := by
  obtain ⟨entry, he, rfl⟩ := List.mem_map.mp h
  exact group.pending_lt entry he

theorem mem_undelivered {entry : Nat × E} (h : entry ∈ group.undelivered count) :
    group.lastDelivered ≤ entry.1 ∧
      entry.1 < min (group.lastDelivered + count) group.entries.length := by
  obtain ⟨id, hid, hentry⟩ := List.mem_filterMap.mp h
  obtain ⟨_, hget, rfl⟩ := Option.map_eq_some_iff.mp hentry
  have hlt := (List.getElem?_eq_some_iff.mp hget).1
  have hrange := List.mem_range'_1.mp hid
  dsimp only
  omega

theorem nodup_undelivered (group : ConsumerGroup E) (count : Nat) :
    ((group.undelivered count).map Prod.fst).Nodup := by
  have hsub : ∀ ids : List Nat, ((ids.filterMap fun id =>
      (group.entries[id]?).map fun entry => (id, entry)).map Prod.fst).Sublist ids := by
    intro ids
    induction ids with
    | nil => simp
    | cons id rest ih =>
        cases hget : group.entries[id]? with
        | none => simpa [hget] using ih.cons id
        | some entry => simpa [hget] using ih.cons_cons id
  exact (hsub _).nodup (List.nodup_range' ..)

theorem isPending_xreadgroup : (group.xreadgroup consumer count).IsPending id ↔
    group.IsPending id ∨ id ∈ (group.undelivered count).map Prod.fst := by
  simp [IsPending, xreadgroup]

theorem isPending_xack {other : Nat} :
    (group.xack other).IsPending id ↔ group.IsPending id ∧ id ≠ other := by
  simp only [IsPending, xack, List.mem_map, List.mem_filter, decide_eq_true_eq]
  constructor
  · rintro ⟨entry, ⟨he, hne⟩, rfl⟩
    exact ⟨⟨entry, he, rfl⟩, hne⟩
  · rintro ⟨⟨entry, he, rfl⟩, hne⟩
    exact ⟨entry, ⟨he, hne⟩, rfl⟩

end ConsumerGroup

end CloudOps.EventBus
