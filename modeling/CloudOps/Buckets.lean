import Mathlib.Data.List.Nodup
import Mathlib.Data.List.Perm.Basic
import Mathlib.Tactic.Common

namespace CloudOps.Buckets

-- A map from a key to the items that have it, in the order the keys first came.
variable {ι κ : Type*} [DecidableEq κ] (key : ι → κ)

def push (item : ι) : List (κ × List ι) → List (κ × List ι)
  | [] => [(key item, [item])]
  | (first, members) :: rest =>
      if first = key item then (first, members ++ [item]) :: rest else (first, members) :: push item rest

def buckets (items : List ι) : List (κ × List ι) :=
  items.foldl (fun groups item => push key item groups) []

variable {key} {groups : List (κ × List ι)} {items : List ι}

theorem keys_push (item : ι) (groups : List (κ × List ι)) :
    (push key item groups).map Prod.fst =
      if key item ∈ groups.map Prod.fst then groups.map Prod.fst else groups.map Prod.fst ++ [key item] := by
  induction groups with
  | nil => rfl
  | cons group rest ih =>
      obtain ⟨first, members⟩ := group
      by_cases hfirst : first = key item
      · simp [push, hfirst]
      · have hne : ¬ key item = first := Ne.symm hfirst
        rw [push, if_neg hfirst, List.map_cons, List.map_cons, ih]
        simp only [List.mem_cons, hne, false_or]
        split <;> rfl

theorem flatten_push (item : ι) (groups : List (κ × List ι)) :
    ((push key item groups).map Prod.snd).flatten.Perm ((groups.map Prod.snd).flatten ++ [item]) := by
  induction groups with
  | nil => exact .refl _
  | cons group rest ih =>
      obtain ⟨first, members⟩ := group
      rw [push]
      split
      · simp only [List.map_cons, List.flatten_cons, List.append_assoc]
        exact List.perm_append_comm.append_left members
      · simp only [List.map_cons, List.flatten_cons, List.append_assoc]
        exact ih.append_left members

-- What each bucket holds, as the items come in.
theorem mem_push {item : ι} (hnodup : (groups.map Prod.fst).Nodup) {first : κ} {members : List ι}
    (h : (first, members) ∈ push key item groups) :
    (first, members) ∈ groups ∧ first ≠ key item ∨
      first = key item ∧ (∃ before, (first, before) ∈ groups ∧ members = before ++ [item]) ∨
      first = key item ∧ first ∉ groups.map Prod.fst ∧ members = [item] := by
  induction groups with
  | nil =>
      obtain ⟨rfl, rfl⟩ := Prod.mk.inj (List.mem_singleton.mp h)
      exact .inr (.inr ⟨rfl, List.not_mem_nil, rfl⟩)
  | cons group rest ih =>
      obtain ⟨head, headMembers⟩ := group
      rw [List.map_cons, List.nodup_cons] at hnodup
      rw [push] at h
      split at h
      · rename_i hhead
        rcases List.mem_cons.mp h with heq | hrest
        · obtain ⟨rfl, rfl⟩ := Prod.mk.inj heq
          exact .inr (.inl ⟨hhead, headMembers, List.mem_cons_self, rfl⟩)
        · refine .inl ⟨List.mem_cons_of_mem _ hrest, fun hfirst => hnodup.1 ?_⟩
          exact List.mem_map.mpr ⟨_, hrest, hfirst.trans hhead.symm⟩
      · rename_i hhead
        rcases List.mem_cons.mp h with heq | hrest
        · obtain ⟨rfl, rfl⟩ := Prod.mk.inj heq
          exact .inl ⟨List.mem_cons_self, hhead⟩
        · rcases ih hnodup.2 hrest with ⟨hmem, hne⟩ | ⟨hfirst, before, hmem, hmembers⟩ | ⟨hfirst, hnew, hmembers⟩
          · exact .inl ⟨List.mem_cons_of_mem _ hmem, hne⟩
          · exact .inr (.inl ⟨hfirst, before, List.mem_cons_of_mem _ hmem, hmembers⟩)
          · refine .inr (.inr ⟨hfirst, fun hmem => ?_, hmembers⟩)
            rcases List.mem_cons.mp hmem with hold | hold
            · exact hhead (hold.symm.trans hfirst)
            · exact hnew hold

-- The keys are distinct, and each has the items with it, in their order.
structure Sorts (key : ι → κ) (items : List ι) (groups : List (κ × List ι)) : Prop where
  nodup : (groups.map Prod.fst).Nodup
  members : ∀ first found, (first, found) ∈ groups → found = items.filter fun item => key item = first
  keys : ∀ item ∈ items, key item ∈ groups.map Prod.fst
  nonempty : ∀ first found, (first, found) ∈ groups → found ≠ []
  perm : (groups.map Prod.snd).flatten.Perm items

theorem Sorts.push (h : Sorts key items groups) (item : ι) : Sorts key (items ++ [item]) (push key item groups) where
  nodup := by
    rw [keys_push]
    split
    · exact h.nodup
    · rename_i hnew
      exact List.nodup_append_comm.mp (List.nodup_cons.mpr ⟨hnew, h.nodup⟩)
  members first found hmem := by
    rw [List.filter_append, List.filter_singleton]
    rcases mem_push h.nodup hmem with ⟨hold, hne⟩ | ⟨hfirst, before, hold, rfl⟩ | ⟨hfirst, hnew, rfl⟩
    · rw [h.members first found hold]
      simp [Ne.symm hne]
    · rw [h.members first before hold]
      simp [hfirst]
    · have hnone : (items.filter fun other => key other = first) = [] := by
        rw [List.filter_eq_nil_iff]
        intro other hother hkey
        exact hnew (of_decide_eq_true hkey ▸ h.keys other hother)
      rw [hnone]
      simp [hfirst]
  keys other hother := by
    rw [keys_push]
    rcases List.mem_append.mp hother with hold | hnew
    · have hkey := h.keys other hold
      split
      · exact hkey
      · exact List.mem_append_left _ hkey
    · obtain rfl := List.mem_singleton.mp hnew
      split
      · assumption
      · exact List.mem_append_right _ (List.mem_singleton.mpr rfl)
  nonempty first found hmem := by
    rcases mem_push h.nodup hmem with ⟨hold, -⟩ | ⟨-, before, -, rfl⟩ | ⟨-, -, rfl⟩
    · exact h.nonempty first found hold
    · exact List.append_ne_nil_of_right_ne_nil _ (List.cons_ne_nil _ _)
    · exact List.cons_ne_nil _ _
  perm := (flatten_push item groups).trans (h.perm.append_right [item])

theorem sorts_buckets (items : List ι) : Sorts key items (buckets key items) := by
  have hfold : ∀ (rest done : List ι) (groups : List (κ × List ι)), Sorts key done groups →
      Sorts key (done ++ rest) (rest.foldl (fun groups item => push key item groups) groups) := by
    intro rest
    induction rest with
    | nil =>
        intro done groups h
        rwa [List.append_nil]
    | cons item rest ih =>
        intro done groups h
        have hnext := ih (done ++ [item]) (push key item groups) (h.push item)
        rwa [List.append_assoc, List.singleton_append] at hnext
  have hempty : Sorts key ([] : List ι) [] := by
    constructor <;> simp
  exact hfold items [] [] hempty

end CloudOps.Buckets
