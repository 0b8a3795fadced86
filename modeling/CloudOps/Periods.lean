import Mathlib.Data.List.Induction
import Mathlib.Data.List.Nodup

namespace CloudOps.Periods

-- A log of items under keys. A mark ends the period of its key.
inductive Entry (κ ι : Type) where
  | item (key : κ) (value : ι)
  | mark (key : κ)
  deriving DecidableEq

def Entry.key {κ ι : Type} : Entry κ ι → κ
  | item key _ | mark key => key

variable {κ ι : Type} [DecidableEq κ]

-- The items of a key that an entry adds to those there are.
def Entry.add (key : κ) (items : List ι) : Entry κ ι → List ι
  | item other value => if other = key then items ++ [value] else items
  | mark other => if other = key then [] else items

def Entry.itemOf (key : κ) : Entry κ ι → Option ι
  | item other value => if other = key then some value else none
  | mark _ => none

def itemsOf (key : κ) (log : List (Entry κ ι)) : List ι := log.filterMap (Entry.itemOf key)

-- The items of a key since its last mark.
def since (key : κ) (log : List (Entry κ ι)) : List ι := log.foldl (Entry.add key) []

-- No item comes twice under a key with no mark of the key between.
def OncePerPeriod (log : List (Entry κ ι)) : Prop :=
  ∀ key first middle rest, log = first ++ (middle ++ rest) → .mark key ∉ middle → (itemsOf key middle).Nodup

variable {key other : κ} {value : ι} {log : List (Entry κ ι)} {entry : Entry κ ι}

@[simp] theorem since_append_singleton : since key (log ++ [entry]) = entry.add key (since key log) := by
  simp [since]

-- A key the log does not name.
theorem since_eq_nil (h : ∀ entry ∈ log, entry.key ≠ key) : since key log = [] := by
  induction log using List.reverseRecOn with
  | nil => rfl
  | append_singleton log entry ih =>
      rw [since_append_singleton, ih fun other hother => h other (List.mem_append_left _ hother)]
      have hkey := h entry (by simp)
      cases entry with
      | item other value => exact if_neg hkey
      | mark other => exact if_neg hkey

theorem itemsOf_append_singleton : itemsOf key (log ++ [entry]) = itemsOf key log ++ (entry.itemOf key).toList := by
  unfold itemsOf
  rw [List.filterMap_append]
  cases hitem : entry.itemOf key <;> simp [hitem]

theorem add_of_not_mark (h : entry ≠ .mark key) (items : List ι) :
    entry.add key items = items ++ (entry.itemOf key).toList := by
  cases entry with
  | item other value =>
      rw [Entry.add, Entry.itemOf]
      split
      · rfl
      · exact (List.append_nil items).symm
  | mark other =>
      have hother : other ≠ key := fun hsame => h (hsame ▸ rfl)
      simp [Entry.add, Entry.itemOf, hother]

-- What follows the last mark is a piece of the log without one.
theorem exists_period (key : κ) (log : List (Entry κ ι)) :
    ∃ first last, log = first ++ last ∧ .mark key ∉ last ∧ itemsOf key last = since key log := by
  induction log using List.reverseRecOn with
  | nil => exact ⟨[], [], rfl, by simp, rfl⟩
  | append_singleton log entry ih =>
      obtain ⟨first, last, rfl, hlast, hitems⟩ := ih
      by_cases hmark : entry = .mark key
      · subst hmark
        refine ⟨first ++ last ++ [.mark key], [], by simp, by simp, ?_⟩
        rw [since_append_singleton, Entry.add, if_pos rfl]
        rfl
      · refine ⟨first, last ++ [entry], by simp, ?_, ?_⟩
        · simp [hlast, Ne.symm hmark]
        · rw [itemsOf_append_singleton, since_append_singleton, add_of_not_mark hmark, hitems]

-- A piece at the end of the log, without a mark, is a part of it.
theorem itemsOf_suffix (first : List (Entry κ ι)) {last : List (Entry κ ι)} (hlast : .mark key ∉ last) :
    itemsOf key last <:+ since key (first ++ last) := by
  induction last using List.reverseRecOn with
  | nil => exact List.nil_suffix
  | append_singleton last entry ih =>
      rw [List.mem_append, List.mem_singleton, not_or] at hlast
      rw [← List.append_assoc, since_append_singleton, add_of_not_mark (Ne.symm hlast.2), itemsOf_append_singleton]
      obtain ⟨before, hbefore⟩ := ih hlast.1
      exact ⟨before, by rw [← List.append_assoc, hbefore]⟩

theorem OncePerPeriod.nodup_since (h : OncePerPeriod log) (key : κ) : (since key log).Nodup := by
  obtain ⟨first, last, hlog, hlast, hitems⟩ := exists_period key log
  rw [← hitems]
  exact h key first last [] (by rw [hlog, List.append_nil]) hlast

theorem OncePerPeriod.of_append {rest : List (Entry κ ι)} (h : OncePerPeriod (log ++ rest)) : OncePerPeriod log := by
  intro key first middle after hlog hmiddle
  exact h key first middle (after ++ rest) (by rw [hlog]; simp) hmiddle

theorem oncePerPeriod_nil : OncePerPeriod ([] : List (Entry κ ι)) := by
  intro key first middle rest hlog _
  obtain ⟨-, hnil⟩ := List.append_eq_nil_iff.mp hlog.symm
  obtain ⟨rfl, -⟩ := List.append_eq_nil_iff.mp hnil
  exact List.nodup_nil

theorem oncePerPeriod_append_singleton :
    OncePerPeriod (log ++ [entry]) ↔ OncePerPeriod log ∧ ∀ key, (entry.add key (since key log)).Nodup := by
  constructor
  · refine fun h => ⟨h.of_append, fun key => ?_⟩
    rw [← since_append_singleton]
    exact h.nodup_since key
  · rintro ⟨h, hadd⟩ key first middle rest hlog hmiddle
    rcases List.eq_nil_or_concat rest with rfl | ⟨rest, last, rfl⟩
    · have hnodup := hadd key
      rw [List.append_nil] at hlog
      rw [← since_append_singleton, hlog] at hnodup
      exact (itemsOf_suffix first hmiddle).sublist.nodup hnodup
    · have hsplit : log ++ [entry] = (first ++ (middle ++ rest)) ++ [last] := by rw [hlog]; simp
      exact h key first middle rest (List.append_inj' hsplit rfl).1 hmiddle

theorem oncePerPeriod_append_mark : OncePerPeriod (log ++ [.mark key]) ↔ OncePerPeriod log := by
  rw [oncePerPeriod_append_singleton]
  refine and_iff_left_of_imp fun h other => ?_
  rw [Entry.add]
  split
  · exact List.nodup_nil
  · exact h.nodup_since other

theorem since_append_items (values : List ι) :
    since other (log ++ values.map (.item key)) =
      if key = other then since other log ++ values else since other log := by
  induction values using List.reverseRecOn with
  | nil => simp
  | append_singleton values value ih =>
      rw [List.map_append, List.map_singleton, ← List.append_assoc, since_append_singleton, ih, Entry.add]
      split
      · rw [List.append_assoc]
      · rfl

-- Items of one key are added once each, beside those there are since its last mark.
theorem oncePerPeriod_append_items (values : List ι) :
    OncePerPeriod (log ++ values.map (.item key)) ↔ OncePerPeriod log ∧ (since key log ++ values).Nodup := by
  induction values using List.reverseRecOn with
  | nil =>
      simp only [List.map_nil, List.append_nil]
      exact (and_iff_left_of_imp fun h => h.nodup_since key).symm
  | append_singleton values value ih =>
      rw [List.map_append, List.map_singleton, ← List.append_assoc, oncePerPeriod_append_singleton, ih]
      have hsince : since key (log ++ values.map (.item key)) = since key log ++ values := by
        rw [since_append_items, if_pos rfl]
      constructor
      · rintro ⟨⟨h, -⟩, hadd⟩
        have hnodup := hadd key
        rw [hsince, Entry.add, if_pos rfl, List.append_assoc] at hnodup
        exact ⟨h, hnodup⟩
      · rintro ⟨h, hnodup⟩
        rw [← List.append_assoc] at hnodup
        have hvalues : (since key log ++ values).Nodup := (List.nodup_append.mp hnodup).1
        refine ⟨⟨h, hvalues⟩, fun other => ?_⟩
        rw [Entry.add]
        by_cases hsame : key = other
        · subst hsame
          rwa [if_pos rfl, hsince]
        · rw [if_neg hsame]
          exact (ih.mpr ⟨h, hvalues⟩).nodup_since other

end CloudOps.Periods
