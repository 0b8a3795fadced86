import Mathlib.Algebra.BigOperators.Group.List.Basic
import Mathlib.Data.Set.Basic
import Mathlib.Logic.Function.Basic

namespace CloudOps.Upserts

-- A table with a unique key, read as a function of the key. A batch is written to it
-- row by row; a row replaces what stands under its key.
variable {K V : Type*} [DecidableEq K]

def upsertAll (batch : List (K × V)) (table : K → Option V) : K → Option V :=
  batch.foldl (fun table row => Function.update table row.1 (some row.2)) table

-- The batch's values of a key, in their order.
def valuesOf (batch : List (K × V)) (key : K) : List V :=
  (batch.filter fun row => row.1 = key).map Prod.snd

-- The last row of a key is the one that stays.
theorem upsertAll_apply (batch : List (K × V)) (table : K → Option V) (key : K) :
    upsertAll batch table key = (valuesOf batch key).getLast?.or (table key) := by
  induction batch generalizing table with
  | nil => rfl
  | cons row rest ih =>
      obtain ⟨rowKey, value⟩ := row
      have hrest := ih (Function.update table rowKey (some value))
      simp only [upsertAll, List.foldl_cons] at hrest ⊢
      rw [hrest]
      by_cases hsame : rowKey = key
      · subst hsame
        have hvalues : valuesOf ((rowKey, value) :: rest) rowKey = value :: valuesOf rest rowKey := by
          simp [valuesOf]
        rw [hvalues, List.getLast?_cons, Function.update_self]
        cases (valuesOf rest rowKey).getLast? with
        | none => rfl
        | some last => rfl
      · have hvalues : valuesOf ((rowKey, value) :: rest) key = valuesOf rest key := by
          simp [valuesOf, hsame]
        rw [hvalues, Function.update_of_ne (Ne.symm hsame)]

-- Writing the batch once more changes nothing.
theorem upsertAll_idem (batch : List (K × V)) (table : K → Option V) :
    upsertAll batch (upsertAll batch table) = upsertAll batch table := by
  funext key
  simp only [upsertAll_apply]
  cases (valuesOf batch key).getLast? with
  | none => rfl
  | some last => rfl

-- What the batch comes to under a key: its values' sum, and nothing where it has none.
def total [AddMonoid V] (batch : List (K × V)) (key : K) : Option V :=
  if valuesOf batch key = [] then none else some (valuesOf batch key).sum

-- Of each key of a region the last value is the sum of all.
def LastIsSum [AddMonoid V] (batch : List (K × V)) (region : Set K) : Prop :=
  ∀ key ∈ region, ∀ last ∈ (valuesOf batch key).getLast?, last = (valuesOf batch key).sum

-- A batch leaves its totals in a region of the table exactly if each key's last value
-- is their sum and no other row stands there.
theorem upsertAll_eq_total_iff [AddMonoid V] (batch : List (K × V)) (table : K → Option V) (region : Set K) :
    (∀ key ∈ region, upsertAll batch table key = total batch key) ↔
      LastIsSum batch region ∧ ∀ key ∈ region, valuesOf batch key = [] → table key = none := by
  have hkey : ∀ key, upsertAll batch table key = total batch key ↔
      (∀ last ∈ (valuesOf batch key).getLast?, last = (valuesOf batch key).sum) ∧
        (valuesOf batch key = [] → table key = none) := by
    intro key
    rw [upsertAll_apply, total]
    by_cases hempty : valuesOf batch key = []
    · simp [hempty]
    · have hlast := List.getLast?_eq_some_getLast hempty
      simp [hempty, hlast]
  simp only [hkey]
  constructor
  · exact fun h => ⟨fun key hmem => (h key hmem).1, fun key hmem => (h key hmem).2⟩
  · exact fun h key hmem => ⟨h.1 key hmem, h.2 key hmem⟩

-- Where no key is repeated the last value is all there is to sum.
theorem lastIsSum_of_nodup [AddMonoid V] {batch : List (K × V)} (h : (batch.map Prod.fst).Nodup)
    (region : Set K) : LastIsSum batch region := by
  intro key _
  have hlength : (valuesOf batch key).length ≤ 1 := by
    rw [valuesOf, List.length_map, ← List.countP_eq_length_filter]
    have hcount : batch.countP (fun row => row.1 = key) = (batch.map Prod.fst).count key := by
      rw [List.count, List.countP_map]
      congr 1
    rw [hcount]
    exact List.nodup_iff_count.mp h key
  intro last hlast
  match hvalues : valuesOf batch key with
  | [] => simp [hvalues] at hlast
  | [value] =>
      rw [hvalues] at hlast
      simpa using hlast.symm
  | first :: second :: rest =>
      rw [hvalues] at hlength
      simp at hlength

end CloudOps.Upserts
