import CloudOps.Cost.CommitmentCoverage
import CloudOps.Js.Number

namespace CloudOps.Cost

open CloudOps.Calendar (monthOf monthStart)
open CloudOps.GroupTotals
open CloudOps.Js (castFloat)
open CloudOps.ReadCommitted (Table)

-- A value of a jsonb object. `other` is the JSON text of a number, a boolean, an array or
-- an object.
inductive TagJson where
  | null
  | string (value : String)
  | other (text : String)
  deriving DecidableEq

-- tags ->> key
def TagJson.text : TagJson → Option String
  | null => none
  | string value => value
  | other text => text

structure TaggedLineItem where
  amount : ℚ
  tags : Table String TagJson

-- What the queries read: cost_line_items, and the day now() is on in the database.
structure AllocationReads where
  costLineItems : Table LineItemKey TaggedLineItem
  databaseToday : Int

structure AllocationRow where
  tagValue : String
  amount : Float
  deriving DecidableEq

structure AllocationOptions where
  «from» : Option String := none
  «to» : Option String := none

structure Allocation where
  tagKey : String
  total : Float
  rows : List AllocationRow
  deriving DecidableEq

-- COALESCE(NULLIF(tags->>$1, ''), '(untagged)')
def tagValueOf (tagKey : String) (item : LineItemKey × TaggedLineItem) : String :=
  (truthy ((item.2.tags.lookup tagKey).bind TagJson.text)).getD "(untagged)"

def lineAmount (item : LineItemKey × TaggedLineItem) : ℚ := item.2.amount

variable (conv : Conversions) (reads : AllocationReads)

-- A date parameter that is there, else no date.
def castDay (text : Option String) : Except ServiceError (Option Int) :=
  match truthy text with
  | none => .ok none
  | some text =>
      match conv.castDate text with
      | some date => .ok (some date.toDay)
      | none => .error (.error s!"invalid input syntax for type date: {text}")

-- date_trunc('month', now())::date
def AllocationReads.firstOfMonth : Int := monthStart (monthOf reads.databaseToday)

def AllocationReads.itemsFrom (first : Int) (last : Option Int) : List (LineItemKey × TaggedLineItem) :=
  reads.costLineItems.rows.filter fun item =>
    first ≤ item.1.usageDate.toDay && last.all fun last => item.1.usageDate.toDay ≤ last

-- CostAllocationService.allocationByTag
def allocationByTag (tagKey : String) (opts : AllocationOptions) : Except ServiceError Allocation := do
  let first ← castDay conv opts.«from»
  let last ← castDay conv opts.«to»
  let items := reads.itemsFrom (first.getD reads.firstOfMonth) last
  let answers := (groupTotals (tagValueOf tagKey) lineAmount items).map fun answer =>
    (⟨answer.1, castFloat answer.2⟩ : AllocationRow)
  let rows := answers.insertionSort fun first second => second.amount ≤ first.amount
  return { tagKey := tagKey, total := rows.foldl (fun sum row => sum + row.amount) 0, rows := rows }

def AllocationReads.monthItems : List (LineItemKey × TaggedLineItem) := reads.itemsFrom reads.firstOfMonth none

-- COALESCE(SUM(amount), 0)
def AllocationReads.monthSum : ℚ := (reads.monthItems.map lineAmount).sum

-- mtdSpend of CostDashboardService.summary.
def AllocationReads.mtdSpend : Float := castFloat reads.monthSum

-- The exact sum of the line items under a label.
def AllocationReads.bucketSum (tagKey label : String) : ℚ :=
  groupTotal (tagValueOf tagKey) lineAmount reads.monthItems label

structure AllocationReads.Reconciles (tagKey : String) (allocation : Allocation) : Prop where
  labels : (allocation.rows.map AllocationRow.tagValue).Nodup
  counted : ∀ item ∈ reads.monthItems, ∃! row, row ∈ allocation.rows ∧ row.tagValue = tagValueOf tagKey item
  amounts : ∀ row ∈ allocation.rows, row.amount = castFloat (reads.bucketSum tagKey row.tagValue)
  sums : (allocation.rows.map fun row => reads.bucketSum tagKey row.tagValue).sum = reads.monthSum
  mtdSpend : reads.mtdSpend = castFloat reads.monthSum

def AllocationReads.allocationRows (reads : AllocationReads) (tagKey : String) : List AllocationRow :=
  (groups (tagValueOf tagKey) reads.monthItems).map fun label => ⟨label, castFloat (reads.bucketSum tagKey label)⟩

theorem allocationByTag_default (tagKey : String) :
    ∃ allocation, allocationByTag conv reads tagKey ⟨none, none⟩ = .ok allocation ∧
      allocation.rows.Perm (reads.allocationRows tagKey) := by
  refine ⟨_, rfl, (List.perm_insertionSort _ _).trans (.of_eq ?_)⟩
  rw [groupTotals, List.map_map]
  rfl

variable {reads}

theorem map_tagValue_allocationRows (tagKey : String) :
    (reads.allocationRows tagKey).map AllocationRow.tagValue = groups (tagValueOf tagKey) reads.monthItems := by
  rw [AllocationReads.allocationRows, List.map_map]
  exact List.map_id _

theorem sum_bucketSum (tagKey : String) :
    ((groups (tagValueOf tagKey) reads.monthItems).map (reads.bucketSum tagKey)).sum =
      reads.monthSum :=
  sum_groupTotal (nodup_groups _) fun item hitem => mem_groups.mpr ⟨item, hitem, rfl⟩

theorem allocationByTag_reconciles (conv : Conversions) (reads : AllocationReads) (tagKey : String) :
    ∃ allocation, allocationByTag conv reads tagKey ⟨none, none⟩ = .ok allocation ∧
      reads.Reconciles tagKey allocation := by
  obtain ⟨allocation, hrun, hperm⟩ := allocationByTag_default conv reads tagKey
  have hlabels := hperm.map AllocationRow.tagValue
  rw [map_tagValue_allocationRows] at hlabels
  have hnodup := hlabels.nodup_iff.mpr (nodup_groups _)
  refine ⟨allocation, hrun, hnodup, ?_, ?_, ?_, rfl⟩
  · intro item hitem
    obtain ⟨row, hrow, hlabel⟩ := List.mem_map.mp (hlabels.mem_iff.mpr (mem_groups.mpr ⟨item, hitem, rfl⟩))
    refine ⟨row, ⟨hrow, hlabel⟩, fun other hother => ?_⟩
    exact List.inj_on_of_nodup_map hnodup hother.1 hrow (hother.2.trans hlabel.symm)
  · intro row hrow
    obtain ⟨label, _, rfl⟩ := List.mem_map.mp (hperm.mem_iff.mp hrow)
    rfl
  · have hsum := (hlabels.map (reads.bucketSum tagKey)).sum_eq
    rwa [List.map_map, sum_bucketSum] at hsum

def itemKey (service : String) : LineItemKey := ⟨1, service, "", ⟨2026, 3, 5⟩⟩

def teamItem (team : String) (amount : ℚ) : TaggedLineItem := ⟨amount, AList.singleton "team" (.string team)⟩

-- 0.1 of one team and 0.2 of another.
def twoTeams : AllocationReads where
  costLineItems := (AList.singleton (itemKey "compute") (teamItem "red" (1 / 10))).insert (itemKey "storage")
    (teamItem "blue" (1 / 5))
  databaseToday := 20520

-- 0.30000000000000004 against 0.3.
theorem twoTeams_total_differs :
    ¬∀ allocation, allocationByTag ⟨fun _ => none, fun _ => none, fun _ => 0⟩ twoTeams "team" ⟨none, none⟩ =
      .ok allocation → allocation.total = twoTeams.mtdSpend := by
  intro h
  exact absurd (h _ rfl) (by decide +kernel)

end CloudOps.Cost
