import CloudOps.Cost.CommitmentCoverage

namespace CloudOps.Cost

open CloudOps.GroupTotals
open CloudOps.ReadCommitted (Table ScanOrder)
open CloudOps.Ticketing (Uuid)

def MATERIALIZATION_WINDOW_DAYS : Nat := 14

inductive SavingsStatus where
  | logged
  | verified
  | notMaterialized
  deriving DecidableEq

-- A row of cost_savings_log.
structure SavingsLog where
  resourceId : Uuid
  expectedMonthlySaving : ℚ
  actualMonthlySaving : Option ℚ
  status : SavingsStatus
  loggedAt : Nat
  verifiedAt : Option Nat

abbrev SavingsTable := Table Uuid SavingsLog

-- What a pass reads: the cloud account of a resource, none where it has none or there is
-- no such resource; the server resources, with their accounts; the line items; now(); and
-- the date of a timestamp in the session's time zone.
structure SavingsReads where
  cloudCredentialId : Uuid → Option Uuid
  servers : List (Uuid × Uuid)
  costLineItems : Table LineItemKey CostLineItem
  now : Nat
  castDate : Nat → Int
  order : ScanOrder (Uuid × SavingsLog)

variable (reads : SavingsReads)

-- The account's line items from one day up to another, which is not among them.
def SavingsReads.accountItems (cloudCredentialId : Uuid) (first stop : Int) : List (LineItemKey × CostLineItem) :=
  reads.costLineItems.rows.filter fun item =>
    item.1.cloudCredentialId = cloudCredentialId && first ≤ item.1.usageDate.toDay &&
      item.1.usageDate.toDay < stop

-- COALESCE(AVG(daily.total), 0), of the days that have rows.
def averageDaily (items : List (LineItemKey × CostLineItem)) : ℚ :=
  let daily := spendByDay items
  if daily = [] then 0 else (daily.map DailySpendRow.amount).sum / daily.length

-- A timestamp and so many days more or less is on the date so many days on or back.
def SavingsReads.itemsBefore (cloudCredentialId : Uuid) (loggedAt : Nat) : List (LineItemKey × CostLineItem) :=
  reads.accountItems cloudCredentialId (reads.castDate loggedAt - MATERIALIZATION_WINDOW_DAYS)
    (reads.castDate loggedAt)

def SavingsReads.itemsAfter (cloudCredentialId : Uuid) (loggedAt : Nat) : List (LineItemKey × CostLineItem) :=
  reads.accountItems cloudCredentialId (reads.castDate loggedAt)
    (reads.castDate loggedAt + MATERIALIZATION_WINDOW_DAYS)

def SavingsReads.resourceCount (cloudCredentialId : Uuid) : Nat :=
  (reads.servers.filter fun server => server.2 = cloudCredentialId).length

-- The saving materializeOne finds, if there is an account to compare.
def SavingsReads.actualMonthlySaving (savingsLog : SavingsLog) : Option ℚ :=
  match reads.cloudCredentialId savingsLog.resourceId with
  | none => none
  | some cloudCredentialId =>
      let beforeAvg := averageDaily (reads.itemsBefore cloudCredentialId savingsLog.loggedAt)
      let afterAvg := averageDaily (reads.itemsAfter cloudCredentialId savingsLog.loggedAt)
      let resourceCount := reads.resourceCount cloudCredentialId
      if resourceCount = 0 then none
      else
        let beforeMonthly := beforeAvg * 30
        let afterMonthly := afterAvg * 30
        some ((beforeMonthly - afterMonthly) / resourceCount)

def SavingsLog.materialize (savingsLog : SavingsLog) (now : Nat) (actualMonthlySaving : ℚ) : SavingsLog :=
  { savingsLog with
    status := if 0 < actualMonthlySaving then .verified else .notMaterialized
    actualMonthlySaving := some actualMonthlySaving
    verifiedAt := some now }

def materializeOne (entry : Uuid × SavingsLog) (table : SavingsTable) : SavingsTable × Bool :=
  match reads.actualMonthlySaving entry.2 with
  | none => (table, false)
  | some actualMonthlySaving =>
      match table.lookup entry.1 with
      | none => (table, true)
      | some row => (table.insert entry.1 (row.materialize reads.now actualMonthlySaving), true)

def isCandidate (now : Nat) (savingsLog : SavingsLog) : Bool :=
  savingsLog.status = .logged && decide (savingsLog.loggedAt + MATERIALIZATION_WINDOW_DAYS * 86400000 ≤ now)

def SavingsReads.candidates (table : SavingsTable) : List (Uuid × SavingsLog) :=
  reads.order.apply (table.rows.filter fun entry => isCandidate reads.now entry.2)

-- The loop of materializeLoggedSavings, where no statement fails.
def materializeEntries : List (Uuid × SavingsLog) → SavingsTable × Nat → SavingsTable × Nat
  | [], state => state
  | entry :: rest, state =>
      let result := materializeOne reads entry state.1
      materializeEntries rest (result.1, if result.2 then state.2 + 1 else state.2)

def materializeLoggedSavings (table : SavingsTable) : SavingsTable × Nat :=
  materializeEntries reads (reads.candidates table) (table, 0)

section Loop

variable {reads} {table : SavingsTable} {id : Uuid} {savingsLog : SavingsLog} {actual : ℚ}

theorem lookup_materializeOne_of_ne {entry : Uuid × SavingsLog} (hne : id ≠ entry.1) (table : SavingsTable) :
    (materializeOne reads entry table).1.lookup id = table.lookup id := by
  unfold materializeOne
  cases reads.actualMonthlySaving entry.2 with
  | none => rfl
  | some actual =>
      cases table.lookup entry.1 with
      | none => rfl
      | some row => exact AList.lookup_insert_ne hne

theorem lookup_materializeOne (hactual : reads.actualMonthlySaving savingsLog = some actual) {row : SavingsLog}
    (hrow : table.lookup id = some row) :
    (materializeOne reads (id, savingsLog) table).1.lookup id = some (row.materialize reads.now actual) := by
  simp only [materializeOne, hactual, hrow]
  exact AList.lookup_insert table

theorem lookup_materializeEntries_of_notMem {entries : List (Uuid × SavingsLog)}
    (hnot : id ∉ entries.map Prod.fst) (state : SavingsTable × Nat) :
    (materializeEntries reads entries state).1.lookup id = state.1.lookup id := by
  induction entries generalizing state with
  | nil => rfl
  | cons entry rest ih =>
      rw [List.map_cons, List.mem_cons, not_or] at hnot
      rw [materializeEntries, ih hnot.2, lookup_materializeOne_of_ne hnot.1]

-- Each entry of the loop is written once.
theorem lookup_materializeEntries {entries : List (Uuid × SavingsLog)} (hnodup : (entries.map Prod.fst).Nodup)
    (hmem : (id, savingsLog) ∈ entries) (hactual : reads.actualMonthlySaving savingsLog = some actual)
    {row : SavingsLog} {state : SavingsTable × Nat} (hrow : state.1.lookup id = some row) :
    (materializeEntries reads entries state).1.lookup id = some (row.materialize reads.now actual) := by
  induction entries generalizing state with
  | nil => exact absurd hmem List.not_mem_nil
  | cons entry rest ih =>
      obtain ⟨hentry, hrest⟩ := List.nodup_cons.mp hnodup
      rw [materializeEntries]
      rcases List.mem_cons.mp hmem with rfl | hlater
      · rw [lookup_materializeEntries_of_notMem hentry]
        exact lookup_materializeOne hactual hrow
      · have hne : id ≠ entry.1 := by
          rintro rfl
          exact hentry (List.mem_map.mpr ⟨_, hlater, rfl⟩)
        apply ih hrest hlater
        rw [lookup_materializeOne_of_ne hne]
        exact hrow

theorem materializeLoggedSavings_spec (hlog : table.lookup id = some savingsLog)
    (hcandidate : isCandidate reads.now savingsLog = true)
    (hactual : reads.actualMonthlySaving savingsLog = some actual) :
    (materializeLoggedSavings reads table).1.lookup id = some (savingsLog.materialize reads.now actual) := by
  have hperm := reads.order.perm (table.rows.filter fun entry => isCandidate reads.now entry.2)
  have hnodup : ((reads.candidates table).map Prod.fst).Nodup := by
    apply (hperm.map Prod.fst).nodup_iff.mpr
    exact table.nodup_rows_ids.sublist (List.filter_sublist.map Prod.fst)
  have hmem : (id, savingsLog) ∈ reads.candidates table :=
    hperm.mem_iff.mpr (List.mem_filter.mpr ⟨Table.mem_rows.mpr hlog, hcandidate⟩)
  exact lookup_materializeEntries hnodup hmem hactual hlog

end Loop

section Verdict

variable {reads} {items : List (LineItemKey × CostLineItem)} {cloudCredentialId : Uuid} {savingsLog : SavingsLog}

-- The days that have line items.
def daysWithItems (items : List (LineItemKey × CostLineItem)) : Nat :=
  (groups (fun item => item.1.usageDate.toDay) items).length

def totalSpend (items : List (LineItemKey × CostLineItem)) : ℚ := (items.map fun item => item.2.amount).sum

theorem averageDaily_eq (items : List (LineItemKey × CostLineItem)) :
    averageDaily items = totalSpend items / daysWithItems items := by
  have hlength : (spendByDay items).length = daysWithItems items := by
    rw [spendByDay, List.length_map, length_groupTotals]
    rfl
  have hsum : ((spendByDay items).map DailySpendRow.amount).sum = totalSpend items := by
    rw [spendByDay, List.map_map]
    exact sum_groupTotals items
  unfold averageDaily
  by_cases hnone : spendByDay items = []
  · rw [hnone, List.length_nil] at hlength
    simp only [hnone, if_true, ← hlength, Nat.cast_zero, div_zero]
  · simp only [hnone, if_false, hsum, hlength]

theorem daysWithItems_pos (hspend : totalSpend items ≠ 0) : 0 < daysWithItems items := by
  have hne : items ≠ [] := by
    rintro rfl
    exact hspend rfl
  obtain ⟨item, hitem⟩ := List.exists_mem_of_ne_nil items hne
  have hday : item.1.usageDate.toDay ∈
      groups (fun item : LineItemKey × CostLineItem => item.1.usageDate.toDay) items :=
    mem_groups.mpr ⟨item, hitem, rfl⟩
  exact List.length_pos_of_mem hday

theorem totalSpend_eq_zero (hdays : daysWithItems items = 0) : totalSpend items = 0 := by
  by_contra hspend
  exact (daysWithItems_pos hspend).ne' hdays

-- An average has the sign of its total.
theorem average_pos_iff (items : List (LineItemKey × CostLineItem)) :
    0 < totalSpend items / daysWithItems items ↔ 0 < totalSpend items := by
  constructor
  · intro hpos
    by_contra hnot
    exact absurd (div_nonpos_of_nonpos_of_nonneg (not_lt.mp hnot) (Nat.cast_nonneg _)) (not_le.mpr hpos)
  · intro hpos
    exact div_pos hpos (Nat.cast_pos.mpr (daysWithItems_pos hpos.ne'))

theorem average_neg_iff (items : List (LineItemKey × CostLineItem)) :
    totalSpend items / daysWithItems items < 0 ↔ totalSpend items < 0 := by
  constructor
  · intro hneg
    by_contra hnot
    exact absurd (div_nonneg (not_lt.mp hnot) (Nat.cast_nonneg _)) (not_le.mpr hneg)
  · intro hneg
    exact div_neg_of_neg_of_pos hneg (Nat.cast_pos.mpr (daysWithItems_pos hneg.ne))

variable {before after : List (LineItemKey × CostLineItem)}

-- A side without line items, or as many days with line items on both.
def DaysMatch (before after : List (LineItemKey × CostLineItem)) : Prop :=
  daysWithItems before = 0 ∨ daysWithItems after = 0 ∨ daysWithItems before = daysWithItems after

-- The averages over the days with line items compare as the totals do.
theorem averageDaily_lt_iff (hdays : DaysMatch before after) :
    averageDaily after < averageDaily before ↔ totalSpend after < totalSpend before := by
  rw [averageDaily_eq, averageDaily_eq]
  rcases hdays with hbefore | hafter | hsame
  · rw [totalSpend_eq_zero hbefore, zero_div]
    exact average_neg_iff after
  · rw [totalSpend_eq_zero hafter, zero_div]
    exact average_pos_iff before
  · by_cases hnone : daysWithItems after = 0
    · rw [totalSpend_eq_zero hnone, zero_div]
      exact average_pos_iff before
    · rw [hsame]
      exact div_lt_div_iff_of_pos_right (Nat.cast_pos.mpr (Nat.pos_of_ne_zero hnone))

end Verdict

section Account

variable {reads} {cloudCredentialId : Uuid} {table : SavingsTable} {id : Uuid} {savingsLog : SavingsLog}

-- The account's spend of the fourteen days before the entry was logged and of those from
-- then on, with the days without line items filled in.
def SavingsReads.spendBefore (reads : SavingsReads) (cloudCredentialId : Uuid) (loggedAt : Nat) : ℚ :=
  (buildDailySpend (reads.castDate loggedAt - MATERIALIZATION_WINDOW_DAYS) (reads.castDate loggedAt - 1)
    (spendByDay (reads.itemsBefore cloudCredentialId loggedAt))).sum

def SavingsReads.spendAfter (reads : SavingsReads) (cloudCredentialId : Uuid) (loggedAt : Nat) : ℚ :=
  (buildDailySpend (reads.castDate loggedAt) (reads.castDate loggedAt + MATERIALIZATION_WINDOW_DAYS - 1)
    (spendByDay (reads.itemsAfter cloudCredentialId loggedAt))).sum

theorem accountItems_between {first stop : Int} {item : LineItemKey × CostLineItem}
    (hitem : item ∈ reads.accountItems cloudCredentialId first stop) :
    first ≤ item.1.usageDate.toDay ∧ item.1.usageDate.toDay < stop := by
  have hday := (List.mem_filter.mp hitem).2
  simp only [Bool.and_eq_true, decide_eq_true_eq] at hday
  exact ⟨hday.1.2, hday.2⟩

theorem spendBefore_eq (loggedAt : Nat) : reads.spendBefore cloudCredentialId loggedAt =
    totalSpend (reads.itemsBefore cloudCredentialId loggedAt) := by
  apply sum_buildDailySpend
  intro item hitem
  have hday := accountItems_between hitem
  omega

theorem spendAfter_eq (loggedAt : Nat) : reads.spendAfter cloudCredentialId loggedAt =
    totalSpend (reads.itemsAfter cloudCredentialId loggedAt) := by
  apply sum_buildDailySpend
  intro item hitem
  have hday := accountItems_between hitem
  omega

theorem actualMonthlySaving_eq (haccount : reads.cloudCredentialId savingsLog.resourceId = some cloudCredentialId)
    (hservers : 0 < reads.resourceCount cloudCredentialId) :
    ∃ actual, reads.actualMonthlySaving savingsLog = some actual ∧
      (0 < actual ↔ averageDaily (reads.itemsAfter cloudCredentialId savingsLog.loggedAt) <
        averageDaily (reads.itemsBefore cloudCredentialId savingsLog.loggedAt)) := by
  have hcount : (0 : ℚ) < reads.resourceCount cloudCredentialId := Nat.cast_pos.mpr hservers
  unfold SavingsReads.actualMonthlySaving
  simp only [haccount, if_neg hservers.ne']
  refine ⟨_, rfl, ?_⟩
  rw [div_pos_iff_of_pos_right hcount]
  constructor <;> intro hlt <;> linarith

-- The pass verifies the entry exactly if the account's spend has fallen.
def SavingsReads.TellsFall (reads : SavingsReads) (table : SavingsTable) (id cloudCredentialId : Uuid)
    (loggedAt : Nat) : Prop :=
  ∃ after, (materializeLoggedSavings reads table).1.lookup id = some after ∧
    (after.status = .verified ↔
      reads.spendAfter cloudCredentialId loggedAt < reads.spendBefore cloudCredentialId loggedAt)

theorem tellsFall_iff (reads : SavingsReads) (hlog : table.lookup id = some savingsLog)
    (hcandidate : isCandidate reads.now savingsLog = true)
    (haccount : reads.cloudCredentialId savingsLog.resourceId = some cloudCredentialId)
    (hservers : 0 < reads.resourceCount cloudCredentialId) :
    reads.TellsFall table id cloudCredentialId savingsLog.loggedAt ↔
      (averageDaily (reads.itemsAfter cloudCredentialId savingsLog.loggedAt) <
          averageDaily (reads.itemsBefore cloudCredentialId savingsLog.loggedAt) ↔
        totalSpend (reads.itemsAfter cloudCredentialId savingsLog.loggedAt) <
          totalSpend (reads.itemsBefore cloudCredentialId savingsLog.loggedAt)) := by
  obtain ⟨actual, hactual, hpos⟩ := actualMonthlySaving_eq haccount hservers
  have hafter := materializeLoggedSavings_spec hlog hcandidate hactual
  have hstatus : (savingsLog.materialize reads.now actual).status = .verified ↔ 0 < actual := by
    unfold SavingsLog.materialize
    by_cases h : 0 < actual <;> simp [h]
  rw [← hpos, ← hstatus, ← spendBefore_eq, ← spendAfter_eq]
  constructor
  · rintro ⟨after, hlookup, htells⟩
    obtain rfl := Option.some_inj.mp (hafter.symm.trans hlookup)
    exact htells
  · exact fun htells => ⟨_, hafter, htells⟩

section Pattern

variable {amount : LineItemKey → ℚ}

-- The same line items with other amounts.
def reprice (amount : LineItemKey → ℚ) (costLineItems : Table LineItemKey CostLineItem) :
    Table LineItemKey CostLineItem where
  entries := costLineItems.entries.map fun entry => ⟨entry.1, { entry.2 with amount := amount entry.1 }⟩
  nodupKeys := by
    rw [List.NodupKeys, List.keys, List.map_map]
    exact costLineItems.nodupKeys

theorem keys_reprice (amount : LineItemKey → ℚ) (costLineItems : Table LineItemKey CostLineItem) :
    (reprice amount costLineItems).keys = costLineItems.keys := by
  simp [reprice, AList.keys, List.keys, Function.comp_def]

theorem amount_of_mem_reprice {costLineItems : Table LineItemKey CostLineItem} {item : LineItemKey × CostLineItem}
    (hitem : item ∈ (reprice amount costLineItems).rows) : item.2.amount = amount item.1 := by
  simp only [Table.rows, reprice, List.map_map, List.mem_map] at hitem
  obtain ⟨entry, -, rfl⟩ := hitem
  rfl

-- Which items there are goes by their keys, and so does how many days they are of.
theorem map_fst_accountItems (cloudCredentialId : Uuid) (first stop : Int) :
    (reads.accountItems cloudCredentialId first stop).map Prod.fst =
      reads.costLineItems.keys.filter fun key =>
        key.cloudCredentialId = cloudCredentialId && first ≤ key.usageDate.toDay && key.usageDate.toDay < stop := by
  rw [← Table.map_fst_rows, List.filter_map]
  rfl

theorem daysWithItems_congr {items others : List (LineItemKey × CostLineItem)}
    (hkeys : items.map Prod.fst = others.map Prod.fst) : daysWithItems items = daysWithItems others := by
  have hdays := congrArg (List.map fun key => key.usageDate.toDay) hkeys
  rw [List.map_map, List.map_map] at hdays
  exact congrArg (fun days => days.dedup.length) hdays

theorem totalSpend_eq_sum {items : List (LineItemKey × CostLineItem)}
    (hitems : ∀ item ∈ items, item.2.amount = amount item.1) :
    totalSpend items = ((items.map Prod.fst).map amount).sum := by
  rw [totalSpend, List.map_map]
  exact congrArg List.sum (List.map_congr_left hitems)

def SavingsReads.reprice (reads : SavingsReads) (amount : LineItemKey → ℚ) : SavingsReads :=
  { reads with costLineItems := CloudOps.Cost.reprice amount reads.costLineItems }

theorem map_fst_accountItems_reprice (cloudCredentialId : Uuid) (first stop : Int) :
    ((reads.reprice amount).accountItems cloudCredentialId first stop).map Prod.fst =
      (reads.accountItems cloudCredentialId first stop).map Prod.fst := by
  rw [map_fst_accountItems, map_fst_accountItems, SavingsReads.reprice, keys_reprice]

theorem itemsBefore_reprice (cloudCredentialId : Uuid) (loggedAt : Nat) :
    (reads.reprice amount).itemsBefore cloudCredentialId loggedAt = (reads.reprice amount).accountItems
      cloudCredentialId (reads.castDate loggedAt - MATERIALIZATION_WINDOW_DAYS) (reads.castDate loggedAt) := rfl

theorem itemsAfter_reprice (cloudCredentialId : Uuid) (loggedAt : Nat) :
    (reads.reprice amount).itemsAfter cloudCredentialId loggedAt = (reads.reprice amount).accountItems
      cloudCredentialId (reads.castDate loggedAt) (reads.castDate loggedAt + MATERIALIZATION_WINDOW_DAYS) := rfl

-- Of the items of some days one costs something.
theorem totalSpend_reprice {cloudCredentialId : Uuid} {first stop : Int} {key : LineItemKey} {value : ℚ}
    (hkey : key ∈ (reads.accountItems cloudCredentialId first stop).map Prod.fst)
    (hamount : ∀ other ∈ (reads.accountItems cloudCredentialId first stop).map Prod.fst,
      amount other = if key = other then value else 0) :
    totalSpend ((reads.reprice amount).accountItems cloudCredentialId first stop) = value := by
  have hnodup : ((reads.accountItems cloudCredentialId first stop).map Prod.fst).Nodup := by
    rw [map_fst_accountItems]
    exact reads.costLineItems.keys_nodup.filter _
  have hitems : ∀ item ∈ (reads.reprice amount).accountItems cloudCredentialId first stop,
      item.2.amount = amount item.1 := fun item hitem => amount_of_mem_reprice (List.mem_of_mem_filter hitem)
  rw [totalSpend_eq_sum hitems, map_fst_accountItems_reprice, List.map_congr_left hamount]
  exact sum_indicator hnodup hkey value

-- The same total over different numbers of days.
theorem exists_average_lt {daysBefore daysAfter : Nat} (hbefore : daysBefore ≠ 0) (hafter : daysAfter ≠ 0)
    (hne : daysBefore ≠ daysAfter) : ∃ value : ℚ, value / daysAfter < value / daysBefore := by
  have hposBefore : (0 : ℚ) < daysBefore := Nat.cast_pos.mpr (Nat.pos_of_ne_zero hbefore)
  have hposAfter : (0 : ℚ) < daysAfter := Nat.cast_pos.mpr (Nat.pos_of_ne_zero hafter)
  rcases Nat.lt_or_gt_of_ne hne with hfewer | hmore
  · exact ⟨1, one_div_lt_one_div_of_lt hposBefore (Nat.cast_lt.mpr hfewer)⟩
  · refine ⟨-1, ?_⟩
    rw [neg_div, neg_div]
    exact neg_lt_neg (one_div_lt_one_div_of_lt hposAfter (Nat.cast_lt.mpr hmore))

theorem mem_map_fst_accountItems {cloudCredentialId : Uuid} {first stop : Int} {key : LineItemKey}
    (hkey : key ∈ (reads.accountItems cloudCredentialId first stop).map Prod.fst) :
    first ≤ key.usageDate.toDay ∧ key.usageDate.toDay < stop := by
  obtain ⟨item, hitem, rfl⟩ := List.mem_map.mp hkey
  exact accountItems_between hitem

theorem exists_key {items : List (LineItemKey × CostLineItem)} (hdays : daysWithItems items ≠ 0) :
    ∃ key, key ∈ items.map Prod.fst := by
  refine List.exists_mem_of_ne_nil _ fun hnil => hdays ?_
  rw [List.map_eq_nil_iff.mp hnil]
  rfl

def twoAmounts (earlier later : LineItemKey) (value : ℚ) (key : LineItemKey) : ℚ :=
  if earlier = key then value else if later = key then value else 0

-- Where the sides differ in their days, some amounts make an average fall whose total does not.
theorem exists_averageDaily_lt {loggedAt : Nat}
    (hdays : ¬ DaysMatch (reads.itemsBefore cloudCredentialId loggedAt)
      (reads.itemsAfter cloudCredentialId loggedAt)) :
    ∃ amount, averageDaily ((reads.reprice amount).itemsAfter cloudCredentialId loggedAt) <
        averageDaily ((reads.reprice amount).itemsBefore cloudCredentialId loggedAt) ∧
      totalSpend ((reads.reprice amount).itemsAfter cloudCredentialId loggedAt) =
        totalSpend ((reads.reprice amount).itemsBefore cloudCredentialId loggedAt) := by
  obtain ⟨hbefore, hdays⟩ := not_or.mp hdays
  obtain ⟨hafter, hne⟩ := not_or.mp hdays
  obtain ⟨value, hvalue⟩ := exists_average_lt hbefore hafter hne
  obtain ⟨earlier, hearlier⟩ := exists_key hbefore
  obtain ⟨later, hlater⟩ := exists_key hafter
  have hearlierDay := mem_map_fst_accountItems hearlier
  have hlaterDay := mem_map_fst_accountItems hlater
  have htotalBefore : totalSpend ((reads.reprice (twoAmounts earlier later value)).itemsBefore cloudCredentialId
      loggedAt) = value := by
    rw [itemsBefore_reprice]
    refine totalSpend_reprice hearlier fun key hkey => ?_
    have hkeyDay := mem_map_fst_accountItems hkey
    have hne : later ≠ key := by
      rintro rfl
      omega
    rw [twoAmounts, if_neg hne]
  have htotalAfter : totalSpend ((reads.reprice (twoAmounts earlier later value)).itemsAfter cloudCredentialId
      loggedAt) = value := by
    rw [itemsAfter_reprice]
    refine totalSpend_reprice hlater fun key hkey => ?_
    have hkeyDay := mem_map_fst_accountItems hkey
    have hne : earlier ≠ key := by
      rintro rfl
      omega
    rw [twoAmounts, if_neg hne]
  refine ⟨twoAmounts earlier later value, ?_, htotalAfter.trans htotalBefore.symm⟩
  rw [averageDaily_eq, averageDaily_eq, htotalBefore, htotalAfter, itemsBefore_reprice, itemsAfter_reprice,
    daysWithItems_congr (map_fst_accountItems_reprice cloudCredentialId _ _),
    daysWithItems_congr (map_fst_accountItems_reprice cloudCredentialId _ _)]
  exact hvalue

end Pattern

-- Whatever the amounts, a pass verifies an entry exactly if the account's spend has fallen, just
-- when the days with line items match.
theorem verified_iff_spend_fell (hlog : table.lookup id = some savingsLog)
    (hcandidate : isCandidate reads.now savingsLog = true)
    (haccount : reads.cloudCredentialId savingsLog.resourceId = some cloudCredentialId)
    (hservers : 0 < reads.resourceCount cloudCredentialId) :
    (∀ costLineItems : Table LineItemKey CostLineItem, costLineItems.keys = reads.costLineItems.keys →
      ({ reads with costLineItems } : SavingsReads).TellsFall table id cloudCredentialId savingsLog.loggedAt) ↔
    DaysMatch (reads.itemsBefore cloudCredentialId savingsLog.loggedAt)
      (reads.itemsAfter cloudCredentialId savingsLog.loggedAt) := by
  constructor
  · intro htells
    by_contra hdays
    obtain ⟨amount, hfalls, htotal⟩ := exists_averageDaily_lt hdays
    have htold := htells (reprice amount reads.costLineItems) (keys_reprice _ _)
    have hfell := ((tellsFall_iff (reads.reprice amount) hlog hcandidate haccount hservers).mp htold).mp hfalls
    exact hfell.ne htotal
  · intro hdays costLineItems hkeys
    refine (tellsFall_iff { reads with costLineItems } hlog hcandidate haccount hservers).mpr
      (averageDaily_lt_iff ?_)
    have hsame : ∀ first stop, daysWithItems (({ reads with costLineItems } : SavingsReads).accountItems
        cloudCredentialId first stop) = daysWithItems (reads.accountItems cloudCredentialId first stop) := by
      intro first stop
      apply daysWithItems_congr
      rw [map_fst_accountItems, map_fst_accountItems, hkeys]
    simpa only [DaysMatch, SavingsReads.itemsBefore, SavingsReads.itemsAfter, hsame] using hdays

def marchItem (amount : ℚ) : CostLineItem where
  region := none
  amount := amount
  currency := "USD"
  tags := []
  raw := "\x7b\x7d"
  syncedAt := 0

def marchKey (day : Nat) : LineItemKey := ⟨1, "compute", "", ⟨2026, 3, day⟩⟩

-- A saving logged on March 15, 2026: a day of 100 before it, and two days of 60 after it.
def spendRose : SavingsReads where
  cloudCredentialId _ := some 1
  servers := [(7, 1)]
  costLineItems := ((AList.insert (marchKey 10) (marchItem 100) ∅).insert (marchKey 16) (marchItem 60)).insert
    (marchKey 17) (marchItem 60)
  now := 20560 * 86400000
  castDate time := Js.dayOf time
  order := ScanOrder.stored _

def loggedInMarch : SavingsLog := ⟨7, 25, none, .logged, 20527 * 86400000, none⟩

def marchSavings : SavingsTable := AList.insert 3 loggedInMarch ∅

theorem verified_iff_spend_fell_in_march :
    (∀ costLineItems : Table LineItemKey CostLineItem, costLineItems.keys = spendRose.costLineItems.keys →
      ({ spendRose with costLineItems } : SavingsReads).TellsFall marchSavings 3 1 loggedInMarch.loggedAt) ↔
    DaysMatch (spendRose.itemsBefore 1 loggedInMarch.loggedAt) (spendRose.itemsAfter 1 loggedInMarch.loggedAt) :=
  verified_iff_spend_fell (AList.lookup_insert ∅) (by decide +kernel) rfl (by decide)

-- 100 a day before and 60 a day after, of 100 and 120.
theorem rising_spend_is_verified :
    ¬ ∀ (reads : SavingsReads) (table : SavingsTable) (id cloudCredentialId : Uuid) (savingsLog : SavingsLog),
      table.lookup id = some savingsLog → isCandidate reads.now savingsLog = true →
      reads.cloudCredentialId savingsLog.resourceId = some cloudCredentialId →
      0 < reads.resourceCount cloudCredentialId →
      reads.TellsFall table id cloudCredentialId savingsLog.loggedAt := by
  intro hclaim
  obtain ⟨after, hafter, hverified⟩ :=
    hclaim spendRose marchSavings 3 1 loggedInMarch (AList.lookup_insert ∅) (by decide +kernel) rfl (by decide)
  have hstatus : ((materializeLoggedSavings spendRose marchSavings).1.lookup 3).map SavingsLog.status =
      some .verified := by
    decide +kernel
  have hrose : ¬spendRose.spendAfter 1 loggedInMarch.loggedAt < spendRose.spendBefore 1 loggedInMarch.loggedAt := by
    decide +kernel
  rw [hafter] at hstatus
  exact hrose (hverified.mp (Option.some_inj.mp hstatus))

end Account

end CloudOps.Cost
