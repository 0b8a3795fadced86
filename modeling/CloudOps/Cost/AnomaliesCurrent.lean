import CloudOps.Cost.CostAnomalyCheck

namespace CloudOps.Cost

open CloudOps.GroupTotals
open CloudOps.ReadCommitted (Table)
open CloudOps.Runs
open CloudOps.Ticketing (Uuid)
open CloudOps.Transaction

-- The index coalesces the region of each row.
def RegionsCoalesced (lineItems : Table LineItemKey CostLineItem) : Prop :=
  ∀ key item, lineItems.lookup key = some item → key.coalescedRegion = item.region.getD ""

-- Line items are not removed and keep their region.
def KeepsRegions (before after : Table LineItemKey CostLineItem) : Prop :=
  ∀ key item, before.lookup key = some item →
    ∃ later, after.lookup key = some later ∧ later.region = item.region

-- What a revision does to the bill.
def Revises (before after : CostStore) : Prop :=
  (RegionsCoalesced before.costLineItems → RegionsCoalesced after.costLineItems) ∧
    KeepsRegions before.costLineItems after.costLineItems

instance : IsPreorder CostStore Revises where
  refl _ := ⟨id, fun _ item h => ⟨item, h, rfl⟩⟩
  trans _ _ _ hab hbc := by
    refine ⟨hbc.1 ∘ hab.1, fun key item h => ?_⟩
    obtain ⟨middle, hmiddle, hregion⟩ := hab.2 key item h
    obtain ⟨later, hlater, hsame⟩ := hbc.2 key middle hmiddle
    exact ⟨later, hlater, hsame.trans hregion⟩

section Revisions

variable (conv : Conversions)

theorem revises_insert {store : CostStore} {key : LineItemKey} {row : CostLineItem}
    (hcoalesced : RegionsCoalesced store.costLineItems → key.coalescedRegion = row.region.getD "")
    (hregion : ∀ item, store.costLineItems.lookup key = some item → row.region = item.region) :
    Revises store { store with costLineItems := store.costLineItems.insert key row } := by
  constructor
  · intro hbefore other item hlookup
    rw [Table.lookup_insert_eq] at hlookup
    split_ifs at hlookup with hsame
    · obtain rfl := Option.some.inj hlookup
      exact hsame ▸ hcoalesced hbefore
    · exact hbefore other item hlookup
  · intro other item hlookup
    rw [Table.lookup_insert_eq]
    by_cases hsame : other = key
    · subst hsame
      exact ⟨row, if_pos rfl, hregion item hlookup⟩
    · exact ⟨item, (if_neg hsame).trans hlookup, rfl⟩

theorem upsertLineItem_revises (credentialId : Uuid) (item : CloudCostLineItem) (now : Nat) :
    Keeps Revises (upsertLineItem conv credentialId item now) := by
  intro before
  refine (castDate_ensures item.usageDate before).bind ?_
  rintro date _ ⟨rfl, -⟩
  refine .get_bind ?_
  split
  · exact .throw _
  · refine .modify (revises_insert ?_ ?_)
    · intro hbefore
      split
      · rfl
      · rename_i existing hexisting
        exact hbefore _ existing hexisting
    · intro existing hexisting
      rw [hexisting]

theorem upsertLineItems_revises (credentialId : Uuid) (now : Nat) (items : List CloudCostLineItem) :
    Keeps Revises (upsertLineItems conv credentialId now items) := by
  induction items with
  | nil => exact .pure ()
  | cons item rest ih => exact (upsertLineItem_revises conv credentialId item now).bind fun _ => ih

theorem syncCredential_revises (client : CloudProviderClient) (credentialId : Uuid) (today : Date) (now : Nat) :
    Keeps Revises (syncCredential conv client credentialId today now) := by
  unfold syncCredential
  dsimp only
  split
  · exact .throw _
  · refine (upsertLineItems_revises conv credentialId now _).bind fun _ => ?_
    refine Keeps.bind (.modify fun store => ?_) fun _ => .pure _
    split
    · exact ⟨id, fun _ item h => ⟨item, h, rfl⟩⟩
    · exact refl_of Revises store

end Revisions

-- Each anomaly is about a line item, whose region it has.
structure BillStore.Consistent (store : BillStore) : Prop where
  regions : RegionsCoalesced store.costLineItems
  anomalies : ∀ key anomaly, store.costAnomalies.lookup key = some anomaly →
    ∃ item, store.costLineItems.lookup key = some item ∧ item.region = anomaly.region

-- A row of cost_anomalies for the group and the day.
def BillStore.Recorded (store : BillStore) (group : SpendGroup) (day : Date) (anomaly : CostAnomaly) : Prop :=
  store.costAnomalies.lookup (group.key day) = some anomaly ∧ anomaly.region = group.region

def BillStore.items (store : BillStore) : List LineItem := store.costLineItems.rows

section Check

variable {store : BillStore} {items : List LineItem} {day : Date} {group other : SpendGroup}
  (toFixed : Float → Nat → String)

-- The one line item under a group's key is of the group, if the group has any that day.
theorem lookup_of_mem_groups (hregions : RegionsCoalesced store.costLineItems)
    (hgroup : group ∈ groups spendGroup (itemsOn store.items day)) :
    ∃ item, store.costLineItems.lookup (group.key day) = some item ∧ item.region = group.region := by
  obtain ⟨⟨key, item⟩, hitem, rfl⟩ := mem_groups.mp hgroup
  obtain ⟨hmem, hday⟩ := List.mem_filter.mp hitem
  have hlookup := Table.mem_rows.mp hmem
  have hkey : key = (spendGroup (key, item)).key day := by
    have hcoalesced := hregions key item hlookup
    have hdate := of_decide_eq_true hday
    cases key
    simp only [SpendGroup.key, spendGroup] at hcoalesced hdate ⊢
    rw [hcoalesced, hdate]
  exact ⟨item, hkey ▸ hlookup, rfl⟩

theorem key_injective (hregions : RegionsCoalesced store.costLineItems)
    (hgroup : group ∈ groups spendGroup (itemsOn store.items day))
    (hother : other ∈ groups spendGroup (itemsOn store.items day)) (hkey : group.key day = other.key day) :
    group = other := by
  obtain ⟨item, hitem, hregion⟩ := lookup_of_mem_groups hregions hgroup
  obtain ⟨item', hitem', hregion'⟩ := lookup_of_mem_groups hregions hother
  rw [hkey, hitem'] at hitem
  obtain rfl := Option.some.inj hitem
  obtain ⟨c, s, r⟩ := group
  obtain ⟨c', s', r'⟩ := other
  simp only [SpendGroup.key, LineItemKey.mk.injEq] at hkey hregion hregion'
  rw [hkey.1, hkey.2.1, ← hregion, hregion']

-- The row of the pass that writes under a key.
def writesUnder (rows : List ServiceDayRow) (key : LineItemKey) : Option ServiceDayRow :=
  rows.find? fun row => row.detected.isAnomaly && row.key = key

theorem of_writesUnder {rows : List ServiceDayRow} {key : LineItemKey} {row : ServiceDayRow}
    (h : writesUnder rows key = some row) : row ∈ rows ∧ row.detected.isAnomaly = true ∧ row.key = key := by
  unfold writesUnder at h
  have hwrites := List.find?_some h
  simp only [Bool.and_eq_true, decide_eq_true_eq] at hwrites
  exact ⟨List.mem_of_find?_eq_some h, hwrites⟩

theorem lookup_recordRows {rows : List ServiceDayRow} (hnodup : (rows.map ServiceDayRow.key).Nodup)
    (anomalies : Table LineItemKey CostAnomaly) (key : LineItemKey) :
    (recordRows toFixed anomalies rows).1.lookup key =
      match writesUnder rows key with
      | none => anomalies.lookup key
      | some row => some (upsertedAnomaly toFixed row (anomalies.lookup key)) := by
  induction rows generalizing anomalies with
  | nil => rfl
  | cons row rest ih =>
      obtain ⟨hfresh, hrest⟩ := List.nodup_cons.mp hnodup
      unfold recordRows
      cases hdetected : row.detected.isAnomaly with
      | false =>
          have hskip : writesUnder (row :: rest) key = writesUnder rest key := by simp [writesUnder, hdetected]
          rw [hskip]
          exact ih hrest anomalies
      | true =>
          have hnext := ih hrest (upsertAnomaly toFixed anomalies row)
          rw [upsertAnomaly, Table.lookup_insert_eq] at hnext
          refine hnext.trans ?_
          by_cases hsame : key = row.key
          · have hnone : writesUnder rest key = none := by
              apply List.find?_eq_none.mpr
              intro later hlater hwrites
              simp only [Bool.and_eq_true, decide_eq_true_eq] at hwrites
              exact hfresh (List.mem_map.mpr ⟨later, hlater, hwrites.2.trans hsame⟩)
            have hfound : writesUnder (row :: rest) key = some row := by simp [writesUnder, hdetected, hsame]
            rw [hnone, hfound, if_pos hsame, hsame]
          · have hskip : writesUnder (row :: rest) key = writesUnder rest key := by
              simp [writesUnder, Ne.symm hsame]
            rw [hskip, if_neg hsame]

theorem nodup_keys (hregions : RegionsCoalesced store.costLineItems) (hday : latestDay store.items = some day) :
    ((serviceDayRows store.items).map ServiceDayRow.key).Nodup := by
  rw [serviceDayRows_eq hday, List.map_map]
  apply List.Nodup.map_on _ (nodup_groups _)
  exact fun first hfirst second hsecond hkey => key_injective hregions hfirst hsecond hkey

-- What is written under a key: the row of the group that is found, if there is one.
theorem writesUnder_iff (hregions : RegionsCoalesced store.costLineItems) (hday : latestDay store.items = some day)
    {key : LineItemKey} {row : ServiceDayRow} :
    writesUnder (serviceDayRows store.items) key = some row ↔
      ∃ group, groupDetected store.items group = true ∧ group.key day = key ∧
        row = groupRow store.items day group := by
  have hsound : ∀ {row}, writesUnder (serviceDayRows store.items) key = some row →
      ∃ group, groupDetected store.items group = true ∧ group.key day = key ∧
        row = groupRow store.items day group := by
    intro row hfound
    obtain ⟨hmem, hdetected, hkey⟩ := of_writesUnder hfound
    rw [serviceDayRows_eq hday] at hmem
    obtain ⟨group, -, rfl⟩ := List.mem_map.mp hmem
    rw [isAnomaly_groupRow hday] at hdetected
    exact ⟨group, hdetected, hkey, rfl⟩
  refine ⟨hsound, ?_⟩
  rintro ⟨group, hdetected, rfl, rfl⟩
  have hgroup := mem_groups_of_detected hday hdetected
  have hsome : (writesUnder (serviceDayRows store.items) (group.key day)).isSome = true := by
    rw [writesUnder, List.find?_isSome]
    refine ⟨groupRow store.items day group, ?_, ?_⟩
    · rw [serviceDayRows_eq hday]
      exact List.mem_map_of_mem hgroup
    · rw [isAnomaly_groupRow hday, hdetected]
      exact decide_eq_true rfl
  obtain ⟨row, hrow⟩ := Option.isSome_iff_exists.mp hsome
  obtain ⟨other, hother, hkey, rfl⟩ := hsound hrow
  rw [hrow, key_injective hregions (mem_groups_of_detected hday hother) hgroup hkey]

theorem serviceDayRows_nil (hlatest : latestDay items = none) : serviceDayRows items = [] := by
  unfold serviceDayRows
  rw [hlatest]

theorem lookup_checkTenant (hregions : RegionsCoalesced store.costLineItems) (key : LineItemKey) :
    (checkTenant toFixed store).1.costAnomalies.lookup key =
      match writesUnder (serviceDayRows store.items) key with
      | none => store.costAnomalies.lookup key
      | some row => some (upsertedAnomaly toFixed row (store.costAnomalies.lookup key)) := by
  have hnodup : ((serviceDayRows store.items).map ServiceDayRow.key).Nodup := by
    cases hday : latestDay store.items with
    | none =>
        rw [serviceDayRows_nil hday]
        exact List.nodup_nil
    | some day => exact nodup_keys hregions hday
  exact lookup_recordRows toFixed hnodup store.costAnomalies key

-- The row of a group that is found, after the pass.
theorem recorded_of_detected (h : store.Consistent) (hday : latestDay store.items = some day)
    (hdetected : groupDetected store.items group = true) :
    ∃ anomaly, (checkTenant toFixed store).1.Recorded group day anomaly ∧
      anomaly.actualAmount = actualOn store.items day group ∧
      anomaly.baselineAmount = baselineBefore store.items day group := by
  have hwrites := (writesUnder_iff h.regions hday).mpr ⟨group, hdetected, rfl, rfl⟩
  unfold BillStore.Recorded
  rw [lookup_checkTenant toFixed h.regions, hwrites]
  refine ⟨_, ⟨rfl, ?_⟩, ?_⟩
  · cases hbefore : store.costAnomalies.lookup (group.key day) with
    | none => rfl
    | some anomaly =>
        obtain ⟨item, hitem, hregion⟩ := h.anomalies _ anomaly hbefore
        obtain ⟨other, hother, hgroup⟩ :=
          lookup_of_mem_groups h.regions (mem_groups_of_detected hday hdetected)
        rw [hother] at hitem
        obtain rfl := Option.some.inj hitem
        exact hregion.symm.trans hgroup
  · cases store.costAnomalies.lookup (group.key day) with
    | none => exact ⟨rfl, rfl⟩
    | some anomaly => exact ⟨rfl, rfl⟩

-- The rows of the other groups and days are there as before.
theorem recorded_of_not_detected (h : store.Consistent)
    (hnot : ¬(latestDay store.items = some day ∧ groupDetected store.items group = true)) :
    (∃ anomaly, (checkTenant toFixed store).1.Recorded group day anomaly) ↔
      ∃ anomaly, store.Recorded group day anomaly := by
  unfold BillStore.Recorded
  rw [lookup_checkTenant toFixed h.regions]
  cases hwrites : writesUnder (serviceDayRows store.items) (group.key day) with
  | none => exact Iff.rfl
  | some row =>
      cases hlatest : latestDay store.items with
      | none =>
          rw [serviceDayRows_nil hlatest] at hwrites
          cases hwrites
      | some latest =>
          -- the row is of another group under the same key, whose region is not the group's
          obtain ⟨other, hdetected, hkey, rfl⟩ := (writesUnder_iff h.regions hlatest).mp hwrites
          obtain rfl : latest = day := congrArg LineItemKey.usageDate hkey
          have hne : other ≠ group := fun he => hnot ⟨hlatest, he ▸ hdetected⟩
          have hregion : other.region ≠ group.region := by
            intro he
            obtain ⟨c, s, r⟩ := group
            obtain ⟨c', s', r'⟩ := other
            simp only [SpendGroup.key, LineItemKey.mk.injEq] at hkey he
            exact hne (by rw [hkey.1, hkey.2.1, he])
          cases hbefore : store.costAnomalies.lookup (group.key latest) with
          | none =>
              constructor
              · rintro ⟨anomaly, hanomaly, hsame⟩
                obtain rfl := Option.some.inj hanomaly
                exact absurd hsame hregion
              · rintro ⟨anomaly, hanomaly, -⟩
                cases hanomaly
          | some existing =>
              constructor
              · rintro ⟨anomaly, hanomaly, hsame⟩
                obtain rfl := Option.some.inj hanomaly
                exact ⟨existing, rfl, hsame⟩
              · rintro ⟨anomaly, hanomaly, hsame⟩
                obtain rfl := Option.some.inj hanomaly
                exact ⟨_, rfl, hsame⟩

theorem checkTenant_consistent (h : store.Consistent) : (checkTenant toFixed store).1.Consistent where
  regions := h.regions
  anomalies := by
    intro key anomaly hanomaly
    rw [lookup_checkTenant toFixed h.regions] at hanomaly
    cases hbefore : store.costAnomalies.lookup key with
    | some existing =>
        obtain ⟨item, hitem, hregion⟩ := h.anomalies key existing hbefore
        rw [hbefore] at hanomaly
        refine ⟨item, hitem, hregion.trans ?_⟩
        cases hwrites : writesUnder (serviceDayRows store.items) key with
        | none =>
            rw [hwrites] at hanomaly
            rw [Option.some.inj hanomaly]
        | some row =>
            rw [hwrites] at hanomaly
            rw [← Option.some.inj hanomaly]
            rfl
    | none =>
        cases hlatest : latestDay store.items with
        | none =>
            rw [serviceDayRows_nil hlatest, hbefore] at hanomaly
            cases hanomaly
        | some day =>
            cases hwrites : writesUnder (serviceDayRows store.items) key with
            | none =>
                rw [hwrites, hbefore] at hanomaly
                cases hanomaly
            | some row =>
                rw [hwrites, hbefore] at hanomaly
                obtain ⟨group, hdetected, rfl, rfl⟩ := (writesUnder_iff h.regions hlatest).mp hwrites
                obtain ⟨item, hitem, hregion⟩ :=
                  lookup_of_mem_groups h.regions (mem_groups_of_detected hlatest hdetected)
                rw [← Option.some.inj hanomaly]
                exact ⟨item, hitem, hregion⟩

end Check

section Runs

variable {toFixed : Float → Nat → String} {conv : Conversions}

theorem newTenant_consistent (lastPolledAt : Table Uuid (Option Nat)) : (newTenant lastPolledAt).Consistent where
  regions := by
    intro key item hitem
    cases hitem
  anomalies := by
    intro key anomaly hanomaly
    cases hanomaly

theorem billStep_consistent (store : BillStore) (event : BillEvent) (h : store.Consistent) :
    (billStep toFixed conv store event).Consistent := by
  cases event with
  | sync client credentialId today now =>
      obtain ⟨hregions, hkeeps⟩ :=
        (syncCredential_revises conv client credentialId today now).commit store.toCostStore
      refine ⟨hregions h.regions, fun key anomaly hanomaly => ?_⟩
      obtain ⟨item, hitem, hregion⟩ := h.anomalies key anomaly hanomaly
      obtain ⟨later, hlater, hsame⟩ := hkeeps key item hitem
      exact ⟨later, hlater, hsame.trans hregion⟩
  | check => exact checkTenant_consistent toFixed h

-- The event is a pass whose latest day is the given one, and it finds the group.
def finds (group : SpendGroup) (day : Date) (store : BillStore) : BillEvent → Prop
  | .sync .. => False
  | .check => latestDay store.items = some day ∧ groupDetected store.items group = true

theorem recorded_billStep (group : SpendGroup) (day : Date) (store : BillStore) (event : BillEvent)
    (h : store.Consistent) :
    (∃ anomaly, (billStep toFixed conv store event).Recorded group day anomaly) ↔
      finds group day store event ∨ ∃ anomaly, store.Recorded group day anomaly := by
  cases event with
  | sync client credentialId today now => simp [finds, billStep, BillStore.Recorded]
  | check =>
      by_cases hfinds : finds group day store .check
      · obtain ⟨anomaly, hrecorded, -⟩ := recorded_of_detected toFixed h hfinds.1 hfinds.2
        exact ⟨fun _ => .inl hfinds, fun _ => ⟨anomaly, hrecorded⟩⟩
      · rw [or_iff_right hfinds]
        exact recorded_of_not_detected toFixed h hfinds

-- Rows are written by passes, and stay.
theorem recorded_iff_found (lastPolledAt : Table Uuid (Option Nat)) (events : List BillEvent) (group : SpendGroup)
    (day : Date) :
    (∃ anomaly, (run (billStep toFixed conv) (newTenant lastPolledAt) events).Recorded group day anomaly) ↔
      ∃ earlier event later, events = earlier ++ event :: later ∧
        finds group day (run (billStep toFixed conv) (newTenant lastPolledAt) earlier) event := by
  refine set_iff (fun store : BillStore => ∃ anomaly, store.Recorded group day anomaly) events
    (newTenant_consistent lastPolledAt) billStep_consistent (recorded_billStep group day) ?_
  rintro ⟨anomaly, hanomaly, -⟩
  cases hanomaly

-- The anomalies of the latest day are those the bill has now, with its amounts.
structure BillStore.ReflectsBillOn (store : BillStore) (day : Date) : Prop where
  recorded : ∀ group, (∃ anomaly, store.Recorded group day anomaly) ↔ groupDetected store.items group = true
  amounts : ∀ group anomaly, store.Recorded group day anomaly →
    anomaly.actualAmount = actualOn store.items day group ∧
      anomaly.baselineAmount = baselineBefore store.items day group

theorem reflectsBillOn_check_iff {store : BillStore} {day : Date} (h : store.Consistent)
    (hday : latestDay store.items = some day) :
    (checkTenant toFixed store).1.ReflectsBillOn day ↔
      ∀ group anomaly, store.Recorded group day anomaly → groupDetected store.items group = true := by
  have hkept : ∀ {group}, ¬groupDetected store.items group = true →
      ((∃ anomaly, (checkTenant toFixed store).1.Recorded group day anomaly) ↔
        ∃ anomaly, store.Recorded group day anomaly) :=
    fun hnot => recorded_of_not_detected toFixed h fun hfinds => hnot hfinds.2
  constructor
  · intro hreflects group anomaly hanomaly
    by_contra hnot
    exact hnot ((hreflects.recorded group).mp ((hkept hnot).mpr ⟨anomaly, hanomaly⟩))
  · intro hall
    have hdetected : ∀ group, (∃ anomaly, (checkTenant toFixed store).1.Recorded group day anomaly) →
        groupDetected store.items group = true := by
      intro group hafter
      by_contra hnot
      obtain ⟨anomaly, hanomaly⟩ := (hkept hnot).mp hafter
      exact hnot (hall group anomaly hanomaly)
    refine ⟨fun group => ⟨hdetected group, fun hnow => ?_⟩, fun group anomaly hanomaly => ?_⟩
    · obtain ⟨anomaly, hanomaly, -⟩ := recorded_of_detected toFixed h hday hnow
      exact ⟨anomaly, hanomaly⟩
    · obtain ⟨written, hwritten, hamounts⟩ :=
        recorded_of_detected toFixed h hday (hdetected group ⟨anomaly, hanomaly⟩)
      have hsame := hwritten.1.symm.trans hanomaly.1
      rw [← Option.some.inj hsame]
      exact hamounts

-- The rows of a day are right exactly if no pass has found on it, as the latest day, what
-- the bill no longer shows.
theorem anomalies_reflect_bill_iff (toFixed : Float → Nat → String) (conv : Conversions)
    (lastPolledAt : Table Uuid (Option Nat)) (events : List BillEvent) :
    let after := run (billStep toFixed conv) (newTenant lastPolledAt)
    (∀ day ∈ latestDay (after events).items, (after (events ++ [.check])).ReflectsBillOn day) ↔
      ∀ earlier later, events = earlier ++ .check :: later →
        latestDay (after earlier).items = latestDay (after events).items →
        ∀ group, groupDetected (after earlier).items group = true →
          groupDetected (after events).items group = true := by
  intro after
  have hconsistent : (after events).Consistent :=
    (always_of_step _ (newTenant_consistent lastPolledAt) billStep_consistent events).last
  have hcheck : after (events ++ [.check]) = (checkTenant toFixed (after events)).1 := run_append _ _ _
  rw [hcheck]
  constructor
  · intro h earlier later hevents hlatest group hfound
    cases hday : latestDay (after events).items with
    | none =>
        unfold groupDetected at hfound
        rw [hlatest, hday] at hfound
        cases hfound
    | some day =>
        have hall := (reflectsBillOn_check_iff hconsistent hday).mp (h day hday)
        obtain ⟨anomaly, hanomaly⟩ := (recorded_iff_found lastPolledAt events group day).mpr
          ⟨earlier, .check, later, hevents, hlatest.trans hday, hfound⟩
        exact hall group anomaly hanomaly
  · intro h day hday
    refine (reflectsBillOn_check_iff hconsistent hday).mpr fun group anomaly hanomaly => ?_
    obtain ⟨earlier, event, later, hevents, hfinds⟩ :=
      (recorded_iff_found lastPolledAt events group day).mp ⟨anomaly, hanomaly⟩
    cases event with
    | sync => exact hfinds.elim
    | check => exact h earlier later hevents (hfinds.1.trans hday.symm) group hfinds.2

end Runs

def fifthOfMarch : Conversions where
  castDate text := if text = "2026-03-05" then some ⟨2026, 3, 5⟩ else none
  isoDate := some
  number _ := 0

def virtualMachines : SpendGroup := ⟨1, "EC2", some "us-east-1"⟩

-- The provider's word on what the machines cost that day.
def billed (amount : ℚ) : BillEvent :=
  .sync (fun _ _ => .ok [
    { service := "EC2"
      region := some "us-east-1"
      usageDate := "2026-03-05"
      amount := amount
      currency := "USD"
      tags := none
      raw := "\x7b\x7d" }]) 1 ⟨2026, 3, 6⟩ 0

-- A first estimate of 300 is found, and is revised to 4.
def revisedDown : BillStore :=
  run (billStep (fun _ _ => "") fifthOfMarch) (newTenant (AList.singleton 1 none))
    [billed 300, .check, billed 4, .check]

theorem revised_anomaly_stays : ¬ ∀ day ∈ latestDay revisedDown.items, revisedDown.ReflectsBillOn day := by
  intro h
  have hreflects := h ⟨2026, 3, 5⟩ (by decide +kernel)
  have hregion : (revisedDown.costAnomalies.lookup (virtualMachines.key ⟨2026, 3, 5⟩)).map CostAnomaly.region =
      some (some "us-east-1") := by decide +kernel
  obtain ⟨anomaly, hanomaly, hsame⟩ := Option.map_eq_some_iff.mp hregion
  have hdetected := (hreflects.recorded virtualMachines).mp ⟨anomaly, hanomaly, hsame⟩
  exact absurd hdetected (by decide +kernel)

end CloudOps.Cost
