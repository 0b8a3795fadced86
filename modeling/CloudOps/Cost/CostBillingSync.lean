import CloudOps.Cost.CostLineItem
import CloudOps.Transaction
import CloudOps.Upserts

namespace CloudOps.Cost

open CloudOps.ReadCommitted CloudOps.Transaction CloudOps.Upserts
open CloudOps.Ticketing (Uuid)

abbrev CostM := StateT CostStore (Except ServiceError)

-- A client of a billing API: the line items between two dates, or its exception.
abbrev CloudProviderClient := String → String → Except ServiceError (List CloudCostLineItem)

-- TRAILING_MONTHS
def trailingMonths : Nat := 7

-- From the first of the sixth month before today's up to tomorrow, which is not part
-- of it.
def syncWindow (today : Date) : SyncWindow := ⟨today.firstOfMonth (trailingMonths - 1), today.next⟩

variable (conv : Conversions)

-- $5::date
def castDate (text : String) : CostM Date :=
  match conv.castDate text with
  | some date => pure date
  | none => throw (.error s!"invalid input syntax for type date: {text}")

def newLineItem (item : CloudCostLineItem) (now : Nat) : CostLineItem where
  region := item.region
  amount := item.amount
  currency := item.currency
  tags := normalizeAllocationTags item.tags
  raw := item.raw
  syncedAt := now

-- INSERT .. ON CONFLICT (..) DO UPDATE: the row that is there keeps its region.
def upsertLineItem (credentialId : Uuid) (item : CloudCostLineItem) (now : Nat) : CostM Unit := do
  let usageDate ← castDate conv item.usageDate
  let key : LineItemKey := ⟨credentialId, item.service, item.region.getD "", usageDate⟩
  let store ← get
  if credentialId ∉ store.lastPolledAt then throw (.error "foreign key constraint violated")
  else
    let excluded := newLineItem item now
    let row :=
      match store.costLineItems.lookup key with
      | none => excluded
      | some existing => { excluded with region := existing.region }
    modify fun store => { store with costLineItems := store.costLineItems.insert key row }

def upsertLineItems (credentialId : Uuid) (now : Nat) : List CloudCostLineItem → CostM Unit
  | [] => pure ()
  | item :: rest => do
      upsertLineItem conv credentialId item now
      upsertLineItems credentialId now rest

-- UPDATE cloud_credentials SET last_polled_at = now() WHERE id = $1
def stampPolled (credentialId : Uuid) (now : Nat) : CostM Unit :=
  modify fun store =>
    if credentialId ∈ store.lastPolledAt then
      { store with lastPolledAt := store.lastPolledAt.insert credentialId (some now) }
    else store

-- CostBillingSyncService.syncCredential
def syncCredential (client : CloudProviderClient) (credentialId : Uuid) (today : Date) (now : Nat) :
    CostM Nat := do
  let window := syncWindow today
  match client window.startDate.iso window.endDate.iso with
  | .error error => throw error
  | .ok lineItems =>
      upsertLineItems conv credentialId now lineItems
      stampPolled credentialId now
      return lineItems.length

-- The amount that stands under each key.
def amounts (store : CostStore) (key : LineItemKey) : Option ℚ :=
  (store.costLineItems.lookup key).map CostLineItem.amount

-- What the items charge, under the keys their rows get.
def charges (credentialId : Uuid) (items : List CloudCostLineItem) : List (LineItemKey × ℚ) :=
  items.filterMap fun item => (conv.castDate item.usageDate).map fun date =>
    (⟨credentialId, item.service, item.region.getD "", date⟩, item.amount)

theorem amounts_insert (store : CostStore) (key : LineItemKey) (row : CostLineItem) :
    amounts { store with costLineItems := store.costLineItems.insert key row } =
      Function.update (amounts store) key (some row.amount) := by
  funext other
  unfold amounts
  rw [Table.lookup_insert_eq]
  by_cases hsame : other = key
  · subst hsame
    simp
  · simp [hsame]

variable {conv}

theorem castDate_ensures (text : String) (before : CostStore) :
    Ensures (castDate conv text) before fun date after => before = after ∧ conv.castDate text = some date := by
  unfold castDate
  split
  · rename_i date hdate
    exact .pure ⟨rfl, hdate⟩
  · exact .throw _

-- An upsert writes the item's amount under the item's key, whether or not a row is
-- there.
theorem upsertLineItem_ensures (credentialId : Uuid) (item : CloudCostLineItem) (now : Nat)
    (before : CostStore) : Ensures (upsertLineItem conv credentialId item now) before fun _ after =>
      ∃ date, conv.castDate item.usageDate = some date ∧ amounts after = Function.update (amounts before)
        ⟨credentialId, item.service, item.region.getD "", date⟩ (some item.amount) := by
  refine (castDate_ensures item.usageDate before).bind ?_
  rintro date _ ⟨rfl, hdate⟩
  refine .get_bind ?_
  split
  · exact .throw _
  · refine .modify ⟨date, hdate, ?_⟩
    rw [amounts_insert]
    split
    · rfl
    · rfl

theorem upsertLineItems_ensures (credentialId : Uuid) (now : Nat) (items : List CloudCostLineItem)
    (before : CostStore) : Ensures (upsertLineItems conv credentialId now items) before fun _ after =>
      amounts after = upsertAll (charges conv credentialId items) (amounts before) := by
  induction items generalizing before with
  | nil => exact .pure rfl
  | cons item rest ih =>
      refine (upsertLineItem_ensures credentialId item now before).bind ?_
      rintro _ middle ⟨date, hdate, hmiddle⟩
      refine (ih middle).mono fun _ after hafter => ?_
      rw [hafter, hmiddle]
      simp [charges, hdate, upsertAll]

-- A sync that succeeds has upserted what its client returned.
theorem syncCredential_ensures {client : CloudProviderClient} {today : Date} {items : List CloudCostLineItem}
    (hitems : client (syncWindow today).startDate.iso (syncWindow today).endDate.iso = .ok items)
    (credentialId : Uuid) (now : Nat) (before : CostStore) :
    Ensures (syncCredential conv client credentialId today now) before fun _ after =>
      amounts after = upsertAll (charges conv credentialId items) (amounts before) := by
  unfold syncCredential
  simp only [hitems]
  refine (upsertLineItems_ensures credentialId now items before).bind fun _ middle hmiddle => ?_
  refine .modify_bind (.pure ?_)
  rw [← hmiddle]
  split
  · rfl
  · rfl

end CloudOps.Cost

namespace CloudOps.Cost

open CloudOps.ReadCommitted CloudOps.Transaction CloudOps.Upserts
open CloudOps.Ticketing (Uuid)

variable (conv : Conversions)

-- The keys of a credential's rows with a usage date in the window.
def inWindow (credentialId : Uuid) (window : SyncWindow) : Set LineItemKey :=
  { key | key.cloudCredentialId = credentialId ∧ window.contains key.usageDate = true }

-- The rows of the credential in the window are, key by key, one with the sum of the
-- items' amounts; where the items have no such key there is none.
def Converged (credentialId : Uuid) (window : SyncWindow) (items : List CloudCostLineItem)
    (store : CostStore) : Prop :=
  ∀ key ∈ inWindow credentialId window, amounts store key = total (charges conv credentialId items) key

-- Of each key the last item's amount is the sum of all items' amounts.
def LastIsTotal (credentialId : Uuid) (window : SyncWindow) (items : List CloudCostLineItem) : Prop :=
  LastIsSum (charges conv credentialId items) (inWindow credentialId window)

-- No row of the credential stands in the window under a key that no item has.
def NoneStale (credentialId : Uuid) (window : SyncWindow) (items : List CloudCostLineItem)
    (store : CostStore) : Prop :=
  ∀ key ∈ inWindow credentialId window, valuesOf (charges conv credentialId items) key = [] →
    store.costLineItems.lookup key = none

-- The credential's rows in the window have the same keys and amounts.
def SameBill (credentialId : Uuid) (window : SyncWindow) (store other : CostStore) : Prop :=
  ∀ key ∈ inWindow credentialId window, amounts store key = amounts other key

variable {conv}

-- The list alone decides what a sync that converges leaves in the window.
theorem Converged.iff_sameBill {credentialId : Uuid} {window : SyncWindow} {items : List CloudCostLineItem}
    {other : CostStore} (hother : Converged conv credentialId window items other) (store : CostStore) :
    Converged conv credentialId window items store ↔ SameBill credentialId window store other := by
  constructor
  · exact fun h key hkey => (h key hkey).trans (hother key hkey).symm
  · exact fun h key hkey => (h key hkey).trans (hother key hkey)

-- The same list once more leaves every amount as one sync does.
theorem resync_keeps_amounts {client : CloudProviderClient} {today : Date} {items : List CloudCostLineItem}
    (hitems : client (syncWindow today).startDate.iso (syncWindow today).endDate.iso = .ok items)
    (credentialId : Uuid) (first second : Nat) (store : CostStore) :
    Ensures (syncCredential conv client credentialId today first >>= fun _ =>
        syncCredential conv client credentialId today second) store fun _ after =>
      amounts after = upsertAll (charges conv credentialId items) (amounts store) := by
  refine (syncCredential_ensures hitems credentialId first store).bind fun _ middle hmiddle => ?_
  refine (syncCredential_ensures hitems credentialId second middle).mono fun _ after hafter => ?_
  rw [hafter, hmiddle, upsertAll_idem]

-- A sync that succeeds converges exactly if no key's items differ from the last one in
-- what they come to and no row has become stale; and then, and only then, it leaves
-- what any other sync that converged to the list has left.
theorem sync_converges_iff {client : CloudProviderClient} {today : Date} {items : List CloudCostLineItem}
    (hitems : client (syncWindow today).startDate.iso (syncWindow today).endDate.iso = .ok items)
    (credentialId : Uuid) (now count : Nat) (store after : CostStore)
    (hrun : (syncCredential conv client credentialId today now).run store = .ok (count, after)) :
    (Converged conv credentialId (syncWindow today) items after ↔
      LastIsTotal conv credentialId (syncWindow today) items ∧
        NoneStale conv credentialId (syncWindow today) items store) ∧
    ∀ other, Converged conv credentialId (syncWindow today) items other →
      (Converged conv credentialId (syncWindow today) items after ↔
        SameBill credentialId (syncWindow today) after other) := by
  refine ⟨?_, fun other hother => hother.iff_sameBill after⟩
  have hafter := syncCredential_ensures hitems credentialId now store count after hrun
  unfold Converged
  rw [hafter, upsertAll_eq_total_iff]
  simp only [LastIsTotal, NoneStale, amounts, Option.map_eq_none_iff]

-- A DigitalOcean account that has been polled never, and its history of one day.
def newAccount : CostStore where
  costLineItems := ∅
  lastPolledAt := (∅ : Table Uuid (Option Nat)).insert 1 none

def firstOfJuly : Conversions where
  castDate text := if text = "2026-07-01" then some ⟨2026, 7, 1⟩ else none
  isoDate text := if text = "2026-07-01T00:00:00Z" then some "2026-07-01" else none
  number text := if text = "5.00" then 5 else if text = "7.00" then 7 else 0

def invoice (description amount : String) : BillingEntry where
  description := some description
  amount := some amount
  type := some "Invoice"
  date := some "2026-07-01T00:00:00Z"
  json := "\x7b\x7d"

def billedBy (billingHistory : List BillingEntry) : CloudProviderClient := fun startDate endDate =>
  .ok (digitalOceanLineItems firstOfJuly startDate endDate billingHistory)

def inJuly : Date := ⟨2026, 7, 15⟩

theorem differentServices_converge :
    ∃ count after items, (syncCredential firstOfJuly (billedBy [invoice "Droplets" "5.00", invoice "Spaces" "7.00"])
        1 inJuly 100).run newAccount = .ok (count, after) ∧ items.length = 2 ∧
      Converged firstOfJuly 1 (syncWindow inJuly) items after := by
  let items := digitalOceanLineItems firstOfJuly (syncWindow inJuly).startDate.iso (syncWindow inJuly).endDate.iso
    [invoice "Droplets" "5.00", invoice "Spaces" "7.00"]
  have hkeys : ((charges firstOfJuly 1 items).map Prod.fst).Nodup := by decide +kernel
  cases hrun : (syncCredential firstOfJuly (billedBy [invoice "Droplets" "5.00", invoice "Spaces" "7.00"])
      1 inJuly 100).run newAccount with
  | error error =>
      have hok : ((syncCredential firstOfJuly (billedBy [invoice "Droplets" "5.00", invoice "Spaces" "7.00"])
          1 inJuly 100).run newAccount).toOption.isSome = true := by decide +kernel
      rw [hrun] at hok
      cases hok
  | ok pair =>
      refine ⟨pair.1, pair.2, items, rfl, by decide +kernel, ?_⟩
      refine (sync_converges_iff rfl 1 100 pair.1 newAccount pair.2 hrun).1.mpr ⟨?_, ?_⟩
      · exact lastIsSum_of_nodup hkeys _
      · exact fun key _ _ => AList.lookup_empty key

-- Of two entries of one day under one name the second overwrites the first.
theorem repeated_entry_overwritten :
    ¬ ∀ count after, (syncCredential firstOfJuly (billedBy [invoice "Droplets" "5.00", invoice "Droplets" "7.00"])
        1 inJuly 100).run newAccount = .ok (count, after) →
      Converged firstOfJuly 1 (syncWindow inJuly) (digitalOceanLineItems firstOfJuly
        (syncWindow inJuly).startDate.iso (syncWindow inJuly).endDate.iso
        [invoice "Droplets" "5.00", invoice "Droplets" "7.00"]) after := by
  intro h
  let key : LineItemKey := ⟨1, "Droplets", "", ⟨2026, 7, 1⟩⟩
  have hstored : ((syncCredential firstOfJuly (billedBy [invoice "Droplets" "5.00", invoice "Droplets" "7.00"])
      1 inJuly 100).run newAccount).toOption.map (fun pair => amounts pair.2 key) = some (some 7) := by
    decide +kernel
  obtain ⟨⟨count, after⟩, hpair, hamount⟩ := Option.map_eq_some_iff.mp hstored
  have hrun : (syncCredential firstOfJuly (billedBy [invoice "Droplets" "5.00", invoice "Droplets" "7.00"])
      1 inJuly 100).run newAccount = .ok (count, after) := by
    generalize (syncCredential firstOfJuly (billedBy [invoice "Droplets" "5.00", invoice "Droplets" "7.00"])
      1 inJuly 100).run newAccount = result at hpair ⊢
    cases result with
    | error error => cases hpair
    | ok pair => exact congrArg Except.ok (Option.some.inj hpair)
  have hconverged := h count after hrun key ⟨rfl, by decide +kernel⟩
  have htotal : total (charges firstOfJuly 1 (digitalOceanLineItems firstOfJuly
      (syncWindow inJuly).startDate.iso (syncWindow inJuly).endDate.iso
      [invoice "Droplets" "5.00", invoice "Droplets" "7.00"])) key = some 12 := by decide +kernel
  rw [htotal, hamount] at hconverged
  exact absurd hconverged (by decide +kernel)

end CloudOps.Cost
