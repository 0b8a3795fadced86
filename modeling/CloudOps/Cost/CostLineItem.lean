import CloudOps.ReadCommitted.Table
import CloudOps.ServiceError
import CloudOps.Ticketing.Automation
import Mathlib.Data.Rat.Defs

namespace CloudOps.Cost

open CloudOps.ReadCommitted
open CloudOps.Ticketing (Uuid trim)

-- A day of the calendar; months and days count from one.
structure Date where
  year : Nat
  month : Nat
  day : Nat
  deriving DecidableEq

def Date.before (first second : Date) : Bool :=
  first.year < second.year || first.year == second.year &&
    (first.month < second.month || first.month == second.month && first.day < second.day)

def daysInMonth (year month : Nat) : Nat :=
  if month = 2 then
    if year % 4 = 0 && (year % 100 ≠ 0 || year % 400 = 0) then 29 else 28
  else if month = 4 || month = 6 || month = 9 || month = 11 then 30
  else 31

def Date.next (date : Date) : Date :=
  if date.day < daysInMonth date.year date.month then { date with day := date.day + 1 }
  else if date.month < 12 then ⟨date.year, date.month + 1, 1⟩
  else ⟨date.year + 1, 1, 1⟩

-- The first day of the month so many months before the date's own.
def Date.firstOfMonth (date : Date) (monthsBefore : Nat) : Date :=
  let months := date.year * 12 + (date.month - 1) - monthsBefore
  ⟨months / 12, months % 12 + 1, 1⟩

def padded (width number : Nat) : List Char :=
  let digits := Nat.toDigits 10 number
  List.replicate (width - digits.length) '0' ++ digits

-- toISOString().slice(0, 10)
def Date.iso (date : Date) : String :=
  .ofList (padded 4 date.year ++ '-' :: padded 2 date.month ++ '-' :: padded 2 date.day)

-- From the first day on, up to the last one, which is not among them.
structure SyncWindow where
  startDate : Date
  endDate : Date

def SyncWindow.contains (window : SyncWindow) (date : Date) : Bool :=
  !date.before window.startDate && date.before window.endDate

-- The value of a tag, a number as String shows it. Null, objects and lists are `other`.
inductive TagValue where
  | string (value : String)
  | number (text : String)
  | boolean (value : Bool)
  | other

def TagValue.string? : TagValue → Option String
  | string value => value
  | number text => text
  | boolean value => if value then "true" else "false"
  | other => none

-- out[key] = value. Of a plain object this sets no property named __proto__.
def setProperty (out : List (String × String)) (key value : String) : List (String × String) :=
  if key = "__proto__" then out
  else if (out.map Prod.fst).contains key then
    out.map fun property => if property.1 = key then (key, value) else property
  else out ++ [(key, value)]

-- The entries are those of Object.entries, in its order.
def normalizeAllocationTags (source : Option (List (String × TagValue))) : List (String × String) :=
  (source.getD []).foldl (fun out entry =>
    let key := trim entry.1
    let value := (entry.2.string?.map trim).getD ""
    if key = "" || value = "" then out else setProperty out key value) []

-- What a provider client returns; `raw` is the record as JSON text.
structure CloudCostLineItem where
  service : String
  region : Option String
  usageDate : String
  amount : ℚ
  currency : String
  tags : Option (List (String × TagValue))
  raw : String

-- What the database's date type and the runtime compute of a text: the date it stands
-- for, toISOString().slice(0, 10) of it (none for an invalid date), and its number.
structure Conversions where
  castDate : String → Option Date
  isoDate : String → Option String
  number : String → ℚ

variable (conv : Conversions)

def toIsoDate (value : String) : String := (conv.isoDate value).getD (.ofList (value.toList.take 10))

-- An entry of DigitalOcean's billing history, and its JSON text.
structure BillingEntry where
  description : Option String
  amount : Option String
  type : Option String
  date : Option String
  json : String

def truthy (text : Option String) : Option String := text.filter fun text => text ≠ ""

-- first < second, of two strings.
def comesBefore (first second : String) : Bool :=
  first.toList.lex second.toList fun c d => decide (c.toNat < d.toNat)

-- Math.abs
def absolute (number : ℚ) : ℚ := if number < 0 then -number else number

-- DigitalOceanCloudProviderClient.getCostAndUsage, of the history it is answered. A
-- missing date is shown as undefined.
def digitalOceanLineItems (startDate endDate : String) (billingHistory : List BillingEntry) :
    List CloudCostLineItem :=
  let dated := billingHistory.filter fun entry =>
    let date := toIsoDate conv (entry.date.getD "undefined")
    !comesBefore date startDate && comesBefore date endDate
  dated.map fun entry =>
    { service := ((truthy entry.description).or (truthy entry.type)).getD "DigitalOcean"
      region := none
      usageDate := toIsoDate conv (entry.date.getD "undefined")
      amount := absolute (entry.amount.elim 0 conv.number)
      currency := "USD"
      tags := none
      raw := entry.json }

-- The columns of the unique index on cost_line_items.
structure LineItemKey where
  cloudCredentialId : Uuid
  service : String
  coalescedRegion : String
  usageDate : Date
  deriving DecidableEq

-- The other columns.
structure CostLineItem where
  region : Option String
  amount : ℚ
  currency : String
  tags : List (String × String)
  raw : String
  syncedAt : Nat

-- cost_line_items under its unique index, and last_polled_at of cloud_credentials.
structure CostStore where
  costLineItems : Table LineItemKey CostLineItem
  lastPolledAt : Table Uuid (Option Nat)

-- Leap years, and the turn of the year.
example : (Date.next ⟨2028, 2, 28⟩, Date.next ⟨2026, 12, 31⟩, Date.iso (.firstOfMonth ⟨2026, 3, 31⟩ 6)) =
    (⟨2028, 2, 29⟩, ⟨2027, 1, 1⟩, "2025-09-01") := by decide +kernel

end CloudOps.Cost
