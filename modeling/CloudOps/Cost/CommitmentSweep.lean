import CloudOps.Cost.CostLineItem
import CloudOps.SharedTransaction
import Mathlib.Algebra.Order.Floor.Ring
import Mathlib.Data.Rat.Floor

namespace CloudOps.Cost

open CloudOps.ReadCommitted CloudOps.SharedTransaction
open CloudOps.Ticketing (Uuid)

inductive CommitmentKind where
  | reservedInstance
  | savingsPlan
  deriving DecidableEq

def CommitmentKind.discountPct : CommitmentKind → ℚ
  | reservedInstance => 35 / 100
  | savingsPlan => 27 / 100

def COMMITMENT_KINDS : List CommitmentKind := [.reservedInstance, .savingsPlan]

def BASELINE_PERCENTILE : ℚ := 2 / 10

def MIN_DAYS : Nat := 14

def UPFRONT_SHARE : ℚ := 1 / 2

structure CommitmentRecommendation where
  kind : CommitmentKind
  recommendedDailyCommitment : ℚ
  recommendedHourlyCommitment : ℚ
  estimatedMonthlySavings : ℚ
  breakEvenMonths : ℚ
  basedOnDays : Nat

def percentile (sorted : List ℚ) (p : ℚ) : ℚ :=
  let index := p * ((sorted.length : ℚ) - 1)
  let lower := ⌊index⌋₊
  let upper := ⌈index⌉₊
  let weight := index - lower
  sorted.getD lower 0 * (1 - weight) + sorted.getD upper 0 * weight

def recommendCommitment (dailySpend : List ℚ) (kind : CommitmentKind) : Option CommitmentRecommendation :=
  if dailySpend.length < MIN_DAYS then none
  else
    let sorted := dailySpend.mergeSort
    let recommendedDailyCommitment := percentile sorted BASELINE_PERCENTILE
    if recommendedDailyCommitment ≤ 0 then none
    else
      let discountPct := kind.discountPct
      let estimatedMonthlySavings := recommendedDailyCommitment * 30 * discountPct
      let annualDiscountedCost := recommendedDailyCommitment * 365 * (1 - discountPct)
      let upfrontCost := annualDiscountedCost * UPFRONT_SHARE
      some {
        kind := kind
        recommendedDailyCommitment := recommendedDailyCommitment
        recommendedHourlyCommitment := recommendedDailyCommitment / 24
        estimatedMonthlySavings := estimatedMonthlySavings
        breakEvenMonths := upfrontCost / estimatedMonthlySavings
        basedOnDays := dailySpend.length }

-- A scope of spend, with its trailing days.
structure ScopeRow where
  cloudCredentialId : Uuid
  service : String
  region : Option String
  amounts : List ℚ
  deriving DecidableEq

structure CommitmentKey where
  cloudCredentialId : Uuid
  service : String
  region : Option String
  kind : CommitmentKind
  deriving DecidableEq

inductive CommitmentStatus where
  | open
  | dismissed
  deriving DecidableEq

structure CommitmentRow where
  recommendedHourlyCommitment : ℚ
  estimatedMonthlySavings : ℚ
  breakEvenMonths : ℚ
  basedOnDays : Nat
  status : CommitmentStatus
  createdAt : Nat
  updatedAt : Nat
  deriving DecidableEq

-- commitment_recommendations of one tenant, by what its SELECT looks for.
abbrev CommitmentTable := Table CommitmentKey CommitmentRow

-- now(), and whether a statement for a scope and kind fails: a connection that is
-- lost, or an INSERT that the unique index refuses, as it takes a null region for ''.
structure CommitmentReads where
  fault : ScopeRow → CommitmentKind → Option String
  now : Nat

abbrev CommitmentM := SessionM String CommitmentTable

def ScopeRow.key (scope : ScopeRow) (kind : CommitmentKind) : CommitmentKey :=
  ⟨scope.cloudCredentialId, scope.service, scope.region, kind⟩

def CommitmentRecommendation.row (recommendation : CommitmentRecommendation) (now : Nat) : CommitmentRow where
  recommendedHourlyCommitment := recommendation.recommendedHourlyCommitment
  estimatedMonthlySavings := recommendation.estimatedMonthlySavings
  breakEvenMonths := recommendation.breakEvenMonths
  basedOnDays := recommendation.basedOnDays
  status := .open
  createdAt := now
  updatedAt := now

variable (reads : CommitmentReads)

def selectExisting (scope : ScopeRow) (kind : CommitmentKind) : CommitmentM (Option CommitmentRow) :=
  statement "current transaction is aborted, commands ignored until end of transaction block" fun table =>
    match reads.fault scope kind with
    | some error => .error error
    | none => .ok (table.lookup (scope.key kind), table)

def putCommitment (key : CommitmentKey) (row : CommitmentRow) : CommitmentM Unit :=
  statement "current transaction is aborted, commands ignored until end of transaction block" fun table =>
    .ok ((), table.insert key row)

-- CommitmentSweepService.evaluateScope
def evaluateScope (scope : ScopeRow) (kind : CommitmentKind) : CommitmentM Bool := do
  let recommendation := recommendCommitment scope.amounts kind
  let existing ← selectExisting reads scope kind
  match recommendation with
  | none => return false
  | some recommendation =>
      match existing with
      | none =>
          putCommitment (scope.key kind) (recommendation.row reads.now)
          return true
      | some row =>
          putCommitment (scope.key kind) { recommendation.row reads.now with createdAt := row.createdAt }
          return true

-- The two loops of sweepTenant, over the scopes it has loaded.
def scopeKinds (scopes : List ScopeRow) : List (ScopeRow × CommitmentKind) :=
  scopes.flatMap fun scope => COMMITMENT_KINDS.map fun kind => (scope, kind)

def sweepScopes (items : List (ScopeRow × CommitmentKind)) : CommitmentM Nat :=
  countCaught (fun item => evaluateScope reads item.1 item.2) items 0

end CloudOps.Cost
