import CloudOps.Buckets
import CloudOps.OrderStatistics
import Mathlib.Algebra.BigOperators.Group.List.Basic
import Mathlib.Algebra.Order.Ring.Rat
import Mathlib.Data.Rat.Floor
import Mathlib.Tactic.FieldSimp

namespace CloudOps.Monitoring.Apm

open CloudOps.OrderStatistics

def DEFAULT_APDEX_TOLERATING_MS : ℚ := 500
def DEFAULT_STATS_WINDOW_MS : Nat := 24 * 60 * 60 * 1000

-- A row of apm_traces.
structure ApmTrace where
  service : String
  transaction : String
  ts : Nat
  durationMs : ℚ
  status : String

section Percentile

def percentile (values : List ℚ) (p : ℚ) : ℚ :=
  if values.length = 0 then 0
  else
    let sorted := values.mergeSort
    let rank := ⌈p / 100 * sorted.length⌉
    let index := min (max (rank - 1) 0) (sorted.length - 1)
    sorted.getD index.toNat 0

structure LatencyStats where
  count : Nat
  errorCount : Nat
  errorRatePct : ℚ
  p50 : ℚ
  p95 : ℚ
  p99 : ℚ
  avg : ℚ
  apdex : Option ℚ

def satisfied (durations : List ℚ) (apdexToleratingMs : ℚ) : Nat :=
  durations.countP fun d => d ≤ apdexToleratingMs

def tolerating (durations : List ℚ) (apdexToleratingMs : ℚ) : Nat :=
  durations.countP fun d => !decide (d ≤ apdexToleratingMs) && decide (d ≤ apdexToleratingMs * 4)

def computeLatencyStats (durations : List ℚ) (statuses : List String) (apdexToleratingMs : ℚ) : LatencyStats :=
  let count := durations.length
  if count = 0 then ⟨0, 0, 0, 0, 0, 0, 0, none⟩
  else
    let errorCount := statuses.countP fun s => s = "error"
    let avg := durations.sum / count
    let apdex := (satisfied durations apdexToleratingMs + tolerating durations apdexToleratingMs / 2 : ℚ) / count
    { count := count
      errorCount := errorCount
      errorRatePct := (errorCount : ℚ) / count * 100
      p50 := percentile durations 50
      p95 := percentile durations 95
      p99 := percentile durations 99
      avg := avg
      apdex := some apdex }

end Percentile

section Service

structure Bucket where
  durations : List ℚ
  statuses : List String

def Bucket.push (bucket : Bucket) (row : ApmTrace) : Bucket :=
  ⟨bucket.durations ++ [row.durationMs], bucket.statuses ++ [row.status]⟩

-- byTransaction.set, which keeps the place a key has
def pushTo (row : ApmTrace) : List (String × Bucket) → List (String × Bucket)
  | [] => [(row.transaction, Bucket.push ⟨[], []⟩ row)]
  | (transaction, bucket) :: rest =>
      if transaction = row.transaction then (transaction, bucket.push row) :: rest
      else (transaction, bucket) :: pushTo row rest

def byTransaction (rows : List ApmTrace) : List (String × Bucket) :=
  rows.foldl (fun buckets row => pushTo row buckets) []

structure StatsOptions where
  fromTs : Option Nat
  toTs : Option Nat
  apdexToleratingMs : Option ℚ

structure TransactionStats extends LatencyStats where
  transaction : String

structure ServiceStats where
  service : String
  overall : LatencyStats
  transactions : List TransactionStats

-- SELECT .. FROM apm_traces WHERE service = $1 AND ts >= $2 [AND ts <= $3]
def tracesOf (traces : List ApmTrace) (service : String) (opts : StatsOptions) (now : Nat) : List ApmTrace :=
  traces.filter fun row => row.service = service && decide (opts.fromTs.getD (now - DEFAULT_STATS_WINDOW_MS) ≤ row.ts) &&
    opts.toTs.all fun toTs => row.ts ≤ toTs

-- The sort is stable.
def transactionStats (rows : List ApmTrace) (apdexToleratingMs : ℚ) : List TransactionStats :=
  ((byTransaction rows).map fun entry =>
    { computeLatencyStats entry.2.durations entry.2.statuses apdexToleratingMs with
      transaction := entry.1 : TransactionStats }).mergeSort fun a b => b.p95 ≤ a.p95

def serviceStats (traces : List ApmTrace) (service : String) (opts : StatsOptions) (now : Nat) : ServiceStats :=
  let rows := tracesOf traces service opts now
  let apdexToleratingMs := opts.apdexToleratingMs.getD DEFAULT_APDEX_TOLERATING_MS
  { service := service
    overall := computeLatencyStats (rows.map ApmTrace.durationMs) (rows.map ApmTrace.status) apdexToleratingMs
    transactions := transactionStats rows apdexToleratingMs }

end Service

section Ranks

variable {values : List ℚ} {p : ℚ}

theorem rank_bounds {n : Nat} (hn : 0 < n) (hpos : 0 < p) (hle : p ≤ 100) :
    1 ≤ ⌈p / 100 * n⌉ ∧ ⌈p / 100 * n⌉ ≤ n := by
  have hcast : (0 : ℚ) < n := Nat.cast_pos.mpr hn
  have hshare : p / 100 ≤ 1 := by rw [div_le_one (by norm_num)]; exact hle
  constructor
  · exact Int.one_le_ceil_iff.mpr (by positivity)
  · rw [Int.ceil_le]
    exact_mod_cast mul_le_of_le_one_left hcast.le hshare

-- The value at the rank, which counts from one.
theorem percentile_eq (hne : values ≠ []) (hpos : 0 < p) (hle : p ≤ 100) :
    ∃ index, ∃ hindex : index < values.mergeSort.length,
      ⌈p / 100 * values.length⌉ = index + 1 ∧ percentile values p = values.mergeSort[index] := by
  have hlen := List.length_pos_of_ne_nil hne
  have hsorted : values.mergeSort.length = values.length := List.length_mergeSort _
  obtain ⟨hlow, hhigh⟩ := rank_bounds hlen hpos hle
  obtain ⟨index, hindex⟩ : ∃ index : Nat, ⌈p / 100 * values.length⌉ = index + 1 :=
    ⟨(⌈p / 100 * values.length⌉ - 1).toNat, by omega⟩
  have hlt : index < values.mergeSort.length := by omega
  refine ⟨index, hlt, hindex, ?_⟩
  have hmin : min (max (⌈p / 100 * values.length⌉ - 1) 0) ((values.length : Int) - 1) = index := by omega
  unfold percentile
  rw [if_neg (by omega)]
  dsimp only
  rw [hsorted, hmin, Int.toNat_natCast, List.getD_eq_getElem _ _ hlt]

theorem percentile_isQuantile (hne : values ≠ []) (hpos : 0 < p) (hle : p ≤ 100) :
    IsQuantile (p / 100) values (percentile values p) := by
  obtain ⟨index, hindex, hrank, hvalue⟩ := percentile_eq hne hpos hle
  have hperm := List.mergeSort_perm values fun a b => decide (a ≤ b)
  have hsorted := mergeSort_sorted values
  refine ⟨?_, ?_, ?_⟩
  · rw [hvalue]
    exact hperm.mem_iff.mp (List.getElem_mem hindex)
  · have hcount := succ_le_countP hsorted hindex
    rw [hperm.countP_eq, ← hvalue] at hcount
    have hceil := Int.le_ceil (p / 100 * values.length)
    rw [hrank] at hceil
    exact hceil.trans (by exact_mod_cast hcount)
  · have hcount := countP_lt_le hsorted hindex
    rw [hperm.countP_eq, ← hvalue] at hcount
    have hlt : ((values.countP fun other => other < percentile values p : Nat) : Int) <
        ⌈p / 100 * values.length⌉ := by omega
    exact_mod_cast Int.lt_ceil.mp hlt

theorem percentile_mono {q : ℚ} (hne : values ≠ []) (hpos : 0 < p) (hpq : p ≤ q) (hle : q ≤ 100) :
    percentile values p ≤ percentile values q :=
  (percentile_isQuantile hne hpos (hpq.trans hle)).mono (div_le_div_of_nonneg_right hpq (by norm_num))
    (percentile_isQuantile hne (hpos.trans_le hpq) hle)

end Ranks

section Apdex

variable {durations : List ℚ} {T : ℚ}

-- A tolerating request counts half.
def points (durations : List ℚ) (T : ℚ) : ℚ := satisfied durations T + tolerating durations T / 2

theorem points_append (first second : List ℚ) (T : ℚ) :
    points (first ++ second) T = points first T + points second T := by
  simp only [points, satisfied, tolerating, List.countP_append]
  push_cast
  ring

theorem points_flatten (parts : List (List ℚ)) (T : ℚ) :
    points parts.flatten T = (parts.map fun part => points part T).sum := by
  induction parts with
  | nil => simp [points, satisfied, tolerating]
  | cons part rest ih => rw [List.flatten_cons, points_append, ih, List.map_cons, List.sum_cons]

theorem points_perm {first second : List ℚ} (h : first.Perm second) (T : ℚ) : points first T = points second T := by
  simp only [points, satisfied, tolerating, h.countP_eq]

-- A request is satisfied or tolerating, never both.
theorem points_bounds (durations : List ℚ) (T : ℚ) :
    0 ≤ points durations T ∧ points durations T ≤ durations.length := by
  have hcount : satisfied durations T + tolerating durations T ≤ durations.length := by
    induction durations with
    | nil => simp [satisfied, tolerating]
    | cons d rest ih =>
        simp only [satisfied, tolerating, List.countP_cons, List.length_cons] at ih ⊢
        by_cases hd : d ≤ T <;> by_cases hfour : d ≤ T * 4 <;> simp [hd, hfour] <;> omega
  have hsum : (satisfied durations T : ℚ) + tolerating durations T ≤ durations.length := by exact_mod_cast hcount
  have hsatisfied : (0 : ℚ) ≤ satisfied durations T := Nat.cast_nonneg _
  have htolerating : (0 : ℚ) ≤ tolerating durations T := Nat.cast_nonneg _
  unfold points
  constructor <;> linarith

theorem computeLatencyStats_count (durations : List ℚ) (statuses : List String) (T : ℚ) :
    (computeLatencyStats durations statuses T).count = durations.length := by
  unfold computeLatencyStats
  dsimp only
  split
  · simp [*]
  · rfl

theorem computeLatencyStats_errorCount {statuses : List String} (hlen : statuses.length = durations.length)
    (T : ℚ) : (computeLatencyStats durations statuses T).errorCount = statuses.countP fun s => s = "error" := by
  unfold computeLatencyStats
  dsimp only
  split
  · rename_i hzero
    rw [List.length_eq_zero_iff.mp (hlen.trans hzero)]
    rfl
  · rfl

theorem computeLatencyStats_of_ne (hne : durations ≠ []) (statuses : List String) (T : ℚ) :
    (computeLatencyStats durations statuses T).p95 = percentile durations 95 ∧
    (computeLatencyStats durations statuses T).apdex = some (points durations T / durations.length) := by
  have hlen := List.length_pos_of_ne_nil hne
  unfold computeLatencyStats
  dsimp only
  rw [if_neg (by omega)]
  exact ⟨rfl, rfl⟩

theorem computeLatencyStats_ordered (durations : List ℚ) (statuses : List String) (T : ℚ) :
    (computeLatencyStats durations statuses T).p50 ≤ (computeLatencyStats durations statuses T).p95 ∧
    (computeLatencyStats durations statuses T).p95 ≤ (computeLatencyStats durations statuses T).p99 := by
  unfold computeLatencyStats
  dsimp only
  split
  · exact ⟨le_refl _, le_refl _⟩
  · rename_i hlen
    have hne : durations ≠ [] := fun hnil => hlen (by rw [hnil]; rfl)
    exact ⟨percentile_mono hne (by norm_num) (by norm_num) (by norm_num),
      percentile_mono hne (by norm_num) (by norm_num) (by norm_num)⟩

end Apdex

section Breakdown

variable {rows : List ApmTrace} {T : ℚ}

def bucketOf (members : List ApmTrace) : Bucket :=
  ⟨members.map ApmTrace.durationMs, members.map ApmTrace.status⟩

theorem pushTo_map (row : ApmTrace) (groups : List (String × List ApmTrace)) :
    pushTo row (groups.map fun group => (group.1, bucketOf group.2)) =
      (Buckets.push ApmTrace.transaction row groups).map fun group => (group.1, bucketOf group.2) := by
  induction groups with
  | nil => rfl
  | cons group rest ih =>
      rw [List.map_cons, pushTo, Buckets.push]
      by_cases hfirst : group.1 = row.transaction
      · rw [if_pos hfirst, if_pos hfirst, List.map_cons]
        simp [bucketOf, Bucket.push]
      · rw [if_neg hfirst, if_neg hfirst, List.map_cons, ih]

theorem byTransaction_eq (rows : List ApmTrace) :
    byTransaction rows = (Buckets.buckets ApmTrace.transaction rows).map fun group => (group.1, bucketOf group.2) := by
  have hfold : ∀ groups : List (String × List ApmTrace),
      rows.foldl (fun buckets row => pushTo row buckets) (groups.map fun group => (group.1, bucketOf group.2)) =
        (rows.foldl (fun groups row => Buckets.push ApmTrace.transaction row groups) groups).map
          fun group => (group.1, bucketOf group.2) := by
    induction rows with
    | nil => exact fun _ => rfl
    | cons row rest ih =>
        intro groups
        rw [List.foldl_cons, pushTo_map, ih, List.foldl_cons]
  exact hfold []

-- The statistics of one transaction's rows.
def statsOf (T : ℚ) (group : String × List ApmTrace) : TransactionStats :=
  { computeLatencyStats (group.2.map ApmTrace.durationMs) (group.2.map ApmTrace.status) T with
    transaction := group.1 }

theorem transactionStats_perm (rows : List ApmTrace) (T : ℚ) :
    (transactionStats rows T).Perm ((Buckets.buckets ApmTrace.transaction rows).map (statsOf T)) := by
  unfold transactionStats
  rw [byTransaction_eq, List.map_map]
  exact List.mergeSort_perm _ _

variable {groups : List (String × List ApmTrace)} (h : Buckets.Sorts ApmTrace.transaction rows groups)
include h

theorem sum_counts : (groups.map fun group => (statsOf T group).count).sum = rows.length := by
  have hcount : (fun group : String × List ApmTrace => (statsOf T group).count) = List.length ∘ Prod.snd := by
    funext group
    exact (computeLatencyStats_count _ _ T).trans (List.length_map _)
  rw [hcount, ← List.map_map, ← List.length_flatten, h.perm.length_eq]

theorem sum_errorCounts :
    (groups.map fun group => (statsOf T group).errorCount).sum = rows.countP fun row => row.status = "error" := by
  have hcount : (fun group : String × List ApmTrace => (statsOf T group).errorCount) =
      (fun members => members.countP fun row => row.status = "error") ∘ Prod.snd := by
    funext group
    have hlen : (group.2.map ApmTrace.status).length = (group.2.map ApmTrace.durationMs).length := by
      rw [List.length_map, List.length_map]
    have herrors := computeLatencyStats_errorCount hlen T
    rw [List.countP_map] at herrors
    exact herrors
  rw [hcount, ← List.map_map, ← List.countP_flatten, h.perm.countP_eq]

theorem durations_perm :
    (rows.map ApmTrace.durationMs).Perm (groups.map fun group => group.2.map ApmTrace.durationMs).flatten := by
  have hflatten := h.perm.map ApmTrace.durationMs
  rw [List.map_flatten, List.map_map] at hflatten
  exact hflatten.symm

-- Every group has an Apdex, which its count weighs.
theorem weighted_apdex {group : String × List ApmTrace} (hmem : group ∈ groups) :
    ∃ apdex, (statsOf T group).apdex = some apdex ∧
      (statsOf T group).count * apdex = points (group.2.map ApmTrace.durationMs) T := by
  have hne : group.2.map ApmTrace.durationMs ≠ [] := by
    intro hnil
    exact h.nonempty group.1 group.2 hmem (List.map_eq_nil_iff.mp hnil)
  have hlen : ((group.2.map ApmTrace.durationMs).length : ℚ) ≠ 0 :=
    Nat.cast_ne_zero.mpr (List.length_pos_of_ne_nil hne).ne'
  refine ⟨_, (computeLatencyStats_of_ne hne _ T).2, ?_⟩
  have hcount : (statsOf T group).count = (group.2.map ApmTrace.durationMs).length :=
    computeLatencyStats_count _ _ T
  rw [hcount]
  field_simp

omit h

-- The share of the requests that a value is the nearest rank of.
structure NearestRank (values : List ℚ) (p value : ℚ) : Prop where
  mem : value ∈ values
  reached : ⌈p * values.length / 100⌉ ≤ (values.countP fun other => other ≤ value : Nat)
  notBefore : ((values.countP fun other => other < value : Nat) : Int) < ⌈p * values.length / 100⌉

theorem percentile_nearestRank {values : List ℚ} {p : ℚ} (hne : values ≠ []) (hpos : 0 < p) (hle : p ≤ 100) :
    NearestRank values p (percentile values p) := by
  have hquantile := percentile_isQuantile hne hpos hle
  have hshare : p * values.length / 100 = p / 100 * values.length := by ring
  refine ⟨hquantile.mem, ?_, ?_⟩
  · rw [hshare, Int.ceil_le]
    exact_mod_cast hquantile.reached
  · rw [hshare, Int.lt_ceil]
    exact_mod_cast hquantile.notBefore

-- How the statistics of a service and those of its transactions go together.
structure Consistent (rows : List ApmTrace) (T : ℚ) (overall : LatencyStats)
    (transactions : List TransactionStats) : Prop where
  partition : ∃ groups, Buckets.Sorts ApmTrace.transaction rows groups ∧
    transactions.Perm (groups.map (statsOf T))
  counts : (transactions.map fun stats => stats.count).sum = overall.count
  errorCounts : (transactions.map fun stats => stats.errorCount).sum = overall.errorCount
  apdex : rows ≠ [] → ∃ apdex, overall.apdex = some apdex ∧ 0 ≤ apdex ∧ apdex ≤ 1 ∧
    (∀ stats ∈ transactions, stats.apdex.isSome) ∧
    apdex = (transactions.map fun stats => (stats.count : ℚ) * stats.apdex.getD 0).sum / overall.count
  p95 : rows ≠ [] → ∃ smallest ∈ transactions, ∃ largest ∈ transactions,
    (∀ stats ∈ transactions, smallest.p95 ≤ stats.p95 ∧ stats.p95 ≤ largest.p95) ∧
      smallest.p95 ≤ overall.p95 ∧ overall.p95 ≤ largest.p95

theorem exists_bounds {transactions : List TransactionStats} (hne : transactions ≠ []) :
    ∃ smallest ∈ transactions, ∃ largest ∈ transactions,
      ∀ stats ∈ transactions, smallest.p95 ≤ stats.p95 ∧ stats.p95 ≤ largest.p95 := by
  induction transactions with
  | nil => exact absurd rfl hne
  | cons first rest ih =>
      by_cases hnil : rest = []
      · subst hnil
        refine ⟨first, List.mem_cons_self, first, List.mem_cons_self, fun stats hmem => ?_⟩
        rw [List.mem_singleton.mp hmem]
        exact ⟨le_refl _, le_refl _⟩
      · obtain ⟨smallest, hsmallest, largest, hlargest, hbounds⟩ := ih hnil
        have hlow : ∃ least ∈ first :: rest, least.p95 ≤ first.p95 ∧ least.p95 ≤ smallest.p95 := by
          rcases le_total first.p95 smallest.p95 with hle | hle
          · exact ⟨first, List.mem_cons_self, le_refl _, hle⟩
          · exact ⟨smallest, List.mem_cons_of_mem _ hsmallest, hle, le_refl _⟩
        have hhigh : ∃ most ∈ first :: rest, first.p95 ≤ most.p95 ∧ largest.p95 ≤ most.p95 := by
          rcases le_total first.p95 largest.p95 with hle | hle
          · exact ⟨largest, List.mem_cons_of_mem _ hlargest, hle, le_refl _⟩
          · exact ⟨first, List.mem_cons_self, le_refl _, hle⟩
        obtain ⟨least, hleast, hleastFirst, hleastRest⟩ := hlow
        obtain ⟨most, hmost, hmostFirst, hmostRest⟩ := hhigh
        refine ⟨least, hleast, most, hmost, fun stats hmem => ?_⟩
        rcases List.mem_cons.mp hmem with rfl | hmem
        · exact ⟨hleastFirst, hmostFirst⟩
        · exact ⟨hleastRest.trans (hbounds stats hmem).1, (hbounds stats hmem).2.trans hmostRest⟩

-- The p95 of all the requests is neither below nor above that of every transaction.
theorem p95_between (h : Buckets.Sorts ApmTrace.transaction rows groups) (hne : rows ≠ []) (statuses : List String)
    (T : ℚ) :
    (∃ group ∈ groups, (statsOf T group).p95 ≤ (computeLatencyStats (rows.map ApmTrace.durationMs) statuses T).p95) ∧
    ∃ group ∈ groups, (computeLatencyStats (rows.map ApmTrace.durationMs) statuses T).p95 ≤ (statsOf T group).p95 := by
  have hdurations : rows.map ApmTrace.durationMs ≠ [] := fun hnil => hne (List.map_eq_nil_iff.mp hnil)
  have hoverall := percentile_isQuantile hdurations (p := 95) (by norm_num) (by norm_num)
  rw [(computeLatencyStats_of_ne hdurations statuses T).1]
  have hgroup : ∀ group ∈ groups,
      IsQuantile (95 / 100 : ℚ) (group.2.map ApmTrace.durationMs) (statsOf T group).p95 := by
    intro group hmem
    have hmembers : group.2.map ApmTrace.durationMs ≠ [] :=
      fun hnil => h.nonempty group.1 group.2 hmem (List.map_eq_nil_iff.mp hnil)
    have hp95 : (statsOf T group).p95 = percentile (group.2.map ApmTrace.durationMs) 95 :=
      (computeLatencyStats_of_ne hmembers _ T).1
    rw [hp95]
    exact percentile_isQuantile hmembers (by norm_num) (by norm_num)
  -- each group's durations beside its p95
  let parts := groups.map fun group => (group.2.map ApmTrace.durationMs, (statsOf T group).p95)
  have hwhole : (rows.map ApmTrace.durationMs).Perm (parts.map Prod.fst).flatten := by
    rw [List.map_map]
    exact durations_perm h
  have hparts : ∀ part ∈ parts, IsQuantile (95 / 100 : ℚ) part.1 part.2 := by
    intro part hpart
    obtain ⟨group, hmem, rfl⟩ := List.mem_map.mp hpart
    exact hgroup group hmem
  have hpartsNe : parts ≠ [] := by
    intro hnil
    have hnone := hwhole.length_eq
    rw [hnil] at hnone
    exact hdurations (List.length_eq_zero_iff.mp hnone)
  constructor
  · obtain ⟨part, hpart, hle⟩ := IsQuantile.exists_le hwhole hparts hoverall hpartsNe
    obtain ⟨group, hmem, rfl⟩ := List.mem_map.mp hpart
    exact ⟨group, hmem, hle⟩
  · obtain ⟨part, hpart, hle⟩ := IsQuantile.exists_ge hwhole hparts hoverall
    obtain ⟨group, hmem, rfl⟩ := List.mem_map.mp hpart
    exact ⟨group, hmem, hle⟩

theorem consistent (rows : List ApmTrace) (T : ℚ) :
    Consistent rows T (computeLatencyStats (rows.map ApmTrace.durationMs) (rows.map ApmTrace.status) T)
      (transactionStats rows T) := by
  have hsorts : Buckets.Sorts ApmTrace.transaction rows (Buckets.buckets ApmTrace.transaction rows) :=
    Buckets.sorts_buckets rows
  have hperm := transactionStats_perm rows T
  have hcount : (computeLatencyStats (rows.map ApmTrace.durationMs) (rows.map ApmTrace.status) T).count =
      rows.length := (computeLatencyStats_count _ _ T).trans (List.length_map _)
  refine ⟨⟨_, hsorts, hperm⟩, ?_, ?_, fun hne => ?_, fun hne => ?_⟩
  · rw [(hperm.map _).sum_eq, List.map_map, hcount]
    exact sum_counts hsorts
  · have hlen : (rows.map ApmTrace.status).length = (rows.map ApmTrace.durationMs).length := by
      rw [List.length_map, List.length_map]
    rw [(hperm.map _).sum_eq, List.map_map, computeLatencyStats_errorCount hlen, List.countP_map]
    exact sum_errorCounts hsorts
  · have hdurations : rows.map ApmTrace.durationMs ≠ [] := fun hnil => hne (List.map_eq_nil_iff.mp hnil)
    have hpos : (0 : ℚ) < rows.length := Nat.cast_pos.mpr (List.length_pos_of_ne_nil hne)
    obtain ⟨hlow, hhigh⟩ := points_bounds (rows.map ApmTrace.durationMs) T
    rw [List.length_map] at hhigh
    refine ⟨_, (computeLatencyStats_of_ne hdurations _ T).2, ?_, ?_, fun stats hmem => ?_, ?_⟩
    · exact div_nonneg hlow (Nat.cast_nonneg _)
    · rw [List.length_map, div_le_one hpos]
      exact hhigh
    · obtain ⟨group, hgroup, rfl⟩ := List.mem_map.mp (hperm.mem_iff.mp hmem)
      obtain ⟨apdex, hapdex, -⟩ := weighted_apdex (T := T) hsorts hgroup
      rw [hapdex]
      rfl
    · have hweighted : ((Buckets.buckets ApmTrace.transaction rows).map fun group =>
          ((statsOf T group).count : ℚ) * (statsOf T group).apdex.getD 0) =
          (Buckets.buckets ApmTrace.transaction rows).map
            fun group => points (group.2.map ApmTrace.durationMs) T := by
        apply List.map_congr_left
        intro group hgroup
        obtain ⟨apdex, hapdex, hpoints⟩ := weighted_apdex (T := T) hsorts hgroup
        rw [hapdex, Option.getD_some, hpoints]
      have hsum := points_flatten
        ((Buckets.buckets ApmTrace.transaction rows).map fun group => group.2.map ApmTrace.durationMs) T
      rw [← points_perm (durations_perm hsorts), List.map_map] at hsum
      rw [hcount, (hperm.map _).sum_eq, List.map_map, hsum, List.length_map]
      exact congrArg (fun terms : List ℚ => terms.sum / rows.length) hweighted.symm
  · obtain ⟨⟨low, hlow, hle⟩, high, hhigh, hge⟩ :=
      p95_between hsorts hne (rows.map ApmTrace.status) T
    have hlowMem := hperm.mem_iff.mpr (List.mem_map.mpr ⟨low, hlow, rfl⟩)
    have hhighMem := hperm.mem_iff.mpr (List.mem_map.mpr ⟨high, hhigh, rfl⟩)
    obtain ⟨smallest, hsmallest, largest, hlargest, hbounds⟩ := exists_bounds (List.ne_nil_of_mem hlowMem)
    exact ⟨smallest, hsmallest, largest, hlargest, hbounds, (hbounds _ hlowMem).1.trans hle,
      hge.trans (hbounds _ hhighMem).2⟩

end Breakdown

-- A percentile is the nearest rank and grows with its share; what serviceStats reports of
-- a service is what its transactions come to together.
theorem percentiles_and_breakdown_agree :
    (∀ values p, values ≠ [] → 0 < p → p ≤ 100 → NearestRank values p (percentile values p)) ∧
    (∀ values p q, values ≠ [] → 0 < p → p ≤ q → q ≤ 100 → percentile values p ≤ percentile values q) ∧
    ∀ traces service opts now,
      Consistent (tracesOf traces service opts now) (opts.apdexToleratingMs.getD DEFAULT_APDEX_TOLERATING_MS)
          (serviceStats traces service opts now).overall (serviceStats traces service opts now).transactions ∧
        (serviceStats traces service opts now).overall.p50 ≤ (serviceStats traces service opts now).overall.p95 ∧
        (serviceStats traces service opts now).overall.p95 ≤ (serviceStats traces service opts now).overall.p99 := by
  refine ⟨fun _ _ hne hpos hle => percentile_nearestRank hne hpos hle,
    fun _ _ _ hne hpos hpq hle => percentile_mono hne hpos hpq hle, fun traces service opts now => ?_⟩
  exact ⟨consistent _ _, computeLatencyStats_ordered _ _ _⟩

-- The fourth of four durations is the p95, and the second one the p50.
theorem percentiles_and_breakdown_agree_four :
    NearestRank [40, 10, 20, 20] 50 (percentile [40, 10, 20, 20] 50) ∧
      percentile [40, 10, 20, 20] 50 ≤ percentile [40, 10, 20, 20] 95 :=
  ⟨percentiles_and_breakdown_agree.1 _ _ (by simp) (by norm_num) (by norm_num),
    percentiles_and_breakdown_agree.2.1 _ _ _ (by simp) (by norm_num) (by norm_num) (by norm_num)⟩

end CloudOps.Monitoring.Apm
