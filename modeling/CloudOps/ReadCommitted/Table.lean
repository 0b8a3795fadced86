import Mathlib.Data.List.AList
import Mathlib.Data.List.Sort

namespace CloudOps.ReadCommitted

-- A table: the current version of each row, under its primary key.
abbrev Table (K R : Type) := AList fun _ : K => R

-- A query without ORDER BY returns its rows in an order of the database's choosing.
structure ScanOrder (α : Type) where
  apply : List α → List α
  perm : ∀ rows, (apply rows).Perm rows

def ScanOrder.stored (α : Type) : ScanOrder α := ⟨id, List.Perm.refl⟩

-- ORDER BY a column, up and down.
theorem pairwise_ascending {α β : Type} [LinearOrder β] (column : α → β) (rows : List α) :
    (rows.insertionSort fun first second => column first ≤ column second).Pairwise
      fun first second => column first ≤ column second := by
  have htrans : IsTrans α fun first second => column first ≤ column second := ⟨fun _ _ _ => le_trans⟩
  have htotal : Std.Total fun first second => column first ≤ column second :=
    ⟨fun first second => le_total (column first) (column second)⟩
  exact List.pairwise_insertionSort _ rows

theorem pairwise_descending {α β : Type} [LinearOrder β] (column : α → β) (rows : List α) :
    (rows.insertionSort fun first second => column second ≤ column first).Pairwise
      fun first second => column second ≤ column first :=
  pairwise_ascending (fun row => OrderDual.toDual (column row)) rows

namespace Table

variable {K R : Type}

def rows (table : Table K R) : List (K × R) := table.entries.map fun entry => (entry.1, entry.2)

theorem map_fst_rows (table : Table K R) : table.rows.map Prod.fst = table.keys := by
  simp [rows, AList.keys, List.keys, Function.comp_def]

theorem nodup_rows_ids (table : Table K R) : (table.rows.map Prod.fst).Nodup :=
  table.map_fst_rows ▸ table.keys_nodup

-- SELECT .. WHERE .. reads no row twice, in whatever order,
theorem nodup_ids_of_perm {table : Table K R} {matching : K × R → Bool} {selected : List (K × R)}
    (h : selected.Perm (table.rows.filter matching)) : (selected.map Prod.fst).Nodup := by
  rw [(h.map Prod.fst).nodup_iff]
  exact table.nodup_rows_ids.sublist (List.filter_sublist.map Prod.fst)

-- nor with ORDER BY .. LIMIT ..
theorem nodup_selected_ids (table : Table K R) (matching : K × R → Bool) (order : ScanOrder (K × R))
    (before : K × R → K × R → Prop) [DecidableRel before] (limit : Nat) :
    ((((order.apply (table.rows.filter matching)).insertionSort before).take limit).map Prod.fst).Nodup := by
  have hsorted := (List.perm_insertionSort before _).trans (order.perm (table.rows.filter matching))
  exact (nodup_ids_of_perm hsorted).sublist ((List.take_sublist _ _).map Prod.fst)

variable [DecidableEq K]

theorem mem_rows {table : Table K R} {id : K} {row : R} :
    (id, row) ∈ table.rows ↔ table.lookup id = some row := by
  rw [← Option.mem_def, AList.mem_lookup_iff]
  simp only [rows, List.mem_map, Prod.mk.injEq]
  constructor
  · rintro ⟨⟨_, _⟩, he, rfl, rfl⟩
    exact he
  · intro he
    exact ⟨⟨id, row⟩, he, rfl, rfl⟩

-- What a transaction sees: its own versions over the committed ones.
theorem lookup_union (own base : Table K R) (id : K) :
    (own ∪ base).lookup id = (own.lookup id).or (base.lookup id) := by
  by_cases h : id ∈ own
  · obtain ⟨row, hr⟩ := Option.isSome_iff_exists.mp (AList.lookup_isSome.mpr h)
    rw [AList.lookup_union_left h, hr, Option.some_or]
  · rw [AList.lookup_union_right h, AList.lookup_eq_none.mpr h, Option.none_or]

theorem lookup_union_of_notMem {own base : Table K R} {id : K} (h : id ∉ own) :
    (own ∪ base).lookup id = base.lookup id :=
  AList.lookup_union_right h

theorem lookup_union_own {own : Table K R} {id : K} {row : R} (h : own.lookup id = some row)
    (base : Table K R) : (own ∪ base).lookup id = some row := by
  rw [lookup_union, h, Option.some_or]

-- A row of the union is one of its own, or one of the base it leaves alone.
theorem lookup_union_cases {own base : Table K R} {id : K} {row : R}
    (h : (own ∪ base).lookup id = some row) :
    own.lookup id = some row ∨ own.lookup id = none ∧ base.lookup id = some row := by
  rw [lookup_union] at h
  cases hown : own.lookup id with
  | some _ =>
      rw [hown, Option.some_or] at h
      exact .inl h
  | none =>
      rw [hown, Option.none_or] at h
      exact .inr ⟨rfl, h⟩

theorem lookup_insert_eq (table : Table K R) (id other : K) (row : R) :
    (table.insert id row).lookup other = if other = id then some row else table.lookup other := by
  by_cases h : other = id
  · subst h
    simp
  · rw [AList.lookup_insert_ne h, if_neg h]

-- The table after a transaction that wrote one row.
theorem lookup_insert_union (table : Table K R) (id other : K) (row : R) :
    ((∅ : Table K R).insert id row ∪ table).lookup other =
      if other = id then some row else table.lookup other := by
  rw [lookup_union, lookup_insert_eq]
  split
  · rw [Option.some_or]
  · rw [AList.lookup_empty, Option.none_or]

theorem mem_of_lookup {table : Table K R} {id : K} {row : R} (h : table.lookup id = some row) :
    id ∈ table :=
  AList.lookup_isSome.mp (h ▸ rfl)

-- UPDATE of every row, each by its own key.
def mapRows (change : K → R → R) (table : Table K R) : Table K R :=
  ⟨table.entries.map (.map id change), table.nodupKeys.map₂ change _⟩

theorem lookup_mapRows (change : K → R → R) (table : Table K R) (id : K) :
    (table.mapRows change).lookup id = (table.lookup id).map (change id) :=
  List.dlookup_map₂ id

-- Rows of keys that are new, and each another, are put beside those there are.
theorem perm_rows_insertAll {added : List (K × R)} (hnodup : (added.map Prod.fst).Nodup) (table : Table K R)
    (hfresh : ∀ row ∈ added, row.1 ∉ table) :
    (added.foldl (fun table row => table.insert row.1 row.2) table).rows.Perm (added ++ table.rows) := by
  induction added generalizing table with
  | nil => exact List.Perm.refl _
  | cons row rest ih =>
      obtain ⟨hrow, hrest⟩ := List.forall_mem_cons.mp hfresh
      rw [List.map_cons, List.nodup_cons] at hnodup
      have hrows : rows (table.insert row.1 row.2) = row :: table.rows := by
        rw [AList.insert_of_notMem hrow]
        rfl
      have hfresh' : ∀ other ∈ rest, other.1 ∉ table.insert row.1 row.2 := by
        intro other hother
        rw [AList.mem_insert]
        rintro (hsame | hold)
        · exact hnodup.1 (List.mem_map.mpr ⟨other, hother, hsame⟩)
        · exact hrest other hother hold
      have hperm := ih hnodup.2 _ hfresh'
      rw [hrows] at hperm
      exact hperm.trans List.perm_middle

end Table

end CloudOps.ReadCommitted
