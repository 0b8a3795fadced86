import CloudOps.RowSecurity
import CloudOps.Runs
import Mathlib.Data.List.Nodup

namespace CloudOps.RowSecurity

variable {Tenant Id Value ε α : Type} [DecidableEq Tenant] [DecidableEq Id] [DecidableEq Value]

-- What each statement leaves behind, when it succeeds.
section Kept

variable {S : Schema Id Value} {tenant other : Tenant} {db after : List (Row Tenant Id Value)}
  {row : Row Tenant Id Value} {hits : Row Tenant Id Value → Bool} {set : (String → Value) → String → Value}

theorem insertRow_ok (h : insertRow S row db = .ok after) :
    after = db ++ [row] ∧ present db row.table row.id = false ∧ dangling S (db ++ [row]) row = none := by
  unfold insertRow at h
  split at h
  · cases h
  · rename_i hnone
    simp only [Option.or_eq_none_iff, violation?, Option.map_eq_none_iff] at hnone
    obtain ⟨-, htaken, -, hdangling⟩ := hnone
    refine ⟨(Except.ok.inj h).symm, ?_, hdangling⟩
    by_contra hpresent
    simp [taken?, hpresent] at htaken

theorem updateRows_ok (h : updateRows S tenant hits set db = .ok after) :
    after = updated tenant hits set db ∧
      ∀ row ∈ db, targeted tenant hits row = true → dangling S after (written set row) = none := by
  unfold updateRows at h
  split at h
  · cases h
  · rename_i hnone
    obtain rfl := Except.ok.inj h
    refine ⟨rfl, fun row hrow hit => ?_⟩
    rw [List.head?_eq_none_iff, List.filterMap_eq_nil_iff] at hnone
    have := hnone (written set row) (List.mem_map_of_mem (List.mem_filter.mpr ⟨hrow, hit⟩))
    simp only [Option.or_eq_none_iff, violation?, Option.map_eq_none_iff] at this
    exact this.2.2

omit [DecidableEq Value] in
theorem deleteRows_ok (h : deleteRows S tenant hits db = .ok after) :
    ∃ gone, gone = doomed S db (targeted tenant hits) S.foreignKeys.length ∧
      after = (db.filter fun row => !gone row).map (cleared S db gone) ∧
      orphaned S db (db.filter fun row => !gone row) gone = none := by
  simp only [deleteRows] at h
  split at h
  · cases h
  · rename_i hnone
    exact ⟨_, rfl, (Except.ok.inj h).symm, hnone⟩

omit [DecidableEq Tenant] [DecidableEq Value] in
theorem exists_parent {key : ForeignKey} {id : Id} (h : dangling S db row = none) (hkey : key ∈ S.foreignKeys)
    (htable : key.table = row.table) (hid : S.reference (row.columns key.column) = some id) :
    ∃ parent ∈ db, parent.table = key.target ∧ parent.id = id := by
  have := List.find?_eq_none.mp h key hkey
  simpa [htable, hid, present] using this

omit [DecidableEq Id] [DecidableEq Value] in
@[simp] theorem visible_visible : visible tenant (visible tenant db) = visible tenant db := by
  simp [visible, List.filter_filter]

omit [DecidableEq Id] [DecidableEq Value] in
theorem visible_insert (hrow : row.tenant = tenant) (hne : other ≠ tenant) :
    visible other (db ++ [row]) = visible other db := by
  simp [visible, hrow, Ne.symm hne]

omit [DecidableEq Id] [DecidableEq Value] in
theorem visible_update (hne : other ≠ tenant) : visible other (updated tenant hits set db) = visible other db := by
  rw [visible_updated, updated]
  refine (List.map_congr_left fun row hrow => ?_).trans (List.map_id _)
  have hnot : ¬ targeted tenant hits row = true := by
    intro hit
    exact hne ((mem_visible.mp hrow).2.symm.trans (targeted_tenant hit))
  simp [hnot]

variable {gone : Row Tenant Id Value → Bool}

-- A row of another tenant is neither gone nor does it reference one that is.
omit [DecidableEq Value] in
theorem visible_delete (hs : Sound S db) (hgone : ∀ row ∈ db, gone row = true → row.tenant = tenant)
    (hne : other ≠ tenant) :
    visible other ((db.filter fun row => !gone row).map (cleared S db gone)) = visible other db := by
  have hmap : visible other ((db.filter fun row => !gone row).map (cleared S db gone)) =
      (visible other (db.filter fun row => !gone row)).map (cleared S db gone) := List.filter_map
  have hleft : visible other (db.filter fun row => !gone row) = visible other db := by
    rw [visible, List.filter_comm]
    refine List.filter_eq_self.mpr fun row hrow => ?_
    obtain ⟨hmem, hten⟩ := mem_visible.mp hrow
    cases hg : gone row with
    | false => rfl
    | true => exact absurd (hten.symm.trans (hgone row hmem hg)) hne
  rw [hmap, hleft]
  refine (List.map_congr_left fun row hrow => ?_).trans (List.map_id _)
  obtain ⟨hmem, hten⟩ := mem_visible.mp hrow
  have hkeep : ∀ column, nulled S db gone row column = false := by
    intro column
    apply List.any_eq_false.mpr
    intro key hkey hany
    exact hne (hten.symm.trans (hs.tenant_of_refersToAny hmem hkey hgone (Bool.and_eq_true_iff.mp hany).2))
  simp [cleared, hkeep]

omit [DecidableEq Tenant] [DecidableEq Value] in
theorem Sound.insert (hs : Sound S db) (hpresent : present db row.table row.id = false)
    (hdangling : dangling S (db ++ [row]) row = none) (h : OwnReferences S row.tenant db row.table row.columns) :
    Sound S (db ++ [row]) where
  keys := by
    have hnew : ∀ old ∈ db, old.table = row.table → old.id ≠ row.id := by
      intro old hold htable hid
      rw [present_eq_true.mpr ⟨old, hold, htable, hid⟩] at hpresent
      cases hpresent
    intro first hfirst second hsecond htable hid
    rcases List.mem_append.mp hfirst with hold | hnewest <;> rcases List.mem_append.mp hsecond with hold' | hnewest'
    · exact hs.keys first hold second hold' htable hid
    · obtain rfl := List.mem_singleton.mp hnewest'
      exact absurd hid.symm (hnew first hold htable.symm)
    · obtain rfl := List.mem_singleton.mp hnewest
      exact absurd hid (hnew second hold' htable)
    · rw [List.mem_singleton.mp hnewest, List.mem_singleton.mp hnewest']
  references := by
    intro child hchild key hkey htable id hid
    rcases List.mem_append.mp hchild with hchild | hchild
    · obtain ⟨parent, hparent, hrest⟩ := hs.references child hchild key hkey htable id hid
      exact ⟨parent, List.mem_append_left _ hparent, hrest⟩
    · obtain rfl := List.mem_singleton.mp hchild
      obtain ⟨parent, hparent, htarget, hpid⟩ := exists_parent hdangling hkey htable hid
      exact ⟨parent, hparent, htarget, hpid,
        ownReferences_append rfl h key hkey htable id hid parent hparent htarget hpid⟩

omit [DecidableEq Value] in
theorem Sound.update (hs : Sound S db)
    (h : ∀ row ∈ db, targeted tenant hits row = true → OwnReferences S tenant db row.table (set row.columns))
    (hdangling : ∀ row ∈ db, targeted tenant hits row = true →
      dangling S (updated tenant hits set db) (written set row) = none) : Sound S (updated tenant hits set db) where
  keys := by
    intro row hrow
    obtain ⟨old, hold, rfl⟩ := mem_updated.mp hrow
    have hown : Own old.tenant (updated tenant hits set db) old.table old.id := own_updated (hs.keys old hold)
    by_cases hit : targeted tenant hits old = true
    · rw [if_pos hit]
      exact hown
    · rw [if_neg hit]
      exact hown
  references := by
    intro row hrow key hkey htable id hid
    obtain ⟨old, hold, rfl⟩ := mem_updated.mp hrow
    by_cases hit : targeted tenant hits old = true
    · simp only [hit, if_true] at htable hid ⊢
      obtain ⟨parent, hparent, htarget, hpid⟩ := exists_parent (hdangling old hold hit) hkey htable hid
      refine ⟨parent, hparent, htarget, hpid, ?_⟩
      exact (own_updated (h old hold hit key hkey htable id hid) parent hparent htarget hpid).trans
        (targeted_tenant hit).symm
    · simp only [hit, Bool.false_eq_true, if_false] at htable hid ⊢
      obtain ⟨parent, hparent, htarget, hpid, hten⟩ := hs.references old hold key hkey htable id hid
      refine ⟨_, mem_updated.mpr ⟨parent, hparent, rfl⟩, ?_⟩
      by_cases hit' : targeted tenant hits parent = true
      · simpa only [hit', if_true] using ⟨htarget, hpid, hten⟩
      · simpa only [hit', Bool.false_eq_true, if_false] using ⟨htarget, hpid, hten⟩

-- What a row that is left references is left too: else its key would be cleared or orphaned.
omit [DecidableEq Tenant] [DecidableEq Value] in
theorem Sound.delete (hs : Sound S db) (h : orphaned S db (db.filter fun row => !gone row) gone = none) :
    Sound S ((db.filter fun row => !gone row).map (cleared S db gone)) where
  keys := by
    intro row hrow child hchild
    obtain ⟨old, hold, rfl⟩ := List.mem_map.mp hrow
    obtain ⟨oldChild, holdChild, rfl⟩ := List.mem_map.mp hchild
    exact hs.keys old (List.mem_filter.mp hold).1 oldChild (List.mem_filter.mp holdChild).1
  references := by
    intro row hrow key hkey htable id hid
    obtain ⟨old, hold, rfl⟩ := List.mem_map.mp hrow
    obtain ⟨hmem, -⟩ := List.mem_filter.mp hold
    have hclear : nulled S db gone old key.column = false := by
      by_contra hclear
      rw [Bool.not_eq_false] at hclear
      simp [cleared, hclear, S.reference_null] at hid
    simp only [cleared, hclear, Bool.false_eq_true, if_false] at hid
    obtain ⟨parent, hparent, htarget, hpid, hten⟩ := hs.references old hmem key hkey htable id hid
    have hleft : gone parent = false := by
      by_contra hpgone
      have hrefers : refersTo S key old parent = true := refersTo_iff.mpr ⟨htable, htarget.symm, hpid ▸ hid⟩
      have hany : refersToAny S db gone key old = true :=
        List.any_eq_true.mpr ⟨parent, hparent, by simpa [hrefers] using hpgone⟩
      by_cases hdelete : key.onDelete = .setNull
      · have := List.any_eq_false.mp hclear key hkey
        simp [hdelete, hany] at this
      · have := List.find?_eq_none.mp h key hkey
        rw [List.any_eq_true.mpr ⟨old, hold, hany⟩] at this
        simp [hdelete] at this
    exact ⟨cleared S db gone parent, List.mem_map_of_mem (List.mem_filter.mpr ⟨hparent, by rw [hleft]; rfl⟩),
      htarget, hpid, hten⟩

end Kept

-- The statements of the code write keys and references of its tenant alone.
def Keeps (S : Schema Id Value) (tenant : Tenant) : Prog Tenant Id Value ε α → List (Row Tenant Id Value) → Prop
  | .ret _, _ => True
  | .throw _, _ => True
  | .select next, db => Keeps S tenant (next (visible tenant db)) db
  | .insert table id columns _ next, db =>
      Own tenant db table id ∧ OwnReferences S tenant db table columns ∧
        ∀ after, insertRow S ⟨table, id, tenant, columns⟩ db = .ok after → Keeps S tenant next after
  | .update hits set _ next, db =>
      (∀ row ∈ db, targeted tenant hits row = true → OwnReferences S tenant db row.table (set row.columns)) ∧
        ∀ after, updateRows S tenant hits set db = .ok after →
          Keeps S tenant (next ((db.filter (targeted tenant hits)).map (written set))) after
  | .delete hits _ next, db =>
      ∀ after, deleteRows S tenant hits db = .ok after →
        Keeps S tenant (next (db.filter (targeted tenant hits))) after

section Programs

variable {S : Schema Id Value} {tenant other : Tenant} {db after : List (Row Tenant Id Value)}
  {prog : Prog Tenant Id Value ε α} {value : α} {hits : Row Tenant Id Value → Bool}
  {set : (String → Value) → String → Value} {row : Row Tenant Id Value}

theorem insertRow_sound (hs : Sound S db) (hrow : row.tenant = tenant)
    (h : OwnReferences S tenant db row.table row.columns) (hok : insertRow S row db = .ok after) :
    Sound S after ∧ ∀ other, other ≠ tenant → visible other after = visible other db := by
  obtain ⟨rfl, hpresent, hdangling⟩ := insertRow_ok hok
  subst hrow
  exact ⟨hs.insert hpresent hdangling h, fun other hne => visible_insert rfl hne⟩

theorem updateRows_sound (hs : Sound S db)
    (h : ∀ row ∈ db, targeted tenant hits row = true → OwnReferences S tenant db row.table (set row.columns))
    (hok : updateRows S tenant hits set db = .ok after) :
    Sound S after ∧ ∀ other, other ≠ tenant → visible other after = visible other db := by
  obtain ⟨rfl, hdangling⟩ := updateRows_ok hok
  exact ⟨hs.update h hdangling, fun other hne => visible_update hne⟩

omit [DecidableEq Value] in
theorem deleteRows_sound (hs : Sound S db) (hok : deleteRows S tenant hits db = .ok after) :
    Sound S after ∧ ∀ other, other ≠ tenant → visible other after = visible other db := by
  obtain ⟨gone, rfl, rfl, horphaned⟩ := deleteRows_ok hok
  exact ⟨hs.delete horphaned, fun other hne => visible_delete hs (doomed_tenant hs _) hne⟩

theorem exec_sound (hs : Sound S db) (hk : Keeps S tenant prog db) (h : exec S tenant prog db = .ok (value, after)) :
    Sound S after ∧ ∀ other, other ≠ tenant → visible other after = visible other db := by
  induction prog generalizing db with
  | ret result =>
      obtain ⟨-, rfl⟩ := Prod.mk.inj (Except.ok.inj h)
      exact ⟨hs, fun _ _ => rfl⟩
  | throw error => cases h
  | select next ih => exact ih _ hs hk h
  | insert table id columns failed next ih =>
      obtain ⟨-, href, hk⟩ := hk
      unfold exec at h
      split at h
      · cases h
      · rename_i middle hok
        obtain ⟨hs', hothers⟩ := insertRow_sound hs rfl href hok
        obtain ⟨hs'', hothers'⟩ := ih hs' (hk middle hok) h
        exact ⟨hs'', fun other hne => (hothers' other hne).trans (hothers other hne)⟩
  | update hits set failed next ih =>
      obtain ⟨href, hk⟩ := hk
      unfold exec at h
      split at h
      · cases h
      · rename_i middle hok
        obtain ⟨hs', hothers⟩ := updateRows_sound hs href hok
        obtain ⟨hs'', hothers'⟩ := ih _ hs' (hk middle hok) h
        exact ⟨hs'', fun other hne => (hothers' other hne).trans (hothers other hne)⟩
  | delete hits failed next ih =>
      unfold exec at h
      split at h
      · cases h
      · rename_i middle hok
        obtain ⟨hs', hothers⟩ := deleteRows_sound hs hok
        obtain ⟨hs'', hothers'⟩ := ih _ hs' (hk middle hok) h
        exact ⟨hs'', fun other hne => (hothers' other hne).trans (hothers other hne)⟩

-- Run on the tenant's rows alone, the code answers as it does on the whole database and
-- leaves the tenant the same rows.
theorem exec_visible (hs : Sound S db) (hk : Keeps S tenant prog db) :
    exec S tenant prog (visible tenant db) = (exec S tenant prog db).map (Prod.map id (visible tenant)) := by
  induction prog generalizing db with
  | ret result => rfl
  | throw error => rfl
  | select next ih =>
      rw [exec, exec, visible_visible]
      exact ih _ hs hk
  | insert table id columns failed next ih =>
      obtain ⟨hown, href, hk⟩ := hk
      have hinsert : insertRow S ⟨table, id, tenant, columns⟩ (visible tenant db) =
          (insertRow S ⟨table, id, tenant, columns⟩ db).map (visible tenant) := insertRow_visible rfl hown href
      rw [exec, exec, hinsert]
      cases hok : insertRow S ⟨table, id, tenant, columns⟩ db with
      | error violation => rfl
      | ok middle => exact ih (insertRow_sound hs rfl href hok).1 (hk middle hok)
  | update hits set failed next ih =>
      obtain ⟨href, hk⟩ := hk
      rw [exec, exec, updateRows_visible href, filter_targeted_visible]
      cases hok : updateRows S tenant hits set db with
      | error violation => rfl
      | ok middle => exact ih _ (updateRows_sound hs href hok).1 (hk middle hok)
  | delete hits failed next ih =>
      rw [exec, exec, deleteRows_visible hs, filter_targeted_visible]
      cases hok : deleteRows S tenant hits db with
      | error violation => rfl
      | ok middle => exact ih _ (deleteRows_sound hs hok).1 (hk middle hok)

end Programs

-- No two rows of a table have one id.
def Keyed (db : List (Row Tenant Id Value)) : Prop := (db.map fun row => (row.table, row.id)).Nodup

section Keyed

variable {S : Schema Id Value} {tenant : Tenant} {db after : List (Row Tenant Id Value)}
  {prog : Prog Tenant Id Value ε α} {value : α} {hits : Row Tenant Id Value → Bool}
  {set : (String → Value) → String → Value}

omit [DecidableEq Tenant] [DecidableEq Value] in
theorem Keyed.insert {row : Row Tenant Id Value} (h : Keyed db) (hpresent : present db row.table row.id = false) :
    Keyed (db ++ [row]) := by
  rw [Keyed, List.map_append, List.nodup_append]
  refine ⟨h, by simp, ?_⟩
  intro key hkey other hother heq
  obtain ⟨old, hold, rfl⟩ := List.mem_map.mp hkey
  obtain rfl := List.mem_singleton.mp hother
  obtain ⟨htable, hid⟩ := Prod.mk.inj heq
  rw [present_eq_true.mpr ⟨old, hold, htable, hid⟩] at hpresent
  cases hpresent

omit [DecidableEq Id] [DecidableEq Value] in
theorem Keyed.update (h : Keyed db) : Keyed (updated tenant hits set db) := by
  have hkeys : (updated tenant hits set db).map (fun row => (row.table, row.id)) =
      db.map fun row => (row.table, row.id) := by
    rw [updated, List.map_map]
    refine List.map_congr_left fun row _ => ?_
    by_cases hit : targeted tenant hits row = true
    · simp [hit, written]
    · simp [hit]
  rw [Keyed, hkeys]
  exact h

omit [DecidableEq Tenant] [DecidableEq Value] in
theorem Keyed.delete {gone : Row Tenant Id Value → Bool} (h : Keyed db) :
    Keyed ((db.filter fun row => !gone row).map (cleared S db gone)) := by
  have hkeys : ((db.filter fun row => !gone row).map (cleared S db gone)).map (fun row => (row.table, row.id)) =
      (db.filter fun row => !gone row).map fun row => (row.table, row.id) := by
    rw [List.map_map]
    rfl
  rw [Keyed, hkeys]
  exact h.sublist (List.filter_sublist.map _)

theorem exec_keyed (hkeyed : Keyed db) (h : exec S tenant prog db = .ok (value, after)) : Keyed after := by
  induction prog generalizing db with
  | ret result =>
      obtain ⟨-, rfl⟩ := Prod.mk.inj (Except.ok.inj h)
      exact hkeyed
  | throw error => cases h
  | select next ih => exact ih _ hkeyed h
  | insert table id columns failed next ih =>
      unfold exec at h
      split at h
      · cases h
      · rename_i middle hok
        obtain ⟨rfl, hpresent, -⟩ := insertRow_ok hok
        exact ih (hkeyed.insert hpresent) h
  | update hits set failed next ih =>
      unfold exec at h
      split at h
      · cases h
      · rename_i middle hok
        obtain ⟨rfl, -⟩ := updateRows_ok hok
        exact ih _ hkeyed.update h
  | delete hits failed next ih =>
      unfold exec at h
      split at h
      · cases h
      · rename_i middle hok
        obtain ⟨gone, -, rfl, -⟩ := deleteRows_ok hok
        exact ih _ hkeyed.delete h

end Keyed

-- A reference to a row of another tenant: the database finds the row, the tenant's own
-- rows do not have it.
section Foreign

variable {S : Schema Id Value} {tenant : Tenant} {db : List (Row Tenant Id Value)} {table : String} {id : Id}
  {key : ForeignKey} {row : Row Tenant Id Value}

omit [DecidableEq Value] in
theorem present_foreign (hs : Sound S db) (h : ¬ Own tenant db table id) :
    present db table id = true ∧ present (visible tenant db) table id = false := by
  simp only [Own, not_forall] at h
  obtain ⟨foreign, hforeign, htable, hid, hne⟩ := h
  refine ⟨present_eq_true.mpr ⟨foreign, hforeign, htable, hid⟩, ?_⟩
  by_contra hpresent
  rw [Bool.not_eq_false, present_eq_true] at hpresent
  exact hne (Own.of_visible hs.keys hpresent foreign hforeign htable hid)

omit [DecidableEq Tenant] [DecidableEq Value] in
theorem dangling_isSome (hkey : key ∈ S.foreignKeys) (htable : key.table = row.table)
    (hid : S.reference (row.columns key.column) = some id) (h : present db key.target id = false) :
    (dangling S db row).isSome := by
  rw [dangling, List.find?_isSome]
  exact ⟨key, hkey, by simp [htable, hid, h]⟩

theorem insertRow_foreign (hs : Sound S db) (hkey : key ∈ S.foreignKeys) (htable : key.table = row.table)
    (hid : S.reference (row.columns key.column) = some id) (htarget : key.target ≠ row.table)
    (h : ¬ Own tenant db key.target id) : ∃ violation, insertRow S row (visible tenant db) = .error violation := by
  have habsent : present (visible tenant db ++ [row]) key.target id = false := by
    have hold := (present_foreign hs h).2
    simp only [present, List.any_append, List.any_cons, List.any_nil, Bool.or_false] at hold ⊢
    simp [hold, Ne.symm htarget]
  cases hok : insertRow S row (visible tenant db) with
  | error violation => exact ⟨violation, rfl⟩
  | ok after =>
      have hsome := dangling_isSome hkey htable hid habsent
      rw [(insertRow_ok hok).2.2] at hsome
      cases hsome

omit [DecidableEq Value] in
theorem present_updated {hits : Row Tenant Id Value → Bool} {set : (String → Value) → String → Value} :
    present (updated tenant hits set db) table id = present db table id := by
  rw [present, updated, List.any_map, present]
  congr 1
  funext row
  by_cases hit : targeted tenant hits row = true
  · simp [hit, written]
  · simp [hit]

omit [DecidableEq Id] [DecidableEq Value] in
theorem Keyed.filter_targeted {hits : Row Tenant Id Value → Bool} (h : Keyed db)
    (hhits : ∀ row, hits row = true → row.table = table ∧ row.id = id) (hrow : row ∈ db)
    (hit : targeted tenant hits row = true) : db.filter (targeted tenant hits) = [row] := by
  have hsame : ∀ other ∈ db.filter (targeted tenant hits), other = row := by
    intro other hother
    obtain ⟨hmem, hit'⟩ := List.mem_filter.mp hother
    obtain ⟨htable, hid⟩ := hhits row (Bool.and_eq_true_iff.mp hit).2
    obtain ⟨htable', hid'⟩ := hhits other (Bool.and_eq_true_iff.mp hit').2
    exact List.inj_on_of_nodup_map h hmem hrow (Prod.ext (htable'.trans htable.symm) (hid'.trans hid.symm))
  have hnodup : (db.filter (targeted tenant hits)).Nodup := (List.Nodup.of_map _ h).filter _
  have hmem : row ∈ db.filter (targeted tenant hits) := List.mem_filter.mpr ⟨hrow, hit⟩
  generalize db.filter (targeted tenant hits) = found at hsame hnodup hmem
  match found with
  | [] => cases hmem
  | [only] => rw [hsame only List.mem_cons_self]
  | first :: second :: _ =>
      obtain rfl := hsame first List.mem_cons_self
      obtain rfl := hsame second (List.mem_cons_of_mem _ List.mem_cons_self)
      exact absurd List.mem_cons_self (List.nodup_cons.mp hnodup).1

theorem updateRows_foreign {hits : Row Tenant Id Value → Bool} {set : (String → Value) → String → Value}
    {rowId : Id} (hs : Sound S db) (hkeyed : Keyed db)
    (hhits : ∀ row, hits row = true → row.table = table ∧ row.id = rowId) (hrow : row ∈ db)
    (hit : targeted tenant hits row = true) (hkey : key ∈ S.foreignKeys) (htable : key.table = row.table)
    (hid : S.reference (set row.columns key.column) = some id) (h : ¬ Own tenant db key.target id)
    (hviolation : violation? S (updated tenant hits set db) (written set row) = none) :
    (∃ violation, updateRows S tenant hits set db = .error violation ∧
      updateRows S tenant hits set (visible tenant db) = .error violation) ∨
    updateRows S tenant hits set db = .ok (updated tenant hits set db) ∧
      ∃ violation, updateRows S tenant hits set (visible tenant db) = .error violation := by
  have habsent : present (updated tenant hits set (visible tenant db)) key.target id = false := by
    rw [present_updated, (present_foreign hs h).2]
  have hsome : (dangling S (updated tenant hits set (visible tenant db)) (written set row)).isSome :=
    dangling_isSome hkey htable hid habsent
  obtain ⟨missing, hmissing⟩ := Option.isSome_iff_exists.mp hsome
  rw [updateRows, updateRows, filter_targeted_visible, hkeyed.filter_targeted hhits hrow hit]
  cases hrequired : required? S (written set row) with
  | some violation => exact .inl ⟨violation, by simp [hrequired], by simp [hrequired]⟩
  | none =>
      refine .inr ⟨by simp [hrequired, hviolation], ?_⟩
      cases hduplicated : duplicated S (updated tenant hits set (visible tenant db)) (written set row) with
      | some index => exact ⟨_, by simp [hrequired, violation?, hduplicated]; rfl⟩
      | none => exact ⟨_, by simp [hrequired, violation?, hduplicated, hmissing]; rfl⟩

end Foreign

-- The database serves the transactions of all tenants one after the other.
structure Request (Tenant Id Value ε α : Type) where
  tenant : Tenant
  prog : Prog Tenant Id Value ε α

structure Served (Tenant Id Value ε α : Type) where
  db : List (Row Tenant Id Value)
  answers : List (Tenant × Except ε α)

def serve (S : Schema Id Value) (state : Served Tenant Id Value ε α) (request : Request Tenant Id Value ε α) :
    Served Tenant Id Value ε α :=
  match exec S request.tenant request.prog state.db with
  | .error error => { state with answers := state.answers ++ [(request.tenant, .error error)] }
  | .ok (value, db) => { db, answers := state.answers ++ [(request.tenant, .ok value)] }

-- What one tenant has of it: its rows, and the answers it was given.
def Served.of (tenant : Tenant) (state : Served Tenant Id Value ε α) : Served Tenant Id Value ε α where
  db := visible tenant state.db
  answers := state.answers.filter fun answer => answer.1 = tenant

section Runs

open CloudOps.Runs

variable {S : Schema Id Value} {tenant : Tenant} {state : Served Tenant Id Value ε α}
  {request : Request Tenant Id Value ε α}

theorem serve_sound (hs : Sound S state.db) (hk : Keeps S request.tenant request.prog state.db) :
    Sound S (serve S state request).db := by
  unfold serve
  cases h : exec S request.tenant request.prog state.db with
  | error error => exact hs
  | ok result => exact (exec_sound hs hk h).1

theorem serve_of_self (hs : Sound S state.db) (hk : Keeps S request.tenant request.prog state.db) :
    (serve S state request).of request.tenant = serve S (state.of request.tenant) request := by
  have hexec := exec_visible hs hk
  unfold serve
  simp only [Served.of, hexec]
  cases exec S request.tenant request.prog state.db with
  | error error => simp [Except.map]
  | ok result => simp [Except.map]

theorem serve_of_other (hs : Sound S state.db) (hk : Keeps S request.tenant request.prog state.db)
    (hne : tenant ≠ request.tenant) : (serve S state request).of tenant = state.of tenant := by
  unfold serve
  cases h : exec S request.tenant request.prog state.db with
  | error error => simp [Served.of, Ne.symm hne]
  | ok result => simp [Served.of, Ne.symm hne, (exec_sound hs hk h).2 tenant hne]

end Runs

end CloudOps.RowSecurity
