import Mathlib.Data.List.Basic
import Mathlib.Data.List.Find

namespace CloudOps.RowSecurity

-- What the deletion of a row does to the rows that reference it.
inductive OnDelete where
  | noAction
  | setNull
  | cascade
  deriving DecidableEq

-- A column whose value is the id of a row of the target table.
structure ForeignKey where
  constraint : String
  table : String
  column : String
  target : String
  onDelete : OnDelete
  deriving DecidableEq

-- A unique index over the rows of one tenant; a row without a key is not in it.
structure UniqueKey (Value : Type) where
  constraint : String
  table : String
  key : (String → Value) → Option (List Value)

-- What a statement fails with: a row without a required value, two rows with one key,
-- a reference to no row, a deleted row that is still referenced.
inductive Violation where
  | notNull (table column : String)
  | unique (constraint : String)
  | missing (key : ForeignKey)
  | referenced (key : ForeignKey)
  deriving DecidableEq

def Violation.code : Violation → String
  | .notNull _ _ => "23502"
  | .missing _ | .referenced _ => "23503"
  | .unique _ => "23505"

structure Schema (Id Value : Type) where
  null : Value
  reference : Value → Option Id
  reference_null : reference null = none
  notNull : String → List String
  uniqueKeys : List (UniqueKey Value)
  foreignKeys : List ForeignKey

-- A row belongs to the tenant its tenant column names.
structure Row (Tenant Id Value : Type) where
  table : String
  id : Id
  tenant : Tenant
  columns : String → Value

variable {Tenant Id Value ε α : Type} [DecidableEq Tenant] [DecidableEq Id] [DecidableEq Value]

-- The policy of every table: the session of a tenant sees and changes its own rows.
def visible (tenant : Tenant) (db : List (Row Tenant Id Value)) : List (Row Tenant Id Value) :=
  db.filter fun row => row.tenant = tenant

section Statements

variable (S : Schema Id Value)

def present (db : List (Row Tenant Id Value)) (table : String) (id : Id) : Bool :=
  db.any fun row => row.table = table && row.id = id

def nullColumn (row : Row Tenant Id Value) : Option String :=
  (S.notNull row.table).find? fun column => row.columns column = S.null

def duplicated (db : List (Row Tenant Id Value)) (row : Row Tenant Id Value) : Option (UniqueKey Value) :=
  S.uniqueKeys.find? fun index => index.table = row.table && (index.key row.columns).isSome &&
    db.any fun other => other.tenant = row.tenant && other.table = row.table && other.id ≠ row.id &&
      index.key other.columns = index.key row.columns

-- The constraints are checked by the owner of the tables, whose reads no policy filters.
def dangling (db : List (Row Tenant Id Value)) (row : Row Tenant Id Value) : Option ForeignKey :=
  S.foreignKeys.find? fun key => key.table = row.table &&
    ((S.reference (row.columns key.column)).any fun id => !present db key.target id)

def violation? (db : List (Row Tenant Id Value)) (row : Row Tenant Id Value) : Option Violation :=
  ((duplicated S db row).map fun index => .unique index.constraint).or ((dangling S db row).map .missing)

def required? (row : Row Tenant Id Value) : Option Violation :=
  (nullColumn S row).map (.notNull row.table)

def taken? (db : List (Row Tenant Id Value)) (row : Row Tenant Id Value) : Option Violation :=
  if present db row.table row.id then some (.unique (row.table ++ "_pkey")) else none

def insertRow (row : Row Tenant Id Value) (db : List (Row Tenant Id Value)) :
    Except Violation (List (Row Tenant Id Value)) :=
  match (required? S row).or ((taken? db row).or (violation? S (db ++ [row]) row)) with
  | some violation => .error violation
  | none => .ok (db ++ [row])

def written (set : (String → Value) → String → Value) (row : Row Tenant Id Value) : Row Tenant Id Value :=
  { row with columns := set row.columns }

def targeted (tenant : Tenant) (hits : Row Tenant Id Value → Bool) (row : Row Tenant Id Value) : Bool :=
  row.tenant = tenant && hits row

def updated (tenant : Tenant) (hits : Row Tenant Id Value → Bool) (set : (String → Value) → String → Value)
    (db : List (Row Tenant Id Value)) : List (Row Tenant Id Value) :=
  db.map fun row => if targeted tenant hits row then written set row else row

def updateRows (tenant : Tenant) (hits : Row Tenant Id Value → Bool) (set : (String → Value) → String → Value)
    (db : List (Row Tenant Id Value)) : Except Violation (List (Row Tenant Id Value)) :=
  match (((db.filter (targeted tenant hits)).map (written set)).filterMap fun row =>
      (required? S row).or (violation? S (updated tenant hits set db) row)).head? with
  | some violation => .error violation
  | none => .ok (updated tenant hits set db)

def refersTo (key : ForeignKey) (row parent : Row Tenant Id Value) : Bool :=
  key.table = row.table && key.target = parent.table && S.reference (row.columns key.column) = some parent.id

def refersToAny (db : List (Row Tenant Id Value)) (gone : Row Tenant Id Value → Bool) (key : ForeignKey)
    (row : Row Tenant Id Value) : Bool :=
  db.any fun parent => refersTo S key row parent && gone parent

-- The rows a deletion takes with it: those it hits, and through the cascading keys what
-- references them. No chain of cascades is longer than there are keys.
def doomed (db : List (Row Tenant Id Value)) (hit : Row Tenant Id Value → Bool) : Nat → Row Tenant Id Value → Bool
  | 0 => hit
  | depth + 1 => fun row => doomed db hit depth row ||
      S.foreignKeys.any fun key => key.onDelete = .cascade && refersToAny S db (doomed db hit depth) key row

def nulled (db : List (Row Tenant Id Value)) (gone : Row Tenant Id Value → Bool) (row : Row Tenant Id Value)
    (column : String) : Bool :=
  S.foreignKeys.any fun key => key.onDelete = .setNull && key.column = column && refersToAny S db gone key row

def cleared (db : List (Row Tenant Id Value)) (gone : Row Tenant Id Value → Bool) (row : Row Tenant Id Value) :
    Row Tenant Id Value :=
  { row with columns := fun column => if nulled S db gone row column then S.null else row.columns column }

-- A row that is left must not reference one that is gone.
def orphaned (db left : List (Row Tenant Id Value)) (gone : Row Tenant Id Value → Bool) : Option ForeignKey :=
  S.foreignKeys.find? fun key => key.onDelete ≠ .setNull && left.any (refersToAny S db gone key)

def deleteRows (tenant : Tenant) (hits : Row Tenant Id Value → Bool) (db : List (Row Tenant Id Value)) :
    Except Violation (List (Row Tenant Id Value)) :=
  let gone := doomed S db (targeted tenant hits) S.foreignKeys.length
  match orphaned S db (db.filter fun row => !gone row) gone with
  | some key => .error (.referenced key)
  | none => .ok ((db.filter fun row => !gone row).map (cleared S db gone))

end Statements

-- The code of a transaction: it reads the visible rows, and its statements write those
-- of its tenant. A violation ends it with the error the code makes of it.
inductive Prog (Tenant Id Value ε α : Type) where
  | ret (value : α)
  | throw (error : ε)
  | select (next : List (Row Tenant Id Value) → Prog Tenant Id Value ε α)
  | insert (table : String) (id : Id) (columns : String → Value) (failed : Violation → ε)
      (next : Prog Tenant Id Value ε α)
  | update (hits : Row Tenant Id Value → Bool) (set : (String → Value) → String → Value) (failed : Violation → ε)
      (next : List (Row Tenant Id Value) → Prog Tenant Id Value ε α)
  | delete (hits : Row Tenant Id Value → Bool) (failed : Violation → ε)
      (next : List (Row Tenant Id Value) → Prog Tenant Id Value ε α)

section Execution

variable (S : Schema Id Value) (tenant : Tenant)

def exec : Prog Tenant Id Value ε α → List (Row Tenant Id Value) → Except ε (α × List (Row Tenant Id Value))
  | .ret value, db => .ok (value, db)
  | .throw error, _ => .error error
  | .select next, db => exec (next (visible tenant db)) db
  | .insert table id columns failed next, db =>
      match insertRow S ⟨table, id, tenant, columns⟩ db with
      | .error violation => .error (failed violation)
      | .ok db' => exec next db'
  | .update hits set failed next, db =>
      match updateRows S tenant hits set db with
      | .error violation => .error (failed violation)
      | .ok db' => exec (next ((db.filter (targeted tenant hits)).map (written set))) db'
  | .delete hits failed next, db =>
      match deleteRows S tenant hits db with
      | .error violation => .error (failed violation)
      | .ok db' => exec (next (db.filter (targeted tenant hits))) db'

end Execution

section Own

-- Whatever row has the key, it is the tenant's.
def Own (tenant : Tenant) (db : List (Row Tenant Id Value)) (table : String) (id : Id) : Prop :=
  ∀ row ∈ db, row.table = table → row.id = id → row.tenant = tenant

instance Own.decidable (tenant : Tenant) (db : List (Row Tenant Id Value)) (table : String) (id : Id) :
    Decidable (Own tenant db table id) :=
  inferInstanceAs (Decidable (∀ row ∈ db, row.table = table → row.id = id → row.tenant = tenant))

def OwnReferences (S : Schema Id Value) (tenant : Tenant) (db : List (Row Tenant Id Value)) (table : String)
    (columns : String → Value) : Prop :=
  ∀ key ∈ S.foreignKeys, key.table = table → ∀ id, S.reference (columns key.column) = some id →
    Own tenant db key.target id

-- A key names rows of one tenant only, and every reference is to a row of its own one.
structure Sound (S : Schema Id Value) (db : List (Row Tenant Id Value)) : Prop where
  keys : ∀ row ∈ db, Own row.tenant db row.table row.id
  references : ∀ row ∈ db, ∀ key ∈ S.foreignKeys, key.table = row.table →
    ∀ id, S.reference (row.columns key.column) = some id →
      ∃ parent ∈ db, parent.table = key.target ∧ parent.id = id ∧ parent.tenant = row.tenant

variable {S : Schema Id Value} {tenant : Tenant} {db : List (Row Tenant Id Value)}
  {row parent : Row Tenant Id Value} {table : String} {id : Id} {key : ForeignKey} {hits : Row Tenant Id Value → Bool}

omit [DecidableEq Id] [DecidableEq Value] in
@[simp] theorem mem_visible : row ∈ visible tenant db ↔ row ∈ db ∧ row.tenant = tenant := by
  simp [visible]

omit [DecidableEq Id] [DecidableEq Value] in
theorem targeted_tenant (h : targeted tenant hits row = true) : row.tenant = tenant := by
  simp only [targeted, Bool.and_eq_true, decide_eq_true_eq] at h
  exact h.1

omit [DecidableEq Tenant] [DecidableEq Value] in
theorem refersTo_iff : refersTo S key row parent = true ↔ key.table = row.table ∧ key.target = parent.table ∧
    S.reference (row.columns key.column) = some parent.id := by
  simp [refersTo, and_assoc]

omit [DecidableEq Tenant] [DecidableEq Value] in
theorem present_eq_true : present db table id = true ↔ ∃ row ∈ db, row.table = table ∧ row.id = id := by
  simp [present]

omit [DecidableEq Id] [DecidableEq Value] in
theorem Own.of_visible (hkeys : ∀ row ∈ db, Own row.tenant db row.table row.id)
    (h : ∃ row ∈ visible tenant db, row.table = table ∧ row.id = id) : Own tenant db table id := by
  obtain ⟨row, hrow, rfl, rfl⟩ := h
  obtain ⟨hmem, rfl⟩ := mem_visible.mp hrow
  exact hkeys row hmem

omit [DecidableEq Tenant] [DecidableEq Id] [DecidableEq Value] in
theorem Sound.ownReferences (hs : Sound S db) (hrow : row ∈ db) :
    OwnReferences S row.tenant db row.table row.columns := by
  intro key hkey htable id hid
  obtain ⟨real, hreal, hrt, hri, hten⟩ := hs.references row hrow key hkey htable id hid
  rw [← hten, ← hrt, ← hri]
  exact hs.keys real hreal

omit [DecidableEq Tenant] [DecidableEq Value] in
theorem Sound.tenant_of_refersTo (hs : Sound S db) (hrow : row ∈ db) (hparent : parent ∈ db)
    (hkey : key ∈ S.foreignKeys) (h : refersTo S key row parent = true) : parent.tenant = row.tenant := by
  obtain ⟨htable, htarget, hid⟩ := refersTo_iff.mp h
  exact hs.ownReferences hrow key hkey htable parent.id hid parent hparent htarget.symm rfl

end Own

-- A statement of a tenant does to its rows what it would do to a database of these alone.
section Visible

variable {S : Schema Id Value} {tenant owner : Tenant} {db : List (Row Tenant Id Value)}
  {row : Row Tenant Id Value} {table : String} {id : Id}
  {hits : Row Tenant Id Value → Bool} {set : (String → Value) → String → Value}

omit [DecidableEq Id] [DecidableEq Value] in
theorem any_visible {p : Row Tenant Id Value → Bool} (h : ∀ row ∈ db, p row = true → row.tenant = tenant) :
    (visible tenant db).any p = db.any p := by
  rw [Bool.eq_iff_iff, List.any_eq_true, List.any_eq_true]
  constructor
  · rintro ⟨row, hrow, hp⟩
    exact ⟨row, (mem_visible.mp hrow).1, hp⟩
  · rintro ⟨row, hrow, hp⟩
    exact ⟨row, mem_visible.mpr ⟨hrow, h row hrow hp⟩, hp⟩

omit [DecidableEq Value] in
theorem present_visible (h : Own tenant db table id) :
    present (visible tenant db) table id = present db table id := by
  apply any_visible
  intro row hrow hp
  simp only [Bool.and_eq_true, decide_eq_true_eq] at hp
  exact h row hrow hp.1 hp.2

theorem duplicated_visible (h : row.tenant = tenant) :
    duplicated S (visible tenant db) row = duplicated S db row := by
  unfold duplicated
  congr 1
  funext index
  congr 1
  apply any_visible
  intro other _ hp
  simp only [Bool.and_eq_true, decide_eq_true_eq] at hp
  rw [hp.1.1.1, h]

omit [DecidableEq Value] in
theorem dangling_visible (h : OwnReferences S tenant db row.table row.columns) :
    dangling S (visible tenant db) row = dangling S db row := by
  apply List.find?_congr
  intro key hkey
  by_cases htable : key.table = row.table
  · cases href : S.reference (row.columns key.column) with
    | none => rfl
    | some id => simp only [Option.any_some, present_visible (h key hkey htable id href)]
  · simp [htable]

theorem violation_visible (hrow : row.tenant = tenant) (h : OwnReferences S tenant db row.table row.columns) :
    violation? S (visible tenant db) row = violation? S db row := by
  rw [violation?, violation?, duplicated_visible hrow, dangling_visible h]

omit [DecidableEq Id] [DecidableEq Value] in
theorem visible_append (h : row.tenant = tenant) : visible tenant (db ++ [row]) = visible tenant db ++ [row] := by
  simp [visible, h]

omit [DecidableEq Tenant] [DecidableEq Id] [DecidableEq Value] in
theorem ownReferences_append (hrow : row.tenant = tenant)
    (h : OwnReferences S tenant db row.table row.columns) :
    OwnReferences S tenant (db ++ [row]) row.table row.columns := by
  intro key hkey htable id hid other hother
  rcases List.mem_append.mp hother with hold | hnew
  · exact h key hkey htable id hid other hold
  · rw [List.mem_singleton.mp hnew]
    exact fun _ _ => hrow

theorem insertRow_visible (hrow : row.tenant = tenant) (hown : Own tenant db row.table row.id)
    (h : OwnReferences S tenant db row.table row.columns) :
    insertRow S row (visible tenant db) = (insertRow S row db).map (visible tenant) := by
  have htaken : taken? (visible tenant db) row = taken? db row := by
    rw [taken?, taken?, present_visible hown]
  have hviolation : violation? S (visible tenant db ++ [row]) row = violation? S (db ++ [row]) row := by
    rw [← visible_append hrow, violation_visible hrow (ownReferences_append hrow h)]
  rw [insertRow, insertRow, htaken, hviolation]
  cases (required? S row).or ((taken? db row).or (violation? S (db ++ [row]) row)) with
  | some violation => rfl
  | none => exact congrArg Except.ok (visible_append hrow).symm

omit [DecidableEq Id] [DecidableEq Value] in
theorem filter_targeted_visible :
    (visible tenant db).filter (targeted tenant hits) = db.filter (targeted tenant hits) := by
  rw [visible, List.filter_filter]
  apply List.filter_congr
  intro row _
  simp [targeted, Bool.and_comm, Bool.and_left_comm]

omit [DecidableEq Id] [DecidableEq Value] in
theorem visible_updated :
    visible owner (updated tenant hits set db) = updated tenant hits set (visible owner db) := by
  rw [visible, updated, List.filter_map, updated, visible]
  congr 1
  apply List.filter_congr
  intro row _
  by_cases hit : targeted tenant hits row = true <;> simp [hit, written]

omit [DecidableEq Id] [DecidableEq Value] in
theorem mem_updated : row ∈ updated tenant hits set db ↔
    ∃ old ∈ db, row = if targeted tenant hits old then written set old else old := by
  simp only [updated, List.mem_map]
  exact exists_congr fun old => and_congr_right fun _ => eq_comm

omit [DecidableEq Id] [DecidableEq Value] in
theorem own_updated (h : Own owner db table id) : Own owner (updated tenant hits set db) table id := by
  intro row hrow htable hid
  obtain ⟨old, hold, rfl⟩ := mem_updated.mp hrow
  by_cases hit : targeted tenant hits old = true
  · simp only [hit, if_true] at htable hid ⊢
    exact h old hold htable hid
  · simp only [hit, Bool.false_eq_true, if_false] at htable hid ⊢
    exact h old hold htable hid

theorem updateRows_visible (h : ∀ row ∈ db, targeted tenant hits row = true →
      OwnReferences S tenant db row.table (set row.columns)) :
    updateRows S tenant hits set (visible tenant db) = (updateRows S tenant hits set db).map (visible tenant) := by
  rw [updateRows, updateRows, filter_targeted_visible]
  have hchecks : ∀ row ∈ (db.filter (targeted tenant hits)).map (written set),
      (required? S row).or (violation? S (updated tenant hits set (visible tenant db)) row) =
        (required? S row).or (violation? S (updated tenant hits set db) row) := by
    intro row hrow
    obtain ⟨old, hold, rfl⟩ := List.mem_map.mp hrow
    obtain ⟨hmem, hit⟩ := List.mem_filter.mp hold
    have htenant : old.tenant = tenant := targeted_tenant hit
    rw [← visible_updated, violation_visible (show (written set old).tenant = tenant from htenant)]
    exact fun key hkey htable id hid => own_updated (h old hmem hit key hkey htable id hid)
  rw [List.filterMap_congr hchecks]
  cases (List.filterMap _ _).head? with
  | some violation => rfl
  | none => exact congrArg Except.ok visible_updated.symm

section Gone

variable {gone : Row Tenant Id Value → Bool} {key : ForeignKey}

omit [DecidableEq Tenant] [DecidableEq Value] in
theorem Sound.tenant_of_refersToAny (hs : Sound S db) (hrow : row ∈ db) (hkey : key ∈ S.foreignKeys)
    (hgone : ∀ row ∈ db, gone row = true → row.tenant = tenant) (h : refersToAny S db gone key row = true) :
    row.tenant = tenant := by
  obtain ⟨parent, hparent, hp⟩ := List.any_eq_true.mp h
  obtain ⟨hrefers, hpgone⟩ := Bool.and_eq_true_iff.mp hp
  rw [← hs.tenant_of_refersTo hrow hparent hkey hrefers]
  exact hgone parent hparent hpgone

omit [DecidableEq Value] in
theorem refersToAny_visible (hgone : ∀ row ∈ db, gone row = true → row.tenant = tenant) :
    refersToAny S (visible tenant db) gone key row = refersToAny S db gone key row :=
  any_visible fun parent hparent hp => hgone parent hparent (Bool.and_eq_true_iff.mp hp).2

end Gone

omit [DecidableEq Value] in
theorem doomed_tenant (hs : Sound S db) (depth : Nat) : ∀ row ∈ db,
    doomed S db (targeted tenant hits) depth row = true → row.tenant = tenant := by
  induction depth with
  | zero => exact fun row _ hit => targeted_tenant hit
  | succ depth ih =>
      intro row hrow hgone
      simp only [doomed, Bool.or_eq_true, List.any_eq_true, Bool.and_eq_true] at hgone
      rcases hgone with hgone | ⟨key, hkey, -, hany⟩
      · exact ih row hrow hgone
      · exact hs.tenant_of_refersToAny hrow hkey ih hany

omit [DecidableEq Value] in
theorem doomed_visible (hs : Sound S db) (depth : Nat) :
    doomed S (visible tenant db) (targeted tenant hits) depth = doomed S db (targeted tenant hits) depth := by
  induction depth with
  | zero => rfl
  | succ depth ih =>
      funext row
      simp only [doomed, ih, refersToAny_visible (doomed_tenant hs depth)]

variable {gone : Row Tenant Id Value → Bool}

omit [DecidableEq Value] in
theorem cleared_visible (hgone : ∀ row ∈ db, gone row = true → row.tenant = tenant) :
    cleared S (visible tenant db) gone row = cleared S db gone row := by
  have hnulled : nulled S (visible tenant db) gone row = nulled S db gone row := by
    funext column
    simp only [nulled, refersToAny_visible hgone]
  rw [cleared, cleared, hnulled]

omit [DecidableEq Value] in
theorem orphaned_visible (hs : Sound S db) (hgone : ∀ row ∈ db, gone row = true → row.tenant = tenant) :
    orphaned S (visible tenant db) ((visible tenant db).filter fun row => !gone row) gone =
      orphaned S db (db.filter fun row => !gone row) gone := by
  have hleft : (visible tenant db).filter (fun row => !gone row) =
      visible tenant (db.filter fun row => !gone row) := List.filter_comm _ _ _
  apply List.find?_congr
  intro key hkey
  rw [hleft]
  congr 1
  have hrefers : refersToAny S (visible tenant db) gone key = refersToAny S db gone key :=
    funext fun _ => refersToAny_visible hgone
  rw [hrefers]
  exact any_visible fun row hrow hany => hs.tenant_of_refersToAny (List.mem_filter.mp hrow).1 hkey hgone hany

omit [DecidableEq Value] in
theorem deleteRows_visible (hs : Sound S db) :
    deleteRows S tenant hits (visible tenant db) = (deleteRows S tenant hits db).map (visible tenant) := by
  have hgone : ∀ row ∈ db, doomed S db (targeted tenant hits) S.foreignKeys.length row = true →
      row.tenant = tenant := doomed_tenant hs _
  simp only [deleteRows, doomed_visible hs, orphaned_visible hs hgone]
  generalize doomed S db (targeted tenant hits) S.foreignKeys.length = gone at hgone ⊢
  cases orphaned S db (db.filter fun row => !gone row) gone with
  | some key => rfl
  | none =>
      refine congrArg Except.ok ?_
      have hmap : visible tenant ((db.filter fun row => !gone row).map (cleared S db gone)) =
          (visible tenant (db.filter fun row => !gone row)).map (cleared S db gone) := List.filter_map
      rw [hmap, visible, visible, List.filter_comm]
      exact List.map_congr_left fun row _ => cleared_visible hgone

end Visible

end CloudOps.RowSecurity
