import Mathlib.Data.List.Basic
import Mathlib.Data.List.Count

namespace CloudOps.SqlTruth

-- A condition of SQL is true, false or, where a null keeps it from either, unknown.
inductive Truth where
  | yes
  | no
  | unknown
  deriving DecidableEq

namespace Truth

def ofBool (value : Bool) : Truth := if value then yes else no

-- NOT
def negate : Truth → Truth
  | yes => no
  | no => yes
  | unknown => unknown

-- AND
def both : Truth → Truth → Truth
  | no, _ => no
  | _, no => no
  | yes, yes => yes
  | _, _ => unknown

-- OR
def either : Truth → Truth → Truth
  | yes, _ => yes
  | _, yes => yes
  | no, no => no
  | _, _ => unknown

-- A comparison with a null is unknown.
def compare {α β : Type} (relation : α → β → Bool) : Option α → Option β → Truth
  | some first, some second => ofBool (relation first second)
  | _, _ => unknown

-- IS NULL and IS NOT NULL are never unknown.
def isNull {α : Type} (value : Option α) : Truth := ofBool value.isNone

def isNotNull {α : Type} (value : Option α) : Truth := ofBool value.isSome

-- A WHERE or a FILTER keeps a row of which its condition is true.
def holds (truth : Truth) : Bool := truth = yes

-- Conditions joined with AND; a WHERE that is left out keeps every row.
def all (conditions : List Truth) : Truth := conditions.foldr both yes

@[simp] theorem holds_ofBool (value : Bool) : (ofBool value).holds = value := by
  cases value <;> rfl

@[simp] theorem holds_negate_ofBool (value : Bool) : (ofBool value).negate.holds = !value := by
  cases value <;> rfl

@[simp] theorem holds_both (first second : Truth) :
    (first.both second).holds = (first.holds && second.holds) := by
  cases first <;> cases second <;> rfl

@[simp] theorem holds_either (first second : Truth) :
    (first.either second).holds = (first.holds || second.holds) := by
  cases first <;> cases second <;> rfl

@[simp] theorem holds_compare {α β : Type} (relation : α → β → Bool) (first : Option α) (second : Option β) :
    (compare relation first second).holds = first.any fun a => second.any fun b => relation a b := by
  cases first with
  | none => rfl
  | some a =>
      cases second with
      | none => rfl
      | some b => exact holds_ofBool _

@[simp] theorem holds_isNull {α : Type} (value : Option α) : (isNull value).holds = value.isNone :=
  holds_ofBool _

@[simp] theorem holds_isNotNull {α : Type} (value : Option α) : (isNotNull value).holds = value.isSome :=
  holds_ofBool _

theorem holds_all (conditions : List Truth) : (all conditions).holds = conditions.all holds := by
  induction conditions with
  | nil => rfl
  | cons condition rest ih =>
      change (condition.both (all rest)).holds = _
      rw [holds_both, ih, List.all_cons]

end Truth

-- count(*) FILTER (WHERE ..)
def countWhere {α : Type} (condition : α → Truth) (rows : List α) : Nat :=
  rows.countP fun row => (condition row).holds

-- Two filters that no row passes both of count no more rows than one that keeps what
-- either keeps.
theorem countWhere_add_le {α : Type} {first second whole : α → Truth} (rows : List α)
    (hfirst : ∀ row, (first row).holds → (whole row).holds)
    (hsecond : ∀ row, (second row).holds → (whole row).holds)
    (hnone : ∀ row, ¬ ((first row).holds ∧ (second row).holds)) :
    countWhere first rows + countWhere second rows ≤ countWhere whole rows := by
  induction rows with
  | nil => exact Nat.le_refl 0
  | cons row rest ih =>
      have hf := hfirst row
      have hs := hsecond row
      have hn := hnone row
      simp only [countWhere, List.countP_cons] at ih ⊢
      cases h1 : (first row).holds <;> cases h2 : (second row).holds <;>
        cases h3 : (whole row).holds <;> simp_all <;> omega

end CloudOps.SqlTruth
