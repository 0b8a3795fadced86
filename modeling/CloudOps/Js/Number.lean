import Mathlib.Data.Nat.Digits.Defs
import Mathlib.Data.Rat.Defs
import Mathlib.Logic.Basic

namespace CloudOps.Js

-- The number of units of ten to the power that comes nearest to the positive value, of the
-- two numbers beside it, among those that read back as the value.
def nearestDecimal (value : Float.Model) (mantissa : Nat) (exponent power : Int) : Option Nat :=
  let scaled := mantissa * 2 ^ exponent.toNat * 10 ^ (-power).toNat
  let unit := 2 ^ (-exponent).toNat * 10 ^ power.toNat
  let below := scaled / unit
  let rest := scaled % unit
  let nearestFirst :=
    if 2 * rest < unit ∨ (2 * rest = unit ∧ below % 2 = 0) then [below, below + 1] else [below + 1, below]
  nearestFirst.find? fun digits => Float.Model.ofScientific digits power = value

-- The fewest digits that read back: the largest power that has any, from the given one down.
def shortestDecimal (value : Float.Model) (mantissa : Nat) (exponent : Int) : Nat → Int → Nat × Int
  | 0, _ => (mantissa, exponent)
  | fuel + 1, power =>
      match nearestDecimal value mantissa exponent power with
      | some digits => (digits, power)
      | none => shortestDecimal value mantissa exponent fuel (power - 1)

-- A power of ten above the value, and at most three above its first digit's.
def powerAbove (mantissa : Nat) (exponent : Int) : Int :=
  (Float.Model.totalExponent mantissa exponent * 30103) / 100000 + 1

def fraction (digits : List Char) : List Char := if digits.length = 1 then [] else '.' :: digits.drop 1

def exponentForm (digits : List Char) (exponent : Int) : List Char :=
  let sign := if exponent < 0 then '-' else '+'
  digits.take 1 ++ fraction digits ++ 'e' :: sign :: Nat.toDigits 10 exponent.natAbs

-- The digits with the decimal point, or the exponent, where Number::toString puts it:
-- the point comes after that many of the digits.
def placePoint (digits : List Char) (point : Int) : List Char :=
  if digits.length ≤ point ∧ point ≤ 21 then
    digits ++ List.replicate (point - digits.length).toNat '0'
  else if 0 < point ∧ point ≤ 21 then
    digits.take point.toNat ++ '.' :: digits.drop point.toNat
  else if -6 < point ∧ point ≤ 0 then
    '0' :: '.' :: List.replicate (-point).toNat '0' ++ digits
  else
    exponentForm digits (point - 1)

def signed (sign : Float.Model.UnpackedFloat.Sign) (text : List Char) : List Char :=
  match sign with
  | .positive => text
  | .negative => '-' :: text

def numberText (number : Float) : List Char :=
  match number.toModel.unpack with
  | .notANumber => "NaN".toList
  | .zero _ => ['0']
  | .infinity sign => signed sign "Infinity".toList
  | .finite sign mantissa exponent _ =>
      -- a value has at most 17 digits, and the first is at most three powers down
      let (digits, power) :=
        shortestDecimal number.toModel.abs mantissa exponent 20 (powerAbove mantissa exponent)
      let text := Nat.toDigits 10 digits
      signed sign (placePoint text (text.length + power))

-- String(number).
def numberToString (number : Float) : String := .ofList (numberText number)

example : numberText (.ofModel (.ofScientific 1 (-7))) = "1e-7".toList := by decide +kernel

-- What String(number) is made of.
def isNumberChar (c : Char) : Bool := c.isDigit || "NaInfinity.+-e".toList.contains c

theorem isNumberChar_of_isDigit {c : Char} (h : c.isDigit = true) : isNumberChar c = true := by
  simp [isNumberChar, h]

theorem toDigits_isNumberChar (n : Nat) : ∀ c ∈ Nat.toDigits 10 n, isNumberChar c = true := by
  intro c hc
  exact isNumberChar_of_isDigit (Nat.isDigit_of_mem_toDigits (by omega) (by omega) hc)

theorem replicate_isNumberChar (n : Nat) : ∀ c ∈ List.replicate n '0', isNumberChar c = true := by
  intro c hc
  rw [List.eq_of_mem_replicate hc]
  decide

theorem exponentForm_isNumberChar {digits : List Char} (exponent : Int)
    (h : ∀ c ∈ digits, isNumberChar c = true) : ∀ c ∈ exponentForm digits exponent, isNumberChar c = true := by
  have hfirst : ∀ c ∈ digits.take 1, isNumberChar c = true := fun c hc => h c (List.mem_of_mem_take hc)
  have hfraction : ∀ c ∈ fraction digits, isNumberChar c = true := by
    unfold fraction
    by_cases hone : digits.length = 1
    · simp [hone]
    · simp only [hone, if_false, List.forall_mem_cons]
      exact ⟨by decide, fun c hc => h c (List.mem_of_mem_drop hc)⟩
  have hsign : isNumberChar (if exponent < 0 then '-' else '+') = true := by
    by_cases hneg : exponent < 0 <;> simp only [hneg, if_true, if_false] <;> decide
  simp only [exponentForm, List.forall_mem_append, List.forall_mem_cons]
  exact ⟨⟨hfirst, hfraction⟩, by decide, hsign, toDigits_isNumberChar _⟩

theorem placePoint_isNumberChar {digits : List Char} (point : Int)
    (h : ∀ c ∈ digits, isNumberChar c = true) : ∀ c ∈ placePoint digits point, isNumberChar c = true := by
  have hpoint : isNumberChar '.' = true := by decide
  have hzero : isNumberChar '0' = true := by decide
  unfold placePoint
  split_ifs
  · simp only [List.forall_mem_append]
    exact ⟨h, replicate_isNumberChar _⟩
  · simp only [List.forall_mem_append, List.forall_mem_cons]
    exact ⟨fun c hc => h c (List.mem_of_mem_take hc), hpoint, fun c hc => h c (List.mem_of_mem_drop hc)⟩
  · simp only [List.cons_append, List.forall_mem_append, List.forall_mem_cons]
    exact ⟨hzero, hpoint, replicate_isNumberChar _, h⟩
  · exact exponentForm_isNumberChar _ h

theorem signed_isNumberChar (sign : Float.Model.UnpackedFloat.Sign) {text : List Char}
    (h : ∀ c ∈ text, isNumberChar c = true) : ∀ c ∈ signed sign text, isNumberChar c = true := by
  cases sign with
  | positive => exact h
  | negative =>
    simp only [signed, List.forall_mem_cons]
    exact ⟨by decide, h⟩

theorem numberToString_isNumberChar (number : Float) :
    ∀ c ∈ (numberToString number).toList, isNumberChar c = true := by
  rw [numberToString, String.toList_ofList]
  unfold numberText
  split
  · exact List.all_eq_true.mp (by decide)
  · exact List.all_eq_true.mp (by decide)
  · exact signed_isNumberChar _ (List.all_eq_true.mp (by decide))
  · exact signed_isNumberChar _ (placePoint_isNumberChar _ (toDigits_isNumberChar _))

theorem placePoint_ne_nil {digits : List Char} (h : digits ≠ []) (point : Int) : placePoint digits point ≠ [] := by
  unfold placePoint
  split_ifs
  · simp [h]
  · simp
  · simp
  · simp [exponentForm]

theorem signed_ne_nil (sign : Float.Model.UnpackedFloat.Sign) {text : List Char} (h : text ≠ []) :
    signed sign text ≠ [] := by
  cases sign with
  | positive => exact h
  | negative => simp [signed]

theorem numberToString_ne_empty (number : Float) : numberToString number ≠ "" := by
  have htext : numberText number ≠ [] := by
    unfold numberText
    split
    · decide
    · decide
    · exact signed_ne_nil _ (by decide)
    · exact signed_ne_nil _ (placePoint_ne_nil Nat.toDigits_ne_nil _)
  intro h
  rw [← String.toList_inj, numberToString, String.toList_ofList] at h
  exact htext h

-- What the database's cast of a decimal to a double gives: the nearest one. So large a power of
-- ten is a multiple of its denominator. The database refuses a number beyond the doubles, here it
-- is an infinity.
def castFloat (amount : ℚ) : Float :=
  let scale := Nat.log2 amount.den
  let digits := amount.num.natAbs * (10 ^ scale / amount.den)
  let magnitude := Float.ofModel (Float.Model.ofScientific digits (-scale))
  if amount.num < 0 then -magnitude else magnitude

example : castFloat (1 / 10) = 0.1 ∧ castFloat (-5 / 4) = -1.25 ∧ castFloat 0 = 0 := by decide +kernel

-- The number as a natural number, where Number.isInteger has it for an integer that is not
-- negative. Both zeros are 0.
def natValue (number : Float) : Option Nat :=
  match number.toModel.unpack with
  | .zero _ => some 0
  | .finite .positive mantissa exponent _ =>
      if 0 ≤ exponent then some (mantissa * 2 ^ exponent.toNat)
      else if mantissa % 2 ^ (-exponent).toNat = 0 then some (mantissa / 2 ^ (-exponent).toNat)
      else none
  | .finite .negative .. | .infinity _ | .notANumber => none

-- Math.min(1, Math.max(0, number))
def clampUnit (number : Float) : Float :=
  if number.isNaN then number
  else if number ≤ 0 then 0
  else if 1 ≤ number then 1
  else number

-- Math.round(number): the nearest integer, the greater one of two. Both zeros are 0.
def mathRound (number : Float) : Float :=
  match number.toModel.unpack with
  | .finite sign mantissa exponent _ =>
      if 0 ≤ exponent then number
      else
        let unit : Int := 2 ^ (-exponent).toNat
        .ofInt ((2 * sign.apply mantissa + unit) / (2 * unit))
  | .zero _ => 0
  | .infinity _ | .notANumber => number

example : natValue 3 = some 3 ∧ natValue 2.5 = none ∧ clampUnit 1.5 = 1 ∧ mathRound 2.5 = 3 ∧
    mathRound (-2.5) = -2 := by decide +kernel

open Float.Model (UnpackedFloat)

theorem swap_compare (first second : UnpackedFloat) :
    second.compare first = (first.compare second).map Ordering.swap := by
  have hsign : ∀ first second : UnpackedFloat.Sign, compare second first = (compare first second).swap := by
    intro first second
    cases first <;> cases second <;> rfl
  have hnumbers : ∀ (m m' : Nat) (e e' : Int), (compare e' e).then (compare m' m) =
      ((compare e e').then (compare m m')).swap := by
    intro m m' e e'
    rw [Ordering.swap_then, ← Std.OrientedCmp.eq_swap, ← Std.OrientedCmp.eq_swap]
  cases first with
  | notANumber => cases second <;> rfl
  | infinity sign =>
      cases second with
      | infinity other => exact congrArg some (hsign sign other)
      | notANumber => rfl
      | zero other => cases sign <;> rfl
      | finite other m e _ => cases sign <;> rfl
  | zero sign =>
      cases second with
      | infinity other => cases other <;> rfl
      | notANumber => rfl
      | zero other => rfl
      | finite other m e _ => cases other <;> rfl
  | finite sign m e _ =>
      cases second with
      | infinity other => cases other <;> rfl
      | notANumber => rfl
      | zero other => cases sign <;> rfl
      | finite other m' e' _ =>
          cases sign with
          | negative =>
              cases other with
              | negative => exact congrArg (fun order => some (Ordering.swap order)) (hnumbers m m' e e')
              | positive => rfl
          | positive =>
              cases other with
              | negative => rfl
              | positive => exact congrArg some (hnumbers m m' e e')

theorem compare_ne_none {first second : UnpackedFloat} (hfirst : first ≠ .notANumber)
    (hsecond : second ≠ .notANumber) : first.compare second ≠ none := by
  cases first with
  | notANumber => exact absurd rfl hfirst
  | infinity sign | zero sign | finite sign =>
      cases second with
      | notANumber => exact absurd rfl hsecond
      | infinity other | zero other | finite other =>
          cases sign <;> cases other <;> exact Option.some_ne_none _

theorem isNaN_iff {number : Float} : number.isNaN = true ↔ number.toModel.unpack = .notANumber := by
  change number.toModel.unpack.isNaN = true ↔ _
  cases number.toModel.unpack with
  | notANumber => exact iff_of_true rfl rfl
  | infinity | zero | finite => exact iff_of_false Bool.false_ne_true nofun

theorem le_iff {first second : Float} :
    first ≤ second ↔ (first.toModel.unpack.compare second.toModel.unpack).any Ordering.isLE = true :=
  decide_eq_true_iff

theorem lt_iff {first second : Float} :
    first < second ↔ first.toModel.unpack.compare second.toModel.unpack = some .lt := by
  refine decide_eq_true_iff.trans ?_
  change (_ == _) = true ↔ _
  rw [beq_iff_eq]

-- Of two numbers one is at least the other.
theorem le_of_not_le {first second : Float} (hfirst : first.isNaN = false) (hsecond : second.isNaN = false)
    (h : ¬ first ≤ second) : second ≤ first := by
  have hf : first.toModel.unpack ≠ .notANumber := fun heq =>
    Bool.false_ne_true (hfirst.symm.trans (isNaN_iff.mpr heq))
  have hs : second.toModel.unpack ≠ .notANumber := fun heq =>
    Bool.false_ne_true (hsecond.symm.trans (isNaN_iff.mpr heq))
  rw [le_iff] at h ⊢
  rw [swap_compare]
  cases hcompare : first.toModel.unpack.compare second.toModel.unpack with
  | none => exact absurd hcompare (compare_ne_none hf hs)
  | some order =>
      rw [hcompare] at h
      cases order with
      | lt => exact absurd rfl h
      | eq => exact absurd rfl h
      | gt => rfl

theorem not_lt_self (number : Float) : ¬ number < number := by
  intro h
  have hlt := lt_iff.mp h
  have hswap := swap_compare number.toModel.unpack number.toModel.unpack
  rw [hlt] at hswap
  cases hswap

theorem not_nan_of_le {first second : Float} (h : first ≤ second) : second.isNaN = false := by
  rw [Bool.eq_false_iff]
  intro hnan
  rw [le_iff, isNaN_iff.mp hnan, swap_compare] at h
  exact Bool.false_ne_true h

-- The sign of what is a number.
def signOf : UnpackedFloat → Option UnpackedFloat.Sign
  | .notANumber => none
  | .infinity sign | .zero sign | .finite sign .. => some sign

theorem unpackSign_packComponents (spec : Float.Model.Format) (sign : UnpackedFloat.Sign)
    (exponent : BitVec spec.exponentBits) (mantissa : BitVec spec.mantissaBitsWithoutImplicit) :
    UnpackedFloat.unpackSign (UnpackedFloat.packComponents spec sign exponent mantissa) = sign.toBitVec := by
  ext i hi
  obtain rfl : i = 0 := by omega
  delta UnpackedFloat.unpackSign UnpackedFloat.packComponents
  simp [BitVec.getLsbD_append, BitVec.getElem_append]

theorem unpackSign_pack {spec : Float.Model.Format} {value : UnpackedFloat} {sign : UnpackedFloat.Sign}
    (h : signOf value = some sign) : UnpackedFloat.unpackSign (UnpackedFloat.pack spec value) = sign.toBitVec := by
  fun_cases UnpackedFloat.pack
  · cases h
  all_goals
    obtain rfl := Option.some.inj h
    exact unpackSign_packComponents _ _ _ _

theorem signOf_unpack {spec : Float.Model.Format} {bits : BitVec spec.numBits} {sign : UnpackedFloat.Sign}
    (h : signOf (UnpackedFloat.unpack spec bits) = some sign) :
    sign = .ofBitVec (UnpackedFloat.unpackSign bits) := by
  delta UnpackedFloat.unpack at h
  by_cases hmax : UnpackedFloat.unpackExponent bits = -BitVec.ofNat spec.exponentBits 1
  · rw [if_pos hmax] at h
    by_cases hmantissa : UnpackedFloat.unpackMantissa bits = BitVec.ofNat spec.mantissaBitsWithoutImplicit 0
    · rw [if_pos hmantissa] at h
      exact (Option.some.inj h).symm
    · rw [if_neg hmantissa] at h
      cases h
  rw [if_neg hmax] at h
  by_cases hmin : UnpackedFloat.unpackExponent bits = BitVec.ofNat spec.exponentBits 0
  · rw [if_pos hmin] at h
    by_cases hmantissa : UnpackedFloat.unpackMantissa bits = BitVec.ofNat spec.mantissaBitsWithoutImplicit 0
    · rw [dif_pos hmantissa] at h
      exact (Option.some.inj h).symm
    · rw [dif_neg hmantissa] at h
      exact (Option.some.inj h).symm
  · rw [if_neg hmin] at h
    exact (Option.some.inj h).symm

-- Storing a result keeps its sign.
theorem signOf_pack {value : UnpackedFloat} {sign other : UnpackedFloat.Sign} (h : signOf value = some sign)
    (hother : signOf (Float.Model.pack value).unpack = some other) : other = sign := by
  have hread : other = .ofBitVec (UnpackedFloat.unpackSign (UnpackedFloat.pack .binary64 value)) :=
    signOf_unpack hother
  rw [hread, unpackSign_pack h]
  cases sign <;> rfl

theorem pos_iff {number : Float} : 0 < number ↔
    number.toModel.unpack = .infinity .positive ∨ ∃ m e hm, number.toModel.unpack = .finite .positive m e hm := by
  have hzero : (0 : Float).toModel.unpack = .zero .positive := rfl
  rw [lt_iff, hzero]
  constructor
  · intro h
    cases hnumber : number.toModel.unpack with
    | notANumber | zero => rw [hnumber] at h; cases h
    | infinity sign =>
        rw [hnumber] at h
        cases sign with
        | negative => cases h
        | positive => exact .inl rfl
    | finite sign m e hm =>
        rw [hnumber] at h
        cases sign with
        | negative => cases h
        | positive => exact .inr ⟨m, e, hm, rfl⟩
  · rintro (h | ⟨m, e, hm, h⟩)
    · rw [h]
      rfl
    · rw [h]
      rfl

-- What is beyond a positive number is positive.
theorem pos_of_lt {first second : Float} (hpos : 0 < first) (hlt : first < second) : 0 < second := by
  rw [lt_iff] at hlt
  rw [pos_iff]
  obtain hfirst | ⟨m, e, hm, hfirst⟩ := pos_iff.mp hpos
  all_goals
    rw [hfirst] at hlt
    cases hsecond : second.toModel.unpack with
    | notANumber | zero => rw [hsecond] at hlt; cases hlt
    | infinity sign =>
        rw [hsecond] at hlt
        cases sign with
        | negative => cases hlt
        | positive => exact .inl rfl
    | finite sign m e hm =>
        rw [hsecond] at hlt
        cases sign with
        | negative => cases hlt
        | positive => exact .inr ⟨m, e, hm, rfl⟩

-- And taken from 0 it leaves nothing positive.
theorem not_le_zero_sub {bound number : Float} (hbound : 0 < bound) (hpos : 0 < number) : ¬ bound ≤ 0 - number := by
  have hsign : ∀ sign, signOf (0 - number).toModel.unpack = some sign → sign = .negative := by
    intro sign hresult
    have hdifference : signOf (UnpackedFloat.sub .binary64 (.zero .positive) number.toModel.unpack) =
        some .negative := by
      obtain hnumber | ⟨m, e, hm, hnumber⟩ := pos_iff.mp hpos
      all_goals
        rw [hnumber]
        rfl
    exact signOf_pack hdifference hresult
  rw [le_iff]
  obtain h | ⟨m, e, hm, h⟩ := pos_iff.mp hbound
  all_goals
    rw [h]
    cases hresult : (0 - number).toModel.unpack with
    | notANumber => exact Bool.false_ne_true
    | infinity sign | zero sign | finite sign =>
        obtain rfl := hsign sign (congrArg signOf hresult)
        exact Bool.false_ne_true

-- A number is put into the unit interval, and only a number is.
theorem clampUnit_iff (number : Float) : 0 ≤ clampUnit number ∧ clampUnit number ≤ 1 ↔ number.isNaN = false := by
  unfold clampUnit
  cases hnan : number.isNaN with
  | true =>
      refine iff_of_false (fun h => ?_) (by decide)
      rw [if_pos rfl] at h
      rw [not_nan_of_le h.1] at hnan
      cases hnan
  | false =>
      refine iff_of_true ?_ rfl
      rw [if_neg Bool.false_ne_true]
      by_cases hlow : number ≤ 0
      · rw [if_pos hlow]
        decide +kernel
      rw [if_neg hlow]
      by_cases hhigh : 1 ≤ number
      · rw [if_pos hhigh]
        decide +kernel
      rw [if_neg hhigh]
      exact ⟨le_of_not_le hnan (by decide +kernel) hlow, le_of_not_le (by decide +kernel) hnan hhigh⟩

end CloudOps.Js
