import CloudOps.Js.Number
import Mathlib.Data.List.Basic
import Mathlib.Data.List.Nodup
import Mathlib.Tactic.Common

namespace CloudOps.Js

-- What JSON.parse makes of a text, and what else a property of an object can read as: a
-- built-in that it inherits, known by its String().
inductive Value where
  | null
  | boolean (value : Bool)
  | number (value : Float)
  | string (text : String)
  | array (elements : List Value)
  | object (properties : List (String × Value))
  | builtIn (text : String) (nonempty : text ≠ "")

theorem mem_of_lookup {β : Type} {properties : List (String × β)} {key : String} {value : β}
    (h : properties.lookup key = some value) : (key, value) ∈ properties := by
  obtain ⟨before, after, hsplit, -⟩ := List.lookup_eq_some_iff.mp h
  simp [hsplit]

-- The properties of Object.prototype, with their String().
def objectPrototype : List (String × String) :=
  [("constructor", "function Object() \x7b [native code] \x7d"),
    ("__defineGetter__", "function __defineGetter__() \x7b [native code] \x7d"),
    ("__defineSetter__", "function __defineSetter__() \x7b [native code] \x7d"),
    ("hasOwnProperty", "function hasOwnProperty() \x7b [native code] \x7d"),
    ("__lookupGetter__", "function __lookupGetter__() \x7b [native code] \x7d"),
    ("__lookupSetter__", "function __lookupSetter__() \x7b [native code] \x7d"),
    ("isPrototypeOf", "function isPrototypeOf() \x7b [native code] \x7d"),
    ("propertyIsEnumerable", "function propertyIsEnumerable() \x7b [native code] \x7d"),
    ("toString", "function toString() \x7b [native code] \x7d"),
    ("valueOf", "function valueOf() \x7b [native code] \x7d"),
    ("__proto__", "[object Object]"),
    ("toLocaleString", "function toLocaleString() \x7b [native code] \x7d")]

theorem objectPrototype_nonempty : ∀ entry ∈ objectPrototype, entry.2 ≠ "" := by decide

def inherited (key : String) : Option Value :=
  match objectPrototype.lookup key with
  | none => none
  | some text => if nonempty : text ≠ "" then some (.builtIn text nonempty) else none

-- object[key], none for undefined.
def property (properties : List (String × Value)) (key : String) : Option Value :=
  (properties.lookup key).or (inherited key)

namespace Value

def isNull : Value → Bool
  | null => true
  | _ => false

-- String(value). An object made by JSON.parse is printed by the inherited toString; one
-- with a property of that name has nothing left that could print it.
mutual
def toText : Value → Except String String
  | .null => .ok "null"
  | .boolean value => .ok (if value = true then "true" else "false")
  | .number value => .ok (numberToString value)
  | .string text => .ok text
  | .array elements => do return ",".intercalate (← elementTexts elements)
  | .object properties =>
      if (properties.lookup "toString").isSome then .error "Cannot convert object to primitive value"
      else .ok "[object Object]"
  | .builtIn text _ => .ok text

-- The texts that join puts its separator between.
def elementTexts : List Value → Except String (List String)
  | [] => .ok []
  | element :: rest => do
      return (← (if element.isNull = true then .ok "" else toText element)) :: (← elementTexts rest)
end

end Value

-- StrWhiteSpaceChar
def isStrWhiteSpace (c : Char) : Bool :=
  c.toNat ∈ [0x9, 0xA, 0xB, 0xC, 0xD, 0x20, 0xA0, 0x1680, 0x2028, 0x2029, 0x202F, 0x205F, 0x3000, 0xFEFF]
    || 0x2000 ≤ c.toNat && c.toNat ≤ 0x200A

def trimmed (text : List Char) : List Char :=
  ((text.dropWhile isStrWhiteSpace).reverse.dropWhile isStrWhiteSpace).reverse

def notANumber : Float := .ofModel (.pack .notANumber)

def ofDecimal (digits : Nat) (power : Int) : Float := .ofModel (.ofScientific digits power)

def digitValue (c : Char) : Nat :=
  if c.isDigit then c.toNat - '0'.toNat
  else if 'a' ≤ c ∧ c ≤ 'z' then c.toNat - 'a'.toNat + 10
  else if 'A' ≤ c ∧ c ≤ 'Z' then c.toNat - 'A'.toNat + 10
  else 36

-- The digits behind 0x, 0o or 0b.
def ofRadix (radix : Nat) (digits : List Char) : Float :=
  if digits = [] ∨ digits.any (fun c => radix ≤ digitValue c) then notANumber
  else ofDecimal (digits.foldl (fun number c => radix * number + digitValue c) 0) 0

-- The exponent at the end of a decimal literal, 0 where it has none.
def exponentOf : List Char → Option Int
  | [] => some 0
  | c :: rest =>
      let sign := rest.head?.filter fun c => c == '+' || c == '-'
      let digits := if sign.isSome then rest.tail else rest
      if (c == 'e' || c == 'E') && !digits.isEmpty && digits.all Char.isDigit then
        let exponent : Int := Nat.ofDigitChars 10 digits 0
        some (if sign = some '-' then -exponent else exponent)
      else none

-- StrUnsignedDecimalLiteral
def ofUnsigned (text : List Char) : Float :=
  if text = "Infinity".toList then .ofModel (.pack (.infinity .positive)) else
  let whole := text.takeWhile Char.isDigit
  let afterWhole := text.drop whole.length
  let fraction := if afterWhole.head? = some '.' then afterWhole.tail.takeWhile Char.isDigit else []
  let afterPoint := if afterWhole.head? = some '.' then afterWhole.tail.drop fraction.length else afterWhole
  match exponentOf afterPoint with
  | some exponent =>
      if whole.isEmpty && fraction.isEmpty then notANumber
      else ofDecimal (Nat.ofDigitChars 10 (whole ++ fraction) 0) (exponent - fraction.length)
  | none => notANumber

-- Number(text)
def stringToNumber (text : String) : Float :=
  match trimmed text.toList with
  | [] => ofDecimal 0 0
  | '0' :: 'x' :: digits | '0' :: 'X' :: digits => ofRadix 16 digits
  | '0' :: 'o' :: digits | '0' :: 'O' :: digits => ofRadix 8 digits
  | '0' :: 'b' :: digits | '0' :: 'B' :: digits => ofRadix 2 digits
  | '+' :: rest => ofUnsigned rest
  | '-' :: rest => -ofUnsigned rest
  | rest => ofUnsigned rest

namespace Value

-- Number(value). An array and an object are converted to a text first.
def toNumber (value : Value) : Except String Float :=
  match value with
  | null => .ok (ofDecimal 0 0)
  | boolean value => .ok (ofDecimal (if value = true then 1 else 0) 0)
  | number value => .ok value
  | string text => .ok (stringToNumber text)
  | array _ | object _ | builtIn _ _ => do return stringToNumber (← value.toText)

end Value

example : stringToNumber " -12.5e-1\n" = -ofDecimal 125 (-2) ∧ stringToNumber "0x1F" = ofDecimal 31 0 := by
  decide +kernel

namespace Value

-- The arrays that String() makes an empty text of.
def isBlankArray : Value → Bool
  | array [] => true
  | array [element] =>
      match element with
      | null | string "" => true
      | other => other.isBlankArray
  | _ => false

theorem intercalate_eq_empty_iff (texts : List String) :
    ",".intercalate texts = "" ↔ texts = [] ∨ texts = [""] := by
  rw [← String.toList_inj, String.toList_intercalate]
  cases texts with
  | nil => simp
  | cons text rest =>
    cases rest with
    | nil => simp
    | cons next rest => simp

theorem toText_array (elements : List Value) :
    (array elements).toText = .ok "" ↔ elementTexts elements = .ok [] ∨ elementTexts elements = .ok [""] := by
  rw [toText]
  cases elementTexts elements with
  | error message => simp [bind, Except.bind]
  | ok texts => simpa [bind, Except.bind, pure, Except.pure] using intercalate_eq_empty_iff texts

theorem elementTexts_cons {element : Value} {rest : List Value} {texts : List String}
    (h : elementTexts (element :: rest) = .ok texts) :
    ∃ text more, (element.isNull = true ∧ text = "" ∨ element.toText = .ok text)
      ∧ elementTexts rest = .ok more ∧ texts = text :: more := by
  rw [elementTexts] at h
  cases htext : (if element.isNull = true then .ok "" else element.toText : Except String String) with
  | error message => simp [htext, bind, Except.bind] at h
  | ok text =>
    cases hrest : elementTexts rest with
    | error message => simp [htext, hrest, bind, Except.bind] at h
    | ok more =>
      have htexts : text :: more = texts := by
        simpa [htext, hrest, bind, Except.bind, pure, Except.pure] using h
      refine ⟨text, more, ?_, rfl, htexts.symm⟩
      by_cases hnull : element.isNull = true
      · exact .inl ⟨hnull, by simpa [hnull] using htext.symm⟩
      · exact .inr (by simpa [hnull] using htext)

-- Only the empty text and the blank arrays have an empty String().
theorem isBlankArray_of_toText (value : Value) (h : value.toText = .ok "") :
    value = .string "" ∨ value.isBlankArray = true := by
  match value with
  | .null => simp [toText] at h
  | .boolean value => cases value <;> simp [toText] at h
  | .number n => exact absurd (by simpa [toText] using h) (numberToString_ne_empty n)
  | .string text => exact .inl (by simpa [toText] using h)
  | .object properties => rw [toText] at h; split_ifs at h; simp at h
  | .builtIn text nonempty => exact absurd (by simpa [toText] using h) nonempty
  | .array [] => exact .inr rfl
  | .array (element :: rest) =>
    right
    rcases (toText_array _).mp h with htexts | htexts
    · obtain ⟨text, more, -, -, hcons⟩ := elementTexts_cons htexts
      simp at hcons
    · obtain ⟨text, more, helement, hrest, hcons⟩ := elementTexts_cons htexts
      obtain ⟨rfl, rfl⟩ := List.cons.inj hcons
      cases rest with
      | cons next rest =>
        obtain ⟨text, more, -, -, hcons⟩ := elementTexts_cons hrest
        simp at hcons
      | nil =>
        rcases helement with ⟨hnull, -⟩ | htext
        · cases element <;> simp_all [isNull, isBlankArray]
        · rcases isBlankArray_of_toText element htext with rfl | hblank
          · rfl
          · unfold isBlankArray
            split
            · rfl
            · rfl
            · exact hblank

theorem toText_of_isBlankArray (value : Value) (h : value.isBlankArray = true) : value.toText = .ok "" := by
  match value with
  | .array [] => rfl
  | .array [element] =>
    rw [toText_array]
    right
    have htext : (if element.isNull = true then .ok "" else element.toText : Except String String) = .ok "" := by
      unfold isBlankArray at h
      split at h
      · rfl
      · rfl
      · by_cases hnull : element.isNull = true
        · rw [if_pos hnull]
        · rw [if_neg hnull, toText_of_isBlankArray element h]
    simp only [elementTexts, htext]
    rfl

end Value

-- map.get(key) of a new Map(entries), which keeps the last entry of a key.
def mapGet {α β : Type} [DecidableEq α] (entries : List (α × β)) (key : α) : Option β :=
  ((entries.filter fun entry => entry.1 = key).getLast?).map Prod.snd

theorem mapGet_eq_none {α β : Type} [DecidableEq α] {entries : List (α × β)} {key : α} :
    mapGet entries key = none ↔ key ∉ entries.map Prod.fst := by
  rw [mapGet, Option.map_eq_none_iff, List.getLast?_eq_none_iff, List.filter_eq_nil_iff, List.mem_map]
  constructor
  · rintro h ⟨entry, hentry, hkey⟩
    exact h entry hentry (decide_eq_true hkey)
  · intro h entry hentry hkey
    exact h ⟨entry, hentry, of_decide_eq_true hkey⟩

theorem mem_of_mapGet {α β : Type} [DecidableEq α] {entries : List (α × β)} {key : α} {value : β}
    (h : mapGet entries key = some value) : (key, value) ∈ entries := by
  obtain ⟨entry, hlast, rfl⟩ := Option.map_eq_some_iff.mp h
  obtain ⟨hentry, hkey⟩ := List.mem_filter.mp (List.mem_of_getLast? hlast)
  rw [← of_decide_eq_true hkey]
  exact hentry

end CloudOps.Js
