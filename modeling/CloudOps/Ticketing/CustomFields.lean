import CloudOps.Js.Value
import CloudOps.Transaction

namespace CloudOps.Ticketing

open CloudOps.Js (Value property inherited ofDecimal)
open CloudOps.Transaction (bind_eq_ok)

inductive CustomFieldType where
  | text
  | number
  | dropdown
  | checkbox
  | date
  deriving DecidableEq

structure CustomFieldDef where
  key : String
  label : String
  fieldType : CustomFieldType
  options : List String
  isRequired : Bool
  isActive : Bool
  deriving DecidableEq

-- /^[a-z][a-z0-9_]*$/
def isSlug (key : String) : Bool :=
  match key.toList with
  | [] => false
  | first :: rest => first.isLower && rest.all fun c => c.isLower || c.isDigit || c == '_'

-- What loadDefs reads: the keys are slugs, and the unique index has none of them twice.
structure CustomFieldDefs where
  defs : List CustomFieldDef
  unique : (defs.map CustomFieldDef.key).Nodup
  slugs : ∀ field ∈ defs, isSlug field.key = true

def CustomFieldDefs.active (defs : CustomFieldDefs) : List CustomFieldDef := defs.defs.filter CustomFieldDef.isActive

-- The raw value where it is provided: not undefined, null or ''.
def provided (values : List (String × Value)) (key : String) : Option Value :=
  match property values key with
  | none | some .null | some (.string "") => none
  | some raw => some raw

-- /^\d{4}-\d{2}-\d{2}$/
def isDate (text : String) : Bool :=
  match text.toList with
  | [y1, y2, y3, y4, '-', m1, m2, '-', d1, d2] => [y1, y2, y3, y4, m1, m2, d1, d2].all Char.isDigit
  | _ => false

-- raw === true || raw === 'true' || raw === 1 || raw === '1'
def isChecked : Value → Bool
  | .boolean value => value
  | .string text => text == "true" || text == "1"
  | .number number => decide (number = ofDecimal 1 0)
  | _ => false

-- The branch of a field's type.
def validateField (field : CustomFieldDef) (raw : Value) : Except String Value :=
  match field.fieldType with
  | .number => do
      let num ← raw.toNumber
      if num.isFinite = true then return .number num
      else .error s!"Custom field \"{field.label}\" must be a number"
  | .checkbox => .ok (.boolean (isChecked raw))
  | .dropdown => do
      let value ← raw.toText
      if value ∈ field.options then return .string value
      else
        let options := ", ".intercalate field.options
        .error s!"Custom field \"{field.label}\" must be one of: {options}"
  | .date => do
      let value ← raw.toText
      if isDate value = true then return .string value
      else .error s!"Custom field \"{field.label}\" must be a date (YYYY-MM-DD)"
  | .text => do return .string (← raw.toText)

-- The loop over the active definitions. Each writes a key of its own.
def validateFields (values : List (String × Value)) :
    List CustomFieldDef → Except String (List (String × Value))
  | [] => .ok []
  | field :: rest =>
      match provided values field.key with
      | none =>
          if field.isRequired = true then .error s!"Custom field \"{field.label}\" is required"
          else validateFields values rest
      | some raw => do
          let value ← validateField field raw
          return (field.key, value) :: (← validateFields values rest)

def validateCustomFields (defs : CustomFieldDefs) (submitted : Option (List (String × Value))) :
    Except String (List (String × Value)) :=
  validateFields (submitted.getD []) defs.active

-- A value of the type its definition asks for.
def HasType (field : CustomFieldDef) (value : Value) : Prop :=
  match field.fieldType with
  | .number => ∃ num : Float, num.isFinite = true ∧ value = .number num
  | .checkbox => ∃ checked, value = .boolean checked
  | .dropdown => ∃ text ∈ field.options, value = .string text
  | .date => ∃ text, isDate text = true ∧ value = .string text
  | .text => ∃ text, value = .string text

-- What a field accepts, and what it makes of it.
theorem validateField_ok {field : CustomFieldDef} {raw value : Value} (h : validateField field raw = .ok value) :
    HasType field value ∧ ((field.fieldType = .text ∨ field.fieldType = .dropdown) →
      ∃ text, raw.toText = .ok text ∧ value = .string text) := by
  unfold validateField at h
  unfold HasType
  cases htype : field.fieldType with
  | number =>
    simp only [htype] at h ⊢
    obtain ⟨num, -, hnum⟩ := bind_eq_ok.mp h
    split_ifs at hnum with hfinite
    · cases hnum
      exact ⟨⟨num, hfinite, rfl⟩, by simp⟩
  | checkbox =>
    simp only [htype] at h ⊢
    cases h
    exact ⟨⟨_, rfl⟩, by simp⟩
  | dropdown =>
    simp only [htype] at h ⊢
    obtain ⟨text, htext, hvalue⟩ := bind_eq_ok.mp h
    split_ifs at hvalue with hin
    · cases hvalue
      exact ⟨⟨text, hin, rfl⟩, fun _ => ⟨text, htext, rfl⟩⟩
  | date =>
    simp only [htype] at h ⊢
    obtain ⟨text, htext, hvalue⟩ := bind_eq_ok.mp h
    split_ifs at hvalue with hdate
    · cases hvalue
      exact ⟨⟨text, hdate, rfl⟩, by simp⟩
  | text =>
    simp only [htype] at h ⊢
    obtain ⟨text, htext, hvalue⟩ := bind_eq_ok.mp h
    cases hvalue
    exact ⟨⟨text, rfl⟩, fun _ => ⟨text, htext, rfl⟩⟩

-- A value of the field's type is left as it is.
theorem validateField_of_hasType {field : CustomFieldDef} {value : Value} (h : HasType field value) :
    validateField field value = .ok value := by
  unfold HasType at h
  unfold validateField
  cases htype : field.fieldType with
  | number =>
    simp only [htype] at h ⊢
    obtain ⟨num, hfinite, rfl⟩ := h
    simp [Value.toNumber, hfinite, bind, Except.bind, pure, Except.pure]
  | checkbox =>
    simp only [htype] at h ⊢
    obtain ⟨checked, rfl⟩ := h
    rfl
  | dropdown =>
    simp only [htype] at h ⊢
    obtain ⟨text, hin, rfl⟩ := h
    simp [Value.toText, hin, bind, Except.bind, pure, Except.pure]
  | date =>
    simp only [htype] at h ⊢
    obtain ⟨text, hdate, rfl⟩ := h
    simp [Value.toText, hdate, bind, Except.bind, pure, Except.pure]
  | text =>
    simp only [htype] at h ⊢
    obtain ⟨text, rfl⟩ := h
    rfl

theorem validateFields_cons {values result : List (String × Value)} {field : CustomFieldDef}
    {rest : List CustomFieldDef} (h : validateFields values (field :: rest) = .ok result) :
    (provided values field.key = none ∧ field.isRequired = false ∧ validateFields values rest = .ok result)
      ∨ ∃ raw value more, provided values field.key = some raw ∧ validateField field raw = .ok value
          ∧ validateFields values rest = .ok more ∧ result = (field.key, value) :: more := by
  rw [validateFields] at h
  cases hraw : provided values field.key with
  | none =>
    simp only [hraw] at h
    split_ifs at h with hrequired
    exact .inl ⟨rfl, by simpa using hrequired, h⟩
  | some raw =>
    simp only [hraw] at h
    obtain ⟨value, hvalue, hnext⟩ := bind_eq_ok.mp h
    obtain ⟨more, hmore, hresult⟩ := bind_eq_ok.mp hnext
    cases hresult
    exact .inr ⟨raw, value, more, rfl, hvalue, hmore, rfl⟩

-- Every entry is what a field made of the raw value under its key.
theorem validateFields_mem {values : List (String × Value)} {fields : List CustomFieldDef} :
    ∀ {result}, validateFields values fields = .ok result → ∀ entry ∈ result, ∃ field ∈ fields,
      field.key = entry.1 ∧ HasType field entry.2 := by
  induction fields with
  | nil =>
    intro result h entry hentry
    cases h
    simp at hentry
  | cons field rest ih =>
    intro result h entry hentry
    rcases validateFields_cons h with ⟨-, -, hrest⟩ | ⟨raw, value, more, hraw, hvalue, hmore, rfl⟩
    · obtain ⟨other, hother, hkey⟩ := ih hrest entry hentry
      exact ⟨other, List.mem_cons_of_mem _ hother, hkey⟩
    · rcases List.mem_cons.mp hentry with rfl | hin
      · exact ⟨field, List.mem_cons_self, rfl, (validateField_ok hvalue).1⟩
      · obtain ⟨other, hother, hkey⟩ := ih hmore entry hin
        exact ⟨other, List.mem_cons_of_mem _ hother, hkey⟩

theorem lookup_of_not_mem {values result : List (String × Value)} {fields : List CustomFieldDef} {key : String}
    (h : validateFields values fields = .ok result) (hkey : key ∉ fields.map CustomFieldDef.key) :
    result.lookup key = none := by
  rw [List.lookup_eq_none_iff]
  intro entry hentry
  obtain ⟨field, hfield, hsame, -⟩ := validateFields_mem h entry hentry
  have hin : entry.1 ∈ fields.map CustomFieldDef.key := hsame ▸ List.mem_map_of_mem hfield
  have hne : key ≠ entry.1 := by rintro rfl; exact hkey hin
  simpa using hne

-- The result has what a field makes of the raw value that it is given, and nothing for a
-- field that is given none.
theorem validateFields_lookup {values : List (String × Value)} {fields : List CustomFieldDef} :
    ∀ {result}, (fields.map CustomFieldDef.key).Nodup → validateFields values fields = .ok result →
      ∀ field ∈ fields,
        (provided values field.key = none ∧ field.isRequired = false ∧ result.lookup field.key = none)
          ∨ ∃ raw value, provided values field.key = some raw ∧ validateField field raw = .ok value
              ∧ result.lookup field.key = some value := by
  induction fields with
  | nil => simp
  | cons first rest ih =>
    intro result hunique h field hfield
    obtain ⟨hfirst, hrest⟩ := List.nodup_cons.mp hunique
    rcases validateFields_cons h with ⟨hnone, hrequired, htail⟩ | ⟨raw, value, more, hraw, hvalue, hmore, rfl⟩
    · rcases List.mem_cons.mp hfield with rfl | hin
      · exact .inl ⟨hnone, hrequired, lookup_of_not_mem htail hfirst⟩
      · exact ih hrest htail field hin
    · rcases List.mem_cons.mp hfield with rfl | hin
      · exact .inr ⟨raw, value, hraw, hvalue, by simp⟩
      · have hne : field.key ≠ first.key := fun heq => hfirst (heq ▸ List.mem_map_of_mem hin)
        rw [List.lookup_cons, beq_eq_false_iff_ne.mpr hne]
        exact ih hrest hmore field hin

-- Two maps that give every field the same, up to what it makes of it, have the same result.
theorem validateFields_congr {values other : List (String × Value)} {fields : List CustomFieldDef} :
    ∀ {result}, validateFields values fields = .ok result →
      (∀ field ∈ fields, provided values field.key = none → provided other field.key = none) →
      (∀ field ∈ fields, ∀ raw value, provided values field.key = some raw →
        validateField field raw = .ok value → provided other field.key = some value) →
      validateFields other fields = .ok result := by
  induction fields with
  | nil => intro result h _ _; simpa [validateFields] using h
  | cons first rest ih =>
    intro result h habsent hpresent
    have hrest := fun {result} hrun => @ih result hrun (fun field hin => habsent field (List.mem_cons_of_mem _ hin))
      (fun field hin => hpresent field (List.mem_cons_of_mem _ hin))
    rcases validateFields_cons h with ⟨hnone, hrequired, htail⟩ | ⟨raw, value, more, hraw, hvalue, hmore, rfl⟩
    · rw [validateFields, habsent first List.mem_cons_self hnone]
      simpa [hrequired] using hrest htail
    · have hother := hpresent first List.mem_cons_self raw value hraw hvalue
      have hsame := validateField_of_hasType (validateField_ok hvalue).1
      rw [validateFields, hother]
      simp [hsame, hrest hmore, bind, Except.bind, pure, Except.pure]

theorem provided_eq_none_iff {values : List (String × Value)} {key : String} :
    provided values key = none
      ↔ property values key = none ∨ property values key = some .null ∨ property values key = some (.string "") := by
  unfold provided
  split <;> simp_all

theorem provided_of_property {values : List (String × Value)} {key : String} {value : Value}
    (h : property values key = some value) (hnull : value ≠ .null) (hempty : value ≠ .string "") :
    provided values key = some value := by
  unfold provided
  split <;> simp_all

theorem property_of_provided {values : List (String × Value)} {key : String} {raw : Value}
    (h : provided values key = some raw) :
    property values key = some raw ∧ raw ≠ .null ∧ raw ≠ .string "" := by
  unfold provided at h
  split at h <;> simp_all

theorem provided_inherited {values : List (String × Value)} {key : String} {builtIn : Value}
    (hlookup : values.lookup key = none) (hinherited : inherited key = some builtIn) :
    ∃ text nonempty, provided values key = some (.builtIn text nonempty) := by
  have hproperty : property values key = inherited key := by simp [property, hlookup]
  unfold inherited at hinherited hproperty
  split at hinherited
  · simp at hinherited
  · split_ifs at hinherited with hne
    refine ⟨_, hne, provided_of_property ?_ (by simp) (by simp)⟩
    simp_all

-- What the field is sent is not an array that String() empties, nor null or '' under a
-- name that an object has a property of anyhow.
def SentCleanly (values : List (String × Value)) (field : CustomFieldDef) : Prop :=
  ((field.fieldType = .text ∨ field.fieldType = .dropdown) →
    ∀ raw, property values field.key = some raw → raw.isBlankArray = false)
  ∧ (inherited field.key ≠ none → provided values field.key ≠ none)

theorem HasType.ne_null {field : CustomFieldDef} {value : Value} (h : HasType field value) : value ≠ .null := by
  rintro rfl
  unfold HasType at h
  cases htype : field.fieldType <;> simp [htype] at h

theorem written_ne_empty {values : List (String × Value)} {field : CustomFieldDef} (hclean : SentCleanly values field)
    {raw value : Value} (hraw : provided values field.key = some raw) (hvalue : validateField field raw = .ok value) :
    value ≠ .string "" := by
  rintro rfl
  obtain ⟨htype, htext⟩ := validateField_ok hvalue
  obtain ⟨hproperty, -, hempty⟩ := property_of_provided hraw
  have hkind : field.fieldType = .text ∨ field.fieldType = .dropdown := by
    unfold HasType at htype
    cases hfield : field.fieldType with
    | text => exact .inl rfl
    | dropdown => exact .inr rfl
    | number => simp [hfield] at htype
    | checkbox => simp [hfield] at htype
    | date =>
      obtain ⟨text, hdate, heq⟩ := by simpa only [hfield] using htype
      cases heq
      exact absurd hdate (by decide)
  obtain ⟨text, hraw, heq⟩ := htext hkind
  cases heq
  rcases Value.isBlankArray_of_toText raw hraw with rfl | hblank
  · exact hempty rfl
  · have hfull := hclean.1 hkind raw hproperty
    simp [hfull] at hblank

theorem CustomFieldDefs.active_unique (defs : CustomFieldDefs) : (defs.active.map CustomFieldDef.key).Nodup :=
  defs.unique.sublist (List.filter_sublist.map _)

-- A map whose keys are those of active fields, whose values have the fields' types and are
-- not empty where one is required, and which the validation leaves as it is.
def SoundAndStable (defs : CustomFieldDefs) (result : List (String × Value)) : Prop :=
  (∀ entry ∈ result, ∃ field ∈ defs.active, field.key = entry.1 ∧ HasType field entry.2)
    ∧ (∀ field ∈ defs.active, field.isRequired = true →
        ∃ value, (field.key, value) ∈ result ∧ value ≠ .null ∧ value ≠ .string "")
    ∧ validateCustomFields defs (some result) = .ok result

-- The result of a validation that returns is sound and stable exactly when every active
-- field is sent something that stays apart from nothing.
theorem validateCustomFields_sound_iff {defs : CustomFieldDefs} {submitted : Option (List (String × Value))}
    {result : List (String × Value)} (h : validateCustomFields defs submitted = .ok result) :
    SoundAndStable defs result ↔ ∀ field ∈ defs.active, SentCleanly (submitted.getD []) field := by
  have hlookup := validateFields_lookup defs.active_unique h
  constructor
  · rintro ⟨-, -, hagain⟩ field hfield
    have hsecond := validateFields_lookup defs.active_unique hagain field hfield
    constructor
    · intro hkind raw hproperty
      by_contra hblank
      have hblank : raw.isBlankArray = true := by simpa using hblank
      have hraw : provided (submitted.getD []) field.key = some raw :=
        provided_of_property hproperty (by rintro rfl; simp [Value.isBlankArray] at hblank)
          (by rintro rfl; simp [Value.isBlankArray] at hblank)
      rcases hlookup field hfield with ⟨hnone, -, -⟩ | ⟨other, value, hother, hvalue, hfound⟩
      · simp [hraw] at hnone
      · obtain rfl : raw = other := by simpa [hraw] using hother
        obtain ⟨text, htext, rfl⟩ := (validateField_ok hvalue).2 hkind
        obtain rfl : "" = text := by simpa [Value.toText_of_isBlankArray raw hblank] using htext
        -- the second run finds '' under the key, and so leaves the field out
        rcases hsecond with ⟨-, -, hmissing⟩ | ⟨again, -, hagain, -, -⟩
        · simp [hfound] at hmissing
        · obtain ⟨hproperty, -, hne⟩ := property_of_provided hagain
          simp [property, hfound] at hproperty
          exact hne hproperty.symm
    · intro hinherited hnone
      rcases hlookup field hfield with ⟨-, -, hmissing⟩ | ⟨raw, -, hraw, -, -⟩
      · obtain ⟨builtIn, hbuiltIn⟩ := Option.ne_none_iff_exists'.mp hinherited
        obtain ⟨text, nonempty, hread⟩ := provided_inherited hmissing hbuiltIn
        rcases hsecond with ⟨habsent, -, -⟩ | ⟨-, value, -, -, hfound⟩
        · simp [hread] at habsent
        · simp [hmissing] at hfound
      · simp [hnone] at hraw
  · intro hclean
    refine ⟨validateFields_mem h, ?_, ?_⟩
    · intro field hfield hrequired
      rcases hlookup field hfield with ⟨-, hoptional, -⟩ | ⟨raw, value, hraw, hvalue, hfound⟩
      · simp [hrequired] at hoptional
      · exact ⟨value, Js.mem_of_lookup hfound, (validateField_ok hvalue).1.ne_null,
          written_ne_empty (hclean field hfield) hraw hvalue⟩
    · refine validateFields_congr h ?_ ?_
      · intro field hfield hnone
        rcases hlookup field hfield with ⟨-, -, hmissing⟩ | ⟨raw, -, hraw, -, -⟩
        · have hinherited : inherited field.key = none := by
            by_contra hne
            exact (hclean field hfield).2 hne hnone
          rw [provided_eq_none_iff]
          exact .inl (by simp [property, hmissing, hinherited])
        · simp [hnone] at hraw
      · intro field hfield raw value hraw hvalue
        rcases hlookup field hfield with ⟨hnone, -, -⟩ | ⟨other, found, hother, hsame, hfound⟩
        · simp [hraw] at hnone
        · obtain rfl : raw = other := by simpa [hraw] using hother
          obtain rfl : value = found := by simpa [hvalue] using hsame
          exact provided_of_property (by simp [property, hfound]) (validateField_ok hvalue).1.ne_null
            (written_ne_empty (hclean field hfield) hraw hvalue)

def requiredField (fieldType : CustomFieldType) (options : List String) : CustomFieldDefs where
  defs := [{ key := "notes", label := "Notes", fieldType, options, isRequired := true, isActive := true }]
  unique := by simp
  slugs := by simp only [List.forall_mem_cons]; decide

theorem chosen_soundAndStable :
    SoundAndStable (requiredField .dropdown ["low", "high"]) [("notes", .string "high")] :=
  (@validateCustomFields_sound_iff (requiredField .dropdown ["low", "high"])
      (some [("notes", .array [.string "high"])]) _ rfl).mpr (by
    intro field hfield
    obtain rfl : field = ⟨"notes", "Notes", .dropdown, ["low", "high"], true, true⟩ := List.mem_singleton.mp hfield
    exact ⟨fun _ raw hraw => by cases hraw; rfl, fun hinherited => absurd rfl hinherited⟩)

theorem emptyArray_breaks_required :
    ¬ ∀ (defs : CustomFieldDefs) (submitted : Option (List (String × Value))) (result : List (String × Value)),
      validateCustomFields defs submitted = .ok result → SoundAndStable defs result := by
  intro h
  obtain ⟨-, hrequired, -⟩ := h (requiredField .text []) (some [("notes", .array [])]) [("notes", .string "")] rfl
  obtain ⟨value, hin, -, hne⟩ := hrequired ⟨"notes", "Notes", .text, [], true, true⟩ (by decide) rfl
  exact hne (by simpa using hin)

end CloudOps.Ticketing
