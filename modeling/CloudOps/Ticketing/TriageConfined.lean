import CloudOps.Ticketing.TicketTriage

namespace CloudOps.Ticketing

open HelpDesk

-- The allowlists triage loads: the priorities are given, the others come from the tenant's
-- ticket types and tickets.
def tenantAllowlists (typeIds skills tags : List String) : TriageAllowlists where
  priorities := TicketPriority.all.map TicketPriority.text
  typeIds := typeIds
  skills := skills
  tags := tags

structure TriageSuggestion.Confined (suggestion : TriageSuggestion) (typeIds skills tags : List String) : Prop where
  priority : ∀ text, suggestion.priority = some text → ∃ priority : TicketPriority, priority.text = text
  typeId : ∀ text, suggestion.typeId = some text → text ∈ typeIds
  skill : ∀ text, suggestion.skill = some text → text ∈ skills
  tags : ∀ tag ∈ suggestion.tags, tag ∈ tags

-- String can print the value.
def Printable (field : Option Js.Value) : Prop := ∃ text, fieldText field = .ok text

def PrintableTags : Option Js.Value → Prop
  | some (.array items) => ∀ item ∈ items, Printable (some item)
  | _ => True

-- Nothing that is looked up raises.
structure Readable (parsed : List (String × Js.Value)) : Prop where
  priority : Printable (parsed.lookup "priority")
  typeId : Printable (parsed.lookup "typeId")
  tags : PrintableTags (parsed.lookup "tags")
  skill : Printable (parsed.lookup "skill")

-- A field that is not there or null is looked up as the empty text, and shown by another one.
def Slips (values : List String) : Option Js.Value → Prop
  | none => "" ∈ values ∧ "undefined" ∉ values
  | some .null => "" ∈ values ∧ "null" ∉ values
  | some _ => False

section Fields

variable {values : List String} {field : Option Js.Value}

theorem fieldTextOrEmpty_eq (hnull : field ≠ none ∧ field ≠ some .null) :
    fieldTextOrEmpty field = fieldText field := by
  cases field with
  | none => exact absurd rfl hnull.1
  | some value =>
      cases value with
      | null => exact absurd rfl hnull.2
      | boolean | number | string | array | object | builtIn => rfl

theorem allowed_none : allowed values none = .ok (if "" ∈ values then some "undefined" else none) := by
  by_cases hmem : "" ∈ values
  · simp [allowed, fieldTextOrEmpty, fieldText, hmem, bind, Except.bind, pure, Except.pure]
  · simp [allowed, fieldTextOrEmpty, hmem, bind, Except.bind, pure, Except.pure]

theorem allowed_null : allowed values (some .null) = .ok (if "" ∈ values then some "null" else none) := by
  by_cases hmem : "" ∈ values
  · simp [allowed, fieldTextOrEmpty, fieldText, Js.Value.toText, hmem, bind, Except.bind, pure, Except.pure]
  · simp [allowed, fieldTextOrEmpty, hmem, bind, Except.bind, pure, Except.pure]

-- A field that is there is looked up and shown by the same text.
theorem allowed_of_text {text : String} (hnull : field ≠ none ∧ field ≠ some .null)
    (htext : fieldText field = .ok text) :
    allowed values field = .ok (if text ∈ values then some text else none) := by
  unfold allowed
  rw [fieldTextOrEmpty_eq hnull, htext]
  by_cases hmem : text ∈ values
  · simp [hmem, bind, Except.bind, pure, Except.pure]
  · simp [hmem, bind, Except.bind, pure, Except.pure]

theorem slips_iff_of_value (hnull : field ≠ none ∧ field ≠ some .null) : ¬ Slips values field := by
  cases field with
  | none => exact absurd rfl hnull.1
  | some value =>
      cases value with
      | null => exact absurd rfl hnull.2
      | boolean | number | string | array | object | builtIn => exact not_false

theorem allowed_isOk_iff (values : List String) {field : Option Js.Value} :
    (∃ result, allowed values field = .ok result) ↔ Printable field := by
  by_cases hnull : field ≠ none ∧ field ≠ some .null
  · constructor
    · rintro ⟨result, hresult⟩
      unfold allowed at hresult
      rw [fieldTextOrEmpty_eq hnull] at hresult
      cases htext : fieldText field with
      | error error =>
          rw [htext] at hresult
          cases hresult
      | ok text => exact ⟨text, htext⟩
    · rintro ⟨text, htext⟩
      exact ⟨_, allowed_of_text hnull htext⟩
  · rcases not_and_or.mp hnull with hnone | hnone
    · obtain rfl := not_not.mp hnone
      exact ⟨fun _ => ⟨_, rfl⟩, fun _ => ⟨_, allowed_none⟩⟩
    · obtain rfl := not_not.mp hnone
      exact ⟨fun _ => ⟨"null", by simp [fieldText, Js.Value.toText]⟩, fun _ => ⟨_, allowed_null⟩⟩

theorem allowed_confined_iff {result : Option String} (h : allowed values field = .ok result) :
    (∀ text, result = some text → text ∈ values) ↔ ¬ Slips values field := by
  by_cases hnull : field ≠ none ∧ field ≠ some .null
  · refine iff_of_true ?_ (slips_iff_of_value hnull)
    obtain ⟨text, htext⟩ := (allowed_isOk_iff values).mp ⟨result, h⟩
    rw [allowed_of_text hnull htext] at h
    obtain rfl := Except.ok.inj h
    intro shown hshown
    split_ifs at hshown with hmem
    exact Option.some.inj hshown ▸ hmem
  · rcases not_and_or.mp hnull with hnone | hnone
    · obtain rfl := not_not.mp hnone
      rw [allowed_none] at h
      obtain rfl := Except.ok.inj h
      simp [Slips]
    · obtain rfl := not_not.mp hnone
      rw [allowed_null] at h
      obtain rfl := Except.ok.inj h
      simp [Slips]

theorem allowedTags_isOk_iff (values : List String) {field : Option Js.Value} :
    (∃ tags, allowedTags values field = .ok tags) ↔ PrintableTags field := by
  match field with
  | some (.array items) =>
      have htexts : (∃ texts, items.mapM Js.Value.toText = .ok texts) ↔ ∀ item ∈ items, Printable (some item) :=
        Transaction.mapM_isOk_iff
      refine Iff.trans ?_ htexts
      cases hmap : items.mapM Js.Value.toText with
      | error error => simp [allowedTags, hmap, bind, Except.bind]
      | ok texts => simp [allowedTags, hmap, bind, Except.bind, pure, Except.pure]
  | none | some .null | some (.boolean _) | some (.number _) | some (.string _) | some (.object _)
  | some (.builtIn _ _) => exact iff_of_true ⟨[], rfl⟩ trivial

end Fields

theorem readSuggestion_isOk_iff {parsed : List (String × Js.Value)} {allowlists : TriageAllowlists} :
    (∃ suggestion, readSuggestion parsed allowlists = .ok suggestion) ↔ Readable parsed := by
  constructor
  · rintro ⟨suggestion, hread⟩
    have hparts := of_readSuggestion hread
    exact {
      priority := (allowed_isOk_iff _).mp ⟨_, hparts.priority⟩
      typeId := (allowed_isOk_iff _).mp ⟨_, hparts.typeId⟩
      tags := (allowedTags_isOk_iff _).mp ⟨_, hparts.tags⟩
      skill := (allowed_isOk_iff _).mp ⟨_, hparts.skill⟩ }
  · intro h
    obtain ⟨priority, hpriority⟩ := (allowed_isOk_iff allowlists.priorities).mpr h.priority
    obtain ⟨typeId, htype⟩ := (allowed_isOk_iff allowlists.typeIds).mpr h.typeId
    obtain ⟨tags, htags⟩ := (allowedTags_isOk_iff allowlists.tags).mpr h.tags
    obtain ⟨skill, hskill⟩ := (allowed_isOk_iff allowlists.skills).mpr h.skill
    unfold readSuggestion
    rw [hpriority, htype, htags, hskill]
    exact ⟨_, rfl⟩

theorem readFrom_confined_iff {parsed : List (String × Js.Value)} {typeIds skills tags : List String}
    {suggestion : TriageSuggestion} (h : ReadFrom parsed (tenantAllowlists typeIds skills tags) suggestion) :
    suggestion.Confined typeIds skills tags ↔
      ¬ Slips typeIds (parsed.lookup "typeId") ∧ ¬ Slips skills (parsed.lookup "skill") := by
  have htypeIds := allowed_confined_iff h.typeId
  have hskills := allowed_confined_iff h.skill
  refine Iff.trans ?_ (and_congr htypeIds hskills)
  refine ⟨fun hconfined => ⟨hconfined.typeId, hconfined.skill⟩, fun ⟨htype, hskill⟩ => ?_⟩
  refine ⟨fun text htext => ?_, htype, hskill, of_allowedTags h.tags⟩
  have hallowed := h.priority
  rw [htext] at hallowed
  have hmem := allowed_eq_some (by simp [tenantAllowlists, TicketPriority.all, TicketPriority.text]) hallowed
  obtain ⟨priority, -, hshown⟩ := List.mem_map.mp hmem
  exact ⟨priority, hshown⟩

-- Only a field that is not there or null can be shown by a text that is not listed.
theorem triage_confined_iff (runtime : Runtime) (raw : String) (typeIds skills tags : List String) :
    (parseSuggestion runtime raw (tenantAllowlists typeIds skills tags)).Confined typeIds skills tags ↔
      ∀ parsed, (bracedPart raw).bind runtime.parseObject = some parsed → Readable parsed →
        ¬ Slips typeIds (parsed.lookup "typeId") ∧ ¬ Slips skills (parsed.lookup "skill") := by
  have hempty : TriageSuggestion.empty.Confined typeIds skills tags := by
    constructor <;> simp [TriageSuggestion.empty]
  unfold parseSuggestion
  cases hparsed : (bracedPart raw).bind runtime.parseObject with
  | none =>
      refine iff_of_true hempty fun parsed hsome => ?_
      cases hsome
  | some parsed =>
      dsimp only
      cases hread : readSuggestion parsed (tenantAllowlists typeIds skills tags) with
      | error error =>
          refine iff_of_true hempty fun other hsome hreadable => ?_
          obtain rfl := Option.some.inj hsome
          obtain ⟨suggestion, hok⟩ := readSuggestion_isOk_iff.mpr hreadable
          rw [hread] at hok
          cases hok
      | ok suggestion =>
          have hiff := readFrom_confined_iff (of_readSuggestion hread)
          constructor
          · rintro hconfined _ ⟨⟩ -
            exact hiff.mp hconfined
          · exact fun h => hiff.mpr (h parsed rfl (readSuggestion_isOk_iff.mp ⟨suggestion, hread⟩))

-- A ticket was opened with the empty skill, and the model names none.
def noSkillRuntime : Runtime where
  sanitizeHtml body := body
  parseDate _ := none
  parseObject text := if text = "\x7b\"skill\": null\x7d" then some [("skill", .null)] else none

theorem null_skill_named_null :
    ¬ (parseSuggestion noSkillRuntime "\x7b\"skill\": null\x7d"
      (tenantAllowlists [] [""] [])).Confined [] [""] [] := by
  intro h
  exact absurd (h.skill "null" (by decide +kernel)) (by decide)

end CloudOps.Ticketing
