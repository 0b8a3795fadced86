import CloudOps.Ticketing.HelpDesk

namespace CloudOps.Ticketing

open CloudOps.ReadCommitted CloudOps.Transaction

-- String(parsed.field), of a field that may be missing.
def fieldText : Option Js.Value → Except String String
  | none => .ok "undefined"
  | some value => value.toText

-- String(parsed.field ?? '')
def fieldTextOrEmpty : Option Js.Value → Except String String
  | none | some .null => .ok ""
  | some value => value.toText

-- slice(0, length), in the units of UTF-16. Half of a pair is stored as U+FFFD.
def sliceUnits : Nat → List Char → List Char
  | 0, _ => []
  | _, [] => []
  | length + 1, c :: rest =>
      if c.toNat < 0x10000 then c :: sliceUnits length rest
      else match length with
        | 0 => ['\uFFFD']
        | length + 1 => c :: sliceUnits length rest

-- raw.match(/\{[\s\S]*\}/): from the first opening brace to the last closing one.
def bracedPart (raw : String) : Option String :=
  let fromBrace := raw.toList.dropWhile fun c => c ≠ '\x7b'
  let backFromBrace := fromBrace.reverse.dropWhile fun c => c ≠ '\x7d'
  if backFromBrace.isEmpty then none else some (.ofList backFromBrace.reverse)

structure TriageSuggestion where
  priority : Option String
  typeId : Option String
  tags : List String
  skill : Option String
  rationale : String
  deriving DecidableEq

def TriageSuggestion.empty : TriageSuggestion := ⟨none, none, [], none, ""⟩

structure TriageAllowlists where
  priorities : List String
  typeIds : List String
  skills : List String
  tags : List String

-- What has become of the call of the tenant's AI client.
inductive AiReply where
  | disabled
  | failed
  | completed (raw : String)

namespace HelpDesk

variable (env : Environment) (runtime : Runtime)

def getTriageMode (desk : HelpDesk) : TriageMode := desk.autoTriageMode.getD desk.defaultTriageMode

-- Of skills and tags the first rows only, in the order the database returns them.
def loadAllowlists (order : ScanOrder String) (desk : HelpDesk) : TriageAllowlists where
  priorities := TicketPriority.all.map TicketPriority.text
  typeIds := desk.ticketTypes.keys.map env.uuidText
  skills := (order.apply (desk.tickets.rows.filterMap fun row => row.2.requiredSkill).eraseDups).take 50
  tags := (order.apply (desk.tickets.rows.flatMap fun row => row.2.tags).eraseDups).take 100

def allowed (values : List String) (field : Option Js.Value) : Except String (Option String) := do
  if (← fieldTextOrEmpty field) ∈ values then return some (← fieldText field) else return none

-- The tags that are listed, of an array.
def allowedTags (values : List String) : Option Js.Value → Except String (List String)
  | some (.array items) => do return (← items.mapM Js.Value.toText).filter fun tag => tag ∈ values
  | _ => .ok []

def readSuggestion (parsed : List (String × Js.Value)) (allowlists : TriageAllowlists) :
    Except String TriageSuggestion := do
  let priority ← allowed allowlists.priorities (parsed.lookup "priority")
  let typeId ← allowed allowlists.typeIds (parsed.lookup "typeId")
  let tags ← allowedTags allowlists.tags (parsed.lookup "tags")
  let skill ← allowed allowlists.skills (parsed.lookup "skill")
  return {
    priority := priority
    typeId := typeId
    tags := tags
    skill := skill
    rationale :=
      match parsed.lookup "rationale" with
      | some (.string rationale) => .ofList (sliceUnits 500 rationale.toList)
      | _ => "" }

-- What is no JSON, or has a value that String cannot print, is caught.
def parseSuggestion (raw : String) (allowlists : TriageAllowlists) : TriageSuggestion :=
  match (bracedPart raw).bind runtime.parseObject with
  | none => .empty
  | some parsed =>
      match readSuggestion parsed allowlists with
      | .ok suggestion => suggestion
      | .error _ => .empty

-- A column is set to a truthy suggestion only.
def setPriority (priority : Option String) : TicketM (List (Ticket → Ticket)) :=
  match priority.filter fun text => text ≠ "" with
  | none => pure []
  | some text => do
      let priority ← castEnum "ticket_priority_enum" TicketPriority.text TicketPriority.all text
      return [fun row => { row with priority := priority }]

def setTicketTypeId (typeId : Option String) : TicketM (List (Ticket → Ticket)) :=
  match typeId.filter fun text => text ≠ "" with
  | none => pure []
  | some text => do
      let ticketTypeId ← castReference env hasTicketType text
      return [fun row => { row with ticketTypeId := some ticketTypeId }]

def setTags (tags : List String) : List (Ticket → Ticket) :=
  if 0 < tags.length then [fun row => { row with tags := tags }] else []

def applySets (sets : List (Ticket → Ticket)) (row : Ticket) : Ticket :=
  sets.foldl (fun row set => set row) row

def setSuggested (suggestion : TriageSuggestion) : TicketM (List (Ticket → Ticket)) := do
  let priority ← setPriority suggestion.priority
  let ticketTypeId ← setTicketTypeId env suggestion.typeId
  return priority ++ ticketTypeId ++ setTags suggestion.tags

-- Whether the suggestion was applied to the ticket.
def applySuggestion (ticketId : Uuid) (suggestion : TriageSuggestion) : TicketM Bool := do
  let sets ← setSuggested env suggestion
  if sets.length = 0 then return false
  let _ ← updateTicket ticketId (applySets sets)
  return true

-- TicketTriageService.triageTicket. Nothing it raises leaves it.
def triageTicket (ticketId : Uuid) (reply : AiReply) (order : ScanOrder String) : HelpDeskM Unit := do
  let desk ← get
  match reply with
  | .disabled | .failed => return
  | .completed raw =>
      if desk.getTriageMode = .off then return
      if ticketId ∉ desk.tickets then return
      let suggestion := parseSuggestion runtime raw (loadAllowlists env order desk)
      let applied ← (if desk.getTriageMode = .apply then
        onTickets (applySuggestion env ticketId suggestion) else pure false)
      modify fun desk => { desk with
        ticketAiTriage := desk.ticketAiTriage ++
          [{ ticketId := ticketId
             suggestedPriority := suggestion.priority
             suggestedTypeId := suggestion.typeId
             suggestedTags := suggestion.tags
             suggestedSkill := suggestion.skill
             rationale := suggestion.rationale
             applied := applied }] }

end HelpDesk

-- What the suggested priority and type are for the database.
structure Suggested (env : Environment) (store : TicketStore) (suggestion : TriageSuggestion)
    (newPriority : Option TicketPriority) (newTypeId : Option Uuid) : Prop where
  priority : newPriority.map TicketPriority.text = suggestion.priority.filter fun text => text ≠ ""
  ticketTypeId : newTypeId.map some = (suggestion.typeId.filter fun text => text ≠ "").map env.castUuid
  known : ∀ id, newTypeId = some id → id ∈ store.ticketTypes

-- The row a suggestion that is applied makes of another one.
def suggestedRow (priority : Option TicketPriority) (ticketTypeId : Option Uuid) (tags : List String)
    (row : Ticket) : Ticket :=
  { row with
    priority := priority.getD row.priority
    ticketTypeId := ticketTypeId.or row.ticketTypeId
    tags := if 0 < tags.length then tags else row.tags }

open HelpDesk

variable {env : Environment}

theorem setTags_apply (tags : List String) (row : Ticket) :
    applySets (setTags tags) row = { row with tags := if 0 < tags.length then tags else row.tags } := by
  unfold setTags
  split
  · rfl
  · rfl

theorem setPriority_commits {suggested : Option String} (store : TicketStore)
    (h : ∀ text, suggested = some text → ∃ priority : TicketPriority, priority.text = text) :
    Commits (setPriority suggested) store := by
  unfold setPriority
  split
  · exact ⟨_, _, rfl⟩
  · rename_i text hsome
    obtain ⟨priority, rfl⟩ := h text (Option.eq_some_of_filter_eq_some hsome)
    cases priority <;> exact ⟨_, _, rfl⟩

theorem setTicketTypeId_commits {suggested : Option String} {store : TicketStore}
    (h : ∀ text, suggested = some text → text ≠ "" →
      ∃ id, env.castUuid text = some id ∧ id ∈ store.ticketTypes) :
    Commits (setTicketTypeId env suggested) store := by
  unfold setTicketTypeId
  split
  · exact ⟨_, _, rfl⟩
  · rename_i text hsome
    obtain ⟨hsuggested, hne⟩ := Option.filter_eq_some_iff.mp hsome
    obtain ⟨id, hid, hmem⟩ := h text hsuggested (by simpa using hne)
    have hreference : (castReference env hasTicketType text).run store = .ok (id, store) := by
      simp only [castReference, castUuid, hid]
      refine (run_bind_ok rfl).trans ((run_bind_ok rfl).trans ?_)
      rw [if_pos (by simpa [hasTicketType] using hmem)]
      rfl
    exact ⟨_, _, run_bind_ok hreference⟩

theorem setPriority_ensures (suggested : Option String) (before : TicketStore) :
    Ensures (setPriority suggested) before fun sets after => before = after ∧
      ∃ priority : Option TicketPriority,
        priority.map TicketPriority.text = (suggested.filter fun text => text ≠ "") ∧
        ∀ row, applySets sets row = { row with priority := priority.getD row.priority } := by
  unfold setPriority
  split
  · rename_i hnone
    exact .pure ⟨rfl, none, hnone.symm, fun _ => rfl⟩
  · rename_i text hsome
    refine (castEnum_yields _ _ _ _ before).bind ?_
    rintro priority _ ⟨rfl, htext⟩
    exact .pure ⟨rfl, some priority, by rw [hsome, ← htext]; rfl, fun _ => rfl⟩

theorem castReference_known (contains : TicketStore → Uuid → Bool) (value : String) (before : TicketStore) :
    Ensures (castReference env contains value) before fun id after =>
      before = after ∧ env.castUuid value = some id ∧ contains before id = true := by
  refine (castUuid_yields env value before).bind ?_
  rintro id _ ⟨rfl, hid⟩
  refine .get_bind ?_
  split
  · rename_i hknown
    exact .pure ⟨rfl, hid, hknown⟩
  · exact .throw _

theorem setTicketTypeId_ensures (suggested : Option String) (before : TicketStore) :
    Ensures (setTicketTypeId env suggested) before fun sets after => before = after ∧
      ∃ newTypeId : Option Uuid,
        newTypeId.map some = ((suggested.filter fun text => text ≠ "").map env.castUuid) ∧
        (∀ id, newTypeId = some id → id ∈ before.ticketTypes) ∧
        ∀ row, applySets sets row = { row with ticketTypeId := newTypeId.or row.ticketTypeId } := by
  unfold setTicketTypeId
  split
  · rename_i hnone
    exact .pure ⟨rfl, none, by rw [hnone]; rfl, by simp, fun _ => rfl⟩
  · rename_i text hsome
    refine (castReference_known _ _ before).bind ?_
    rintro id _ ⟨rfl, hid, hknown⟩
    refine .pure ⟨rfl, some id, by rw [hsome, Option.map_some, Option.map_some, hid], ?_, fun _ => rfl⟩
    rintro _ ⟨⟩
    simpa [hasTicketType] using hknown

theorem setSuggested_ensures (suggestion : TriageSuggestion) (before : TicketStore) :
    Ensures (setSuggested env suggestion) before fun sets after => before = after ∧
      ∃ priority ticketTypeId, Suggested env before suggestion priority ticketTypeId ∧
        ∀ row, applySets sets row = suggestedRow priority ticketTypeId suggestion.tags row := by
  refine (setPriority_ensures suggestion.priority before).bind ?_
  rintro first _ ⟨rfl, priority, hpriority, hfirst⟩
  refine (setTicketTypeId_ensures suggestion.typeId before).bind ?_
  rintro second _ ⟨rfl, ticketTypeId, htype, hknown, hsecond⟩
  refine .pure ⟨rfl, priority, ticketTypeId, ⟨hpriority, htype, hknown⟩, fun row => ?_⟩
  simp only [applySets, List.foldl_append] at hfirst hsecond ⊢
  rw [hfirst, hsecond]
  exact setTags_apply _ _

-- The suggestion triage would apply to a ticket it finds.
structure Applies (env : Environment) (runtime : Runtime) (desk : HelpDesk) (ticketId : Uuid)
    (reply : AiReply) (order : ScanOrder String) (row : Ticket) (suggestion : TriageSuggestion) : Prop where
  mode : desk.getTriageMode = .apply
  reply : ∃ raw, reply = .completed raw ∧
    suggestion = parseSuggestion runtime raw (loadAllowlists env order desk)
  row : desk.tickets.lookup ticketId = some row

theorem applySuggestion_ensures (ticketId : Uuid) (suggestion : TriageSuggestion) {before : TicketStore}
    {row : Ticket} (hrow : before.tickets.lookup ticketId = some row) :
    Ensures (applySuggestion env ticketId suggestion) before fun _ after =>
      ∃ priority newTypeId, Suggested env before suggestion priority newTypeId ∧
        Written before ticketId (suggestedRow priority newTypeId suggestion.tags row) after := by
  refine (setSuggested_ensures suggestion before).bind ?_
  rintro sets _ ⟨rfl, priority, newTypeId, hsuggested, hsets⟩
  split
  · rename_i hnone
    have hsame := hsets row
    rw [List.length_eq_zero_iff.mp hnone] at hsame
    refine .pure ⟨priority, newTypeId, hsuggested, ?_, .inl rfl⟩
    rw [← hsame]
    exact hrow
  · refine (updateTicket_writes ticketId _ before).bind ?_
    rintro _ _ (⟨-, -, hnone⟩ | ⟨found, hfound, -, rfl⟩)
    · rw [hrow] at hnone
      cases hnone
    · obtain rfl := Option.some.inj (hrow.symm.trans hfound)
      rw [hsets]
      refine .pure ⟨priority, newTypeId, hsuggested, ?_, .inr rfl⟩
      rw [Table.lookup_insert_eq, if_pos rfl]

-- All that triage does to the ticketing tables.
inductive TriageWrite (env : Environment) (runtime : Runtime) (desk : HelpDesk) (ticketId : Uuid)
    (reply : AiReply) (order : ScanOrder String) : TicketStore → Prop where
  | kept (hnot : ∀ row suggestion, ¬ Applies env runtime desk ticketId reply order row suggestion) :
      TriageWrite env runtime desk ticketId reply order desk.toTicketStore
  | applied (row : Ticket) (suggestion : TriageSuggestion) (priority : Option TicketPriority)
      (newTypeId : Option Uuid) (after : TicketStore)
      (happlies : Applies env runtime desk ticketId reply order row suggestion)
      (hsuggested : Suggested env desk.toTicketStore suggestion priority newTypeId)
      (hwritten : Written desk.toTicketStore ticketId
        (suggestedRow priority newTypeId suggestion.tags row) after) :
      TriageWrite env runtime desk ticketId reply order after

theorem triageTicket_ensures (runtime : Runtime) (ticketId : Uuid) (reply : AiReply)
    (order : ScanOrder String) (desk : HelpDesk) :
    Ensures (triageTicket env runtime ticketId reply order) desk fun _ after =>
      TriageWrite env runtime desk ticketId reply order after.toTicketStore := by
  refine .get_bind ?_
  cases reply with
  | disabled => exact .pure (.kept fun _ _ h => by obtain ⟨raw, hraw, -⟩ := h.reply; cases hraw)
  | failed => exact .pure (.kept fun _ _ h => by obtain ⟨raw, hraw, -⟩ := h.reply; cases hraw)
  | completed raw =>
      dsimp only
      split
      · rename_i hoff
        exact .pure (.kept fun _ _ h => by simp [h.mode] at hoff)
      split
      · rename_i hmissing
        exact .pure (.kept fun _ _ h => hmissing (Table.mem_of_lookup h.row))
      rename_i hmem
      obtain ⟨row, hrow⟩ := Option.isSome_iff_exists.mp (AList.lookup_isSome.mpr (not_not.mp hmem))
      have hwrite : Ensures (if desk.getTriageMode = .apply then
          onTickets (applySuggestion env ticketId (parseSuggestion runtime raw (loadAllowlists env order desk)))
          else pure false) desk
          fun _ after => TriageWrite env runtime desk ticketId (.completed raw) order after.toTicketStore := by
        split
        · rename_i hmode
          refine onTickets_ensures ((applySuggestion_ensures ticketId _ hrow).mono ?_)
          rintro _ after ⟨priority, newTypeId, hsuggested, hwritten⟩
          exact .applied row _ priority newTypeId after ⟨hmode, ⟨raw, rfl, rfl⟩, hrow⟩ hsuggested hwritten
        · rename_i hmode
          exact .pure (.kept fun _ _ h => hmode h.mode)
      exact hwrite.bind fun applied after hafter => .modify hafter

-- What is shown of a field whose text, or the empty one for null, is listed.
theorem of_allowed {values : List String} {field : Option Js.Value} {text : String}
    (h : allowed values field = .ok (some text)) :
    fieldText field = .ok text ∧ ∃ looked ∈ values, fieldTextOrEmpty field = .ok looked := by
  unfold allowed at h
  cases hlooked : fieldTextOrEmpty field with
  | error error =>
      rw [hlooked] at h
      cases h
  | ok looked =>
      cases hshown : fieldText field with
      | error error =>
          simp only [hlooked, hshown, bind, Except.bind] at h
          split at h <;> cases h
      | ok shown =>
          simp only [hlooked, hshown, bind, Except.bind] at h
          split at h
          · rename_i hmem
            obtain rfl := Option.some.inj (Except.ok.inj h)
            exact ⟨rfl, looked, hmem, rfl⟩
          · cases h

theorem allowed_eq_some {values : List String} {field : Option Js.Value} {text : String}
    (hempty : "" ∉ values) (h : allowed values field = .ok (some text)) : text ∈ values := by
  obtain ⟨hshown, looked, hmem, hlooked⟩ := of_allowed h
  cases field with
  | none =>
      obtain rfl := Except.ok.inj hlooked
      exact absurd hmem hempty
  | some value =>
      cases value with
      | null =>
          obtain rfl := Except.ok.inj hlooked
          exact absurd hmem hempty
      | boolean | number | string | array | object | builtIn =>
          obtain rfl := Except.ok.inj (hlooked.symm.trans hshown)
          exact hmem

theorem of_allowedTags {values : List String} {field : Option Js.Value} {tags : List String}
    (h : allowedTags values field = .ok tags) : ∀ tag ∈ tags, tag ∈ values := by
  unfold allowedTags at h
  split at h
  · rename_i items
    cases htexts : items.mapM Js.Value.toText with
    | error error =>
        rw [htexts] at h
        cases h
    | ok texts =>
        rw [htexts] at h
        obtain rfl := Except.ok.inj h
        intro tag htag
        simpa using (List.mem_filter.mp htag).2
  · obtain rfl := Except.ok.inj h
    intro tag htag
    cases htag

-- Each part of a suggestion that was read.
structure ReadFrom (parsed : List (String × Js.Value)) (allowlists : TriageAllowlists)
    (suggestion : TriageSuggestion) : Prop where
  priority : allowed allowlists.priorities (parsed.lookup "priority") = .ok suggestion.priority
  typeId : allowed allowlists.typeIds (parsed.lookup "typeId") = .ok suggestion.typeId
  tags : allowedTags allowlists.tags (parsed.lookup "tags") = .ok suggestion.tags
  skill : allowed allowlists.skills (parsed.lookup "skill") = .ok suggestion.skill

theorem of_readSuggestion {parsed : List (String × Js.Value)} {allowlists : TriageAllowlists}
    {suggestion : TriageSuggestion} (h : readSuggestion parsed allowlists = .ok suggestion) :
    ReadFrom parsed allowlists suggestion := by
  unfold readSuggestion at h
  cases hpriority : allowed allowlists.priorities (parsed.lookup "priority") with
  | error error => rw [hpriority] at h; cases h
  | ok priority =>
      cases htype : allowed allowlists.typeIds (parsed.lookup "typeId") with
      | error error => rw [hpriority, htype] at h; cases h
      | ok typeId =>
          cases htags : allowedTags allowlists.tags (parsed.lookup "tags") with
          | error error => rw [hpriority, htype, htags] at h; cases h
          | ok tags =>
              cases hskill : allowed allowlists.skills (parsed.lookup "skill") with
              | error error => rw [hpriority, htype, htags, hskill] at h; cases h
              | ok skill =>
                  rw [hpriority, htype, htags, hskill] at h
                  obtain rfl := Except.ok.inj h
                  exact ⟨hpriority, htype, htags, hskill⟩

-- A suggestion is the empty one or was read.
theorem parseSuggestion_cases (runtime : Runtime) (raw : String) (allowlists : TriageAllowlists) :
    parseSuggestion runtime raw allowlists = .empty ∨
      ∃ parsed, ReadFrom parsed allowlists (parseSuggestion runtime raw allowlists) := by
  unfold parseSuggestion
  split
  · exact .inl rfl
  · rename_i parsed _
    split
    · rename_i suggestion hread
      exact .inr ⟨parsed, of_readSuggestion hread⟩
    · exact .inl rfl

-- A suggested priority is one of the database's.
theorem parseSuggestion_priority {runtime : Runtime} {raw : String} {order : ScanOrder String}
    {desk : HelpDesk} {text : String}
    (h : (parseSuggestion runtime raw (loadAllowlists env order desk)).priority = some text) :
    ∃ priority : TicketPriority, priority.text = text ∧ text ≠ "" := by
  rcases parseSuggestion_cases runtime raw (loadAllowlists env order desk) with hempty | ⟨parsed, hread⟩
  · rw [hempty] at h
    cases h
  · have hallowed := hread.priority
    rw [h] at hallowed
    have hmem := allowed_eq_some (by simp [loadAllowlists, TicketPriority.all, TicketPriority.text]) hallowed
    obtain ⟨priority, -, rfl⟩ := List.mem_map.mp hmem
    refine ⟨priority, rfl, ?_⟩
    cases priority <;> simp [TicketPriority.text]

-- Triage that applies a suggestion is committed unless the type's text is of no type
-- of the tenant.
theorem triageTicket_commits {runtime : Runtime} {ticketId : Uuid} {reply : AiReply}
    {order : ScanOrder String} {desk : HelpDesk} {row : Ticket} {suggestion : TriageSuggestion}
    (happlies : Applies env runtime desk ticketId reply order row suggestion)
    (htype : ∀ text, suggestion.typeId = some text → text ≠ "" →
      ∃ id, env.castUuid text = some id ∧ id ∈ desk.ticketTypes) :
    Commits (triageTicket env runtime ticketId reply order) desk := by
  obtain ⟨raw, rfl, rfl⟩ := happlies.reply
  have hpriority : Commits (setPriority
      (parseSuggestion runtime raw (loadAllowlists env order desk)).priority) desk.toTicketStore :=
    setPriority_commits _ fun text htext => (parseSuggestion_priority htext).imp fun _ h => h.1
  have hsuggestion : Commits (applySuggestion env ticketId
      (parseSuggestion runtime raw (loadAllowlists env order desk))) desk.toTicketStore := by
    refine .bind (.bind hpriority fun first middle hfirst => ?_) fun sets middle _ => ?_
    · obtain ⟨rfl, -⟩ := setPriority_ensures _ _ first middle hfirst
      exact .bind (setTicketTypeId_commits htype) fun _ _ _ => ⟨_, _, rfl⟩
    · split
      · exact ⟨_, _, rfl⟩
      · exact .bind ⟨_, _, rfl⟩ fun _ _ _ => ⟨_, _, rfl⟩
  have hoff : desk.getTriageMode ≠ .off := by simp [happlies.mode]
  have hmem : ¬ ticketId ∉ desk.tickets := not_not.mpr (Table.mem_of_lookup happlies.row)
  refine .bind ⟨desk, desk, rfl⟩ ?_
  rintro _ _ ⟨⟩
  dsimp only
  rw [if_neg hoff, if_neg hmem, if_pos happlies.mode]
  exact .bind (onTickets_commits hsuggestion) fun _ _ _ => ⟨_, _, rfl⟩

end CloudOps.Ticketing
