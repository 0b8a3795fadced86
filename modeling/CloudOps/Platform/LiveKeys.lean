import CloudOps.Platform.AuthenticatedRequests

namespace CloudOps.Platform.Access

open CloudOps.Monitoring.IngestKeys CloudOps.Platform.Tokens CloudOps.SignedTokens
open CloudOps.ReadCommitted (Table)

variable {Cipher : Type}

section Calls

-- The table, the tenant and the id a call is about.
def KeyCall.kind : KeyCall → KeyKind
  | createDevice .. | updateDevice .. => .device
  | createLogSource .. | updateLogSource .. => .logSource
  | createApmIngest .. => .apmIngest
  | createRumApp .. => .rumApp
  | remove kind _ _ => kind

def KeyCall.tenantId : KeyCall → String
  | createDevice tenantId _ _ _ | createLogSource tenantId _ _ | createApmIngest tenantId _ _ |
    createRumApp tenantId _ _ | updateDevice tenantId _ _ | updateLogSource tenantId _ _ | remove _ tenantId _ => tenantId

def KeyCall.keyId : KeyCall → String
  | createDevice _ _ _ newId | createLogSource _ _ newId | createApmIngest _ _ newId | createRumApp _ _ newId => newId
  | updateDevice _ id _ | updateLogSource _ id _ | remove _ _ id => id

def KeyCall.turnsOn : KeyCall → Bool
  | createDevice .. | createLogSource .. | createApmIngest .. | createRumApp .. => true
  | updateDevice _ _ dto | updateLogSource _ _ dto => dto.isActive == some true
  | remove .. => false

def KeyCall.turnsOff : KeyCall → Bool
  | createDevice .. | createLogSource .. | createApmIngest .. | createRumApp .. => false
  | updateDevice _ _ dto | updateLogSource _ _ dto => dto.isActive == some false
  | remove .. => true

-- The call is about this key, and has gone through.
def KeyCall.Does (backend : Backend Cipher) (state : AccessState Cipher) (now : Nat) (kind : KeyKind)
    (tenantId id : String) (call : KeyCall) : Prop :=
  call.kind = kind ∧ call.tenantId = tenantId ∧ call.keyId = id ∧
    ∃ result, call.run backend state.keys now = .ok result

end Calls

section Tables

variable {keys after : KeyTable} {tenantId other id key : String} {on off : Bool}

def ActiveIn (keys : KeyTable) (tenantId id : String) : Prop :=
  ∃ row, keyOf keys tenantId id = some row ∧ row.isActive = true

theorem keyOf_eq_some {row : KeyRow} :
    keyOf keys tenantId id = some row ↔ keys.lookup id = some row ∧ row.tenantId = tenantId := by
  rw [keyOf, Option.filter_eq_some_iff, beq_iff_eq]

theorem activeIn_iff : ActiveIn keys tenantId id ↔
    ∃ row, keys.lookup id = some row ∧ row.tenantId = tenantId ∧ row.isActive = true := by
  simp only [ActiveIn, keyOf_eq_some, and_assoc]

theorem activeIn_insert {row : KeyRow} : ActiveIn (keys.insert id row) tenantId key ↔
    if key = id then row.tenantId = tenantId ∧ row.isActive = true else ActiveIn keys tenantId key := by
  simp only [activeIn_iff, Table.lookup_insert_eq]
  split
  · simp
  · rfl

theorem activeIn_erase : ActiveIn (keys.erase id) tenantId key ↔ key ≠ id ∧ ActiveIn keys tenantId key := by
  simp only [activeIn_iff]
  by_cases hsame : key = id
  · subst hsame
    simp
  · simp [AList.lookup_erase_ne hsame, hsame]

-- What a call does to its table: it puts a new active row there, changes one of the
-- tenant's rows, or removes one.
inductive Changes (keys after : KeyTable) (tenantId id : String) : (on off : Bool) → Prop where
  | inserted {row : KeyRow} : id ∉ keys → row.tenantId = tenantId → row.isActive = true →
      after = keys.insert id row → Changes keys after tenantId id true false
  | updated {row : KeyRow} {name : String} {isActive : Option Bool} : keyOf keys tenantId id = some row →
      after = keys.insert id { row with name := name, isActive := isActive.getD row.isActive } →
      Changes keys after tenantId id (isActive == some true) (isActive == some false)
  | removed {row : KeyRow} : keyOf keys tenantId id = some row → after = keys.erase id →
      Changes keys after tenantId id false true

theorem activeIn_of_lookup {row : KeyRow} (h : keys.lookup id = some row) :
    ActiveIn keys other id ↔ row.tenantId = other ∧ row.isActive = true := by
  simp [CloudOps.Platform.Access.activeIn_iff, h]

theorem Changes.activeIn_iff (h : Changes keys after tenantId id on off) :
    ActiveIn after other key ↔ (other = tenantId ∧ key = id ∧ on = true) ∨
      ActiveIn keys other key ∧ ¬ (other = tenantId ∧ key = id ∧ off = true) := by
  by_cases hsame : key = id
  · subst hsame
    cases h with
    | @inserted row hfresh htenant hactive hafter =>
        have hnone : ¬ ActiveIn keys other key := by
          rintro ⟨found, hfound, -⟩
          exact hfresh (Table.mem_of_lookup (keyOf_eq_some.mp hfound).1)
        rw [hafter, activeIn_insert, if_pos rfl, htenant]
        simp [hactive, hnone, @eq_comm _ tenantId other]
    | @updated row name isActive hrow hafter =>
        obtain ⟨hlookup, htenant⟩ := keyOf_eq_some.mp hrow
        rw [hafter, activeIn_insert, if_pos rfl, activeIn_of_lookup hlookup, htenant]
        rcases isActive with _ | _ | _ <;> grind
    | @removed row hrow hafter =>
        obtain ⟨hlookup, htenant⟩ := keyOf_eq_some.mp hrow
        rw [hafter, activeIn_erase, activeIn_of_lookup hlookup, htenant]
        grind
  · have hkept : ActiveIn after other key ↔ ActiveIn keys other key := by
      cases h with
      | inserted _ _ _ hafter => rw [hafter, activeIn_insert, if_neg hsame]
      | updated _ hafter => rw [hafter, activeIn_insert, if_neg hsame]
      | removed _ hafter => rw [hafter, activeIn_erase, and_iff_right hsame]
    simp [hkept, hsame]

end Tables

section Steps

variable {backend : Backend Cipher} {tables : Tables} {now : Nat}

theorem changes_of_update {label tenantId id : String} {keys after : KeyTable} {dto : UpdateKeyDto}
    (h : updateKey label keys tenantId id dto = .ok after) :
    Changes keys after tenantId id (dto.isActive == some true) (dto.isActive == some false) := by
  unfold updateKey at h
  split at h
  · cases h
  · rename_i row hrow
    exact .updated hrow (Except.ok.inj h).symm

theorem changes_of_remove {label tenantId id : String} {keys after : KeyTable}
    (h : removeKey label keys tenantId id = .ok after) : Changes keys after tenantId id false true := by
  unfold removeKey at h
  split at h
  · cases h
  · rename_i row hrow
    exact .removed hrow (Except.ok.inj h).symm

-- The table after an update or a removal, which hand out no token.
theorem exists_of_map {result : Except ServiceError KeyTable} {kind : KeyKind} {made : Option CreatedKey × Tables}
    (h : ((tables.withKeys kind <$> result).map fun after => ((none : Option CreatedKey), after)) = .ok made) :
    ∃ keys, result = .ok keys ∧ made.2 = tables.withKeys kind keys := by
  cases result with
  | error _ => cases h
  | ok keys => exact ⟨keys, rfl, (congrArg Prod.snd (Except.ok.inj h)).symm⟩

theorem changes_of_create {kind : KeyKind} {row : KeyRow} {claims : JwtPayload} {newId : String}
    {made : Option CreatedKey × Tables} (hactive : row.isActive = true)
    (h : (createKey backend.jwt backend.tokens tables kind row claims newId now).map KeyCall.run.created = .ok made) :
    ∃ keys, made.2 = tables.withKeys kind keys ∧ Changes (tables.keys kind) keys row.tenantId newId true false := by
  cases hcreated : createKey backend.jwt backend.tokens tables kind row claims newId now with
  | error _ => simp [hcreated, Except.map] at h
  | ok result =>
      obtain ⟨key, after⟩ := result
      obtain ⟨hfresh, -, rfl⟩ := createKey_ok hcreated
      rw [hcreated] at h
      exact ⟨_, (congrArg Prod.snd (Except.ok.inj h)).symm, .inserted hfresh rfl hactive rfl⟩

theorem changes_of_run {call : KeyCall} {made : Option CreatedKey × Tables}
    (h : call.run backend tables now = .ok made) :
    ∃ keys, made.2 = tables.withKeys call.kind keys ∧
      Changes (tables.keys call.kind) keys call.tenantId call.keyId call.turnsOn call.turnsOff := by
  cases call with
  | createDevice tenantId resourceId label newId =>
      simp only [KeyCall.run, AgentTokensService.create] at h
      split at h
      · exact changes_of_create rfl h
      · cases h
  | createLogSource tenantId name newId => exact changes_of_create rfl h
  | createApmIngest tenantId service newId => exact changes_of_create rfl h
  | createRumApp tenantId appName newId => exact changes_of_create rfl h
  | updateDevice tenantId id dto =>
      obtain ⟨keys, hkeys, hmade⟩ := exists_of_map h
      exact ⟨keys, hmade, changes_of_update hkeys⟩
  | updateLogSource tenantId id dto =>
      obtain ⟨keys, hkeys, hmade⟩ := exists_of_map h
      exact ⟨keys, hmade, changes_of_update hkeys⟩
  | remove kind tenantId id =>
      cases kind with
      | device | logSource | apmIngest | rumApp =>
          obtain ⟨keys, hkeys, hmade⟩ := exists_of_map h
          exact ⟨keys, hmade, changes_of_remove hkeys⟩

theorem keys_serve (state : AccessState Cipher) {call : AccessCall} (h : ∀ keyCall, call ≠ .keys keyCall) :
    (serve backend state now call).keys = state.keys := by
  cases call with
  | keys keyCall => exact absurd rfl (h keyCall)
  | completeSso code ssoToken newId =>
      simp only [serve]
      split <;> rfl
  | login _ _ _ _ | logout _ | configureSso _ _ _ | beginSso _ _ | portal _ | request _ _ | collect _ => rfl

-- What a call turns on of this key, and off.
def TurnsOn (backend : Backend Cipher) (kind : KeyKind) (tenantId id : String) (state : AccessState Cipher)
    (event : Nat × AccessCall) : Prop :=
  ∃ call, event.2 = .keys call ∧ call.Does backend state event.1 kind tenantId id ∧ call.turnsOn = true

def TurnsOff (backend : Backend Cipher) (kind : KeyKind) (tenantId id : String) (state : AccessState Cipher)
    (event : Nat × AccessCall) : Prop :=
  ∃ call, event.2 = .keys call ∧ call.Does backend state event.1 kind tenantId id ∧ call.turnsOff = true

def ActiveKey (kind : KeyKind) (tenantId id : String) (state : AccessState Cipher) : Prop :=
  ActiveIn (state.keys.keys kind) tenantId id

variable (backend) in
theorem activeKey_step (kind : KeyKind) (tenantId id : String) (state : AccessState Cipher) (event : Nat × AccessCall) :
    ActiveKey kind tenantId id ((system backend).step state event) ↔
      TurnsOn backend kind tenantId id state event ∨
        ActiveKey kind tenantId id state ∧ ¬ TurnsOff backend kind tenantId id state event := by
  obtain ⟨now, call⟩ := event
  change ActiveKey kind tenantId id (serve backend state now call) ↔ _
  by_cases hkeys : ∃ keyCall, call = .keys keyCall
  · obtain ⟨keyCall, rfl⟩ := hkeys
    have hon : TurnsOn backend kind tenantId id state (now, .keys keyCall) ↔
        keyCall.Does backend state now kind tenantId id ∧ keyCall.turnsOn = true := by
      simp [TurnsOn]
    have hoff : TurnsOff backend kind tenantId id state (now, .keys keyCall) ↔
        keyCall.Does backend state now kind tenantId id ∧ keyCall.turnsOff = true := by
      simp [TurnsOff]
    rw [hon, hoff]
    cases hrun : keyCall.run backend state.keys now with
    | error _ => simp [ActiveKey, serve, KeyCall.Does, hrun, Except.toOption]
    | ok made =>
        obtain ⟨keys, hmade, hchanges⟩ := changes_of_run hrun
        have hafter : (serve backend state now (.keys keyCall)).keys = state.keys.withKeys keyCall.kind keys := by
          simp only [serve, hrun, Except.toOption, Option.map_some, Option.getD_some, hmade]
        by_cases hkind : kind = keyCall.kind
        · subst hkind
          have hdoes : keyCall.Does backend state now keyCall.kind tenantId id ↔
              tenantId = keyCall.tenantId ∧ id = keyCall.keyId := by
            simp [KeyCall.Does, hrun, eq_comm]
          rw [ActiveKey, hafter, Tables.keys_withKeys, hchanges.activeIn_iff, hdoes, and_assoc, and_assoc]
          rfl
        · rw [ActiveKey, hafter, Tables.keys_withKeys_of_ne _ hkind]
          simp [ActiveKey, KeyCall.Does, Ne.symm hkind]
  · have hnot : ∀ keyCall, call ≠ .keys keyCall := fun keyCall he => hkeys ⟨keyCall, he⟩
    simp [ActiveKey, TurnsOn, TurnsOff, keys_serve state hnot, hnot]

end Steps

section Ingestion

variable (backend : Backend Cipher) (state : AccessState Cipher) (now : Nat)

-- The key under which the call gets past its guard, or past the check of the RUM beacon.
def acceptedKey : AccessCall → Option (KeyKind × LiveKey)
  | .request .device headers =>
      (agentTokenGuard backend.jwt backend.tokens state.keys headers now).toOption.map fun key => (.device, key)
  | .request .logSource headers =>
      (logSourceTokenGuard backend.jwt backend.tokens state.keys headers now).toOption.map fun key => (.logSource, key)
  | .request .apmIngest headers =>
      (apmIngestTokenGuard backend.jwt backend.tokens state.keys headers now).toOption.map fun key => (.apmIngest, key)
  | .collect appKey =>
      (collect backend.jwt backend.tokens state.keys backend.ingestLimits state.redis appKey now).1.toOption.map
        fun key => (.rumApp, key)
  | .request (.agent _) _ | .request .portal _ | .login .. | .logout _ | .configureSso .. | .beginSso .. |
    .completeSso .. | .portal _ | .keys _ => none

-- What an accepted key has been checked for.
structure Checked (kind : KeyKind) (key : LiveKey) (token : String) : Prop where
  verified : Tokens.verifyJwt backend.jwt backend.tokens token now = some key.claims
  stated : key.claims.kind = some kind.name
  tenant : key.claims.tenantId = some key.tenantId
  subject : key.claims.sub = some key.id
  row : keyOf (state.keys.keys kind) key.tenantId key.id = some key.row
  active : key.row.isActive = true
  resource : kind = .device → key.row.resourceId = key.claims.resourceId

variable {backend state now} {kind : KeyKind} {key : LiveKey}

theorem checked_of_live {isLive : JwtPayload → KeyRow → Bool} {token : String} {claims : JwtPayload}
    (hverified : verifyKind backend.jwt backend.tokens kind.name token now = some claims)
    (hactive : ∀ claims row, isLive claims row = true → row.isActive = true)
    (hresource : kind = .device → ∀ claims row, isLive claims row = true → row.resourceId = claims.resourceId)
    (h : liveKey (state.keys.keys kind) isLive claims = some key) : Checked backend state now kind key token := by
  unfold liveKey at h
  split at h
  · rename_i tenantId id htenant hsub
    obtain ⟨row, hrow, rfl⟩ := Option.map_eq_some_iff.mp h
    obtain ⟨hkey, hlive⟩ := Option.filter_eq_some_iff.mp hrow
    obtain ⟨hopens, hkind⟩ := verifyKind_eq_some.mp hverified
    exact ⟨hopens, hkind, htenant, hsub, hkey, hactive _ _ hlive, fun hdevice => hresource hdevice _ _ hlive⟩
  · cases h

theorem checked_of_ingestGuard (kind : KeyKind) {isLive : JwtPayload → KeyRow → Bool} {required invalid revoked : String}
    {request : Request} (hactive : ∀ claims row, isLive claims row = true → row.isActive = true)
    (hresource : kind = .device → ∀ claims row, isLive claims row = true → row.resourceId = claims.resourceId)
    (h : ingestGuard (verifyKind backend.jwt backend.tokens kind.name) (state.keys.keys kind) isLive required invalid
      revoked request now = .ok key) :
    ∃ token, request.bearer = some token ∧ Checked backend state now kind key token := by
  unfold ingestGuard at h
  split at h
  · cases h
  · rename_i token htoken
    split at h
    · cases h
    · rename_i claims hverified
      split at h
      · cases h
      · rename_i found hlive
        obtain rfl := Except.ok.inj h
        exact ⟨token, htoken, checked_of_live hverified hactive hresource hlive⟩

theorem ok_of_toOption_map {ε α β : Type} {result : Except ε α} {f : α → β} {value : β}
    (h : result.toOption.map f = some value) : ∃ found, result = .ok found ∧ f found = value := by
  cases result with
  | error _ => cases h
  | ok found => exact ⟨found, rfl, Option.some.inj h⟩

theorem checked_of_collect {store : Redis.Store} {appKey : String}
    (h : (collect backend.jwt backend.tokens state.keys backend.ingestLimits store appKey now).1 = .ok key) :
    Checked backend state now .rumApp key appKey := by
  unfold collect at h
  split at h
  · cases h
  · rename_i claims hverified
    dsimp only at h
    split at h
    · cases h
    · cases h
    · split at h
      · cases h
      · rename_i found hlive
        obtain rfl := Except.ok.inj h
        exact checked_of_live hverified (fun _ _ hrow => hrow) (fun hdevice => nomatch hdevice) hlive

theorem checked_of_accepted {call : AccessCall} (h : acceptedKey backend state now call = some (kind, key)) :
    ∃ token ∈ call.tokens, Checked backend state now kind key token := by
  cases call with
  | request route headers =>
      cases route with
      | device =>
          obtain ⟨found, hfound, hpair⟩ := ok_of_toOption_map h
          obtain ⟨rfl, rfl⟩ := Prod.mk.inj hpair
          obtain ⟨token, htoken, hchecked⟩ := checked_of_ingestGuard .device
            (fun _ _ hlive => (Bool.and_eq_true_iff.mp hlive).1)
            (fun _ _ _ hlive => beq_iff_eq.mp (Bool.and_eq_true_iff.mp hlive).2) hfound
          exact ⟨token, Option.mem_toList.mpr htoken, hchecked⟩
      | logSource =>
          obtain ⟨found, hfound, hpair⟩ := ok_of_toOption_map h
          obtain ⟨rfl, rfl⟩ := Prod.mk.inj hpair
          obtain ⟨token, htoken, hchecked⟩ := checked_of_ingestGuard .logSource (fun _ _ hlive => hlive)
            (fun hdevice => nomatch hdevice) hfound
          exact ⟨token, Option.mem_toList.mpr htoken, hchecked⟩
      | apmIngest =>
          obtain ⟨found, hfound, hpair⟩ := ok_of_toOption_map h
          obtain ⟨rfl, rfl⟩ := Prod.mk.inj hpair
          obtain ⟨token, htoken, hchecked⟩ := checked_of_ingestGuard .apmIngest (fun _ _ hlive => hlive)
            (fun hdevice => nomatch hdevice) hfound
          exact ⟨token, Option.mem_toList.mpr htoken, hchecked⟩
      | agent _ | portal => cases h
  | collect appKey =>
      obtain ⟨found, hfound, hpair⟩ := ok_of_toOption_map h
      obtain ⟨rfl, rfl⟩ := Prod.mk.inj hpair
      exact ⟨appKey, List.mem_singleton_self _, checked_of_collect hfound⟩
  | login _ _ _ _ | logout _ | configureSso _ _ _ | beginSso _ _ | completeSso _ _ _ | portal _ | keys _ => cases h

-- The call that has made the key, and handed out its token.
def CreatedAmong (backend : Backend Cipher) (start : AccessState Cipher) (calls : List (Nat × AccessCall))
    (kind : KeyKind) (key : LiveKey) : Prop :=
  ∃ before time call later row, calls = before ++ (time, .keys call) :: later ∧
    CreatesKey (after backend start before).keys (serve backend (after backend start before) time (.keys call)).keys
      kind key.id row ∧
    row.tenantId = key.tenantId ∧ key.claims = (keyClaims kind key.id row).issued time

-- Telemetry gets in only under a key of the token's own kind that the run has made for the
-- token's tenant, and that nothing has switched off or removed since it was last switched on.
theorem telemetry_keys_live (hstamps : backend.jwt.Stamps) (start : AccessState Cipher)
    (hstart : ∀ kind tenantId id, ¬ ActiveKey kind tenantId id start) (calls : List (Nat × AccessCall))
    (hforgery : NoForgery backend start calls) (first rest : List (Nat × AccessCall)) (now : Nat) (call : AccessCall)
    (hcalls : calls = first ++ (now, call) :: rest) (kind : KeyKind) (key : LiveKey)
    (haccepted : acceptedKey backend (after backend start first) now call = some (kind, key)) :
    CreatedAmong backend start first kind key ∧
      ActiveKey kind key.tenantId key.id (after backend start first) ∧
      (kind = .device → key.row.resourceId = key.claims.resourceId) ∧
      ∃ before event later, first = before ++ event :: later ∧
        TurnsOn backend kind key.tenantId key.id (after backend start before) event ∧
        Runs.AllSteps (system backend).step
          (fun state event => ¬ TurnsOff backend kind key.tenantId key.id state event)
          (after backend start (before ++ [event])) later := by
  subst hcalls
  obtain ⟨token, htoken, hchecked⟩ := checked_of_accepted haccepted
  have hactive : ActiveKey kind key.tenantId key.id (after backend start first) :=
    ⟨key.row, hchecked.row, hchecked.active⟩
  refine ⟨?_, hactive, hchecked.resource, ?_⟩
  · obtain ⟨time, issuing, claims, ⟨before, later, rfl, hissues⟩, hclaims⟩ :=
      issuedAmong_of_presented hstamps hforgery htoken hchecked.verified
    have hstated : claims.kind = some kind.name := by
      rw [← hchecked.stated, hclaims]
      rfl
    obtain ⟨keyCall, id, row, rfl, rfl, hcreates⟩ := keyCreated_of_issues hissues hstated
    have hsub : id = key.id := by
      have := hchecked.subject
      rw [hclaims] at this
      cases kind <;> exact Option.some.inj this
    have htenant : row.tenantId = key.tenantId := by
      have := hchecked.tenant
      rw [hclaims] at this
      cases kind <;> exact Option.some.inj this
    subst hsub
    exact ⟨before, time, keyCall, later, row, rfl, hcreates, htenant, hclaims⟩
  · have hlatched : ∀ state event, (fun _ => True) state → _ :=
      fun state event _ => activeKey_step backend kind key.tenantId key.id state event
    exact (Runs.latched_iff _ first trivial (fun _ _ _ => trivial) hlatched (hstart kind key.tenantId key.id)).mp hactive

section Examples

def rumSession : JwtPayload := rumAppClaims "k1" "t1"

def rumBackend : Backend String := demoBackend (oneTokenJwt "good" rumSession 1000000)

def createRumKey : Nat × AccessCall := (1000000, .keys (.createRumApp "t1" "shop" "k1"))

def rumKey : LiveKey := ⟨rumSession.issued 1000000, "t1", "k1", ⟨"t1", "shop", none, true⟩⟩

theorem demoStart_no_keys (kind : KeyKind) (tenantId id : String) : ¬ ActiveKey kind tenantId id demoStart := by
  rintro ⟨row, hrow, -⟩
  cases kind <;> simp [keyOf, demoStart, Tables.keys] at hrow

theorem createRumKey_handedOut :
    handedOut rumBackend demoStart 1000000 createRumKey.2 = some (rumSession, "good") := by rfl

theorem createThenCollect_live :
    CreatedAmong rumBackend demoStart [createRumKey] .rumApp rumKey ∧
      ActiveKey .rumApp "t1" "k1" (after rumBackend demoStart [createRumKey]) ∧
      ∃ before event later, [createRumKey] = before ++ event :: later ∧
        TurnsOn rumBackend .rumApp "t1" "k1" (after rumBackend demoStart before) event := by
  have hstamps : rumBackend.jwt.Stamps := oneTokenJwt_stamps (by decide) _ _
  obtain ⟨hcreated, hactive, -, before, event, later, hcalls, hon, -⟩ :=
    telemetry_keys_live hstamps demoStart demoStart_no_keys [createRumKey, (1001000, .collect "good")]
      (noForgery_pair createRumKey_handedOut rfl rfl) [createRumKey] [] 1001000 (.collect "good") rfl .rumApp rumKey
      (by rfl)
  exact ⟨hcreated, hactive, before, event, later, hcalls, hon⟩

end Examples

end Ingestion

end CloudOps.Platform.Access
