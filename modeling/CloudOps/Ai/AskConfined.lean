import CloudOps.Ai.AskService
import CloudOps.Runs
import CloudOps.TopRows

namespace CloudOps.Ai.Ask

open CloudOps.Effects (EffectM exec exec_bind_ok exec_bind_error exec_get_bind exec_modify_bind exec_set_bind)
open CloudOps.Js (Value)
open CloudOps.ReadCommitted (Table)
open CloudOps.Ticketing (Uuid)

variable {World : Type} {backend : AskBackend World}

section Outside

-- The request of a tool call, where its arguments make one.
def requestOf (backend : AskBackend World) (tenantId : String) (call : ToolCallRequest) : Option InternalRequest :=
  (requestFor backend.api tenantId call).toOption

theorem exec_complete (tenantId system user : String) (state : AskState World) :
    ∃ result world, exec (complete backend tenantId system user) state =
      (result, { state with world, effects := state.effects ++ [.completed tenantId system user] }) := by
  unfold complete
  rcases hanswer : backend.complete tenantId system user state.world with ⟨answer, world⟩
  cases answer with
  | ok text =>
      refine ⟨.ok text, world, ?_⟩
      rw [exec_get_bind, hanswer]
      rfl
  | error message =>
      refine ⟨.error (.error message), world, ?_⟩
      rw [exec_get_bind, hanswer]
      rfl

theorem exec_callTool (tenantId : String) (call : ToolCallRequest) (state : AskState World) :
    ∃ result world, exec (callTool backend tenantId call) state =
      (.ok result, { state with
        world, effects := state.effects ++ (requestOf backend tenantId call).toList.map AskEffect.fetched }) := by
  unfold callTool requestOf
  cases hrequest : requestFor backend.api tenantId call with
  | error message =>
      have hnone : state.effects ++ ((Except.error message : Except String InternalRequest).toOption.toList.map
          AskEffect.fetched) = state.effects := List.append_nil _
      exact ⟨_, state.world, by rw [hnone]; rfl⟩
  | ok request =>
      rcases hfetch : backend.fetch request state.world with ⟨outcome, world⟩
      have hexec : ∃ result, exec (fetchInternal backend call.tool request) state =
          (.ok result, { state with world, effects := state.effects ++ [.fetched request] }) := by
        unfold fetchInternal
        cases outcome with
        | failed message =>
            refine ⟨.error message, ?_⟩
            rw [exec_get_bind, hfetch]
            rfl
        | response ok status json =>
            refine ⟨if ok then json else .error s!"{call.tool} returned HTTP {status}", ?_⟩
            rw [exec_get_bind, hfetch]
            rfl
      obtain ⟨result, hexec⟩ := hexec
      dsimp only
      rw [exec_bind_ok hexec]
      cases result with
      | ok value => exact ⟨_, world, rfl⟩
      | error message => exact ⟨_, world, rfl⟩

end Outside

section Loop

-- What the loop does outside, with the tool calls it logs: it completes, makes the request
-- of an allowed tool, and goes on, as often as it has rounds left. It begins with this
-- text.
inductive Exchange (backend : AskBackend World) (tenantId : String) :
    Nat → String → List AskEffect → List ToolCallRequest → Prop where
  | last {rounds : Nat} {system text : String} :
      Exchange backend tenantId rounds text [.completed tenantId system text] []
  | called {rounds : Nat} {system text next : String} {call : ToolCallRequest} {effects : List AskEffect}
      {log : List ToolCallRequest} :
      isAllowedTool call.tool = true → Exchange backend tenantId rounds next effects log →
      Exchange backend tenantId (rounds + 1) text
        (.completed tenantId system text :: ((requestOf backend tenantId call).toList.map .fetched ++ effects))
        (call :: log)
  | refused {rounds : Nat} {system text next : String} {effects : List AskEffect} {log : List ToolCallRequest} :
      Exchange backend tenantId rounds next effects log →
      Exchange backend tenantId (rounds + 1) text (.completed tenantId system text :: effects) log

theorem exec_runLoop (tenantId : String) (rounds : Nat) (text : String) (logged : List ToolCallRequest)
    (state : AskState World) :
    ∃ result world effects log, exec (runLoop backend tenantId rounds text logged) state =
        (result, { state with world, effects := state.effects ++ effects }) ∧
      Exchange backend tenantId rounds text effects log ∧
      ∀ answer, result = .ok answer → answer.2 = logged ++ log := by
  induction rounds generalizing text logged state with
  | zero =>
      obtain ⟨result, world, hexec⟩ := @exec_complete World backend tenantId finalSystem text state
      cases result with
      | error error =>
          refine ⟨.error error, world, [.completed tenantId finalSystem text], [], ?_, .last, nofun⟩
          rw [runLoop, exec_bind_error hexec]
      | ok final =>
          refine ⟨.ok (trimText final, logged), world, [.completed tenantId finalSystem text], [], ?_, .last, ?_⟩
          · rw [runLoop, exec_bind_ok hexec]
            rfl
          · rintro answer ⟨⟩
            rw [List.append_nil]
  | succ rounds ih =>
      obtain ⟨result, world, hexec⟩ := @exec_complete World backend tenantId buildToolsSystemPrompt text state
      cases result with
      | error error =>
          refine ⟨.error error, world, [.completed tenantId buildToolsSystemPrompt text], [], ?_, .last, nofun⟩
          rw [runLoop, exec_bind_error hexec]
      | ok raw =>
          cases hcall : parseToolCall backend.parseJson (firstLine (trimText raw)) with
          | none =>
              refine ⟨.ok (trimText raw, logged), world, [.completed tenantId buildToolsSystemPrompt text], [], ?_,
                .last, ?_⟩
              · rw [runLoop, exec_bind_ok hexec]
                dsimp only
                rw [hcall]
                rfl
              · rintro answer ⟨⟩
                rw [List.append_nil]
          | some call =>
              cases hallowed : isAllowedTool call.tool with
              | false =>
                  obtain ⟨later, world', effects, log, hloop, hexchange, hlog⟩ := ih (text ++ callText backend call ++
                    s!"\n\nTOOL_RESULT: Error: unknown tool \"{call.tool}\"") logged
                    { state with world, effects := state.effects ++ [.completed tenantId buildToolsSystemPrompt text] }
                  refine ⟨later, world', .completed tenantId buildToolsSystemPrompt text :: effects, log, ?_,
                    .refused hexchange, hlog⟩
                  rw [runLoop, exec_bind_ok hexec]
                  dsimp only
                  rw [hcall]
                  dsimp only
                  rw [hallowed, if_neg Bool.false_ne_true, hloop, List.append_assoc]
                  rfl
              | true =>
                  obtain ⟨answer, called, hcalled⟩ := exec_callTool tenantId call
                    { state with world, effects := state.effects ++ [.completed tenantId buildToolsSystemPrompt text] }
                  obtain ⟨later, world', effects, log, hloop, hexchange, hlog⟩ := ih (text ++ callText backend call ++
                    "\n\nTOOL_RESULT: " ++ answer) (logged ++ [call])
                    { state with
                      world := called
                      effects := state.effects ++ [.completed tenantId buildToolsSystemPrompt text] ++
                        (requestOf backend tenantId call).toList.map AskEffect.fetched }
                  refine ⟨later, world', .completed tenantId buildToolsSystemPrompt text ::
                    ((requestOf backend tenantId call).toList.map .fetched ++ effects), call :: log, ?_,
                    .called hallowed hexchange, ?_⟩
                  · rw [runLoop, exec_bind_ok hexec]
                    dsimp only
                    rw [hcall]
                    dsimp only
                    rw [hallowed, if_pos rfl, exec_bind_ok hcalled, hloop, List.append_assoc, List.append_assoc]
                    rfl
                  · intro found hfound
                    rw [hlog found hfound, List.append_assoc]
                    rfl

def AskEffect.isCompletion : AskEffect → Bool
  | .completed _ _ _ => true
  | .fetched _ => false

def AskEffect.request : AskEffect → Option InternalRequest
  | .completed _ _ _ => none
  | .fetched request => some request

-- The tenant the effect is made for: whose client completes, or whose id the request shows.
def AskEffect.tenantId : AskEffect → String
  | .completed tenantId _ _ => tenantId
  | .fetched request => request.xTenantId

theorem xTenantId_of_request {tenantId : String} {call : ToolCallRequest} {request : InternalRequest}
    (h : requestOf backend tenantId call = some request) : request.xTenantId = tenantId := by
  unfold requestOf requestFor at h
  cases hurl : urlFor call with
  | error _ => simp [hurl, Except.map, Except.toOption] at h
  | ok url =>
      rw [hurl] at h
      obtain rfl := Option.some.inj h
      rfl

namespace Exchange

variable {tenantId text : String} {rounds : Nat} {effects : List AskEffect} {log : List ToolCallRequest}

theorem requests (h : Exchange backend tenantId rounds text effects log) :
    effects.filterMap AskEffect.request = log.filterMap (requestOf backend tenantId) := by
  have hfetched : ∀ request : Option InternalRequest,
      (request.toList.map AskEffect.fetched).filterMap AskEffect.request = request.toList := by
    intro request
    cases request <;> rfl
  induction h with
  | last => rfl
  | @called _ _ _ _ call _ _ _ _ ih =>
      rw [List.filterMap_cons, List.filterMap_append, hfetched, ih]
      cases hrequest : requestOf backend tenantId call <;> simp [AskEffect.request, hrequest]
  | refused _ ih => exact ih

theorem completions (h : Exchange backend tenantId rounds text effects log) :
    effects.countP AskEffect.isCompletion ≤ rounds + 1 ∧ log.length ≤ rounds := by
  have hfetched : ∀ request : Option InternalRequest,
      (request.toList.map AskEffect.fetched).countP AskEffect.isCompletion = 0 := by
    intro request
    cases request <;> rfl
  induction h with
  | @last rounds _ _ => exact ⟨Nat.le_add_left 1 rounds, Nat.zero_le rounds⟩
  | called _ _ ih =>
      rw [List.countP_cons_of_pos rfl, List.countP_append, hfetched, List.length_cons]
      omega
  | refused _ ih =>
      rw [List.countP_cons_of_pos rfl]
      omega

theorem allowed (h : Exchange backend tenantId rounds text effects log) :
    ∀ call ∈ log, isAllowedTool call.tool = true := by
  induction h with
  | last => exact nofun
  | called hallowed _ ih => exact List.forall_mem_cons.mpr ⟨hallowed, ih⟩
  | refused _ ih => exact ih

theorem ofTenant (h : Exchange backend tenantId rounds text effects log) :
    ∀ effect ∈ effects, effect.tenantId = tenantId := by
  induction h with
  | last => exact List.forall_mem_singleton.mpr rfl
  | @called _ _ _ _ call _ _ _ _ ih =>
      refine List.forall_mem_cons.mpr ⟨rfl, List.forall_mem_append.mpr ⟨?_, ih⟩⟩
      intro effect heffect
      obtain ⟨request, hrequest, rfl⟩ := List.mem_map.mp heffect
      exact xTenantId_of_request (Option.mem_toList.mp hrequest)
  | refused _ ih => exact List.forall_mem_cons.mpr ⟨rfl, ih⟩

theorem begins (h : Exchange backend tenantId rounds text effects log) :
    ∃ system rest, effects = .completed tenantId system text :: rest := by
  cases h with
  | last | called _ _ | refused _ => exact ⟨_, _, rfl⟩

end Exchange

end Loop

section Asking

-- The session's own messages, in the order they were saved.
def ownMessages (messages : List AskMessage) (tenantId : String) (sessionId : Uuid) : List AskMessage :=
  messages.filter fun message => message.tenantId = tenantId ∧ message.sessionId = sessionId

def question (state : AskState World) (tenantId : String) (sessionId : Uuid) (userMessage : String) : AskMessage :=
  ⟨tenantId, sessionId, .user, userMessage, none, state.clock⟩

def reply (state : AskState World) (tenantId : String) (sessionId : Uuid) (answer : String)
    (log : List ToolCallRequest) : AskMessage :=
  ⟨tenantId, sessionId, .assistant, answer, if log.length > 0 then some log else none, state.clock + 1⟩

-- What an ask refuses: no text, too long a one, a session that is not the tenant's, and a tenant
-- without a model.
def Rejects (backend : AskBackend World) (state : AskState World) (tenantId : String) (sessionId : Uuid)
    (userMessage : String) : Prop :=
  trimText userMessage = "" ∨ 4000 < unitsOf userMessage ∨ state.sessions.lookup sessionId ≠ some tenantId ∨
    backend.enabled tenantId state.world = false

-- An ask that has come to the loop: what it has done outside, and what it has saved.
structure Asked (backend : AskBackend World) (state after : AskState World) (tenantId : String) (sessionId : Uuid)
    (userMessage text : String) (result : Except ServiceError String) (effects : List AskEffect)
    (log : List ToolCallRequest) : Prop where
  own : state.sessions.lookup sessionId = some tenantId
  sessions : after.sessions = state.sessions
  done : after.effects = state.effects ++ effects
  exchange : Exchange backend tenantId MAX_TOOL_ROUNDS text effects log
  saved : (∃ error, result = .error error ∧ after.clock = state.clock + 1 ∧
      after.messages = state.messages ++ [question state tenantId sessionId userMessage]) ∨
    ∃ answer, result = .ok answer ∧ after.clock = state.clock + 1 + 1 ∧
      after.messages = state.messages ++
        [question state tenantId sessionId userMessage, reply state tenantId sessionId answer log]

theorem exec_ask (backend : AskBackend World) (state : AskState World) (tenantId : String) (sessionId : Uuid)
    (userMessage : String) :
    ∃ result after, exec (ask backend tenantId sessionId userMessage) state = (result, after) ∧
      (Rejects backend state tenantId sessionId userMessage ∧ (∃ error, result = .error error) ∧ after = state ∨
        ¬ Rejects backend state tenantId sessionId userMessage ∧ ∃ effects log,
          Asked backend state after tenantId sessionId userMessage
            (conversation
              (history (state.messages ++ [question state tenantId sessionId userMessage]) tenantId sessionId))
            result effects log) := by
  unfold ask
  by_cases hempty : trimText userMessage = ""
  · rw [if_pos hempty]
    exact ⟨_, state, rfl, .inl ⟨.inl hempty, ⟨_, rfl⟩, rfl⟩⟩
  rw [if_neg hempty]
  by_cases hlong : 4000 < unitsOf userMessage
  · rw [if_pos hlong]
    exact ⟨_, state, rfl, .inl ⟨.inr (.inl hlong), ⟨_, rfl⟩, rfl⟩⟩
  rw [if_neg hlong]
  dsimp only
  rw [exec_get_bind]
  by_cases hown : state.sessions.lookup sessionId = some tenantId
  swap
  · rw [if_pos hown]
    exact ⟨_, state, rfl, .inl ⟨.inr (.inr (.inl hown)), ⟨_, rfl⟩, rfl⟩⟩
  rw [if_neg (not_not_intro hown)]
  cases henabled : backend.enabled tenantId state.world with
  | false => exact ⟨_, state, rfl, .inl ⟨.inr (.inr (.inr henabled)), ⟨_, rfl⟩, rfl⟩⟩
  | true =>
      have htaken : ¬ Rejects backend state tenantId sessionId userMessage := by
        rintro (h | h | h | h)
        · exact hempty h
        · exact hlong h
        · exact h hown
        · exact Bool.false_ne_true (h.symm.trans henabled)
      rw [Bool.not_true, if_neg Bool.false_ne_true]
      unfold saveMessage
      rw [exec_modify_bind, exec_get_bind]
      obtain ⟨result, world, effects, log, hloop, hexchange, hlog⟩ := @exec_runLoop World backend tenantId
        MAX_TOOL_ROUNDS (conversation
          (history (state.messages ++ [question state tenantId sessionId userMessage]) tenantId sessionId)) []
        { state with
          messages := state.messages ++ [question state tenantId sessionId userMessage]
          clock := state.clock + 1 }
      cases result with
      | error error =>
          refine ⟨.error error, _, exec_bind_error hloop,
            .inr ⟨htaken, effects, log, hown, rfl, rfl, hexchange, .inl ?_⟩⟩
          exact ⟨error, rfl, rfl, rfl⟩
      | ok answer =>
          obtain ⟨text, logged⟩ := answer
          obtain rfl : logged = log := hlog _ rfl
          refine ⟨.ok text, _, (exec_bind_ok hloop).trans rfl,
            .inr ⟨htaken, effects, logged, hown, rfl, rfl, hexchange, .inr ?_⟩⟩
          exact ⟨text, rfl, rfl, List.append_assoc _ _ _⟩

end Asking

section Runs

-- Messages are saved one after the other, each in a session of its tenant.
structure WellKept (state : AskState World) : Prop where
  timed : state.messages.Pairwise fun first second => first.createdAt < second.createdAt
  before : ∀ message ∈ state.messages, message.createdAt < state.clock
  owned : ∀ message ∈ state.messages, state.sessions.lookup message.sessionId = some message.tenantId

-- One more message of a session there is.
theorem WellKept.append {state : AskState World} (h : WellKept state) {message : AskMessage}
    (htime : message.createdAt = state.clock) (hown : state.sessions.lookup message.sessionId = some message.tenantId)
    {after : AskState World} (hsessions : after.sessions = state.sessions)
    (hmessages : after.messages = state.messages ++ [message]) (hclock : after.clock = state.clock + 1) :
    WellKept after := by
  refine ⟨?_, ?_, ?_⟩
  · rw [hmessages, List.pairwise_append]
    refine ⟨h.timed, List.pairwise_singleton _ _, fun first hfirst second hsecond => ?_⟩
    rw [List.mem_singleton.mp hsecond, htime]
    exact h.before first hfirst
  · rw [hmessages, hclock]
    refine List.forall_mem_append.mpr ⟨fun first hfirst => Nat.lt_succ_of_lt (h.before first hfirst), ?_⟩
    exact List.forall_mem_singleton.mpr (by rw [htime]; exact Nat.lt_succ_self _)
  · rw [hmessages, hsessions]
    exact List.forall_mem_append.mpr ⟨h.owned, List.forall_mem_singleton.mpr hown⟩

theorem Asked.wellKept {state after : AskState World} {tenantId userMessage text : String} {sessionId : Uuid}
    {result : Except ServiceError String} {effects : List AskEffect} {log : List ToolCallRequest}
    (h : Asked backend state after tenantId sessionId userMessage text result effects log) (hkept : WellKept state) :
    WellKept after := by
  let questioned : AskState World :=
    { state with
      messages := state.messages ++ [question state tenantId sessionId userMessage]
      clock := state.clock + 1 }
  have hquestioned : WellKept questioned := hkept.append rfl h.own rfl rfl rfl
  rcases h.saved with ⟨_, -, hclock, hmessages⟩ | ⟨answer, -, hclock, hmessages⟩
  · exact hkept.append rfl h.own h.sessions hmessages hclock
  · have htime : (reply state tenantId sessionId answer log).createdAt = questioned.clock := rfl
    have hboth : after.messages = questioned.messages ++ [reply state tenantId sessionId answer log] := by
      rw [hmessages, List.append_assoc]
      rfl
    exact hquestioned.append htime h.own h.sessions hboth hclock

theorem wellKept_step (backend : AskBackend World) {state : AskState World} (call : AskCall) (h : WellKept state) :
    WellKept (step backend state call) := by
  cases call with
  | ask tenantId sessionId userMessage =>
      obtain ⟨result, after, hexec, ⟨-, -, rfl⟩ | ⟨-, effects, log, hasked⟩⟩ :=
        exec_ask backend state tenantId sessionId userMessage
      · rwa [step, hexec]
      · rw [step, hexec]
        exact hasked.wellKept h
  | createSession tenantId newId =>
      rw [step, createSession, exec_get_bind]
      by_cases hin : newId ∈ state.sessions
      · rwa [if_pos hin]
      · rw [if_neg hin]
        refine ⟨h.timed, h.before, fun message hmessage => ?_⟩
        have hne : message.sessionId ≠ newId := fun he => hin (he ▸ Table.mem_of_lookup (h.owned message hmessage))
        exact (AList.lookup_insert_ne hne).trans (h.owned message hmessage)

theorem history_eq {messages : List AskMessage}
    (htimed : messages.Pairwise fun first second => first.createdAt < second.createdAt) (tenantId : String)
    (sessionId : Uuid) :
    history messages tenantId sessionId =
      (ownMessages messages tenantId sessionId).drop ((ownMessages messages tenantId sessionId).length - 20) :=
  TopRows.insertionSort_newest AskMessage.createdAt (htimed.sublist List.filter_sublist) 20

-- A model that looks at the monitors before it answers.
def lookingBackend : AskBackend Nat where
  enabled _ _ := true
  complete _ _ _ round := (.ok (if round = 0 then "TOOL_CALL: list" else "All is well."), round + 1)
  fetch _ round := (.response true 200 (.ok (.array [])), round)
  api := ⟨none, none⟩
  parseJson _ := .ok (.object [("tool", .string "list_monitors")])
  stringify _ := "[]"

example : (exec (ask lookingBackend "t1" 7 "How are we?")
    (Runs.run (step lookingBackend) (.empty 0) [.createSession "t1" 7])).1.toOption = some "All is well." := by
  decide +kernel

end Runs

end CloudOps.Ai.Ask
