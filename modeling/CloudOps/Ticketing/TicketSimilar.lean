import CloudOps.Runs
import CloudOps.ServiceError
import CloudOps.Ticketing.AiRerank
import CloudOps.Ticketing.Ticket
import CloudOps.TopRows
import Mathlib.Order.WithBot

namespace CloudOps.Ticketing

open CloudOps.Js (Value mapGet shortestDecimal powerAbove)
open CloudOps.ReadCommitted (Table ScanOrder)
open CloudOps.TopRows

namespace TicketSimilar

def CANDIDATE_LIMIT : Nat := 20
def TRGM_THRESHOLD : Float := 0.15

structure SimilarTicket where
  ticketId : Uuid
  score : Float
  aiRanked : Bool

-- numeric(5,4), in units of its last place: the number's decimal text rounded, half away
-- from zero. NaN sorts above all numbers.
def numericScore (score : Float) : WithTop Nat :=
  match score.toModel.unpack with
  | .notANumber | .infinity _ => ⊤
  | .zero _ => 0
  | .finite _ mantissa exponent _ =>
      let (digits, power) := shortestDecimal score.toModel.abs mantissa exponent 20 (powerAbove mantissa exponent)
      let unit := 10 ^ (-(power + 4)).toNat
      if 0 ≤ power + 4 then ((digits * 10 ^ (power + 4).toNat : Nat) : WithTop Nat)
      else (((2 * digits + unit) / (2 * unit) : Nat) : WithTop Nat)

example : numericScore 0.95 = (9500 : Nat) ∧ numericScore 0.00005 = (1 : Nat) ∧ numericScore 1 = (10000 : Nat) := by
  decide +kernel

-- A row of ticket_similar_suggestions, under its ticket and the similar one.
structure Suggestion where
  score : WithTop Nat
  aiRanked : Bool
  deriving DecidableEq

-- The table, and the last result that was ranked by the AI, of each ticket.
structure SimilarStore where
  suggestions : Uuid → Table Uuid Suggestion
  lastRanked : Uuid → List SimilarTicket

def SimilarStore.empty : SimilarStore := ⟨fun _ => ∅, fun _ => []⟩

-- A call of getSimilar: the committed tickets each of its queries finds and the order it
-- reads them in, the client that is resolved, and what becomes of the transaction that
-- persists the result.
structure SimilarCall where
  ticketId : Uuid
  tickets : Nat → Table Uuid Ticket
  scan : Nat → ScanOrder (Uuid × Ticket)
  client : Except ServiceError AiClient
  persisted : Except String Unit

section Service

-- pg_trgm's similarity of two subjects, as the driver reads it; and JSON.parse.
variable (similarity : String → String → Float) (parseArray : String → Except String (List Value))
  (call : SimilarCall)

-- The resolved tickets that are similar, the most similar first.
def similarRows (src : Ticket) : List (Uuid × Ticket) :=
  let rows := (call.scan 1).apply ((call.tickets 1).rows.filter fun row =>
    row.1 ≠ call.ticketId && row.2.status.isClosing && TRGM_THRESHOLD < similarity row.2.subject src.subject)
  (rows.insertionSort fun first second =>
    similarity second.2.subject src.subject ≤ similarity first.2.subject src.subject).take CANDIDATE_LIMIT

def trgmCandidates : List (Uuid × Float) :=
  match (call.tickets 0).lookup call.ticketId with
  | none => []
  | some src => (similarRows similarity call src).map fun row => (row.1, similarity row.2.subject src.subject)

def systemPrompt : String :=
  "You are a ticket similarity expert. Given a source ticket subject and a numbered list of candidate tickets, " ++
  "output ONLY a JSON array of objects: [\x7b\"index\":0,\"score\":0.0-1.0\x7d,...] " ++
  "sorted by relevance descending. Score 1.0 = identical problem, 0.0 = unrelated. Output JSON only."

def userPrompt (source : Ticket) (candidates : List (Uuid × Float)) : String :=
  let candidateSubjects := (call.scan 3).apply ((call.tickets 3).rows.filter fun row =>
    (candidates.map Prod.fst).contains row.1)
  let idToSubject := candidateSubjects.map fun row => (row.1, row.2.subject)
  let list := "\n".intercalate (candidates.mapIdx fun i c =>
    let subject := (mapGet idToSubject c.1).getD "?"
    s!"{i}: {subject}")
  let subject := source.subject
  s!"Source: {subject}\n\nCandidates:\n{list}"

def aiItem (item : (Uuid × Float) × Float) : SimilarTicket := ⟨item.1.1, item.2, true⟩

def rerank (client : AiClient) (candidates : List (Uuid × Float)) : Except String (List SimilarTicket) :=
  match (call.tickets 2).lookup call.ticketId with
  | none => .ok []
  | some source => do
      let items ← aiRerank parseArray client systemPrompt (userPrompt call source candidates) candidates
      return items.map aiItem

-- DELETE of the ticket's rows, then one INSERT .. ON CONFLICT DO UPDATE for each.
def persistSuggestions (ticketId : Uuid) (suggestions : List SimilarTicket) (store : SimilarStore) : SimilarStore where
  suggestions := Function.update store.suggestions ticketId (suggestions.foldl (fun table item =>
    table.insert item.ticketId ⟨numericScore item.score, true⟩) ∅)
  lastRanked := Function.update store.lastRanked ticketId suggestions

def trgmResult (candidates : List (Uuid × Float)) : List SimilarTicket :=
  candidates.map fun c => ⟨c.1, c.2, false⟩

-- What fails between the ranking's first query and its last INSERT is caught.
def rankAndPersist (client : AiClient) (candidates : List (Uuid × Float)) (store : SimilarStore) :
    List SimilarTicket × SimilarStore :=
  match rerank parseArray call client candidates, call.persisted with
  | .ok ranked, .ok () => (ranked, persistSuggestions call.ticketId ranked store)
  | .ok _, .error _ | .error _, _ => (trgmResult candidates, store)

def getSimilar (store : SimilarStore) : Except ServiceError (List SimilarTicket) × SimilarStore :=
  let candidates := trgmCandidates similarity call
  if candidates.length = 0 then (.ok [], store)
  else
    match call.client with
    | .error error => (.error error, store)
    | .ok client =>
        if client.enabled then
          let (result, after) := rankAndPersist parseArray call client candidates store
          (.ok result, after)
        else (.ok (trgmResult candidates), store)

end Service

-- The cached suggestions, best scored first.
def getCached (order : ScanOrder (Uuid × Suggestion)) (store : SimilarStore) (ticketId : Uuid) :
    List (Uuid × Suggestion) :=
  topRows (fun row => row.2.score) 10 order (store.suggestions ticketId).rows

def stored (item : SimilarTicket) : Uuid × Suggestion := (item.ticketId, ⟨numericScore item.score, true⟩)

-- Of two rows of a result, the one that scored less.
def ScoredBelow (ranked : List SimilarTicket) (row other : Uuid × Suggestion) : Prop :=
  ∃ item ∈ ranked, ∃ better ∈ ranked, stored item = row ∧ stored better = other ∧ item.score < better.score

-- The ten best of the last AI-ranked result of the ticket, in whatever order the database
-- reads the table.
def CachedOf (store : SimilarStore) (ticketId : Uuid) : Prop :=
  ∀ order, BestOf 10 (ScoredBelow (store.lastRanked ticketId)) ((store.lastRanked ticketId).map stored)
    (getCached order store ticketId)

-- Distinct candidates, each with a number in the unit interval if the AI has ranked it.
structure Lists (candidates : List (Uuid × Float)) (result : List SimilarTicket) : Prop where
  distinct : (result.map SimilarTicket.ticketId).Nodup
  among : ∀ item ∈ result, item.ticketId ∈ candidates.map Prod.fst
  numeric : ∀ item ∈ result, item.aiRanked = true → 0 ≤ item.score ∧ item.score ≤ 1

-- No two different scores that are stored as one are on the two sides of the tenth place.
def CutApart (count : Nat) (elements : List Value) : Prop :=
  ∀ first ∈ scoresOf count elements, ∀ second ∈ scoresOf count elements, first < second →
    ¬ Splits numericScore 10 (scoresOf count elements) first second

section Service

variable (similarity : String → String → Float) (parseArray : String → Except String (List Value))

-- The call comes to the ranking, is answered by the array, and what it makes of it is
-- committed.
structure SimilarCall.AnsweredBy (call : SimilarCall) (elements : List Value) : Prop where
  candidates : (trgmCandidates similarity call).length ≠ 0
  answer : ∃ client, call.client = .ok client ∧ client.enabled = true ∧
    ∃ source, (call.tickets 2).lookup call.ticketId = some source ∧
      answerOf parseArray client systemPrompt (userPrompt call source (trgmCandidates similarity call)) = .ok elements
  persisted : call.persisted = .ok ()

-- If it can be ranked the array is clean.
def SimilarCall.CleanlyAnswered (call : SimilarCall) : Prop :=
  ∀ elements, call.AnsweredBy similarity parseArray elements →
    Rankable (trgmCandidates similarity call).length elements →
    Clean (trgmCandidates similarity call).length elements ∧ CutApart (trgmCandidates similarity call).length elements

-- What a call returns lists candidates, and the suggestions cached afterwards are those of
-- the last result.
structure Answers (store : SimilarStore) (call : SimilarCall) : Prop where
  lists : ∀ result, (getSimilar similarity parseArray call store).1 = .ok result →
    Lists (trgmCandidates similarity call) result
  cached : CachedOf (getSimilar similarity parseArray call store).2 call.ticketId

end Service

section Calls

variable {similarity : String → String → Float} {parseArray : String → Except String (List Value)}
  {call : SimilarCall} {store : SimilarStore}

theorem nodup_similarRows (similarity : String → String → Float) (call : SimilarCall) (src : Ticket) :
    ((similarRows similarity call src).map Prod.fst).Nodup := by
  unfold similarRows
  apply Table.nodup_selected_ids

theorem nodup_trgmCandidates (similarity : String → String → Float) (call : SimilarCall) :
    ((trgmCandidates similarity call).map Prod.fst).Nodup := by
  unfold trgmCandidates
  cases (call.tickets 0).lookup call.ticketId with
  | none => exact List.nodup_nil
  | some src =>
      dsimp only
      rw [List.map_map]
      exact nodup_similarRows similarity call src

theorem lists_trgmResult {candidates : List (Uuid × Float)} (h : (candidates.map Prod.fst).Nodup) :
    Lists candidates (trgmResult candidates) where
  distinct := by
    rw [trgmResult, List.map_map]
    exact h
  among item hitem := by
    obtain ⟨candidate, hcandidate, rfl⟩ := List.mem_map.mp hitem
    exact List.mem_map_of_mem hcandidate
  numeric item hitem hranked := by
    obtain ⟨candidate, -, rfl⟩ := List.mem_map.mp hitem
    cases hranked

theorem lists_nil (candidates : List (Uuid × Float)) : Lists candidates [] := by
  constructor <;> simp

theorem lists_ranked_iff {candidates : List (Uuid × Float)} {items : List ((Uuid × Float) × Float)}
    (hamong : ∀ item ∈ items, item.1 ∈ candidates) :
    Lists candidates (items.map aiItem) ↔ IsRanking Prod.fst candidates items := by
  constructor
  · intro h
    refine ⟨?_, hamong, fun item hitem => h.numeric (aiItem item) (List.mem_map_of_mem hitem) rfl⟩
    have hdistinct := h.distinct
    rw [List.map_map] at hdistinct
    exact hdistinct
  · intro h
    refine ⟨?_, fun item hitem => ?_, fun item hitem _ => ?_⟩
    · rw [List.map_map]
      exact h.distinct
    · obtain ⟨ranked, hranked, rfl⟩ := List.mem_map.mp hitem
      exact List.mem_map_of_mem (h.among ranked hranked)
    · obtain ⟨ranked, hranked, rfl⟩ := List.mem_map.mp hitem
      exact h.numeric ranked hranked

theorem rows_persist {ranked : List SimilarTicket} (hdistinct : (ranked.map SimilarTicket.ticketId).Nodup)
    (store : SimilarStore) (ticketId : Uuid) :
    ((persistSuggestions ticketId ranked store).suggestions ticketId).rows.Perm (ranked.map stored) := by
  have hkeys : ((ranked.map stored).map Prod.fst).Nodup := by
    rw [List.map_map]
    exact hdistinct
  have hperm := Table.perm_rows_insertAll hkeys ∅ fun row _ => AList.notMem_empty row.1
  rw [List.foldl_map, show (∅ : Table Uuid Suggestion).rows = [] from rfl, List.append_nil] at hperm
  simp only [persistSuggestions, Function.update_self]
  exact hperm

theorem scoredBelow_irrefl {ranked : List SimilarTicket} (hdistinct : (ranked.map SimilarTicket.ticketId).Nodup)
    (row : Uuid × Suggestion) : ¬ ScoredBelow ranked row row := by
  rintro ⟨item, hitem, better, hbetter, hstored, hstored', hlt⟩
  have hids : item.ticketId = better.ticketId := congrArg Prod.fst (hstored.trans hstored'.symm)
  obtain rfl := List.inj_on_of_nodup_map hdistinct hitem hbetter hids
  exact Js.not_lt_self _ hlt

-- A result of distinct tickets is cached faithfully exactly if its scores are apart at the
-- tenth place.
theorem cachedOf_persist_iff {ranked : List SimilarTicket} (hdistinct : (ranked.map SimilarTicket.ticketId).Nodup)
    (store : SimilarStore) (ticketId : Uuid) :
    CachedOf (persistSuggestions ticketId ranked store) ticketId ↔
      ∀ first ∈ ranked.map SimilarTicket.score, ∀ second ∈ ranked.map SimilarTicket.score, first < second →
        ¬ Splits numericScore 10 (ranked.map SimilarTicket.score) first second := by
  have hperm := rows_persist hdistinct store ticketId
  have hnodup : ((persistSuggestions ticketId ranked store).suggestions ticketId).rows.Nodup :=
    (Table.nodup_rows_ids _).of_map
  have hlast : (persistSuggestions ticketId ranked store).lastRanked ticketId = ranked := Function.update_self ..
  unfold CachedOf getCached
  rw [hlast]
  simp only [← bestOf_of_perm hperm]
  rw [bestOf_iff (scoredBelow_irrefl hdistinct) hnodup]
  constructor
  · intro h first hfirst second hsecond hlt hsplits
    obtain ⟨item, hitem, rfl⟩ := List.mem_map.mp hfirst
    obtain ⟨better, hbetter, rfl⟩ := List.mem_map.mp hsecond
    refine h (stored item) (hperm.mem_iff.mpr (List.mem_map_of_mem hitem)) (stored better)
      (hperm.mem_iff.mpr (List.mem_map_of_mem hbetter)) ⟨item, hitem, better, hbetter, rfl, rfl, hlt⟩ ?_
    exact (splits_of_perm hperm).mpr ((splits_map stored).mpr ((splits_map SimilarTicket.score).mp hsplits))
  · rintro h _ - _ - ⟨item, hitem, better, hbetter, rfl, rfl, hlt⟩ hsplits
    refine h item.score (List.mem_map_of_mem hitem) better.score (List.mem_map_of_mem hbetter) hlt ?_
    exact (splits_map SimilarTicket.score).mpr ((splits_map stored).mp ((splits_of_perm hperm).mp hsplits))

theorem answeredBy_iff {client : AiClient} (hclient : call.client = .ok client) {elements : List Value} :
    call.AnsweredBy similarity parseArray elements ↔
      (trgmCandidates similarity call).length ≠ 0 ∧ client.enabled = true ∧
        (∃ source, (call.tickets 2).lookup call.ticketId = some source ∧
          answerOf parseArray client systemPrompt (userPrompt call source (trgmCandidates similarity call)) =
            .ok elements) ∧
        call.persisted = .ok () := by
  constructor
  · rintro ⟨hsome, ⟨other, hother, henabled, hanswer⟩, hpersisted⟩
    obtain rfl := Except.ok.inj (hclient.symm.trans hother)
    exact ⟨hsome, henabled, hanswer, hpersisted⟩
  · rintro ⟨hsome, henabled, hanswer, hpersisted⟩
    exact ⟨hsome, ⟨client, hclient, henabled, hanswer⟩, hpersisted⟩

theorem rerank_eq (parseArray : String → Except String (List Value)) (client : AiClient)
    (candidates : List (Uuid × Float)) {source : Ticket}
    (hsource : (call.tickets 2).lookup call.ticketId = some source) :
    rerank parseArray call client candidates =
      ((answerOf parseArray client systemPrompt (userPrompt call source candidates)).bind
        (rankCandidates candidates)).map (List.map aiItem) := by
  rw [rerank, hsource]
  exact aiRerank_map ..

-- A call that ranks nothing: it returns candidates, if it returns, and stores nothing.
structure Unranked (similarity : String → String → Float) (parseArray : String → Except String (List Value))
    (call : SimilarCall) (store : SimilarStore) : Prop where
  unchanged : (getSimilar similarity parseArray call store).2 = store
  result : ∀ result, (getSimilar similarity parseArray call store).1 = .ok result →
    result = [] ∨ result = trgmResult (trgmCandidates similarity call)
  array : ∀ elements, call.AnsweredBy similarity parseArray elements →
    ¬ Rankable (trgmCandidates similarity call).length elements

-- One that ranks: it returns and stores what it has made of the array, or that nothing is
-- similar any more to a ticket that is gone.
structure Ranked (similarity : String → String → Float) (parseArray : String → Except String (List Value))
    (call : SimilarCall) (store : SimilarStore) (ranked : List SimilarTicket) : Prop where
  outcome : getSimilar similarity parseArray call store =
    (.ok ranked, persistSuggestions call.ticketId ranked store)
  array : (ranked = [] ∧ ∀ elements, ¬ call.AnsweredBy similarity parseArray elements) ∨
    ∃ elements items, call.AnsweredBy similarity parseArray elements ∧
      rankCandidates (trgmCandidates similarity call) elements = .ok items ∧ ranked = items.map aiItem

theorem getSimilar_of_enabled {client : AiClient} (hsome : (trgmCandidates similarity call).length ≠ 0)
    (hclient : call.client = .ok client) (henabled : client.enabled = true) (store : SimilarStore) :
    getSimilar similarity parseArray call store =
      (.ok (rankAndPersist parseArray call client (trgmCandidates similarity call) store).1,
        (rankAndPersist parseArray call client (trgmCandidates similarity call) store).2) := by
  unfold getSimilar
  rw [if_neg hsome, hclient]
  dsimp only
  rw [if_pos henabled]

-- Where the ranking or its transaction fails.
theorem unranked_of_failed {client : AiClient} (hsome : (trgmCandidates similarity call).length ≠ 0)
    (hclient : call.client = .ok client) (henabled : client.enabled = true) (store : SimilarStore)
    (hfailed : (∃ error, rerank parseArray call client (trgmCandidates similarity call) = .error error) ∨
      ∃ error, call.persisted = .error error)
    (harray : ∀ elements, call.AnsweredBy similarity parseArray elements →
      ¬ Rankable (trgmCandidates similarity call).length elements) :
    Unranked similarity parseArray call store := by
  have houtcome : rankAndPersist parseArray call client (trgmCandidates similarity call) store =
      (trgmResult (trgmCandidates similarity call), store) := by
    unfold rankAndPersist
    rcases hfailed with ⟨error, hrerank⟩ | ⟨error, hpersisted⟩
    · rw [hrerank]
    · rw [hpersisted]
      cases rerank parseArray call client (trgmCandidates similarity call) with
      | error error => rfl
      | ok ranked => rfl
  have heq : getSimilar similarity parseArray call store = _ := getSimilar_of_enabled hsome hclient henabled store
  rw [houtcome] at heq
  refine ⟨congrArg Prod.snd heq, fun result h => ?_, harray⟩
  rw [heq] at h
  exact .inr (Except.ok.inj h).symm

theorem ranked_of_persisted {client : AiClient} (hsome : (trgmCandidates similarity call).length ≠ 0)
    (hclient : call.client = .ok client) (henabled : client.enabled = true) (store : SimilarStore)
    {ranked : List SimilarTicket}
    (hrerank : rerank parseArray call client (trgmCandidates similarity call) = .ok ranked)
    (hpersisted : call.persisted = .ok ()) :
    getSimilar similarity parseArray call store = (.ok ranked, persistSuggestions call.ticketId ranked store) := by
  rw [getSimilar_of_enabled hsome hclient henabled, rankAndPersist, hrerank, hpersisted]

theorem cases_of_enabled {client : AiClient} (hsome : (trgmCandidates similarity call).length ≠ 0)
    (hclient : call.client = .ok client) (henabled : client.enabled = true) (store : SimilarStore) :
    Unranked similarity parseArray call store ∨ ∃ ranked, Ranked similarity parseArray call store ranked := by
  cases hpersisted : call.persisted with
  | error error =>
      refine .inl (unranked_of_failed hsome hclient henabled store (.inr ⟨error, hpersisted⟩) fun elements h => ?_)
      have hok := h.persisted
      rw [hpersisted] at hok
      cases hok
  | ok =>
      cases hsource : (call.tickets 2).lookup call.ticketId with
      | none =>
          have hrerank : rerank parseArray call client (trgmCandidates similarity call) = .ok [] := by
            rw [rerank, hsource]
          refine .inr ⟨[], ranked_of_persisted hsome hclient henabled store hrerank hpersisted,
            .inl ⟨rfl, fun elements h => ?_⟩⟩
          obtain ⟨source, hlookup, -⟩ := ((answeredBy_iff hclient).mp h).2.2.1
          rw [hsource] at hlookup
          cases hlookup
      | some source =>
          have hrerank := rerank_eq parseArray client (trgmCandidates similarity call) hsource
          cases hanswer : answerOf parseArray client systemPrompt
              (userPrompt call source (trgmCandidates similarity call)) with
          | error error =>
              rw [hanswer] at hrerank
              refine .inl (unranked_of_failed hsome hclient henabled store (.inl ⟨error, hrerank⟩) fun elements h => ?_)
              obtain ⟨other, hlookup, hok⟩ := ((answeredBy_iff hclient).mp h).2.2.1
              obtain rfl := Option.some.inj (hsource.symm.trans hlookup)
              rw [hanswer] at hok
              cases hok
          | ok elements =>
              rw [hanswer] at hrerank
              cases hrank : rankCandidates (trgmCandidates similarity call) elements with
              | error error =>
                  have hfailed : rerank parseArray call client (trgmCandidates similarity call) = .error error := by
                    rw [hrerank, Except.bind, hrank]
                    rfl
                  refine .inl (unranked_of_failed hsome hclient henabled store (.inl ⟨error, hfailed⟩) ?_)
                  intro other h hrankable
                  obtain ⟨_, hlookup, hok⟩ := ((answeredBy_iff hclient).mp h).2.2.1
                  obtain rfl := Option.some.inj (hsource.symm.trans hlookup)
                  obtain rfl := Except.ok.inj (hanswer.symm.trans hok)
                  obtain ⟨items, hitems⟩ := rankCandidates_isOk_iff.mpr hrankable
                  rw [hrank] at hitems
                  cases hitems
              | ok items =>
                  have hranked : rerank parseArray call client (trgmCandidates similarity call) =
                      .ok (items.map aiItem) := by
                    rw [hrerank, Except.bind, hrank]
                    rfl
                  exact .inr ⟨_, ranked_of_persisted hsome hclient henabled store hranked hpersisted,
                    .inr ⟨elements, items, (answeredBy_iff hclient).mpr
                      ⟨hsome, henabled, ⟨source, hsource, hanswer⟩, hpersisted⟩, hrank, rfl⟩⟩

theorem getSimilar_cases (similarity : String → String → Float) (parseArray : String → Except String (List Value))
    (call : SimilarCall) (store : SimilarStore) :
    Unranked similarity parseArray call store ∨ ∃ ranked, Ranked similarity parseArray call store ranked := by
  by_cases hempty : (trgmCandidates similarity call).length = 0
  · have heq : getSimilar similarity parseArray call store = (.ok [], store) := if_pos hempty
    refine .inl ⟨congrArg Prod.snd heq, fun result h => ?_, fun _ h => absurd hempty h.candidates⟩
    rw [heq] at h
    exact .inl (Except.ok.inj h).symm
  cases hclient : call.client with
  | error error =>
      have heq : getSimilar similarity parseArray call store = (.error error, store) := by
        unfold getSimilar
        rw [if_neg hempty, hclient]
      refine .inl ⟨congrArg Prod.snd heq, fun result h => ?_, fun elements h => ?_⟩
      · rw [heq] at h
        cases h
      · obtain ⟨client, hok, -⟩ := h.answer
        rw [hclient] at hok
        cases hok
  | ok client =>
      by_cases henabled : client.enabled = true
      swap
      · have heq : getSimilar similarity parseArray call store =
            (.ok (trgmResult (trgmCandidates similarity call)), store) := by
          unfold getSimilar
          rw [if_neg hempty, hclient]
          exact if_neg henabled
        refine .inl ⟨congrArg Prod.snd heq, fun result h => ?_, fun elements h => ?_⟩
        · rw [heq] at h
          exact .inr (Except.ok.inj h).symm
        · exact absurd ((answeredBy_iff hclient).mp h).2.1 henabled
      exact cases_of_enabled hempty hclient henabled store

theorem answeredBy_unique {elements other : List Value} (h : call.AnsweredBy similarity parseArray elements)
    (hother : call.AnsweredBy similarity parseArray other) : other = elements := by
  obtain ⟨client, hclient, -, source, hsource, hanswer⟩ := h.answer
  obtain ⟨_, hlookup, hok⟩ := ((answeredBy_iff hclient).mp hother).2.2.1
  obtain rfl := Option.some.inj (hsource.symm.trans hlookup)
  exact (Except.ok.inj (hanswer.symm.trans hok)).symm

theorem Unranked.answers (h : Unranked similarity parseArray call store) (hcached : CachedOf store call.ticketId) :
    Answers similarity parseArray store call where
  lists result hresult := by
    rcases h.result result hresult with rfl | rfl
    · exact lists_nil _
    · exact lists_trgmResult (nodup_trgmCandidates similarity call)
  cached := by
    rw [h.unchanged]
    exact hcached

theorem Ranked.answers_iff {ranked : List SimilarTicket} (h : Ranked similarity parseArray call store ranked) :
    Answers similarity parseArray store call ↔ Lists (trgmCandidates similarity call) ranked ∧
      CachedOf (persistSuggestions call.ticketId ranked store) call.ticketId := by
  constructor
  · intro hanswers
    have hcached := hanswers.cached
    rw [h.outcome] at hcached
    exact ⟨hanswers.lists ranked (by rw [h.outcome]), hcached⟩
  · rintro ⟨hlists, hcached⟩
    refine ⟨fun result hresult => ?_, ?_⟩
    · rw [h.outcome] at hresult
      exact Except.ok.inj hresult ▸ hlists
    · rw [h.outcome]
      exact hcached

theorem cachedOf_nil (store : SimilarStore) (ticketId : Uuid) :
    CachedOf (persistSuggestions ticketId [] store) ticketId :=
  (@cachedOf_persist_iff [] List.nodup_nil store ticketId).mpr fun _ h => absurd h List.not_mem_nil

-- A call answers as it should exactly if the array it is answered by is clean.
theorem answers_iff (hcached : CachedOf store call.ticketId) :
    Answers similarity parseArray store call ↔ call.CleanlyAnswered similarity parseArray := by
  rcases getSimilar_cases similarity parseArray call store with hunranked | ⟨ranked, hranked⟩
  · exact iff_of_true (hunranked.answers hcached) fun elements h hrankable =>
      absurd hrankable (hunranked.array elements h)
  rw [hranked.answers_iff]
  rcases hranked.array with ⟨rfl, hnever⟩ | ⟨elements, items, hanswered, hrank, rfl⟩
  · exact iff_of_true ⟨lists_nil _, cachedOf_nil store call.ticketId⟩ fun elements h => absurd h (hnever elements)
  have hclean := isRanking_iff (nodup_trgmCandidates similarity call) hrank
  have hlists := (lists_ranked_iff (candidates_of_rank hrank)).trans hclean
  have hcut : Lists (trgmCandidates similarity call) (items.map aiItem) →
      (CachedOf (persistSuggestions call.ticketId (items.map aiItem) store) call.ticketId ↔
        CutApart (trgmCandidates similarity call).length elements) := by
    intro h
    rw [cachedOf_persist_iff h.distinct, List.map_map, CutApart, ← map_snd_ranked hrank]
    rfl
  constructor
  · rintro ⟨hlisted, hstored⟩ other hother -
    obtain rfl := answeredBy_unique hanswered hother
    exact ⟨hlists.mp hlisted, (hcut hlisted).mp hstored⟩
  · intro h
    obtain ⟨hclean, hapart⟩ := h elements hanswered (rankCandidates_isOk_iff.mp ⟨items, hrank⟩)
    exact ⟨hlists.mpr hclean, (hcut (hlists.mpr hclean)).mpr hapart⟩

end Calls

def SimilarStore.step (similarity : String → String → Float) (parseArray : String → Except String (List Value))
    (store : SimilarStore) (call : SimilarCall) : SimilarStore :=
  (getSimilar similarity parseArray call store).2

-- What is cached of the other tickets stays.
theorem cachedOf_step {similarity : String → String → Float} {parseArray : String → Except String (List Value)}
    {store : SimilarStore} {call : SimilarCall} (hcached : ∀ ticketId, CachedOf store ticketId)
    (hclean : call.CleanlyAnswered similarity parseArray) (ticketId : Uuid) :
    CachedOf (store.step similarity parseArray call) ticketId := by
  by_cases hsame : ticketId = call.ticketId
  · rw [hsame]
    exact ((answers_iff (hcached call.ticketId)).mpr hclean).cached
  · unfold SimilarStore.step
    rcases getSimilar_cases similarity parseArray call store with hunranked | ⟨ranked, hranked⟩
    · rw [hunranked.unchanged]
      exact hcached ticketId
    · have hother := hcached ticketId
      unfold CachedOf getCached at hother ⊢
      rw [hranked.outcome]
      simp only [persistSuggestions, Function.update_of_ne hsame]
      exact hother

theorem cachedOf_empty (ticketId : Uuid) : CachedOf .empty ticketId := by
  intro order
  have hnone : getCached order .empty ticketId = [] := by
    have hlength := (order.perm []).length_eq
    rw [getCached, topRows]
    change (((order.apply []).insertionSort _).take 10) = []
    rw [List.length_eq_zero_iff.mp hlength]
    rfl
  rw [hnone]
  exact ⟨[], List.Perm.refl _, rfl, by simp⟩

theorem calls_answer_iff (similarity : String → String → Float) (parseArray : String → Except String (List Value))
    (calls : List SimilarCall) :
    Runs.AllSteps (SimilarStore.step similarity parseArray) (Answers similarity parseArray) .empty calls ↔
      ∀ call ∈ calls, call.CleanlyAnswered similarity parseArray := by
  have hiff : Runs.AllSteps (SimilarStore.step similarity parseArray) (Answers similarity parseArray) .empty calls ↔
      Runs.AllSteps (SimilarStore.step similarity parseArray)
        (fun _ call => call.CleanlyAnswered similarity parseArray) .empty calls := by
    apply @Runs.allSteps_iff_allSteps _ _ _ (fun store => ∀ ticketId, CachedOf store ticketId)
    · exact cachedOf_empty
    · intro store call hcached hclean
      exact cachedOf_step hcached hclean
    · intro store call hcached
      exact answers_iff (hcached call.ticketId)
  exact hiff.trans Runs.allSteps_iff_forall_mem

end TicketSimilar

end CloudOps.Ticketing
