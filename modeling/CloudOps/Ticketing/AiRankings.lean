import CloudOps.Ticketing.KbSearch
import CloudOps.Ticketing.TicketSimilar

namespace CloudOps.Ticketing

open CloudOps.Js (Value)
open CloudOps.ReadCommitted (Table ScanOrder)

-- Both services return rankings of their candidates, and the similar tickets are cached
-- as they were last ranked, exactly where the arrays they are answered by are clean.
theorem rankings_iff (similarity : String → String → Float) (resembles : String → String → Bool)
    (parseArray : String → Except String (List Value)) (calls : List TicketSimilar.SimilarCall)
    (search : KbSearch.SearchCall) :
    (Runs.AllSteps (TicketSimilar.SimilarStore.step similarity parseArray)
        (TicketSimilar.Answers similarity parseArray) .empty calls ↔
      ∀ call ∈ calls, call.CleanlyAnswered similarity parseArray) ∧
    ((∀ hits, KbSearch.searchPublished similarity resembles parseArray search = .ok hits →
        KbSearch.Lists (KbSearch.trgmCandidates similarity resembles search) search.topN hits) ↔
      search.CleanlyAnswered similarity resembles parseArray) :=
  ⟨TicketSimilar.calls_answer_iff similarity parseArray calls,
    KbSearch.search_lists_iff similarity resembles parseArray search⟩

-- A ticket on a printer, and one that was closed.
def printerTicket (status : TicketStatus) : Ticket where
  ticketNumber := 1
  subject := "Printer offline"
  contactId := 1
  ticketTypeId := none
  status := status
  priority := .medium
  groupId := none
  agentId := none
  resourceId := none
  source := .email
  sourceDetail := none
  platform := none
  tags := []
  customFields := []
  requiredSkill := none
  slaPolicyId := none
  firstResponseDueAt := none
  firstResponseAt := none
  firstResponseOverdueNotifiedAt := none
  resolutionDueAt := none
  resolvedAt := none
  resolutionOverdueNotifiedAt := none
  mergedIntoId := none
  createdAt := 0
  updatedAt := 0

def namedTwice : String := "[\x7b\"index\":0,\"score\":0.9\x7d,\x7b\"index\":0,\"score\":0.2\x7d]"

def parseNamedTwice (text : String) : Except String (List Value) :=
  if text = namedTwice then
    .ok [.object [("index", .number 0), ("score", .number 0.9)], .object [("index", .number 0), ("score", .number 0.2)]]
  else .error "Unexpected token in JSON"

-- The model names the one candidate twice.
def printerCall : TicketSimilar.SimilarCall where
  ticketId := 1
  tickets _ := ((∅ : Table Uuid Ticket).insert 1 (printerTicket .opened)).insert 2 (printerTicket .closed)
  scan _ := .stored _
  client := .ok ⟨true, fun _ _ => .ok namedTwice⟩
  persisted := .ok ()

theorem named_twice_listed_twice :
    ¬ ∀ similarity parseArray calls, Runs.AllSteps (TicketSimilar.SimilarStore.step similarity parseArray)
      (TicketSimilar.Answers similarity parseArray) .empty calls := by
  intro h
  have hanswers := (h (fun _ _ => 1) parseNamedTwice [printerCall]).1
  have hids : (TicketSimilar.getSimilar (fun _ _ => 1) parseNamedTwice printerCall .empty).1.map
      (List.map TicketSimilar.SimilarTicket.ticketId) = .ok [2, 2] := by decide +kernel
  cases hresult : (TicketSimilar.getSimilar (fun _ _ => 1) parseNamedTwice printerCall .empty).1 with
  | error error =>
      rw [hresult] at hids
      cases hids
  | ok result =>
      rw [hresult] at hids
      have hdistinct := (hanswers.lists result hresult).distinct
      rw [Except.ok.inj hids] at hdistinct
      exact absurd hdistinct (by decide)

end CloudOps.Ticketing
