import CloudOps.ReadCommitted.Table
import CloudOps.ServiceError
import CloudOps.Ticketing.AiRerank
import CloudOps.Ticketing.TicketTriage

namespace CloudOps.Ticketing

open CloudOps.Js (Value)
open CloudOps.ReadCommitted (Table ScanOrder)

namespace KbSearch

def CANDIDATE_LIMIT : Nat := 12
def DEFAULT_TOP_N : Nat := 3

inductive KbStatus where
  | draft
  | published
  | archived
  deriving DecidableEq

structure KbArticle where
  title : String
  bodyMd : String
  status : KbStatus

structure KbCandidate where
  id : Uuid
  title : String
  bodyMd : String
  sim : Float

structure KbSearchHit where
  id : Uuid
  title : String
  score : Float
  aiRanked : Bool
  snippet : String

-- replace(/<[^>]*>/g, ''): from each opening bracket to the next closing one, if there is
-- one. Whether the text begins inside a tag comes first.
def stripTags : Bool → List Char → List Char
  | _, [] => []
  | true, c :: rest => stripTags (c ≠ '>') rest
  | false, c :: rest => if c = '<' ∧ '>' ∈ rest then stripTags true rest else c :: stripTags false rest

-- Nothing that a renderer could take for markup.
def snippet (bodyMd : String) : String :=
  let text := (stripTags false bodyMd.toList).filter fun c => !(['#', '*', '\x60', '>'].contains c)
  .ofList (Js.trimmed (sliceUnits 200 text))

example : snippet "# <b>Reset</b> the *password* <" = "Reset the password <" := by decide +kernel

-- A call of searchPublished: the committed articles its query finds and the order it reads
-- them in, and the client that is resolved.
structure SearchCall where
  query : Option String
  topN : Nat := DEFAULT_TOP_N
  useAi : Bool
  articles : Table Uuid KbArticle
  scan : ScanOrder (Uuid × KbArticle)
  client : Except ServiceError AiClient

section Service

-- pg_trgm's similarity of two texts, whether it is above the operator's threshold, and
-- JSON.parse.
variable (similarity : String → String → Float) (resembles : String → String → Bool)
  (parseArray : String → Except String (List Value)) (call : SearchCall)

def SearchCall.q : String := .ofList (Js.trimmed (call.query.getD "").toList)

-- GREATEST(similarity(title, $1), similarity(body_md, $1))
def sim (query : String) (article : KbArticle) : Float :=
  let ofTitle := similarity article.title query
  let ofBody := similarity article.bodyMd query
  if ofTitle < ofBody then ofBody else ofTitle

def trgmCandidates : List KbCandidate :=
  let rows := call.scan.apply (call.articles.rows.filter fun row =>
    row.2.status == .published && (resembles row.2.title call.q || resembles row.2.bodyMd call.q))
  let nearest := rows.insertionSort fun first second => sim similarity call.q second.2 ≤ sim similarity call.q first.2
  (nearest.take CANDIDATE_LIMIT).map fun row => ⟨row.1, row.2.title, row.2.bodyMd, sim similarity call.q row.2⟩

def systemPrompt : String :=
  "You match a user question to the most relevant knowledge-base articles. " ++
  "Given the question and a numbered list of article titles, output ONLY a JSON " ++
  "array of objects [\x7b\"index\":0,\"score\":0.0-1.0\x7d], most relevant first, omitting " ++
  "articles that are not genuinely relevant. Output JSON only."

def userPrompt (query : String) (candidates : List KbCandidate) : String :=
  let list := "\n".intercalate (candidates.mapIdx fun i c =>
    let title := c.title
    s!"{i}: {title}")
  s!"Question: {query}\n\nArticles:\n{list}"

def hit (aiRanked : Bool) (item : KbCandidate × Float) : KbSearchHit where
  id := item.1.id
  title := item.1.title
  score := item.2
  aiRanked := aiRanked
  snippet := snippet item.1.bodyMd

def rerank (client : AiClient) (query : String) (candidates : List KbCandidate) :
    Except String (List KbSearchHit) := do
  let items ← aiRerank parseArray client systemPrompt (userPrompt query candidates) candidates
  return items.map (hit true)

def trgmHits (topN : Nat) (candidates : List KbCandidate) : List KbSearchHit :=
  (candidates.take topN).map fun c => hit false (c, c.sim)

-- What fails in the ranking is caught.
def searchPublished : Except ServiceError (List KbSearchHit) :=
  if call.q.length = 0 then .ok []
  else
    let candidates := trgmCandidates similarity resembles call
    if candidates.length = 0 then .ok []
    else if call.useAi then
      match call.client with
      | .error error => .error error
      | .ok client =>
          if client.enabled then
            match rerank parseArray client call.q candidates with
            | .ok ranked => .ok (ranked.take call.topN)
            | .error _ => .ok (trgmHits call.topN candidates)
          else .ok (trgmHits call.topN candidates)
    else .ok (trgmHits call.topN candidates)

-- Distinct candidates, no more than were asked for, each with a number in the unit
-- interval if the AI has ranked it.
structure Lists (candidates : List KbCandidate) (topN : Nat) (hits : List KbSearchHit) : Prop where
  distinct : (hits.map KbSearchHit.id).Nodup
  among : ∀ found ∈ hits, ∃ candidate ∈ candidates, ∃ score, found = hit found.aiRanked (candidate, score)
  atMost : hits.length ≤ topN
  numeric : ∀ found ∈ hits, found.aiRanked = true → 0 ≤ found.score ∧ found.score ≤ 1

-- The call comes to the ranking and is answered by the array.
structure SearchCall.AnsweredBy (elements : List Value) : Prop where
  query : call.q.length ≠ 0
  candidates : (trgmCandidates similarity resembles call).length ≠ 0
  useAi : call.useAi = true
  answer : ∃ client, call.client = .ok client ∧ client.enabled = true ∧
    answerOf parseArray client systemPrompt (userPrompt call.q (trgmCandidates similarity resembles call)) =
      .ok elements

-- If it can be ranked, the array is clean as far as it is shown.
def SearchCall.CleanlyAnswered : Prop :=
  ∀ elements, call.AnsweredBy similarity resembles parseArray elements →
    Rankable (trgmCandidates similarity resembles call).length elements →
    Clean (trgmCandidates similarity resembles call).length
      ((elements.filter (isNamed (trgmCandidates similarity resembles call).length)).take call.topN)

end Service

section Search

variable {similarity : String → String → Float} {resembles : String → String → Bool}
  {parseArray : String → Except String (List Value)} {call : SearchCall} {candidates : List KbCandidate}

theorem nodup_trgmCandidates (similarity : String → String → Float) (resembles : String → String → Bool)
    (call : SearchCall) : ((trgmCandidates similarity resembles call).map KbCandidate.id).Nodup := by
  unfold trgmCandidates
  rw [List.map_map]
  apply Table.nodup_selected_ids

theorem lists_nil (candidates : List KbCandidate) (topN : Nat) : Lists candidates topN [] := by
  constructor <;> simp

theorem lists_trgmHits (h : (candidates.map KbCandidate.id).Nodup) (topN : Nat) :
    Lists candidates topN (trgmHits topN candidates) where
  distinct := by
    rw [trgmHits, List.map_map]
    exact h.sublist ((List.take_sublist topN candidates).map _)
  among found hfound := by
    obtain ⟨candidate, hcandidate, rfl⟩ := List.mem_map.mp hfound
    exact ⟨candidate, List.mem_of_mem_take hcandidate, candidate.sim, rfl⟩
  atMost := by
    rw [trgmHits, List.length_map]
    exact List.length_take_le topN candidates
  numeric found hfound hranked := by
    obtain ⟨candidate, -, rfl⟩ := List.mem_map.mp hfound
    cases hranked

theorem lists_ranked_iff {items : List (KbCandidate × Float)} (hamong : ∀ item ∈ items, item.1 ∈ candidates)
    {topN : Nat} (hlength : items.length ≤ topN) :
    Lists candidates topN (items.map (hit true)) ↔ IsRanking KbCandidate.id candidates items := by
  constructor
  · intro h
    refine ⟨?_, hamong, fun item hitem => h.numeric (hit true item) (List.mem_map_of_mem hitem) rfl⟩
    have hdistinct := h.distinct
    rw [List.map_map] at hdistinct
    exact hdistinct
  · intro h
    refine ⟨?_, fun found hfound => ?_, by rwa [List.length_map], fun found hfound _ => ?_⟩
    · rw [List.map_map]
      exact h.distinct
    · obtain ⟨item, hitem, rfl⟩ := List.mem_map.mp hfound
      exact ⟨item.1, hamong item hitem, item.2, rfl⟩
    · obtain ⟨item, hitem, rfl⟩ := List.mem_map.mp hfound
      exact h.numeric item hitem

theorem rerank_eq (parseArray : String → Except String (List Value)) (client : AiClient) (query : String)
    (candidates : List KbCandidate) : rerank parseArray client query candidates =
      ((answerOf parseArray client systemPrompt (userPrompt query candidates)).bind (rankCandidates candidates)).map
        (List.map (hit true)) :=
  aiRerank_map ..

theorem answeredBy_iff {client : AiClient} (hquery : call.q.length ≠ 0)
    (hsome : (trgmCandidates similarity resembles call).length ≠ 0) (huse : call.useAi = true)
    (hclient : call.client = .ok client) (henabled : client.enabled = true) {elements : List Value} :
    call.AnsweredBy similarity resembles parseArray elements ↔
      answerOf parseArray client systemPrompt (userPrompt call.q (trgmCandidates similarity resembles call)) =
        .ok elements := by
  constructor
  · intro h
    obtain ⟨other, hother, -, hanswer⟩ := h.answer
    obtain rfl := Except.ok.inj (hclient.symm.trans hother)
    exact hanswer
  · exact fun hanswer => ⟨hquery, hsome, huse, client, hclient, henabled, hanswer⟩

-- The hits of a search that comes to the ranking.
theorem ranked_lists_iff {client : AiClient} (hquery : call.q.length ≠ 0)
    (hsome : (trgmCandidates similarity resembles call).length ≠ 0) (huse : call.useAi = true)
    (hclient : call.client = .ok client) (henabled : client.enabled = true) :
    (∀ hits, searchPublished similarity resembles parseArray call = .ok hits →
        Lists (trgmCandidates similarity resembles call) call.topN hits) ↔
      call.CleanlyAnswered similarity resembles parseArray := by
  have hnodup := nodup_trgmCandidates similarity resembles call
  have hiff : ∀ elements, call.AnsweredBy similarity resembles parseArray elements ↔ _ := fun elements =>
    answeredBy_iff hquery hsome huse hclient henabled
  unfold searchPublished SearchCall.CleanlyAnswered
  rw [if_neg hquery, if_neg hsome, if_pos huse, hclient]
  dsimp only
  rw [if_pos henabled, rerank_eq]
  cases hanswer : answerOf parseArray client systemPrompt
      (userPrompt call.q (trgmCandidates similarity resembles call)) with
  | error error =>
      refine iff_of_true (fun hits h => ?_) fun elements h => ?_
      · exact Except.ok.inj h ▸ lists_trgmHits hnodup call.topN
      · have hok := (hiff elements).mp h
        rw [hanswer] at hok
        cases hok
  | ok elements =>
      have honly : call.AnsweredBy similarity resembles parseArray elements := (hiff elements).mpr hanswer
      have hsame : ∀ other, call.AnsweredBy similarity resembles parseArray other → other = elements :=
        fun other h => (Except.ok.inj (hanswer.symm.trans ((hiff other).mp h))).symm
      rw [Except.bind]
      cases hrank : rankCandidates (trgmCandidates similarity resembles call) elements with
      | error error =>
          refine iff_of_true (fun hits h => ?_) fun other h hrankable => ?_
          · exact Except.ok.inj h ▸ lists_trgmHits hnodup call.topN
          · rw [hsame other h] at hrankable
            obtain ⟨items, hok⟩ := rankCandidates_isOk_iff.mpr hrankable
            rw [hrank] at hok
            cases hok
      | ok items =>
          have htaken := rankCandidates_take hrank call.topN
          have hclean := isRanking_iff hnodup htaken
          have hlists := lists_ranked_iff (candidates_of_rank htaken) (List.length_take_le call.topN items)
          have hhits : (items.map (hit true)).take call.topN = (items.take call.topN).map (hit true) :=
            (List.map_take).symm
          constructor
          · intro h other hother _
            rw [hsame other hother]
            exact hclean.mp (hlists.mp (hhits ▸ h _ rfl))
          · intro h hits hhit
            obtain rfl := Except.ok.inj hhit
            rw [hhits]
            exact hlists.mpr (hclean.mpr (h elements honly (rankCandidates_isOk_iff.mp ⟨items, hrank⟩)))

-- A search that ranks nothing: it finds candidates, if it returns.
theorem lists_iff_of_unranked
    (hresult : ∀ hits, searchPublished similarity resembles parseArray call = .ok hits →
      hits = [] ∨ hits = trgmHits call.topN (trgmCandidates similarity resembles call))
    (harray : ∀ elements, ¬ call.AnsweredBy similarity resembles parseArray elements) :
    (∀ hits, searchPublished similarity resembles parseArray call = .ok hits →
        Lists (trgmCandidates similarity resembles call) call.topN hits) ↔
      call.CleanlyAnswered similarity resembles parseArray := by
  refine iff_of_true (fun hits h => ?_) fun elements h => absurd h (harray elements)
  rcases hresult hits h with rfl | rfl
  · exact lists_nil _ _
  · exact lists_trgmHits (nodup_trgmCandidates similarity resembles call) call.topN

-- What a search finds is a ranking of candidates exactly if the array it is answered by is
-- clean as far as it is shown.
theorem search_lists_iff (similarity : String → String → Float) (resembles : String → String → Bool)
    (parseArray : String → Except String (List Value)) (call : SearchCall) :
    (∀ hits, searchPublished similarity resembles parseArray call = .ok hits →
        Lists (trgmCandidates similarity resembles call) call.topN hits) ↔
      call.CleanlyAnswered similarity resembles parseArray := by
  by_cases hquery : call.q.length = 0
  · refine lists_iff_of_unranked (fun hits h => ?_) fun _ h => absurd hquery h.query
    unfold searchPublished at h
    rw [if_pos hquery] at h
    exact .inl (Except.ok.inj h).symm
  by_cases hempty : (trgmCandidates similarity resembles call).length = 0
  · refine lists_iff_of_unranked (fun hits h => ?_) fun _ h => absurd hempty h.candidates
    unfold searchPublished at h
    rw [if_neg hquery, if_pos hempty] at h
    exact .inl (Except.ok.inj h).symm
  by_cases huse : call.useAi = true
  swap
  · refine lists_iff_of_unranked (fun hits h => ?_) fun _ h => absurd h.useAi huse
    unfold searchPublished at h
    rw [if_neg hquery, if_neg hempty, if_neg huse] at h
    exact .inr (Except.ok.inj h).symm
  cases hclient : call.client with
  | error error =>
      refine lists_iff_of_unranked (fun hits h => ?_) fun elements h => ?_
      · unfold searchPublished at h
        rw [if_neg hquery, if_neg hempty, if_pos huse, hclient] at h
        cases h
      · obtain ⟨client, hok, -⟩ := h.answer
        rw [hclient] at hok
        cases hok
  | ok client =>
      by_cases henabled : client.enabled = true
      · exact ranked_lists_iff hquery hempty huse hclient henabled
      · refine lists_iff_of_unranked (fun hits h => ?_) fun elements h => ?_
        · unfold searchPublished at h
          rw [if_neg hquery, if_neg hempty, if_pos huse, hclient] at h
          dsimp only at h
          rw [if_neg henabled] at h
          exact .inr (Except.ok.inj h).symm
        · obtain ⟨other, hok, hother, -⟩ := h.answer
          obtain rfl := Except.ok.inj (hclient.symm.trans hok)
          exact absurd hother henabled

end Search

end KbSearch

end CloudOps.Ticketing
