import CloudOps.Js.Number
import CloudOps.Js.Value
import CloudOps.Transaction

namespace CloudOps.Ticketing

open CloudOps.Js (Value property notANumber natValue clampUnit)

-- The AI client that is used: whether it is configured, and its answer to two prompts.
structure AiClient where
  enabled : Bool
  complete : String → String → Except String String

-- raw.match(/\[[\s\S]*\]/): from the first opening bracket to the last closing one.
def bracketedPart (raw : String) : Option String :=
  let fromBracket := raw.toList.dropWhile fun c => c ≠ '['
  let backFromBracket := fromBracket.reverse.dropWhile fun c => c ≠ ']'
  if backFromBracket.isEmpty then none else some (.ofList backFromBracket.reverse)

-- r.index, where Number.isInteger has it and it is one of the candidates'.
def indexIn (count : Nat) : Value → Option Nat
  | .object properties =>
      match property properties "index" with
      | some (.number index) => (natValue index).filter fun index => index < count
      | _ => none
  | _ => none

-- Number(r.score)
def scoreOf : Value → Except String Float
  | .object properties =>
      match property properties "score" with
      | some score => score.toNumber
      | none => .ok notANumber
  | _ => .ok notANumber

-- The elements that name a candidate, with the candidate.
def namedCandidates {γ : Type} (candidates : List γ) (elements : List Value) : List (γ × Value) :=
  elements.filterMap fun element => (indexIn candidates.length element).bind fun index =>
    (candidates[index]?).map fun candidate => (candidate, element)

-- The array as a ranking. null has no property to read.
def rankCandidates {γ : Type} (candidates : List γ) (elements : List Value) : Except String (List (γ × Float)) :=
  if elements.any Value.isNull then .error "Cannot read properties of null (reading 'index')"
  else (namedCandidates candidates elements).mapM fun item => do return (item.1, clampUnit (← scoreOf item.2))

-- `parseArray` is JSON.parse of a text in brackets.
variable (parseArray : String → Except String (List Value))

-- The array the model answers the prompts with.
def answerOf (client : AiClient) (system user : String) : Except String (List Value) := do
  match bracketedPart (← client.complete system user) with
  | none => .error "AI returned no JSON array"
  | some json => parseArray json

-- The end of both services' aiRerank.
def aiRerank {γ : Type} (client : AiClient) (system user : String) (candidates : List γ) :
    Except String (List (γ × Float)) := do
  rankCandidates candidates (← answerOf parseArray client system user)

-- No element is null, and the score of one that names a candidate can be converted.
structure Rankable (count : Nat) (elements : List Value) : Prop where
  notNull : elements.any Value.isNull = false
  convertible : ∀ element ∈ elements, (indexIn count element).isSome → ∃ score, scoreOf element = .ok score

-- No candidate is named twice, and every score that counts is a number.
structure Clean (count : Nat) (elements : List Value) : Prop where
  distinct : (elements.filterMap (indexIn count)).Nodup
  numeric : ∀ element ∈ elements, (indexIn count element).isSome → ∀ score, scoreOf element = .ok score →
    score.isNaN = false

def isNamed (count : Nat) (element : Value) : Bool := (indexIn count element).isSome

-- The scores that count.
def scoresOf (count : Nat) (elements : List Value) : List Float :=
  (elements.filter (isNamed count)).filterMap fun element => (scoreOf element).toOption.map clampUnit

-- What a ranking of candidates is.
structure IsRanking {γ κ : Type} (key : γ → κ) (candidates : List γ) (items : List (γ × Float)) : Prop where
  distinct : (items.map fun item => key item.1).Nodup
  among : ∀ item ∈ items, item.1 ∈ candidates
  numeric : ∀ item ∈ items, 0 ≤ item.2 ∧ item.2 ≤ 1

section Ranking

variable {γ κ : Type} {key : γ → κ} {candidates : List γ} {elements : List Value} {items : List (γ × Float)}

theorem indexIn_lt {count index : Nat} {element : Value} (h : indexIn count element = some index) :
    index < count := by
  cases element with
  | object properties =>
      rw [indexIn] at h
      split at h
      · exact of_decide_eq_true (Option.filter_eq_some_iff.mp h).2
      · cases h
  | null | boolean | number | string | array | builtIn => cases h

theorem namedCandidates_cons_none {element : Value} (h : indexIn candidates.length element = none) :
    namedCandidates candidates (element :: elements) = namedCandidates candidates elements := by
  rw [namedCandidates, List.filterMap_cons, h]
  rfl

theorem namedCandidates_cons_some {element : Value} {index : Nat} {candidate : γ}
    (h : indexIn candidates.length element = some index) (hcandidate : candidates[index]? = some candidate) :
    namedCandidates candidates (element :: elements) =
      (candidate, element) :: namedCandidates candidates elements := by
  rw [namedCandidates, List.filterMap_cons, h, Option.bind_some, hcandidate]
  rfl

theorem exists_candidate (candidates : List γ) {index : Nat} {element : Value}
    (h : indexIn candidates.length element = some index) : ∃ candidate, candidates[index]? = some candidate :=
  ⟨_, List.getElem?_eq_getElem (indexIn_lt h)⟩

theorem mem_namedCandidates {item : γ × Value} (h : item ∈ namedCandidates candidates elements) :
    item.1 ∈ candidates ∧ item.2 ∈ elements ∧ (indexIn candidates.length item.2).isSome := by
  obtain ⟨element, helement, hnamed⟩ := List.mem_filterMap.mp h
  obtain ⟨index, hindex, hcandidate⟩ := Option.bind_eq_some_iff.mp hnamed
  obtain ⟨candidate, hget, rfl⟩ := Option.map_eq_some_iff.mp hcandidate
  exact ⟨List.mem_of_getElem? hget, helement, Option.isSome_of_eq_some hindex⟩

theorem exists_named {element : Value} (h : element ∈ elements) (hsome : (indexIn candidates.length element).isSome) :
    ∃ candidate, (candidate, element) ∈ namedCandidates candidates elements := by
  obtain ⟨index, hindex⟩ := Option.isSome_iff_exists.mp hsome
  obtain ⟨candidate, hcandidate⟩ := exists_candidate candidates hindex
  refine ⟨candidate, List.mem_filterMap.mpr ⟨element, h, ?_⟩⟩
  rw [hindex, Option.bind_some, hcandidate]
  rfl

-- The candidates that are named, by their keys, and by the indexes that name them.
theorem keys_namedCandidates (key : γ → κ) (candidates : List γ) (elements : List Value) :
    (namedCandidates candidates elements).map (fun item => some (key item.1)) =
      (elements.filterMap (indexIn candidates.length)).map fun index => candidates[index]?.map key := by
  induction elements with
  | nil => rfl
  | cons element rest ih =>
      cases hindex : indexIn candidates.length element with
      | none => rw [namedCandidates_cons_none hindex, ih, List.filterMap_cons_none hindex]
      | some index =>
          obtain ⟨candidate, hcandidate⟩ := exists_candidate candidates hindex
          rw [namedCandidates_cons_some hindex hcandidate, List.filterMap_cons_some hindex, List.map_cons, List.map_cons,
            ih, hcandidate]
          rfl

-- No candidate is named twice exactly if no index is.
theorem nodup_named_iff (hkeys : (candidates.map key).Nodup) (elements : List Value) :
    ((namedCandidates candidates elements).map fun item => key item.1).Nodup ↔
      (elements.filterMap (indexIn candidates.length)).Nodup := by
  rw [← List.nodup_map_iff (Option.some_injective κ), List.map_map]
  change ((namedCandidates candidates elements).map fun item => some (key item.1)).Nodup ↔ _
  rw [keys_namedCandidates]
  constructor
  · exact List.Nodup.of_map _
  · intro h
    refine h.map_on fun first hfirst second hsecond heq => ?_
    obtain ⟨_, -, hfirst⟩ := List.mem_filterMap.mp hfirst
    obtain ⟨_, -, hsecond⟩ := List.mem_filterMap.mp hsecond
    have hf := indexIn_lt hfirst
    have hs := indexIn_lt hsecond
    rw [List.getElem?_eq_getElem hf, List.getElem?_eq_getElem hs, Option.map_some, Option.map_some,
      Option.some_inj] at heq
    have hf' : first < (candidates.map key).length := by rwa [List.length_map]
    have hs' : second < (candidates.map key).length := by rwa [List.length_map]
    rw [← List.getElem_map (h := hf'), ← List.getElem_map (h := hs')] at heq
    exact (hkeys.getElem_inj_iff).mp heq

-- What becomes of an element that names a candidate.
def RankedAs (item : γ × Value) (ranked : γ × Float) : Prop :=
  ranked.1 = item.1 ∧ ∃ score, scoreOf item.2 = .ok score ∧ ranked.2 = clampUnit score

theorem read_eq_ok {item : γ × Value} {ranked : γ × Float} :
    (do return (item.1, clampUnit (← scoreOf item.2)) : Except String (γ × Float)) = .ok ranked ↔
      RankedAs item ranked := by
  unfold RankedAs
  rw [Transaction.bind_eq_ok]
  constructor
  · rintro ⟨score, hscore, heq⟩
    obtain rfl := Except.ok.inj heq
    exact ⟨rfl, score, hscore, rfl⟩
  · rintro ⟨hcandidate, score, hscore, hclamp⟩
    refine ⟨score, hscore, congrArg Except.ok ?_⟩
    rw [← hcandidate, ← hclamp]

theorem rankCandidates_eq_ok : rankCandidates candidates elements = .ok items ↔
    elements.any Value.isNull = false ∧ List.Forall₂ RankedAs (namedCandidates candidates elements) items := by
  unfold rankCandidates
  cases hnull : elements.any Value.isNull with
  | true => simp
  | false =>
      rw [if_neg Bool.false_ne_true, Transaction.mapM_eq_ok, eq_self, true_and]
      exact ⟨fun h => h.imp fun _ _ => read_eq_ok.mp, fun h => h.imp fun _ _ => read_eq_ok.mpr⟩

theorem rankCandidates_isOk_iff : (∃ items, rankCandidates candidates elements = .ok items) ↔
    Rankable candidates.length elements := by
  unfold rankCandidates
  cases hnull : elements.any Value.isNull with
  | true =>
      refine iff_of_false (fun ⟨items, h⟩ => ?_) fun h => ?_
      · cases h
      · simp [h.notNull] at hnull
  | false =>
      rw [if_neg Bool.false_ne_true, Transaction.mapM_isOk_iff]
      constructor
      · intro h
        refine ⟨hnull, fun element helement hnamed => ?_⟩
        obtain ⟨candidate, hmem⟩ := exists_named helement hnamed
        obtain ⟨ranked, hranked⟩ := h _ hmem
        obtain ⟨-, score, hscore, -⟩ := read_eq_ok.mp hranked
        exact ⟨score, hscore⟩
      · intro h item hitem
        obtain ⟨-, helement, hnamed⟩ := mem_namedCandidates hitem
        obtain ⟨score, hscore⟩ := h.convertible item.2 helement hnamed
        exact ⟨(item.1, clampUnit score), read_eq_ok.mpr ⟨rfl, score, hscore, rfl⟩⟩

theorem map_fst_ranked {named : List (γ × Value)} (h : List.Forall₂ RankedAs named items) :
    items.map Prod.fst = named.map Prod.fst := by
  induction h with
  | nil => rfl
  | cons hhead _ ih => rw [List.map_cons, List.map_cons, ih, hhead.1]

theorem numeric_iff {named : List (γ × Value)} (h : List.Forall₂ RankedAs named items) :
    (∀ item ∈ items, 0 ≤ item.2 ∧ item.2 ≤ 1) ↔
      ∀ item ∈ named, ∀ score, scoreOf item.2 = .ok score → score.isNaN = false := by
  induction h with
  | nil => simp
  | cons hhead _ ih =>
      obtain ⟨-, score, hscore, hclamp⟩ := hhead
      rw [List.forall_mem_cons, List.forall_mem_cons, ih, hclamp, Js.clampUnit_iff]
      refine and_congr_left' ⟨fun hnan other hother => ?_, fun hall => hall score hscore⟩
      obtain rfl := Except.ok.inj (hscore.symm.trans hother)
      exact hnan

theorem filter_isNamed_none {count : Nat} {element : Value} (h : indexIn count element = none) :
    (element :: elements).filter (isNamed count) = elements.filter (isNamed count) :=
  List.filter_cons_of_neg (by simp [isNamed, h])

theorem filter_isNamed_some {count index : Nat} {element : Value} (h : indexIn count element = some index) :
    (element :: elements).filter (isNamed count) = element :: elements.filter (isNamed count) :=
  List.filter_cons_of_pos (by simp [isNamed, h])

theorem map_snd_named (candidates : List γ) (elements : List Value) :
    (namedCandidates candidates elements).map Prod.snd = elements.filter (isNamed candidates.length) := by
  induction elements with
  | nil => rfl
  | cons element rest ih =>
      cases hindex : indexIn candidates.length element with
      | none => rw [filter_isNamed_none hindex, namedCandidates_cons_none hindex, ih]
      | some index =>
          obtain ⟨candidate, hcandidate⟩ := exists_candidate candidates hindex
          rw [filter_isNamed_some hindex, namedCandidates_cons_some hindex hcandidate, List.map_cons, ih]

theorem map_snd_ranked (h : rankCandidates candidates elements = .ok items) :
    items.map Prod.snd = scoresOf candidates.length elements := by
  rw [scoresOf, ← map_snd_named]
  have hranked := (rankCandidates_eq_ok.mp h).2
  clear h
  generalize namedCandidates candidates elements = named at hranked ⊢
  induction hranked with
  | nil => rfl
  | cons hhead _ ih =>
      obtain ⟨-, score, hscore, hclamp⟩ := hhead
      rw [List.map_cons, List.map_cons, ih, hclamp, List.filterMap_cons_some]
      rw [hscore]
      rfl

theorem candidates_of_rank (h : rankCandidates candidates elements = .ok items) :
    ∀ item ∈ items, item.1 ∈ candidates := by
  intro item hitem
  have hmem := List.mem_map_of_mem (f := Prod.fst) hitem
  rw [map_fst_ranked (rankCandidates_eq_ok.mp h).2] at hmem
  obtain ⟨named, hnamed, heq⟩ := List.mem_map.mp hmem
  exact heq ▸ (mem_namedCandidates hnamed).1

-- What each service makes of its ranked candidates.
theorem aiRerank_map {δ : Type} (parseArray : String → Except String (List Value)) (client : AiClient)
    (system user : String) (candidates : List γ) (result : γ × Float → δ) :
    (do
        let items ← aiRerank parseArray client system user candidates
        return items.map result : Except String (List δ)) =
      ((answerOf parseArray client system user).bind (rankCandidates candidates)).map (List.map result) := by
  change ((answerOf parseArray client system user).bind (rankCandidates candidates)).bind _ = _
  cases (answerOf parseArray client system user).bind (rankCandidates candidates) with
  | error error => rfl
  | ok items => rfl

-- What the array is made into is a ranking exactly if the array is clean.
theorem isRanking_iff (hkeys : (candidates.map key).Nodup) (h : rankCandidates candidates elements = .ok items) :
    IsRanking key candidates items ↔ Clean candidates.length elements := by
  have hranked := (rankCandidates_eq_ok.mp h).2
  have hfirst := map_fst_ranked hranked
  have hnodup : (items.map fun item => key item.1).Nodup ↔
      (elements.filterMap (indexIn candidates.length)).Nodup := by
    rw [show (fun item : γ × Float => key item.1) = key ∘ Prod.fst from rfl, ← List.map_map, hfirst, List.map_map]
    exact nodup_named_iff hkeys elements
  have hnumeric := numeric_iff hranked
  constructor
  · intro hranking
    refine ⟨hnodup.mp hranking.distinct, fun element helement hnamed => ?_⟩
    obtain ⟨candidate, hmem⟩ := exists_named helement hnamed
    exact hnumeric.mp hranking.numeric _ hmem
  · intro hclean
    refine ⟨hnodup.mpr hclean.distinct, candidates_of_rank h, hnumeric.mpr fun item hitem => ?_⟩
    obtain ⟨-, helement, hnamed⟩ := mem_namedCandidates hitem
    exact hclean.numeric item.2 helement hnamed

theorem namedCandidates_take (candidates : List γ) (elements : List Value) (limit : Nat) :
    namedCandidates candidates ((elements.filter (isNamed candidates.length)).take limit) =
      (namedCandidates candidates elements).take limit := by
  induction elements generalizing limit with
  | nil => simp [namedCandidates]
  | cons element rest ih =>
      cases hindex : indexIn candidates.length element with
      | none => rw [filter_isNamed_none hindex, ih, namedCandidates_cons_none hindex]
      | some index =>
          obtain ⟨candidate, hcandidate⟩ := exists_candidate candidates hindex
          rw [filter_isNamed_some hindex, namedCandidates_cons_some hindex hcandidate]
          cases limit with
          | zero => rfl
          | succ limit =>
              rw [List.take_succ_cons, List.take_succ_cons, namedCandidates_cons_some hindex hcandidate, ih]

-- The first of a ranking are the ranking of the first elements that name a candidate.
theorem rankCandidates_take (h : rankCandidates candidates elements = .ok items) (limit : Nat) :
    rankCandidates candidates ((elements.filter (isNamed candidates.length)).take limit) = .ok (items.take limit) := by
  obtain ⟨hnull, hranked⟩ := rankCandidates_eq_ok.mp h
  refine rankCandidates_eq_ok.mpr ⟨?_, ?_⟩
  · rw [List.any_eq_false] at hnull ⊢
    exact fun element helement => hnull element (List.mem_of_mem_filter (List.mem_of_mem_take helement))
  · rw [namedCandidates_take]
    exact List.forall₂_take limit hranked

end Ranking

end CloudOps.Ticketing
