import CloudOps.Runs

namespace CloudOps.SignedTokens

open CloudOps.Runs

variable {σ ι Token Payload : Type*}

-- What the steps of a system sign, what its events bring with them, and what a token
-- opens to when an event brings it.
structure Signing (σ ι Token Payload : Type*) where
  step : σ → ι → σ
  signs : σ → ι → List (Token × Payload)
  presents : ι → List Token
  opens : ι → Token → Option Payload

variable (system : Signing σ ι Token Payload)

-- A token opens to nothing but what was signed with it.
def OpensToSigned : Prop :=
  ∀ state event token payload, (token, payload) ∈ system.signs state event →
    ∀ later found, system.opens later token = some found → found = payload

-- Nobody else can sign: a token that opens is one of those signed before.
def Unforged : List (Token × Payload) → σ → List ι → Prop
  | _, _, [] => True
  | signed, state, event :: rest =>
      (∀ token ∈ system.presents event, (system.opens event token).isSome → token ∈ signed.map Prod.fst) ∧
        Unforged (signed ++ system.signs state event) (system.step state event) rest

-- The run signed the payload, with this token, before the event at the end of `first`.
def SignedIn (start : σ) (first : List ι) (token : Token) (payload : Payload) : Prop :=
  ∃ before issuing after, first = before ++ issuing :: after ∧
    (token, payload) ∈ system.signs (run system.step start before) issuing

variable {system}

theorem SignedIn.cons {start : σ} {event : ι} {first : List ι} {token : Token} {payload : Payload}
    (h : SignedIn system (system.step start event) first token payload) :
    SignedIn system start (event :: first) token payload := by
  obtain ⟨before, issuing, after, rfl, hsigned⟩ := h
  exact ⟨event :: before, issuing, after, rfl, hsigned⟩

theorem Unforged.split {signed : List (Token × Payload)} {start : σ} {first rest : List ι} {event : ι}
    (h : Unforged system signed start (first ++ event :: rest)) {token : Token}
    (htoken : token ∈ system.presents event) (hopens : (system.opens event token).isSome) :
    token ∈ signed.map Prod.fst ∨ ∃ payload, SignedIn system start first token payload := by
  induction first generalizing signed start with
  | nil => exact .inl (h.1 token htoken hopens)
  | cons head first ih =>
      rcases ih h.2 with hmem | ⟨payload, hlater⟩
      · rw [List.map_append, List.mem_append] at hmem
        rcases hmem with hold | hnew
        · exact .inl hold
        · obtain ⟨⟨_, payload⟩, hsigned, rfl⟩ := List.mem_map.mp hnew
          exact .inr ⟨payload, [], head, first, rfl, hsigned⟩
      · exact .inr ⟨payload, hlater.cons⟩

-- What an event acts on because a token said so, an earlier event of the run has signed.
theorem Unforged.signedIn (hsound : OpensToSigned system) {start : σ} {first rest : List ι} {event : ι}
    (h : Unforged system [] start (first ++ event :: rest)) {token : Token}
    (htoken : token ∈ system.presents event) {payload : Payload}
    (hopens : system.opens event token = some payload) : SignedIn system start first token payload := by
  rcases h.split htoken (Option.isSome_of_mem hopens) with hmem | ⟨signed, hin⟩
  · exact absurd hmem List.not_mem_nil
  · obtain ⟨before, issuing, after, hfirst, hsigned⟩ := hin
    obtain rfl := hsound _ _ _ _ hsigned _ _ hopens
    exact ⟨before, issuing, after, hfirst, hsigned⟩

end CloudOps.SignedTokens
