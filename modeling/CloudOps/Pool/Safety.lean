import CloudOps.Pool.Program

namespace CloudOps.Pool

variable {σ ο χ α ε ω β γ C : Type}

-- What is to hold of every resource no one holds, and of all that is observed.
structure Spec (σ ω : Type) where
  idle : σ → Prop
  observed : ω → Prop

variable (kind : Kind σ ο χ α ε ω) (spec : Spec σ ω)

namespace Prog

-- The weakest precondition: with this resource in hand the code observes only what is
-- allowed and gives back only what may be idle, however its operations go, and `post`
-- holds of its result and of what it holds when it ends.
def Safe (post : Except ε β → Held σ → Prop) : Prog ο α ε β → Held σ → Prop
  | done result, held => post result held
  | acquire next, _ => (∀ error, (next (.error error)).Safe post .nothing) ∧
      ∀ resource, spec.idle resource → (next (.ok ())).Safe post (.holding resource)
  | perform operation next, held => (∀ seen ∈ held.observe kind operation, spec.observed seen) ∧
      ∀ outcome, (next (held.perform kind operation outcome).2).Safe post (held.perform kind operation outcome).1
  | release next, held => (∀ resource ∈ held.returned, spec.idle resource) ∧ next.Safe post .nothing

variable {kind spec} {post : Except ε β → Held σ → Prop} {prog : Prog ο α ε β} {held : Held σ}

theorem Safe.mono {other : Except ε β → Held σ → Prop} (h : prog.Safe kind spec post held)
    (himp : ∀ result held, post result held → other result held) : prog.Safe kind spec other held := by
  induction prog generalizing held with
  | done result => exact himp result held h
  | acquire next ih => exact ⟨fun error => ih _ (h.1 error), fun resource hidle => ih _ (h.2 resource hidle)⟩
  | perform operation next ih => exact ⟨h.1, fun outcome => ih _ (h.2 outcome)⟩
  | release next ih => exact ⟨h.1, ih h.2⟩

theorem safe_andThen {after : Except ε β → Prog ο α ε γ} {post : Except ε γ → Held σ → Prop} :
    (prog.andThen after).Safe kind spec post held ↔
      prog.Safe kind spec (fun result held => (after result).Safe kind spec post held) held := by
  induction prog generalizing held with
  | done result => exact Iff.rfl
  | acquire next ih => exact and_congr (forall_congr' fun _ => ih _) (forall₂_congr fun _ _ => ih _)
  | perform operation next ih => exact and_congr_right fun _ => forall_congr' fun _ => ih _
  | release next ih => exact and_congr_right fun _ => ih

theorem safe_bind {after : β → Prog ο α ε γ} {post : Except ε γ → Held σ → Prop} :
    (prog >>= after).Safe kind spec post held ↔ prog.Safe kind spec (fun result held =>
      match result with
      | .ok value => (after value).Safe kind spec post held
      | .error error => post (.error error) held) held := by
  refine safe_andThen.trans ?_
  constructor <;> refine fun h => h.mono fun result held hpost => ?_ <;> cases result <;> exact hpost

theorem safe_tryCatch {handle : ε → Prog ο α ε β} :
    (tryCatch prog handle).Safe kind spec post held ↔ prog.Safe kind spec (fun result held =>
      match result with
      | .ok value => post (.ok value) held
      | .error error => (handle error).Safe kind spec post held) held := by
  refine safe_andThen.trans ?_
  constructor <;> refine fun h => h.mono fun result held hpost => ?_ <;> cases result <;> exact hpost

-- The finalizer runs in both cases; its own exception goes before the code's result.
theorem safe_tryFinally {finalizer : Prog ο α ε γ} :
    (tryFinally prog finalizer).Safe kind spec post held ↔ prog.Safe kind spec (fun result held =>
      finalizer.Safe kind spec (fun final held =>
        match final with
        | .ok _ => post result held
        | .error error => post (.error error) held) held) held := by
  refine safe_andThen.trans (safe_andThen.trans ?_)
  constructor <;> refine fun h => h.mono fun result held hpost => ?_
  · cases result with
    | ok value =>
        refine (safe_andThen.mp hpost).mono fun final held hfinal => ?_
        cases final <;> exact hfinal
    | error error =>
        refine (safe_andThen.mp hpost).mono fun final held hfinal => ?_
        cases final <;> exact hfinal
  · cases result with
    | ok value =>
        refine safe_andThen.mpr (hpost.mono fun final held hfinal => ?_)
        cases final <;> exact hfinal
    | error error =>
        refine safe_andThen.mpr (hpost.mono fun final held hfinal => ?_)
        cases final <;> exact hfinal

end Prog

variable {kind spec}

-- What holds between two turns: of the pool, and of each call with what it holds.
structure State.Sound (kind : Kind σ ο χ α ε ω) (spec : Spec σ ω)
    (state : State σ ο α ε ω β) : Prop where
  idle : ∀ resource ∈ state.idle, spec.idle resource
  observed : ∀ seen ∈ state.log, spec.observed seen
  calls : ∀ id prog held, state.calls.lookup id = some (prog, held) → prog.Safe kind spec (fun _ _ => True) held

variable {state : State σ ο α ε ω β} {body : C → Prog ο α ε β}

theorem State.Sound.put (h : state.Sound kind spec) (id : Nat) {prog : Prog ο α ε β} {held : Held σ}
    (hsafe : prog.Safe kind spec (fun _ _ => True) held) : (state.put id prog held).Sound kind spec := by
  refine ⟨h.idle, h.observed, fun other found heldBy hlookup => ?_⟩
  rw [State.put, CloudOps.ReadCommitted.Table.lookup_insert_eq] at hlookup
  split at hlookup
  · obtain ⟨rfl, rfl⟩ := hlookup
    exact hsafe
  · exact h.calls other found heldBy hlookup

theorem State.Sound.erase (h : state.Sound kind spec) (position : Nat) :
    ({ state with idle := state.idle.eraseIdx position } : State σ ο α ε ω β).Sound kind spec :=
  ⟨fun resource hmem => h.idle resource (List.mem_of_mem_eraseIdx hmem), h.observed, h.calls⟩

theorem State.Sound.turn (hfresh : spec.idle kind.fresh) (h : state.Sound kind spec) {id : Nat}
    {prog : Prog ο α ε β} {held : Held σ} (hsafe : prog.Safe kind spec (fun _ _ => True) held)
    (choice : Choice χ ε) : (state.turn kind id held prog choice).Sound kind spec := by
  cases prog with
  | done result => exact h
  | acquire next =>
      cases choice with
      | idle position =>
          simp only [State.turn]
          split
          · exact h
          · rename_i resource hresource
            exact (h.erase position).put id (hsafe.2 resource (h.idle resource (List.mem_of_getElem? hresource)))
      | fresh => exact h.put id (hsafe.2 kind.fresh hfresh)
      | refused error => exact h.put id (hsafe.1 error)
      | outcome outcome => exact h
  | perform operation next =>
      cases choice with
      | outcome outcome =>
          have hlogged : ({ state with log := state.log ++ (held.observe kind operation).toList } :
              State σ ο α ε ω β).Sound kind spec := by
            refine ⟨h.idle, fun seen hseen => ?_, h.calls⟩
            rcases List.mem_append.mp hseen with hbefore | hnow
            · exact h.observed seen hbefore
            · exact hsafe.1 seen (Option.mem_toList.mp hnow)
          exact hlogged.put id (hsafe.2 outcome)
      | idle position | fresh | refused error => exact h
  | release next =>
      have hreturned : ({ state with idle := state.idle ++ held.returned } : State σ ο α ε ω β).Sound
          kind spec := by
        refine ⟨fun resource hmem => ?_, h.observed, h.calls⟩
        rcases List.mem_append.mp hmem with hbefore | hnow
        · exact h.idle resource hbefore
        · exact hsafe.1 resource hnow
      cases choice <;> exact hreturned.put id hsafe.2

def StartsSafe (kind : Kind σ ο χ α ε ω) (spec : Spec σ ω) (body : C → Prog ο α ε β) :
    Event C χ ε → Prop
  | .start _ call => (body call).Safe kind spec (fun _ _ => True) .nothing
  | .turn .. | .discard _ => True

theorem State.Sound.step (hfresh : spec.idle kind.fresh) (h : state.Sound kind spec) {event : Event C χ ε}
    (hstarts : StartsSafe kind spec body event) : (state.step kind body event).Sound kind spec := by
  cases event with
  | start id call =>
      simp only [State.step]
      split
      · exact h
      · exact h.put id hstarts
  | turn id choice =>
      simp only [State.step]
      split
      · exact h
      · rename_i hlookup
        exact h.turn hfresh (h.calls id _ _ hlookup) choice
  | discard position => exact h.erase position

-- Code that is safe on its own is safe beside any other: what a call holds no one else
-- holds.
theorem sound_throughout (hfresh : spec.idle kind.fresh) (events : List (Event C χ ε))
    (hstarts : ∀ event ∈ events, StartsSafe kind spec body event) :
    Runs.Always (State.step kind body) (State.Sound kind spec) .empty events := by
  have hempty : (State.empty : State σ ο α ε ω β).Sound kind spec :=
    ⟨nofun, nofun, fun id prog held hnone => nomatch hnone⟩
  generalize State.empty = state at hempty
  induction events generalizing state with
  | nil => exact hempty
  | cons event rest ih =>
      obtain ⟨hevent, hrest⟩ := List.forall_mem_cons.mp hstarts
      exact ⟨hempty, ih hrest _ (hempty.step hfresh hevent)⟩

end CloudOps.Pool
