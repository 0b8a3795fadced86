import Mathlib.Data.List.Basic
import Mathlib.Data.List.Induction
import Mathlib.Order.Basic

namespace CloudOps.Runs

-- A system is its step function: from a state and an event, the next state.
-- An event that cannot happen in a state leaves it as it is, so every list of
-- events is a run, and a statement about all lists is one about all runs.
variable {σ ι : Type*} (step : σ → ι → σ)

def run (start : σ) (events : List ι) : σ := events.foldl step start

-- The property holds of every state the run passes through, its two ends included.
def Always (property : σ → Prop) : σ → List ι → Prop
  | state, [] => property state
  | state, event :: rest => property state ∧ Always property (step state event) rest

-- The condition holds of each event in the state the event happens in.
def AllSteps (condition : σ → ι → Prop) : σ → List ι → Prop
  | _, [] => True
  | state, event :: rest => condition state event ∧ AllSteps condition (step state event) rest

-- Any state of the run is related to any later one.
def Throughout (rel : σ → σ → Prop) (start : σ) (events : List ι) : Prop :=
  ∀ first second rest, events = first ++ (second ++ rest) →
    rel (run step start first) (run step start (first ++ second))

-- What `read` takes from the state is the same at the two ends of every stretch of the
-- run whose states all have the property.
def KeptInStretches {γ : Type*} (property : σ → Prop) (read : σ → γ) (start : σ) (events : List ι) : Prop :=
  ∀ first second rest, events = first ++ (second ++ rest) → Always step property (run step start first) second →
    read (run step start (first ++ second)) = read (run step start first)

instance Always.decidable (property : σ → Prop) [DecidablePred property] :
    ∀ state events, Decidable (Always step property state events)
  | state, [] => inferInstanceAs (Decidable (property state))
  | state, event :: rest =>
      have := Always.decidable property (step state event) rest
      inferInstanceAs (Decidable (property state ∧ Always step property (step state event) rest))

instance AllSteps.decidable (condition : σ → ι → Prop) [∀ state, DecidablePred (condition state)] :
    ∀ state events, Decidable (AllSteps step condition state events)
  | _, [] => isTrue trivial
  | state, event :: rest =>
      have := AllSteps.decidable condition (step state event) rest
      inferInstanceAs (Decidable (condition state event ∧
        AllSteps step condition (step state event) rest))

variable {step}

@[simp] theorem run_nil (start : σ) : run step start [] = start := rfl

@[simp] theorem run_cons (start : σ) (event : ι) (rest : List ι) :
    run step start (event :: rest) = run step (step start event) rest := rfl

theorem run_append (start : σ) (first second : List ι) :
    run step start (first ++ second) = run step (run step start first) second :=
  List.foldl_append

theorem Always.head {property : σ → Prop} {start : σ} {events : List ι}
    (h : Always step property start events) : property start := by
  cases events with
  | nil => exact h
  | cons _ _ => exact h.1

theorem always_iff_reached {property : σ → Prop} {start : σ} {events : List ι} :
    Always step property start events ↔
      ∀ first second, events = first ++ second → property (run step start first) := by
  induction events generalizing start with
  | nil =>
      constructor
      · intro h first second he
        obtain ⟨rfl, -⟩ := List.append_eq_nil_iff.mp he.symm
        exact h
      · intro h
        exact h [] [] rfl
  | cons event rest ih =>
      constructor
      · rintro ⟨hs, hr⟩ first second he
        cases first with
        | nil => exact hs
        | cons _ first =>
            obtain ⟨rfl, rfl⟩ := List.cons.inj he
            exact ih.mp hr first second rfl
      · intro h
        exact ⟨h [] _ rfl, ih.mpr fun first second he => h (event :: first) second (by rw [he]; rfl)⟩

theorem Always.mono {property other : σ → Prop} {start : σ} {events : List ι}
    (himp : ∀ state, property state → other state) (h : Always step property start events) :
    Always step other start events :=
  always_iff_reached.mpr fun first second he => himp _ (always_iff_reached.mp h first second he)

theorem Always.last {property : σ → Prop} {start : σ} {events : List ι}
    (h : Always step property start events) : property (run step start events) :=
  always_iff_reached.mp h events [] (List.append_nil events).symm

theorem AllSteps.mono {condition other : σ → ι → Prop} {start : σ} {events : List ι}
    (himp : ∀ state event, condition state event → other state event)
    (h : AllSteps step condition start events) : AllSteps step other start events := by
  induction events generalizing start with
  | nil => trivial
  | cons event rest ih => exact ⟨himp _ _ h.1, ih h.2⟩

theorem allSteps_append {condition : σ → ι → Prop} {start : σ} {first second : List ι} :
    AllSteps step condition start (first ++ second) ↔
      AllSteps step condition start first ∧
        AllSteps step condition (run step start first) second := by
  induction first generalizing start with
  | nil => simp [AllSteps]
  | cons event rest ih => simp only [List.cons_append, AllSteps, run_cons, ih, and_assoc]

-- The invariant rule: an invariant of the start that every allowed step keeps
-- holds of every state of a run of allowed steps.
theorem invariant {inv : σ → Prop} {allowed : σ → ι → Prop} {start : σ} {events : List ι}
    (hstart : inv start)
    (hstep : ∀ state event, inv state → allowed state event → inv (step state event))
    (hallowed : AllSteps step allowed start events) : Always step inv start events := by
  induction events generalizing start with
  | nil => exact hstart
  | cons event rest ih =>
      exact ⟨hstart, ih (hstep start event hstart hallowed.1) hallowed.2⟩

-- What every allowed step has that begins in an invariant state.
theorem allSteps_of_invariant {inv : σ → Prop} {allowed property : σ → ι → Prop} {start : σ}
    {events : List ι} (hstart : inv start)
    (hstep : ∀ state event, inv state → allowed state event →
      inv (step state event) ∧ property state event)
    (hallowed : AllSteps step allowed start events) : AllSteps step property start events := by
  induction events generalizing start with
  | nil => trivial
  | cons event rest ih =>
      obtain ⟨hinv, hproperty⟩ := hstep start event hstart hallowed.1
      exact ⟨hproperty, ih hinv hallowed.2⟩

-- The two-state form: what an allowed step relates, a run of allowed steps relates.
theorem related {inv : σ → Prop} {allowed : σ → ι → Prop} (rel : σ → σ → Prop)
    (hrefl : ∀ state, rel state state)
    (htrans : ∀ a b c, rel a b → rel b c → rel a c) {start : σ} {events : List ι}
    (hstart : inv start)
    (hstep : ∀ state event, inv state → allowed state event →
      inv (step state event) ∧ rel state (step state event))
    (hallowed : AllSteps step allowed start events) : rel start (run step start events) := by
  induction events generalizing start with
  | nil => exact hrefl start
  | cons event rest ih =>
      obtain ⟨hinv, hrel⟩ := hstep start event hstart hallowed.1
      exact htrans _ _ _ hrel (ih hinv hallowed.2)

theorem throughout {inv : σ → Prop} {allowed : σ → ι → Prop} (rel : σ → σ → Prop)
    (hrefl : ∀ state, rel state state)
    (htrans : ∀ a b c, rel a b → rel b c → rel a c) {start : σ} {events : List ι}
    (hstart : inv start)
    (hstep : ∀ state event, inv state → allowed state event →
      inv (step state event) ∧ rel state (step state event))
    (hallowed : AllSteps step allowed start events) : Throughout step rel start events := by
  rintro first second rest rfl
  obtain ⟨hfirst, hsecond⟩ := allSteps_append.mp hallowed
  have hinv := (invariant hstart (fun _ _ hi ha => (hstep _ _ hi ha).1) hfirst).last
  rw [run_append]
  exact related rel hrefl htrans hinv hstep (allSteps_append.mp hsecond).1

-- Where a step that keeps the invariant has the property after it only if it meets
-- the condition, the condition is exactly what a run needs to have the property
-- throughout.
theorem always_iff_allSteps {inv property : σ → Prop} {condition : σ → ι → Prop} {start : σ}
    (events : List ι) (hstart : inv start) (hinv : ∀ state, inv state → property state)
    (hkeep : ∀ state event, inv state → condition state event → inv (step state event))
    (hneed : ∀ state event, inv state → property (step state event) → condition state event) :
    Always step property start events ↔ AllSteps step condition start events := by
  constructor
  · intro h
    induction events generalizing start with
    | nil => trivial
    | cons event rest ih =>
        have hcondition := hneed start event hstart h.2.head
        exact ⟨hcondition, ih (hkeep start event hstart hcondition) h.2⟩
  · exact fun h => (invariant hstart hkeep h).mono hinv

-- The same for a relation between the states of a run: it holds throughout exactly
-- if every step meets the condition that relates its two ends.
theorem throughout_iff_allSteps {inv : σ → Prop} {condition : σ → ι → Prop} (rel : σ → σ → Prop)
    {start : σ} (events : List ι) (hrefl : ∀ state, rel state state)
    (htrans : ∀ a b c, rel a b → rel b c → rel a c) (hstart : inv start)
    (hkeep : ∀ state event, inv state → condition state event →
      inv (step state event) ∧ rel state (step state event))
    (hneed : ∀ state event, inv state → rel state (step state event) → condition state event) :
    Throughout step rel start events ↔ AllSteps step condition start events := by
  constructor
  · intro h
    induction events generalizing start with
    | nil => trivial
    | cons event rest ih =>
        have hcondition := hneed start event hstart (h [] [event] rest rfl)
        refine ⟨hcondition, ih (hkeep start event hstart hcondition).1 ?_⟩
        intro first second tail he
        exact h (event :: first) second tail (by rw [he]; rfl)
  · exact fun h => throughout rel hrefl htrans hstart hkeep h

theorem allSteps_of_step (inv : σ → Prop) {property : σ → ι → Prop} {start : σ} (hstart : inv start)
    (hstep : ∀ state event, inv state → inv (step state event))
    (hproperty : ∀ state event, inv state → property state event) (events : List ι) :
    AllSteps step property start events := by
  induction events generalizing start with
  | nil => trivial
  | cons event rest ih => exact ⟨hproperty start event hstart, ih (hstep start event hstart)⟩

-- Where an invariant that the condition keeps makes the property of a step and the
-- condition the same, they are the same of a run.
theorem allSteps_iff_allSteps {inv : σ → Prop} {property condition : σ → ι → Prop} {start : σ}
    (events : List ι)
    (hstart : inv start) (hkeep : ∀ state event, inv state → condition state event → inv (step state event))
    (hiff : ∀ state event, inv state → (property state event ↔ condition state event)) :
    AllSteps step property start events ↔ AllSteps step condition start events := by
  induction events generalizing start with
  | nil => exact Iff.rfl
  | cons event rest ih =>
      have hhead := hiff start event hstart
      constructor
      · rintro ⟨hproperty, hrest⟩
        have hcondition := hhead.mp hproperty
        exact ⟨hcondition, (ih (hkeep start event hstart hcondition)).mp hrest⟩
      · rintro ⟨hcondition, hrest⟩
        exact ⟨hhead.mpr hcondition, (ih (hkeep start event hstart hcondition)).mpr hrest⟩

theorem allSteps_congr {inv : σ → Prop} {condition other : σ → ι → Prop} {start : σ} (events : List ι)
    (hstart : inv start) (hkeep : ∀ state event, inv state → inv (step state event))
    (hiff : ∀ state event, inv state → (condition state event ↔ other state event)) :
    AllSteps step condition start events ↔ AllSteps step other start events :=
  allSteps_iff_allSteps events hstart (fun state event h _ => hkeep state event h) hiff

theorem allSteps_iff_forall_mem {condition : ι → Prop} {start : σ} {events : List ι} :
    AllSteps step (fun _ event => condition event) start events ↔ ∀ event ∈ events, condition event := by
  induction events generalizing start with
  | nil => simp [AllSteps]
  | cons event rest ih => rw [AllSteps, ih, List.forall_mem_cons]

theorem allSteps_forall {κ : Type*} {condition : κ → σ → ι → Prop} {start : σ} {events : List ι} :
    AllSteps step (fun state event => ∀ k, condition k state event) start events ↔
      ∀ k, AllSteps step (condition k) start events := by
  induction events generalizing start with
  | nil => simp [AllSteps]
  | cons event rest ih => simp only [AllSteps, ih, forall_and]

-- A stretch keeps what each of its steps keeps.
theorem keptInStretches_iff {γ : Type*} {property : σ → Prop} {read : σ → γ} {start : σ} {events : List ι} :
    KeptInStretches step property read start events ↔
      AllSteps step (fun state event => property state → property (step state event) →
        read (step state event) = read state) start events := by
  constructor
  · intro h
    induction events generalizing start with
    | nil => trivial
    | cons event rest ih =>
        refine ⟨fun hbefore hafter => h [] [event] rest rfl ⟨hbefore, hafter⟩, ih ?_⟩
        intro first second tail he
        exact h (event :: first) second tail (by rw [he]; rfl)
  · rintro h first second rest rfl hstretch
    have hsteps := (allSteps_append.mp (allSteps_append.mp h).2).1
    rw [run_append]
    clear h
    generalize run step start first = state at hstretch hsteps
    induction second generalizing state with
    | nil => rfl
    | cons event second ih =>
        have hstep := hsteps.1 hstretch.1 hstretch.2.head
        exact (ih (step state event) hstretch.2 hsteps.2).trans hstep

-- Where every step keeps the invariant, every run does.
theorem always_of_step (inv : σ → Prop) {start : σ} (hstart : inv start)
    (hstep : ∀ state event, inv state → inv (step state event)) (events : List ι) :
    Always step inv start events := by
  induction events generalizing start with
  | nil => exact hstart
  | cons event rest ih => exact ⟨hstart, ih (hstep start event hstart)⟩

theorem related_of_step (rel : σ → σ → Prop) (hrefl : ∀ state, rel state state)
    (htrans : ∀ a b c, rel a b → rel b c → rel a c) (hstep : ∀ state event, rel state (step state event))
    (start : σ) (events : List ι) : rel start (run step start events) := by
  induction events generalizing start with
  | nil => exact hrefl start
  | cons event rest ih => exact htrans _ _ _ (hstep start event) (ih (step start event))

-- A property that a step cannot bring back holds at the end of a run exactly if it
-- held at the start and every step met the condition.
theorem last_iff_allSteps {inv property : σ → Prop} {condition : σ → ι → Prop} {start : σ}
    (events : List ι) (hstart : inv start)
    (hkeep : ∀ state event, inv state → inv (step state event))
    (hstep : ∀ state event, inv state →
      (property (step state event) ↔ property state ∧ condition state event)) :
    property (run step start events) ↔ property start ∧ AllSteps step condition start events := by
  induction events generalizing start with
  | nil => simp [AllSteps]
  | cons event rest ih =>
      rw [run_cons, ih (hkeep start event hstart), hstep start event hstart, AllSteps, and_assoc]

-- A property that steps set and clear holds at the end of a run exactly if some step
-- has set it and no later one has cleared it.
theorem latched_iff {inv : σ → Prop} (holds : σ → Prop) {sets clears : σ → ι → Prop} {start : σ}
    (events : List ι) (hstart : inv start)
    (hkeep : ∀ state event, inv state → inv (step state event))
    (hstep : ∀ state event, inv state →
      (holds (step state event) ↔ sets state event ∨ holds state ∧ ¬ clears state event))
    (hnot : ¬ holds start) :
    holds (run step start events) ↔ ∃ first event middle, events = first ++ event :: middle ∧
      sets (run step start first) event ∧
      AllSteps step (fun state event => ¬ clears state event) (run step start (first ++ [event])) middle := by
  induction events using List.reverseRecOn with
  | nil => simp [hnot]
  | append_singleton events last ih =>
      have hinv : inv (run step start events) := (always_of_step inv hstart hkeep events).last
      rw [run_append, run_cons, run_nil, hstep _ _ hinv, ih]
      constructor
      · rintro (hsets | ⟨⟨first, event, middle, rfl, hsets, hkept⟩, hlast⟩)
        · exact ⟨events, last, [], rfl, hsets, trivial⟩
        · refine ⟨first, event, middle ++ [last], by simp, hsets, allSteps_append.mpr ⟨hkept, ?_, trivial⟩⟩
          rwa [← run_append, List.append_assoc, List.singleton_append]
      · rintro ⟨first, event, middle, hevents, hsets, hkept⟩
        rcases List.eq_nil_or_concat middle with rfl | ⟨before, final, rfl⟩
        · obtain ⟨rfl, hlast⟩ := List.append_inj' hevents rfl
          obtain rfl := List.singleton_inj.mp hlast
          exact .inl hsets
        · rw [List.concat_eq_append] at hevents hkept
          rw [← List.cons_append, ← List.append_assoc] at hevents
          obtain ⟨rfl, hlast⟩ := List.append_inj' hevents rfl
          obtain rfl := List.singleton_inj.mp hlast
          obtain ⟨hbefore, hfinal, -⟩ := allSteps_append.mp hkept
          rw [← run_append, List.append_assoc, List.singleton_append] at hfinal
          exact .inr ⟨⟨first, event, before, rfl, hsets, hbefore⟩, hfinal⟩

-- A property that steps set and none clears.
theorem set_iff {inv : σ → Prop} (holds : σ → Prop) {sets : σ → ι → Prop} {start : σ} (events : List ι)
    (hstart : inv start) (hkeep : ∀ state event, inv state → inv (step state event))
    (hstep : ∀ state event, inv state → (holds (step state event) ↔ sets state event ∨ holds state))
    (hnot : ¬ holds start) :
    holds (run step start events) ↔ ∃ first event middle, events = first ++ event :: middle ∧
      sets (run step start first) event := by
  have hlatched : ∀ state event, inv state →
      (holds (step state event) ↔ sets state event ∨ holds state ∧ ¬ False) := fun state event h => by
    rw [hstep state event h, not_false_eq_true, and_true]
  rw [latched_iff holds events hstart hkeep hlatched hnot]
  constructor
  · rintro ⟨first, event, middle, hevents, hsets, -⟩
    exact ⟨first, event, middle, hevents, hsets⟩
  · rintro ⟨first, event, middle, hevents, hsets⟩
    exact ⟨first, event, middle, hevents, hsets,
      allSteps_of_step (fun _ => True) trivial (fun _ _ _ => trivial) (fun _ _ _ => not_false) middle⟩

-- Each party's view of a run is the run of its own events on its view of the start, as
-- long as every step is good; a step that is not good shows in its owner's view.
theorem views_iff {κ : Type*} [DecidableEq κ] (view : κ → σ → σ) (owner : ι → κ) {inv : σ → Prop}
    {allowed good : σ → ι → Prop} {start : σ} {events : List ι} (hstart : inv start)
    (hgood : ∀ state event, inv state → allowed state event → good state event → inv (step state event) ∧
      ∀ party, view party (step state event) =
        if owner event = party then step (view party state) event else view party state)
    (hbad : ∀ state event, inv state → allowed state event → ¬ good state event →
      view (owner event) (step state event) ≠ step (view (owner event) state) event)
    (hallowed : AllSteps step allowed start events) :
    (∀ party first second, events = first ++ second → view party (run step start first) =
      run step (view party start) (first.filter fun event => owner event = party)) ↔
        AllSteps step good start events := by
  induction events generalizing start with
  | nil =>
      refine ⟨fun _ => trivial, fun _ party first second hevents => ?_⟩
      obtain ⟨rfl, -⟩ := List.append_eq_nil_iff.mp hevents.symm
      rfl
  | cons event rest ih =>
      obtain ⟨hnow, hlater⟩ := hallowed
      constructor
      · intro h
        have hevent : good start event := by
          by_contra hnot
          apply hbad start event hstart hnow hnot
          simpa using h (owner event) [event] rest rfl
        obtain ⟨hinv, hview⟩ := hgood start event hstart hnow hevent
        refine ⟨hevent, (ih hinv hlater).mp fun party first second hrest => ?_⟩
        have hfirst := h party (event :: first) second (congrArg _ hrest)
        rw [run_cons] at hfirst
        rw [hfirst, hview party]
        by_cases howner : owner event = party
        · simp [howner]
        · simp [howner]
      · rintro ⟨hevent, hlaterGood⟩ party first second hevents
        obtain ⟨hinv, hview⟩ := hgood start event hstart hnow hevent
        cases first with
        | nil => rfl
        | cons _ first =>
            obtain ⟨rfl, hrest⟩ := List.cons.inj hevents
            rw [run_cons, (ih hinv hlater).mpr hlaterGood party first second hrest, hview party]
            by_cases howner : owner event = party
            · simp [howner]
            · simp [howner]

end CloudOps.Runs
