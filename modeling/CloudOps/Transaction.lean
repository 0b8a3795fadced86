import Mathlib.Data.List.Forall2
import Mathlib.Order.Defs.Unbundled

namespace CloudOps.Transaction

-- The code of a transaction that runs with no other one beside it: it reads and
-- writes a state, and an exception in it rolls everything back.
variable {σ ε α β : Type}

def commit (tx : StateT σ (Except ε) α) (before : σ) : σ :=
  match tx.run before with
  | .ok (_, after) => after
  | .error _ => before

theorem run_bind_ok {tx : StateT σ (Except ε) α} {next : α → StateT σ (Except ε) β}
    {before middle : σ} {value : α} (h : tx.run before = .ok (value, middle)) :
    (tx >>= next).run before = (next value).run middle := by
  rw [StateT.run_bind, h]
  rfl

theorem run_bind_error {tx : StateT σ (Except ε) α} {next : α → StateT σ (Except ε) β}
    {before : σ} {error : ε} (h : tx.run before = .error error) :
    (tx >>= next).run before = .error error := by
  rw [StateT.run_bind, h]
  rfl

theorem bind_eq_ok {code : Except ε α} {next : α → Except ε β} {result : β} :
    code >>= next = .ok result ↔ ∃ value, code = .ok value ∧ next value = .ok result := by
  cases code with
  | error error => simp [bind, Except.bind]
  | ok value => simp [bind, Except.bind]

-- A mapM that succeeds has a value for each item, in their order.
theorem mapM_eq_ok {ι : Type} {read : ι → Except ε α} {items : List ι} {values : List α} :
    items.mapM read = .ok values ↔ List.Forall₂ (fun item value => read item = .ok value) items values := by
  induction items generalizing values with
  | nil =>
      rw [List.mapM_nil, List.forall₂_nil_left_iff]
      exact ⟨fun h => (Except.ok.inj h).symm, fun h => h ▸ rfl⟩
  | cons item rest ih =>
      rw [List.mapM_cons, bind_eq_ok, List.forall₂_cons_left_iff]
      constructor
      · rintro ⟨value, hvalue, hrest⟩
        obtain ⟨others, hothers, hvalues⟩ := bind_eq_ok.mp hrest
        exact ⟨value, others, hvalue, ih.mp hothers, (Except.ok.inj hvalues).symm⟩
      · rintro ⟨value, others, hvalue, hothers, rfl⟩
        exact ⟨value, hvalue, bind_eq_ok.mpr ⟨others, ih.mpr hothers, rfl⟩⟩

theorem mapM_isOk_iff {ι : Type} {read : ι → Except ε α} {items : List ι} :
    (∃ values, items.mapM read = .ok values) ↔ ∀ item ∈ items, ∃ value, read item = .ok value := by
  induction items with
  | nil => exact iff_of_true ⟨[], rfl⟩ (by simp)
  | cons item rest ih =>
      rw [List.forall_mem_cons, ← ih, List.mapM_cons]
      simp only [bind_eq_ok]
      constructor
      · rintro ⟨_, value, hvalue, values, hvalues, -⟩
        exact ⟨⟨value, hvalue⟩, values, hvalues⟩
      · rintro ⟨⟨value, hvalue⟩, values, hvalues⟩
        exact ⟨_, value, hvalue, values, hvalues, rfl⟩

-- Code that touches no state runs in the transaction as it is.
theorem run_lift_ok {code : Except ε α} {next : α → StateT σ (Except ε) β} {before : σ} {value : α}
    (h : code = .ok value) :
    ((liftM code : StateT σ (Except ε) α) >>= next).run before = (next value).run before := by
  rw [h]
  rfl

-- What holds of the result and of the state that is committed, if the transaction
-- returns at all.
def Ensures (tx : StateT σ (Except ε) α) (before : σ) (post : α → σ → Prop) : Prop :=
  ∀ value after, tx.run before = .ok (value, after) → post value after

namespace Ensures

variable {before : σ} {post : α → σ → Prop}

theorem pure {value : α} (h : post value before) :
    Ensures (pure value : StateT σ (Except ε) α) before post := by
  intro result after hr
  obtain ⟨rfl, rfl⟩ := Prod.mk.inj (Except.ok.inj hr)
  exact h

theorem throw (error : ε) : Ensures (throw error : StateT σ (Except ε) α) before post := by
  intro result after hr
  cases hr

theorem get_bind {next : σ → StateT σ (Except ε) α} (h : Ensures (next before) before post) :
    Ensures ((get : StateT σ (Except ε) σ) >>= next) before post := by
  intro result after hr
  exact h result after hr

theorem modify_bind {change : σ → σ} {next : Unit → StateT σ (Except ε) α}
    (h : Ensures (next ()) (change before) post) :
    Ensures ((modify change : StateT σ (Except ε) Unit) >>= next) before post := by
  intro result after hr
  exact h result after hr

theorem get {post : σ → σ → Prop} (h : post before before) :
    Ensures (get : StateT σ (Except ε) σ) before post := by
  intro result after hr
  obtain ⟨rfl, rfl⟩ := Prod.mk.inj (Except.ok.inj hr)
  exact h

theorem modifyGet {change : σ → α × σ} (h : post (change before).1 (change before).2) :
    Ensures (modifyGet change : StateT σ (Except ε) α) before post := by
  intro result after hr
  have heq : change before = (result, after) := Except.ok.inj hr
  rw [heq] at h
  exact h

theorem modify {change : σ → σ} {post : Unit → σ → Prop} (h : post () (change before)) :
    Ensures (modify change : StateT σ (Except ε) Unit) before post :=
  modifyGet h

theorem bind {tx : StateT σ (Except ε) α} {next : α → StateT σ (Except ε) β}
    {middle : α → σ → Prop} {post : β → σ → Prop} (htx : Ensures tx before middle)
    (hnext : ∀ value after, middle value after → Ensures (next value) after post) :
    Ensures (tx >>= next) before post := by
  intro result final hr
  cases h : tx.run before with
  | error error =>
      rw [run_bind_error h] at hr
      cases hr
  | ok pair =>
      obtain ⟨value, after⟩ := pair
      rw [run_bind_ok h] at hr
      exact hnext value after (htx value after h) result final hr

theorem lift_bind {code : Except ε α} {next : α → StateT σ (Except ε) β} {post : β → σ → Prop}
    (h : ∀ value, code = .ok value → Ensures (next value) before post) :
    Ensures ((liftM code : StateT σ (Except ε) α) >>= next) before post := by
  cases hcode : code with
  | error error => exact .throw error
  | ok value =>
      intro result after hr
      rw [run_lift_ok rfl] at hr
      exact h value hcode result after hr

theorem ran (tx : StateT σ (Except ε) α) (before : σ) :
    Ensures tx before fun value after => tx.run before = .ok (value, after) :=
  fun _ _ hr => hr

theorem mono {tx : StateT σ (Except ε) α} {other : α → σ → Prop} (h : Ensures tx before post)
    (himp : ∀ value after, post value after → other value after) : Ensures tx before other :=
  fun value after hr => himp value after (h value after hr)

-- What holds of the state before, and of any the transaction commits, holds after it.
theorem commit {tx : StateT σ (Except ε) α} {post : σ → Prop}
    (h : Ensures tx before fun _ after => post after) (hbefore : post before) :
    post (commit tx before) := by
  unfold Transaction.commit
  split
  · rename_i value after hr
    exact h value after hr
  · exact hbefore

end Ensures

-- The transaction raises nothing.
def Commits (tx : StateT σ (Except ε) α) (before : σ) : Prop :=
  ∃ value after, tx.run before = .ok (value, after)

theorem Commits.bind {tx : StateT σ (Except ε) α} {next : α → StateT σ (Except ε) β} {before : σ}
    (htx : Commits tx before)
    (hnext : ∀ value after, tx.run before = .ok (value, after) → Commits (next value) after) :
    Commits (tx >>= next) before := by
  obtain ⟨value, middle, hrun⟩ := htx
  obtain ⟨result, after, hafter⟩ := hnext value middle hrun
  exact ⟨result, after, (run_bind_ok hrun).trans hafter⟩

theorem commits_bind_iff {tx : StateT σ (Except ε) α} {next : α → StateT σ (Except ε) β} {value : α}
    {before after : σ} (h : tx.run before = .ok (value, after)) :
    Commits (tx >>= next) before ↔ Commits (next value) after := by
  unfold Commits
  rw [run_bind_ok h]

theorem Commits.not_of_error {tx : StateT σ (Except ε) α} {before : σ} {error : ε}
    (h : tx.run before = .error error) : ¬ Commits tx before := by
  rintro ⟨value, after, hok⟩
  rw [h] at hok
  cases hok

-- A transaction that commits leaves the state it ensures.
theorem Commits.ensures {tx : StateT σ (Except ε) α} {before : σ} {post : α → σ → Prop}
    (htx : Commits tx before) (h : Ensures tx before post) :
    ∃ value after, commit tx before = after ∧ post value after := by
  obtain ⟨value, after, hrun⟩ := htx
  refine ⟨value, after, ?_, h value after hrun⟩
  unfold Transaction.commit
  rw [hrun]

-- Where it raises there is nothing to ensure.
theorem Ensures.of_commits {tx : StateT σ (Except ε) α} {before : σ} {post : α → σ → Prop}
    (h : Commits tx before → Ensures tx before post) : Ensures tx before post :=
  fun value after hr => h ⟨value, after, hr⟩ value after hr

-- The transaction changes the state only as the relation allows.
def Keeps (rel : σ → σ → Prop) (tx : StateT σ (Except ε) α) : Prop :=
  ∀ before, Ensures tx before fun _ after => rel before after

namespace Keeps

variable {rel : σ → σ → Prop} [IsPreorder σ rel]

theorem pure (value : α) : Keeps rel (pure value : StateT σ (Except ε) α) :=
  fun before => .pure (refl_of rel before)

omit [IsPreorder σ rel] in
theorem throw (error : ε) : Keeps rel (throw error : StateT σ (Except ε) α) :=
  fun _ => .throw error

theorem get : Keeps rel (get : StateT σ (Except ε) σ) := fun before => .get (refl_of rel before)

omit [IsPreorder σ rel] in
theorem modify {change : σ → σ} (h : ∀ state, rel state (change state)) :
    Keeps rel (modify change : StateT σ (Except ε) Unit) :=
  fun before => .modify (h before)

omit [IsPreorder σ rel] in
theorem modifyGet {change : σ → α × σ} (h : ∀ state, rel state (change state).2) :
    Keeps rel (modifyGet change : StateT σ (Except ε) α) :=
  fun before => .modifyGet (h before)

theorem bind {tx : StateT σ (Except ε) α} {next : α → StateT σ (Except ε) β}
    (htx : Keeps rel tx) (hnext : ∀ value, Keeps rel (next value)) : Keeps rel (tx >>= next) := by
  intro before
  refine (htx before).bind ?_
  intro value middle hmiddle
  exact (hnext value middle).mono fun _ _ hafter => trans_of rel hmiddle hafter

theorem map {tx : StateT σ (Except ε) α} {rename : α → β} (htx : Keeps rel tx) :
    Keeps rel (rename <$> tx) := by
  rw [← bind_pure_comp]
  exact htx.bind fun _ => .pure _

-- A transaction that only reads changes the state as any such relation allows.
theorem of_eq {tx : StateT σ (Except ε) α} (h : Keeps Eq tx) : Keeps rel tx := by
  intro before
  exact (h before).mono fun _ _ he => he ▸ refl_of rel before

theorem commit {tx : StateT σ (Except ε) α} (h : Keeps rel tx) (before : σ) :
    rel before (commit tx before) :=
  Ensures.commit (h before) (refl_of rel before)

end Keeps

-- What `read` takes from the state is as before.
def Agree {γ : Type} (read : σ → γ) (before after : σ) : Prop := read after = read before

instance {γ : Type} (read : σ → γ) : IsPreorder σ (Agree read) where
  refl _ := rfl
  trans _ _ _ hab hbc := hbc.trans hab

theorem Agree.comp {γ δ : Type} {read : σ → γ} (part : γ → δ) {before after : σ}
    (h : Agree read before after) : Agree (part ∘ read) before after :=
  congrArg part h

-- What holds of the state stays.
def Stays (good : σ → Prop) (before after : σ) : Prop := good before → good after

instance (good : σ → Prop) : IsPreorder σ (Stays good) where
  refl _ h := h
  trans _ _ _ hab hbc h := hbc (hab h)

theorem Keeps.stays {good : σ → Prop} {tx : StateT σ (Except ε) α}
    (h : ∀ before, good before → Ensures tx before fun _ after => good after) : Keeps (Stays good) tx :=
  fun before value after hr hbefore => h before hbefore value after hr

-- It changes the state only as the relation allows, and what it returns is good.
def Yields (rel : σ → σ → Prop) (good : α → Prop) (tx : StateT σ (Except ε) α) : Prop :=
  ∀ before, Ensures tx before fun value after => rel before after ∧ good value

namespace Yields

variable {rel : σ → σ → Prop} [IsPreorder σ rel] {good : α → Prop}

theorem pure {value : α} (h : good value) : Yields rel good (pure value : StateT σ (Except ε) α) :=
  fun before => .pure ⟨refl_of rel before, h⟩

omit [IsPreorder σ rel] in
theorem throw (error : ε) : Yields rel good (throw error : StateT σ (Except ε) α) :=
  fun _ => .throw error

theorem bind {tx : StateT σ (Except ε) α} {next : α → StateT σ (Except ε) β} {result : β → Prop}
    (htx : Yields rel good tx) (hnext : ∀ value, good value → Yields rel result (next value)) :
    Yields rel result (tx >>= next) := by
  intro before
  refine (htx before).bind ?_
  intro value middle hmiddle
  refine (hnext value hmiddle.2 middle).mono ?_
  intro final after hafter
  exact ⟨trans_of rel hmiddle.1 hafter.1, hafter.2⟩

omit [IsPreorder σ rel] in
theorem of_keeps {tx : StateT σ (Except ε) α} (h : Keeps rel tx) : Yields rel (fun _ => True) tx :=
  fun before => (h before).mono fun _ _ hrel => ⟨hrel, trivial⟩

end Yields

theorem Keeps.bind_yields {rel : σ → σ → Prop} [IsPreorder σ rel] {result : β → Prop}
    {tx : StateT σ (Except ε) α} {next : α → StateT σ (Except ε) β} (htx : Keeps rel tx)
    (hnext : ∀ value, Yields rel result (next value)) : Yields rel result (tx >>= next) :=
  (Yields.of_keeps htx).bind fun value _ => hnext value

end CloudOps.Transaction
