import CloudOps.ReadCommitted.Rely

namespace CloudOps.ReadCommitted

variable {K R ε α β γ C S : Type} [DecidableEq K]

-- The stages a transaction passes: what holds at each of the world and of what the
-- transaction has written, which the others cannot spoil.
structure Stages (rely : World K R γ C → World K R γ C → Prop) (inv : World K R γ C → Prop)
    (S : Type) where
  holds : S → World K R γ C → Table K R → Prop
  refl : ∀ world, rely world world
  stable : ∀ {stage before after writes}, holds stage before writes →
    Interferes rely inv writes before after → holds stage after writes

variable {rely : World K R γ C → World K R γ C → Prop} {inv : World K R γ C → Prop}

-- From one stage, whatever the others do, this part of a transaction comes to a stage
-- that goes with its result.
def Stages.Goes (stages : Stages rely inv S) (stage : S) (prog : Prog K R ε α) (result : α → S → Prop) :
    Prop :=
  ∀ world writes, stages.holds stage world writes →
    prog.wp rely inv (fun world writes value => ∃ after, result value after ∧ stages.holds after world writes)
      writes world

namespace Stages

variable {stages : Stages rely inv S} {stage : S} {prog : Prog K R ε α} {result : α → S → Prop}

theorem Goes.ret {value : α} (h : result value stage) :
    stages.Goes stage (.ret value : Prog K R ε α) result :=
  fun _ _ hholds _ ha => ⟨stage, h, stages.stable hholds ha⟩

theorem Goes.throw (error : ε) : stages.Goes stage (.throw error : Prog K R ε α) result :=
  fun _ _ _ => trivial

theorem Goes.mono {other : α → S → Prop} (h : stages.Goes stage prog result)
    (himp : ∀ value after, result value after → other value after) : stages.Goes stage prog other := by
  intro world writes hholds
  refine (h world writes hholds).mono ?_
  rintro _ _ value - ⟨after, hafter, hlater⟩
  exact ⟨after, himp value after hafter, hlater⟩

theorem Goes.bind {next : α → Prog K R ε β} {final : β → S → Prop} (h : stages.Goes stage prog result)
    (hnext : ∀ value after, result value after → stages.Goes after (next value) final) :
    stages.Goes stage (prog >>= next) final := by
  intro world writes hholds
  refine Prog.wp.bind stages.refl ((h world writes hholds).mono ?_)
  rintro world writes value - ⟨after, hafter, hlater⟩
  exact hnext value after hafter world writes hlater

theorem Goes.map {rename : α → β} {final : β → S → Prop}
    (h : stages.Goes stage prog fun value after => final (rename value) after) :
    stages.Goes stage (prog.map rename) final :=
  fun world writes hholds => (h world writes hholds).map

-- One part that leaves the stage as it is, then another.
theorem Goes.then {next : α → Prog K R ε β} {final : β → S → Prop}
    (h : stages.Goes stage prog fun _ after => after = stage)
    (hnext : ∀ value, stages.Goes stage (next value) final) : stages.Goes stage (prog >>= next) final := by
  refine h.bind ?_
  rintro value after rfl
  exact hnext value

theorem goes_query (stages : Stages rely inv S) (stage : S) (matching : K → R → Bool) :
    stages.Goes stage (Prog.query matching : Prog K R ε (List (K × R))) fun _ after => after = stage :=
  fun _ _ hholds _ ha _ _ _ hl => ⟨stage, rfl, stages.stable (stages.stable hholds ha) hl⟩

theorem goes_dateNow (stages : Stages rely inv S) (stage : S) :
    stages.Goes stage (Prog.dateNow : Prog K R ε Nat) fun _ after => after = stage :=
  fun _ _ hholds _ ha _ hl => ⟨stage, rfl, stages.stable (stages.stable hholds ha) hl⟩

end Stages

end CloudOps.ReadCommitted

namespace CloudOps.ReadCommitted

variable {K R X ε α β γ C S : Type}

namespace Prog

-- The same transaction where the rows have more columns, which its statements do not
-- name: they stay on a row it changes, and are blank on a row it inserts.
def withColumns (blank : X) : Prog K R ε α → Prog K (R × X) ε α
  | ret value => ret value
  | throw error => throw error
  | clock next => clock fun now => (next now).withColumns blank
  | select matching next => select (fun id row => matching id row.1) fun rows =>
      (next (rows.map fun row => (row.1, row.2.1))).withColumns blank
  | write id change next => write id
      (fun old => (change (old.map Prod.fst)).map fun row => (row, (old.map Prod.snd).getD blank))
      fun result => (next (result.map Prod.fst)).withColumns blank
  | insert row next => insert (row, blank) fun result => (next result).withColumns blank

theorem withColumns_bind (blank : X) (prog : Prog K R ε α) (next : α → Prog K R ε β) :
    (prog >>= next).withColumns blank = prog.withColumns blank >>= fun value => (next value).withColumns blank := by
  change (prog.bind next).withColumns blank = (prog.withColumns blank).bind _
  induction prog with
  | ret value => rfl
  | throw error => rfl
  | clock _ ih => exact congrArg clock (funext fun now => ih now)
  | select matching _ ih => exact congrArg (select _) (funext fun rows => ih _)
  | write id change _ ih => exact congrArg (write id _) (funext fun result => ih _)
  | insert row _ ih => exact congrArg (insert _) (funext fun result => ih result)

theorem withColumns_map (blank : X) (rename : α → β) (prog : Prog K R ε α) :
    (prog.map rename).withColumns blank = (prog.withColumns blank).map rename :=
  withColumns_bind blank prog fun value => ret (rename value)

-- Every version of a row that the statements can write is a step from the version before
-- it, or from none if the row is new.
def Changes (step : K → Option R → R → Prop) : Prog K R ε α → Prop
  | ret _ | throw _ => True
  | clock next => ∀ now, (next now).Changes step
  | select _ next => ∀ rows, (next rows).Changes step
  | write id change next =>
      (∀ old row, change old = some row → step id old row) ∧ ∀ result, (next result).Changes step
  | insert row next => (∀ id, step id none row) ∧ ∀ result, (next result).Changes step

variable {step : K → Option R → R → Prop} {prog : Prog K R ε α}

theorem Changes.bind {next : α → Prog K R ε β} (h : prog.Changes step)
    (hnext : ∀ value, (next value).Changes step) : (prog >>= next).Changes step := by
  change (prog.bind next).Changes step
  induction prog with
  | ret value => exact hnext value
  | throw error => trivial
  | clock _ ih => exact fun now => ih now (h now)
  | select _ _ ih => exact fun rows => ih rows (h rows)
  | write _ _ _ ih => exact ⟨h.1, fun result => ih result (h.2 result)⟩
  | insert _ _ ih => exact ⟨h.1, fun result => ih result (h.2 result)⟩

theorem Changes.mono (h : prog.Changes step) {other : K → Option R → R → Prop}
    (himp : ∀ id old row, step id old row → other id old row) : prog.Changes other := by
  induction prog with
  | ret value | throw error => trivial
  | clock _ ih => exact fun now => ih now (h now)
  | select _ _ ih => exact fun rows => ih rows (h rows)
  | write _ _ _ ih => exact
      ⟨fun old row hrow => himp _ _ _ (h.1 old row hrow), fun result => ih result (h.2 result)⟩
  | insert _ _ ih => exact ⟨fun id => himp _ _ _ (h.1 id), fun result => ih result (h.2 result)⟩

theorem changes_query (matching : K → R → Bool) : (query matching : Prog K R ε (List (K × R))).Changes step :=
  fun _ => trivial

theorem changes_dateNow : (dateNow : Prog K R ε Nat).Changes step := fun _ => trivial

-- With more columns, each step is one of the columns there were, and the others stay.
theorem Changes.withColumns {blank : X} (h : prog.Changes step) {wide : K → Option (R × X) → R × X → Prop}
    (hwide : ∀ id old row, step id (old.map Prod.fst) row → wide id old (row, (old.map Prod.snd).getD blank)) :
    (prog.withColumns blank).Changes wide := by
  induction prog with
  | ret value | throw error => trivial
  | clock _ ih => exact fun now => ih now (h now)
  | select _ _ ih => exact fun rows => ih _ (h _)
  | write _ _ _ ih =>
      refine ⟨fun old row hrow => ?_, fun result => ih _ (h.2 _)⟩
      obtain ⟨changed, hchange, rfl⟩ := Option.map_eq_some_iff.mp hrow
      exact hwide _ old changed (h.1 _ changed hchange)
  | insert _ _ ih => exact ⟨fun id => hwide id none _ (h.1 id), fun result => ih result (h.2 result)⟩

end Prog

variable [DecidableEq K] {rely : World K R γ C → World K R γ C → Prop} {inv : World K R γ C → Prop}
  {stages : Stages rely inv S} {stage : S} {prog : Prog K R ε α} {step : K → Option R → R → Prop}

-- Statements that only take such steps leave a stage as it is that every such step leaves,
-- and the loss of all that was written.
theorem Stages.Goes.of_changes (h : prog.Changes step)
    (hempty : ∀ world writes, stages.holds stage world writes → stages.holds stage world ∅)
    (hwrite : ∀ world writes id row, stages.holds stage world writes →
      step id ((writes ∪ world.committed).lookup id) row → stages.holds stage world (writes.insert id row)) :
    stages.Goes stage prog fun _ after => after = stage := by
  induction prog with
  | ret value => exact .ret rfl
  | throw error => exact .throw error
  | clock _ ih =>
      intro world writes hholds after ha
      exact ih _ (h _) after writes (stages.stable hholds ha)
  | select _ _ ih =>
      intro world writes hholds after ha rows _
      exact ih rows (h rows) after writes (stages.stable hholds ha)
  | write id change _ ih =>
      intro world writes hholds after ha
      have hafter := stages.stable hholds ha
      refine ⟨fun _ => ih none (h.2 none) after writes hafter, fun row hrow => ?_⟩
      exact ih (some row) (h.2 _) after _ (hwrite after writes id row hafter (h.1 _ row hrow))
  | insert row _ ih =>
      intro world writes hholds after ha
      have hafter := stages.stable hholds ha
      refine ⟨fun id hwrites hcommitted => ?_, ?_⟩
      · have hnew : (writes ∪ after.committed).lookup id = none := by
          rw [Table.lookup_union, AList.lookup_eq_none.mpr hwrites, AList.lookup_eq_none.mpr hcommitted]
          rfl
        exact ih (.inserted id) (h.2 _) after _ (hwrite after writes id row hafter (hnew ▸ h.1 id))
      · exact (ih .duplicateKey (h.2 _) after ∅ (hempty after writes hafter)).aborted

end CloudOps.ReadCommitted
