import CloudOps.Effects
import CloudOps.Transaction

namespace CloudOps.SharedTransaction

-- A transaction that code runs statement by statement, catching what fails. A failed
-- statement aborts it: every later one fails, and COMMIT rolls back.
structure Session (σ : Type) where
  tables : σ
  aborted : Bool

abbrev SessionM (ε σ : Type) := ExceptT ε (StateM (Session σ))

variable {ε σ α β ι : Type}

def exec (tx : SessionM ε σ α) (session : Session σ) : Except ε α × Session σ := tx.run.run session

def statement (inAborted : ε) (run : σ → Except ε (α × σ)) : SessionM ε σ α :=
  ExceptT.mk fun session =>
    if session.aborted then (.error inAborted, session)
    else
      match run session.tables with
      | .ok (value, tables) => (.ok value, ⟨tables, false⟩)
      | .error error => (.error error, ⟨session.tables, true⟩)

-- A loop that catches the failure of an item, and counts those that say so.
def countCaught (body : ι → SessionM ε σ Bool) : List ι → Nat → SessionM ε σ Nat
  | [], count => return count
  | item :: rest, count => do
      let counted ← tryCatch (body item) fun _ => return false
      countCaught body rest (if counted then count + 1 else count)

-- What is committed.
def commit (tx : SessionM ε σ α) (before : σ) : σ :=
  match exec tx ⟨before, false⟩ with
  | (.ok _, session) => if session.aborted then before else session.tables
  | (.error _, _) => before

-- The tables as one item leaves them, or none where a statement of it fails.
def effect (body : ι → SessionM ε σ Bool) (tables : σ) (item : ι) : Option σ :=
  let session := (exec (body item) ⟨tables, false⟩).2
  if session.aborted then none else some session.tables

section Exec

variable {tx : SessionM ε σ α} {next : α → SessionM ε σ β} {session after : Session σ}

theorem exec_bind_ok {value : α} (h : exec tx session = (.ok value, after)) :
    exec (tx >>= next) session = exec (next value) after := Effects.exec_bind_ok h

theorem exec_bind_error {error : ε} (h : exec tx session = (.error error, after)) :
    exec (tx >>= next) session = (.error error, after) := Effects.exec_bind_error h

theorem exec_statement {inAborted : ε} {run : σ → Except ε (α × σ)} (tables : σ) :
    exec (statement inAborted run) ⟨tables, false⟩ =
      match run tables with
      | .ok (value, tables) => (.ok value, ⟨tables, false⟩)
      | .error error => (.error error, ⟨tables, true⟩) := rfl

theorem exec_tryCatch (handle : ε → SessionM ε σ α) :
    exec (tryCatch tx handle) session =
      match exec tx session with
      | (.ok value, after) => (.ok value, after)
      | (.error error, after) => exec (handle error) after := by
  have hcaught := @Effects.exec_tryCatch ε (Session σ) α tx session handle
  rcases h : exec tx session with ⟨result, after⟩
  change Effects.exec tx session = (result, after) at h
  rw [h] at hcaught
  cases result <;> exact hcaught

end Exec

-- The code leaves an aborted session aborted. Code made of statements does.
def Stays (tx : SessionM ε σ α) : Prop := ∀ tables, (exec tx ⟨tables, true⟩).2 = ⟨tables, true⟩

namespace Stays

theorem pure (value : α) : Stays (pure value : SessionM ε σ α) := fun _ => rfl

theorem statement (inAborted : ε) (run : σ → Except ε (α × σ)) : Stays (statement inAborted run) :=
  fun _ => rfl

theorem bind {tx : SessionM ε σ α} {next : α → SessionM ε σ β} (h : Stays tx)
    (hnext : ∀ value, Stays (next value)) : Stays (tx >>= next) := by
  intro tables
  have hafter := h tables
  rcases hexec : exec tx ⟨tables, true⟩ with ⟨result, after⟩
  rw [hexec] at hafter
  obtain rfl := hafter
  cases result with
  | ok value => rw [exec_bind_ok hexec, hnext]
  | error error => rw [exec_bind_error hexec]

theorem tryCatch {tx : SessionM ε σ α} {handle : ε → SessionM ε σ α} (h : Stays tx)
    (hhandle : ∀ error, Stays (handle error)) : Stays (tryCatch tx handle) := by
  intro tables
  have hafter := h tables
  rw [exec_tryCatch]
  rcases hexec : exec tx ⟨tables, true⟩ with ⟨result, after⟩
  rw [hexec] at hafter
  obtain rfl := hafter
  cases result with
  | ok value => rfl
  | error error => exact hhandle error tables

theorem countCaught {body : ι → SessionM ε σ Bool} (h : ∀ item, Stays (body item)) (items : List ι)
    (count : Nat) : Stays (countCaught body items count) := by
  induction items generalizing count with
  | nil => exact pure count
  | cons item rest ih => exact (tryCatch (h item) fun _ => pure false).bind fun counted => ih _

end Stays

section Loop

variable {body : ι → SessionM ε σ Bool}

-- One item and its catch: the loop goes on in any case.
theorem exec_countCaught_cons (item : ι) (rest : List ι) (count : Nat) (session : Session σ) :
    ∃ counted, exec (countCaught body (item :: rest) count) session =
      exec (countCaught body rest counted) (exec (body item) session).2 := by
  have hcaught : ∃ counted, exec (tryCatch (body item) fun _ => pure false) session =
      (.ok counted, (exec (body item) session).2) := by
    rw [exec_tryCatch]
    rcases exec (body item) session with ⟨result, after⟩
    cases result with
    | ok counted => exact ⟨counted, rfl⟩
    | error error => exact ⟨false, rfl⟩
  obtain ⟨counted, hcounted⟩ := hcaught
  exact ⟨_, exec_bind_ok hcounted⟩

theorem exec_countCaught_ok (items : List ι) (count : Nat) (session : Session σ) :
    ∃ counted after, exec (countCaught body items count) session = (.ok counted, after) := by
  induction items generalizing count session with
  | nil => exact ⟨count, session, rfl⟩
  | cons item rest ih =>
      obtain ⟨counted, hcons⟩ := exec_countCaught_cons item rest count session
      rw [hcons]
      exact ih counted _

theorem exec_countCaught (hstays : ∀ item, Stays (body item)) (items : List ι) (count : Nat) (tables : σ) :
    (if (exec (countCaught body items count) ⟨tables, false⟩).2.aborted then none
      else some (exec (countCaught body items count) ⟨tables, false⟩).2.tables) =
    items.foldlM (effect body) tables := by
  induction items generalizing count tables with
  | nil => rfl
  | cons item rest ih =>
      obtain ⟨counted, hcons⟩ := exec_countCaught_cons item rest count ⟨tables, false⟩
      rw [hcons, List.foldlM_cons, effect]
      rcases hsession : (exec (body item) ⟨tables, false⟩).2 with ⟨after, aborted⟩
      cases aborted with
      | true =>
          rw [Stays.countCaught hstays rest counted after]
          rfl
      | false => exact ih counted after

-- All or nothing: the items are committed together, or none is.
theorem commit_countCaught (hstays : ∀ item, Stays (body item)) (items : List ι) (count : Nat) (before : σ) :
    commit (countCaught body items count) before = (items.foldlM (effect body) before).getD before := by
  obtain ⟨counted, ⟨after, aborted⟩, hexec⟩ :=
    exec_countCaught_ok items count ⟨before, false⟩
  rw [commit, ← exec_countCaught hstays items count before, hexec]
  cases aborted <;> rfl

end Loop

-- Where it is the item alone that decides whether it fails.
section Fails

variable {body : ι → SessionM ε σ Bool} {fails : ι → Bool} (hstays : ∀ item, Stays (body item))
  (hfails : ∀ tables item, (effect body tables item).isNone = fails item)
include hstays hfails

theorem commit_of_fails {items : List ι} (h : ∃ item ∈ items, fails item = true) (count : Nat) (before : σ) :
    commit (countCaught body items count) before = before := by
  have hnone : ∀ tables, items.foldlM (effect body) tables = none := by
    induction items with
    | nil => simp at h
    | cons item rest ih =>
        intro tables
        rw [List.foldlM_cons]
        have hitem := hfails tables item
        cases heffect : effect body tables item with
        | none => rfl
        | some after =>
            rw [heffect] at hitem
            obtain ⟨other, hother, hfailing⟩ := h
            rcases List.mem_cons.mp hother with rfl | hmem
            · simp [hfailing] at hitem
            · exact ih ⟨other, hmem, hfailing⟩ after
  rw [commit_countCaught hstays, hnone]
  rfl

theorem foldlM_of_no_fails {items : List ι} (h : ∀ item ∈ items, fails item = false) (count : Nat) (before : σ) :
    items.foldlM (effect body) before = some (commit (countCaught body items count) before) := by
  have hsome : ∀ tables, ∃ after, items.foldlM (effect body) tables = some after := by
    induction items with
    | nil => exact fun tables => ⟨tables, rfl⟩
    | cons item rest ih =>
        intro tables
        obtain ⟨hitem, hrest⟩ := List.forall_mem_cons.mp h
        have heffect := hfails tables item
        cases hafter : effect body tables item with
        | none => simp [hafter, hitem] at heffect
        | some after =>
            rw [List.foldlM_cons, hafter]
            exact ih hrest after
  obtain ⟨after, hafter⟩ := hsome before
  rw [commit_countCaught hstays, hafter]
  rfl

-- A loop in which no item fails, part by part.
theorem commit_append {first second : List ι} (h : ∀ item ∈ first ++ second, fails item = false) (count : Nat)
    (before : σ) :
    commit (countCaught body (first ++ second) count) before =
      commit (countCaught body second count) (commit (countCaught body first count) before) := by
  obtain ⟨hfirst, hsecond⟩ := List.forall_mem_append.mp h
  have hall := foldlM_of_no_fails hstays hfails h count before
  rw [List.foldlM_append, foldlM_of_no_fails hstays hfails hfirst count] at hall
  exact Option.some.inj (hall.symm.trans (foldlM_of_no_fails hstays hfails hsecond count _))

theorem commit_singleton {item : ι} (h : fails item = false) (count : Nat) (before : σ) :
    effect body before item = some (commit (countCaught body [item] count) before) := by
  have hitem := foldlM_of_no_fails hstays hfails (List.forall_mem_singleton.mpr h) count before
  rw [List.foldlM_cons] at hitem
  cases heffect : effect body before item with
  | none =>
      rw [heffect] at hitem
      cases hitem
  | some after =>
      rw [heffect] at hitem
      exact hitem

-- What a pass commits agrees with what one over the items that do not fail commits, if
-- none fails or the others change nothing, and only then.
theorem agrees_filter_iff (agree : σ → σ → Prop) (hrefl : ∀ tables, agree tables tables) (items : List ι)
    (count : Nat) (before : σ) :
    agree (commit (countCaught body items count) before)
        (commit (countCaught body (items.filter fun item => !fails item) count) before) ↔
      (∀ item ∈ items, fails item = false) ∨
        agree before (commit (countCaught body (items.filter fun item => !fails item) count) before) := by
  by_cases hnone : ∀ item ∈ items, fails item = false
  · have hsame : items.filter (fun item => !fails item) = items :=
      List.filter_eq_self.mpr fun item hmem => by simp [hnone item hmem]
    rw [hsame]
    exact ⟨fun _ => .inl hnone, fun _ => hrefl _⟩
  · have hsome : ∃ item ∈ items, fails item = true := by simpa using hnone
    rw [commit_of_fails hstays hfails hsome]
    simp [hnone]

end Fails

end CloudOps.SharedTransaction
