import Mathlib.Init

namespace CloudOps.Effects

-- Code outside a transaction: what it has done stays done when it throws.
abbrev EffectM (ε σ : Type) := ExceptT ε (StateM σ)

variable {ε σ α β ι : Type}

def exec (tx : EffectM ε σ α) (state : σ) : Except ε α × σ := tx.run.run state

def forEach (body : ι → EffectM ε σ Unit) : List ι → EffectM ε σ Unit
  | [] => return
  | item :: rest => do
      body item
      forEach body rest

-- A body whose failure is logged, and no more.
def caught (tx : EffectM ε σ Unit) : EffectM ε σ Unit := tryCatch tx fun _ => return

variable {tx : EffectM ε σ α} {next : α → EffectM ε σ β} {state after : σ}

theorem exec_pure (value : α) : exec (pure value : EffectM ε σ α) state = (.ok value, state) := rfl

theorem exec_throw (error : ε) : exec (throw error : EffectM ε σ α) state = (.error error, state) := rfl

theorem exec_modify (change : σ → σ) :
    exec (modify change : EffectM ε σ Unit) state = (.ok (), change state) := rfl

theorem exec_bind_ok {value : α} (h : exec tx state = (.ok value, after)) :
    exec (tx >>= next) state = exec (next value) after := by
  unfold exec at h ⊢
  rw [ExceptT.run_bind, StateT.run_bind, h]
  rfl

theorem exec_bind_error {error : ε} (h : exec tx state = (.error error, after)) :
    exec (tx >>= next) state = (.error error, after) := by
  unfold exec at h ⊢
  rw [ExceptT.run_bind, StateT.run_bind, h]
  rfl

theorem exec_modify_bind (change : σ → σ) {next : Unit → EffectM ε σ β} :
    exec ((modify change : EffectM ε σ Unit) >>= next) state = exec (next ()) (change state) := rfl

theorem exec_get_bind {next : σ → EffectM ε σ β} :
    exec ((get : EffectM ε σ σ) >>= next) state = exec (next state) state := rfl

theorem exec_set_bind (replacement : σ) {next : Unit → EffectM ε σ β} :
    exec ((set replacement : EffectM ε σ Unit) >>= fun _ => next ()) state = exec (next ()) replacement := rfl

theorem exec_tryCatch (handle : ε → EffectM ε σ α) :
    exec (tryCatch tx handle) state =
      match exec tx state with
      | (.ok value, after) => (.ok value, after)
      | (.error error, after) => exec (handle error) after := by
  rcases h : exec tx state with ⟨result, after⟩
  have hrun : StateT.run tx state = (result, after) := h
  unfold exec
  simp only [tryCatch, tryCatchThe, MonadExceptOf.tryCatch, ExceptT.tryCatch, ExceptT.run_mk,
    StateT.run_bind, hrun]
  cases result <;> rfl

theorem exec_caught (tx : EffectM ε σ Unit) : exec (caught tx) state = (.ok (), (exec tx state).2) := by
  unfold caught
  rw [exec_tryCatch]
  rcases exec tx state with ⟨result, after⟩
  cases result <;> rfl

theorem exec_forEach_cons_ok {body : ι → EffectM ε σ Unit} {item : ι} (rest : List ι)
    (h : exec (body item) state = (.ok (), after)) :
    exec (forEach body (item :: rest)) state = exec (forEach body rest) after := exec_bind_ok h

theorem exec_forEach_cons_error {body : ι → EffectM ε σ Unit} {item : ι} (rest : List ι) {error : ε}
    (h : exec (body item) state = (.error error, after)) :
    exec (forEach body (item :: rest)) state = (.error error, after) := exec_bind_error h

end CloudOps.Effects
