import SessionControl.Trace.Traced

/-!
# Results of attempts

What an attempt comes to, without its trace. A sequence of attempts succeeds exactly if each of
them does, so a successful operation is taken apart step by step, and put together again.

## Main statements

- `Attempt.result_bind_eq_ok` — a sequence succeeds exactly if both parts do
- `Attempt.result_require_eq_ok`, `Attempt.result_ensure_eq_ok`, `Attempt.result_ofGraph_eq_ok` —
  when the basic attempts succeed
- `Attempt.inv_foldlM`, `Attempt.exists_result_foldlM` — what a fold of attempts keeps, and that
  it succeeds
-/

namespace SessionControl

namespace Traced

variable {α β : Type}

/-- The value of a traced fold is the fold of the values. -/
theorem value_foldlM (f : β → α → Traced β) (b : β) (as : List α) :
    (as.foldlM f b).value = as.foldl (fun b a => (f b a).value) b := by
  induction as generalizing b with
  | nil => rfl
  | cons a as ih => rw [List.foldlM_cons, value_bind, ih, List.foldl_cons]

section Except

variable {ε : Type} {x : ExceptT ε Traced α} {f : α → ExceptT ε Traced β}

/-- After a computation that succeeds the next one runs. -/
theorem run_bind_of_ok {a : α} (h : x.run.value = .ok a) :
    (x >>= f).run = x.run >>= fun _ => (f a).run := by
  have hcont : ExceptT.bindCont f x.run.value = (f a).run := by rw [h]; rfl
  change x.run >>= ExceptT.bindCont f = _
  ext1
  · rw [value_bind, value_bind, hcont]
  · rw [calls_bind, calls_bind, hcont]
  · rw [notices_bind, notices_bind, hcont]

/-- After a computation that fails nothing else runs. -/
theorem run_bind_of_error {e : ε} (h : x.run.value = .error e) :
    (x >>= f).run = x.run >>= fun _ => pure (.error e) := by
  have hcont : ExceptT.bindCont f x.run.value = pure (.error e) := by rw [h]; rfl
  change x.run >>= ExceptT.bindCont f = _
  ext1
  · rw [value_bind, value_bind, hcont]
  · rw [calls_bind, calls_bind, hcont]
  · rw [notices_bind, notices_bind, hcont]

end Except

end Traced

namespace Attempt

variable {α β : Type}

@[simp]
theorem result_pure (a : α) : (pure a : Attempt α).result = .ok a := rfl

@[simp]
theorem result_throw (fault : Fault) : (throw fault : Attempt α).result = .error fault := rfl

@[simp]
theorem result_lift (x : Traced α) : (liftM x : Attempt α).result = .ok x.value := rfl

/-- A sequence of two attempts succeeds exactly if both of them do. -/
theorem result_bind_eq_ok {x : Attempt α} {f : α → Attempt β} {b : β} :
    (x >>= f).result = .ok b ↔ ∃ a, x.result = .ok a ∧ (f a).result = .ok b := by
  cases hx : x.run.value with
  | ok a =>
    rw [result, Traced.run_bind_of_ok hx]
    simp [result, hx]
  | error fault =>
    rw [result, Traced.run_bind_of_error hx]
    simp [result, hx]

@[simp]
theorem result_require_eq_ok {fault : Fault} {o : Option α} {a : α} :
    (require fault o).result = .ok a ↔ o = some a := by
  cases o <;> simp [require]

@[simp]
theorem result_ensure_eq_ok {fault : Fault} {condition : Bool} {u : Unit} :
    (ensure fault condition).result = .ok u ↔ condition = true := by
  cases condition <;> simp [ensure]

@[simp]
theorem result_ofGraph_eq_ok {x : Except GraphFault α} {a : α} :
    (ofGraph x).result = .ok a ↔ x = .ok a := by
  cases x <;> simp [ofGraph]

section Fold

variable {f : β → α → Attempt β} {as : List α} {b c : β} {P : β → Prop}

theorem result_foldlM_cons {a : α} :
    ((a :: as).foldlM f b).result = .ok c ↔
      ∃ b', (f b a).result = .ok b' ∧ (as.foldlM f b').result = .ok c := by
  rw [List.foldlM_cons, result_bind_eq_ok]

/-- What every step of a fold keeps is kept by the fold. -/
theorem inv_foldlM (hstep : ∀ a ∈ as, ∀ b b', P b → (f b a).result = .ok b' → P b') (hb : P b)
    (hok : (as.foldlM f b).result = .ok c) : P c := by
  induction as generalizing b with
  | nil => exact Except.ok.inj hok ▸ hb
  | cons a as ih =>
    obtain ⟨b', ha, has⟩ := result_foldlM_cons.mp hok
    have hb' : P b' := hstep a List.mem_cons_self b b' hb ha
    exact ih (fun a' ha' => hstep a' (List.mem_cons_of_mem a ha')) hb' has

/-- A fold succeeds if every step does wherever a property holds, and keeps the property. -/
theorem exists_result_foldlM
    (hstep : ∀ a ∈ as, ∀ b, P b → ∃ b', (f b a).result = .ok b' ∧ P b') (hb : P b) :
    ∃ c, (as.foldlM f b).result = .ok c ∧ P c := by
  induction as generalizing b with
  | nil => exact ⟨b, rfl, hb⟩
  | cons a as ih =>
    obtain ⟨b', ha, hb'⟩ := hstep a List.mem_cons_self b hb
    obtain ⟨c, hc, hPc⟩ := ih (fun a' ha' => hstep a' (List.mem_cons_of_mem a ha')) hb'
    exact ⟨c, result_foldlM_cons.mpr ⟨b', ha, hc⟩, hPc⟩

end Fold

end Attempt

end SessionControl
