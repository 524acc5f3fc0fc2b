import SessionControl.Proofs.Policy.Refusal

/-!
# The limit of flows

How many flows the stored rules of a session have. A decision with more flows in a rule than the
limit allows is refused, but rules that are pushed are stored as they come. So the stored rules stay
within the limit exactly as long as those that are pushed are within it.

## Main definitions

- `Policy.WithinLimit` — no rule has more flows than a limit allows
- `Policy.BindingEngine.Spares` — an engine that leaves the session alone

## Main statements

- `Session.rules_handlePolicy` — which rules are stored after a message
- `Session.refusal?_eq_none_iff` — when a decision is not refused
- `Policy.BindingEngine.withinLimit_iff_of_run` — when the stored rules stay within the limit
- `Policy.BindingEngine.not_forall_withinLimit` — they need not
-/

namespace SessionControl

open Attempt

namespace Policy

/-- No rule has more flows than a limit allows. -/
def WithinLimit (limit : Nat) (rules : List Rule) : Prop :=
  ∀ r ∈ rules, r.flows.length ≤ limit

instance (limit : Nat) (rules : List Rule) : Decidable (WithinLimit limit rules) :=
  inferInstanceAs (Decidable (∀ r ∈ rules, r.flows.length ≤ limit))

end Policy

namespace Session

variable {s s' : Session} {config : Config} {m : Policy.Message} {answer : Option UInt32}

/-- The rules of a session are replaced by those of an accepted decision and by those that are
pushed, and by no others. -/
theorem rules_handlePolicy (hok : (s.handlePolicy config m).result = .ok (answer, s')) :
    s'.rules = if m.kind = .reauthorize ∨ s.accepts config m = true then m.decision.rules
      else s.rules := by
  cases haccepts : s.accepts config m with
  | true =>
    rw [if_pos (Or.inr rfl)]
    exact rules_compile (handlePolicy_of_accepts hok haccepts)
  | false =>
    rw [eq_of_not_accepts hok haccepts]
    by_cases hkind : m.kind = .reauthorize
    · rw [if_pos hkind, if_pos (Or.inl hkind)]
    · rw [if_neg hkind, if_neg (by simp [hkind])]

/-- A decision is not refused if the policy server reports success and all rules are within the
limit. -/
theorem refusal?_eq_none_iff (hvoice : s.isFor config.voiceNetwork = false) :
    s.refusal? config m = none ↔
      m.resultCode = ResultCode.success ∧ Policy.WithinLimit config.flowLimit m.decision.rules := by
  by_cases hsuccess : m.resultCode = ResultCode.success
  · simp [refusal?, hvoice, Policy.Message.isSuccess, Policy.WithinLimit, hsuccess]
  · simp [refusal?, hvoice, Policy.Message.isSuccess, hsuccess]

/-- A decision that is accepted for a session that is not exempt is within the limit. -/
theorem withinLimit_of_accepts (hvoice : s.isFor config.voiceNetwork = false)
    (haccepts : s.accepts config m = true) :
    Policy.WithinLimit config.flowLimit m.decision.rules := by
  rw [accepts, Bool.and_eq_true, Option.isNone_iff_eq_none] at haccepts
  exact ((refusal?_eq_none_iff hvoice).mp haccepts.2).2

end Session

namespace Policy.BindingEngine

variable {Memory : Type} {engine : BindingEngine Memory} {config : Config}
  {x y : Memory × Session} {m : Message} {ms : List Message} {answer : Option UInt32}
  {memory : Memory} {s₀ : Session}

/-- The engine leaves the session alone. -/
def Spares (engine : BindingEngine Memory) : Prop :=
  ∀ memory s x, (engine memory s).result = .ok x → x.2 = s

theorem Spares.keepsFrom (h : engine.Spares) (name : String) : engine.KeepsFrom name := by
  intro memory s x hbind hs
  rw [h memory s x hbind]
  exact hs

/-- With such an engine a message does to the session what it does without one. -/
theorem Spares.handle (h : engine.Spares)
    (hok : (engine.handle config x m).result = .ok (answer, y)) :
    (x.2.handlePolicy config m).result = .ok (answer, y.2) := by
  refine inv_handle (P := fun s => (x.2.handlePolicy config m).result = .ok (answer, s)) ?_
    (fun _ hpolicy => hpolicy) hok
  intro memory s z hbind hs
  rw [h memory s z hbind]
  exact hs

theorem result_run_concat : (engine.run config (ms ++ [m]) x).result = .ok y ↔
    ∃ z answer, (engine.run config ms x).result = .ok z ∧
      (engine.handle config z m).result = .ok (answer, y) := by
  rw [result_run_append]
  simp only [run, result_bind_eq_ok, result_pure, Except.ok.injEq]
  constructor
  · rintro ⟨z, hms, ⟨answer, z'⟩, hm, rfl⟩
    exact ⟨z, answer, hms, hm⟩
  · rintro ⟨z, answer, hms, hm⟩
    exact ⟨z, hms, (answer, y), hm, rfl⟩

/-- Take a session that is not exempt and has no rules, and an engine that leaves it alone. In a run
of messages all stored rules are within the limit after every message exactly if all rules that are
pushed are within it. -/
theorem withinLimit_iff_of_run (hengine : engine.Spares)
    (hvoice : s₀.isFor config.voiceNetwork = false) (hrules : s₀.rules = []) (memory : Memory)
    (ms : List Message) :
    (∀ before after x, ms = before ++ after →
        (engine.run config before (memory, s₀)).result = .ok x →
        WithinLimit config.flowLimit x.2.rules) ↔
      ∀ before m after x, ms = before ++ m :: after →
        (engine.run config (before ++ [m]) (memory, s₀)).result = .ok x →
        m.kind = .reauthorize → WithinLimit config.flowLimit m.decision.rules := by
  constructor
  · intro hall before m after x hms hrun hkind
    obtain ⟨y, answer, -, hm⟩ := result_run_concat.mp hrun
    have hstored := Session.rules_handlePolicy (hengine.handle hm)
    rw [if_pos (Or.inl hkind)] at hstored
    rw [← hstored]
    exact hall (before ++ [m]) after x (by rw [hms, List.append_assoc]; rfl) hrun
  · intro hpushed before
    induction before using List.reverseRecOn with
    | nil =>
      intro after x _ hrun
      obtain rfl := Except.ok.inj hrun
      rw [hrules]
      exact fun r hr => absurd hr List.not_mem_nil
    | append_singleton before m ih =>
      intro after x hms hrun
      rw [List.append_assoc, List.singleton_append] at hms
      obtain ⟨y, answer, hbefore, hm⟩ := result_run_concat.mp hrun
      have hy : y.2.isFor config.voiceNetwork = false :=
        isFor_run (hengine.keepsFrom _) hvoice hbefore
      -- Either the rules of the message are stored or those before it stay.
      rw [Session.rules_handlePolicy (hengine.handle hm)]
      split
      · next hstores =>
        obtain hkind | haccepts := hstores
        · exact hpushed before m after x hms hrun hkind
        · exact Session.withinLimit_of_accepts hy haccepts
      · exact ih (m :: after) y hms hbefore

/-- An engine that does nothing. -/
def idle : BindingEngine Unit := fun memory s => pure (memory, s)

theorem spares_idle : idle.Spares := by
  intro memory s x hbind
  obtain rfl := Except.ok.inj hbind
  rfl

/-- A decision with too many flows is refused, and other rules are pushed: the stored rules are
within the limit all the time. -/
theorem withinLimit_iff_of_run_refused :
    ¬WithinLimit ({} : Config).flowLimit crowded.decision.rules ∧
      (∃ x, (idle.run {} [Session.metering [10], crowded, pushed] ((), Session.attached)).result =
        .ok x) ∧
      ∀ before after x, [Session.metering [10], crowded, pushed] = before ++ after →
        (idle.run {} before ((), Session.attached)).result = .ok x →
        WithinLimit ({} : Config).flowLimit x.2.rules := by
  refine ⟨by decide, ⟨_, rfl⟩, (withinLimit_iff_of_run spares_idle rfl rfl () _).mpr ?_⟩
  intro before m after x hms _ hkind
  have hmem : m ∈ [Session.metering [10], crowded, pushed] := by simp [hms]
  simp only [List.mem_cons, List.not_mem_nil, or_false] at hmem
  obtain rfl | rfl | rfl := hmem
  · cases hkind
  · cases hkind
  · decide

/-- It is not so that the stored rules stay within the limit in every run: the same decision is
stored if it is pushed. -/
theorem not_forall_withinLimit :
    ¬∀ (s₀ : Session) (config : Config) (ms : List Message) (x : Unit × Session),
      s₀.isFor config.voiceNetwork = false → s₀.rules = [] →
      (idle.run config ms ((), s₀)).result = .ok x → WithinLimit config.flowLimit x.2.rules := by
  intro hall
  have hwithin := hall Session.attached {} [{ crowded with kind := .reauthorize }] _ rfl rfl rfl
  revert hwithin
  decide

end Policy.BindingEngine

end SessionControl
