import SessionControl.Proofs.Policy.Charging
import SessionControl.Proofs.Policy.Frame

/-!
# Refused decisions

A decision that is refused is not installed in part: the session stays as it is, and the answer
says why. So in a run of messages the refused decisions might as well not have come, and neither
might the messages that ask for nothing.

Pushed rules are bound to bearers by an engine outside of this development. Nothing is known
about it here but that it does not move a session to the voice service.

## Main definitions

- `Policy.BindingEngine` — what binds pushed rules to bearers
- `Policy.BindingEngine.handle`, `Policy.BindingEngine.run` — messages with the engine at work
- `Policy.Message.takesEffect` — a message that is not refused and asks for something

## Main statements

- `Session.inv_handlePolicyWith` — what the engine keeps holds after a message
- `Policy.BindingEngine.handle_eq` — an engine with a memory is one without it, message by message
- `Policy.BindingEngine.inv_run` — what messages and the engine keep holds after a run
- `Policy.BindingEngine.run_filter_takesEffect` — a run without the other messages
- `Policy.BindingEngine.refused_of_run` — what a refusal does, and a run without refusals
-/

namespace SessionControl

open Attempt

namespace Session

variable {s s' : Session} {config : Config} {m : Policy.Message} {answer : Option UInt32}

/-- A message of the policy server changes no more of a session than an installation does. -/
theorem frame_handlePolicy
    (hok : (s.handlePolicy config m).result = .ok (answer, s')) :
    s' = { s with
      rates := s'.rates
      qos := s'.qos
      rules := s'.rules
      graph := s'.graph
      bearer := s'.bearer
      fromControlPdr := s'.fromControlPdr
      toControlPdr := s'.toControlPdr
      toControlFar := s'.toControlFar
      ratesQer := s'.ratesQer
      changed := s'.changed } := by
  cases haccepts : s.accepts config m with
  | true => exact frame_compile (handlePolicy_of_accepts hok haccepts)
  | false => rw [handlePolicy_of_not_accepts hok haccepts]

theorem isFor_handlePolicy (hok : (s.handlePolicy config m).result = .ok (answer, s'))
    (name : String) : s'.isFor name = s.isFor name := by
  rw [isFor, frame_handlePolicy hok]
  rfl

/-- What holds of a session after a message of the policy server holds in the end, if the engine
that binds pushed rules keeps it. -/
theorem inv_handlePolicyWith {P : Session → Prop} {bind : Session → Attempt Session}
    (hbind : ∀ s s', (bind s).result = .ok s' → P s → P s')
    (hpolicy : ∀ s₁, (s.handlePolicy config m).result = .ok (answer, s₁) → P s₁)
    (hok : (s.handlePolicyWith config m bind).result = .ok (answer, s')) : P s' := by
  simp only [handlePolicyWith, result_bind_eq_ok] at hok
  obtain ⟨⟨answer₁, s₁⟩, hs₁, hrest⟩ := hok
  split at hrest
  · simp only [result_bind_eq_ok, result_pure, Except.ok.injEq, Prod.mk.injEq] at hrest
    obtain ⟨s₂, hbound, rfl, rfl⟩ := hrest
    exact hbind s₁ s₂ hbound (hpolicy s₁ hs₁)
  · simp only [result_pure, Except.ok.injEq, Prod.mk.injEq] at hrest
    obtain ⟨rfl, rfl⟩ := hrest
    exact hpolicy s₁ hs₁

/-- What an installation and the engine keep of a session is kept. -/
theorem keeps_handlePolicyWith {β : Type} {f : Session → β} {bind : Session → Attempt Session}
    (hbind : ∀ s s', (bind s).result = .ok s' → f s' = f s)
    (hpolicy : ∀ s₁, (s.handlePolicy config m).result = .ok (answer, s₁) → f s₁ = f s)
    (hok : (s.handlePolicyWith config m bind).result = .ok (answer, s')) : f s' = f s :=
  inv_handlePolicyWith (P := fun s₁ => f s₁ = f s)
    (fun s₁ s₂ hbound hs₁ => (hbind s₁ s₂ hbound).trans hs₁) hpolicy hok

theorem refusal?_of_not_isSuccess (hvoice : s.isFor config.voiceNetwork = false)
    (hm : m.isSuccess = false) :
    s.refusal? config m = some (.unsuccessful m.resultCode m.error) := by
  simp [refusal?, hvoice, hm]

/-- The first rule with too many flows is the reason for the refusal, wherever it stands. -/
theorem exists_refusal?_of_flows (hvoice : s.isFor config.voiceNetwork = false)
    (hm : m.isSuccess = true)
    (hflows : ∃ r ∈ m.decision.rules, config.flowLimit < r.flows.length) :
    ∃ r, s.refusal? config m = some (.tooManyFlows r config.flowLimit) := by
  have hfind : (m.decision.rules.find? fun r =>
      decide (config.flowLimit < r.flows.length)).isSome := by
    simpa using hflows
  obtain ⟨r, hr⟩ := Option.isSome_iff_exists.mp hfind
  exact ⟨r, by simp [refusal?, hvoice, hm, hr]⟩

end Session

namespace Policy

/-- Whether a message does anything to a session that is not exempt: it pushes rules, or it brings
a decision that is not refused. -/
def Message.takesEffect (config : Config) (m : Message) : Bool :=
  match m.kind with
  | .initialAnswer =>
    m.isSuccess && m.decision.rules.all fun r => decide (r.flows.length ≤ config.flowLimit)
  | .reauthorize => true
  | .terminationAnswer | .updateAnswer => false

/-- An engine that binds pushed rules to bearers. It has a memory of its own, and it may change
the session, make calls and end in a fault. -/
def BindingEngine (Memory : Type) : Type :=
  Memory → Session → Attempt (Memory × Session)

namespace BindingEngine

variable {Memory : Type}

/-- The engine does not turn a session for another network into one for the network `name`. -/
def KeepsFrom (engine : BindingEngine Memory) (name : String) : Prop :=
  ∀ memory s x, (engine memory s).result = .ok x → s.isFor name = false → x.2.isFor name = false

/-- Handles a message of the policy server, and lets the engine bind rules that were pushed. -/
def handle (engine : BindingEngine Memory) (config : Config) (x : Memory × Session)
    (m : Message) : Attempt (Option UInt32 × Memory × Session) := do
  let (answer, s) ← x.2.handlePolicy config m
  if m.kind = .reauthorize then
    let x ← engine x.1 s
    pure (answer, x)
  else pure (answer, x.1, s)

/-- Handles messages of the policy server one after another. -/
def run (engine : BindingEngine Memory) (config : Config) :
    List Message → Memory × Session → Attempt (Memory × Session)
  | [], x => pure x
  | m :: ms, x => do
    let (_, x) ← engine.handle config x m
    engine.run config ms x

variable {engine : BindingEngine Memory} {config : Config} {x x' : Memory × Session}
  {m : Message} {ms : List Message}

/-! ## One message -/

/-- To the session a message does what it does with an engine without a memory that acts as this one
does with the memory that it has. -/
theorem handle_eq (engine : BindingEngine Memory) (config : Config) (x : Memory × Session)
    (m : Message) :
    (fun y => (y.1, y.2.2)) <$> engine.handle config x m =
      x.2.handlePolicyWith config m fun s => Prod.snd <$> engine x.1 s := by
  simp only [handle, Session.handlePolicyWith, map_eq_pure_bind, bind_assoc]
  congr 1
  funext y
  split <;> simp

/-- What holds of the session after a message holds in the end, if the engine keeps it. -/
theorem inv_handle {P : Session → Prop} {answer : Option UInt32}
    (hengine : ∀ memory s y, (engine memory s).result = .ok y → P s → P y.2)
    (hpolicy : ∀ s, (x.2.handlePolicy config m).result = .ok (answer, s) → P s)
    (hok : (engine.handle config x m).result = .ok (answer, x')) : P x'.2 := by
  have hwith : (x.2.handlePolicyWith config m fun s => Prod.snd <$> engine x.1 s).result =
      .ok (answer, x'.2) := by
    rw [← handle_eq, map_eq_pure_bind, result_bind_eq_ok]
    exact ⟨_, hok, rfl⟩
  refine Session.inv_handlePolicyWith (fun s s' hbind hs => ?_) hpolicy hwith
  rw [map_eq_pure_bind, result_bind_eq_ok] at hbind
  obtain ⟨y, hy, hs'⟩ := hbind
  obtain rfl := Except.ok.inj hs'
  exact hengine x.1 s y hy hs

theorem isFor_handle {answer : Option UInt32} (hengine : engine.KeepsFrom config.voiceNetwork)
    (hvoice : x.2.isFor config.voiceNetwork = false)
    (hok : (engine.handle config x m).result = .ok (answer, x')) :
    x'.2.isFor config.voiceNetwork = false :=
  inv_handle hengine (fun _ hpolicy => (Session.isFor_handlePolicy hpolicy _).trans hvoice) hok

/-- A refused decision changes nothing, and the reason is answered. -/
theorem run_handle_of_refusal {refusal : Refusal} (hkind : m.kind = .initialAnswer)
    (hrefusal : x.2.refusal? config m = some refusal) :
    (engine.handle config x m).run.value = .ok (some refusal.answer, x) ∧
      (engine.handle config x m).run.calls = [] := by
  simp only [handle, Session.handlePolicy, Session.install, hkind, hrefusal]
  exact ⟨rfl, rfl⟩

/-- A message that does not take effect leaves everything as it is, and nothing is called. -/
theorem run_handle_of_not_takesEffect (engine : BindingEngine Memory)
    (hvoice : x.2.isFor config.voiceNetwork = false)
    (hm : m.takesEffect config = false) :
    ∃ answer, (engine.handle config x m).run.value = .ok (answer, x) ∧
      (engine.handle config x m).run.calls = [] := by
  cases hkind : m.kind with
  | initialAnswer =>
    cases hsuccess : m.isSuccess with
    | false =>
      have hrefusal := Session.refusal?_of_not_isSuccess hvoice hsuccess
      exact ⟨_, run_handle_of_refusal hkind hrefusal⟩
    | true =>
      have hflows : ∃ r ∈ m.decision.rules, config.flowLimit < r.flows.length := by
        simpa [Message.takesEffect, hkind, hsuccess] using hm
      obtain ⟨r, hrefusal⟩ := Session.exists_refusal?_of_flows hvoice hsuccess hflows
      exact ⟨_, run_handle_of_refusal hkind hrefusal⟩
  | terminationAnswer =>
    simp only [handle, Session.handlePolicy, hkind]
    exact ⟨_, rfl, rfl⟩
  | updateAnswer =>
    simp only [handle, Session.handlePolicy, hkind]
    exact ⟨_, rfl, rfl⟩
  | reauthorize => simp [Message.takesEffect, hkind] at hm

/-! ## Runs -/

theorem result_run_append {ms' : List Message} :
    (engine.run config (ms ++ ms') x).result = .ok x' ↔
      ∃ y, (engine.run config ms x).result = .ok y ∧ (engine.run config ms' y).result = .ok x' := by
  induction ms generalizing x with
  | nil => simp [run]
  | cons m ms ih =>
    simp only [List.cons_append, run, result_bind_eq_ok, ih]
    constructor
    · rintro ⟨y, hm, z, hms, hms'⟩
      exact ⟨z, ⟨y, hm, hms⟩, hms'⟩
    · rintro ⟨z, ⟨y, hm, hms⟩, hms'⟩
      exact ⟨y, hm, z, hms, hms'⟩

/-- What messages and the engine keep of the session holds after a run. -/
theorem inv_run {P : Session → Prop}
    (hengine : ∀ memory s y, (engine memory s).result = .ok y → P s → P y.2)
    (hpolicy : ∀ m s s' answer, (s.handlePolicy config m).result = .ok (answer, s') → P s → P s')
    (hx : P x.2) (hok : (engine.run config ms x).result = .ok x') : P x'.2 := by
  induction ms generalizing x with
  | nil =>
    rw [run, result_pure, Except.ok.injEq] at hok
    exact hok ▸ hx
  | cons m ms ih =>
    simp only [run, result_bind_eq_ok] at hok
    obtain ⟨⟨answer, y⟩, hm, hrest⟩ := hok
    exact ih (inv_handle hengine (fun s hs => hpolicy m x.2 s answer hs hx) hm) hrest

theorem isFor_run (hengine : engine.KeepsFrom config.voiceNetwork)
    (hvoice : x.2.isFor config.voiceNetwork = false)
    (hok : (engine.run config ms x).result = .ok x') :
    x'.2.isFor config.voiceNetwork = false := by
  refine inv_run hengine ?_ hvoice hok
  intro m s s' answer hpolicy hs
  exact (Session.isFor_handlePolicy hpolicy _).trans hs

/-- A run comes to the same and calls the same without the messages that do not take effect. -/
theorem run_filter_takesEffect (hengine : engine.KeepsFrom config.voiceNetwork)
    (hvoice : x.2.isFor config.voiceNetwork = false)
    (hok : (engine.run config ms x).result = .ok x') :
    (engine.run config (ms.filter (·.takesEffect config)) x).result = .ok x' ∧
      (engine.run config (ms.filter (·.takesEffect config)) x).run.calls =
        (engine.run config ms x).run.calls := by
  induction ms generalizing x with
  | nil => exact ⟨hok, rfl⟩
  | cons m ms ih =>
    simp only [run, result_bind_eq_ok] at hok
    obtain ⟨⟨answer, y⟩, hm, hrest⟩ := hok
    obtain ⟨hresult, hcalls⟩ := ih (isFor_handle hengine hvoice hm) hrest
    have hcons : (engine.run config (m :: ms) x).run =
        (engine.handle config x m).run >>= fun _ => (engine.run config ms y).run :=
      Traced.run_bind_of_ok hm
    cases heffect : m.takesEffect config with
    | true =>
      -- The message is in both runs, and what follows it is the same by induction.
      have hcons' : (engine.run config (m :: ms.filter (·.takesEffect config)) x).run =
          (engine.handle config x m).run >>=
            fun _ => (engine.run config (ms.filter (·.takesEffect config)) y).run :=
        Traced.run_bind_of_ok hm
      rw [List.filter_cons_of_pos heffect, result, hcons', hcons, Traced.value_bind,
        Traced.calls_bind, Traced.calls_bind, hcalls]
      exact ⟨hresult, rfl⟩
    | false =>
      obtain ⟨answer', hsame, hsilent⟩ := run_handle_of_not_takesEffect engine hvoice heffect
      obtain rfl : x = y := by
        rw [result, hsame, Except.ok.injEq, Prod.mk.injEq] at hm
        exact hm.2
      rw [List.filter_cons_of_neg (by simp [heffect]), hcons, Traced.calls_bind, hsilent,
        List.nil_append]
      exact ⟨hresult, hcalls⟩

/-- In a run of messages on a session that is not exempt, a decision that is refused leaves the
session and the engine as they are. The answer is the error that the message points to, or 4001, if
the policy server did not report success; it is 5012 if only the number of flows is the reason.
The run comes to the same and calls the same without the refused decisions and the messages
that ask for nothing. -/
theorem refused_of_run (hengine : engine.KeepsFrom config.voiceNetwork)
    (hvoice : x.2.isFor config.voiceNetwork = false)
    (hok : (engine.run config ms x).result = .ok x') :
    (∀ before m after, ms = before ++ m :: after → m.kind = .initialAnswer →
      ∃ y, (engine.run config before x).result = .ok y ∧
        (m.resultCode ≠ 2001 →
          (engine.handle config y m).result = .ok (some (m.error.getD 4001), y)) ∧
        (m.resultCode = 2001 → (∃ r ∈ m.decision.rules, config.flowLimit < r.flows.length) →
          (engine.handle config y m).result = .ok (some 5012, y))) ∧
    (engine.run config (ms.filter (·.takesEffect config)) x).result = .ok x' ∧
    (engine.run config (ms.filter (·.takesEffect config)) x).run.calls =
      (engine.run config ms x).run.calls := by
  refine ⟨?_, run_filter_takesEffect hengine hvoice hok⟩
  rintro before m after rfl hkind
  obtain ⟨y, hbefore, -⟩ := result_run_append.mp hok
  have hy : y.2.isFor config.voiceNetwork = false := isFor_run hengine hvoice hbefore
  refine ⟨y, hbefore, fun hcode => ?_, fun hcode hflows => ?_⟩
  · have hm : m.isSuccess = false := beq_false_of_ne hcode
    exact (run_handle_of_refusal hkind (Session.refusal?_of_not_isSuccess hy hm)).1
  · have hm : m.isSuccess = true := beq_iff_eq.mpr hcode
    obtain ⟨r, hrefusal⟩ := Session.exists_refusal?_of_flows hy hm hflows
    exact (run_handle_of_refusal hkind hrefusal).1

/-! ## A run with refusals -/

/-- An engine that notes the rules it is asked to bind, and forgets what has to be signalled. -/
def noting : BindingEngine (List (List String)) := fun memory s =>
  pure (memory ++ [s.rules.map (·.name)], { s with changed := {} })

/-- A decision with more flows in a rule than are allowed by default. -/
def crowded : Message :=
  { kind := .initialAnswer
    decision := { rules := [{ name := "data", flows := .replicate 9 ⟨.uplinkOnly, "permit"⟩ }] } }

def pushed : Message :=
  { kind := .reauthorize, decision := { rules := [{ name := "video" }] } }

/-- A decision that the policy server could not make. -/
def failed : Message :=
  { Session.metering [40] with resultCode := 5003 }

/-- A session with its default bearer, and nothing noted yet. -/
def unnoted : List (List String) × Session :=
  ([], Session.attached)

/-- Rules are installed and then others are pushed, each followed by a decision that is refused. -/
theorem refused_of_run_noting :
    (∃ y, (noting.run {} [Session.metering [10]] unnoted).result = .ok y ∧
      (noting.handle {} y failed).result = .ok (some 4001, y)) ∧
    (∃ y, (noting.run {} [Session.metering [10], failed, pushed] unnoted).result = .ok y ∧
      (noting.handle {} y crowded).result = .ok (some 5012, y)) ∧
    ∃ x', (noting.run {} [Session.metering [10], failed, pushed, crowded] unnoted).result = .ok x' ∧
      (noting.run {} [Session.metering [10], pushed] unnoted).result = .ok x' ∧
      (noting.run {} [Session.metering [10], pushed] unnoted).run.calls =
        (noting.run {} [Session.metering [10], failed, pushed, crowded] unnoted).run.calls := by
  have hengine : noting.KeepsFrom ({} : Config).voiceNetwork := by
    intro memory s x' hbind hs
    obtain rfl := Except.ok.inj hbind
    exact hs
  obtain ⟨x', hok⟩ : ∃ x', (noting.run {}
      [Session.metering [10], failed, pushed, crowded] unnoted).result = .ok x' := ⟨_, rfl⟩
  obtain ⟨hrefused, hresult, hcalls⟩ := refused_of_run hengine rfl hok
  refine ⟨?_, ?_, x', hok, hresult, hcalls⟩
  · obtain ⟨y, hy, hfailed, -⟩ :=
      hrefused [Session.metering [10]] failed [pushed, crowded] rfl rfl
    exact ⟨y, hy, hfailed (by decide)⟩
  · obtain ⟨y, hy, -, hmany⟩ :=
      hrefused [Session.metering [10], failed, pushed] crowded [] rfl rfl
    exact ⟨y, hy, hmany rfl ⟨_, List.mem_singleton.mpr rfl, by decide⟩⟩

end BindingEngine

end Policy

end SessionControl
