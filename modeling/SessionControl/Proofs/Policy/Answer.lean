import SessionControl.Proofs.Policy.FlowLimit
import SessionControl.Proofs.Policy.Treatment

/-!
# What a success says

The policy server is told of a success if its rules have become the policy of the session: they
are stored, the flows of the default bearer are theirs, and so are the meters. Otherwise nothing
has changed, and the answer says why. There is one exception. The answer to a decision that came
without success is the error that the message carries, whatever it is, and this may be the code
for success.

## Main definitions

- `Session.InForce` — rules are the stored and compiled policy of a session

## Main statements

- `Session.code_install`, `Session.code_eq_success_iff` — the result code that is answered
- `Session.Established.inForce_compile` — an installation puts the rules of its decision in force
- `Session.success_iff_of_install` — when success is answered, and when the rules are in force
- `Session.not_forall_success_iff` — these are not the same
-/

namespace SessionControl

namespace Session

open Policy (WithinLimit matched)

variable {s s' s₀ : Session} {config : Config} {d : Policy.Decision} {m : Policy.Message}
  {b : Bearer} {code : UInt32}

/-- The answer to a decision for a session that is not exempt. -/
theorem code_install (hvoice : s.isFor config.voiceNetwork = false)
    (hok : (s.install config m).result = .ok (code, s')) :
    code =
      if m.resultCode = ResultCode.success then
        if WithinLimit config.flowLimit m.decision.rules then ResultCode.success
        else ResultCode.unableToComply
      else m.error.getD ResultCode.authenticationRejected := by
  rw [result_install] at hok
  by_cases hsuccess : m.resultCode = ResultCode.success
  · rw [if_pos hsuccess]
    by_cases hlimit : WithinLimit config.flowLimit m.decision.rules
    · rw [(refusal?_eq_none_iff hvoice).mpr ⟨hsuccess, hlimit⟩] at hok
      rw [if_pos hlimit]
      exact hok.1
    · have hflows : ∃ r ∈ m.decision.rules, config.flowLimit < r.flows.length := by
        simpa [WithinLimit] using hlimit
      obtain ⟨r, hrefusal⟩ := exists_refusal?_of_flows hvoice (beq_iff_eq.mpr hsuccess) hflows
      rw [hrefusal] at hok
      rw [if_neg hlimit]
      exact hok.1
  · rw [refusal?_of_not_isSuccess hvoice (beq_eq_false_iff_ne.mpr hsuccess)] at hok
    rw [if_neg hsuccess]
    exact hok.1

/-- Success is answered to a decision that is not refused, and to one that is refused with just that
code as its error. -/
theorem code_eq_success_iff (hvoice : s.isFor config.voiceNetwork = false)
    (hok : (s.install config m).result = .ok (code, s')) :
    code = ResultCode.success ↔
      (m.resultCode = ResultCode.success ∧ WithinLimit config.flowLimit m.decision.rules) ∨
        m.resultCode ≠ ResultCode.success ∧ m.error = some ResultCode.success := by
  rw [code_install hvoice hok]
  by_cases hsuccess : m.resultCode = ResultCode.success
  · by_cases hlimit : WithinLimit config.flowLimit m.decision.rules
    · simp [hsuccess, hlimit]
    · have hother : ResultCode.unableToComply ≠ ResultCode.success := by decide
      simp [hsuccess, hlimit, hother]
  · have hother : ResultCode.authenticationRejected ≠ ResultCode.success := by decide
    simp [hsuccess, Option.getD_eq_iff, hother]

/-! ## Rules in force -/

/-- Rules are the policy of a session: they are stored, its detection and forwarding rules are in
use with their flows, and its reporting rules meter their rating groups. -/
structure InForce (s : Session) (config : Config) (rules : List Policy.Rule) : Prop where
  stored : s.rules = rules
  laidOut : s.LaidOut true
  treatment : s.graph.treatment =
    .active (matched rules [.uplinkOnly, .bidirectional])
      (matched rules [.downlinkOnly, .bidirectional])
  metered : ∃ b, s.bearer = some b ∧ HasFirstNumbers b ∧
    s.graph.MetersFor config.meter b.uplinkPdr b.downlinkPdr rules

/-- With the rules of the control plane the counters are ahead of where they were at first. -/
theorem Fresh.countersAdvance_of_laidOut (h : s₀.Fresh b) (hlaidOut : s.LaidOut true) :
    s₀.graph.CountersAdvance s.graph := by
  have hcounters := h.counters
  simp only [RuleGraph.counters, Prod.mk.injEq] at hcounters
  obtain ⟨hpdr, hfar, -, -⟩ := hcounters
  cases hlaidOut with
  | control _ _ _ hlayout =>
    obtain ⟨-, -, hlastPdr, hlastFar⟩ := RuleGraph.Layout.mk.inj hlayout
    refine h.countersAdvance_of_le ?_ ?_
    · rw [hpdr, hlastPdr]
      decide
    · rw [hfar, hlastFar]
      decide

namespace Established

/-- No rules are in force in a session without the rules of the control plane. -/
theorem not_inForce (hs : s.Established) (config : Config) (rules : List Policy.Rule) :
    ¬s.InForce config rules := by
  intro hforce
  cases hs.laidOut with
  | bearer hnone =>
    cases hforce.laidOut with
    | control hfrom =>
      rw [hnone] at hfrom
      cases hfrom

/-- An installation puts the rules of its decision in force. -/
theorem inForce_compile (hs : s.Established) (hvoice : s.isFor config.voiceNetwork = false)
    (hok : (s.compile config d).result = .ok s') : s'.InForce config d.rules := by
  obtain ⟨⟨⟨b, hbearer, hnumbers⟩, hlaidOut, -⟩, htreatment⟩ := hs.operating.compile hok
  refine ⟨rules_compile hok, hlaidOut, htreatment, b, hbearer, hnumbers, ?_⟩
  obtain ⟨b₀, hfresh⟩ := hs.fresh
  obtain ⟨-, hnumbered, b₁, hbearer₁, hmeters⟩ : Charged config none s := hs.charged hvoice
  obtain ⟨s₁, b₁', b', w, hcompiled⟩ :=
    compiled_of_result hnumbered hok (hfresh.countersAdvance_of_laidOut hlaidOut)
  obtain rfl : b₁' = b₁ := Option.some.inj (hcompiled.bearer.symm.trans hbearer₁)
  have hbearer' : s'.bearer = some b' := by rw [hcompiled.frame]
  obtain rfl : b' = b := Option.some.inj (hbearer'.symm.trans hbearer)
  exact hcompiled.metersFor hnumbered hvoice hmeters

/-- The rules of a decision are in force after it, or the session is as it was. -/
theorem inForce_iff_of_install (hs : s.Established)
    (hvoice : s.isFor config.voiceNetwork = false)
    (hok : (s.install config m).result = .ok (code, s')) :
    (s'.InForce config m.decision.rules ↔
        m.resultCode = ResultCode.success ∧ WithinLimit config.flowLimit m.decision.rules) ∧
      (¬s'.InForce config m.decision.rules → s' = s) := by
  rw [← refusal?_eq_none_iff hvoice]
  rw [result_install] at hok
  cases hrefusal : s.refusal? config m with
  | none =>
    rw [hrefusal] at hok
    have hforce := hs.inForce_compile hvoice hok.2
    exact ⟨iff_of_true hforce rfl, fun hnot => absurd hforce hnot⟩
  | some refusal =>
    rw [hrefusal] at hok
    obtain ⟨-, rfl⟩ := hok
    have hforce := hs.not_inForce config m.decision.rules
    exact ⟨iff_of_false hforce (Option.some_ne_none _), fun _ => rfl⟩

end Established

/-! ## The answer -/

/-- An established session that is not exempt gets a decision, and an answer is given. The rules are
in force afterwards exactly if the policy server has reported success and none of the rules is over
the limit; otherwise the session is as it was. Success is answered in just this case, and if the
message does not report success but carries it as its error. -/
theorem success_iff_of_install (hs : s.Established)
    (hvoice : s.isFor config.voiceNetwork = false)
    (hok : (s.install config m).result = .ok (code, s')) :
    (code = ResultCode.success ↔
        s'.InForce config m.decision.rules ∨
          m.resultCode ≠ ResultCode.success ∧ m.error = some ResultCode.success) ∧
      (s'.InForce config m.decision.rules ↔
        m.resultCode = ResultCode.success ∧ WithinLimit config.flowLimit m.decision.rules) ∧
      (¬s'.InForce config m.decision.rules → s' = s) := by
  obtain ⟨hforce, hsame⟩ := hs.inForce_iff_of_install hvoice hok
  refine ⟨?_, hforce, hsame⟩
  rw [hforce]
  exact code_eq_success_iff hvoice hok

/-- A decision that came without success, and with the code for success as its error. -/
def disguised : Policy.Message :=
  { metering [10] with resultCode := 5003, error := some 2001 }

/-- The disguised decision is answered with success and nothing is installed. The same decision with
a success of its own is installed. -/
theorem success_iff_of_install_disguised :
    (attached.install {} disguised).result = .ok (2001, attached) ∧
      ¬attached.InForce {} disguised.decision.rules ∧
      ∃ s', (attached.install {} (metering [10])).result = .ok (2001, s') ∧
        s'.InForce {} (metering [10]).decision.rules := by
  have hrefused : (attached.install {} disguised).result = .ok (2001, attached) := by
    decide +kernel
  have hinstalled : (attached.install {} (metering [10])).result =
      .ok (2001, attached.afterPolicy {} (metering [10])) := by decide +kernel
  obtain ⟨-, hforce, -⟩ := success_iff_of_install established_attached rfl hrefused
  obtain ⟨-, hforce', -⟩ := success_iff_of_install established_attached rfl hinstalled
  exact ⟨hrefused, fun h => absurd (hforce.mp h).1 (by decide), _, hinstalled,
    hforce'.mpr ⟨rfl, by decide⟩⟩

/-- It is not so that success is answered exactly if the policy server has reported it and all rules
are within the limit. -/
theorem not_forall_success_iff :
    ¬∀ (s s' : Session) (config : Config) (m : Policy.Message) (code : UInt32),
      s.Established → s.isFor config.voiceNetwork = false →
      (s.install config m).result = .ok (code, s') →
      (code = ResultCode.success ↔
        m.resultCode = ResultCode.success ∧ WithinLimit config.flowLimit m.decision.rules) := by
  intro hall
  have hrefused : (attached.install {} disguised).result = .ok (2001, attached) := by
    decide +kernel
  have hsuccess := hall attached attached {} disguised 2001 established_attached rfl hrefused
  exact absurd (hsuccess.mp rfl).1 (by decide)

end Session

end SessionControl
