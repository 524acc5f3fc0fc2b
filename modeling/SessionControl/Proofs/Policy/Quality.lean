import SessionControl.Proofs.Policy.LastInstall

/-!
# Rates and quality of a session

What an installation stores of the rates and of the quality of service that its decision asks for,
and what the flags say that tell the peer about it. Rates count in kilobits per second, and a rate,
a class or a priority of zero was not supplied. What does not count as a change is not stored, so
rates that are nearly the same can be installed over and over without the stored ones moving.

## Main definitions

- `Session.Adopts` — what a session has of a decision, and what its flags say about that

## Main statements

- `Session.quality_compile` — what an installation makes of the rates, the quality and the flags
- `Session.adopts_of_accepts` — the flags tell what has changed, and what is stored is up to date
-/

namespace SessionControl

namespace Policy

/-- Rates differ from the stored ones unless these are the same in kilobits per second wherever a
rate is supplied. -/
theorem ratesChanged_eq_false_iff {stored incoming : RatePair} :
    ratesChanged stored incoming = false ↔
      (incoming.uplink ≠ 0 → stored.uplink / 1000 = incoming.uplink / 1000) ∧
      (incoming.downlink ≠ 0 → stored.downlink / 1000 = incoming.downlink / 1000) := by
  simp [ratesChanged, rateChanged]

/-- The uplink differs by less than a kilobit per second, and the downlink was not supplied. -/
example : ratesChanged ⟨1000, 2000⟩ ⟨1999, 0⟩ = false := by decide

theorem qosChanged_eq_false_iff {stored incoming : Qos} :
    qosChanged stored incoming = false ↔
      (incoming.index ≠ 0 → stored.index = incoming.index) ∧
      (incoming.arp.priority ≠ 0 → stored.arp.priority = incoming.arp.priority) ∧
      stored.arp.canPreempt = incoming.arp.canPreempt ∧
      stored.arp.canBePreempted = incoming.arp.canBePreempted := by
  simp [qosChanged, and_assoc]

/-- Rates that differ from the stored ones in kilobits per second are different rates. -/
theorem ne_of_ratesChanged {stored incoming : RatePair} (h : ratesChanged stored incoming = true) :
    incoming ≠ stored := by
  rintro rfl
  simp [ratesChanged] at h

theorem ne_of_qosChanged {stored incoming : Qos} (h : qosChanged stored incoming = true) :
    incoming.index ≠ stored.index ∨ incoming.arp ≠ stored.arp := by
  by_contra hsame
  obtain ⟨hindex, harp⟩ := not_or.mp hsame
  rw [not_not] at hindex harp
  have hfalse : qosChanged stored incoming = false :=
    qosChanged_eq_false_iff.mpr ⟨fun _ => hindex.symm, by simp [harp]⟩
  rw [hfalse] at h
  cases h

end Policy

namespace Session

variable {s s' : Session} {config : Config} {d : Policy.Decision} {m : Policy.Message}
  {answer : Option UInt32}

/-- An installation stores the rates and the quality of its decision where they differ from the
stored ones, and flags just that. -/
theorem quality_compile (hok : (s.compile config d).result = .ok s') :
    s'.rates = (if Policy.ratesChanged s.rates d.rates then d.rates else s.rates) ∧
      s'.qos = (if Policy.qosChanged s.qos d.qos
        then { s.qos with index := d.qos.index, arp := d.qos.arp } else s.qos) ∧
      s'.changed = { rates := Policy.ratesChanged s.rates d.rates
                     qos := Policy.qosChanged s.qos d.qos } := by
  have hstored := stored_compile hok
  rw [storeQuality_eq] at hstored
  rw [hstored]
  exact ⟨rfl, rfl, rfl⟩

/-- What a session `s'` has of the rates and the quality of a decision, and what its flags say
about the session `s` before. -/
structure Adopts (s : Session) (d : Policy.Decision) (s' : Session) : Prop where
  flagRates : s'.changed.rates = true ↔ s'.rates ≠ s.rates
  flaggedRates : s'.changed.rates = true → s'.rates = d.rates
  flagQos : s'.changed.qos = true ↔ s'.qos.index ≠ s.qos.index ∨ s'.qos.arp ≠ s.qos.arp
  flaggedQos : s'.changed.qos = true → s'.qos.index = d.qos.index ∧ s'.qos.arp = d.qos.arp
  maximum : s'.qos.maximum = s.qos.maximum
  guaranteed : s'.qos.guaranteed = s.qos.guaranteed
  uplink : d.rates.uplink ≠ 0 → s'.rates.uplink / 1000 = d.rates.uplink / 1000
  downlink : d.rates.downlink ≠ 0 → s'.rates.downlink / 1000 = d.rates.downlink / 1000
  index : d.qos.index ≠ 0 → s'.qos.index = d.qos.index
  priority : d.qos.arp.priority ≠ 0 → s'.qos.arp.priority = d.qos.arp.priority
  canPreempt : s'.qos.arp.canPreempt = d.qos.arp.canPreempt
  canBePreempted : s'.qos.arp.canBePreempted = d.qos.arp.canBePreempted

/-- After a decision has been accepted, each flag says whether the stored rates, or the stored class
or priority, have changed, and what has changed is as the decision has it. The bit rates of the
bearer never change. Whatever the decision supplies is stored, but for less than a kilobit per
second. -/
theorem adopts_of_accepts (haccepts : s.accepts config m = true)
    (hok : (s.handlePolicy config m).result = .ok (answer, s')) : s.Adopts m.decision s' := by
  obtain ⟨hrates, hqos, hchanged⟩ := quality_compile (handlePolicy_of_accepts hok haccepts)
  -- What is stored afterwards does not differ from the decision any more.
  have hupToDate : Policy.ratesChanged s'.rates m.decision.rates = false := by
    rw [hrates]
    exact Policy.ratesChanged_ite _ _
  have hupToDate' : Policy.qosChanged s'.qos m.decision.qos = false := by
    rw [hqos]
    exact Policy.qosChanged_ite _ _
  obtain ⟨huplink, hdownlink⟩ := Policy.ratesChanged_eq_false_iff.mp hupToDate
  obtain ⟨hindex, hpriority, hcan, hcanBe⟩ := Policy.qosChanged_eq_false_iff.mp hupToDate'
  have hflagRates : s'.changed.rates = Policy.ratesChanged s.rates m.decision.rates := by
    rw [hchanged]
  have hflagQos : s'.changed.qos = Policy.qosChanged s.qos m.decision.qos := by rw [hchanged]
  refine ⟨?_, ?_, ?_, ?_, ?_, ?_, huplink, hdownlink, hindex, hpriority, hcan, hcanBe⟩
  · rw [hflagRates, hrates, ite_ne_right_iff]
    exact ⟨fun h => ⟨h, Policy.ne_of_ratesChanged h⟩, And.left⟩
  · intro h
    rw [hrates, ← hflagRates, if_pos h]
  · rw [hflagQos, hqos]
    split
    · next h => exact ⟨fun _ => Policy.ne_of_qosChanged h, fun _ => h⟩
    · next h => exact ⟨fun h' => absurd h' h, fun h' => by simp at h'⟩
  · intro h
    rw [hqos, ← hflagQos, if_pos h]
    exact ⟨rfl, rfl⟩
  · rw [hqos]
    split <;> rfl
  · rw [hqos]
    split <;> rfl

/-- A decision for a session with rates of 1000 and 2000 bits per second: only the downlink is
supplied, and it differs in kilobits per second. So does the priority. -/
def narrowing : Policy.Message :=
  { kind := .initialAnswer
    decision :=
      { rates := ⟨0, 3999⟩
        qos := { arp := { priority := 9, canPreempt := true } } } }

theorem adopts_of_accepts_narrowing :
    ∃ s s' : Session, s.rates = ⟨1000, 2000⟩ ∧ s.accepts {} narrowing = true ∧
      (s.handlePolicy {} narrowing).result = .ok (some 2001, s') ∧
      s.Adopts narrowing.decision s' ∧ s'.changed = { rates := true, qos := true } ∧
      s'.rates = ⟨0, 3999⟩ := by
  let s := attached.afterPolicy {} (metering [10])
  have haccepts : s.accepts {} narrowing = true := by decide +kernel
  have hok : (s.handlePolicy {} narrowing).result =
      .ok (some 2001, s.afterPolicy {} narrowing) := by decide +kernel
  exact ⟨s, s.afterPolicy {} narrowing, by decide +kernel, haccepts, hok,
    adopts_of_accepts haccepts hok, by decide +kernel, by decide +kernel⟩

end Session

end SessionControl
