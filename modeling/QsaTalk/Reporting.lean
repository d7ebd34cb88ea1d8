import QsaTalk.Callbacks

/-! The outcomes of call attempts as the application hears of them: one report for each CALL that a
response takes out of the table, but for refusals by a peer that was never resolved. -/
namespace QsaTalk
open ByteBuffer SlotTable Function Runs
variable {d : Device} {r : Outcome}

def Input.isLineUse : Input → Bool
  | .video .lineUse _ _ _ => true
  | _ => false

def Input.isCallAnswer : Input → Bool
  | .video .callAnswer _ _ _ => true
  | _ => false

def freedCalls (t : Step) : Nat :=
  (Finset.univ.filter fun k => (t.pre.dev.multiUdpBuff k).holds call ∧
    (t.post.dev.multiUdpBuff k).isValid = false).card

def outcomes (t : Step) : Nat := raised .callOk t.out + raised .callBusy t.out

/-- Every answered attempt is reported once, by the report of its answer. -/
structure CallsReported (ts : List Step) : Prop where
  total : ∀ us, us <+: ts → (us.map freedCalls).sum = (us.map outcomes).sum
  busy : ∀ t ∈ ts, raised .callBusy t.out =
    if (inputOf t).isLineUse ∧ 0 < freedCalls t then 1 else 0
  ok : ∀ t ∈ ts, raised .callOk t.out =
    if (inputOf t).isCallAnswer ∧ 0 < freedCalls t then 1 else 0

/-- A LINEUSE/ASK finds a CALL pending while `DenNum` is not 1. -/
def Unreported (t : Step) : Prop :=
  ∃ buff sendB src, inputOf t = .video .lineUse buff sendB src ∧ buff 7 = ask ∧
    t.pre.dev.pendingCall.isSome ∧ t.pre.dev.remoteInfo.denNum ≠ 1

def Device.answersCall (d : Device) : Input → Bool
  | .video .lineUse buff _ _ => buff 7 = ask ∧ d.pendingCall.isSome
  | .video .callAnswer buff _ _ => buff 7 = ask ∧ d.pendingCall.isSome
  | _ => false

theorem answersCall_ack {i : Input} : d.answersCall i = true ↔
    ∃ k, d.ackOf i = some k ∧ (d.multiUdpBuff k).holds call := by
  have hcall (buff : Buf) : decide (buff 7 = ask ∧ d.pendingCall.isSome) = true ↔
      ∃ k, (if buff 7 = ask then d.pendingCall else none) = some k ∧
        (d.multiUdpBuff k).holds call := by
    rw [decide_eq_true_iff]
    constructor
    · rintro ⟨h7, hp⟩
      obtain ⟨k, hk⟩ := Option.isSome_iff_exists.mp hp
      exact ⟨k, by rw [if_pos h7, hk], awaits_holds (first_spec hk)⟩
    · rintro ⟨k, hk, -⟩
      obtain ⟨h7, hk⟩ := Option.ite_none_right_eq_some.mp hk
      exact ⟨h7, by rw [hk]; rfl⟩
  cases i with
  | video t buff sendB src =>
    cases t with
    | lineUse | callAnswer => exact hcall buff
    | callEnd =>
      refine iff_of_false (by simp [Device.answersCall]) ?_
      rintro ⟨k, hk, hh⟩
      obtain ⟨-, hk⟩ := Option.ite_none_right_eq_some.mp hk
      have ha := first_spec hk
      simp only [MultiUdpBuff1.awaits, Bool.and_eq_true, beq_iff_eq] at ha
      exact absurd (ha.2.symm.trans hh.2.2.2) (by decide)
    | _ => simp [Device.answersCall, Device.ackOf]
  | openLock buff =>
    refine iff_of_false (by simp [Device.answersCall]) ?_
    rintro ⟨k, hk, hh⟩
    obtain ⟨-, hk⟩ := Option.ite_none_right_eq_some.mp hk
    have ha := first_spec hk
    simp only [MultiUdpBuff1.awaits, isLift, Bool.and_eq_true, beq_iff_eq] at ha
    exact absurd (ha.1.1.2.symm.trans hh.2.1) (by decide)
  | _ => simp [Device.answersCall, Device.ackOf]

/-- A CALL leaves the table when it is the slot that is acknowledged, and not otherwise. -/
theorem TableEffect.call_freed_iff {i : Input} {t : Fin udpSendMax → MultiUdpBuff1}
    (he : TableEffect d i t) {k : Fin udpSendMax} (hk : (d.multiUdpBuff k).holds call) :
    (t k).isValid = false ↔ d.ackOf i = some k := by
  have hlive : (d.multiUdpBuff k).isValid = true := hk.1
  cases he with
  | keep _ ha _ h => simp [h, hlive, ha]
  | @queue f j hf hj h =>
    have hfree : (d.multiUdpBuff j).isValid = false := by simpa using first_spec hj
    have hne : k ≠ j := by
      rintro rfl
      exact Bool.false_ne_true (hfree.symm.trans hlive)
    simp [h, update_of_ne hne, hlive, (commandOf_alone hf).1]
  | @ack j ha h =>
    rw [release_multiUdpBuff] at h
    by_cases hj : k = j
    · subst hj
      simp [h, ha]
    · simp [h, update_of_ne hj, hlive, ha, Ne.symm hj]
  | @scan buff sendB src hi h =>
    subst hi
    obtain hs | ⟨hq, -⟩ := scanned_slot (d := d) buff k
    · simp [h, hs, hlive, Device.ackOf]
    · rw [holds_not_query hk] at hq
      exact absurd hq Bool.false_ne_true

theorem freedCalls_eq {t : Step} (hc : t.pre.dev.caller)
    (ht : t.pre.step t.act = some (t.post, t.out)) :
    freedCalls t = (t.pre.dev.answersCall (inputOf t)).toNat := by
  have he : TableEffect t.pre.dev (inputOf t) t.post.dev.multiUdpBuff :=
    step_table hc (device_step ht)
  cases ha : t.pre.dev.answersCall (inputOf t) with
  | true =>
    obtain ⟨k, hk, hh⟩ := answersCall_ack.mp ha
    refine Finset.card_eq_one.mpr ⟨k, ?_⟩
    ext j
    rw [Finset.mem_filter, Finset.mem_singleton]
    constructor
    · rintro ⟨-, hj, hv⟩
      exact Option.some.inj (((he.call_freed_iff hj).mp hv).symm.trans hk)
    · rintro rfl
      exact ⟨Finset.mem_univ _, hh, (he.call_freed_iff hh).mpr hk⟩
  | false =>
    refine Finset.card_eq_zero.mpr (Finset.filter_eq_empty_iff.mpr ?_)
    rintro k - ⟨hk, hv⟩
    have hyes := answersCall_ack.mpr ⟨k, (he.call_freed_iff hk).mp hv, hk⟩
    exact Bool.false_ne_true (ha.symm.trans hyes)

/-- What the two answers cause. -/
theorem answer_cause {i : Input} :
    (d.cause i = .answer ↔ i.isCallAnswer = true ∧ d.answersCall i = true) ∧
      (d.cause i = .busy ↔ (i.isLineUse = true ∧ d.answersCall i = true) ∧ d.remoteInfo.denNum = 1) := by
  constructor
  · rw [cause_iff (by decide) (by decide)]
    constructor
    · rintro ⟨buff, sendB, src, rfl, h⟩
      exact ⟨rfl, decide_eq_true h⟩
    · rintro ⟨ha, h⟩
      cases i with
      | video t buff sendB src =>
        cases t with
        | callAnswer => exact ⟨buff, sendB, src, rfl, of_decide_eq_true h⟩
        | _ => simp [Input.isCallAnswer] at ha
      | _ => simp [Input.isCallAnswer] at ha
  · rw [cause_iff (by decide) (by decide)]
    constructor
    · rintro ⟨buff, sendB, src, rfl, h7, hp, hn⟩
      exact ⟨⟨rfl, decide_eq_true ⟨h7, hp⟩⟩, hn⟩
    · rintro ⟨⟨hl, h⟩, hn⟩
      cases i with
      | video t buff sendB src =>
        cases t with
        | lineUse =>
          obtain ⟨h7, hp⟩ := of_decide_eq_true h
          exact ⟨buff, sendB, src, rfl, h7, hp, hn⟩
        | _ => simp [Input.isLineUse] at hl
      | _ => simp [Input.isLineUse] at hl

theorem unreported_iff {t : Step} : Unreported t ↔
    ((inputOf t).isLineUse = true ∧ t.pre.dev.answersCall (inputOf t) = true) ∧
      t.pre.dev.remoteInfo.denNum ≠ 1 := by
  constructor
  · rintro ⟨buff, sendB, src, hi, h7, hp, hn⟩
    rw [hi]
    exact ⟨⟨rfl, decide_eq_true ⟨h7, hp⟩⟩, hn⟩
  · rintro ⟨⟨hl, ha⟩, hn⟩
    cases hi : inputOf t with
    | video v buff sendB src =>
      rw [hi] at hl ha
      cases v with
      | lineUse =>
        obtain ⟨h7, hp⟩ := of_decide_eq_true ha
        exact ⟨buff, sendB, src, hi, h7, hp, hn⟩
      | _ => simp [Input.isLineUse] at hl
    | _ => simp [hi, Input.isLineUse] at hl

structure StepReports (t : Step) : Prop where
  freed : freedCalls t = (t.pre.dev.answersCall (inputOf t)).toNat
  ok : raised .callOk t.out =
    if (inputOf t).isCallAnswer = true ∧ t.pre.dev.answersCall (inputOf t) = true then 1 else 0
  busy : raised .callBusy t.out = if ((inputOf t).isLineUse = true ∧
    t.pre.dev.answersCall (inputOf t) = true) ∧ t.pre.dev.remoteInfo.denNum = 1 then 1 else 0

theorem step_reports {t : Step} (hc : t.pre.dev.caller)
    (ht : t.pre.step t.act = some (t.post, t.out)) : StepReports t := by
  obtain ⟨hok, hbusy⟩ := (step_tells hc (device_step ht)).outcomes
  have hin : t.pre.input t.act = inputOf t := rfl
  rw [hin] at hok hbusy
  simp only [answer_cause.1] at hok
  simp only [answer_cause.2] at hbusy
  exact ⟨freedCalls_eq hc ht, hok, hbusy⟩

/-- An answered attempt is one of the two kinds. -/
theorem answersCall_kind {i : Input} (h : d.answersCall i = true) :
    (i.isLineUse = true ∧ i.isCallAnswer = false) ∨ (i.isLineUse = false ∧ i.isCallAnswer = true) := by
  cases i with
  | video t buff sendB src =>
    cases t with
    | lineUse => exact Or.inl ⟨rfl, rfl⟩
    | callAnswer => exact Or.inr ⟨rfl, rfl⟩
    | _ => simp [Device.answersCall] at h
  | _ => simp [Device.answersCall] at h

theorem StepReports.freed_pos {t : Step} (h : StepReports t) :
    0 < freedCalls t ↔ t.pre.dev.answersCall (inputOf t) = true := by
  rw [h.freed]
  cases t.pre.dev.answersCall (inputOf t) <;> simp

theorem StepReports.total {t : Step} (h : StepReports t) (hu : ¬Unreported t) :
    freedCalls t = outcomes t := by
  rw [outcomes, h.freed, h.ok, h.busy]
  cases ha : t.pre.dev.answersCall (inputOf t) with
  | false => simp
  | true =>
    obtain ⟨hl, hc⟩ | ⟨hl, hc⟩ := answersCall_kind ha
    · have hn : t.pre.dev.remoteInfo.denNum = 1 := by
        by_contra hn
        exact hu (unreported_iff.mpr ⟨⟨hl, ha⟩, hn⟩)
      simp [hl, hc, hn]
    · simp [hl, hc]

/-- Every answered attempt is reported exactly once, along the whole run, just when no refusal comes
in for a CALL while `DenNum` is not 1. -/
theorem calls_reported_iff {b : Boot} (e : Execution b) :
    CallsReported e.steps ↔ ∀ t ∈ e.steps, ¬Unreported t := by
  have hall : ∀ t ∈ e.steps, StepReports t :=
    e.run.each (caller_init b) caller_step fun _ _ _ _ hc hs => step_reports hc hs
  constructor
  · intro h t ht hu
    obtain ⟨hline, hn⟩ := unreported_iff.mp hu
    have hsaid := h.busy t ht
    rw [(hall t ht).busy, if_neg fun hc => hn hc.2,
      if_pos ⟨hline.1, (hall t ht).freed_pos.mpr hline.2⟩] at hsaid
    exact absurd hsaid (by decide)
  · intro h
    refine ⟨fun us hus => ?_, fun t ht => ?_, fun t ht => ?_⟩
    · have hsame : us.map freedCalls = us.map outcomes :=
        List.map_congr_left fun t ht => (hall t (hus.subset ht)).total (h t (hus.subset ht))
      rw [hsame]
    · rw [(hall t ht).busy]
      refine if_congr ?_ rfl rfl
      rw [(hall t ht).freed_pos]
      refine and_iff_left_of_imp fun hc => ?_
      by_contra hn
      exact h t ht (unreported_iff.mpr ⟨hc, hn⟩)
    · rw [(hall t ht).ok]
      refine if_congr ?_ rfl rfl
      rw [(hall t ht).freed_pos]

/-! A call without a name query before it, refused. -/

def refusedActions : List Action := [sampleCall sampleHost, sampleRecv ask lineUse sampleHost]

def refused : Execution sampleBoot := execute sampleBoot refusedActions (by decide +kernel)

theorem refusal_swallowed : refused.steps.map Transition.act = refusedActions ∧
    ¬CallsReported refused.steps := by
  have hbad : refused.steps.any (fun t => (inputOf t).isLineUse && decide (0 < freedCalls t) &&
      decide (raised .callBusy t.out = 0)) = true := by
    decide +kernel
  obtain ⟨t, ht, hb⟩ := List.any_eq_true.mp hbad
  simp only [Bool.and_eq_true, decide_eq_true_eq] at hb
  refine ⟨execute_acts _, fun h => ?_⟩
  have hsaid := h.busy t ht
  rw [if_pos hb.1, hb.2] at hsaid
  exact absurd hsaid (by decide)

end QsaTalk
