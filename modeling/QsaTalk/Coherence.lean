import QsaTalk.PendingCommands

/-! Pending CALL and CALLEND commands against the call they belong to: when there is at most one
of each, in the right Status, and when a reply to an earlier attempt is harmless. -/
namespace QsaTalk
open ByteBuffer SlotTable Function Runs
variable {d : Device} {r : Outcome}

/-- At most one CALL and one CALLEND are pending, the CALL only while idle, the CALLEND only while
a call is up. -/
structure Coherent (d : Device) : Prop where
  oneCall : d.commands call ≤ 1
  oneCallEnd : d.commands callEnd ≤ 1
  callIdle : 0 < d.commands call → d.status = .null
  callEndActive : 0 < d.commands callEnd → d.status = .calling ∨ d.status = .talking

/-- A step that leaves a command pending which does not fit: a second CALL or CALLEND, or an end
of the call with a CALLEND in the table. -/
def Device.muddles (d : Device) : Input → Prop
  | .startCall _ _ uFlag =>
    uFlag = 2 ∧ d.status = .null ∧ d.freeSlot.isSome ∧ d.pendingCall.isSome
  | .stopTalk => d.status ≠ .null ∧ d.freeSlot.isSome ∧ d.pendingCallEnd.isSome
  | .tick _ => d.expires ∧ (d.freeSlot.isSome ∨ d.pendingCallEnd.isSome)
  | .video .nsReply buff _ _ => d.active ∧ d.asksFor buff ∧ d.pendingCallEnd.isSome
  | .video .callEnd buff _ _ => d.active ∧ buff 7 = ask ∧ d.pendingCallEnd.isSome
  | _ => False

theorem Coherent.of_le {e : Device} (h : Coherent d) (hs : e.status = d.status)
    (hc : e.commands call ≤ d.commands call) (he : e.commands callEnd ≤ d.commands callEnd) :
    Coherent e where
  oneCall := hc.trans h.oneCall
  oneCallEnd := he.trans h.oneCallEnd
  callIdle hp := hs.trans (h.callIdle (hp.trans_le hc))
  callEndActive hp := by
    rw [hs]
    exact h.callEndActive (hp.trans_le he)

/-- An input that queues nothing and leaves Status alone cannot disturb the table. -/
theorem coherent_quiet {i : Input} (hc : d.caller) (h : Coherent d) (hr : d.step i = some r)
    (hcause : d.status.after (d.cause i) = d.status) (hq : ∀ sub, sub = call ∨ sub = callEnd →
      d.queued (fun m => decide (m.holds sub)) i = 0) : Coherent r.1 := by
  have h1 := step_commands call hc hr
  have h2 := step_commands callEnd hc hr
  rw [hq _ (Or.inl rfl)] at h1
  rw [hq _ (Or.inr rfl)] at h2
  exact h.of_le ((step_callEffect hc hr).status.trans hcause) (by omega) (by omega)

theorem Coherent.no_call (h : Coherent d) (ha : d.active) : d.commands call = 0 := by
  by_contra hp
  exact active_ne_null ha (h.callIdle (Nat.pos_of_ne_zero hp))

theorem Coherent.no_callEnd (h : Coherent d) (hn : d.status = .null) : d.commands callEnd = 0 := by
  by_contra hp
  exact active_ne_null (h.callEndActive (Nat.pos_of_ne_zero hp)) hn

/-- When a step ends the call, what matters is whether a CALLEND is left. -/
theorem coherent_ended {e : Device} (hn : e.status = .null) (hc : e.commands call ≤ 1) :
    Coherent e ↔ e.commands callEnd = 0 :=
  ⟨fun h => h.no_callEnd hn, fun h => ⟨hc, by omega, fun _ => hn, by omega⟩⟩

theorem coherent_startCall {ip : List UInt8} {addr : Buf} {uFlag : Int} (hc : d.caller)
    (ht : d.TableOk) (h : Coherent d) (hr : d.step (.startCall ip addr uFlag) = some r) :
    Coherent r.1 ↔ ¬d.muddles (.startCall ip addr uFlag) := by
  have hs : r.1.status = d.status := (step_callEffect hc hr).status
  by_cases hg : uFlag = 2 ∧ d.status = .null
  · have hcmd : d.commandOf (.startCall ip addr uFlag) = some (callSlot (d.dial ip addr)) := if_pos hg
    have h1 := step_commands call hc hr
    have h2 := step_commands callEnd hc hr
    rw [queued_slot hcmd (b := true) fun m => by simp [callSlot_holds],
      freed_idle rfl (by simp)] at h1
    rw [queued_slot hcmd (b := false) fun m => by
        simpa using fun hh => absurd (holds_sub (callSlot_holds m) hh) (by decide),
      freed_idle rfl (by simp)] at h2
    have h0 := h.no_callEnd hg.2
    have hone := h.oneCall
    have hp := pendingCall_iff ht
    simp only [Device.muddles, hg.1, hg.2, true_and, hp]
    cases hf : d.freeSlot.isSome with
    | false =>
      simp only [hf, Bool.false_and, Bool.toNat_false] at h1 h2
      simp only [Bool.false_eq_true, false_and, not_false_eq_true, iff_true]
      exact h.of_le hs (by omega) (by omega)
    | true =>
      simp only [hf, Bool.true_and, Bool.toNat_true, Bool.toNat_false] at h1 h2
      simp only [true_and, not_lt, Nat.le_zero]
      constructor
      · intro hco
        have := hco.oneCall
        omega
      · intro hz
        exact ⟨by omega, by omega, fun _ => hs.trans hg.2, by omega⟩
  · have hm : ¬d.muddles (.startCall ip addr uFlag) := fun hm => hg ⟨hm.1, hm.2.1⟩
    refine iff_of_true (coherent_quiet hc h hr rfl fun sub _ => ?_) hm
    exact queued_idle (if_neg hg)

theorem queued_callEndSlot {i : Input} (h : d.commandOf i = some (callEndSlot d)) :
    d.queued (fun m => decide (m.holds call)) i = 0 ∧
      d.queued (fun m => decide (m.holds callEnd)) i = d.freeSlot.isSome.toNat := by
  constructor
  · rw [queued_slot h (b := false) fun m => by
      simpa using fun hh => absurd (holds_sub (callEndSlot_holds m) hh) (by decide)]
    simp
  · rw [queued_slot h (b := true) fun m => by simp [callEndSlot_holds]]
    simp

theorem coherent_stopTalk (hc : d.caller) (ht : d.TableOk) (h : Coherent d)
    (hr : d.step .stopTalk = some r) : Coherent r.1 ↔ ¬d.muddles .stopTalk := by
  have hs : r.1.status = d.status := (step_callEffect hc hr).status
  by_cases hn : d.status = .null
  · have hm : ¬d.muddles .stopTalk := fun hm => hm.1 hn
    exact iff_of_true (coherent_quiet hc h hr rfl fun sub _ => queued_idle (if_pos hn)) hm
  · obtain ⟨q1, q2⟩ := queued_callEndSlot (i := .stopTalk) (if_neg hn)
    have ha : d.active := hc.resolve_left hn
    have h1 := step_commands call hc hr
    have h2 := step_commands callEnd hc hr
    rw [q1, freed_idle rfl (by simp)] at h1
    rw [q2, freed_idle rfl (by simp)] at h2
    have h0 := h.no_call ha
    have hone := h.oneCallEnd
    simp only [Device.muddles, hn, ne_eq, not_false_eq_true, true_and, pendingCallEnd_iff ht]
    cases hf : d.freeSlot.isSome with
    | false =>
      simp only [hf, Bool.toNat_false] at h2
      simp only [Bool.false_eq_true, false_and, not_false_eq_true, iff_true]
      exact h.of_le hs (by omega) (by omega)
    | true =>
      simp only [hf, Bool.toNat_true] at h2
      simp only [true_and, not_lt, Nat.le_zero]
      constructor
      · intro hco
        have := hco.oneCallEnd
        omega
      · intro hz
        refine ⟨by omega, by omega, by omega, fun _ => ?_⟩
        rw [hs]
        exact ha

theorem coherent_tick {sendB : Buf} (hc : d.caller) (ht : d.TableOk) (h : Coherent d)
    (hr : d.step (.tick sendB) = some r) : Coherent r.1 ↔ ¬d.muddles (.tick sendB) := by
  have hs := (step_callEffect hc hr).status
  by_cases hx : d.expires
  · have hcause : d.cause (.tick sendB) = .expire :=
      (cause_iff (by decide) (by decide)).mpr ⟨hx, sendB, rfl⟩
    rw [hcause] at hs
    obtain ⟨q1, q2⟩ := queued_callEndSlot (i := .tick sendB) (if_pos hx)
    have h1 := step_commands call hc hr
    have h2 := step_commands callEnd hc hr
    rw [q1, freed_idle rfl (by simp)] at h1
    rw [q2, freed_idle rfl (by simp)] at h2
    have h0 := h.no_call hx.2.1
    rw [coherent_ended hs (by omega)]
    simp only [Device.muddles, hx, true_and, pendingCallEnd_iff ht]
    cases hf : d.freeSlot.isSome with
    | false =>
      simp only [hf, Bool.toNat_false] at h2
      simp only [Bool.false_eq_true, false_or, not_lt, Nat.le_zero]
      omega
    | true =>
      simp only [hf, Bool.toNat_true] at h2
      simp only [true_or, not_true_eq_false, iff_false]
      omega
  · have hm : ¬d.muddles (.tick sendB) := fun hm => hx hm.1
    refine iff_of_true (coherent_quiet hc h hr ?_ fun sub _ => queued_idle (if_neg hx)) hm
    have hexp := cause_explains d (.tick sendB)
    cases hcause : d.cause (.tick sendB) with
    | expire =>
      rw [hcause] at hexp
      exact absurd hexp.1 hx
    | stray | lapse | other => rfl
    | _ =>
      rw [hcause] at hexp
      simp [Explains] at hexp

theorem coherent_nsReply {buff sendB : Buf} {src : IP4} (hc : d.caller) (ht : d.TableOk)
    (h : Coherent d) (hr : d.step (.video .nsReply buff sendB src) = some r) :
    Coherent r.1 ↔ ¬d.muddles (.video .nsReply buff sendB src) := by
  have hs := (step_callEffect hc hr).status
  have h1 := step_commands call hc hr
  have h2 := step_commands callEnd hc hr
  rw [queued_idle rfl, freed_talk] at h1 h2
  by_cases hq : d.asksFor buff
  · rw [Device.cause, if_pos hq] at hs
    rw [coherent_ended hs (by have := h.oneCall; omega)]
    simp only [Device.muddles, hq, true_and, pendingCallEnd_iff ht]
    constructor
    · rintro hz ⟨-, hp⟩
      omega
    · intro hno
      by_contra hp
      have hpos : 0 < d.commands callEnd := by omega
      exact hno ⟨h.callEndActive hpos, hpos⟩
  · rw [Device.cause, if_neg hq] at hs
    exact iff_of_true (h.of_le hs (by omega) (by omega)) fun hm => hq hm.2.1

theorem coherent_callEnd {buff sendB : Buf} {src : IP4} (hc : d.caller) (ht : d.TableOk)
    (h : Coherent d) (hr : d.step (.video .callEnd buff sendB src) = some r) :
    Coherent r.1 ↔ ¬d.muddles (.video .callEnd buff sendB src) := by
  have hs := (step_callEffect hc hr).status
  have h1 := step_commands call hc hr
  have h2 := step_commands callEnd hc hr
  rw [queued_idle rfl] at h1 h2
  have hne : ¬ask = reply := by decide
  by_cases ha : d.active
  · have h0 := h.no_call ha
    by_cases h7 : buff 7 = ask
    · rw [Device.cause, if_pos ha, if_pos (Or.inl h7)] at hs
      have hack : d.ackOf (.video .callEnd buff sendB src) = none :=
        if_neg fun hh => hne (h7.symm.trans hh.2)
      rw [freed_idle hack (by simp)] at h2
      rw [coherent_ended hs (by omega)]
      simp only [Device.muddles, ha, h7, true_and, pendingCallEnd_iff ht]
      omega
    · have hm : ¬d.muddles (.video .callEnd buff sendB src) := fun hm => h7 hm.2.1
      refine iff_of_true ?_ hm
      by_cases hp : buff 7 = reply ∧ d.pendingCallEnd.isSome
      · rw [Device.cause, if_pos ha, if_pos (Or.inr hp)] at hs
        obtain ⟨k, hk⟩ := Option.isSome_iff_exists.mp hp.2
        have hack : d.ackOf (.video .callEnd buff sendB src) = some k :=
          (if_pos ⟨ha, hp.1⟩).trans hk
        rw [freed_slot hack] at h2
        simp only [pendingCallEnd_holds ht hk, decide_true, Bool.toNat_true] at h2
        have hone := h.oneCallEnd
        exact (coherent_ended hs (by omega)).mpr (by omega)
      · rw [Device.cause, if_pos ha, if_neg (not_or.mpr ⟨h7, hp⟩)] at hs
        exact h.of_le hs (by omega) (by omega)
  · rw [Device.cause, if_neg ha] at hs
    exact iff_of_true (h.of_le hs (by omega) (by omega)) fun hm => ha hm.1

theorem coherent_callAnswer {buff sendB : Buf} {src : IP4} (hc : d.caller) (h : Coherent d)
    (hr : d.step (.video .callAnswer buff sendB src) = some r) : Coherent r.1 := by
  have hs := (step_callEffect hc hr).status
  have h1 := step_commands call hc hr
  have h2 := step_commands callEnd hc hr
  rw [queued_idle rfl] at h1 h2
  by_cases hp : buff 7 = ask ∧ d.pendingCall.isSome
  · rw [Device.cause, if_pos hp] at hs
    obtain ⟨k, hk⟩ := Option.isSome_iff_exists.mp hp.2
    have hholds := awaits_holds (first_spec hk)
    have hack : d.ackOf (.video .callAnswer buff sendB src) = some k := (if_pos hp.1).trans hk
    rw [freed_slot hack] at h1
    simp only [hholds, decide_true, Bool.toNat_true] at h1
    have hone := h.oneCall
    have hnull := h.callIdle (commands_pos.mpr ⟨k, hholds⟩)
    have h0 := h.no_callEnd hnull
    exact ⟨by omega, by omega, by omega, by omega⟩
  · rw [Device.cause, if_neg hp] at hs
    exact h.of_le hs (by omega) (by omega)

theorem coherent_lineUse {buff sendB : Buf} {src : IP4} (hc : d.caller) (h : Coherent d)
    (hr : d.step (.video .lineUse buff sendB src) = some r) : Coherent r.1 := by
  have hs := (step_callEffect hc hr).status
  have h1 := step_commands call hc hr
  have h2 := step_commands callEnd hc hr
  rw [queued_idle rfl] at h1 h2
  by_cases hp : (buff 7 = ask ∧ d.pendingCall.isSome) ∧ d.remoteInfo.denNum = 1
  · rw [Device.cause, if_pos hp] at hs
    obtain ⟨k, hk⟩ := Option.isSome_iff_exists.mp hp.1.2
    have hnull := h.callIdle (commands_pos.mpr ⟨k, awaits_holds (first_spec hk)⟩)
    exact h.of_le (hs.trans hnull.symm) (by omega) (by omega)
  · rw [Device.cause, if_neg hp] at hs
    exact h.of_le hs (by omega) (by omega)

theorem coherent_callStart {buff sendB : Buf} {src : IP4} (hc : d.caller) (h : Coherent d)
    (hr : d.step (.video .callStart buff sendB src) = some r) : Coherent r.1 := by
  have hs := (step_callEffect hc hr).status
  have h1 := step_commands call hc hr
  have h2 := step_commands callEnd hc hr
  rw [queued_idle rfl] at h1 h2
  have hone := h.oneCallEnd
  by_cases hp : d.status = .calling ∧ buff 7 = ask
  · rw [Device.cause, if_pos hp] at hs
    have h0 := h.no_call (Or.inl hp.1)
    exact ⟨by omega, by omega, by omega, fun _ => Or.inr hs⟩
  · rw [Device.cause, if_neg hp] at hs
    exact h.of_le hs (by omega) (by omega)

/-- A step keeps the table coherent exactly when it does not muddle it. -/
theorem coherent_step_iff {i : Input} (hc : d.caller) (ht : d.TableOk) (h : Coherent d)
    (hr : d.step i = some r) : Coherent r.1 ↔ ¬d.muddles i := by
  have hquiet (hcause : d.cause i = .other)
      (hq : ∀ sub, sub = call ∨ sub = callEnd →
        d.queued (fun m => decide (m.holds sub)) i = 0) : Coherent r.1 :=
    coherent_quiet hc h hr (by rw [hcause]; rfl) hq
  cases i with
  | startCall ip addr uFlag => exact coherent_startCall hc ht h hr
  | stopTalk => exact coherent_stopTalk hc ht h hr
  | tick sendB => exact coherent_tick hc ht h hr
  | findIp addr uFlag =>
    refine iff_of_true (hquiet rfl fun sub _ => ?_) id
    by_cases hg : ∃ a, addr = some a ∧ d.status = .null ∧ uFlag = 0
    · obtain ⟨a, rfl, hg⟩ := hg
      have hcmd : d.commandOf (.findIp (some a) uFlag) = some (querySlot d a) := if_pos hg
      have hne : ¬nsOrder = videoTalk := by decide
      have hno (m : MultiUdpBuff1) : ¬(querySlot d a m).holds sub := fun hh => hne hh.2.1
      rw [queued_slot hcmd (b := false) fun m => by simp [hno]]
      simp
    · refine queued_idle ?_
      cases addr with
      | none => rfl
      | some a => exact if_neg fun hh => hg ⟨a, rfl, hh⟩
  | sendInfo data info =>
    refine iff_of_true (hquiet rfl fun sub _ => ?_) id
    cases info with
    | none => exact queued_idle rfl
    | some info =>
      cases hk : d.freeSlot with
      | none => simp [Device.queued, hk]
      | some k =>
        obtain ⟨m, hm, -⟩ := sendInfo_queued hk hr
        have hne : ¬sendMessage = videoTalk := by decide
        have hno : ¬m.holds sub := fun hh => hne ((messageSlot_order hm).symm.trans hh.2.1)
        simp [Device.queued, Device.commandOf, hk, hm, hno]
  | video t buff sendB src =>
    cases t with
    | nsReply => exact coherent_nsReply hc ht h hr
    | callEnd => exact coherent_callEnd hc ht h hr
    | callAnswer => exact iff_of_true (coherent_callAnswer hc h hr) id
    | lineUse => exact iff_of_true (coherent_lineUse hc h hr) id
    | callStart => exact iff_of_true (coherent_callStart hc h hr) id
    | _ => exact iff_of_true (hquiet rfl fun _ _ => queued_idle rfl) id
  | _ => exact iff_of_true (hquiet rfl fun _ _ => queued_idle rfl) id

theorem coherent_init (b : Boot) : Coherent (initParamTask b).dev := by
  have hnone (sub : UInt8) : (initParamTask b).dev.commands sub = 0 := by
    by_contra hp
    obtain ⟨k, hk⟩ := commands_pos.mp (Nat.pos_of_ne_zero hp)
    have hbuf := init_order b k
    exact absurd (hbuf.symm.trans hk.2.1) (by decide)
  exact ⟨by simp [hnone], by simp [hnone], by simp [hnone], by simp [hnone]⟩

/-! Replies to earlier attempts. `answers n` is the call attempt, counted from 1, that the datagram
of step `n` belongs to. -/

def attempts (us : List Step) : Nat :=
  (us.map fun t => t.pre.dev.queued (fun m => decide (m.holds call)) (inputOf t)).sum

/-- A CALLANSWER, a LINEUSE or the reply to a CALLEND that belongs to an attempt before the
latest. -/
def StaleReply (answers : Nat → Nat) (us : List Step) (i : Input) : Prop :=
  answers us.length < attempts us ∧
    match i with
    | .video .callAnswer buff _ _ | .video .lineUse buff _ _ => buff 7 = ask
    | .video .callEnd buff _ _ => buff 7 = reply
    | _ => False

def Harmless (t : Step) : Prop :=
  t.post.dev.status = t.pre.dev.status ∧
    ∀ k, (t.post.dev.multiUdpBuff k).isValid = (t.pre.dev.multiUdpBuff k).isValid

theorem after_unacked {i : Input} (hi : match i with
      | .video .callAnswer buff _ _ | .video .lineUse buff _ _ => buff 7 = ask
      | .video .callEnd buff _ _ => buff 7 = reply
      | _ => False) (ha : d.ackOf i = none) : d.status.after (d.cause i) = d.status := by
  split at hi
  · simp only [Device.ackOf, hi, if_true] at ha
    simp [Device.cause, ha, CallStatus.after]
  · simp only [Device.ackOf, hi, if_true] at ha
    simp [Device.cause, ha, CallStatus.after]
  · have hne : ¬reply = ask := by decide
    by_cases hact : d.active
    · simp only [Device.ackOf, hi, hact, and_self, if_true] at ha
      simp [Device.cause, hact, hi, hne, ha, CallStatus.after]
    · simp [Device.cause, hact, CallStatus.after]
  · exact hi.elim

/-- A reply does something exactly when it finds a command to release. -/
theorem reply_harmless_iff {answers : Nat → Nat} {us : List Step} {t : Step}
    (hc : t.pre.dev.caller) (ht : t.pre.step t.act = some (t.post, t.out))
    (hs : StaleReply answers us (inputOf t)) :
    Harmless t ↔ t.pre.dev.ackOf (inputOf t) = none := by
  have hd : t.pre.dev.step (inputOf t) = some (t.post.dev, t.out) := device_step ht
  have hquiet : t.pre.dev.commandOf (inputOf t) = none ∧
      ∀ buff sendB src, inputOf t ≠ .video .nsReply buff sendB src := by
    have h := hs.2
    split at h <;> simp_all [Device.commandOf]
  constructor
  · rintro ⟨-, hval⟩
    by_contra hne
    obtain ⟨k, hk⟩ := Option.ne_none_iff_exists'.mp hne
    have hfreed : t.post.dev.multiUdpBuff = (t.pre.dev.release k).multiUdpBuff := by
      cases step_table hc hd with
      | keep _ ha _ _ => simp [hk] at ha
      | queue hf _ _ => simp [hquiet.1] at hf
      | ack ha he =>
        obtain rfl := Option.some.inj (hk.symm.trans ha)
        exact he
      | scan hi _ => exact absurd hi (hquiet.2 _ _ _)
    have hlive : (t.pre.dev.multiUdpBuff k).isValid = true := ackOf_live hk
    have hdead := hval k
    rw [hfreed, hlive] at hdead
    simp at hdead
  · intro ha
    refine ⟨?_, fun k => ?_⟩
    · have hst : t.post.dev.status = _ := (step_callEffect hc hd).status
      rw [hst]
      exact after_unacked hs.2 ha
    · cases step_table hc hd with
      | keep _ _ _ he => rw [he]
      | queue hf _ _ => simp [hquiet.1] at hf
      | ack ha' _ => simp [ha] at ha'
      | scan hi _ => exact absurd hi (hquiet.2 _ _ _)

def Confuses (answers : Nat → Nat) (us : List Step) (t : Step) : Prop :=
  t.pre.dev.muddles (inputOf t) ∨
    (StaleReply answers us (inputOf t) ∧ (t.pre.dev.ackOf (inputOf t)).isSome)

/-- The pending commands stay coherent and stale replies harmless exactly along the runs in which
no step confuses one attempt with another. -/
theorem attempts_separated_iff {b : Boot} (e : Execution b) (answers : Nat → Nat) :
    ((∀ u ∈ e.states, Coherent u.dev) ∧
      ∀ us t, us ++ [t] <+: e.steps → StaleReply answers us (inputOf t) → Harmless t) ↔
    ∀ us t, us ++ [t] <+: e.steps → ¬Confuses answers us t := by
  have hcoh : (∀ u ∈ e.states, Coherent u.dev) ↔
      ∀ t ∈ e.steps, ¬t.pre.dev.muddles (inputOf t) := by
    refine e.run.exact_states (J := fun s => s.dev.caller ∧ s.dev.TableOk)
      (I := fun s => Coherent s.dev) (C := fun s a => ¬s.dev.muddles (s.input a))
      ⟨caller_init b, tableOk_init b⟩ (fun s a s' o hs hstep => ?_) (coherent_init b)
      fun s a s' o hs hco hstep => ?_
    · exact ⟨caller_step s a s' o hs.1 hstep, tableOk_step hs.1 hs.2 (device_step hstep)⟩
    · exact coherent_step_iff hs.1 hs.2 hco (device_step hstep)
  have hstale (us : List Step) (t : Step) (hp : us ++ [t] <+: e.steps) :
      (StaleReply answers us (inputOf t) → Harmless t) ↔
        ¬(StaleReply answers us (inputOf t) ∧ (t.pre.dev.ackOf (inputOf t)).isSome) := by
    obtain ⟨u, hu⟩ := e.run.prefix hp
    obtain ⟨hpre, hstep, -⟩ := hu.last
    rw [not_and]
    refine forall_congr' fun hs => ?_
    rw [reply_harmless_iff (run_caller hpre) hstep hs, Bool.not_eq_true, Option.isSome_eq_false_iff,
      Option.isNone_iff_eq_none]
  have hmem : (∀ t ∈ e.steps, ¬t.pre.dev.muddles (inputOf t)) ↔
      ∀ us t, us ++ [t] <+: e.steps → ¬t.pre.dev.muddles (inputOf t) :=
    (guarded_forall (C := fun (s : System) a => ¬s.dev.muddles (s.input a))).symm
  rw [hcoh, hmem]
  constructor
  · rintro ⟨h1, h2⟩ us t hp (hm | hs)
    · exact h1 us t hp hm
    · exact (hstale us t hp).mp (h2 us t hp) hs
  · intro h
    exact ⟨fun us t hp hm => h us t hp (Or.inl hm),
      fun us t hp => (hstale us t hp).mpr fun hs => h us t hp (Or.inr hs)⟩

def twiceActions : List Action := [sampleCall sampleHost, sampleCall sampleHost]

def twice : Execution sampleBoot := execute sampleBoot twiceActions (by decide +kernel)

/-- Two CALLs are pending. -/
theorem calls_pending_twice : twice.steps.map Transition.act = twiceActions ∧
    ∃ u ∈ twice.states, u.dev.commands call = 2 ∧ ¬Coherent u.dev := by
  have hbad : twice.states.any (fun u => u.dev.commands call = 2) = true := by
    decide +kernel
  obtain ⟨u, hu, h⟩ := List.any_eq_true.mp hbad
  have h2 := of_decide_eq_true h
  exact ⟨execute_acts _, u, hu, h2, fun hco => by simpa [h2] using hco.oneCall⟩

end QsaTalk
