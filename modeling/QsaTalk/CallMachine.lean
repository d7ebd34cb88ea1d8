import QsaTalk.HandlerSpecs

/-! What the device is for: the caller's side of one call at a time. The abstract machine has a
Status and nine causes; the device simulates it, and its callbacks follow the causes. -/
namespace QsaTalk
open ByteBuffer SlotTable

inductive Cause where
  /-- a CALLANSWER releases a pending CALL -/
  | answer
  /-- a CALLSTART is accepted -/
  | start
  /-- a LINEUSE releases a pending CALL of a resolved peer -/
  | busy
  /-- a name reply matches a pending query -/
  | resolve
  /-- a CALLEND of the peer, or its reply to ours -/
  | hangUp
  /-- the online check or a time limit ends the call -/
  | expire
  /-- a CALLEND that ends nothing -/
  | stray
  /-- the online check finds no call to end -/
  | lapse
  | other
deriving DecidableEq, Repr

def Cause.ends : Cause → Prop
  | .busy | .resolve | .hangUp | .expire => True
  | _ => False

def CallStatus.after (s : CallStatus) : Cause → CallStatus
  | .answer => .calling
  | .start => .talking
  | .busy | .resolve | .hangUp | .expire => .null
  | .stray | .lapse | .other => s

def onlineAfter (f : Int) : Cause → Int
  | .answer => 1
  | .hangUp | .expire | .stray | .lapse => 0
  | .start | .busy | .resolve | .other => f

/-- What `cb_curr_opt` reports: each change of Status once, but for a name reply; all other
reports carry the Status that stands. -/
def Reports (s : CallStatus) (l : List (CbOpt × CallStatus)) : Cause → Prop
  | .answer => l = [(.callOk, .calling)]
  | .start => l = [(.talkOk, .talking)]
  | .busy => l = [(.callBusy, .null)]
  | .resolve => l = []
  | .hangUp => l = [(.talkStop, .null)]
  | .expire => ∃ v, l = [(v, .null)]
  | .stray | .lapse | .other => ∀ p ∈ l, p.2 = s

def Device.cause (d : Device) : Input → Cause
  | .video .callAnswer buff _ _ =>
    if buff 7 = ask ∧ d.pendingCall.isSome then .answer else .other
  | .video .callStart buff _ _ => if d.status = .calling ∧ buff 7 = ask then .start else .other
  | .video .lineUse buff _ _ =>
    if (buff 7 = ask ∧ d.pendingCall.isSome) ∧ d.remoteInfo.denNum = 1 then .busy else .other
  | .video .nsReply buff _ _ => if d.asksFor buff then .resolve else .other
  | .video .callEnd buff _ _ =>
    if d.active then
      if buff 7 = ask ∨ (buff 7 = reply ∧ d.pendingCallEnd.isSome) then .hangUp else .stray
    else .other
  | .tick _ =>
    if d.local1.onlineFlag = 1 then
      if d.active ∧ (d.lost ∨ d.overdue) then .expire
      else if d.lost then .lapse
      else .other
    else .other
  | _ => .other

def Explains (d : Device) (i : Input) : Cause → Prop
  | .answer => ∃ buff sendB src, i = .video .callAnswer buff sendB src ∧ buff 7 = ask ∧
      d.pendingCall.isSome
  | .start => ∃ buff sendB src, i = .video .callStart buff sendB src ∧ d.status = .calling ∧
      buff 7 = ask
  | .busy => ∃ buff sendB src, i = .video .lineUse buff sendB src ∧ buff 7 = ask ∧
      d.pendingCall.isSome ∧ d.remoteInfo.denNum = 1
  | .resolve => ∃ buff sendB src, i = .video .nsReply buff sendB src ∧ d.asksFor buff
  | .hangUp => d.active ∧ ∃ buff sendB src, i = .video .callEnd buff sendB src ∧
      (buff 7 = ask ∨ (buff 7 = reply ∧ d.pendingCallEnd.isSome))
  | .expire => d.expires ∧ ∃ sendB, i = .tick sendB
  | .stray => d.active ∧ ∃ buff sendB src, i = .video .callEnd buff sendB src ∧ buff 7 ≠ ask ∧
      ¬(buff 7 = reply ∧ d.pendingCallEnd.isSome)
  | .lapse => ¬d.active
  | .other => True

theorem cause_explains (d : Device) (i : Input) : Explains d i (d.cause i) := by
  unfold Device.cause
  split
  case h_1 buff sendB src =>
    split
    · rename_i h
      exact ⟨buff, sendB, src, rfl, h⟩
    · trivial
  case h_2 buff sendB src =>
    split
    · rename_i h
      exact ⟨buff, sendB, src, rfl, h⟩
    · trivial
  case h_3 buff sendB src =>
    split
    · rename_i h
      exact ⟨buff, sendB, src, rfl, h.1.1, h.1.2, h.2⟩
    · trivial
  case h_4 buff sendB src =>
    split
    · rename_i h
      exact ⟨buff, sendB, src, rfl, h⟩
    · trivial
  case h_5 buff sendB src =>
    split
    · rename_i ha
      split
      · rename_i h
        exact ⟨ha, buff, sendB, src, rfl, h⟩
      · rename_i h
        exact ⟨ha, buff, sendB, src, rfl, not_or.mp h⟩
    · trivial
  case h_6 sendB =>
    split
    · rename_i hon
      split
      · rename_i h
        exact ⟨⟨hon, h⟩, sendB, rfl⟩
      · rename_i hx
        split
        · rename_i hl
          exact fun ha => hx ⟨ha, Or.inl hl⟩
        · trivial
    · trivial
  case h_7 => trivial

theorem cause_iff {d : Device} {i : Input} {c : Cause} (hc : c ≠ .other) (hl : c ≠ .lapse) :
    d.cause i = c ↔ Explains d i c := by
  constructor
  · rintro rfl
    exact cause_explains d i
  · intro h
    cases c with
    | answer =>
      obtain ⟨buff, sendB, src, rfl, h⟩ := h
      exact if_pos h
    | start =>
      obtain ⟨buff, sendB, src, rfl, h⟩ := h
      exact if_pos h
    | busy =>
      obtain ⟨buff, sendB, src, rfl, h7, hp, hn⟩ := h
      exact if_pos ⟨⟨h7, hp⟩, hn⟩
    | resolve =>
      obtain ⟨buff, sendB, src, rfl, h⟩ := h
      exact if_pos h
    | hangUp =>
      obtain ⟨ha, buff, sendB, src, rfl, h⟩ := h
      rw [Device.cause, if_pos ha, if_pos h]
    | expire =>
      obtain ⟨h, sendB, rfl⟩ := h
      rw [Device.cause, if_pos h.1, if_pos h.2]
    | stray =>
      obtain ⟨ha, buff, sendB, src, rfl, h⟩ := h
      rw [Device.cause, if_pos ha, if_neg (not_or.mpr h)]
    | lapse => exact absurd rfl hl
    | other => exact absurd rfl hc

structure CallEffect (d : Device) (c : Cause) (r : Outcome) : Prop where
  status : r.1.status = d.status.after c
  online : r.1.local1.onlineFlag = onlineAfter d.local1.onlineFlag c
  reports : Reports d.status (currOpts r.2) c

variable {d : Device} {r : Outcome}

theorem CallEffect.keep (hl : r.1.local1 = d.local1) (hr : ∀ p ∈ currOpts r.2, p.2 = d.status) :
    CallEffect d .other r where
  status := congrArg Local1.status hl
  online := congrArg Local1.onlineFlag hl
  reports := hr

/-- Without callbacks or changes to the flags a step is a step of no cause. -/
theorem CallEffect.silent (hl : r.1.local1 = d.local1) (hr : currOpts r.2 = []) :
    CallEffect d .other r :=
  .keep hl (by simp [hr])

theorem currOpts_silent {evs : List Event} (h : ∀ e ∈ evs, e.silent) : currOpts evs = [] := by
  rw [currOpts, List.filterMap_eq_nil_iff]
  intro e he
  cases e with
  | currOpt v s => exact (h _ he).elim
  | _ => rfl

theorem callEffect_command (h : CommandEffect d r) : CallEffect d .other r :=
  .silent h.local1 (currOpts_silent h.silent)

theorem passive_cause {t : VideoTask} {buff sendB : Buf} {src : IP4} (ht : t.passive) :
    d.cause (.video t buff sendB src) = .other := by
  cases t with
  | call | callConfirm | openLock | forceIFrame | callUpDown => rfl
  | nsReply | lineUse | callAnswer | callStart | callEnd => exact ht.elim

/-- Each outcome of a handler with its cause. -/
theorem callEffect_video {t : VideoTask} {buff sendB : Buf} {src : IP4} :
    CallEffect d (d.cause (.video t buff sendB src)) (runVideoTask t buff sendB (dotted src) d) := by
  have he := video_effect d t buff sendB (dotted src)
  generalize runVideoTask t buff sendB (dotted src) d = r at he
  cases he with
  | passive ht =>
    rw [passive_cause ht]
    exact ⟨passive_keeps Device.status (fun _ => rfl) ht,
      passive_keeps (fun e => e.local1.onlineFlag) (fun _ => rfl) ht, (passive_spec ht).2⟩
  | resolved h =>
    rw [Device.cause, if_pos h]
    exact ⟨rfl, rfl, rfl⟩
  | unresolved h =>
    rw [Device.cause, if_neg h]
    exact .silent rfl rfl
  | busy h7 hp hn =>
    rw [Device.cause, if_pos ⟨⟨h7, Option.isSome_of_eq_some hp⟩, hn⟩]
    exact ⟨rfl, rfl, rfl⟩
  | swallowed h7 hp hn =>
    rw [Device.cause, if_neg fun hc => hn hc.2]
    exact .silent rfl rfl
  | unused h =>
    rw [Device.cause, if_neg fun hc => h hc.1]
    exact .silent rfl rfl
  | answered h7 hp =>
    rw [Device.cause, if_pos ⟨h7, Option.isSome_of_eq_some hp⟩]
    exact ⟨rfl, rfl, rfl⟩
  | unanswered h =>
    rw [Device.cause, if_neg h]
    exact .silent rfl rfl
  | started h =>
    rw [Device.cause, if_pos h]
    exact ⟨rfl, rfl, rfl⟩
  | unstarted h =>
    rw [Device.cause, if_neg h]
    exact .silent rfl rfl
  | ended ha h7 =>
    rw [Device.cause, if_pos ha, if_pos (Or.inl h7)]
    exact ⟨rfl, rfl, rfl⟩
  | concluded ha h7 hp =>
    rw [Device.cause, if_pos ha, if_pos (Or.inr ⟨h7, Option.isSome_of_eq_some hp⟩)]
    exact ⟨rfl, rfl, rfl⟩
  | stray ha h7 hp =>
    rw [Device.cause, if_pos ha, if_neg fun hc => hc.elim h7 hp]
    exact ⟨rfl, rfl, by simp [Reports, Event.opt]⟩
  | noCall ha =>
    rw [Device.cause, if_neg ha]
    exact .silent rfl rfl

theorem callEffect_tick {sendB : Buf} (hc : d.caller) :
    CallEffect d (d.cause (.tick sendB)) (timerThreadTask sendB d) := by
  by_cases hon : d.local1.onlineFlag = 1
  · rw [Device.cause, if_pos hon]
    by_cases hx : d.active ∧ (d.lost ∨ d.overdue)
    · obtain ⟨v, l, hs, ho, he⟩ := tick_expire sendB hon hx.1 hx.2
      rw [if_pos hx, he]
      exact ⟨hs, ho, v, by simp [stopTalk_currOpts, Event.opt]⟩
    · rw [if_neg hx]
      by_cases hl : d.lost
      · have hn : d.status = .null := caller_not_active hc fun ha => hx ⟨ha, Or.inl hl⟩
        obtain ⟨l, hs, ho, he⟩ := tick_lapse sendB hon hn hl
        rw [if_pos hl, he]
        exact ⟨hs.trans hn.symm, ho, by simp [Reports]⟩
      · have ho : ¬d.overdue := by
          intro ho
          refine hx ⟨?_, Or.inr ho⟩
          exact ho.2.imp And.left And.left
        obtain ⟨l, hs, hf, he⟩ := tick_quiet sendB hon hc hl ho
        rw [if_neg hl, he]
        exact ⟨hs, hf.trans hon.symm, by simp [Reports]⟩
  · rw [Device.cause, if_neg hon, tick_off hon]
    exact .silent rfl rfl

/-- The device simulates the abstract machine: whatever the input, Status, the watchdog flag and
the callbacks change as its cause says. -/
theorem step_callEffect {i : Input} (hc : d.caller) (h : d.step i = some r) :
    CallEffect d (d.cause i) r := by
  cases i with
  | idle =>
    obtain rfl := Option.some.inj h
    exact .silent rfl rfl
  | startCall ip addr uFlag =>
    obtain rfl := Option.some.inj h
    exact callEffect_command startCall_effect
  | stopTalk =>
    obtain rfl := Option.some.inj h
    exact callEffect_command stopTalk_effect
  | findIp addr uFlag =>
    obtain rfl := Option.some.inj h
    exact callEffect_command findIp_effect
  | sendInfo data info => exact callEffect_command (sendInfo_effect h)
  | sendAudio c =>
    obtain ⟨hd, ho⟩ := sendAudio_spec h
    exact .keep (by rw [hd]) fun p hp => by rw [ho p hp]
  | sendVideo c frameType =>
    obtain ⟨hd, ho⟩ := sendVideo_spec h
    exact .keep (by rw [hd]) fun p hp => by rw [ho p hp]
  | openLock buff =>
    obtain rfl := Option.some.inj h
    by_cases hp : buff 7 = reply ∧ d.pendingOpenLock.isSome
    · obtain ⟨j, hj⟩ := Option.isSome_iff_exists.mp hp.2
      rw [openLock_released hp.1 hj]
      exact .silent rfl rfl
    · rw [openLock_ignored hp]
      exact .silent rfl rfl
  | tick sendB =>
    obtain rfl := Option.some.inj h
    exact callEffect_tick hc
  | video t buff sendB src =>
    obtain rfl := Option.some.inj h
    exact callEffect_video

theorem caller_after {c : Cause} (hc : d.caller) (h : r.1.status = d.status.after c) :
    r.1.caller := by
  unfold Device.caller
  rw [h]
  cases c with
  | answer => exact Or.inr (Or.inl rfl)
  | start => exact Or.inr (Or.inr rfl)
  | busy | resolve | hangUp | expire => exact Or.inl rfl
  | stray | lapse | other => exact hc

/-! The same for the running system. -/

def causeOf (t : Step) : Cause := t.pre.dev.cause (inputOf t)

theorem init_status (b : Boot) : (initParamTask b).dev.status = .null := by
  unfold initParamTask sendFreeArp
  dsimp only
  cases (bootDevice b).freeSlot <;> rfl

theorem caller_init (b : Boot) : (initParamTask b).dev.caller := Or.inl (init_status b)

theorem caller_step (s : System) (a : Action) (s' : System) (evs : List Event)
    (hc : s.dev.caller) (h : s.step a = some (s', evs)) : s'.dev.caller :=
  caller_after hc (step_callEffect hc (device_step h)).status

theorem run_caller {b : Boot} {ts : List Step} {s : System} (h : RunFrom b ts s) :
    s.dev.caller :=
  h.invariant (caller_init b) caller_step

end QsaTalk
