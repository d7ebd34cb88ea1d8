import QsaTalk.Threaded

/-! The `int` counters over whole runs of the library as it is built: those of the timer stay within
its limits, and those of the commands are what the send thread can count on. -/
namespace QsaTalk
open ByteBuffer SlotTable Function Runs Loops RoundRobin
variable {d : Device} {r : Outcome}

/-- The rounds until the online check finds that there is no call. -/
def Device.grace (d : Device) : Nat :=
  26 - d.local1.timer1Num + if d.local1.callConfirmFlag = 0 then 0 else 25

/-- How far `TimeOut` counts in each Status; a call that is over may leave the timer running. -/
def Device.timeLimit (d : Device) : Nat :=
  match d.status with
  | .calling => callTimeOut + 2
  | .talking => talkTimeOut + 2
  | _ => talkTimeOut + 53 - if d.local1.onlineFlag = 1 then d.grace else 0

structure TimerCounters (d : Device) : Prop where
  timer1Num : d.local1.timer1Num ≤ timerPerSec * 12 + 1
  timeOut : d.local1.timeOut ≤ d.timeLimit
  onlineNum : d.local1.onlineNum = 0
  talkLimit : d.local1.talkTimeOut = talkTimeOut

def Unturned (d : Device) : Prop := ∀ i, (d.multiUdpBuff i).isValid = true →
  (d.multiUdpBuff i).sendDelayTime = 0

/-! The timer. -/

theorem grace_le (d : Device) : d.grace ≤ 51 := by
  unfold Device.grace
  split <;> omega

theorem timeLimit_null {f : Nat} (hs : d.status = .null) (h : d.local1.timeOut + f ≤ talkTimeOut + 53)
    (hf : d.local1.onlineFlag = 1 → d.grace ≤ f) : d.local1.timeOut ≤ d.timeLimit := by
  unfold Device.timeLimit
  rw [hs]
  dsimp only
  split
  · rename_i hon
    have hg := hf hon
    omega
  · omega

theorem timeLimit_calling (hs : d.status = .calling) : d.timeLimit = callTimeOut + 2 := by
  rw [Device.timeLimit, hs]

theorem timeLimit_talking (hs : d.status = .talking) : d.timeLimit = talkTimeOut + 2 := by
  rw [Device.timeLimit, hs]

/-- A call that ends has left the clock within the limit of a talk. -/
theorem TimerCounters.active_le (h : TimerCounters d) (ha : d.active) :
    d.local1.timeOut ≤ talkTimeOut + 2 := by
  have ht := h.timeOut
  have hlimits : callTimeOut ≤ talkTimeOut := by decide
  obtain hs | hs := ha
  · rw [timeLimit_calling hs] at ht
    omega
  · rw [timeLimit_talking hs] at ht
    exact ht

theorem timeOut_le (h : TimerCounters d) (hc : d.caller) : d.local1.timeOut ≤ talkTimeOut + 53 := by
  by_cases ha : d.active
  · have hle := h.active_le ha
    omega
  · have ht := h.timeOut
    rw [Device.timeLimit, caller_not_active hc ha] at ht
    dsimp only at ht
    omega

theorem talkCtrl_rest (d : Device) :
    (talkCtrlFunc d).1.local1.onlineNum = d.local1.onlineNum ∧
      ((talkCtrlFunc d).1.local1.talkTimeOut = d.local1.talkTimeOut ∨
        (talkCtrlFunc d).1.local1.talkTimeOut = talkTimeOut) := by
  have hgive (v : CbOpt) (d : Device) : (giveUp v d).1.local1 =
      { d.local1 with status := .null, onlineFlag := 0 } := by
    simp [giveUp, Outcome.andThen, finishCall, setDeviceStatus, clearOnline, stopTalk_local1]
  unfold talkCtrlFunc
  dsimp only
  split
  · split <;> (try split) <;> simp [hgive]
  · simp

theorem onlineCheck_rest (sendB : Buf) (hc : d.caller) :
    (onlineCheckFunc sendB d).1.local1.onlineNum = d.local1.onlineNum ∧
      (onlineCheckFunc sendB d).1.local1.talkTimeOut = d.local1.talkTimeOut := by
  by_cases hl : d.lost
  · by_cases ha : d.active
    · rw [onlineCheck_lost hl ha]
      exact ⟨rfl, rfl⟩
    · rw [onlineCheck_lapse hl (caller_not_active hc ha)]
      exact ⟨rfl, rfl⟩
  · obtain ⟨n, f, hq⟩ := onlineCheck_quiet sendB hl hc
    rw [hq]
    exact ⟨rfl, rfl⟩

/-- A round that finds nothing to end uses up some of the grace. -/
theorem grace_tick (sendB : Buf) (hon : d.local1.onlineFlag = 1) (hl : ¬d.lost)
    (ht : d.local1.timer1Num ≤ timerPerSec * 12 + 1) :
    (timerThreadTask sendB d).1.grace + 1 ≤ d.grace := by
  have hsec : timerPerSec = 2 := rfl
  obtain ⟨h1, h2, -⟩ := tick_counts (d := d) sendB hon
  have hlost : ¬(d.local1.timer1Num > timerPerSec * 12 ∧ d.local1.callConfirmFlag = 0) := hl
  unfold Device.grace
  rw [h1, h2]
  rw [hsec] at hlost ht ⊢
  by_cases hw : d.local1.timer1Num > 2 * 12
  · have hf : d.local1.callConfirmFlag ≠ 0 := fun hf => hlost ⟨hw, hf⟩
    simp only [hw, hf, if_true, if_false]
    omega
  · simp only [hw, if_false]
    omega

/-- Once the watch is off, the clock may stand anywhere below the two windows. -/
theorem timeLimit_off (hs : d.status = .null) (ho : d.local1.onlineFlag = 0)
    (h : d.local1.timeOut ≤ talkTimeOut + 53) : d.local1.timeOut ≤ d.timeLimit :=
  timeLimit_null (f := 0) hs h fun hf => absurd (ho.symm.trans hf) (by decide)

/-- A tick that ends nothing: the clock goes on, and what it could pass would have
ended the call. -/
theorem timeOut_kept {sendB : Buf} (hon : d.local1.onlineFlag = 1) (hc : d.caller)
    (h : TimerCounters d) (hl : ¬d.lost) (hover : ¬(d.active ∧ d.overdue))
    (hkeep : (timerThreadTask sendB d).1.status = d.status)
    (hclock : (timerThreadTask sendB d).1.local1.timeOut = d.local1.timeOut + 1) :
    (timerThreadTask sendB d).1.local1.timeOut ≤ (timerThreadTask sendB d).1.timeLimit := by
  have hsec : timerPerSec = 2 := rfl
  have hout := h.timeOut
  have htimer := h.timer1Num
  obtain hs | hs | hs := hc
  · -- nobody to call: the watch runs out
    refine timeLimit_null (f := d.grace - 1) (hkeep.trans hs) ?_ fun _ => ?_
    · rw [Device.timeLimit, hs] at hout
      dsimp only at hout
      rw [if_pos hon] at hout
      have hg : 1 ≤ d.grace := by
        unfold Device.grace
        omega
      have hg' := grace_le d
      have hlimit : talkTimeOut = 3600 := rfl
      omega
    · have hg := grace_tick sendB hon hl htimer
      omega
  · rw [timeLimit_calling hs] at hout
    rw [timeLimit_calling (hkeep.trans hs), hclock]
    by_contra hlt
    refine hover ⟨Or.inl hs, ?_, Or.inl ⟨hs, ?_⟩⟩
    · have hlimit : callTimeOut = 500 := rfl
      rw [hsec]
      omega
    · omega
  · rw [timeLimit_talking hs] at hout
    rw [timeLimit_talking (hkeep.trans hs), hclock]
    by_contra hlt
    refine hover ⟨Or.inr hs, ?_, Or.inr ⟨hs, ?_⟩⟩
    · have hlimit : talkTimeOut = 3600 := rfl
      rw [hsec]
      omega
    · omega

/-- What the clock is worth after a round, whichever way it went. -/
theorem timeOut_tick {sendB : Buf} (hon : d.local1.onlineFlag = 1) (hc : d.caller)
    (h : TimerCounters d)
    (hclock : (timerThreadTask sendB d).1.local1.timeOut = d.local1.timeOut + 1) :
    (timerThreadTask sendB d).1.local1.timeOut ≤ (timerThreadTask sendB d).1.timeLimit := by
  have hcall : CallEffect d (d.cause (.tick sendB)) (timerThreadTask sendB d) :=
    callEffect_tick hc
  have hcause : d.cause (.tick sendB) = if d.active ∧ (d.lost ∨ d.overdue) then .expire
      else if d.lost then .lapse else .other := if_pos hon
  have hstatus := hcall.status
  have honline := hcall.online
  rw [hcause] at hstatus honline
  by_cases hx : d.active ∧ (d.lost ∨ d.overdue)
  · -- the call is over, and so is the watch
    rw [if_pos hx] at hstatus honline
    have hle := h.active_le hx.1
    exact timeLimit_off hstatus honline (by omega)
  · rw [if_neg hx] at hstatus honline
    by_cases hl : d.lost
    · rw [if_pos hl] at hstatus honline
      have hnull := caller_not_active hc fun ha => hx ⟨ha, Or.inl hl⟩
      have hsec : timerPerSec = 2 := rfl
      have htimer := h.timer1Num
      have hout := h.timeOut
      rw [Device.timeLimit, hnull] at hout
      dsimp only at hout
      rw [if_pos hon, Device.grace] at hout
      exact timeLimit_off (hstatus.trans hnull) honline (by omega)
    · rw [if_neg hl] at hstatus
      exact timeOut_kept hon hc h hl (fun ho => hx ⟨ho.1, Or.inr ho.2⟩) hstatus hclock

theorem counters_tick {sendB : Buf} (hc : d.caller) (h : TimerCounters d) :
    TimerCounters (timerThreadTask sendB d).1 := by
  have hsec : timerPerSec = 2 := rfl
  by_cases hon : d.local1.onlineFlag = 1
  swap
  · rw [tick_off hon]
    exact h
  obtain ⟨h1, h2, h3⟩ := tick_counts (d := d) sendB hon
  obtain ⟨hn, ht⟩ := onlineCheck_rest sendB hc
  obtain ⟨hn', ht'⟩ := talkCtrl_rest (onlineCheckFunc sendB d).1
  have htask : timerThreadTask sendB d = (onlineCheckFunc sendB d).andThen talkCtrlFunc := if_pos hon
  have htimer := h.timer1Num
  refine ⟨?_, timeOut_tick hon hc h h3, ?_, ?_⟩
  · rw [h1, hsec] at *
    split <;> omega
  · rw [htask, andThen_fst, hn', hn, h.onlineNum]
  · rw [htask, andThen_fst]
    obtain ht' | ht' := ht'
    · rw [ht', ht, h.talkLimit]
    · exact ht'

/-! The other steps. -/

theorem TimerCounters.same {e : Device} (h : TimerCounters d) (he : e.local1 = d.local1) :
    TimerCounters e := by
  have hlimit : e.timeLimit = d.timeLimit := by
    unfold Device.timeLimit Device.grace Device.status
    rw [he]
  obtain ⟨h1, h2, h3, h4⟩ := h
  rw [← he] at h1 h2 h3 h4
  rw [← hlimit] at h2
  exact ⟨h1, h2, h3, h4⟩

/-- The call is given up and the timer goes on. -/
theorem TimerCounters.nulled {e : Device} (h : TimerCounters d) (hc : d.caller)
    (he : e.local1 = { d.local1 with status := .null }) : TimerCounters e := by
  have hs : e.status = .null := congrArg Local1.status he
  refine ⟨by rw [he]; exact h.timer1Num, ?_, by rw [he]; exact h.onlineNum,
    by rw [he]; exact h.talkLimit⟩
  by_cases ha : d.active
  · have hle := h.active_le ha
    refine timeLimit_null (f := 51) hs ?_ fun _ => grace_le e
    rw [he]
    dsimp only
    omega
  · have hn : d.local1.status = .null := caller_not_active hc ha
    have hsame : ({ d.local1 with status := .null } : Local1) = d.local1 := by rw [← hn]
    exact (h.same (he.trans hsame)).timeOut

/-- The call is over, and the timer is off. -/
theorem TimerCounters.closed {e : Device} (h : TimerCounters d) (hc : d.caller)
    (he : ∃ g, e.local1 = { d.local1 with
      ipGroup := g, status := .null, onlineFlag := 0, callConfirmFlag := 0 }) :
    TimerCounters e := by
  obtain ⟨g, he⟩ := he
  have hs : e.status = .null := congrArg Local1.status he
  have hle := timeOut_le h hc
  refine ⟨by rw [he]; exact h.timer1Num, ?_, by rw [he]; exact h.onlineNum,
    by rw [he]; exact h.talkLimit⟩
  refine timeLimit_null (f := 0) hs (by rw [he]; exact hle) fun hf => ?_
  rw [he] at hf
  simp at hf

theorem cleared_local1 (d : Device) : ∃ g, d.cleared.local1 = { d.local1 with
    ipGroup := g, status := .null, onlineFlag := 0, callConfirmFlag := 0 } := by
  rw [Device.cleared, dropMultiGroup_eq]
  exact ⟨_, rfl⟩

theorem counters_video {t : VideoTask} {buff sendB : Buf} {host : List UInt8} (hc : d.caller)
    (h : TimerCounters d) : TimerCounters (runVideoTask t buff sendB host d).1 := by
  have he := video_effect d t buff sendB host
  generalize runVideoTask t buff sendB host d = r at he
  cases he with
  | passive ht =>
    have hp := passive_effect d buff sendB host ht
    generalize runVideoTask t buff sendB host d = r at hp
    cases hp with
    | confirmed hh =>
      refine ⟨h.timer1Num, ?_, h.onlineNum, h.talkLimit⟩
      obtain hs | hs := hh.1
      · have ht := h.timeOut
        rw [timeLimit_calling hs] at ht
        rw [timeLimit_calling (d := d.confirmed) hs]
        exact ht
      · have ht := h.timeOut
        rw [timeLimit_talking hs] at ht
        rw [timeLimit_talking (d := d.confirmed) hs]
        exact ht
    | heard _ hr =>
      obtain hs | hs | hs := hc <;> simp [hs] at hr
    | call | unheard | unlocked | shut | forced | unforced | played | mute => exact h
  | resolved => exact h.nulled hc rfl
  | busy => exact h.nulled hc rfl
  | unresolved | swallowed | unused | unanswered | unstarted | noCall => exact h.same rfl
  | answered => exact ⟨Nat.zero_le _, Nat.zero_le _, rfl, h.talkLimit⟩
  | started => exact ⟨h.timer1Num, Nat.zero_le _, h.onlineNum, h.talkLimit⟩
  | ended =>
    exact h.closed hc (cleared_local1 _)
  | concluded =>
    exact h.closed hc (cleared_local1 _)
  | stray ha =>
    refine ⟨h.timer1Num, ?_, h.onlineNum, h.talkLimit⟩
    have ht := h.timeOut
    obtain hs | hs := ha
    · rw [timeLimit_calling hs] at ht
      rw [timeLimit_calling (d := d.unwatched) hs]
      exact ht
    · rw [timeLimit_talking hs] at ht
      rw [timeLimit_talking (d := d.unwatched) hs]
      exact ht

theorem counters_step {i : Input} (hc : d.caller) (h : TimerCounters d) (hr : d.step i = some r) :
    TimerCounters r.1 := by
  cases i with
  | idle =>
    obtain rfl := Option.some.inj hr
    exact h
  | startCall ip addr uFlag =>
    obtain rfl := Option.some.inj hr
    exact h.same startCall_effect.local1
  | stopTalk =>
    obtain rfl := Option.some.inj hr
    exact h.same stopTalk_effect.local1
  | findIp addr uFlag =>
    obtain rfl := Option.some.inj hr
    exact h.same findIp_effect.local1
  | sendInfo data info => exact h.same (sendInfo_effect hr).local1
  | sendAudio c => exact h.same (congrArg Device.local1 (sendAudio_spec hr).1)
  | sendVideo c t => exact h.same (congrArg Device.local1 (sendVideo_spec hr).1)
  | video t buff sendB src =>
    obtain rfl := Option.some.inj hr
    exact counters_video hc h
  | openLock buff =>
    obtain rfl := Option.some.inj hr
    by_cases hp : buff 7 = reply ∧ d.pendingOpenLock.isSome
    · obtain ⟨j, hj⟩ := Option.isSome_iff_exists.mp hp.2
      rw [openLock_released hp.1 hj]
      exact h.same rfl
    · rw [openLock_ignored hp]
      exact h
  | tick sendB =>
    obtain rfl := Option.some.inj hr
    exact counters_tick hc h

theorem unturned_step {i : Input} (hc : d.caller) (hu : Unturned d) (h : d.step i = some r) :
    Unturned r.1 := by
  intro k
  cases step_table hc h with
  | keep _ _ _ ht =>
    rw [ht]
    exact hu k
  | @queue f j hf hj ht =>
    rw [ht]
    by_cases hk : k = j
    · rw [hk, update_self]
      exact fun _ => (commandOf_counters hf h hj).2.2
    · rw [update_of_ne hk]
      exact hu k
  | @ack j _ ht =>
    rw [ht, release_multiUdpBuff]
    by_cases hk : k = j
    · rw [hk, update_self]
      exact fun hv => Bool.noConfusion hv
    · rw [update_of_ne hk]
      exact hu k
  | @scan buff _ _ _ ht =>
    rw [ht]
    obtain hs | ⟨-, hs⟩ := scanned_slot buff k
    · rw [hs]
      exact hu k
    · rw [hs]
      exact fun hv => Bool.noConfusion hv

/-! Runs. -/

structure Counted (d : Device) : Prop where
  caller : d.caller
  timer : TimerCounters d
  paced : ∀ i, (d.multiUdpBuff i).paced
  unturned : Unturned d

variable {b : Boot}

theorem counted_init (b : Boot) : Counted (initParamTask b).dev := by
  have hthree : (0 : Int) ≤ 3 ∧ (3 : Int) < maxSendNum := by decide
  have hlocal : (initParamTask b).dev.local1 = initLocal := by
    unfold initParamTask sendFreeArp
    dsimp only
    cases (bootDevice b).freeSlot <;> rfl
  have hslot : ∀ i, ((initParamTask b).dev.multiUdpBuff i).paced ∧
      (((initParamTask b).dev.multiUdpBuff i).isValid = true →
        ((initParamTask b).dev.multiUdpBuff i).sendDelayTime = 0) := by
    intro i
    unfold initParamTask sendFreeArp
    dsimp only
    cases (bootDevice b).freeSlot with
    | none => exact ⟨paced_invalid rfl, fun hv => Bool.noConfusion hv⟩
    | some j =>
      dsimp only
      rw [setSlot_multiUdpBuff]
      by_cases hij : i = j
      · rw [hij, update_self]
        exact ⟨fun _ => ⟨hthree, Or.inl rfl, Or.inl rfl⟩, fun _ => rfl⟩
      · rw [update_of_ne hij]
        exact ⟨paced_invalid rfl, fun hv => Bool.noConfusion hv⟩
  refine ⟨caller_init b, ⟨?_, ?_, ?_, ?_⟩, fun i => (hslot i).1, fun i => (hslot i).2⟩
  · rw [hlocal]
    exact Nat.zero_le _
  · rw [hlocal]
    exact Nat.zero_le _
  · rw [hlocal]
    rfl
  · rw [hlocal]
    rfl

theorem counted_step (s : System) (a : Action) (s' : System) (evs : List Event)
    (h : Counted s.dev) (hs : s.step a = some (s', evs)) : Counted s'.dev :=
  have hd := device_step hs
  ⟨caller_step s a s' evs h.caller hs, counters_step h.caller h.timer hd,
    paced_step h.caller h.paced hd, unturned_step h.caller h.unturned hd⟩

theorem counted_run {ts : List Step} {s : System} (h : RunFrom b ts s) : Counted s.dev :=
  h.invariant (J := fun s => Counted s.dev) (counted_init b) counted_step

/-- Wherever a run of the library has got to, the counters of the timer are within its limits:
`Timer1Num` within the window, `TimeOut` within those of the call and the talk, or, when a call was
given up without the timer, within the two windows after them; `OnlineNum` is never used. -/
theorem timer_counters_bounded (e : Execution b) :
    TimerCounters e.final.dev ∧ e.final.dev.local1.timeOut ≤ talkTimeOut + 53 := by
  have hc := counted_run e.run
  exact ⟨hc.timer, timeOut_le hc.timer hc.caller⟩

theorem Counted.drainable (h : Counted d) : Drainable d := by
  have hint : intMax = 2147483647 := rfl
  refine ⟨fun i hv => ?_, fun i hv _ => ?_⟩
  · obtain ⟨⟨hn, -⟩, hd, -⟩ := h.paced i hv
    simp only [directCallTime] at hd
    exact ⟨h.unturned i hv, hn, by omega⟩
  · obtain ⟨-, hd, -⟩ := h.paced i hv
    simp only [directCallTime] at hd
    omega

/-- Six transmissions of two passes at most. -/
theorem Counted.passes_le (h : Counted d) : d.passes ≤ 12 := by
  refine max_le (by decide) (Finset.sup_le fun i _ => ?_)
  rw [MultiUdpBuff1.passes]
  split
  · rename_i hv
    obtain ⟨hn, hd, -⟩ := h.paced i hv
    simp only [directCallTime] at hd
    have hper : (d.multiUdpBuff i).period ≤ 2 := by
      unfold MultiUdpBuff1.period
      obtain hd | hd := hd <;> rw [hd] <;> decide
    have hmax : maxSendNum = 6 := rfl
    have hmul : (maxSendNum - (d.multiUdpBuff i).sendNum).toNat * (d.multiUdpBuff i).period ≤ 6 * 2 :=
      Nat.mul_le_mul (by omega) hper
    exact hmul
  · exact Nat.zero_le _

/-- Whatever state the library has been brought into, its table is one the loop of the send thread
can be let loose on: twelve passes empty it, each command sent as often as it has levels left. -/
theorem reachable_drains (e : Execution b) : ∃ n r, n ≤ 12 ∧ Drains e.final.dev n r ∧
    ∀ i, Settled e.final.dev.arpSocket (e.final.dev.multiUdpBuff i) (r.now.multiUdpBuff i)
      (own i r.log) := by
  have hc := counted_run e.run
  obtain ⟨n, r, hn, hdrain, hset⟩ := drain_ends hc.drainable
  exact ⟨n, r, hn.trans hc.passes_le, hdrain, hset⟩

end QsaTalk
