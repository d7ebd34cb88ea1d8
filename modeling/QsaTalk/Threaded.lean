import QsaTalk.Callbacks
import QsaTalk.CommandTable
import QsaTalk.CrossSend
import QsaTalk.Lib.Worker

/-! The library with its send thread: `Init_Udp_Send_Task` called, `_CROSS_SEND_FLAG` 1, which the
sources provide for and the build does not use. The thread takes its turns between the steps of the
application, the receive loops and the timer. An API call, a handler, a timer round and the turn of
one slot are a step each: that a command is released, or a new one put in, between the `isValid`
test of a turn and the locked block at its end is outside this model. -/
namespace QsaTalk
open ByteBuffer SlotTable Function Runs Loops RoundRobin Worker

/-! The timer, over the `stop_talk` it is linked with. -/

def onlineCheckOver (stop : Device → Outcome) (sendB : Buf) (d : Device) : Outcome :=
  let r : Outcome :=
    if d.local1.timer1Num > timerPerSec * 12 then
      let r : Outcome :=
        if d.local1.callConfirmFlag = 0 then
          let r : Outcome :=
            if d.status = .calling ∨ d.status = .called ∨ d.status = .talking ∨
                d.status = .talked then
              (stop d).andThen (finishCall .talkStop)
            else (d, [])
          (clearOnline r.1, r.2)
        else ({ d with local1 := { d.local1 with callConfirmFlag := 0 } }, [])
      ({ r.1 with local1 := { r.1.local1 with timer1Num := 0 } }, r.2)
    else if d.local1.timer1Num % (timerPerSec * 2) = 0 then
      if d.status = .called ∨ d.status = .talked then
        ({ d with local1 := { d.local1 with onlineNum := d.local1.onlineNum + 1 } },
          [udpSendBuff d.videoSocket (dotted d.remoteInfo.denIP) remoteVideoPort
            (confirmBytes d sendB) 62])
      else (d, [])
    else (d, [])
  ({ r.1 with local1 := { r.1.local1 with timer1Num := r.1.local1.timer1Num + 1 } }, r.2)

def giveUpOver (stop : Device → Outcome) (v : CbOpt) (d : Device) : Outcome :=
  let r := (stop d).andThen (finishCall v)
  (clearOnline r.1, r.2)

def talkCtrlOver (stop : Device → Outcome) (d : Device) : Outcome :=
  let r : Outcome :=
    if d.local1.timeOut % timerPerSec = 0 then
      match d.status with
      | .calling | .called =>
        if d.local1.timeOut > callTimeOut then giveUpOver stop .callTimeout d else (d, [])
      | .talking | .talked =>
        let d := { d with local1 := { d.local1 with talkTimeOut := talkTimeOut } }
        if d.local1.timeOut > d.local1.talkTimeOut then giveUpOver stop .talkTimeout d else (d, [])
      | _ => (d, [])
    else (d, [])
  ({ r.1 with local1 := { r.1.local1 with timeOut := r.1.local1.timeOut + 1 } }, r.2)

def timerThreadOver (stop : Device → Outcome) (sendB : Buf) (d : Device) : Outcome :=
  if d.local1.onlineFlag = 1 then (onlineCheckOver stop sendB d).andThen (talkCtrlOver stop)
  else (d, [])

theorem timerThreadOver_stopTalk : timerThreadOver stopTalk = timerThreadTask := rfl

/-! The steps of the queued variant. -/

def Device.stepQueued (d : Device) : Input → Option Outcome
  | .startCall ip addr uFlag => some (startCallQueued ip addr uFlag d)
  | .stopTalk => some (stopTalkQueued d)
  | .findIp addr uFlag => some (findIpQueued addr uFlag d)
  | .tick sendB => some (timerThreadOver stopTalkQueued sendB d)
  | i => d.step i

def System.stepQueued (s : System) (a : Action) : Option (System × List Event) :=
  match s.dev.stepQueued (s.input a) with
  | none => none
  | some r => some ({ s.loops a with dev := r.1 }, r.2)

/-- `Init_Udp_Send_Task` on the table; the semaphore starts at 0. -/
def initUdpSendTask (d : Device) : Device :=
  { d with multiUdpBuff := fun i => { d.multiUdpBuff i with
      isValid := false, sendNum := 0, delayTime := 100, sendDelayTime := 0 } }

def System.turn (i : Fin udpSendMax) (s : System) : Option (System × List Event) :=
  (slotTurn i s.dev).map fun r => ({ s with dev := r.1 }, r.2)

/-- `multi_send_thread_func` among the others, in the variant that starts it. A slot's turn is taken
as a whole, although the lock is held in the block of the spent commands only. -/
def multiSendThread : Rules udpSendMax System Action Event where
  busy s i := (s.dev.multiUdpBuff i).isValid
  turn := System.turn
  other := System.stepQueued
  posts evs := evs.count .semPost

abbrev Threads := Shop System
abbrev ThreadStep := Transition Threads (Deed Action) (List Event)

/-- `init_param_task` with the send thread; `SendFreeArp` is the first to post. -/
def initThreads (b : Boot) : Threads :=
  let r := sendFreeArp (initUdpSendTask (bootDevice b))
  { shared := { initParamTask b with dev := { r.1 with arpSocket := b.arpSocket } }
    sem := 0
    owed := r.2.count .semPost
    place := .asleep }

abbrev ThreadRun (b : Boot) (ts : List ThreadStep) (s : Threads) : Prop :=
  Run multiSendThread.step (initThreads b) ts s

variable {d : Device} {r : Outcome}

/-! Both variants leave the same state; where one sends, the other posts. -/

theorem stopTalkQueued_fst (d : Device) : (stopTalkQueued d).1 = (stopTalk d).1 := by
  unfold stopTalkQueued stopTalk
  split
  · rfl
  · cases d.freeSlot <;> rfl

theorem startCallQueued_fst (ip : List UInt8) (addr : Buf) (uFlag : Int) (d : Device) :
    (startCallQueued ip addr uFlag d).1 = (startCall ip addr uFlag d).1 := by
  unfold startCallQueued startCall
  split
  · cases hf : (d.dial ip addr).freeSlot with
    | none => simp only [hf]
    | some k => simp only [hf, locked_fst]
  · rfl

theorem findIpQueued_fst (addr : Option Buf) (uFlag : Int) (d : Device) :
    (findIpQueued addr uFlag d).1 = (findIp addr uFlag d).1 := by
  cases addr with
  | none => rfl
  | some addr =>
    simp only [findIpQueued, findIp]
    split
    · cases d.freeSlot <;> rfl
    · rfl

theorem timerThreadOver_fst {stop stop' : Device → Outcome} (h : ∀ d, (stop d).1 = (stop' d).1)
    (sendB : Buf) (d : Device) :
    (timerThreadOver stop sendB d).1 = (timerThreadOver stop' sendB d).1 := by
  have hgive (v : CbOpt) (e : Device) : (giveUpOver stop v e).1 = (giveUpOver stop' v e).1 := by
    simp only [giveUpOver, andThen_fst, h]
  have hcheck : (onlineCheckOver stop sendB d).1 = (onlineCheckOver stop' sendB d).1 := by
    unfold onlineCheckOver
    split
    · split
      · split
        · simp only [andThen_fst, h]
        · rfl
      · rfl
    · rfl
  have htalk (e : Device) : (talkCtrlOver stop e).1 = (talkCtrlOver stop' e).1 := by
    unfold talkCtrlOver
    split
    · cases e.status <;> dsimp only <;> split <;> simp only [hgive]
    · rfl
  unfold timerThreadOver
  split
  · rw [andThen_fst, andThen_fst, hcheck, htalk]
  · rfl

theorem stepQueued_fst (d : Device) (i : Input) :
    (d.stepQueued i).map Prod.fst = (d.step i).map Prod.fst := by
  cases i with
  | startCall ip addr uFlag => exact congrArg some (startCallQueued_fst ip addr uFlag d)
  | stopTalk => exact congrArg some (stopTalkQueued_fst d)
  | findIp addr uFlag => exact congrArg some (findIpQueued_fst addr uFlag d)
  | tick sendB =>
    refine congrArg some ?_
    rw [← timerThreadOver_stopTalk]
    exact timerThreadOver_fst stopTalkQueued_fst sendB d
  | _ => rfl

/-- A step of the queued variant is one of the built variant, up to what is sent. -/
theorem stepQueued_step {i : Input} (h : d.stepQueued i = some r) :
    ∃ evs, d.step i = some (r.1, evs) := by
  have hf := stepQueued_fst d i
  rw [h] at hf
  cases hs : d.step i with
  | none => simp [hs] at hf
  | some u =>
    rw [hs] at hf
    have hu : r.1 = u.1 := Option.some.inj hf
    exact ⟨u.2, by rw [hu]⟩

def Takes (d : Device) (r : Outcome) (i : Fin udpSendMax) : Prop :=
  (d.multiUdpBuff i).isValid = false ∧ (r.1.multiUdpBuff i).isValid = true

/-- A post is for a command that came into the table, and no command comes without one. -/
def Posted (d : Device) (r : Outcome) : Prop := .semPost ∈ r.2 ↔ ∃ i, Takes d r i

/-- A step that posts for what it adds, and takes nothing out. -/
structure Booked (d : Device) (r : Outcome) : Prop where
  grows : ∀ i, (d.multiUdpBuff i).isValid = true → (r.1.multiUdpBuff i).isValid = true
  posted : Posted d r

theorem Booked.same (h : r.1.multiUdpBuff = d.multiUdpBuff) (he : .semPost ∉ r.2) : Booked d r := by
  refine ⟨fun i hi => by rw [h]; exact hi, iff_of_false he ?_⟩
  rintro ⟨i, h0, h1⟩
  rw [h, h0] at h1
  exact Bool.noConfusion h1

theorem Booked.queue {k : Fin udpSendMax} {m : MultiUdpBuff1} (hk : d.freeSlot = some k)
    (h : r.1.multiUdpBuff = update d.multiUdpBuff k m) (hm : m.isValid = true)
    (he : .semPost ∈ r.2) : Booked d r := by
  have hfree : (d.multiUdpBuff k).isValid = false := by simpa using first_spec hk
  refine ⟨fun i hi => ?_, iff_of_true he ⟨k, hfree, ?_⟩⟩
  · rw [h]
    by_cases hik : i = k
    · rw [hik, update_self, hm]
    · rw [update_of_ne hik, hi]
  · rw [h, update_self, hm]

theorem Booked.andThen {f : Device → Outcome} (h : Booked d r) (h' : Booked r.1 (f r.1)) :
    Booked d (r.andThen f) := by
  refine ⟨fun i hi => h'.grows i (h.grows i hi), ?_⟩
  have hp : .semPost ∈ r.2 ↔ ∃ i, Takes d r i := h.posted
  have hp' : .semPost ∈ (f r.1).2 ↔ ∃ i, Takes r.1 (f r.1) i := h'.posted
  rw [Posted, andThen_snd, List.mem_append, hp, hp']
  constructor
  · rintro (⟨i, h0, h1⟩ | ⟨i, h0, h1⟩)
    · exact ⟨i, h0, h'.grows i h1⟩
    · refine ⟨i, Bool.eq_false_iff.mpr fun hi => ?_, h1⟩
      rw [h.grows i hi] at h0
      exact Bool.noConfusion h0
  · rintro ⟨i, h0, h1⟩
    cases hm : (r.1.multiUdpBuff i).isValid with
    | false => exact Or.inr ⟨i, hm, h1⟩
    | true => exact Or.inl ⟨i, h0, hm⟩

/-- Flags and counters are not the table's business. -/
theorem Booked.rest {e : Device} (h : Booked d r) (he : e.multiUdpBuff = r.1.multiUdpBuff) :
    Booked d (e, r.2) := by
  refine ⟨fun i hi => ?_, ?_⟩
  · dsimp only
    rw [he]
    exact h.grows i hi
  · rw [Posted]
    simp only [Takes, he]
    exact h.posted

theorem Booked.from {e : Device} (h : Booked e r) (he : e.multiUdpBuff = d.multiUdpBuff) :
    Booked d r := by
  refine ⟨fun i hi => h.grows i (by rw [he]; exact hi), ?_⟩
  have hp : .semPost ∈ r.2 ↔ ∃ i, Takes e r i := h.posted
  rw [Posted, hp]
  simp only [Takes, he]

theorem stopTalkQueued_booked (d : Device) : Booked d (stopTalkQueued d) := by
  unfold stopTalkQueued
  split
  · exact .same rfl (by simp)
  · cases hf : d.freeSlot with
    | none => exact .same rfl (by simp)
    | some k => exact .queue hf rfl rfl (by simp)

theorem startCallQueued_booked (ip : List UInt8) (addr : Buf) (uFlag : Int) (d : Device) :
    Booked d (startCallQueued ip addr uFlag d) := by
  unfold startCallQueued
  split
  · have hf := freeSlot_congr (dial_multiUdpBuff d ip addr)
    cases hfree : d.freeSlot with
    | none =>
      simp only [hf.trans hfree]
      exact .same rfl (by simp)
    | some k =>
      simp only [hf.trans hfree]
      exact .queue hfree rfl rfl (by simp)
  · exact .same rfl (by simp)

theorem findIpQueued_booked (addr : Option Buf) (uFlag : Int) (d : Device) :
    Booked d (findIpQueued addr uFlag d) := by
  cases addr with
  | none => exact .same rfl (by simp [findIpQueued])
  | some addr =>
    simp only [findIpQueued]
    split
    · cases hf : d.freeSlot with
      | none => exact .same rfl (by simp)
      | some k => exact .queue hf rfl rfl (by simp)
    · exact .same rfl (by simp)

theorem timer_booked (sendB : Buf) (d : Device) :
    Booked d (timerThreadOver stopTalkQueued sendB d) := by
  have hstop (v : CbOpt) (e : Device) : Booked e ((stopTalkQueued e).andThen (finishCall v)) :=
    (stopTalkQueued_booked e).andThen (.same rfl (by simp [finishCall]))
  have hgive (v : CbOpt) (e : Device) : Booked e (giveUpOver stopTalkQueued v e) :=
    (hstop v e).rest rfl
  have hcheck : Booked d (onlineCheckOver stopTalkQueued sendB d) := by
    unfold onlineCheckOver
    refine Booked.rest ?_ rfl
    split
    · refine Booked.rest ?_ rfl
      split
      · refine Booked.rest ?_ rfl
        split
        · exact hstop _ _
        · exact .same rfl (by simp)
      · exact .same rfl (by simp)
    · split
      · split <;> exact .same rfl (by simp [udpSendBuff])
      · exact .same rfl (by simp)
  have htalk (e : Device) : Booked e (talkCtrlOver stopTalkQueued e) := by
    unfold talkCtrlOver
    refine Booked.rest ?_ rfl
    split
    · cases e.status <;> dsimp only
      case calling | called =>
        split
        · exact hgive _ _
        · exact .same rfl (by simp)
      case talking | talked =>
        split
        · exact (hgive .talkTimeout (e.withLocal _)).from rfl
        · exact .same rfl (by simp)
      all_goals exact .same rfl (by simp)
    · exact .same rfl (by simp)
  unfold timerThreadOver
  split
  · exact hcheck.andThen (htalk _)
  · exact .same rfl (by simp)

theorem sendInfo_booked {data : Buf} {info : Option SendInfo} (h : sendInfo data info d = some r) :
    Booked d r := by
  cases info with
  | none =>
    obtain rfl := Option.some.inj h
    exact .same rfl (by simp)
  | some info =>
    cases hf : d.freeSlot with
    | none =>
      rw [sendInfo_full hf] at h
      obtain rfl := Option.some.inj h
      exact .same rfl (by simp)
    | some k =>
      obtain ⟨m, hm, rfl⟩ := sendInfo_queued hf h
      unfold messageSlot at hm
      split at hm
      · simp at hm
      · obtain rfl := Option.some.inj hm
        exact .queue hf rfl rfl (by simp)

/-! The steps that bring no command. -/

theorem unqueued_takes {i : Input} (hc : d.caller) (hn : d.commandOf i = none)
    (h : d.step i = some r) (j : Fin udpSendMax) : ¬Takes d r j := by
  rintro ⟨h0, h1⟩
  cases step_table hc h with
  | keep _ _ _ ht =>
    rw [ht, h0] at h1
    exact Bool.noConfusion h1
  | queue hq _ _ => simp [hn] at hq
  | @ack k _ ht =>
    rw [ht, release_multiUdpBuff] at h1
    by_cases hj : j = k
    · subst hj
      simp at h1
    · rw [update_of_ne hj, h0] at h1
      exact Bool.noConfusion h1
  | @scan buff _ _ _ ht =>
    rw [ht] at h1
    obtain hs | ⟨-, hs⟩ := scanned_slot buff j
    · rw [hs, h0] at h1
      exact Bool.noConfusion h1
    · rw [hs] at h1
      exact Bool.noConfusion h1

theorem video_postless (t : VideoTask) (buff sendB : Buf) (host : List UInt8) (d : Device) :
    .semPost ∉ (runVideoTask t buff sendB host d).2 := by
  have he := video_effect d t buff sendB host
  generalize runVideoTask t buff sendB host d = r at he
  cases he with
  | passive ht =>
    have hp := passive_effect d buff sendB host ht
    generalize runVideoTask t buff sendB host d = r at hp
    cases hp <;> simp [echo, udpSendBuff]
  | _ => simp [echo, udpSendBuff]

theorem media_postless {evs : List Event} (h : evs = [.currOpt .callFail d.status] ∨
    ∃ gs : List Datagram, evs = gs.map Event.send) : .semPost ∉ evs := by
  obtain rfl | ⟨gs, rfl⟩ := h <;> simp

theorem stepQueued_posted {i : Input} (hc : d.caller) (h : d.stepQueued i = some r) :
    Posted d r := by
  cases i with
  | startCall ip addr uFlag =>
    obtain rfl := Option.some.inj h
    exact (startCallQueued_booked ip addr uFlag d).posted
  | stopTalk =>
    obtain rfl := Option.some.inj h
    exact (stopTalkQueued_booked d).posted
  | findIp addr uFlag =>
    obtain rfl := Option.some.inj h
    exact (findIpQueued_booked addr uFlag d).posted
  | tick sendB =>
    obtain rfl := Option.some.inj h
    exact (timer_booked sendB d).posted
  | sendInfo data info => exact (sendInfo_booked h).posted
  | idle =>
    obtain rfl := Option.some.inj h
    exact (Booked.same rfl (by simp)).posted
  | sendAudio c =>
    have hno := unqueued_takes (i := .sendAudio c) hc rfl h
    have he := media_postless ((sendAudio_events h).imp And.right And.right)
    exact iff_of_false he fun ⟨j, hj⟩ => hno j hj
  | sendVideo c t =>
    have hno := unqueued_takes (i := .sendVideo c t) hc rfl h
    have he := media_postless ((sendVideo_events h).imp And.right And.right)
    exact iff_of_false he fun ⟨j, hj⟩ => hno j hj
  | video t b sendB src =>
    have hno := unqueued_takes (i := .video t b sendB src) hc rfl h
    obtain rfl := Option.some.inj h
    exact iff_of_false (video_postless t b sendB _ d) fun ⟨j, hj⟩ => hno j hj
  | openLock b =>
    have hno := unqueued_takes (i := .openLock b) hc rfl h
    obtain rfl := Option.some.inj h
    refine iff_of_false ?_ fun ⟨j, hj⟩ => hno j hj
    unfold recvOpenLockFunc
    split
    · cases d.pendingOpenLock <;> simp
    · simp

/-! The counters of the commands in the table. -/

/-- The counters a command can have between two turns of the thread. -/
def MultiUdpBuff1.paced (m : MultiUdpBuff1) : Prop :=
  m.isValid = true → (0 ≤ m.sendNum ∧ m.sendNum < maxSendNum) ∧
    (m.delayTime = 100 ∨ m.delayTime = directCallTime) ∧
    (m.sendDelayTime = 0 ∨ m.sendDelayTime = 100 ∧ m.delayTime = directCallTime)

def MultiUdpBuff1.rank (m : MultiUdpBuff1) : Nat :=
  if m.isValid then (2 * (maxSendNum - m.sendNum) - m.sendDelayTime / 100).toNat else 0

structure Orderly (s : System) : Prop where
  caller : s.dev.caller
  paced : ∀ i, (s.dev.multiUdpBuff i).paced

theorem paced_invalid {m : MultiUdpBuff1} (h : m.isValid = false) : m.paced :=
  fun hv => Bool.noConfusion (h.symm.trans hv)

theorem paced_rank {m : MultiUdpBuff1} (h : m.paced) : m.isValid = true ↔ 0 < m.rank := by
  rw [MultiUdpBuff1.rank]
  cases hv : m.isValid with
  | false => simp
  | true =>
    obtain ⟨hn, -, hs⟩ := h hv
    simp only [maxSendNum] at hn ⊢
    simp
    omega

theorem rank_le {m : MultiUdpBuff1} (h : m.paced) : m.rank ≤ 12 := by
  rw [MultiUdpBuff1.rank]
  split
  · rename_i hv
    obtain ⟨hn, -, hs⟩ := h hv
    simp only [maxSendNum] at hn ⊢
    omega
  · exact Nat.zero_le _

/-- A turn that only counts brings a command closer to its end. -/
theorem paced_counted {m : MultiUdpBuff1} (h : m.paced) (hv : m.isValid = true)
    (hn : ¬maxSendNum ≤ m.counted.sendNum) : m.counted.paced ∧ m.counted.rank < m.rank := by
  obtain ⟨hnum, hd, hs⟩ := h hv
  have hpos := (paced_rank h).mp hv
  rw [MultiUdpBuff1.counted, if_pos hnum.2] at hn ⊢
  split
  · rename_i hstart
    rw [if_pos hstart] at hn
    dsimp only at hn
    refine ⟨fun _ => ⟨⟨by dsimp only; omega, by dsimp only; omega⟩, hd, Or.inl rfl⟩, ?_⟩
    simp only [MultiUdpBuff1.rank, hv, if_true, maxSendNum] at hn hnum hpos ⊢
    omega
  · rename_i hstart
    simp only [directCallTime] at hd hs
    have hzero : m.sendDelayTime = 0 ∧ m.delayTime = 200 := by omega
    refine ⟨fun _ => ⟨hnum, Or.inr hzero.2, Or.inr ⟨?_, hzero.2⟩⟩, ?_⟩
    · dsimp only
      omega
    · simp only [MultiUdpBuff1.rank, hv, if_true, maxSendNum] at hnum hpos ⊢
      omega

theorem paced_countable {m : MultiUdpBuff1} (h : m.paced) : m.isValid = true → m.countable := by
  intro hv _
  obtain ⟨-, -, hs⟩ := h hv
  have hint : intMax = 2147483647 := rfl
  omega

/-- Commands come with counters of this kind. -/
theorem commandOf_counters {i : Input} {f : MultiUdpBuff1 → MultiUdpBuff1} (h : d.commandOf i = some f)
    (hr : d.step i = some r) {k : Fin udpSendMax} (hk : d.freeSlot = some k) :
    (f (d.multiUdpBuff k)).isValid = true ∧ (f (d.multiUdpBuff k)).paced ∧
      (f (d.multiUdpBuff k)).sendDelayTime = 0 := by
  have hfive : (0 : Int) ≤ 5 ∧ (5 : Int) < maxSendNum := by decide
  have hzero : (0 : Int) ≤ 0 ∧ (0 : Int) < maxSendNum := by decide
  have hslot := commandOf_slot h hr hk
  generalize f (d.multiUdpBuff k) = m' at hslot ⊢
  cases hslot with
  | call e => exact ⟨rfl, fun _ => ⟨hfive, Or.inr rfl, Or.inl rfl⟩, rfl⟩
  | callEnd => exact ⟨rfl, fun _ => ⟨hfive, Or.inr rfl, Or.inl rfl⟩, rfl⟩
  | query addr => exact ⟨rfl, fun _ => ⟨hfive, Or.inr rfl, Or.inl rfl⟩, rfl⟩
  | message hm =>
    unfold messageSlot at hm
    split at hm
    · simp at hm
    · obtain rfl := Option.some.inj hm
      exact ⟨rfl, fun _ => ⟨hzero, Or.inr rfl, Or.inl rfl⟩, rfl⟩

theorem paced_step {i : Input} (hc : d.caller) (hp : ∀ k, (d.multiUdpBuff k).paced)
    (h : d.step i = some r) : ∀ k, (r.1.multiUdpBuff k).paced := by
  intro k
  cases step_table hc h with
  | keep _ _ _ ht =>
    rw [ht]
    exact hp k
  | @queue f j hf hj ht =>
    rw [ht]
    by_cases hk : k = j
    · rw [hk, update_self]
      exact (commandOf_counters hf h hj).2.1
    · rw [update_of_ne hk]
      exact hp k
  | @ack j _ ht =>
    rw [ht, release_multiUdpBuff]
    by_cases hk : k = j
    · rw [hk, update_self]
      exact paced_invalid rfl
    · rw [update_of_ne hk]
      exact hp k
  | @scan buff _ _ _ ht =>
    rw [ht]
    obtain hs | ⟨-, hs⟩ := scanned_slot buff k
    · rw [hs]
      exact hp k
    · rw [hs]
      exact paced_invalid rfl

/-! The send thread's turns. -/

theorem sendSlot_caller (i : Fin udpSendMax) (hc : d.caller) : (sendSlot i d).1.caller := by
  obtain ⟨hs, -⟩ := sendSlot_spec (d := d) (i := i) rfl
  unfold Device.caller
  rw [hs]
  unfold MultiUdpBuff1.expiry MultiUdpBuff1.report
  split
  · split
    · exact hc
    · split
      · split
        · exact hc
        · split
          · exact Or.inl rfl
          · exact hc
      · exact hc
  · exact hc

/-- The slot whose turn it is comes closer to its end, or is free. -/
theorem sendSlot_rank {i : Fin udpSendMax} (hp : (d.multiUdpBuff i).paced) :
    ((sendSlot i d).1.multiUdpBuff i).paced ∧
      ((d.multiUdpBuff i).isValid = true →
        ((sendSlot i d).1.multiUdpBuff i).rank < (d.multiUdpBuff i).rank) := by
  cases hv : (d.multiUdpBuff i).isValid with
  | false =>
    rw [sendSlot_invalid hv]
    exact ⟨hp, fun h => Bool.noConfusion h⟩
  | true =>
    by_cases hn : maxSendNum ≤ (d.multiUdpBuff i).counted.sendNum
    · obtain ⟨-, -, ht, -⟩ := sendSlot_drops hv hn rfl
      have hgone : ((sendSlot i d).1.multiUdpBuff i).isValid = false := by rw [ht, update_self]
      refine ⟨paced_invalid hgone, fun _ => ?_⟩
      rw [MultiUdpBuff1.rank, hgone]
      exact (paced_rank hp).mp hv
    · have hself : (sendSlot i d).1.multiUdpBuff i = (d.multiUdpBuff i).counted := by
        rw [sendSlot_counts hv hn]
        exact update_self _ _ _
      rw [hself]
      exact (paced_counted hp hv hn).imp id fun h _ => h

/-- A turn of the thread is defined, whichever slot it is at. -/
theorem Orderly.turn {s : System} (h : Orderly s) (i : Fin udpSendMax) : s.turn i =
    some ({ s with dev := (sendSlot i s.dev).1 }, (sendSlot i s.dev).2) := by
  have hturn : slotTurn i s.dev = some (sendSlot i s.dev) :=
    if_pos (paced_countable (h.paced i))
  rw [System.turn, hturn, Option.map_some]

theorem sendThread_lawful :
    Lawful multiSendThread Orderly fun s i => (s.dev.multiUdpBuff i).rank := by
  refine ⟨fun s a t evs hs h => ?_, fun s a t evs i hs h hi => ?_, fun s i hs => ?_,
    fun s i hs => ?_⟩
  · simp only [multiSendThread, System.stepQueued] at h
    split at h
    · simp at h
    · rename_i r hr
      obtain ⟨rfl, rfl⟩ := Prod.mk.inj (Option.some.inj h)
      obtain ⟨evs, hstep⟩ := stepQueued_step hr
      exact ⟨caller_after hs.caller (step_callEffect hs.caller hstep).status,
        paced_step (r := (r.1, evs)) hs.caller hs.paced hstep⟩
  · simp only [multiSendThread, System.stepQueued] at h hi ⊢
    split at h
    · simp at h
    · rename_i r hr
      obtain ⟨rfl, rfl⟩ := Prod.mk.inj (Option.some.inj h)
      cases hv : (s.dev.multiUdpBuff i).isValid with
      | true => exact Or.inl rfl
      | false =>
        have hposts := (stepQueued_posted hs.caller hr).mpr ⟨i, hv, hi⟩
        exact Or.inr (List.count_pos_iff.mpr hposts)
  · exact paced_rank (hs.paced i)
  · obtain ⟨hpaced, hrank⟩ := sendSlot_rank (hs.paced i)
    have hother := (sendSlot_local i s.dev).2
    refine ⟨_, _, hs.turn i, ⟨sendSlot_caller i hs.caller, fun j => ?_⟩,
      fun h => hrank ((paced_rank (hs.paced i)).mpr h), fun j => ?_⟩
    · by_cases hj : j = i
      · rw [hj]
        exact hpaced
      · dsimp only
        rw [hother j hj]
        exact hs.paced j
    · by_cases hj : j = i
      · subst hj
        cases hv : (s.dev.multiUdpBuff j).isValid with
        | true => exact Nat.le_of_lt (hrank hv)
        | false =>
          dsimp only
          rw [sendSlot_invalid hv]
      · dsimp only
        rw [hother j hj]

end QsaTalk
