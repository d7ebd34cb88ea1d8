import QsaTalk.HandlerSpecs
import QsaTalk.Lib.Reentry
import QsaTalk.SendThread
import QsaTalk.System

/-! Callbacks that call back: the application answers a callback with `start_call`, `stop_talk` and
`find_ip`, on the thread that raised it. `udp_lock` is an ordinary mutex, so a thread that still
holds it does not get past a second `pthread_lock`. -/
namespace QsaTalk
open ByteBuffer SlotTable Function Reentry

def Event.role : Event → Role
  | .lock => .acquire
  | .unlock => .release
  | .currOpt _ _ | .devip _ _ _ | .audioData _ _ _ => .ask
  | .semPost | .send _ => .plain

inductive PublicCall where
  | startCall (ip : List UInt8) (addr : Buf) (uFlag : Int)
  | stopTalk
  | findIp (addr : Option Buf) (uFlag : Int)

def PublicCall.run : PublicCall → Device → Outcome
  | .startCall ip addr uFlag => QsaTalk.startCall ip addr uFlag
  | .stopTalk => QsaTalk.stopTalk
  | .findIp addr uFlag => QsaTalk.findIp addr uFlag

def PublicCall.locks (s : CallStatus) : PublicCall → Prop
  | .startCall _ _ uFlag => uFlag = 2 ∧ s = .null
  | .stopTalk => s ≠ .null
  | .findIp addr uFlag => addr.isSome ∧ s = .null ∧ uFlag = 0

variable {d : Device}

theorem publicCall_idle (c : PublicCall) (h : ¬c.locks d.status) : c.run d = (d, []) := by
  cases c with
  | startCall ip addr uFlag => exact startCall_refused h
  | stopTalk => exact stopTalk_idle (not_not.mp h)
  | findIp addr uFlag => exact findIp_refused h

theorem publicCall_locked (c : PublicCall) (h : c.locks d.status) :
    Bracketed Event.role (c.run d).2 := by
  have hempty : Bracketed Event.role [.lock, .unlock] := ⟨_, [], _, rfl, rfl, by simp, rfl⟩
  have hsent (m : MultiUdpBuff1) : Bracketed Event.role [.lock, m.transmit, .unlock] :=
    ⟨_, [m.transmit], _, rfl, rfl, by simp [MultiUdpBuff1.transmit, udpSendBuff, Event.role], rfl⟩
  cases hf : d.freeSlot with
  | none =>
    cases c with
    | startCall ip addr uFlag =>
      obtain ⟨rfl, hs⟩ := h
      rw [PublicCall.run, startCall_full hs hf]
      exact hempty
    | stopTalk =>
      rw [PublicCall.run, stopTalk_full h hf]
      exact hempty
    | findIp addr uFlag =>
      obtain ⟨ha, hs, rfl⟩ := h
      obtain ⟨a, rfl⟩ := Option.isSome_iff_exists.mp ha
      rw [PublicCall.run, findIp_full hs hf]
      exact hempty
  | some i =>
    cases c with
    | startCall ip addr uFlag =>
      obtain ⟨rfl, hs⟩ := h
      rw [PublicCall.run, startCall_queued hs hf]
      exact hsent _
    | stopTalk =>
      rw [PublicCall.run, stopTalk_queued h hf]
      exact hsent _
    | findIp addr uFlag =>
      obtain ⟨ha, hs, rfl⟩ := h
      obtain ⟨a, rfl⟩ := Option.isSome_iff_exists.mp ha
      rw [PublicCall.run, findIp_queued hs hf]
      exact hsent _

/-- `libqsa` as an application sees it from a callback. -/
def libqsa : Library Device Event PublicCall CallStatus where
  role := Event.role
  call := PublicCall.run
  view := Device.status
  locks c s := c.locks s
  idle _ _ := publicCall_idle _
  bracketed _ _ := publicCall_locked _

abbrev App := List Event → Reaction PublicCall CallStatus

abbrev Answers := List Event → Prog Device Event

/-! The timer works on after its callbacks; the other threads are done with the globals when they
raise one. -/

def onlineCheckWith (answer : Answers) (sendB : Buf) (t : Thread Device Event) :
    Option (Thread Device Event) :=
  let d := t.state
  let r : Option (Thread Device Event) :=
    if d.local1.timer1Num > timerPerSec * 12 then
      let r : Option (Thread Device Event) :=
        if d.local1.callConfirmFlag = 0 then
          let r : Option (Thread Device Event) :=
            if d.status = .calling ∨ d.status = .called ∨ d.status = .talking ∨
                d.status = .talked then
              (libqsa.piece answer stopTalk t).bind (libqsa.piece answer (finishCall .talkStop))
            else some t
          r.map (Thread.update clearOnline)
        else some (t.update fun d => { d with local1 := { d.local1 with callConfirmFlag := 0 } })
      r.map (Thread.update fun d => { d with local1 := { d.local1 with timer1Num := 0 } })
    else if d.local1.timer1Num % (timerPerSec * 2) = 0 then
      if d.status = .called ∨ d.status = .talked then
        libqsa.piece answer (fun d =>
          ({ d with local1 := { d.local1 with onlineNum := d.local1.onlineNum + 1 } },
            [udpSendBuff d.videoSocket (dotted d.remoteInfo.denIP) remoteVideoPort
              (confirmBytes d sendB) 62])) t
      else some t
    else some t
  r.map (Thread.update fun d =>
    { d with local1 := { d.local1 with timer1Num := d.local1.timer1Num + 1 } })

def giveUpWith (answer : Answers) (v : CbOpt) (t : Thread Device Event) :
    Option (Thread Device Event) :=
  ((libqsa.piece answer stopTalk t).bind (libqsa.piece answer (finishCall v))).map
    (Thread.update clearOnline)

def talkCtrlWith (answer : Answers) (t : Thread Device Event) : Option (Thread Device Event) :=
  let d := t.state
  let r : Option (Thread Device Event) :=
    if d.local1.timeOut % timerPerSec = 0 then
      match d.status with
      | .calling | .called =>
        if d.local1.timeOut > callTimeOut then giveUpWith answer .callTimeout t else some t
      | .talking | .talked =>
        let t := t.update fun d => { d with local1 := { d.local1 with talkTimeOut := talkTimeOut } }
        if t.state.local1.timeOut > t.state.local1.talkTimeOut then giveUpWith answer .talkTimeout t
        else some t
      | _ => some t
    else some t
  r.map (Thread.update fun d =>
    { d with local1 := { d.local1 with timeOut := d.local1.timeOut + 1 } })

def timerThreadWith (answer : Answers) (sendB : Buf) (t : Thread Device Event) :
    Option (Thread Device Event) :=
  if t.state.local1.onlineFlag = 1 then (onlineCheckWith answer sendB t).bind (talkCtrlWith answer)
  else some t

/-- What wakes a thread of the library: a datagram in front of one of the receive loops, a timer
round, a pass of the send thread. -/
inductive Entry where
  | recvVideo (buff : Buf) (dgram : List UInt8) (sendB : Buf) (src : IP4)
  | recvData (buff : Buf) (dgram : List UInt8)
  | tick (sendB : Buf)
  | pass

def Entry.alone : Entry → Device → Outcome
  | .recvVideo buff dgram sendB src =>
    udpVideoRcv (receive buff dgram) sendB (received dgram).length (dotted src)
  | .recvData buff dgram => udpDataRcv (receive buff dgram)
  | .tick sendB => timerThreadTask sendB
  | .pass => multiSendPass

def Entry.run (answer : Answers) : Entry → Thread Device Event → Option (Thread Device Event)
  | .recvVideo buff dgram sendB src => libqsa.piece answer
      (udpVideoRcv (receive buff dgram) sendB (received dgram).length (dotted src))
  | .recvData buff dgram => libqsa.piece answer (udpDataRcv (receive buff dgram))
  | .tick sendB => timerThreadWith answer sendB
  | .pass => libqsa.pieces answer ((List.finRange udpSendMax).map sendSlot)

/-- The callbacks that come while `udp_lock` is held, read off the state before. -/
def Device.toldLocked (d : Device) : Entry → List (CbOpt × CallStatus)
  | .recvVideo old dgram _ _ =>
    let buff := receive old dgram
    match videoTask buff (received dgram).length with
    | some .lineUse =>
      if (buff 7 = ask ∧ d.pendingCall.isSome) ∧ d.remoteInfo.denNum = 1 then [(.callBusy, .null)]
      else []
    | some .callAnswer =>
      if buff 7 = ask ∧ d.pendingCall.isSome then [(.callOk, .calling)] else []
    | some .callEnd =>
      if d.active ∧ buff 7 = reply ∧ d.pendingCallEnd.isSome then [(.talkStop, .null)] else []
    | _ => []
  | .recvData _ _ | .tick _ => []
  | .pass => expiries d.arpSocket d.multiUdpBuff d.status (List.finRange udpSendMax)

/-- Whatever the application is told under the lock it answers, if at all, with calls that are
refused before they lock. -/
def App.heeds (app : App) (l : List (CbOpt × CallStatus)) : Prop :=
  libqsa.Heeds app [] (l.map fun p => (raisedBy p, p.2))

/-! A pass of the send thread. -/

theorem sends_plain {u : List Event} (h : ∀ e ∈ u, ∃ g, e = .send g) :
    ∀ e ∈ u, libqsa.role e = .plain := by
  intro e he
  obtain ⟨g, rfl⟩ := h e he
  rfl

theorem sendSlot_inside (i : Fin udpSendMax) : libqsa.Tidy true false (sendSlot i d).2 ∧
    libqsa.asked (sendSlot i d).2 =
      ((d.multiUdpBuff i).expiry d.arpSocket d.status).toList.map raisedBy := by
  obtain ⟨-, -, -, u, v, he, hu, hv⟩ := sendSlot_spec (d := d) (i := i) rfl
  have hplain := sends_plain hu
  rw [he, Library.tidy_plain hplain, Library.asked_append, Library.asked_plain hplain,
    List.nil_append]
  obtain ⟨rfl, hp⟩ | rfl := hv
  · rw [hp]
    exact ⟨rfl, rfl⟩
  · cases (d.multiUdpBuff i).expiry d.arpSocket d.status with
    | none => exact ⟨⟨rfl, rfl, rfl⟩, rfl⟩
    | some p => exact ⟨⟨rfl, rfl, rfl, rfl⟩, rfl⟩

theorem through_sendSlots (is : List (Fin udpSendMax)) :
    Library.through (is.map sendSlot) d = sendSlots is d := by
  induction is generalizing d with
  | nil => rfl
  | cons i is ih =>
    rw [List.map_cons, Library.through, ih]
    rfl

theorem told_sendSlots {f : Fin udpSendMax → MultiUdpBuff1} {is : List (Fin udpSendMax)}
    (hn : is.Nodup) (hf : ∀ k ∈ is, d.multiUdpBuff k = f k) :
    libqsa.told (is.map sendSlot) d =
      (expiries d.arpSocket f d.status is).map fun p => (raisedBy p, p.2) := by
  induction is generalizing d with
  | nil => rfl
  | cons i is ih =>
    obtain ⟨hi, hn⟩ := List.nodup_cons.mp hn
    obtain ⟨hs, ha, ht, -⟩ := sendSlot_spec (d := d) (i := i) rfl
    have hrest : ∀ k ∈ is, (sendSlot i d).1.multiUdpBuff k = f k := by
      intro k hk
      rw [ht k fun hki => hi (hki ▸ hk)]
      exact hf k (List.mem_cons_of_mem _ hk)
    rw [List.map_cons, Library.told, ih hn hrest, (sendSlot_inside i).2, ha, hs, expiries,
      hf i List.mem_cons_self]
    cases he : (f i).expiry d.arpSocket d.status with
    | none => rfl
    | some p =>
      have hview : libqsa.view (sendSlot i d).1 = p.2 := by
        rw [hf i List.mem_cons_self, he] at hs
        exact hs
      simp [hview]

/-! A round of the receive loops. -/

/-- A handler's callbacks come all under the lock, as told, or all with the lock free. -/
def Placed (during : List (CbOpt × CallStatus)) (r : Outcome) : Prop :=
  (libqsa.Tidy true false r.2 ∧
      (libqsa.asked r.2).map (·, r.1.status) = during.map fun p => (raisedBy p, p.2)) ∨
    libqsa.Tidy false false r.2 ∧ during = []

theorem Placed.idle : Placed [] (d, []) := Or.inl ⟨rfl, rfl⟩

theorem Placed.locked : Placed [] (d, [.lock, .unlock]) := Or.inl ⟨⟨rfl, rfl, rfl⟩, rfl⟩

theorem Placed.told (v : CbOpt) :
    Placed [(v, d.status)] (d, [.lock, .currOpt v d.status, .unlock]) :=
  Or.inl ⟨⟨rfl, rfl, rfl, rfl⟩, rfl⟩

theorem placed_passive {t : VideoTask} {buff sendB : Buf} {host : List UInt8} (ht : t.passive) :
    Placed [] (runVideoTask t buff sendB host d) := by
  have he := passive_effect d buff sendB host ht
  generalize runVideoTask t buff sendB host d = r at he
  cases he with
  | confirmed | heard => exact Or.inl ⟨rfl, rfl⟩
  | unlocked | forced | played => exact Or.inr ⟨⟨rfl, rfl⟩, rfl⟩
  | call | unheard | shut | unforced | mute => exact .idle

theorem placed_video (buff sendB : Buf) (dgram : List UInt8) (src : IP4) :
    Placed (d.toldLocked (.recvVideo buff dgram sendB src))
      ((Entry.recvVideo buff dgram sendB src).alone d) := by
  unfold Entry.alone udpVideoRcv Device.toldLocked
  dsimp only
  generalize receive buff dgram = buff
  cases videoTask buff (received dgram).length with
  | none => exact .idle
  | some t =>
    have he := video_effect d t buff sendB (dotted src)
    dsimp only
    generalize runVideoTask t buff sendB (dotted src) d = r at he
    cases he with
    | passive ht =>
      cases t with
      | call | callConfirm | openLock | forceIFrame | callUpDown => exact placed_passive trivial
      | nsReply | lineUse | callAnswer | callStart | callEnd => exact ht.elim
    | resolved => exact Or.inr ⟨⟨rfl, rfl, rfl, rfl⟩, rfl⟩
    | busy h7 hp hn =>
      dsimp only
      rw [if_pos ⟨⟨h7, Option.isSome_of_eq_some hp⟩, hn⟩]
      exact .told (d := setDeviceStatus .null _) .callBusy
    | swallowed h7 hp hn =>
      dsimp only
      rw [if_neg fun h => hn h.2]
      exact .locked
    | unused h =>
      dsimp only
      rw [if_neg fun hc => h hc.1]
      exact .locked
    | answered h7 hp =>
      dsimp only
      rw [if_pos ⟨h7, Option.isSome_of_eq_some hp⟩]
      exact .told (d := Device.answered _) .callOk
    | unanswered h =>
      dsimp only
      rw [if_neg h]
      exact .locked
    | started => exact Or.inr ⟨⟨rfl, rfl⟩, rfl⟩
    | ended ha h7 =>
      have hne : ¬ask = reply := by decide
      dsimp only
      rw [if_neg fun h => hne (h7.symm.trans h.2.1)]
      exact Or.inr ⟨⟨rfl, rfl⟩, rfl⟩
    | concluded ha h7 hp =>
      dsimp only
      rw [if_pos ⟨ha, h7, Option.isSome_of_eq_some hp⟩]
      exact .told (d := Device.cleared _) .talkStop
    | stray ha h7 hp =>
      dsimp only
      rw [if_neg fun h => hp h.2]
      exact .locked
    | noCall ha =>
      dsimp only
      rw [if_neg fun h => ha h.1]
      exact .idle
    | unresolved => exact .locked
    | unstarted => exact .idle

theorem placed_data (buff : Buf) (dgram : List UInt8) :
    Placed [] ((Entry.recvData buff dgram).alone d) := by
  rw [Entry.alone, udpDataRcv]
  generalize receive buff dgram = buff
  split
  · by_cases hp : buff 7 = reply ∧ d.pendingOpenLock.isSome
    · obtain ⟨i, hi⟩ := Option.isSome_iff_exists.mp hp.2
      rw [openLock_released hp.1 hi]
      exact .locked
    · rw [openLock_ignored hp]
      exact .locked
  · exact .idle

variable {app : App} {n : Nat}

theorem Placed.returns {l : List (CbOpt × CallStatus)} {f : Device → Outcome}
    (h : Placed l (f d)) :
    Returns (libqsa.piece (libqsa.answer app (n + 1)) f ⟨d, false, []⟩) ↔ app.heeds l := by
  obtain ⟨ht, ha⟩ | ⟨ht, rfl⟩ := h
  · rw [Library.piece_returns (t := ⟨d, false, []⟩) ht rfl, App.heeds, ← ha]
    rfl
  · exact ⟨fun _ => trivial, fun _ => Library.piece_outside (t := ⟨d, false, []⟩) ht rfl⟩

theorem recvVideo_returns (app : App) (n : Nat) (d : Device) (buff sendB : Buf) (dgram : List UInt8)
    (src : IP4) : Returns ((Entry.recvVideo buff dgram sendB src).run (libqsa.answer app (n + 1))
      ⟨d, false, []⟩) ↔ app.heeds (d.toldLocked (.recvVideo buff dgram sendB src)) :=
  (placed_video buff sendB dgram src).returns

/-! A timer round raises its callbacks with the lock free, so it always comes through. -/

variable {t : Thread Device Event} {sendB : Buf}

theorem stopTalk_tidy : libqsa.Tidy false false (stopTalk d).2 := by
  by_cases hn : d.status = .null
  · rw [stopTalk_idle hn]
    rfl
  · cases hf : d.freeSlot with
    | none =>
      rw [stopTalk_full hn hf]
      exact ⟨rfl, rfl, rfl⟩
    | some i =>
      rw [stopTalk_queued hn hf]
      exact ⟨rfl, rfl, rfl⟩

theorem stopTalk_returns (h : t.held = false) :
    Returns (libqsa.piece (libqsa.answer app n) stopTalk t) :=
  Library.piece_outside stopTalk_tidy h

theorem finishCall_returns (v : CbOpt) (h : t.held = false) :
    Returns (libqsa.piece (libqsa.answer app n) (finishCall v) t) :=
  Library.piece_outside ⟨rfl, rfl⟩ h

theorem giveUp_returns (v : CbOpt) (h : t.held = false) :
    Returns (giveUpWith (libqsa.answer app n) v t) :=
  ((stopTalk_returns h).bind fun _ => finishCall_returns v).update _

theorem onlineCheck_returns (h : t.held = false) :
    Returns (onlineCheckWith (libqsa.answer app n) sendB t) := by
  refine Returns.update _ ?_
  split
  · refine Returns.update _ ?_
    split
    · refine Returns.update _ ?_
      split
      · exact (stopTalk_returns h).bind fun _ => finishCall_returns .talkStop
      · exact returns_some h
    · exact returns_some h
  · split
    · split
      · exact Library.piece_outside rfl h
      · exact returns_some h
    · exact returns_some h

theorem talkCtrl_returns (h : t.held = false) : Returns (talkCtrlWith (libqsa.answer app n) t) := by
  refine Returns.update _ ?_
  split
  · split
    · split
      · exact giveUp_returns _ h
      · exact returns_some h
    · split
      · exact giveUp_returns _ h
      · exact returns_some h
    · dsimp only
      split
      · exact giveUp_returns _ h
      · exact returns_some h
    · dsimp only
      split
      · exact giveUp_returns _ h
      · exact returns_some h
    · exact returns_some h
  · exact returns_some h

theorem tick_returns (h : t.held = false) :
    Returns (timerThreadWith (libqsa.answer app n) sendB t) := by
  rw [timerThreadWith]
  split
  · exact (onlineCheck_returns h).bind fun _ => talkCtrl_returns
  · exact returns_some h

/-! With nobody at the callbacks a thread does what the handlers do alone. -/

def Alone (r : Option (Thread Device Event)) (t : Thread Device Event) (o : Outcome) : Prop :=
  r = some ⟨o.1, false, t.trace ++ o.2⟩

def nobody : App := fun _ => .done

theorem Alone.skip (h : t.held = false) : Alone (some t) t (t.state, []) := by
  obtain ⟨d, held, tr⟩ := t
  obtain rfl : held = false := h
  simp [Alone]

theorem Alone.bind {r : Option (Thread Device Event)} {o : Outcome} {p : Prog Device Event}
    {f : Device → Outcome} (h : Alone r t o)
    (hp : ∀ u, u.held = false → Alone (p u) u (f u.state)) : Alone (r.bind p) t (o.andThen f) := by
  have h' := hp ⟨o.1, false, t.trace ++ o.2⟩ rfl
  rw [Alone] at h h' ⊢
  rw [h, Option.bind_some, h', List.append_assoc]
  rfl

theorem Alone.update {r : Option (Thread Device Event)} {o : Outcome} (f : Device → Device)
    (h : Alone r t o) : Alone (r.map (Thread.update f)) t (f o.1, o.2) := by
  rw [Alone] at h ⊢
  rw [h]
  rfl

theorem finish_alone (v : CbOpt) (h : t.held = false) :
    Alone ((libqsa.piece (libqsa.answer nobody n) stopTalk t).bind
      (libqsa.piece (libqsa.answer nobody n) (finishCall v))) t
      ((stopTalk t.state).andThen (finishCall v)) := by
  have hstop : Alone (libqsa.piece (libqsa.answer nobody n) stopTalk t) t (stopTalk t.state) :=
    Library.piece_done stopTalk_tidy h
  have htidy (e : Device) : libqsa.Tidy false false (finishCall v e).2 := ⟨rfl, rfl⟩
  exact hstop.bind fun u hu => Library.piece_done (htidy u.state) hu

theorem giveUp_alone (v : CbOpt) (h : t.held = false) :
    Alone (giveUpWith (libqsa.answer nobody n) v t) t (giveUp v t.state) :=
  (finish_alone v h).update clearOnline

theorem onlineCheck_alone (h : t.held = false) :
    Alone (onlineCheckWith (libqsa.answer nobody n) sendB t) t (onlineCheckFunc sendB t.state) := by
  unfold onlineCheckWith onlineCheckFunc
  refine Alone.update _ ?_
  split
  · refine Alone.update _ ?_
    split
    · refine Alone.update _ ?_
      split
      · exact finish_alone .talkStop h
      · exact .skip h
    · exact (Alone.skip h).update _
  · split
    · split
      · have htidy (g : Event) (hg : g.role = .plain) : libqsa.Tidy false false [g] := by
          simp [Library.Tidy, libqsa, hg]
        exact Library.piece_done (htidy _ rfl) h
      · exact .skip h
    · exact .skip h

theorem talkCtrl_alone (h : t.held = false) :
    Alone (talkCtrlWith (libqsa.answer nobody n) t) t (talkCtrlFunc t.state) := by
  unfold talkCtrlWith talkCtrlFunc
  refine Alone.update _ ?_
  split
  · cases hs : t.state.status with
    | calling | called =>
      dsimp only
      split
      · exact giveUp_alone _ h
      · exact .skip h
    | talking | talked =>
      change Alone (if t.state.local1.timeOut > talkTimeOut then _ else _) t
        (if t.state.local1.timeOut > talkTimeOut then _ else _)
      split
      · exact giveUp_alone (t := t.update _) _ h
      · exact Alone.skip (t := t.update _) h
    | null | watched | watching | finding => exact .skip h
  · exact .skip h

theorem tick_alone (h : t.held = false) :
    Alone (timerThreadWith (libqsa.answer nobody n) sendB t) t (timerThreadTask sendB t.state) := by
  rw [timerThreadWith, timerThreadTask]
  split
  · exact (onlineCheck_alone h).bind fun _ => talkCtrl_alone
  · exact .skip h

theorem Placed.alone {l : List (CbOpt × CallStatus)} {f : Device → Outcome} (h : Placed l (f d)) :
    Alone (libqsa.piece (libqsa.answer nobody n) f ⟨d, false, []⟩) ⟨d, false, []⟩ (f d) := by
  obtain ⟨ht, -⟩ | ⟨ht, -⟩ := h
  · exact Library.piece_done (t := ⟨d, false, []⟩) ht rfl
  · exact Library.piece_done (t := ⟨d, false, []⟩) ht rfl

theorem sendSlots_inside : ∀ f ∈ (List.finRange udpSendMax).map sendSlot, ∀ s,
    libqsa.Tidy true false (f s).2 := by
  intro f hf s
  obtain ⟨k, -, rfl⟩ := List.mem_map.mp hf
  exact (sendSlot_inside k).1

/-- Without answers the threads do what the handlers of the other modules say. -/
theorem entry_alone (d : Device) (i : Entry) :
    Alone (i.run (libqsa.answer nobody n) ⟨d, false, []⟩) ⟨d, false, []⟩ (i.alone d) := by
  cases i with
  | recvVideo buff dgram sendB src => exact (placed_video buff sendB dgram src).alone
  | recvData buff dgram => exact (placed_data buff dgram).alone
  | tick sendB => exact tick_alone rfl
  | pass =>
    rw [Entry.alone, multiSendPass, ← through_sendSlots]
    exact Library.pieces_done sendSlots_inside rfl

/-- Whatever wakes the thread, it returns with the lock free just when no callback it raises under
the lock is answered with a call that locks. -/
theorem returns_iff_heeds (app : App) (depth : Nat) (d : Device) (i : Entry) :
    Returns (i.run (libqsa.answer app (depth + 1)) ⟨d, false, []⟩) ↔ app.heeds (d.toldLocked i) := by
  cases i with
  | recvVideo buff dgram sendB src => exact recvVideo_returns app depth d buff sendB dgram src
  | recvData buff dgram => exact (placed_data buff dgram).returns
  | tick sendB => exact ⟨fun _ => trivial, fun _ => tick_returns rfl⟩
  | pass =>
    rw [Entry.run, Library.pieces_returns sendSlots_inside rfl,
      told_sendSlots (List.nodup_finRange _) fun _ _ => rfl]
    rfl

/-! An application that dials again as soon as the peer is busy, in its second call to a peer. -/

def dialBack : App := fun _ => .call (.startCall (dotted sampleHost) (fun _ => 0x30) 2) .done

def busyCalls : List Action :=
  [sampleCall sampleHost, sampleRecv ask callAnswer sampleHost, sampleRecv ask callStart sampleHost,
    sampleRecv ask callEnd sampleHost, sampleCall sampleHost]

def busyDevice : Device := (execute sampleBoot busyCalls (by decide +kernel)).final.dev

def busyReply : Entry :=
  .recvVideo (fun _ => 0) (samplePacket ask lineUse sampleHost) (fun _ => 0) sampleHost

theorem busyReply_told : busyDevice.toldLocked busyReply = [(.callBusy, .null)] := by
  decide +kernel

theorem redial_blocked :
    ¬Returns (busyReply.run (libqsa.answer dialBack 1) ⟨busyDevice, false, []⟩) := by
  intro h
  have htold := busyReply_told
  rw [busyReply] at h htold
  rw [recvVideo_returns, htold] at h
  exact h.1.1 ⟨rfl, rfl⟩

end QsaTalk
