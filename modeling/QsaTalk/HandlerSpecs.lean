import QsaTalk.System

/-! One specification for each command, handler and timer function: in which cases it acts, and
the exact state and effects it leaves. Later modules cite these and do not unfold the code. -/
namespace QsaTalk
open ByteBuffer SlotTable Function
variable {d : Device}

/-! Commands. -/

theorem startCall_refused {ip : List UInt8} {addr : Buf} {uFlag : Int}
    (h : ¬(uFlag = 2 ∧ d.status = .null)) : startCall ip addr uFlag d = (d, []) :=
  if_neg h

theorem startCall_full {ip : List UInt8} {addr : Buf} (h : d.status = .null)
    (hf : d.freeSlot = none) : startCall ip addr 2 d = (d.dial ip addr, [.lock, .unlock]) := by
  have hf' : (d.dial ip addr).freeSlot = none := (freeSlot_congr (dial_multiUdpBuff ..)).trans hf
  simp [startCall, h, hf', locked]

theorem startCall_queued {ip : List UInt8} {addr : Buf} {i : Fin udpSendMax} (h : d.status = .null)
    (hf : d.freeSlot = some i) : startCall ip addr 2 d =
      ((d.dial ip addr).setSlot i (callSlot (d.dial ip addr) (d.multiUdpBuff i)),
        [.lock, (callSlot (d.dial ip addr) (d.multiUdpBuff i)).transmit, .unlock]) := by
  have hf' : (d.dial ip addr).freeSlot = some i := (freeSlot_congr (dial_multiUdpBuff ..)).trans hf
  simp only [startCall, h, and_self, if_true, hf']
  rfl

theorem stopTalk_idle (h : d.status = .null) : stopTalk d = (d, []) := if_pos h

theorem stopTalk_full (h : d.status ≠ .null) (hf : d.freeSlot = none) :
    stopTalk d = (d, [.lock, .unlock]) := by
  simp [stopTalk, h, hf, locked]

theorem stopTalk_queued {i : Fin udpSendMax} (h : d.status ≠ .null) (hf : d.freeSlot = some i) :
    stopTalk d = (d.setSlot i (callEndSlot d (d.multiUdpBuff i)),
      [.lock, (callEndSlot d (d.multiUdpBuff i)).transmit, .unlock]) := by
  simp [stopTalk, h, hf, locked]

theorem stopTalk_remoteInfo : (stopTalk d).1.remoteInfo = d.remoteInfo := by
  unfold stopTalk
  split
  · rfl
  · cases d.freeSlot <;> rfl

theorem stopTalk_currOpts : currOpts (stopTalk d).2 = [] := by
  unfold stopTalk
  split
  · rfl
  · cases d.freeSlot <;> rfl

/-- Of the flags and counters `stop_talk` only looks at Status. -/
theorem stopTalk_withLocal (l : Local1) (h : l.status = d.status) :
    stopTalk (d.withLocal l) = ((stopTalk d).1.withLocal l, (stopTalk d).2) := by
  have hs : (d.withLocal l).status = d.status := h
  have hf : (d.withLocal l).freeSlot = d.freeSlot := rfl
  by_cases hn : d.status = .null
  · rw [stopTalk_idle (hs.trans hn), stopTalk_idle hn]
  · cases hfree : d.freeSlot with
    | none => rw [stopTalk_full (hs ▸ hn) (hf.trans hfree), stopTalk_full hn hfree]
    | some i =>
      rw [stopTalk_queued (hs ▸ hn) (hf.trans hfree), stopTalk_queued hn hfree]
      rfl

theorem findIp_refused {addr : Option Buf} {uFlag : Int}
    (h : ¬(addr.isSome ∧ d.status = .null ∧ uFlag = 0)) : findIp addr uFlag d = (d, []) := by
  cases addr with
  | none => rfl
  | some a => exact if_neg fun hc => h ⟨rfl, hc⟩

theorem findIp_full {addr : Buf} (h : d.status = .null) (hf : d.freeSlot = none) :
    findIp (some addr) 0 d = (d, [.lock, .unlock]) := by
  simp [findIp, h, hf, locked]

theorem findIp_queued {addr : Buf} {i : Fin udpSendMax} (h : d.status = .null)
    (hf : d.freeSlot = some i) : findIp (some addr) 0 d =
      ((d.setSlot i (querySlot d addr (d.multiUdpBuff i))).seek addr,
        [.lock, (querySlot d addr (d.multiUdpBuff i)).transmit, .unlock]) := by
  simp [findIp, h, hf, locked]

theorem sendInfo_full {data : Buf} {info : SendInfo} (hf : d.freeSlot = none) :
    sendInfo data (some info) d = some (d.address info, []) := by
  have hf' : (d.address info).freeSlot = none :=
    (freeSlot_congr (address_multiUdpBuff ..)).trans hf
  unfold sendInfo
  dsimp only
  rw [hf']

theorem sendInfo_taken {data : Buf} {info : SendInfo} {i : Fin udpSendMax}
    (hf : d.freeSlot = some i) : sendInfo data (some info) d =
      (messageSlot (d.address info) data info (d.multiUdpBuff i)).map fun m =>
        ((d.address info).setSlot i m, [.semPost]) := by
  have hf' : (d.address info).freeSlot = some i :=
    (freeSlot_congr (address_multiUdpBuff ..)).trans hf
  unfold sendInfo
  dsimp only
  rw [hf']
  dsimp only [address_multiUdpBuff]
  cases messageSlot (d.address info) data info (d.multiUdpBuff i) <;> rfl

theorem sendInfo_queued {data : Buf} {info : SendInfo} {i : Fin udpSendMax} {r : Outcome}
    (hf : d.freeSlot = some i) (h : sendInfo data (some info) d = some r) :
    ∃ m, messageSlot (d.address info) data info (d.multiUdpBuff i) = some m ∧
      r = ((d.address info).setSlot i m, [.semPost]) := by
  rw [sendInfo_taken hf, Option.map_eq_some_iff] at h
  obtain ⟨m, hm, rfl⟩ := h
  exact ⟨m, hm, rfl⟩

theorem forceIFrame_full (hf : d.freeSlot = none) : forceIFrameFunc d = (d, []) := by
  unfold forceIFrameFunc
  rw [hf]

theorem forceIFrame_queued {i : Fin udpSendMax} (hf : d.freeSlot = some i) :
    forceIFrameFunc d = (d.setSlot i (forceIFrameSlot d (d.multiUdpBuff i)),
      [.lock, .semPost, .unlock]) := by
  unfold forceIFrameFunc
  rw [hf]
  rfl

/-- What a command comes to: nothing, the addresses it writes down, or these and the first free slot
filled. -/
inductive CommandEffect (d : Device) : Outcome → Prop
  | refused : CommandEffect d (d, [])
  | full {info evs} (hf : d.freeSlot = none) (he : ∀ e ∈ evs, e.silent) :
      CommandEffect d ({ d with remoteInfo := info }, evs)
  | queued {info i m evs} (hf : d.freeSlot = some i) (hm : m.fresh) (he : ∀ e ∈ evs, e.silent) :
      CommandEffect d ({ d.setSlot i m with remoteInfo := info }, evs)

/-- A command starts with `SendNum` 5. -/
theorem once_more : (5 : Int) < maxSendNum := by
  decide

theorem locked_silent : ∀ e ∈ [Event.lock, .unlock], e.silent := by
  simp [Event.silent]

theorem transmit_silent (m : MultiUdpBuff1) : ∀ e ∈ [.lock, m.transmit, .unlock], e.silent := by
  simp [Event.silent, MultiUdpBuff1.transmit, udpSendBuff]

theorem startCall_effect {ip : List UInt8} {addr : Buf} {uFlag : Int} :
    CommandEffect d (startCall ip addr uFlag d) := by
  by_cases h : uFlag = 2 ∧ d.status = .null
  · obtain ⟨rfl, hs⟩ := h
    cases hf : d.freeSlot with
    | none =>
      rw [startCall_full hs hf]
      exact .full hf locked_silent
    | some i =>
      rw [startCall_queued hs hf]
      exact .queued hf ⟨rfl, once_more, rfl⟩ (transmit_silent _)
  · rw [startCall_refused h]
    exact .refused

theorem stopTalk_effect : CommandEffect d (stopTalk d) := by
  by_cases hs : d.status = .null
  · rw [stopTalk_idle hs]
    exact .refused
  · cases hf : d.freeSlot with
    | none =>
      rw [stopTalk_full hs hf]
      exact .full hf locked_silent
    | some i =>
      rw [stopTalk_queued hs hf]
      exact .queued hf ⟨rfl, once_more, rfl⟩ (transmit_silent _)

theorem findIp_effect {addr : Option Buf} {uFlag : Int} :
    CommandEffect d (findIp addr uFlag d) := by
  by_cases h : addr.isSome ∧ d.status = .null ∧ uFlag = 0
  · obtain ⟨ha, hs, rfl⟩ := h
    obtain ⟨a, rfl⟩ := Option.isSome_iff_exists.mp ha
    cases hf : d.freeSlot with
    | none =>
      rw [findIp_full hs hf]
      exact .full hf locked_silent
    | some i =>
      rw [findIp_queued hs hf]
      exact .queued hf ⟨rfl, once_more, rfl⟩ (transmit_silent _)
  · rw [findIp_refused h]
    exact .refused

theorem messageSlot_fresh {data : Buf} {info : SendInfo} {m m' : MultiUdpBuff1}
    (h : messageSlot d data info m = some m') : m'.fresh := by
  unfold messageSlot at h
  split at h
  · simp at h
  · rw [← Option.some.inj h]
    exact ⟨rfl, (by decide : (0 : Int) < maxSendNum), rfl⟩

theorem sendInfo_effect {data : Buf} {info : Option SendInfo} {r : Outcome}
    (h : sendInfo data info d = some r) : CommandEffect d r := by
  cases info with
  | none =>
    obtain rfl := Option.some.inj h
    exact .refused
  | some info =>
    cases hf : d.freeSlot with
    | none =>
      rw [sendInfo_full hf] at h
      obtain rfl := Option.some.inj h
      exact .full hf (by simp)
    | some i =>
      obtain ⟨m, hm, rfl⟩ := sendInfo_queued hf h
      exact .queued hf (messageSlot_fresh hm) (by simp [Event.silent])

theorem forceIFrame_effect : CommandEffect d (forceIFrameFunc d) := by
  cases hf : d.freeSlot with
  | none =>
    rw [forceIFrame_full hf]
    exact .refused
  | some i =>
    rw [forceIFrame_queued hf]
    exact .queued hf ⟨rfl, once_more, rfl⟩ (by simp [Event.silent])

theorem CommandEffect.local1 {r : Outcome} (h : CommandEffect d r) : r.1.local1 = d.local1 := by
  cases h <;> rfl

theorem CommandEffect.silent {r : Outcome} (h : CommandEffect d r) : ∀ e ∈ r.2, e.silent := by
  cases h with
  | refused => simp
  | full hf he => exact he
  | queued hf hm he => exact he

theorem stopTalk_local1 : (stopTalk d).1.local1 = d.local1 := stopTalk_effect.local1

/-- Media calls leave the device as it is and raise at most the refusal, with the Status. -/
theorem sendVideo_spec {c : MediaCall} {frameType : Int} {r : Outcome}
    (h : qsaSendVideo c frameType d = some r) :
    r.1 = d ∧ ∀ p ∈ currOpts r.2, p = (.callFail, d.status) := by
  have hloop : ∀ total js out talk evs, videoLoop d c total js out talk = some evs →
      currOpts evs = [] := by
    intro total js
    induction js with
    | nil =>
      intro out talk evs hv
      obtain rfl : [] = evs := Option.some.inj hv
      rfl
    | cons j js ih =>
      intro out talk evs hv
      simp only [videoLoop] at hv
      split at hv
      · simp at hv
      · rename_i out' talk' e hp
        obtain ⟨es, hes, rfl⟩ := Option.map_eq_some_iff.mp hv
        simp only [videoPacket] at hp
        split at hp
        · simp at hp
        · simp only [Option.some.injEq, Prod.mk.injEq] at hp
          obtain ⟨-, -, rfl⟩ := hp
          simpa [udpSendBuff, Event.opt] using ih _ _ _ hes
  unfold qsaSendVideo at h
  split at h
  · simp at h
  split at h
  · obtain rfl := (Option.some.inj h).symm
    simp [Event.opt]
  · obtain ⟨evs, hv, rfl⟩ := Option.map_eq_some_iff.mp h
    simp [hloop _ _ _ _ _ hv]

theorem sendAudio_spec {c : MediaCall} {r : Outcome} (h : qsaSendAudio c d = some r) :
    r.1 = d ∧ ∀ p ∈ currOpts r.2, p = (.callFail, d.status) := by
  unfold qsaSendAudio at h
  split at h
  · obtain rfl := (Option.some.inj h).symm
    simp [Event.opt]
  · dsimp only at h
    split at h
    · simp at h
    · obtain rfl := (Option.some.inj h).symm
      simp [udpSendBuff, Event.opt]

/-! Handlers. -/

def nsAddrLen (recvBuf : Buf) : Nat := if isHouse recvBuf then 11 else 12
def clearQuery (m : MultiUdpBuff1) : MultiUdpBuff1 := { m with isValid := false, sendNum := 0 }

/-- The scan is a sweep over the pending queries that stops at the first one for this address. -/
theorem nsScan_eq_sweep (recvBuf : Buf) (is : List (Fin udpSendMax)) (st : NsScan)
    (hok : st.isAddrOK = false) (hlen : isHouse recvBuf = true ∨ st.addrLen = 12) :
    ((nsScan recvBuf is st).table, (nsScan recvBuf is st).isAddrOK) =
      sweep (isQuery recvBuf) (addrMatches recvBuf (nsAddrLen recvBuf)) clearQuery is st.table := by
  induction is generalizing st with
  | nil => simp [nsScan, sweep, hok]
  | cons i is ih =>
    have hl : (if isHouse recvBuf then 11 else st.addrLen) = nsAddrLen recvBuf := by
      obtain h | h := hlen <;> simp [nsAddrLen, h]
    simp only [nsScan, sweep, hl]
    split
    · split
      · rename_i hm
        simp [hm, clearQuery]
      · rename_i hm
        refine ih _ (Bool.eq_false_iff.mpr hm) ?_
        by_cases hh : isHouse recvBuf = true
        · exact Or.inl hh
        · exact Or.inr (by simp [nsAddrLen, hh])
    · exact ih st hok hlen

def Device.asksFor (d : Device) (recvBuf : Buf) : Prop :=
  ∃ i, isQuery recvBuf (d.multiUdpBuff i) = true ∧
    addrMatches recvBuf (nsAddrLen recvBuf) (d.multiUdpBuff i) = true

instance (d : Device) (recvBuf : Buf) : Decidable (d.asksFor recvBuf) :=
  inferInstanceAs (Decidable (∃ _, _))

def Device.scanned (d : Device) (recvBuf : Buf) : Device :=
  { d with multiUdpBuff := (sweep (isQuery recvBuf) (addrMatches recvBuf (nsAddrLen recvBuf))
      clearQuery (List.finRange udpSendMax) d.multiUdpBuff).1 }

theorem scanned_slot (recvBuf : Buf) (i : Fin udpSendMax) :
    (d.scanned recvBuf).multiUdpBuff i = d.multiUdpBuff i ∨
      (isQuery recvBuf (d.multiUdpBuff i) = true ∧
        (d.scanned recvBuf).multiUdpBuff i = clearQuery (d.multiUdpBuff i)) := by
  have h := sweep_finRange (isQuery recvBuf) (addrMatches recvBuf (nsAddrLen recvBuf)) clearQuery
    d.multiUdpBuff i
  by_cases hs : swept (isQuery recvBuf) (addrMatches recvBuf (nsAddrLen recvBuf)) d.multiUdpBuff i
  · rw [if_pos hs] at h
    exact Or.inr ⟨hs.1, h⟩
  · rw [if_neg hs] at h
    exact Or.inl h

theorem nsReply_spec (recvBuf : Buf) :
    (d.asksFor recvBuf → ∃ addr ip, recvNSReplyFunc recvBuf d =
      ((d.scanned recvBuf).resolved recvBuf, [.lock, .unlock, .devip addr ip 0])) ∧
    (¬d.asksFor recvBuf → recvNSReplyFunc recvBuf d =
      (d.scanned recvBuf, [.lock, .unlock])) := by
  have h := nsScan_eq_sweep recvBuf (List.finRange udpSendMax) ⟨d.multiUdpBuff, false, 12⟩ rfl
    (Or.inr rfl)
  have ht := congrArg Prod.fst h
  have hk := congrArg Prod.snd h
  have hhit := sweep_hit (isQuery recvBuf) (addrMatches recvBuf (nsAddrLen recvBuf)) clearQuery
    d.multiUdpBuff
  dsimp only at ht hk
  rw [← hk] at hhit
  constructor
  · intro ha
    rw [recvNSReplyFunc, if_pos (hhit.mpr ha), ht]
    exact ⟨_, _, rfl⟩
  · intro ha
    rw [recvNSReplyFunc, if_neg (fun hc => ha (hhit.mp hc)), ht]
    rfl

theorem lineUse_ignored {recvBuf : Buf} (h : ¬(recvBuf 7 = ask ∧ d.pendingCall.isSome)) :
    recvTalkLineUseTask recvBuf d = (d, [.lock, .unlock]) := by
  unfold recvTalkLineUseTask
  split
  · rename_i h7
    cases hp : d.pendingCall with
    | none => rfl
    | some i => exact absurd ⟨h7, by simp [hp]⟩ h
  · rfl

theorem lineUse_released {recvBuf : Buf} {i : Fin udpSendMax} (h7 : recvBuf 7 = ask)
    (hp : d.pendingCall = some i) : recvTalkLineUseTask recvBuf d =
      if d.remoteInfo.denNum = 1 then
        (setDeviceStatus .null (d.release i), [.lock, .currOpt .callBusy .null, .unlock])
      else (d.release i, [.lock, .unlock]) := by
  have hd : (d.release i).remoteInfo.denNum = d.remoteInfo.denNum := rfl
  simp only [recvTalkLineUseTask, h7, if_true, hp, hd]
  split <;> rfl

theorem callAnswer_ignored {recvBuf : Buf} (h : ¬(recvBuf 7 = ask ∧ d.pendingCall.isSome)) :
    recvTalkCallAnswerTask recvBuf d = (d, [.lock, .unlock]) := by
  unfold recvTalkCallAnswerTask
  split
  · rename_i h7
    cases hp : d.pendingCall with
    | none => rfl
    | some i => exact absurd ⟨h7, by simp [hp]⟩ h
  · rfl

theorem callAnswer_released {recvBuf : Buf} {i : Fin udpSendMax} (h7 : recvBuf 7 = ask)
    (hp : d.pendingCall = some i) : recvTalkCallAnswerTask recvBuf d =
      ((d.release i).answered, [.lock, .currOpt .callOk .calling, .unlock]) := by
  simp [recvTalkCallAnswerTask, h7, hp, locked]

/-- Leaving the multicast group touches one field. -/
theorem dropMultiGroup_eq (d : Device) :
    dropMultiGroup d = d.withLocal { d.local1 with
      ipGroup := if d.local1.ipGroup.b0 ≠ 0 then IP4.zero else d.local1.ipGroup } := by
  unfold dropMultiGroup
  split <;> rfl

@[simp] theorem cleared_multiUdpBuff (d : Device) :
    d.cleared.multiUdpBuff = d.multiUdpBuff := by
  rw [Device.cleared, dropMultiGroup_eq]
  rfl

theorem callEnd_idle {recvBuf sendB : Buf} {host : List UInt8} (h : ¬d.active) :
    recvTalkCallEndTask recvBuf sendB host d = (d, []) :=
  if_neg h

theorem callEnd_ask {recvBuf sendB : Buf} {host : List UInt8} (h : d.active)
    (h7 : recvBuf 7 = ask) : recvTalkCallEndTask recvBuf sendB host d =
      (d.unwatched.cleared, [echo d recvBuf sendB host 57, .currOpt .talkStop .null]) := by
  have hs : d.status = .calling ∨ d.status = .talking := h
  unfold recvTalkCallEndTask
  rw [if_pos hs]
  simp only [h7, if_true]
  rfl

theorem callEnd_reply {recvBuf sendB : Buf} {host : List UInt8} {i : Fin udpSendMax}
    (h : d.active) (h7 : recvBuf 7 = reply) (hp : d.pendingCallEnd = some i) :
    recvTalkCallEndTask recvBuf sendB host d =
      ((d.unwatched.release i).cleared, [.lock, .currOpt .talkStop .null, .unlock]) := by
  have hp' : d.unwatched.pendingCallEnd = some i := hp
  have hne : ¬reply = ask := by decide
  have hs : d.status = .calling ∨ d.status = .talking := h
  unfold recvTalkCallEndTask
  rw [if_pos hs]
  simp only [h7, hne, if_false, if_true, hp']
  rfl

theorem callEnd_stray {recvBuf sendB : Buf} {host : List UInt8} (h : d.active)
    (h7 : recvBuf 7 ≠ ask) (hp : ¬(recvBuf 7 = reply ∧ d.pendingCallEnd.isSome)) :
    recvTalkCallEndTask recvBuf sendB host d = (d.unwatched, [.lock, .unlock]) := by
  have hs : d.status = .calling ∨ d.status = .talking := h
  unfold recvTalkCallEndTask
  rw [if_pos hs]
  simp only [h7, if_false]
  split
  · rename_i hr
    cases hq : d.unwatched.pendingCallEnd with
    | none => rfl
    | some i =>
      have hq' : d.pendingCallEnd = some i := hq
      exact absurd ⟨hr, by simp [hq']⟩ hp
  · rfl

theorem openLock_ignored {recvBuf : Buf} (h : ¬(recvBuf 7 = reply ∧ d.pendingOpenLock.isSome)) :
    recvOpenLockFunc recvBuf d = (d, [.lock, .unlock]) := by
  unfold recvOpenLockFunc
  split
  · rename_i h7
    cases hp : d.pendingOpenLock with
    | none => rfl
    | some i => exact absurd ⟨h7, by simp [hp]⟩ h
  · rfl

theorem openLock_released {recvBuf : Buf} {i : Fin udpSendMax} (h7 : recvBuf 7 = reply)
    (hp : d.pendingOpenLock = some i) :
    recvOpenLockFunc recvBuf d = (d.release i, [.lock, .unlock]) := by
  simp [recvOpenLockFunc, h7, hp, locked]

/-! The handlers that only answer, report or hand data on. -/

def VideoTask.passive : VideoTask → Prop
  | .call | .callConfirm | .openLock | .forceIFrame | .callUpDown => True
  | _ => False

inductive PassiveEffect (d : Device) (buff sendB : Buf) (host : List UInt8) :
    VideoTask → Outcome → Prop
  | call : PassiveEffect d buff sendB host .call (d, [])
  | confirmed (h : (d.status = .calling ∨ d.status = .talking) ∧ buff 7 = ask) :
      PassiveEffect d buff sendB host .callConfirm (d.confirmed, [echo d buff sendB host 61])
  | heard (h : ¬((d.status = .calling ∨ d.status = .talking) ∧ buff 7 = ask))
      (hr : (d.status = .called ∨ d.status = .talked) ∧ buff 7 = reply) :
      PassiveEffect d buff sendB host .callConfirm (d.confirmed, [])
  | unheard (h : ¬((d.status = .calling ∨ d.status = .talking) ∧ buff 7 = ask))
      (hr : ¬((d.status = .called ∨ d.status = .talked) ∧ buff 7 = reply)) :
      PassiveEffect d buff sendB host .callConfirm (d, [])
  | unlocked (h : (d.status = .calling ∨ d.status = .called ∨ d.status = .talked ∨
        d.status = .talking) ∧ buff 7 = ask) : PassiveEffect d buff sendB host .openLock
      (d, [echo d buff sendB host 57, .currOpt .openLock d.status])
  | shut (h : ¬((d.status = .calling ∨ d.status = .called ∨ d.status = .talked ∨
        d.status = .talking) ∧ buff 7 = ask)) : PassiveEffect d buff sendB host .openLock (d, [])
  | forced (h : d.status ≠ .null ∧ buff 7 = ask) : PassiveEffect d buff sendB host .forceIFrame
      (d, [echo d buff sendB host 57, .currOpt .forceIFrame d.status])
  | unforced (h : ¬(d.status ≠ .null ∧ buff 7 = ask)) :
      PassiveEffect d buff sendB host .forceIFrame (d, [])
  | played (h : d.status = .talking ∧ buff 61 = 1) : PassiveEffect d buff sendB host .callUpDown
      (d, [.audioData (slice buff 77 (read16 buff 73).toNat) (read16 buff 73).toNat 0])
  | mute (h : ¬(d.status = .talking ∧ buff 61 = 1)) :
      PassiveEffect d buff sendB host .callUpDown (d, [])

theorem passive_effect {t : VideoTask} (d : Device) (buff sendB : Buf) (host : List UInt8)
    (ht : t.passive) : PassiveEffect d buff sendB host t (runVideoTask t buff sendB host d) := by
  cases t with
  | call => exact .call
  | callConfirm =>
    rw [runVideoTask, recvTalkCallConfirmTask]
    split
    · rename_i h
      exact .confirmed h
    · rename_i h
      split
      · rename_i hr
        exact .heard h hr
      · rename_i hr
        exact .unheard h hr
  | openLock =>
    rw [runVideoTask, recvTalkOpenLockTask]
    split
    · rename_i h
      exact .unlocked h
    · rename_i h
      exact .shut h
  | forceIFrame =>
    rw [runVideoTask, recvForceIFrameFunc]
    split
    · rename_i hn
      exact .unforced fun h => h.1 hn
    · rename_i hn
      split
      · rename_i h7
        exact .forced ⟨hn, h7⟩
      · rename_i h7
        exact .unforced fun h => h7 h.2
  | callUpDown =>
    rw [runVideoTask, recvTalkCallUpDownTask]
    split
    · rename_i hs
      split
      · rename_i hf
        exact .played ⟨hs, hf⟩
      · rename_i hf
        exact .mute fun h => hf h.2
    · rename_i hs
      exact .mute fun h => hs h.1
  | nsReply | lineUse | callAnswer | callStart | callEnd => exact ht.elim

/-- At most the confirmation flag moves, and every callback comes with the Status as it is. -/
theorem passive_spec {t : VideoTask} {buff sendB : Buf} {host : List UInt8} (ht : t.passive) :
    ((runVideoTask t buff sendB host d).1 = d ∨
      (runVideoTask t buff sendB host d).1 = d.confirmed) ∧
    ∀ p ∈ currOpts (runVideoTask t buff sendB host d).2, p.2 = d.status := by
  have he := passive_effect d buff sendB host ht
  generalize runVideoTask t buff sendB host d = r at he
  cases he with
  | confirmed | heard => exact ⟨Or.inr rfl, by simp [Event.opt, echo, udpSendBuff]⟩
  | unlocked | forced => exact ⟨Or.inl rfl, by simp [Event.opt, echo, udpSendBuff]⟩
  | played => exact ⟨Or.inl rfl, by simp [Event.opt]⟩
  | call | unheard | shut | unforced | mute => exact ⟨Or.inl rfl, by simp⟩

/-- Whatever the confirmation flag has no part in stays as it is. -/
theorem passive_keeps {α : Type} (f : Device → α) (hf : ∀ e : Device, f e.confirmed = f e)
    {t : VideoTask} {buff sendB : Buf} {host : List UInt8} (ht : t.passive) :
    f (runVideoTask t buff sendB host d).1 = f d := by
  have hspec : (runVideoTask t buff sendB host d).1 = d ∨ _ := (passive_spec ht).1
  obtain h | h := hspec
  · rw [h]
  · rw [h, hf]

/-! What a datagram on the video socket can do. -/

inductive VideoEffect (d : Device) (buff sendB : Buf) (host : List UInt8) :
    VideoTask → Outcome → Prop
  | passive {t} (ht : t.passive) : VideoEffect d buff sendB host t (runVideoTask t buff sendB host d)
  | resolved {addr ip} (h : d.asksFor buff) : VideoEffect d buff sendB host .nsReply
      ((d.scanned buff).resolved buff, [.lock, .unlock, .devip addr ip 0])
  | unresolved (h : ¬d.asksFor buff) : VideoEffect d buff sendB host .nsReply
      (d.scanned buff, [.lock, .unlock])
  | busy {i} (h7 : buff 7 = ask) (hp : d.pendingCall = some i) (hn : d.remoteInfo.denNum = 1) :
      VideoEffect d buff sendB host .lineUse
        (setDeviceStatus .null (d.release i), [.lock, .currOpt .callBusy .null, .unlock])
  | swallowed {i} (h7 : buff 7 = ask) (hp : d.pendingCall = some i)
      (hn : d.remoteInfo.denNum ≠ 1) : VideoEffect d buff sendB host .lineUse
        (d.release i, [.lock, .unlock])
  | unused (h : ¬(buff 7 = ask ∧ d.pendingCall.isSome)) :
      VideoEffect d buff sendB host .lineUse (d, [.lock, .unlock])
  | answered {i} (h7 : buff 7 = ask) (hp : d.pendingCall = some i) :
      VideoEffect d buff sendB host .callAnswer
        ((d.release i).answered, [.lock, .currOpt .callOk .calling, .unlock])
  | unanswered (h : ¬(buff 7 = ask ∧ d.pendingCall.isSome)) :
      VideoEffect d buff sendB host .callAnswer (d, [.lock, .unlock])
  | started (h : d.status = .calling ∧ buff 7 = ask) : VideoEffect d buff sendB host .callStart
      (d.started buff, [echo d buff sendB host 57, .currOpt .talkOk .talking])
  | unstarted (h : ¬(d.status = .calling ∧ buff 7 = ask)) :
      VideoEffect d buff sendB host .callStart (d, [])
  | ended (ha : d.active) (h7 : buff 7 = ask) : VideoEffect d buff sendB host .callEnd
      (d.unwatched.cleared, [echo d buff sendB host 57, .currOpt .talkStop .null])
  | concluded {i} (ha : d.active) (h7 : buff 7 = reply) (hp : d.pendingCallEnd = some i) :
      VideoEffect d buff sendB host .callEnd
        ((d.unwatched.release i).cleared, [.lock, .currOpt .talkStop .null, .unlock])
  | stray (ha : d.active) (h7 : buff 7 ≠ ask)
      (hp : ¬(buff 7 = reply ∧ d.pendingCallEnd.isSome)) :
      VideoEffect d buff sendB host .callEnd (d.unwatched, [.lock, .unlock])
  | noCall (ha : ¬d.active) : VideoEffect d buff sendB host .callEnd (d, [])

theorem video_effect (d : Device) (t : VideoTask) (buff sendB : Buf) (host : List UInt8) :
    VideoEffect d buff sendB host t (runVideoTask t buff sendB host d) := by
  cases t with
  | call | callConfirm | openLock | forceIFrame | callUpDown => exact .passive trivial
  | nsReply =>
    by_cases h : d.asksFor buff
    · obtain ⟨addr, ip, he⟩ := (nsReply_spec buff).1 h
      rw [runVideoTask, he]
      exact .resolved h
    · rw [runVideoTask, (nsReply_spec buff).2 h]
      exact .unresolved h
  | lineUse =>
    by_cases h : buff 7 = ask ∧ d.pendingCall.isSome
    · obtain ⟨i, hi⟩ := Option.isSome_iff_exists.mp h.2
      rw [runVideoTask, lineUse_released h.1 hi]
      split
      · rename_i hn
        exact .busy h.1 hi hn
      · rename_i hn
        exact .swallowed h.1 hi hn
    · rw [runVideoTask, lineUse_ignored h]
      exact .unused h
  | callAnswer =>
    by_cases h : buff 7 = ask ∧ d.pendingCall.isSome
    · obtain ⟨i, hi⟩ := Option.isSome_iff_exists.mp h.2
      rw [runVideoTask, callAnswer_released h.1 hi]
      exact .answered h.1 hi
    · rw [runVideoTask, callAnswer_ignored h]
      exact .unanswered h
  | callStart =>
    rw [runVideoTask, recvTalkCallStartTask]
    split
    · rename_i h
      exact .started h
    · rename_i h
      exact .unstarted h
  | callEnd =>
    by_cases ha : d.active
    · by_cases h7 : buff 7 = ask
      · rw [runVideoTask, callEnd_ask ha h7]
        exact .ended ha h7
      · by_cases hp : buff 7 = reply ∧ d.pendingCallEnd.isSome
        · obtain ⟨i, hi⟩ := Option.isSome_iff_exists.mp hp.2
          rw [runVideoTask, callEnd_reply ha hp.1 hi]
          exact .concluded ha hp.1 hi
        · rw [runVideoTask, callEnd_stray ha h7 hp]
          exact .stray ha h7 hp
    · rw [runVideoTask, callEnd_idle ha]
      exact .noCall ha

/-! Dispatch. -/

def VideoTask.minLen : VideoTask → Nat
  | .call => 62
  | .callAnswer | .callConfirm => 61
  | .callUpDown => 0
  | _ => 57

structure Dispatched (buff : Buf) (len : Nat) (t : VideoTask) : Prop where
  package : isPackage buff
  length : t.minLen ≤ len
  order : t = .nsReply ∧ buff 6 = nsOrder ∧ buff 7 = 2 ∨
    t ≠ .nsReply ∧ (buff 6 = videoTalk ∨ buff 6 = videoTalkTrans)
  upDown : t = .callUpDown → buff 8 = callUp ∨ buff 8 = callDown
  ending : t = .callEnd → buff 8 = callEnd

theorem atLeast_eq {n len : Nat} {t t' : VideoTask} :
    atLeast n len t = some t' ↔ n ≤ len ∧ t = t' := by
  simp [atLeast]

def talkTasks : List (UInt8 × VideoTask) :=
  [(call, .call), (lineUse, .lineUse), (callAnswer, .callAnswer), (callStart, .callStart),
    (callConfirm, .callConfirm), (remoteOpenLock, .openLock), (callEnd, .callEnd),
    (forceIFrame, .forceIFrame), (callUp, .callUpDown), (callDown, .callUpDown)]

/-- The switch, read backwards. -/
theorem videoTask_switch {buff : Buf} {len : Nat} {t : VideoTask} (h : videoTask buff len = some t) :
    isPackage buff ∧ t.minLen ≤ len ∧ (t = .nsReply ∧ buff 6 = nsOrder ∧ buff 7 = 2 ∨
      (buff 6 = videoTalk ∨ buff 6 = videoTalkTrans) ∧ (buff 8, t) ∈ talkTasks) := by
  rw [videoTask] at h
  obtain ⟨hp, h⟩ | ⟨-, h⟩ := ite_eq_iff.mp h
  swap
  · simp at h
  refine ⟨hp, ?_⟩
  obtain ⟨hn, h⟩ | ⟨-, h⟩ := ite_eq_iff.mp h
  · obtain ⟨h7, h⟩ | ⟨-, h⟩ := ite_eq_iff.mp h
    · obtain ⟨hl, rfl⟩ := atLeast_eq.mp h
      exact ⟨hl, Or.inl ⟨rfl, hn, h7⟩⟩
    · simp at h
  obtain ⟨h6, h⟩ | ⟨-, h⟩ := ite_eq_iff.mp h
  swap
  · simp at h
  have htalk {n : Nat} {t' : VideoTask} {sub : UInt8} (h' : atLeast n len t' = some t)
      (h8 : buff 8 = sub) (hn : t'.minLen = n) (hm : (sub, t') ∈ talkTasks) : t.minLen ≤ len ∧
        (t = .nsReply ∧ buff 6 = nsOrder ∧ buff 7 = 2 ∨
          (buff 6 = videoTalk ∨ buff 6 = videoTalkTrans) ∧ (buff 8, t) ∈ talkTasks) := by
    obtain ⟨hl, rfl⟩ := atLeast_eq.mp h'
    exact ⟨hn ▸ hl, Or.inr ⟨h6, h8 ▸ hm⟩⟩
  obtain ⟨h8, h⟩ | ⟨-, h⟩ := ite_eq_iff.mp h
  · exact htalk h h8 rfl (by decide)
  obtain ⟨h8, h⟩ | ⟨-, h⟩ := ite_eq_iff.mp h
  · exact htalk h h8 rfl (by decide)
  obtain ⟨h8, h⟩ | ⟨-, h⟩ := ite_eq_iff.mp h
  · exact htalk h h8 rfl (by decide)
  obtain ⟨h8, h⟩ | ⟨-, h⟩ := ite_eq_iff.mp h
  · exact htalk h h8 rfl (by decide)
  obtain ⟨h8, h⟩ | ⟨-, h⟩ := ite_eq_iff.mp h
  · exact htalk h h8 rfl (by decide)
  obtain ⟨h8, h⟩ | ⟨-, h⟩ := ite_eq_iff.mp h
  · exact htalk h h8 rfl (by decide)
  obtain ⟨h8, h⟩ | ⟨-, h⟩ := ite_eq_iff.mp h
  · exact htalk h h8 rfl (by decide)
  obtain ⟨h8, h⟩ | ⟨-, h⟩ := ite_eq_iff.mp h
  · exact htalk h h8 rfl (by decide)
  obtain ⟨h8, h⟩ | ⟨-, h⟩ := ite_eq_iff.mp h
  · obtain rfl := Option.some.inj h
    obtain h8 | h8 := h8
    · exact ⟨Nat.zero_le _, Or.inr ⟨h6, by rw [h8]; decide⟩⟩
    · exact ⟨Nat.zero_le _, Or.inr ⟨h6, by rw [h8]; decide⟩⟩
  · simp at h

theorem videoTask_spec {buff : Buf} {len : Nat} {t : VideoTask}
    (h : videoTask buff len = some t) : Dispatched buff len t := by
  have hne : ∀ p ∈ talkTasks, p.2 ≠ .nsReply := by decide
  have hupDown : ∀ p ∈ talkTasks, p.2 = .callUpDown → p.1 = callUp ∨ p.1 = callDown := by decide
  have hend : ∀ p ∈ talkTasks, p.2 = .callEnd → p.1 = callEnd := by decide
  obtain ⟨hp, hl, ⟨rfl, h6, h7⟩ | ⟨h6, hm⟩⟩ := videoTask_switch h
  · exact ⟨hp, hl, Or.inl ⟨rfl, h6, h7⟩, by simp, by simp⟩
  · exact ⟨hp, hl, Or.inr ⟨hne _ hm, h6⟩, hupDown _ hm, hend _ hm⟩

/-- A round of a receive loop that is still running is its dispatch function. -/
theorem step_recvVideo {s : System} {src : IP4} {dgram : List UInt8} {sendB : Buf}
    (h : s.videoRcv = true) : s.step (.recvVideo src dgram sendB) =
      some ({ s with
        dev := (udpVideoRcv (receive s.videoBuff dgram) sendB (received dgram).length (dotted src)
          s.dev).1
        videoBuff := receive s.videoBuff dgram
        udpRecvFlag := s.udpRecvFlag && !isExit (receive s.videoBuff dgram)
        videoRcv := s.udpRecvFlag && !isExit (receive s.videoBuff dgram) },
        (udpVideoRcv (receive s.videoBuff dgram) sendB (received dgram).length (dotted src)
          s.dev).2) := by
  unfold System.step udpVideoRcv
  simp only [System.input, System.loops, h, if_true]
  cases videoTask (receive s.videoBuff dgram) (received dgram).length <;> rfl

theorem step_recvData {s : System} {src : IP4} {dgram : List UInt8} (h : s.dataRcv = true) :
    s.step (.recvData src dgram) =
      some ({ s with
        dev := (udpDataRcv (receive s.dataBuff dgram) s.dev).1
        dataBuff := receive s.dataBuff dgram
        udpRecvFlag := s.udpRecvFlag && !isExit (receive s.dataBuff dgram)
        dataRcv := s.udpRecvFlag && !isExit (receive s.dataBuff dgram) },
        (udpDataRcv (receive s.dataBuff dgram) s.dev).2) := by
  unfold System.step udpDataRcv
  simp only [System.input, System.loops, h, if_true, true_and]
  by_cases ho : isOpenLock (receive s.dataBuff dgram)
  · rw [if_pos ho, if_pos ho]
    rfl
  · rw [if_neg ho, if_neg ho]
    rfl

/-! Timer rounds of a device that only ever calls out. -/

def Device.caller (d : Device) : Prop :=
  d.status = .null ∨ d.status = .calling ∨ d.status = .talking

theorem active_caller (h : d.active) : d.caller := Or.inr h

theorem active_ne_null (h : d.active) : d.status ≠ .null := by
  obtain h | h := h <;> simp [h]

theorem caller_not_active (hc : d.caller) (h : ¬d.active) : d.status = .null :=
  hc.resolve_right h

def Device.lost (d : Device) : Prop :=
  d.local1.timer1Num > timerPerSec * 12 ∧ d.local1.callConfirmFlag = 0

/-- The time limit of the call or the talk has passed, on a tick where it is looked at. -/
def Device.overdue (d : Device) : Prop :=
  d.local1.timeOut % timerPerSec = 0 ∧
    ((d.status = .calling ∧ d.local1.timeOut > callTimeOut) ∨
      (d.status = .talking ∧ d.local1.timeOut > talkTimeOut))

instance (d : Device) : Decidable d.lost := inferInstanceAs (Decidable (_ ∧ _))
instance (d : Device) : Decidable d.overdue := inferInstanceAs (Decidable (_ ∧ _))

theorem onlineCheck_lost {sendB : Buf} (hl : d.lost) (ha : d.active) :
    onlineCheckFunc sendB d = ((stopTalk d).1.withLocal
        { d.local1 with status := .null, onlineFlag := 0, timer1Num := 1 },
      (stopTalk d).2 ++ [.currOpt .talkStop .null]) := by
  have hin : d.status = .calling ∨ d.status = .called ∨ d.status = .talking ∨
      d.status = .talked := by
    obtain h | h := ha <;> simp [h]
  simp only [onlineCheckFunc, hl.1, hl.2, hin, if_true, Outcome.andThen, finishCall,
    setDeviceStatus, clearOnline, stopTalk_local1, Device.withLocal]

theorem onlineCheck_lapse {sendB : Buf} (hl : d.lost) (hn : d.status = .null) :
    onlineCheckFunc sendB d =
      (d.withLocal { d.local1 with onlineFlag := 0, timer1Num := 1 }, []) := by
  simp [onlineCheckFunc, hl.1, hl.2, hn, clearOnline, Device.withLocal]

theorem onlineCheck_quiet (sendB : Buf) (hl : ¬d.lost) (hc : d.caller) :
    ∃ n f, onlineCheckFunc sendB d =
      (d.withLocal { d.local1 with timer1Num := n, callConfirmFlag := f }, []) := by
  have hout : ¬(d.status = .called ∨ d.status = .talked) := by
    obtain h | h | h := hc <;> simp [h]
  by_cases hw : d.local1.timer1Num > timerPerSec * 12
  · have hf : d.local1.callConfirmFlag ≠ 0 := fun h => hl ⟨hw, h⟩
    exact ⟨_, _, by simp only [onlineCheckFunc, hw, hf, if_true, if_false]; rfl⟩
  · refine ⟨d.local1.timer1Num + 1, d.local1.callConfirmFlag, ?_⟩
    simp only [onlineCheckFunc, hw, hout, if_false, ite_self, Device.withLocal]

def timeoutReason (s : CallStatus) : CbOpt := if s = .calling then .callTimeout else .talkTimeout

theorem talkCtrl_overdue (ho : d.overdue) :
    ∃ l, l.status = .null ∧ l.onlineFlag = 0 ∧ talkCtrlFunc d =
      ((stopTalk d).1.withLocal l, (stopTalk d).2 ++ [.currOpt (timeoutReason d.status) .null]) := by
  obtain ⟨hmod, ⟨hs, ht⟩ | ⟨hs, ht⟩⟩ := ho
  · refine ⟨{ d.local1 with
      status := .null
      onlineFlag := 0
      timeOut := d.local1.timeOut + 1 }, rfl, rfl, ?_⟩
    simp only [talkCtrlFunc, hmod, hs, ht, if_true, giveUp, Outcome.andThen, finishCall,
      setDeviceStatus, clearOnline, stopTalk_local1, Device.withLocal, timeoutReason]
  · refine ⟨{ d.local1 with
      status := .null
      onlineFlag := 0
      timeOut := d.local1.timeOut + 1
      talkTimeOut := talkTimeOut }, rfl, rfl, ?_⟩
    have hw := stopTalk_withLocal (d := d) { d.local1 with talkTimeOut := talkTimeOut } rfl
    have hne : ¬CallStatus.talking = .calling := by decide
    simp only [Device.withLocal] at hw
    simp only [talkCtrlFunc, hmod, hs, ht, if_true, giveUp, hw, Outcome.andThen, finishCall,
      setDeviceStatus, clearOnline, Device.withLocal, timeoutReason, if_neg hne]

theorem talkCtrl_quiet (ho : ¬d.overdue) (hc : d.caller) :
    ∃ k n, talkCtrlFunc d =
      (d.withLocal { d.local1 with timeOut := k, talkTimeOut := n }, []) := by
  by_cases hmod : d.local1.timeOut % timerPerSec = 0
  · obtain hs | hs | hs := hc
    · exact ⟨_, _, by simp only [talkCtrlFunc, hmod, hs, if_true]; rfl⟩
    · have ht : ¬d.local1.timeOut > callTimeOut := fun h => ho ⟨hmod, Or.inl ⟨hs, h⟩⟩
      exact ⟨_, _, by simp only [talkCtrlFunc, hmod, hs, ht, if_true, if_false]; rfl⟩
    · have ht : ¬d.local1.timeOut > talkTimeOut := fun h => ho ⟨hmod, Or.inr ⟨hs, h⟩⟩
      exact ⟨_, _, by simp only [talkCtrlFunc, hmod, hs, ht, if_true, if_false]; rfl⟩
  · exact ⟨_, _, by simp only [talkCtrlFunc, hmod, if_false]; rfl⟩

theorem tick_off {sendB : Buf} (h : d.local1.onlineFlag ≠ 1) :
    timerThreadTask sendB d = (d, []) :=
  if_neg h

/-- Why a round ends a call; the confirm window is looked at first. -/
def Device.endReason (d : Device) : CbOpt :=
  if d.lost then .talkStop else timeoutReason d.status

theorem tick_ends (sendB : Buf) (hon : d.local1.onlineFlag = 1) (ha : d.active)
    (h : d.lost ∨ d.overdue) :
    ∃ l, l.status = .null ∧ l.onlineFlag = 0 ∧ timerThreadTask sendB d =
      ((stopTalk d).1.withLocal l, (stopTalk d).2 ++ [.currOpt d.endReason .null]) := by
  rw [timerThreadTask, if_pos hon, Device.endReason]
  by_cases hl : d.lost
  · -- the second function finds the call already over
    obtain ⟨k, n, hq⟩ := talkCtrl_quiet (d := (stopTalk d).1.withLocal
      { d.local1 with status := .null, onlineFlag := 0, timer1Num := 1 })
      (by simp [Device.overdue]) (Or.inl rfl)
    rw [if_pos hl, onlineCheck_lost hl ha, Outcome.andThen, hq]
    exact ⟨{ d.local1 with
      status := .null
      onlineFlag := 0
      timer1Num := 1
      timeOut := k
      talkTimeOut := n }, rfl, rfl, by simp⟩
  · obtain ⟨n, f, hq⟩ := onlineCheck_quiet sendB hl (active_caller ha)
    obtain ⟨l, hs, ho, hv⟩ := talkCtrl_overdue (d := d.withLocal
      { d.local1 with timer1Num := n, callConfirmFlag := f }) (h.resolve_left hl)
    rw [stopTalk_withLocal { d.local1 with timer1Num := n, callConfirmFlag := f } rfl] at hv
    rw [if_neg hl, hq, Outcome.andThen, hv]
    exact ⟨l, hs, ho, rfl⟩

theorem tick_expire (sendB : Buf) (hon : d.local1.onlineFlag = 1) (ha : d.active)
    (h : d.lost ∨ d.overdue) :
    ∃ v l, l.status = .null ∧ l.onlineFlag = 0 ∧ timerThreadTask sendB d =
      ((stopTalk d).1.withLocal l, (stopTalk d).2 ++ [.currOpt v .null]) :=
  ⟨d.endReason, tick_ends sendB hon ha h⟩

theorem tick_lapse (sendB : Buf) (hon : d.local1.onlineFlag = 1) (hn : d.status = .null)
    (hl : d.lost) :
    ∃ l, l.status = .null ∧ l.onlineFlag = 0 ∧
      timerThreadTask sendB d = (d.withLocal l, []) := by
  have hn' : d.local1.status = .null := hn
  obtain ⟨k, n, hq⟩ := talkCtrl_quiet (d := d.withLocal
    { d.local1 with onlineFlag := 0, timer1Num := 1 }) (by simp [Device.overdue, hn']) (Or.inl hn)
  rw [timerThreadTask, if_pos hon, onlineCheck_lapse hl hn, Outcome.andThen, hq]
  exact ⟨{ d.local1 with onlineFlag := 0, timer1Num := 1, timeOut := k, talkTimeOut := n },
    hn, rfl, rfl⟩

theorem tick_quiet (sendB : Buf) (hon : d.local1.onlineFlag = 1) (hc : d.caller)
    (hl : ¬d.lost) (ho : ¬d.overdue) :
    ∃ l, l.status = d.status ∧ l.onlineFlag = 1 ∧
      timerThreadTask sendB d = (d.withLocal l, []) := by
  obtain ⟨n, f, hq⟩ := onlineCheck_quiet sendB hl hc
  obtain ⟨k, m, hq'⟩ := talkCtrl_quiet (d := d.withLocal
    { d.local1 with timer1Num := n, callConfirmFlag := f }) ho hc
  rw [timerThreadTask, if_pos hon, hq, Outcome.andThen, hq']
  exact ⟨{ d.local1 with timer1Num := n, callConfirmFlag := f, timeOut := k, talkTimeOut := m },
    rfl, hon, rfl⟩

/-! The counters, whatever else a round does. -/

theorem onlineCheck_counts (sendB : Buf) (d : Device) :
    (onlineCheckFunc sendB d).1.local1.timer1Num =
        (if d.local1.timer1Num > timerPerSec * 12 then 1 else d.local1.timer1Num + 1) ∧
      (onlineCheckFunc sendB d).1.local1.callConfirmFlag =
        (if d.local1.timer1Num > timerPerSec * 12 then 0 else d.local1.callConfirmFlag) ∧
      (onlineCheckFunc sendB d).1.local1.timeOut = d.local1.timeOut := by
  by_cases hw : d.local1.timer1Num > timerPerSec * 12
  · by_cases hf : d.local1.callConfirmFlag = 0
    · simp only [onlineCheckFunc, hw, hf, if_true]
      split <;> simp [Outcome.andThen, finishCall, setDeviceStatus, clearOnline, stopTalk_local1, hf]
    · simp [onlineCheckFunc, hw, hf]
  · simp only [onlineCheckFunc, hw, if_false]
    split
    · split <;> simp
    · simp

theorem talkCtrl_counts (d : Device) :
    (talkCtrlFunc d).1.local1.timer1Num = d.local1.timer1Num ∧
      (talkCtrlFunc d).1.local1.callConfirmFlag = d.local1.callConfirmFlag ∧
      (talkCtrlFunc d).1.local1.timeOut = d.local1.timeOut + 1 := by
  have hgive (v : CbOpt) (d : Device) : (giveUp v d).1.local1 =
      { d.local1 with status := .null, onlineFlag := 0 } := by
    simp [giveUp, Outcome.andThen, finishCall, setDeviceStatus, clearOnline, stopTalk_local1]
  unfold talkCtrlFunc
  dsimp only
  split
  · split <;> (try split) <;> simp [hgive]
  · simp

theorem tick_counts (sendB : Buf) (hon : d.local1.onlineFlag = 1) :
    (timerThreadTask sendB d).1.local1.timer1Num =
        (if d.local1.timer1Num > timerPerSec * 12 then 1 else d.local1.timer1Num + 1) ∧
      (timerThreadTask sendB d).1.local1.callConfirmFlag =
        (if d.local1.timer1Num > timerPerSec * 12 then 0 else d.local1.callConfirmFlag) ∧
      (timerThreadTask sendB d).1.local1.timeOut = d.local1.timeOut + 1 := by
  obtain ⟨h1, h2, h3⟩ := onlineCheck_counts sendB d
  obtain ⟨k1, k2, k3⟩ := talkCtrl_counts (onlineCheckFunc sendB d).1
  rw [timerThreadTask, if_pos hon, andThen_fst, k1, k2, k3, h1, h2, h3]
  exact ⟨rfl, rfl, rfl⟩

def Device.expires (d : Device) : Prop :=
  d.local1.onlineFlag = 1 ∧ d.active ∧ (d.lost ∨ d.overdue)

instance (d : Device) : Decidable d.expires := inferInstanceAs (Decidable (_ ∧ _))

/-- Every other round only moves flags and counters. -/
theorem tick_keep (sendB : Buf) (hc : d.caller) (hx : ¬d.expires) :
    ∃ l, l.status = d.status ∧ timerThreadTask sendB d = (d.withLocal l, []) := by
  by_cases hon : d.local1.onlineFlag = 1
  · by_cases hl : d.lost
    · have hn := caller_not_active hc fun ha => hx ⟨hon, ha, Or.inl hl⟩
      obtain ⟨l, hs, -, he⟩ := tick_lapse sendB hon hn hl
      exact ⟨l, hs.trans hn.symm, he⟩
    · have ho : ¬d.overdue := fun ho => hx ⟨hon, ho.2.imp And.left And.left, Or.inr ho⟩
      obtain ⟨l, hs, -, he⟩ := tick_quiet sendB hon hc hl ho
      exact ⟨l, hs, he⟩
  · exact ⟨d.local1, rfl, tick_off hon⟩

/-! What no step touches: the configuration and the sockets. -/

def Device.fixed (d : Device) : DevConfig × IP4 × Int × Int × Int :=
  (d.localConfig, d.locateIp, d.videoSocket, d.dataSocket, d.arpSocket)

theorem CommandEffect.fixed {r : Outcome} (h : CommandEffect d r) : r.1.fixed = d.fixed := by
  cases h <;> rfl

theorem stopTalk_fixed : (stopTalk d).1.fixed = d.fixed := stopTalk_effect.fixed

theorem cleared_fixed (d : Device) : d.cleared.fixed = d.fixed := by
  rw [Device.cleared, dropMultiGroup_eq]
  rfl

theorem tick_fixed {sendB : Buf} (hc : d.caller) : (timerThreadTask sendB d).1.fixed = d.fixed := by
  by_cases hx : d.expires
  · obtain ⟨v, l, -, -, he⟩ := tick_expire sendB hx.1 hx.2.1 hx.2.2
    rw [he]
    exact stopTalk_fixed
  · obtain ⟨l, -, he⟩ := tick_keep sendB hc hx
    rw [he]
    rfl

theorem video_fixed {t : VideoTask} {buff sendB : Buf} {host : List UInt8} :
    (runVideoTask t buff sendB host d).1.fixed = d.fixed := by
  have he := video_effect d t buff sendB host
  generalize runVideoTask t buff sendB host d = r at he
  cases he with
  | passive ht => exact passive_keeps Device.fixed (fun _ => rfl) ht
  | ended | concluded => exact cleared_fixed _
  | resolved | unresolved | busy | swallowed | unused | answered | unanswered | started
  | unstarted | stray | noCall => rfl

theorem step_fixed {i : Input} {r : Outcome} (hc : d.caller) (h : d.step i = some r) :
    r.1.fixed = d.fixed := by
  cases i with
  | sendAudio c => rw [(sendAudio_spec h).1]
  | sendVideo c frameType => rw [(sendVideo_spec h).1]
  | sendInfo data info => exact (sendInfo_effect h).fixed
  | idle =>
    obtain rfl := Option.some.inj h
    rfl
  | startCall ip addr uFlag =>
    obtain rfl := Option.some.inj h
    exact startCall_effect.fixed
  | stopTalk =>
    obtain rfl := Option.some.inj h
    exact stopTalk_fixed
  | findIp addr uFlag =>
    obtain rfl := Option.some.inj h
    exact findIp_effect.fixed
  | openLock buff =>
    obtain rfl := Option.some.inj h
    by_cases hp : buff 7 = reply ∧ d.pendingOpenLock.isSome
    · obtain ⟨k, hk⟩ := Option.isSome_iff_exists.mp hp.2
      rw [openLock_released hp.1 hk]
      rfl
    · rw [openLock_ignored hp]
  | tick sendB =>
    obtain rfl := Option.some.inj h
    exact tick_fixed hc
  | video t buff sendB src =>
    obtain rfl := Option.some.inj h
    exact video_fixed

end QsaTalk
