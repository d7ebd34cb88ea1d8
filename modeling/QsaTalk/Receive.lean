import QsaTalk.Device

/-! The handlers behind the two receive sockets and the dispatch that picks one. A handler sees
the receive buffer, the text of the sender's address and the old contents of its own `send_b`. -/
namespace QsaTalk
open ByteBuffer SlotTable Function

/-- The first `n` bytes of the datagram go back to the sender as a REPLY. -/
def echo (d : Device) (recvBuf sendB : Buf) (cFromIP : List UInt8) (n : Nat) : Event :=
  udpSendBuff d.videoSocket cFromIP remoteVideoPort
    (put (blit sendB 0 (slice recvBuf 0 n)) 7 reply) n

/-! Name resolution. -/

def isQuery (recvBuf : Buf) (m : MultiUdpBuff1) : Bool :=
  m.isValid && m.sendNum < maxSendNum && m.buf 6 == nsOrder && m.buf 7 == ask && 0 < recvBuf 32

def isHouse (recvBuf : Buf) : Bool := recvBuf 33 == 'S'.toUInt8 || recvBuf 33 == 's'.toUInt8

/-- The inner loop over `j`, which skips the first letter for a lower-case `s`. -/
def addrMatches (recvBuf : Buf) (addrLen : Nat) (m : MultiUdpBuff1) : Bool :=
  (List.range' 32 addrLen).all fun j =>
    (recvBuf 33 == 's'.toUInt8 && j == 32) || m.buf j == recvBuf (j + 1)

structure NsScan where
  table : Fin udpSendMax → MultiUdpBuff1
  isAddrOK : Bool
  addrLen : Nat

def nsScan (recvBuf : Buf) : List (Fin udpSendMax) → NsScan → NsScan
  | [], st => st
  | i :: is, st =>
    if isQuery recvBuf (st.table i) then
      let addrLen := if isHouse recvBuf then 11 else st.addrLen
      let ok := addrMatches recvBuf addrLen (st.table i)
      let m := { st.table i with isValid := false, sendNum := 0 }
      let st := ⟨update st.table i m, ok, addrLen⟩
      if ok then st else nsScan recvBuf is st
    else nsScan recvBuf is st

def Device.resolved (d : Device) (recvBuf : Buf) : Device :=
  setDeviceStatus .null { d with remoteInfo := { d.remoteInfo with
    denNum := 1
    ip := update d.remoteInfo.ip 0 (ipAt recvBuf 53)
    denIP := ipAt recvBuf 53
    addr := update d.remoteInfo.addr 0 (blit (d.remoteInfo.addr 0) 0 (slice recvBuf 33 20))
    groupIP := { d.locateIp with b0 := 236 } } }

def recvNSReplyFunc (recvBuf : Buf) (d : Device) : Outcome :=
  let st := nsScan recvBuf (List.finRange udpSendMax) ⟨d.multiUdpBuff, false, 12⟩
  let d := { d with multiUdpBuff := st.table }
  if st.isAddrOK then
    let d := d.resolved recvBuf
    (d, [.lock, .unlock,
      .devip (cstr (ofList (slice (d.remoteInfo.addr 0) 7 4)) 5) (dotted d.remoteInfo.denIP) 0])
  else (d, [.lock, .unlock])

/-! The call. -/

def recvTalkCallTask (d : Device) : Outcome := (d, [])

def recvTalkLineUseTask (recvBuf : Buf) (d : Device) : Outcome :=
  locked (if recvBuf 7 = ask then
    match d.pendingCall with
    | none => (d, [])
    | some i =>
      let d := d.release i
      if d.remoteInfo.denNum = 1 then
        (setDeviceStatus .null d, [.currOpt .callBusy .null])
      else (d, [])
  else (d, []))

def Device.answered (d : Device) : Device :=
  { d with local1 := { d.local1 with
      status := .calling
      callConfirmFlag := 1
      timer1Num := 0
      timeOut := 0
      onlineNum := 0
      onlineFlag := 1 } }

def recvTalkCallAnswerTask (recvBuf : Buf) (d : Device) : Outcome :=
  locked (if recvBuf 7 = ask then
    match d.pendingCall with
    | none => (d, [])
    | some i => ((d.release i).answered, [.currOpt .callOk .calling])
  else (d, []))

def Device.started (d : Device) (recvBuf : Buf) : Device :=
  let ip := ipAt recvBuf 53
  { d with
    remoteInfo := { d.remoteInfo with
      addr := update d.remoteInfo.addr 0 (blit (d.remoteInfo.addr 0) 0 (slice recvBuf 33 20))
      ip := update d.remoteInfo.ip 0 ip
      denNum := 1
      denIP := if recvBuf 6 = videoTalk then ip else d.remoteInfo.denIP }
    local1 := { d.local1 with status := .talking, timeOut := 0 } }

def recvTalkCallStartTask (recvBuf sendB : Buf) (cFromIP : List UInt8) (d : Device) : Outcome :=
  if d.status = .calling ∧ recvBuf 7 = ask then
    (d.started recvBuf, [echo d recvBuf sendB cFromIP 57, .currOpt .talkOk .talking])
  else (d, [])

def Device.confirmed (d : Device) : Device :=
  { d with local1 := { d.local1 with callConfirmFlag := 1 } }

def recvTalkCallConfirmTask (recvBuf sendB : Buf) (cFromIP : List UInt8) (d : Device) : Outcome :=
  if (d.status = .calling ∨ d.status = .talking) ∧ recvBuf 7 = ask then
    (d.confirmed, [echo d recvBuf sendB cFromIP 61])
  else if (d.status = .called ∨ d.status = .talked) ∧ recvBuf 7 = reply then
    (d.confirmed, [])
  else (d, [])

def recvTalkOpenLockTask (recvBuf sendB : Buf) (cFromIP : List UInt8) (d : Device) : Outcome :=
  if (d.status = .calling ∨ d.status = .called ∨ d.status = .talked ∨ d.status = .talking) ∧
      recvBuf 7 = ask then
    (d, [echo d recvBuf sendB cFromIP 57, .currOpt .openLock d.status])
  else (d, [])

def dropMultiGroup (d : Device) : Device :=
  if d.local1.ipGroup.b0 ≠ 0 then { d with local1 := { d.local1 with ipGroup := IP4.zero } } else d

/-- The peer's address text is cut where its kind of address ends. -/
def cutAddr (row : Buf) : Buf :=
  if row 0 = 'Z'.toUInt8 ∨ row 0 = 'W'.toUInt8 then put row 5 0
  else if row 0 = 'M'.toUInt8 then put row 8 0
  else if row 0 = 'S'.toUInt8 then put row 12 0
  else row

def Device.cleared (d : Device) : Device :=
  let d := dropMultiGroup d
  { d with
    remoteInfo := { d.remoteInfo with
      addr := update d.remoteInfo.addr 0 (cutAddr (d.remoteInfo.addr 0)) }
    local1 := { d.local1 with status := .null, onlineFlag := 0, callConfirmFlag := 0 } }

def talkEndClearStatus (d : Device) : Outcome := (d.cleared, [.currOpt .talkStop .null])

def Device.unwatched (d : Device) : Device :=
  { d with local1 := { d.local1 with onlineFlag := 0, callConfirmFlag := 0 } }

def recvTalkCallEndTask (recvBuf sendB : Buf) (cFromIP : List UInt8) (d : Device) : Outcome :=
  if d.status = .calling ∨ d.status = .talking then
    let d := d.unwatched
    if recvBuf 7 = ask then
      Outcome.andThen (d, [echo d recvBuf sendB cFromIP 57]) talkEndClearStatus
    else
      locked (if recvBuf 7 = reply then
        match d.pendingCallEnd with
        | none => (d, [])
        | some i => talkEndClearStatus (d.release i)
      else (d, []))
  else (d, [])

/-- Audio is handed on from offset 77, as long as the packet says. -/
def recvTalkCallUpDownTask (recvBuf : Buf) (d : Device) : Outcome :=
  if d.status = .talking then
    if recvBuf 61 = 1 then
      let n := (TalkData1.read recvBuf 9).datalen.toNat
      (d, [.audioData (slice recvBuf (9 + sizeofTalkData1) n) n 0])
    else (d, [])
  else (d, [])

def recvForceIFrameFunc (recvBuf sendB : Buf) (cFromIP : List UInt8) (d : Device) : Outcome :=
  if d.status = .null then (d, [])
  else if recvBuf 7 = ask then
    (d, [echo d recvBuf sendB cFromIP 57, .currOpt .forceIFrame d.status])
  else (d, [])

def recvOpenLockFunc (recvBuf : Buf) (d : Device) : Outcome :=
  locked (if recvBuf 7 = reply then
    match d.pendingOpenLock with
    | none => (d, [])
    | some i => (d.release i, [])
  else (d, []))

/-! Dispatch. -/

def isPackage (buff : Buf) : Prop := ∀ i : Fin 6, buff i = udpPackageHead[i]

instance (buff : Buf) : Decidable (isPackage buff) := inferInstanceAs (Decidable (∀ _, _))

inductive VideoTask where
  | nsReply | call | lineUse | callAnswer | callStart | callConfirm | openLock | callEnd
  | forceIFrame | callUpDown
deriving DecidableEq, Repr

def atLeast (n len : Nat) (t : VideoTask) : Option VideoTask := if n ≤ len then some t else none

/-- The nested switch of `UdpVideoRcvThread`. -/
def videoTask (buff : Buf) (len : Nat) : Option VideoTask :=
  if isPackage buff then
    if buff 6 = nsOrder then
      if buff 7 = 2 then atLeast 57 len .nsReply else none
    else if buff 6 = videoTalk ∨ buff 6 = videoTalkTrans then
      if buff 8 = call then atLeast 62 len .call
      else if buff 8 = lineUse then atLeast 57 len .lineUse
      else if buff 8 = callAnswer then atLeast 61 len .callAnswer
      else if buff 8 = callStart then atLeast 57 len .callStart
      else if buff 8 = callConfirm then atLeast 61 len .callConfirm
      else if buff 8 = remoteOpenLock then atLeast 57 len .openLock
      else if buff 8 = callEnd then atLeast 57 len .callEnd
      else if buff 8 = forceIFrame then atLeast 57 len .forceIFrame
      else if buff 8 = callUp ∨ buff 8 = callDown then some .callUpDown
      else none
    else none
  else none

def runVideoTask (t : VideoTask) (recvBuf sendB : Buf) (cFromIP : List UInt8) (d : Device) :
    Outcome :=
  match t with
  | .nsReply => recvNSReplyFunc recvBuf d
  | .call => recvTalkCallTask d
  | .lineUse => recvTalkLineUseTask recvBuf d
  | .callAnswer => recvTalkCallAnswerTask recvBuf d
  | .callStart => recvTalkCallStartTask recvBuf sendB cFromIP d
  | .callConfirm => recvTalkCallConfirmTask recvBuf sendB cFromIP d
  | .openLock => recvTalkOpenLockTask recvBuf sendB cFromIP d
  | .callEnd => recvTalkCallEndTask recvBuf sendB cFromIP d
  | .forceIFrame => recvForceIFrameFunc recvBuf sendB cFromIP d
  | .callUpDown => recvTalkCallUpDownTask recvBuf d

def udpVideoRcv (buff sendB : Buf) (len : Nat) (cFromIP : List UInt8) (d : Device) : Outcome :=
  match videoTask buff len with
  | none => (d, [])
  | some t => runVideoTask t buff sendB cFromIP d

/-- The switch of `UdpDataRcvThread` has one command, and no length check. -/
def isOpenLock (buff : Buf) : Prop := isPackage buff ∧ buff 6 = lift ∧ buff 8 = openLock

instance (buff : Buf) : Decidable (isOpenLock buff) := inferInstanceAs (Decidable (_ ∧ _))

def udpDataRcv (buff : Buf) (d : Device) : Outcome :=
  if isOpenLock buff then recvOpenLockFunc buff d else (d, [])

def isExit (buff : Buf) : Bool :=
  buff 0 == 'e'.toUInt8 && buff 1 == 'x'.toUInt8 && buff 2 == 'i'.toUInt8 &&
    buff 3 == 't'.toUInt8 && buff 4 == 0

end QsaTalk
