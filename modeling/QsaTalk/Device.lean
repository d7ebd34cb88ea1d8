import Mathlib.Logic.Function.Basic
import QsaTalk.Lib.SlotTable
import QsaTalk.Wire

/-! The globals of one device, the effects a step can have on the outside, and the small
operations on the command table that all commands and handlers share. -/
namespace QsaTalk
open ByteBuffer SlotTable Function

/-- `enum _CB_CALL_STATUS` -/
inductive CallStatus where
  | null | calling | called | watched | watching | talking | talked | finding
deriving DecidableEq, Repr

/-- `enum _CB_OPT` -/
inductive CbOpt where
  | callOk | callBusy | talkOk | talkStop | openLock | forceIFrame | infoOk | callLift | callFail
  | talkTimeout | callTimeout | ackTimeout | iframeReady
deriving DecidableEq, Repr

structure DevConfig where
  mac : Buf
  address : Buf
  ip : Buf

structure Local1 where
  status : CallStatus
  ipGroup : IP4
  callConfirmFlag : Int
  timer1Num : Nat
  onlineFlag : Int
  onlineNum : Nat
  timeOut : Nat
  talkTimeOut : Nat

instance remoteRows : NeZero 10 := ⟨by decide⟩

structure Remote1 where
  denNum : Int
  denIP : IP4
  groupIP : IP4
  ip : Fin 10 → IP4
  addr : Fin 10 → Buf

/-- One command of the table; `remoteHost` and `remoteIP` hold C strings. -/
structure MultiUdpBuff1 where
  isValid : Bool
  sendNum : Int
  currOrder : UInt8
  mSocket : Int
  remoteHost : List UInt8
  remoteIP : List UInt8
  remotePort : Int
  buf : Buf
  delayTime : Int
  sendDelayTime : Int
  nlength : Nat

structure Device where
  localConfig : DevConfig
  locateIp : IP4
  local1 : Local1
  remoteInfo : Remote1
  multiUdpBuff : Fin udpSendMax → MultiUdpBuff1
  videoSocket : Int
  dataSocket : Int
  arpSocket : Int

structure Datagram where
  socket : Int
  dest : IP4
  port : Int
  bytes : List UInt8
deriving DecidableEq, Repr

/-- What a step does to its surroundings, in program order. -/
inductive Event where
  | lock
  | unlock
  | semPost
  | send (d : Datagram)
  | currOpt (value : CbOpt) (status : CallStatus)
  | devip (addr ip : List UInt8) (uFlag : Int)
  | audioData (data : List UInt8) (length : Nat) (type : Int)
deriving DecidableEq, Repr

abbrev Outcome := Device × List Event

def Outcome.andThen (r : Outcome) (f : Device → Outcome) : Outcome :=
  ((f r.1).1, r.2 ++ (f r.1).2)

/-- `pthread_lock .. pthread_unlock` around a block. -/
def locked (r : Outcome) : Outcome := (r.1, .lock :: r.2 ++ [.unlock])

def Event.sent : Event → Option Datagram
  | .send d => some d
  | _ => none

def Event.opt : Event → Option (CbOpt × CallStatus)
  | .currOpt v s => some (v, s)
  | _ => none

def Event.silent : Event → Prop
  | .currOpt _ _ | .audioData _ _ _ | .devip _ _ _ => False
  | _ => True

def sends (evs : List Event) : List Datagram := evs.filterMap Event.sent
def currOpts (evs : List Event) : List (CbOpt × CallStatus) := evs.filterMap Event.opt

@[simp] theorem locked_fst (r : Outcome) : (locked r).1 = r.1 := rfl
@[simp] theorem locked_snd (r : Outcome) : (locked r).2 = .lock :: (r.2 ++ [.unlock]) := rfl
@[simp] theorem andThen_fst (r : Outcome) (f : Device → Outcome) :
    (r.andThen f).1 = (f r.1).1 := rfl
@[simp] theorem andThen_snd (r : Outcome) (f : Device → Outcome) :
    (r.andThen f).2 = r.2 ++ (f r.1).2 := rfl

@[simp] theorem sends_nil : sends [] = [] := rfl
@[simp] theorem sends_append (u v : List Event) : sends (u ++ v) = sends u ++ sends v :=
  List.filterMap_append
@[simp] theorem sends_cons (e : Event) (v : List Event) :
    sends (e :: v) = e.sent.toList ++ sends v := by
  cases e <;> rfl

@[simp] theorem sends_map_send (gs : List Datagram) : sends (gs.map Event.send) = gs := by
  simp [sends, List.filterMap_map, Function.comp_def, Event.sent]

@[simp] theorem currOpts_nil : currOpts [] = [] := rfl
@[simp] theorem currOpts_append (u v : List Event) : currOpts (u ++ v) = currOpts u ++ currOpts v :=
  List.filterMap_append
@[simp] theorem currOpts_cons (e : Event) (v : List Event) :
    currOpts (e :: v) = e.opt.toList ++ currOpts v := by
  cases e <;> rfl

def Device.status (d : Device) : CallStatus := d.local1.status

def Device.withLocal (d : Device) (l : Local1) : Device := { d with local1 := l }

@[simp] theorem withLocal_local1 (d : Device) (l : Local1) : (d.withLocal l).local1 = l := rfl
@[simp] theorem withLocal_status (d : Device) (l : Local1) : (d.withLocal l).status = l.status := rfl
@[simp] theorem withLocal_remoteInfo (d : Device) (l : Local1) :
    (d.withLocal l).remoteInfo = d.remoteInfo := rfl
@[simp] theorem withLocal_multiUdpBuff (d : Device) (l : Local1) :
    (d.withLocal l).multiUdpBuff = d.multiUdpBuff := rfl
@[simp] theorem withLocal_withLocal (d : Device) (l l' : Local1) :
    (d.withLocal l).withLocal l' = d.withLocal l' := rfl

def setDeviceStatus (s : CallStatus) (d : Device) : Device :=
  { d with local1 := { d.local1 with status := s } }

@[simp] theorem setDeviceStatus_status (s : CallStatus) (d : Device) :
    (setDeviceStatus s d).status = s := rfl
@[simp] theorem setDeviceStatus_multiUdpBuff (s : CallStatus) (d : Device) :
    (setDeviceStatus s d).multiUdpBuff = d.multiUdpBuff := rfl
@[simp] theorem setDeviceStatus_remoteInfo (s : CallStatus) (d : Device) :
    (setDeviceStatus s d).remoteInfo = d.remoteInfo := rfl

/-- A call is up: the two states of a caller that is not idle. -/
def Device.active (d : Device) : Prop := d.status = .calling ∨ d.status = .talking

instance (d : Device) : Decidable d.active := inferInstanceAs (Decidable (_ ∨ _))

/-- `UdpSendBuff`: the host text is parsed where the datagram leaves. -/
def udpSendBuff (mSocket : Int) (remoteHost : List UInt8) (remotePort : Int) (buf : Buf)
    (nlength : Nat) : Event :=
  .send ⟨mSocket, inetAddr remoteHost, remotePort, slice buf 0 nlength⟩

def MultiUdpBuff1.transmit (m : MultiUdpBuff1) : Event :=
  udpSendBuff m.mSocket m.remoteHost m.remotePort m.buf m.nlength

/-! The command table. -/

def Device.freeSlot (d : Device) : Option (Fin udpSendMax) :=
  first (fun m => !m.isValid) d.multiUdpBuff

def Device.setSlot (d : Device) (i : Fin udpSendMax) (m : MultiUdpBuff1) : Device :=
  { d with multiUdpBuff := update d.multiUdpBuff i m }

def Device.release (d : Device) (i : Fin udpSendMax) : Device :=
  d.setSlot i { d.multiUdpBuff i with isValid := false }

@[simp] theorem setSlot_local1 (d : Device) (i : Fin udpSendMax) (m : MultiUdpBuff1) :
    (d.setSlot i m).local1 = d.local1 := rfl
@[simp] theorem setSlot_remoteInfo (d : Device) (i : Fin udpSendMax) (m : MultiUdpBuff1) :
    (d.setSlot i m).remoteInfo = d.remoteInfo := rfl
@[simp] theorem setSlot_multiUdpBuff (d : Device) (i : Fin udpSendMax) (m : MultiUdpBuff1) :
    (d.setSlot i m).multiUdpBuff = update d.multiUdpBuff i m := rfl
@[simp] theorem release_local1 (d : Device) (i : Fin udpSendMax) :
    (d.release i).local1 = d.local1 := rfl
@[simp] theorem release_remoteInfo (d : Device) (i : Fin udpSendMax) :
    (d.release i).remoteInfo = d.remoteInfo := rfl
@[simp] theorem release_multiUdpBuff (d : Device) (i : Fin udpSendMax) :
    (d.release i).multiUdpBuff =
      update d.multiUdpBuff i { d.multiUdpBuff i with isValid := false } := rfl

theorem freeSlot_congr {d e : Device} (h : e.multiUdpBuff = d.multiUdpBuff) :
    e.freeSlot = d.freeSlot := by
  rw [Device.freeSlot, h, Device.freeSlot]

def MultiUdpBuff1.fresh (m : MultiUdpBuff1) : Prop :=
  m.isValid = true ∧ m.sendNum < maxSendNum ∧ m.sendDelayTime = 0

/-- The test the reply handlers make on a slot: a live command of this socket, command byte and
sub-command, not yet sent `MAXSENDNUM` times. -/
def MultiUdpBuff1.awaits (sock : Int) (cmd : UInt8 → Bool) (sub : UInt8) (m : MultiUdpBuff1) :
    Bool :=
  m.isValid && m.mSocket == sock && m.sendNum < maxSendNum && cmd (m.buf 6) && m.buf 7 == ask &&
    m.buf 8 == sub

def isTalk (c : UInt8) : Bool := c == videoTalk
def isTalkOrTrans (c : UInt8) : Bool := c == videoTalk || c == videoTalkTrans
def isLift (c : UInt8) : Bool := c == lift

def Device.pendingCall (d : Device) : Option (Fin udpSendMax) :=
  first (MultiUdpBuff1.awaits d.videoSocket isTalk call) d.multiUdpBuff

def Device.pendingCallEnd (d : Device) : Option (Fin udpSendMax) :=
  first (MultiUdpBuff1.awaits d.videoSocket isTalkOrTrans callEnd) d.multiUdpBuff

def Device.pendingOpenLock (d : Device) : Option (Fin udpSendMax) :=
  first (MultiUdpBuff1.awaits d.dataSocket isLift openLock) d.multiUdpBuff

/-- `20` characters of the device's own address with `S` in front and the room number at 7. -/
def roomAddr (d : Device) (old addr : Buf) : Buf :=
  blit (put (blit old 0 (slice d.localConfig.address 0 20)) 0 'S'.toUInt8) 7 (slice addr 0 4)

end QsaTalk
