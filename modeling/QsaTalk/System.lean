import QsaTalk.Lib.Runs
import QsaTalk.Media
import QsaTalk.Receive
import QsaTalk.Timer

/-! The running device: its globals, the two receive loops with their reused buffers, and the
step it takes on an API call, a datagram or a timer round. Every step is atomic. -/
namespace QsaTalk
open ByteBuffer SlotTable Function Runs

structure System where
  dev : Device
  videoBuff : Buf
  dataBuff : Buf
  udpRecvFlag : Bool
  videoRcv : Bool
  dataRcv : Bool

/-! `init_param_task`. -/

/-- What the environment decides at start-up: the sockets handed out and the stack contents the
receive buffers start with. -/
structure Boot where
  config : Option DevConfig
  videoSocket : Int
  dataSocket : Int
  arpSocket : Int
  videoBuff : Buf
  dataBuff : Buf

def nullConfig : DevConfig := ⟨fun _ => 0, fun _ => 0, fun _ => 0⟩

def emptySlot : MultiUdpBuff1 where
  isValid := false
  sendNum := 0
  currOrder := 0
  mSocket := 0
  remoteHost := []
  remoteIP := []
  remotePort := 0
  buf := fun _ => 0
  delayTime := 0
  sendDelayTime := 0
  nlength := 0

def initLocal : Local1 := ⟨.null, IP4.zero, 0, 0, 0, 0, 0, talkTimeOut⟩
def initRemote : Remote1 := ⟨0, IP4.zero, IP4.zero, fun _ => IP4.zero, fun _ _ => 0⟩

def arpSlot (d : Device) (m : MultiUdpBuff1) : MultiUdpBuff1 :=
  { m with sendNum := 3, mSocket := d.arpSocket, delayTime := 100, sendDelayTime := 0, isValid := true }

def sendFreeArp (d : Device) : Outcome :=
  match d.freeSlot with
  | none => (d, [])
  | some i => (d.setSlot i (arpSlot d (d.multiUdpBuff i)), [.lock, .unlock, .semPost])

/-- The globals before `SendFreeArp`, which runs while `ARP_Socket` is still 0. -/
def bootDevice (b : Boot) : Device :=
  let config := b.config.getD nullConfig
  { localConfig := config
    locateIp := inetAddr (cstr config.ip 20)
    local1 := initLocal
    remoteInfo := initRemote
    multiUdpBuff := fun _ => emptySlot
    videoSocket := b.videoSocket
    dataSocket := b.dataSocket
    arpSocket := 0 }

def initParamTask (b : Boot) : System where
  dev := { (sendFreeArp (bootDevice b)).1 with arpSocket := b.arpSocket }
  videoBuff := b.videoBuff
  dataBuff := b.dataBuff
  udpRecvFlag := true
  videoRcv := true
  dataRcv := true

/-! Steps. -/

inductive Action where
  | startCall (ip : List UInt8) (addr : Buf) (uFlag : Int)
  | stopTalk
  | findIp (addr : Option Buf) (uFlag : Int)
  | sendInfo (data : Buf) (info : Option SendInfo)
  | sendAudio (c : MediaCall)
  | sendVideo (c : MediaCall) (frameType : Int)
  | recvVideo (src : IP4) (dgram : List UInt8) (sendB : Buf)
  | recvData (src : IP4) (dgram : List UInt8)
  | tick (sendB : Buf)

/-- `recvfrom(.., sizeof(buff) - 1, ..)` cuts longer datagrams. -/
def received (dgram : List UInt8) : List UInt8 := dgram.take 8095

def receive (buff : Buf) (dgram : List UInt8) : Buf :=
  put (blit buff 0 (received dgram)) (received dgram).length 0

theorem receive_lt (buff : Buf) (dgram : List UInt8) {k : Nat}
    (hk : k < (received dgram).length) : receive buff dgram k = (received dgram)[k] := by
  have hb := blit_add buff 0 (received dgram) hk
  rw [Nat.zero_add] at hb
  rw [receive, put_ne _ _ (by omega), hb]

theorem receive_byte {bytes : List UInt8} (buff : Buf) {k : Nat} {v : UInt8}
    (hl : bytes.length ≤ 8095) (h : bytes[k]? = some v) : receive buff bytes k = v := by
  have hr : received bytes = bytes := List.take_of_length_le hl
  obtain ⟨hk, hv⟩ := List.getElem?_eq_some_iff.mp h
  rw [receive_lt buff bytes (by rwa [hr])]
  simpa [hr] using hv

theorem receive_length (buff : Buf) (dgram : List UInt8) :
    receive buff dgram (received dgram).length = 0 :=
  put_self _ _ _

inductive Input where
  | idle
  | startCall (ip : List UInt8) (addr : Buf) (uFlag : Int)
  | stopTalk
  | findIp (addr : Option Buf) (uFlag : Int)
  | sendInfo (data : Buf) (info : Option SendInfo)
  | sendAudio (c : MediaCall)
  | sendVideo (c : MediaCall) (frameType : Int)
  | video (t : VideoTask) (buff sendB : Buf) (src : IP4)
  | openLock (buff : Buf)
  | tick (sendB : Buf)

def Device.step (d : Device) : Input → Option Outcome
  | .idle => some (d, [])
  | .startCall ip addr uFlag => some (startCall ip addr uFlag d)
  | .stopTalk => some (stopTalk d)
  | .findIp addr uFlag => some (findIp addr uFlag d)
  | .sendInfo data info => sendInfo data info d
  | .sendAudio c => qsaSendAudio c d
  | .sendVideo c frameType => qsaSendVideo c frameType d
  | .video t buff sendB src => some (runVideoTask t buff sendB (dotted src) d)
  | .openLock buff => some (recvOpenLockFunc buff d)
  | .tick sendB => some (timerThreadTask sendB d)

/-- What the loops make of an action: a finished loop takes no more datagrams. -/
def System.input (s : System) : Action → Input
  | .startCall ip addr uFlag => .startCall ip addr uFlag
  | .stopTalk => .stopTalk
  | .findIp addr uFlag => .findIp addr uFlag
  | .sendInfo data info => .sendInfo data info
  | .sendAudio c => .sendAudio c
  | .sendVideo c frameType => .sendVideo c frameType
  | .recvVideo src dgram sendB =>
    if s.videoRcv then
      match videoTask (receive s.videoBuff dgram) (received dgram).length with
      | none => .idle
      | some t => .video t (receive s.videoBuff dgram) sendB src
    else .idle
  | .recvData _ dgram =>
    if s.dataRcv ∧ isOpenLock (receive s.dataBuff dgram) then .openLock (receive s.dataBuff dgram)
    else .idle
  | .tick sendB => .tick sendB

/-- The rest of a loop round: the buffer is kept, `exit` clears the flag both loops test. -/
def System.loops (s : System) : Action → System
  | .recvVideo _ dgram _ =>
    if s.videoRcv then
      let buff := receive s.videoBuff dgram
      let flag := s.udpRecvFlag && !isExit buff
      { s with videoBuff := buff, udpRecvFlag := flag, videoRcv := flag }
    else s
  | .recvData _ dgram =>
    if s.dataRcv then
      let buff := receive s.dataBuff dgram
      let flag := s.udpRecvFlag && !isExit buff
      { s with dataBuff := buff, udpRecvFlag := flag, dataRcv := flag }
    else s
  | _ => s

/-- One atomic step; `none` where a copy leaves its buffer and C gives no meaning. -/
def System.step (s : System) (a : Action) : Option (System × List Event) :=
  match s.dev.step (s.input a) with
  | none => none
  | some r => some ({ s.loops a with dev := r.1 }, r.2)

abbrev Step := Transition System Action (List Event)

abbrev RunFrom (b : Boot) (ts : List Step) (s : System) : Prop :=
  Run System.step (initParamTask b) ts s

structure Execution (b : Boot) where
  steps : List Step
  final : System
  run : RunFrom b steps final

def Execution.states {b : Boot} (e : Execution b) : List System :=
  Runs.states (initParamTask b) e.steps

def execute (b : Boot) (acts : List Action)
    (h : (trail System.step (initParamTask b) acts).isSome) : Execution b where
  steps := ((trail System.step (initParamTask b) acts).get h).1
  final := ((trail System.step (initParamTask b) acts).get h).2
  run := run_of_trail (Option.some_get h).symm

theorem execute_acts {b : Boot} {acts : List Action}
    (h : (trail System.step (initParamTask b) acts).isSome) :
    (execute b acts h).steps.map Transition.act = acts :=
  trail_acts (Option.some_get h).symm

def inputOf (t : Step) : Input := t.pre.input t.act

/-- A step of the system is a step of the device on the decoded input. -/
theorem device_step {s s' : System} {a : Action} {evs : List Event}
    (h : s.step a = some (s', evs)) : s.dev.step (s.input a) = some (s'.dev, evs) := by
  unfold System.step at h
  split at h
  · simp at h
  · rename_i r hr
    simp only [Option.some.injEq, Prod.mk.injEq] at h
    obtain ⟨rfl, rfl⟩ := h
    exact hr

/-! Concrete inputs: a device with zeroed configuration, and a VIDEOTALK packet of 77 bytes whose
address field at 53 is given. -/

def sampleBoot : Boot := ⟨none, 3, 4, 5, fun _ => 0, fun _ => 0⟩

def samplePacket (kind sub : UInt8) (ip : IP4) : List UInt8 :=
  udpPackageHead ++ [videoTalk, kind, sub] ++ List.replicate 44 0 ++ ip.bytes ++ List.replicate 20 0

def sampleRecv (kind sub : UInt8) (ip : IP4) : Action :=
  .recvVideo ip (samplePacket kind sub ip) fun _ => 0

def sampleHost : IP4 := ⟨192, 168, 10, 97⟩

def sampleCall (ip : IP4) : Action := .startCall (dotted ip) (fun _ => 0x30) 2

end QsaTalk
