import QsaTalk.Device

/-! The commands an application gives: `start_call`, `stop_talk`, `find_ip`, `send_info` and
`ForceIFrame_Func`. Each looks for the first free slot, fills it, and (but for the last two)
sends it at once, which is the build with `_CROSS_SEND_FLAG` 0. -/
namespace QsaTalk
open ByteBuffer SlotTable Function

def talkCommand (d : Device) (sub : UInt8) (old : Buf) : Buf :=
  let b := blit old 0 udpPackageHead
  let b := put (put (put b 6 videoTalk) 7 ask) 8 sub
  let b := blit b 9 (slice d.localConfig.address 0 20)
  let b := blit b 29 d.locateIp.bytes
  let b := blit b 33 (slice (d.remoteInfo.addr 0) 0 20)
  blit b 53 (d.remoteInfo.ip 0).bytes

def callSlot (d : Device) (m : MultiUdpBuff1) : MultiUdpBuff1 :=
  let host := dotted (d.remoteInfo.ip 0)
  let b := put (talkCommand d call m.buf) 57 h264
  { m with
    sendNum := 5
    mSocket := d.videoSocket
    remotePort := remoteVideoPort
    remoteHost := host
    remoteIP := host
    buf := blit b 58 (d.remoteInfo.ip 0).bytes
    nlength := 62
    delayTime := directCallTime
    sendDelayTime := 0
    isValid := true }

/-- `remote_info` as `start_call` leaves it, whether or not a slot is found. -/
def Device.dial (d : Device) (ip : List UInt8) (addr : Buf) : Device :=
  { d with remoteInfo := { d.remoteInfo with
      ip := update d.remoteInfo.ip 0 (inetAddr ip)
      denIP := inetAddr ip
      addr := update d.remoteInfo.addr 0 (roomAddr d (d.remoteInfo.addr 0) addr) } }

@[simp] theorem dial_local1 (d : Device) (ip : List UInt8) (addr : Buf) :
    (d.dial ip addr).local1 = d.local1 := rfl
@[simp] theorem dial_multiUdpBuff (d : Device) (ip : List UInt8) (addr : Buf) :
    (d.dial ip addr).multiUdpBuff = d.multiUdpBuff := rfl

def startCall (ip : List UInt8) (addr : Buf) (uFlag : Int) (d : Device) : Outcome :=
  if uFlag = 2 ∧ d.status = .null then
    let d := d.dial ip addr
    locked (match d.freeSlot with
      | none => (d, [])
      | some i =>
        let m := callSlot d (d.multiUdpBuff i)
        (d.setSlot i m, [m.transmit]))
  else (d, [])

def callEndSlot (d : Device) (m : MultiUdpBuff1) : MultiUdpBuff1 :=
  let host := dotted (d.remoteInfo.ip 0)
  { m with
    buf := talkCommand d callEnd m.buf
    sendNum := 5
    mSocket := d.videoSocket
    remotePort := remoteVideoPort
    remoteHost := host
    remoteIP := host
    currOrder := videoTalk
    nlength := 57
    delayTime := directCallTime
    sendDelayTime := 0
    isValid := true }

def stopTalk (d : Device) : Outcome :=
  if d.status = .null then (d, [])
  else
    locked (match d.freeSlot with
      | none => (d, [])
      | some i =>
        let m := callEndSlot d (d.multiUdpBuff i)
        (d.setSlot i m, [m.transmit]))

def nsMultiAddr : List UInt8 := dotted ⟨238, 9, 9, 1⟩

def querySlot (d : Device) (addr : Buf) (m : MultiUdpBuff1) : MultiUdpBuff1 :=
  let remoteAddr := blit (put d.localConfig.address 0 'S'.toUInt8) 7 (slice addr 0 4)
  let b := blit m.buf 0 udpPackageHead
  let b := put (put b 6 nsOrder) 7 ask
  let b := blit b 8 (slice d.localConfig.address 0 20)
  let b := blit b 28 d.locateIp.bytes
  let b := blit b 32 (slice remoteAddr 0 20)
  { m with
    sendNum := 5
    mSocket := d.videoSocket
    currOrder := videoTalk
    remoteHost := nsMultiAddr
    remotePort := localVideoPort
    buf := blit b 52 IP4.zero.bytes
    nlength := 56
    delayTime := directCallTime
    sendDelayTime := 0
    isValid := true }

/-- `find_ip` copies twenty characters from `addr`, whatever its length. -/
def Device.seek (d : Device) (addr : Buf) : Device :=
  { d with remoteInfo := { d.remoteInfo with
      ip := update d.remoteInfo.ip 0 IP4.zero
      addr := update d.remoteInfo.addr 0
        (blit (blit (d.remoteInfo.addr 0) 0 (List.replicate 20 0x30)) 0 (slice addr 0 20)) } }

@[simp] theorem seek_local1 (d : Device) (addr : Buf) : (d.seek addr).local1 = d.local1 := rfl
@[simp] theorem seek_multiUdpBuff (d : Device) (addr : Buf) :
    (d.seek addr).multiUdpBuff = d.multiUdpBuff := rfl

def findIp (addr : Option Buf) (uFlag : Int) (d : Device) : Outcome :=
  match addr with
  | none => (d, [])
  | some addr =>
    if d.status = .null ∧ uFlag = 0 then
      locked (match d.freeSlot with
        | none => (d, [])
        | some i =>
          let m := querySlot d addr (d.multiUdpBuff i)
          ((d.setSlot i m).seek addr, [m.transmit]))
    else (d, [])

structure SendInfo where
  ip : List UInt8
  addr : Buf
  title : Buf
  length : Int
  port : Int
  uFlag : Int

/-- `&remote_info.Addr[j]+7` steps over rows of the array, so the room number lands in row 7. -/
def Device.address (d : Device) (info : SendInfo) : Device :=
  let row := put (blit (d.remoteInfo.addr 0) 0 (slice d.localConfig.address 0 20)) 0 'S'.toUInt8
  { d with remoteInfo := { d.remoteInfo with
      ip := update d.remoteInfo.ip 0 (inetAddr info.ip)
      addr := update (update d.remoteInfo.addr 0 row) 7
        (blit (d.remoteInfo.addr 7) 0 (slice info.addr 0 4)) } }

@[simp] theorem address_local1 (d : Device) (info : SendInfo) :
    (d.address info).local1 = d.local1 := rfl
@[simp] theorem address_multiUdpBuff (d : Device) (info : SendInfo) :
    (d.address info).multiUdpBuff = d.multiUdpBuff := rfl

def messageHeader (d : Device) (info : SendInfo) (old : Buf) : Buf :=
  let b := blit old 0 udpPackageHead
  let b := put (put b 6 sendMessage) 7 ask
  let b := blit b 8 (slice d.localConfig.address 0 20)
  let b := blit b 28 (slice (d.remoteInfo.addr 0) 0 20)
  let b := blit b 48 (slice d.localConfig.mac 0 6)
  let b := put b 54 (UInt8.ofInt info.uFlag)
  let b := blit b 55 (slice info.title 0 16)
  let b := blit b 71 (List.replicate 14 0)
  let b := put b 72 1
  let b := put (put b 73 (UInt8.ofInt (info.length / 2 ^ 8))) 74 (UInt8.ofInt info.length)
  let b := put (put b 78 1) 80 1
  let b := put (put b 81 (UInt8.ofInt (info.length / 2 ^ 8))) 82 (UInt8.ofInt info.length)
  put (put b 83 (UInt8.ofNat (1200 / 2 ^ 8))) 84 (UInt8.ofNat 1200)

def sizeofBuf : Nat := 1500

def messageSlot (d : Device) (data : Buf) (info : SendInfo) (m : MultiUdpBuff1) :
    Option MultiUdpBuff1 :=
  let host := dotted (d.remoteInfo.ip 0)
  match memcpy sizeofBuf (messageHeader d info m.buf) 85 data info.length with
  | none => none
  | some b => some { m with
      sendNum := 0
      mSocket := d.dataSocket
      remotePort := info.port
      remoteHost := host
      remoteIP := host
      buf := b
      nlength := 84 + info.length.toNat
      delayTime := directCallTime
      sendDelayTime := 0
      isValid := true }

/-- `none` is a message that does not fit `buf`, where the copy is undefined. -/
def sendInfo (data : Buf) (info : Option SendInfo) (d : Device) : Option Outcome :=
  match info with
  | none => some (d, [])
  | some info =>
    let d := d.address info
    match d.freeSlot with
    | none => some (d, [])
    | some i =>
      match messageSlot d data info (d.multiUdpBuff i) with
      | none => none
      | some m => some (d.setSlot i m, [.semPost])

/-- Byte 6 is written in an active call only, and the address at 29 is the configured text. -/
def forceIFrameSlot (d : Device) (m : MultiUdpBuff1) : MultiUdpBuff1 :=
  let b := blit m.buf 0 udpPackageHead
  let b := if d.status = .calling ∨ d.status = .talking then put b 6 videoTalk else b
  let b := put (put b 7 ask) 8 forceIFrame
  let b := blit b 9 (slice d.localConfig.address 0 20)
  let b := blit b 29 (slice d.localConfig.ip 0 4)
  let b := blit b 33 (slice (d.remoteInfo.addr 0) 0 20)
  { m with
    sendNum := 5
    mSocket := d.videoSocket
    remotePort := remoteVideoPort
    currOrder := 0
    remoteHost := dotted d.remoteInfo.denIP
    buf := blit b 53 (d.remoteInfo.ip 0).bytes
    nlength := 57
    delayTime := 100
    sendDelayTime := 0
    isValid := true }

def forceIFrameFunc (d : Device) : Outcome :=
  match d.freeSlot with
  | none => (d, [])
  | some i =>
    locked (d.setSlot i (forceIFrameSlot d (d.multiUdpBuff i)), [.semPost])

end QsaTalk
