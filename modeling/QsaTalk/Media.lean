import QsaTalk.Device

/-! Media in the outgoing direction. The automatic buffers and the header record start with
whatever the stack held (`out`, `talk`); the pauses between packets are left out. -/
namespace QsaTalk
open ByteBuffer

/-- One call of `qsa_send_audio` or `qsa_send_video`, with the clock it reads and the previous
contents of its automatic variables. -/
structure MediaCall where
  data : Buf
  length : Int
  frameNum : Int
  ip : List UInt8
  nowTime : UInt32
  out : Buf
  talk : TalkData1

def mediaHead (out : Buf) : Buf :=
  put (put (blit out 0 udpPackageHead) 6 videoTalk) 7 1

def TalkData1.parties (t : TalkData1) (d : Device) : TalkData1 :=
  { t with
    hostAddr := blit t.hostAddr 0 (slice d.localConfig.address 0 20)
    hostIP := d.locateIp
    assiAddr := blit t.assiAddr 0 (slice (d.remoteInfo.addr 0) 0 20)
    assiIP := d.remoteInfo.ip 0 }

/-- The packet of one round of the loop, in the last round the rest of the frame. The copy is
bounded by the length of `mpeg4_out`. -/
def videoPacket (d : Device) (c : MediaCall) (totalPackage j : Int) (out : Buf) (talk : TalkData1) :
    Option (Buf × TalkData1 × Event) :=
  let packLen : Int := talk.packLen.toNat
  let n := if j = totalPackage then c.length - (j - 1) * packLen else packLen
  let talk := { talk with currPackage := UInt16.ofInt j, datalen := UInt16.ofInt n }
  let out := blit out 9 talk.bytes
  match memcpy (c.length + sizeofTalkData1 + 20).toNat out (9 + sizeofTalkData1)
      (fun k => c.data (((j - 1) * packLen).toNat + k)) n with
  | none => none
  | some out =>
    some (out, talk,
      udpSendBuff d.videoSocket c.ip remoteVideoPort out (9 + sizeofTalkData1 + n.toNat))

def videoLoop (d : Device) (c : MediaCall) (totalPackage : Int) :
    List Nat → Buf → TalkData1 → Option (List Event)
  | [], _, _ => some []
  | j :: js, out, talk =>
    match videoPacket d c totalPackage j out talk with
    | none => none
    | some (out, talk, e) => (videoLoop d c totalPackage js out talk).map (e :: ·)

def videoPackLen (s : CallStatus) : UInt16 :=
  if s = .talking then UInt16.ofInt (videoPackDataLen * 2) else UInt16.ofInt videoPackDataLen

def totalPackages (length packLen : Int) : Int :=
  if length.tmod packLen = 0 then length.tdiv packLen else length.tdiv packLen + 1

/-- The frame buffer is an array of run-time size, undefined unless that size is positive. -/
def qsaSendVideo (c : MediaCall) (frameType : Int) (d : Device) : Option Outcome :=
  if c.length + sizeofTalkData1 + 20 ≤ 0 then none
  else if d.status = .null then some (d, [.currOpt .callFail d.status])
  else
    let out := put (mediaHead c.out) 8 callUp
    let packLen := videoPackLen d.status
    let total := totalPackages c.length packLen.toNat
    let talk := { c.talk.parties d with
      timestamp := c.nowTime
      frameno := UInt16.ofInt c.frameNum
      framelen := UInt32.ofInt c.length
      dataType := if frameType = 5 then 2 else 3
      packLen := packLen
      totalPackage := UInt16.ofInt total }
    (videoLoop d c total (List.range' 1 total.toNat) out talk).map fun evs => (d, evs)

def sizeofAdpcmOut : Nat := 1600

def qsaSendAudio (c : MediaCall) (d : Device) : Option Outcome :=
  if d.status = .null then some (d, [.currOpt .callFail d.status])
  else
    let out := if d.status = .talking then put (mediaHead c.out) 8 callUp else mediaHead c.out
    let talk := if d.status = .talking then c.talk.parties d else c.talk
    let datalen := UInt16.ofInt c.length
    let talk := { talk with
      timestamp := c.nowTime
      dataType := 1
      frameno := UInt16.ofInt c.frameNum
      framelen := UInt32.ofInt c.length
      totalPackage := 1
      currPackage := 1
      datalen := datalen
      packLen := if (datalen.toNat : Int) < audioPackDataLen then UInt16.ofInt c.length
        else UInt16.ofInt audioPackDataLen }
    match memcpy sizeofAdpcmOut (blit out 9 talk.bytes) (9 + sizeofTalkData1) c.data c.length with
    | none => none
    | some out =>
      some (d, [udpSendBuff d.videoSocket c.ip remoteVideoPort out
        (9 + sizeofTalkData1 + c.length.toNat)])

end QsaTalk
