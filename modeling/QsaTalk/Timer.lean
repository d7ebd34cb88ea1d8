import QsaTalk.Command

/-! The timer thread: `OnlineCheckFunc` and `TalkCtrlFunc`, back to back while `OnlineFlag` is 1. -/
namespace QsaTalk
open ByteBuffer

/-- `send_b` of a CALLCONFIRM; 61 bytes are filled, 62 are declared. -/
def confirmBytes (d : Device) (sendB : Buf) : Buf :=
  let b := talkCommand d callConfirm sendB
  let b := put b 57 (UInt8.ofNat (d.local1.onlineNum / 2 ^ 24))
  let b := put b 58 (UInt8.ofNat (d.local1.onlineNum / 2 ^ 16))
  let b := put b 59 (UInt8.ofNat (d.local1.onlineNum / 2 ^ 8))
  put b 60 (UInt8.ofNat d.local1.onlineNum)

def finishCall (v : CbOpt) (d : Device) : Outcome :=
  (setDeviceStatus .null d, [.currOpt v .null])

def clearOnline (d : Device) : Device := { d with local1 := { d.local1 with onlineFlag := 0 } }

def onlineCheckFunc (sendB : Buf) (d : Device) : Outcome :=
  let r : Outcome :=
    if d.local1.timer1Num > timerPerSec * 12 then
      let r : Outcome :=
        if d.local1.callConfirmFlag = 0 then
          let r : Outcome :=
            if d.status = .calling ∨ d.status = .called ∨ d.status = .talking ∨
                d.status = .talked then
              (stopTalk d).andThen (finishCall .talkStop)
            else (d, [])
          (clearOnline r.1, r.2)
        else ({ d with local1 := { d.local1 with callConfirmFlag := 0 } }, [])
      ({ r.1 with local1 := { r.1.local1 with timer1Num := 0 } }, r.2)
    else if d.local1.timer1Num % (timerPerSec * 2) = 0 then
      if d.status = .called ∨ d.status = .talked then
        ({ d with local1 := { d.local1 with onlineNum := d.local1.onlineNum + 1 } },
          [udpSendBuff d.videoSocket (dotted d.remoteInfo.denIP) remoteVideoPort
            (confirmBytes d sendB) 62])
      else (d, [])
    else (d, [])
  ({ r.1 with local1 := { r.1.local1 with timer1Num := r.1.local1.timer1Num + 1 } }, r.2)

/-- `stop_talk`, then NULL with the given reason, then the watchdog off. -/
def giveUp (v : CbOpt) (d : Device) : Outcome :=
  let r := (stopTalk d).andThen (finishCall v)
  (clearOnline r.1, r.2)

def talkCtrlFunc (d : Device) : Outcome :=
  let r : Outcome :=
    if d.local1.timeOut % timerPerSec = 0 then
      match d.status with
      | .calling | .called =>
        if d.local1.timeOut > callTimeOut then giveUp .callTimeout d else (d, [])
      | .talking | .talked =>
        let d := { d with local1 := { d.local1 with talkTimeOut := talkTimeOut } }
        if d.local1.timeOut > d.local1.talkTimeOut then giveUp .talkTimeout d else (d, [])
      | _ => (d, [])
    else (d, [])
  ({ r.1 with local1 := { r.1.local1 with timeOut := r.1.local1.timeOut + 1 } }, r.2)

def timerThreadTask (sendB : Buf) (d : Device) : Outcome :=
  if d.local1.onlineFlag = 1 then (onlineCheckFunc sendB d).andThen talkCtrlFunc else (d, [])

end QsaTalk
