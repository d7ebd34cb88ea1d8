import QsaTalk.Messages
import QsaTalk.StaleBytes

/-! Everything that leaves the device: which bytes each sending operation hands to the socket or
puts into a slot, as one table over all operations. What memory held before shows up in three of
its rows. -/
namespace QsaTalk
open ByteBuffer SlotTable Function
variable {d : Device}

/-- The old contents of what an operation writes over: the `buf` of the slots, a local output
buffer, a local `talkdata1`, and the receive buffer behind a datagram. -/
structure Residue where
  bufs : Fin udpSendMax → Buf
  out : Buf
  talk : TalkData1
  recv : Buf

/-- Slots that are in use keep their command. -/
def Device.over (d : Device) (m : Residue) : Device :=
  { d with multiUdpBuff := fun i =>
      if (d.multiUdpBuff i).isValid then d.multiUdpBuff i
      else { d.multiUdpBuff i with buf := m.bufs i } }

inductive Emitter where
  | startCall (ip : List UInt8) (addr : Buf) (uFlag : Int)
  | stopTalk
  | findIp (addr : Option Buf) (uFlag : Int)
  | sendInfo (data : Buf) (info : Option SendInfo)
  | forceIFrame
  | onlineCheck
  | sendAudio (c : MediaCall)
  | sendVideo (c : MediaCall) (frameType : Int)
  | reply (src : IP4) (dgram : List UInt8)

def MediaCall.over (c : MediaCall) (m : Residue) : MediaCall := { c with out := m.out, talk := m.talk }

def Emitter.run (o : Emitter) (m : Residue) (d : Device) : Option Outcome :=
  match o with
  | .startCall ip addr uFlag => some (QsaTalk.startCall ip addr uFlag (d.over m))
  | .stopTalk => some (QsaTalk.stopTalk (d.over m))
  | .findIp addr uFlag => some (QsaTalk.findIp addr uFlag (d.over m))
  | .sendInfo data info => QsaTalk.sendInfo data info (d.over m)
  | .forceIFrame => some (forceIFrameFunc (d.over m))
  | .onlineCheck => some (onlineCheckFunc m.out (d.over m))
  | .sendAudio c => qsaSendAudio (c.over m) (d.over m)
  | .sendVideo c frameType => qsaSendVideo (c.over m) frameType (d.over m)
  | .reply src dgram =>
    some (udpVideoRcv (receive m.recv dgram) m.out (received dgram).length (dotted src) (d.over m))

abbrev Output := List (List UInt8) × (Fin udpSendMax → Option (List UInt8))

def outgoing (d : Device) (r : Outcome) : Output :=
  ((sends r.2).map Datagram.bytes, fun i =>
    if (d.multiUdpBuff i).isValid = false ∧ (r.1.multiUdpBuff i).isValid = true
      then some (r.1.multiUdpBuff i).bytes else none)

def Emitter.emits (o : Emitter) (m : Residue) (d : Device) : Option Output :=
  (o.run m d).map (outgoing d)

/-! The table. -/

def nothing : Output := ([], fun _ => none)

def Device.queues (d : Device) (bytes : Fin udpSendMax → List UInt8) : Output :=
  match d.freeSlot with
  | none => nothing
  | some i => ([], fun j => if j = i then some (bytes i) else none)

def Device.transmits (d : Device) (bytes : List UInt8) : Output :=
  match d.freeSlot with
  | none => nothing
  | some i => ([bytes], fun j => if j = i then some bytes else none)

def Device.echoes (d : Device) (buff : Buf) : VideoTask → Option Nat
  | .callStart => if d.status = .calling ∧ buff 7 = ask then some 57 else none
  | .callConfirm =>
    if (d.status = .calling ∨ d.status = .talking) ∧ buff 7 = ask then some 61 else none
  | .openLock =>
    if (d.status = .calling ∨ d.status = .called ∨ d.status = .talked ∨ d.status = .talking) ∧
      buff 7 = ask then some 57 else none
  | .callEnd => if d.active ∧ buff 7 = ask then some 57 else none
  | .forceIFrame => if d.status ≠ .null ∧ buff 7 = ask then some 57 else none
  | _ => none

def Device.replies (d : Device) (buff : Buf) (len : Nat) : Output :=
  match (videoTask buff len).bind (d.echoes buff) with
  | none => nothing
  | some n => ([(slice buff 0 n).set 7 reply], fun _ => none)

def Emitter.output (o : Emitter) (m : Residue) (d : Device) : Option Output :=
  match o with
  | .startCall ip addr uFlag => some
    (if uFlag = 2 ∧ d.status = .null
      then d.transmits (talkBytes (d.dial ip addr) ask call ++ [h264] ++ (inetAddr ip).bytes)
      else nothing)
  | .stopTalk => some (if d.status = .null then nothing else d.transmits (talkBytes d ask callEnd))
  | .findIp none _ => some nothing
  | .findIp (some addr) uFlag => some
    (if d.status = .null ∧ uFlag = 0
      then d.transmits (udpPackageHead ++ [nsOrder] ++ [ask] ++ slice d.localConfig.address 0 20 ++
        d.locateIp.bytes ++ roomBytes d.localConfig.address addr ++ IP4.zero.bytes)
      else nothing)
  | .sendInfo _ none => some nothing
  | .sendInfo data (some info) =>
    if d.freeSlot.isSome ∧ ¬(0 ≤ info.length ∧ 85 + info.length ≤ sizeofBuf) then none
    else some (d.queues fun _ => (messageBytes (d.address info) info ++ lengthBytes info.length ++
      slice data 0 info.length.toNat).dropLast)
  | .forceIFrame => some (d.queues fun i =>
      udpPackageHead ++ [if d.active then videoTalk else m.bufs i 6] ++ [ask] ++
        [QsaTalk.forceIFrame] ++ slice d.localConfig.address 0 20 ++ slice d.localConfig.ip 0 4 ++
          slice (d.remoteInfo.addr 0) 0 20 ++ (d.remoteInfo.ip 0).bytes)
  | .onlineCheck => some
    (if d.local1.timer1Num > timerPerSec * 12 then
      if d.local1.callConfirmFlag = 0 ∧ (d.status = .calling ∨ d.status = .called ∨
          d.status = .talking ∨ d.status = .talked)
        then d.transmits (talkBytes d ask callEnd) else nothing
    else if d.local1.timer1Num % (timerPerSec * 2) = 0 ∧ (d.status = .called ∨ d.status = .talked)
      then ([talkBytes d ask callConfirm ++ onlineBytes d.local1.onlineNum ++ [m.out 61]],
        fun _ => none)
      else nothing)
  | .sendAudio c =>
    if d.status = .null then some nothing
    else if c.fits then some ([(audioPacket d (c.over m)).bytes], fun _ => none)
    else none
  | .sendVideo c frameType =>
    if c.length + sizeofTalkData1 + 20 ≤ 0 then none
    else if d.status = .null then some nothing
    else if 0 ≤ c.length
      then some ((videoPackets d (c.over m) frameType).map Datagram.bytes, fun _ => none)
    else none
  | .reply _ dgram => some (d.replies (receive m.recv dgram) (received dgram).length)

/-! Old contents decide nothing about which slot is taken. -/

@[simp] theorem over_status (d : Device) (m : Residue) : (d.over m).status = d.status := rfl

theorem over_valid (d : Device) (m : Residue) (i : Fin udpSendMax) :
    ((d.over m).multiUdpBuff i).isValid = (d.multiUdpBuff i).isValid := by
  dsimp only [Device.over]
  split <;> rfl

@[simp] theorem over_freeSlot (d : Device) (m : Residue) : (d.over m).freeSlot = d.freeSlot := by
  unfold Device.freeSlot first
  simp only [over_valid]

theorem over_buf {m : Residue} {i : Fin udpSendMax} (h : d.freeSlot = some i) :
    ((d.over m).multiUdpBuff i).buf = m.bufs i := by
  have hfree : (d.multiUdpBuff i).isValid = false := by simpa using first_spec h
  simp [Device.over, hfree]

theorem outgoing_kept {r : Outcome}
    (h : ∀ i, (r.1.multiUdpBuff i).isValid = true → (d.multiUdpBuff i).isValid = true) :
    outgoing d r = ((sends r.2).map Datagram.bytes, fun _ => none) := by
  refine Prod.ext rfl (funext fun i => if_neg ?_)
  rintro ⟨hfree, hv⟩
  exact Bool.false_ne_true (hfree.symm.trans (h i hv))

theorem outgoing_quiet {e : Device} {m : Residue} {evs : List Event}
    (he : e.multiUdpBuff = (d.over m).multiUdpBuff) (hs : sends evs = []) :
    outgoing d (e, evs) = nothing := by
  rw [outgoing_kept fun i hv => ?_, hs]
  · rfl
  · rwa [he, over_valid] at hv

theorem outgoing_filled {e : Device} {i : Fin udpSendMax} {m : MultiUdpBuff1} {evs : List Event}
    (he : ∀ j, j ≠ i → (e.multiUdpBuff j).isValid = (d.multiUdpBuff j).isValid)
    (hi : e.multiUdpBuff i = m) (hf : d.freeSlot = some i) (hm : m.isValid = true) :
    outgoing d (e, evs) =
      ((sends evs).map Datagram.bytes, fun j => if j = i then some m.bytes else none) := by
  have hfree : (d.multiUdpBuff i).isValid = false := by simpa using first_spec hf
  refine Prod.ext rfl (funext fun j => ?_)
  dsimp only [outgoing]
  by_cases hj : j = i
  · subst hj
    rw [if_pos ⟨hfree, by rw [hi, hm]⟩, if_pos rfl, hi]
  · rw [if_neg hj, if_neg]
    rintro ⟨h1, h2⟩
    rw [he j hj, h1] at h2
    exact Bool.false_ne_true h2

theorem outgoing_slot {e : Device} {n : Residue} {i : Fin udpSendMax} {m : MultiUdpBuff1}
    {evs : List Event} (he : e.multiUdpBuff = (d.over n).multiUdpBuff) (hf : d.freeSlot = some i)
    (hm : m.isValid = true) : outgoing d (e.setSlot i m, evs) =
      ((sends evs).map Datagram.bytes, fun j => if j = i then some m.bytes else none) := by
  refine outgoing_filled (fun j hj => ?_) (update_self _ _ _) hf hm
  rw [setSlot_multiUdpBuff, update_of_ne hj, he, over_valid]

theorem transmits_taken {i : Fin udpSendMax} (hf : d.freeSlot = some i) (bytes : List UInt8) :
    d.transmits bytes = ([bytes], fun j => if j = i then some bytes else none) := by
  unfold Device.transmits
  rw [hf]

theorem transmits_full (hf : d.freeSlot = none) (bytes : List UInt8) :
    d.transmits bytes = nothing := by
  unfold Device.transmits
  rw [hf]

theorem queues_taken {i : Fin udpSendMax} (hf : d.freeSlot = some i)
    (bytes : Fin udpSendMax → List UInt8) :
    d.queues bytes = ([], fun j => if j = i then some (bytes i) else none) := by
  unfold Device.queues
  rw [hf]

theorem queues_full (hf : d.freeSlot = none) (bytes : Fin udpSendMax → List UInt8) :
    d.queues bytes = nothing := by
  unfold Device.queues
  rw [hf]

theorem transmit_bytes (m : MultiUdpBuff1) :
    (sends [.lock, m.transmit, .unlock]).map Datagram.bytes = [m.bytes] := by
  simp [MultiUdpBuff1.transmit, udpSendBuff, Event.sent, MultiUdpBuff1.bytes]

theorem transmits_slot {e : Device} {n : Residue} {i : Fin udpSendMax} {m : MultiUdpBuff1}
    (he : e.multiUdpBuff = (d.over n).multiUdpBuff) (hf : d.freeSlot = some i)
    (hm : m.isValid = true) :
    outgoing d (e.setSlot i m, [.lock, m.transmit, .unlock]) = d.transmits m.bytes := by
  rw [outgoing_slot he hf hm, transmits_taken hf, transmit_bytes]

/-- The header of a VIDEOTALK message is made of the configuration and the peer. -/
theorem talkBytes_congr {e : Device} {kind sub : UInt8} (hc : e.localConfig = d.localConfig)
    (hl : e.locateIp = d.locateIp) (hr : e.remoteInfo = d.remoteInfo) :
    talkBytes e kind sub = talkBytes d kind sub := by
  rw [talkBytes, hc, hl, hr, talkBytes]

theorem dial_over (m : Residue) (ip : List UInt8) (addr : Buf) :
    ((d.over m).dial ip addr).remoteInfo = (d.dial ip addr).remoteInfo := by
  unfold Device.dial roomAddr
  rfl

/-! One row at a time. -/

theorem startCall_output (m : Residue) (ip : List UInt8) (addr : Buf) (uFlag : Int) :
    (Emitter.startCall ip addr uFlag).emits m d = (Emitter.startCall ip addr uFlag).output m d := by
  change some (outgoing d (startCall ip addr uFlag (d.over m))) = some _
  congr 1
  by_cases h : uFlag = 2 ∧ d.status = .null
  · rw [if_pos h]
    obtain ⟨rfl, hs⟩ := h
    cases hf : d.freeSlot with
    | none =>
      rw [startCall_full (d := d.over m) hs ((over_freeSlot d m).trans hf), transmits_full hf]
      exact outgoing_quiet (dial_multiUdpBuff ..) rfl
    | some i =>
      rw [startCall_queued (d := d.over m) hs ((over_freeSlot d m).trans hf),
        transmits_slot (dial_multiUdpBuff ..) hf rfl, call_bytes, talkBytes_congr rfl rfl (dial_over ..),
        dial_over]
      rfl
  · rw [if_neg h, startCall_refused (d := d.over m) h]
    exact outgoing_quiet rfl rfl

theorem stopTalk_outgoing (m : Residue) : outgoing d (stopTalk (d.over m)) =
    if d.status = .null then nothing else d.transmits (talkBytes d ask callEnd) := by
  by_cases h : d.status = .null
  · rw [if_pos h, stopTalk_idle (d := d.over m) h]
    exact outgoing_quiet rfl rfl
  · rw [if_neg h]
    cases hf : d.freeSlot with
    | none =>
      rw [stopTalk_full (d := d.over m) h ((over_freeSlot d m).trans hf), transmits_full hf]
      exact outgoing_quiet rfl rfl
    | some i =>
      rw [stopTalk_queued (d := d.over m) h ((over_freeSlot d m).trans hf), transmits_slot rfl hf rfl, callEnd_bytes,
        talkBytes_congr (d := d) (e := d.over m) rfl rfl rfl]

theorem findIp_output (m : Residue) (addr : Option Buf) (uFlag : Int) :
    (Emitter.findIp addr uFlag).emits m d = (Emitter.findIp addr uFlag).output m d := by
  change some (outgoing d (findIp addr uFlag (d.over m))) = _
  cases addr with
  | none => exact congrArg some (outgoing_quiet rfl rfl)
  | some addr =>
    refine congrArg some ?_
    by_cases h : d.status = .null ∧ uFlag = 0
    · rw [if_pos h]
      obtain ⟨hs, rfl⟩ := h
      cases hf : d.freeSlot with
      | none =>
        rw [findIp_full (d := d.over m) hs ((over_freeSlot d m).trans hf), transmits_full hf]
        exact outgoing_quiet rfl rfl
      | some i =>
        have htable (e : Device) (n : MultiUdpBuff1) : (e.setSlot i n).seek addr =
            (e.seek addr).setSlot i n := rfl
        rw [findIp_queued (d := d.over m) hs ((over_freeSlot d m).trans hf), htable,
          transmits_slot (seek_multiUdpBuff ..) hf rfl, query_bytes]
        rfl
    · rw [if_neg h, findIp_refused (d := d.over m) fun hc => h hc.2]
      exact outgoing_quiet rfl rfl

theorem sendInfo_output (m : Residue) (data : Buf) (info : Option SendInfo) :
    (Emitter.sendInfo data info).emits m d = (Emitter.sendInfo data info).output m d := by
  change (sendInfo data info (d.over m)).map (outgoing d) = _
  cases info with
  | none =>
    have hrun : sendInfo data none (d.over m) = some (d.over m, []) := rfl
    rw [hrun, Option.map_some, outgoing_quiet (m := m) rfl rfl]
    rfl
  | some info =>
    have htable : ((d.over m).address info).multiUdpBuff = (d.over m).multiUdpBuff :=
      address_multiUdpBuff ..
    have hmessage : messageBytes ((d.over m).address info) info =
        messageBytes (d.address info) info := rfl
    rw [Emitter.output]
    cases hf : d.freeSlot with
    | none =>
      rw [sendInfo_full (d := d.over m) ((over_freeSlot d m).trans hf), if_neg (by simp),
        queues_full hf, Option.map_some, outgoing_quiet htable rfl]
    | some i =>
      rw [sendInfo_taken (d := d.over m) ((over_freeSlot d m).trans hf), queues_taken hf]
      by_cases hfit : 0 ≤ info.length ∧ 85 + info.length ≤ sizeofBuf
      · obtain ⟨n, hn, hv, -, -⟩ := messageSlot_eq ((d.over m).address info) data
          ((d.over m).multiUdpBuff i) hfit
        rw [hn, if_neg fun h => h.2 hfit, Option.map_some, Option.map_some,
          outgoing_slot htable hf hv, message_bytes hn, hmessage]
        rfl
      · rw [messageSlot_undefined hfit, if_pos ⟨rfl, hfit⟩]
        rfl

theorem forceIFrame_output (m : Residue) :
    Emitter.forceIFrame.emits m d = Emitter.forceIFrame.output m d := by
  change some (outgoing d (forceIFrameFunc (d.over m))) = _
  rw [Emitter.output]
  cases hf : d.freeSlot with
  | none =>
    rw [forceIFrame_full (d := d.over m) ((over_freeSlot d m).trans hf), queues_full hf,
      outgoing_quiet (m := m) rfl rfl]
  | some i =>
    rw [forceIFrame_queued (d := d.over m) ((over_freeSlot d m).trans hf), queues_taken hf,
      outgoing_slot (n := m) rfl hf rfl, forceIFrame_bytes, over_buf hf]
    rfl

theorem outgoing_more {r : Outcome} {e : Device} {evs : List Event}
    (he : e.multiUdpBuff = r.1.multiUdpBuff) (hs : sends evs = []) :
    outgoing d (e, r.2 ++ evs) = outgoing d r := by
  rw [outgoing, he, sends_append, hs, List.append_nil, outgoing]

theorem onlineCheck_output (m : Residue) :
    Emitter.onlineCheck.emits m d = Emitter.onlineCheck.output m d := by
  change some (outgoing d (onlineCheckFunc m.out (d.over m))) = some _
  congr 1
  have hl : (d.over m).local1 = d.local1 := rfl
  by_cases ht : d.local1.timer1Num > timerPerSec * 12
  · rw [if_pos ht]
    by_cases hc : d.local1.callConfirmFlag = 0
    · by_cases hs : d.status = .calling ∨ d.status = .called ∨ d.status = .talking ∨
          d.status = .talked
      · have hn : d.status ≠ .null := by
          obtain h | h | h | h := hs <;> simp [h]
        have hstop := stopTalk_outgoing (d := d) m
        rw [if_neg hn] at hstop
        rw [if_pos ⟨hc, hs⟩, ← hstop]
        simp only [onlineCheckFunc, hl, over_status, ht, hc, hs, if_true]
        exact outgoing_more rfl rfl
      · rw [if_neg fun h => hs h.2]
        simp only [onlineCheckFunc, hl, over_status, ht, hc, hs, if_true, if_false]
        exact outgoing_quiet rfl rfl
    · rw [if_neg fun h => hc h.1]
      simp only [onlineCheckFunc, hl, ht, hc, if_true, if_false]
      exact outgoing_quiet rfl rfl
  · rw [if_neg ht]
    by_cases hm : d.local1.timer1Num % (timerPerSec * 2) = 0
    · by_cases hs : d.status = .called ∨ d.status = .talked
      · rw [if_pos ⟨hm, hs⟩]
        simp only [onlineCheckFunc, hl, over_status, ht, hm, hs, if_true, if_false]
        refine (outgoing_kept fun i hv => (over_valid d m i).symm.trans hv).trans ?_
        refine Prod.ext ?_ rfl
        refine congrArg (fun l => [l]) ((confirm_bytes m.out).trans ?_)
        rw [talkBytes_congr (d := d) (e := d.over m) rfl rfl rfl]
        rfl
      · rw [if_neg fun h => hs h.2]
        simp only [onlineCheckFunc, hl, over_status, ht, hm, hs, if_true, if_false]
        exact outgoing_quiet rfl rfl
    · rw [if_neg fun h => hm h.1]
      simp only [onlineCheckFunc, hl, ht, hm, if_false]
      exact outgoing_quiet rfl rfl

theorem sendAudio_output (m : Residue) (c : MediaCall) :
    (Emitter.sendAudio c).emits m d = (Emitter.sendAudio c).output m d := by
  change (qsaSendAudio (c.over m) (d.over m)).map (outgoing d) = _
  rw [Emitter.output]
  by_cases hn : d.status = .null
  · have hrun : qsaSendAudio (c.over m) (d.over m) = some (d.over m, [.currOpt .callFail d.status]) :=
      if_pos hn
    rw [if_pos hn, hrun, Option.map_some, outgoing_quiet (m := m) rfl rfl]
  · rw [if_neg hn]
    by_cases hf : c.fits
    · have hf' : (c.over m).fits := hf
      rw [if_pos hf, sendAudio_packet (d := d.over m) hn hf', Option.map_some,
        outgoing_kept fun i hv => (over_valid d m i).symm.trans hv]
      rfl
    · have hf' : ¬(c.over m).fits := hf
      rw [if_neg hf, sendAudio_undefined (d := d.over m) hn hf']
      rfl

theorem sendVideo_output (m : Residue) (c : MediaCall) (frameType : Int) :
    (Emitter.sendVideo c frameType).emits m d = (Emitter.sendVideo c frameType).output m d := by
  change (qsaSendVideo (c.over m) frameType (d.over m)).map (outgoing d) = _
  rw [Emitter.output]
  have hlen : (c.over m).length = c.length := rfl
  by_cases hsize : c.length + sizeofTalkData1 + 20 ≤ 0
  · rw [if_pos hsize, qsaSendVideo, hlen, if_pos hsize]
    rfl
  rw [if_neg hsize]
  by_cases hn : d.status = .null
  · have hn' : (d.over m).status = .null := hn
    rw [if_pos hn, qsaSendVideo, hlen, if_neg hsize, if_pos hn', Option.map_some,
      outgoing_quiet (m := m) rfl rfl]
  rw [if_neg hn, sendVideo_eq (d := d.over m) hn, hlen]
  by_cases hpos : 0 ≤ c.length
  · rw [if_pos hpos, if_pos hpos, Option.map_some,
      outgoing_kept fun i hv => (over_valid d m i).symm.trans hv, sends_map_send]
    rfl
  · rw [if_neg hpos, if_neg hpos]
    rfl

/-! Replies. -/

theorem release_valid {i k : Fin udpSendMax} (h : ((d.release i).multiUdpBuff k).isValid = true) :
    (d.multiUdpBuff k).isValid = true := by
  by_cases hk : k = i
  · subst hk
    simp at h
  · rwa [release_multiUdpBuff, update_of_ne hk] at h

theorem scanned_valid {buff : Buf} {k : Fin udpSendMax}
    (h : ((d.scanned buff).multiUdpBuff k).isValid = true) : (d.multiUdpBuff k).isValid = true := by
  obtain hkeep | ⟨-, hclear⟩ := scanned_slot (d := d) buff k
  · rwa [hkeep] at h
  · rw [hclear] at h
    exact absurd h Bool.false_ne_true

/-- No handler queues a command. -/
theorem video_valid {t : VideoTask} {buff sendB : Buf} {host : List UInt8} {k : Fin udpSendMax}
    (h : ((runVideoTask t buff sendB host d).1.multiUdpBuff k).isValid = true) :
    (d.multiUdpBuff k).isValid = true := by
  have he := video_effect d t buff sendB host
  generalize runVideoTask t buff sendB host d = r at h he
  cases he with
  | passive ht => rwa [passive_keeps Device.multiUdpBuff (fun _ => rfl) ht] at h
  | resolved | unresolved => exact scanned_valid h
  | busy | swallowed | answered => exact release_valid h
  | concluded =>
    rw [cleared_multiUdpBuff] at h
    exact release_valid (d := d.unwatched) h
  | ended =>
    rw [cleared_multiUdpBuff] at h
    exact h
  | unused | unanswered | started | unstarted | stray | noCall => exact h

theorem echo_bytes (buff sendB : Buf) (host : List UInt8) (n : Nat) :
    echo d buff sendB host n = .send ⟨d.videoSocket, inetAddr host, remoteVideoPort,
      (slice buff 0 n).set 7 reply⟩ := by
  rw [echo, udpSendBuff, slice_put, slice_blit_self _ _ (length_slice _ _ _)]

theorem passive_sends {t : VideoTask} {buff sendB : Buf} {host : List UInt8} (ht : t.passive) :
    (sends (runVideoTask t buff sendB host d).2).map Datagram.bytes =
      ((d.echoes buff t).map fun n => (slice buff 0 n).set 7 reply).toList := by
  have he := passive_effect d buff sendB host ht
  generalize runVideoTask t buff sendB host d = r at he
  cases he with
  | confirmed h | unlocked h | forced h =>
    rw [Device.echoes, if_pos h, echo_bytes]
    rfl
  | heard h | unheard h | shut h | unforced h =>
    rw [Device.echoes, if_neg h]
    rfl
  | call | played | mute => rfl

theorem video_sends {t : VideoTask} {buff sendB : Buf} {host : List UInt8} :
    (sends (runVideoTask t buff sendB host d).2).map Datagram.bytes =
      ((d.echoes buff t).map fun n => (slice buff 0 n).set 7 reply).toList := by
  have he := video_effect d t buff sendB host
  generalize runVideoTask t buff sendB host d = r at he
  cases he with
  | passive ht => exact passive_sends ht
  | started h =>
    rw [Device.echoes, if_pos h, echo_bytes]
    rfl
  | ended ha h7 =>
    rw [Device.echoes, if_pos ⟨ha, h7⟩, echo_bytes]
    rfl
  | unstarted h =>
    rw [Device.echoes, if_neg h]
    rfl
  | concluded ha h7 =>
    have hne : ¬reply = ask := by decide
    rw [Device.echoes, if_neg fun h => hne (h7.symm.trans h.2)]
    rfl
  | stray ha h7 =>
    rw [Device.echoes, if_neg fun h => h7 h.2]
    rfl
  | noCall ha =>
    rw [Device.echoes, if_neg fun h => ha h.1]
    rfl
  | resolved | unresolved | busy | swallowed | unused | answered | unanswered => rfl

theorem reply_output (m : Residue) (src : IP4) (dgram : List UInt8) :
    (Emitter.reply src dgram).emits m d = (Emitter.reply src dgram).output m d := by
  change some (outgoing d (udpVideoRcv (receive m.recv dgram) m.out _ _ (d.over m))) = some _
  congr 1
  rw [udpVideoRcv, Device.replies]
  cases videoTask (receive m.recv dgram) (received dgram).length with
  | none => exact outgoing_quiet rfl rfl
  | some t =>
    change outgoing d (runVideoTask t _ _ _ (d.over m)) = _
    refine (outgoing_kept fun i hv => (over_valid d m i).symm.trans (video_valid hv)).trans ?_
    have hecho : (d.over m).echoes (receive m.recv dgram) t = d.echoes (receive m.recv dgram) t := rfl
    rw [video_sends, hecho, Option.bind_some]
    cases d.echoes (receive m.recv dgram) t <;> rfl

/-- Every operation emits what its row of the table says. -/
theorem emits_output (o : Emitter) (m : Residue) (d : Device) : o.emits m d = o.output m d := by
  cases o with
  | startCall ip addr uFlag => exact startCall_output m ip addr uFlag
  | stopTalk => exact congrArg some (stopTalk_outgoing m)
  | findIp addr uFlag => exact findIp_output m addr uFlag
  | sendInfo data info => exact sendInfo_output m data info
  | forceIFrame => exact forceIFrame_output m
  | onlineCheck => exact onlineCheck_output m
  | sendAudio c => exact sendAudio_output m c
  | sendVideo c frameType => exact sendVideo_output m c frameType
  | reply src dgram => exact reply_output m src dgram

end QsaTalk
