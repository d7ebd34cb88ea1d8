import QsaTalk.Fragmentation

/-! The bytes of every message the device builds, from its front to its declared length. Where a
builder leaves a byte of its buffer unwritten, that byte shows up here. -/
namespace QsaTalk
open ByteBuffer
variable {d : Device} {c : MediaCall}

def MultiUdpBuff1.bytes (m : MultiUdpBuff1) : List UInt8 := slice m.buf 0 m.nlength

theorem length_ip (a : IP4) : a.bytes.length = 4 := rfl

/-! Commands. -/

/-- The 57 bytes in front of every VIDEOTALK message: who calls, and who is called. -/
def talkBytes (d : Device) (kind sub : UInt8) : List UInt8 :=
  udpPackageHead ++ [videoTalk] ++ [kind] ++ [sub] ++ slice d.localConfig.address 0 20 ++
    d.locateIp.bytes ++ slice (d.remoteInfo.addr 0) 0 20 ++ (d.remoteInfo.ip 0).bytes

theorem slice_head (old : Buf) : slice (blit old 0 udpPackageHead) 0 6 = udpPackageHead :=
  slice_blit _ _ _

theorem talkCommand_bytes (d : Device) (sub : UInt8) (old : Buf) :
    slice (talkCommand d sub old) 0 57 = talkBytes d ask sub := by
  unfold talkCommand
  rw [slice_blit_next _ _ _ (by rw [length_ip]), slice_blit_next _ _ _ (by rw [length_slice]),
    slice_blit_next _ _ _ (by rw [length_ip]), slice_blit_next _ _ _ (by rw [length_slice]),
    slice_put_next, slice_put_next, slice_put_next, slice_head]
  rfl

theorem talkCommand_ge {sub : UInt8} {old : Buf} {k : Nat} (hk : 57 ≤ k) :
    talkCommand d sub old k = old k := by
  have hhead : 0 + udpPackageHead.length ≤ k := (by decide : 0 + udpPackageHead.length ≤ 57).trans hk
  unfold talkCommand
  rw [blit_ge _ _ (by rw [length_ip]; omega), blit_ge _ _ (by rw [length_slice]; omega),
    blit_ge _ _ (by rw [length_ip]; omega), blit_ge _ _ (by rw [length_slice]; omega),
    put_ne _ _ (by omega), put_ne _ _ (by omega), put_ne _ _ (by omega), blit_ge _ _ hhead]

theorem call_bytes (m : MultiUdpBuff1) :
    (callSlot d m).bytes = talkBytes d ask call ++ [h264] ++ (d.remoteInfo.ip 0).bytes := by
  have hbuf : (callSlot d m).bytes =
      slice (blit (put (talkCommand d call m.buf) 57 h264) 58 (d.remoteInfo.ip 0).bytes) 0 62 := rfl
  rw [hbuf, slice_blit_next _ _ _ (by rw [length_ip]), slice_put_next, talkCommand_bytes]

theorem callEnd_bytes (m : MultiUdpBuff1) :
    (callEndSlot d m).bytes = talkBytes d ask callEnd :=
  talkCommand_bytes _ _ _

/-- A room's address is the device's own with `S` in front and the room number at 7. -/
def roomBytes (address addr : Buf) : List UInt8 :=
  'S'.toUInt8 :: slice address 1 6 ++ slice addr 0 4 ++ slice address 11 9

theorem slice_put_front (b : Buf) (v : UInt8) (n : Nat) :
    slice (put b 0 v) 0 (1 + n) = v :: slice b 1 n := by
  rw [slice_add]
  have hrest : slice (put b 0 v) (0 + 1) n = slice b 1 n :=
    slice_congr fun k _ => put_ne _ _ (by omega)
  rw [hrest]
  simp [slice, put_self]

theorem slice_within {b c : Buf} {m : Nat} (h : slice b 0 m = slice c 0 m) {off n : Nat}
    (hn : off + n ≤ m) : slice b off n = slice c off n := by
  have hcut := congrArg (fun l => (l.drop off).take n) h
  simp only [take_drop_slice, Nat.zero_add, Nat.min_eq_left (by omega : n ≤ m - off)] at hcut
  exact hcut

/-- The same patch of an address, whatever buffer it is made in. -/
theorem room_patch {b address : Buf} (addr : Buf) (h : slice b 0 20 = slice address 0 20) :
    slice (blit (put b 0 'S'.toUInt8) 7 (slice addr 0 4)) 0 20 = roomBytes address addr := by
  have hfront : slice (put b 0 'S'.toUInt8) 0 7 = 'S'.toUInt8 :: slice address 1 6 := by
    rw [slice_put_front _ _ 6, slice_within h (by decide)]
  have hroom : slice (blit (put b 0 'S'.toUInt8) 7 (slice addr 0 4)) 0 11 =
      'S'.toUInt8 :: slice address 1 6 ++ slice addr 0 4 := by
    rw [slice_blit_next _ _ _ (by rw [length_slice]), hfront]
  have hback : slice (blit (put b 0 'S'.toUInt8) 7 (slice addr 0 4)) 11 9 = slice address 11 9 := by
    rw [← slice_within h (by decide)]
    refine slice_congr fun k hk => ?_
    rw [blit_ge _ _ (by rw [length_slice]; omega), put_ne _ _ (by omega)]
  rw [slice_add _ 0 11 9, hroom, Nat.zero_add, hback]
  rfl

theorem query_bytes (addr : Buf) (m : MultiUdpBuff1) : (querySlot d addr m).bytes =
    udpPackageHead ++ [nsOrder] ++ [ask] ++ slice d.localConfig.address 0 20 ++ d.locateIp.bytes ++
      roomBytes d.localConfig.address addr ++ IP4.zero.bytes := by
  rw [← room_patch addr rfl]
  unfold MultiUdpBuff1.bytes querySlot
  dsimp only
  rw [slice_blit_next _ _ _ (by rw [length_ip]), slice_blit_next _ _ _ (by rw [length_slice]),
    slice_blit_next _ _ _ (by rw [length_ip]), slice_blit_next _ _ _ (by rw [length_slice]),
    slice_put_next, slice_put_next, slice_head]

/-- Byte 6 and the four bytes at 29 are what sets FORCEIFRAME apart. -/
theorem forceIFrame_bytes (m : MultiUdpBuff1) : (forceIFrameSlot d m).bytes =
    udpPackageHead ++ [if d.active then videoTalk else m.buf 6] ++ [ask] ++ [forceIFrame] ++
      slice d.localConfig.address 0 20 ++ slice d.localConfig.ip 0 4 ++
        slice (d.remoteInfo.addr 0) 0 20 ++ (d.remoteInfo.ip 0).bytes := by
  have hsix : slice (if d.status = .calling ∨ d.status = .talking
      then put (blit m.buf 0 udpPackageHead) 6 videoTalk else blit m.buf 0 udpPackageHead) 0 7 =
        udpPackageHead ++ [if d.active then videoTalk else m.buf 6] := by
    by_cases ha : d.active
    · have hs : d.status = .calling ∨ d.status = .talking := ha
      rw [if_pos hs, if_pos ha, slice_put_next, slice_head]
    · have hs : ¬(d.status = .calling ∨ d.status = .talking) := ha
      rw [if_neg hs, if_neg ha, slice_succ, slice_head, Nat.zero_add, blit_ge _ _ (le_refl 6)]
  unfold MultiUdpBuff1.bytes forceIFrameSlot
  dsimp only
  rw [slice_blit_next _ _ _ (by rw [length_ip]), slice_blit_next _ _ _ (by rw [length_slice]),
    slice_blit_next _ _ _ (by rw [length_slice]), slice_blit_next _ _ _ (by rw [length_slice]),
    slice_put_next, slice_put_next, hsix]

/-- `OnlineNum`, most significant byte first. -/
def onlineBytes (n : Nat) : List UInt8 :=
  [.ofNat (n / 2 ^ 24), .ofNat (n / 2 ^ 16), .ofNat (n / 2 ^ 8), .ofNat n]

/-- A CALLCONFIRM goes out one byte longer than it was filled. -/
theorem confirm_bytes (sendB : Buf) : slice (confirmBytes d sendB) 0 62 =
    talkBytes d ask callConfirm ++ onlineBytes d.local1.onlineNum ++ [sendB 61] := by
  have hlast : confirmBytes d sendB 61 = sendB 61 := by
    unfold confirmBytes
    rw [put_ne _ _ (by decide), put_ne _ _ (by decide), put_ne _ _ (by decide),
      put_ne _ _ (by decide), talkCommand_ge (by decide)]
  rw [slice_succ, Nat.zero_add, hlast]
  unfold confirmBytes
  dsimp only
  rw [slice_put_next, slice_put_next, slice_put_next, slice_put_next, talkCommand_bytes]
  simp [onlineBytes]

/-! `send_info`. -/

/-- The part of the message header that carries the length, twice, big-endian. -/
def lengthBytes (n : Int) : List UInt8 :=
  [0, 1, .ofInt (n / 2 ^ 8), .ofInt n, 0, 0, 0, 1, 0, 1, .ofInt (n / 2 ^ 8), .ofInt n, 4, 176]

def messageBytes (d : Device) (info : SendInfo) : List UInt8 :=
  udpPackageHead ++ [sendMessage] ++ [ask] ++ slice d.localConfig.address 0 20 ++
    slice (d.remoteInfo.addr 0) 0 20 ++ slice d.localConfig.mac 0 6 ++ [.ofInt info.uFlag] ++
      slice info.title 0 16

theorem length_messageBytes (d : Device) (info : SendInfo) : (messageBytes d info).length = 71 := by
  simp [messageBytes, udpPackageHead, length_slice]

theorem messageHeader_bytes (info : SendInfo) (old : Buf) :
    slice (messageHeader d info old) 0 85 = messageBytes d info ++ lengthBytes info.length := by
  have hfront : slice (blit (put (blit (blit (blit (put (put (blit old 0 udpPackageHead) 6
      sendMessage) 7 ask) 8 (slice d.localConfig.address 0 20)) 28 (slice (d.remoteInfo.addr 0) 0 20))
      48 (slice d.localConfig.mac 0 6)) 54 (UInt8.ofInt info.uFlag)) 55 (slice info.title 0 16)) 0 71 =
        messageBytes d info := by
    rw [slice_blit_next _ _ _ (by rw [length_slice]), slice_put_next,
      slice_blit_next _ _ _ (by rw [length_slice]), slice_blit_next _ _ _ (by rw [length_slice]),
      slice_blit_next _ _ _ (by rw [length_slice]), slice_put_next, slice_put_next, slice_head]
    rfl
  have hlen := length_messageBytes d info
  unfold messageHeader
  dsimp only
  simp only [slice_put]
  rw [slice_blit_next _ _ _ (by rw [List.length_replicate]), hfront]
  simp only [List.set_append, hlen, Nat.reduceLT, if_false, Nat.reduceSub]
  rfl

theorem messageSlot_eq (d : Device) (data : Buf) (m : MultiUdpBuff1) {info : SendInfo}
    (h : 0 ≤ info.length ∧ 85 + info.length ≤ sizeofBuf) :
    ∃ m', messageSlot d data info m = some m' ∧ m'.isValid = true ∧
      m'.nlength = 84 + info.length.toNat ∧
      slice m'.buf 0 (85 + info.length.toNat) =
        messageBytes d info ++ lengthBytes info.length ++ slice data 0 info.length.toNat := by
  have hcopy : memcpy sizeofBuf (messageHeader d info m.buf) 85 data info.length =
      some (blit (messageHeader d info m.buf) 85 (slice data 0 info.length.toNat)) := if_pos h
  rw [messageSlot, hcopy]
  refine ⟨_, rfl, rfl, rfl, ?_⟩
  rw [slice_blit_next _ _ _ (by rw [length_slice]), messageHeader_bytes]

theorem messageSlot_undefined {data : Buf} {info : SendInfo} {m : MultiUdpBuff1}
    (h : ¬(0 ≤ info.length ∧ 85 + info.length ≤ sizeofBuf)) : messageSlot d data info m = none := by
  have hcopy : memcpy sizeofBuf (messageHeader d info m.buf) 85 data info.length = none := if_neg h
  rw [messageSlot, hcopy]

/-- What is declared ends one byte before what was written. -/
theorem message_bytes {data : Buf} {info : SendInfo} {m m' : MultiUdpBuff1}
    (h : messageSlot d data info m = some m') : m'.bytes =
      (messageBytes d info ++ lengthBytes info.length ++ slice data 0 info.length.toNat).dropLast := by
  by_cases hfit : 0 ≤ info.length ∧ 85 + info.length ≤ sizeofBuf
  · obtain ⟨m'', hm, -, hn, hb⟩ := messageSlot_eq d data m hfit
    obtain rfl : m'' = m' := Option.some.inj (hm.symm.trans h)
    have hlast : 85 + info.length.toNat = 84 + info.length.toNat + 1 := by omega
    rw [← hb, MultiUdpBuff1.bytes, hn, hlast, slice_succ, List.dropLast_concat]
  · simp [messageSlot_undefined hfit] at h

/-! Media. -/

def TalkData1.tail (t : TalkData1) : List UInt8 :=
  le32 t.timestamp ++ le16 t.dataType ++ le16 t.frameno ++ le32 t.framelen ++
    le16 t.totalPackage ++ le16 t.currPackage ++ le16 t.datalen ++ le16 t.packLen

theorem slice_blit_self (b : Buf) (xs : List UInt8) {n : Nat} (h : xs.length = n) :
    slice (blit b 0 xs) 0 n = xs := by
  rw [← h, slice_blit]

theorem mediaHead_bytes (out : Buf) (v : UInt8) :
    slice (put (mediaHead out) 8 v) 0 9 = udpPackageHead ++ [videoTalk] ++ [1] ++ [v] := by
  unfold mediaHead
  rw [slice_put_next, slice_put_next, slice_put_next, slice_head]

/-- Both media encoders fill the record so that it continues the VIDEOTALK header. -/
theorem media_bytes {t : TalkData1} (hhost : slice t.hostAddr 0 20 = slice d.localConfig.address 0 20)
    (hip : t.hostIP = d.locateIp) (hassi : slice t.assiAddr 0 20 = slice (d.remoteInfo.addr 0) 0 20)
    (haip : t.assiIP = d.remoteInfo.ip 0) :
    udpPackageHead ++ [videoTalk] ++ [1] ++ [callUp] ++ t.bytes = talkBytes d ask callUp ++ t.tail := by
  rw [TalkData1.bytes, hhost, hip, hassi, haip, talkBytes, TalkData1.tail, ask]
  simp only [List.append_assoc]

theorem parties_hostAddr (t : TalkData1) :
    slice (t.parties d).hostAddr 0 20 = slice d.localConfig.address 0 20 :=
  slice_blit_self _ _ (length_slice _ _ _)

theorem parties_assiAddr (t : TalkData1) :
    slice (t.parties d).assiAddr 0 20 = slice (d.remoteInfo.addr 0) 0 20 :=
  slice_blit_self _ _ (length_slice _ _ _)

def audioHeader (d : Device) (c : MediaCall) : TalkData1 :=
  { (if d.status = .talking then c.talk.parties d else c.talk) with
    timestamp := c.nowTime
    dataType := 1
    frameno := UInt16.ofInt c.frameNum
    framelen := UInt32.ofInt c.length
    totalPackage := 1
    currPackage := 1
    datalen := UInt16.ofInt c.length
    packLen := if ((UInt16.ofInt c.length).toNat : Int) < audioPackDataLen then UInt16.ofInt c.length
      else UInt16.ofInt audioPackDataLen }

def MediaCall.fits (c : MediaCall) : Prop := 0 ≤ c.length ∧ 77 + c.length ≤ sizeofAdpcmOut

instance (c : MediaCall) : Decidable c.fits := inferInstanceAs (Decidable (_ ∧ _))

def audioPacket (d : Device) (c : MediaCall) : Datagram where
  socket := d.videoSocket
  dest := inetAddr c.ip
  port := remoteVideoPort
  bytes := udpPackageHead ++ [videoTalk] ++ [1] ++ [if d.status = .talking then callUp else c.out 8] ++
    (audioHeader d c).bytes ++ frame c

theorem sendAudio_packet (hs : d.status ≠ .null) (hf : c.fits) :
    qsaSendAudio c d = some (d, [.send (audioPacket d c)]) := by
  have hhead : slice (if d.status = .talking then put (mediaHead c.out) 8 callUp
      else mediaHead c.out) 0 9 = udpPackageHead ++ [videoTalk] ++ [1] ++
        [if d.status = .talking then callUp else c.out 8] := by
    split
    · rw [mediaHead_bytes]
    · have h8 : mediaHead c.out 8 = c.out 8 := by
        rw [mediaHead, put_ne _ _ (by decide), put_ne _ _ (by decide), blit_ge _ _ (by decide)]
      rw [slice_succ, Nat.zero_add, h8, mediaHead, slice_put_next, slice_put_next, slice_head]
  have hsize := (audioHeader d c).length_bytes
  have hcopy (b : Buf) : memcpy sizeofAdpcmOut b (9 + sizeofTalkData1) c.data c.length =
      some (blit b (9 + sizeofTalkData1) (frame c)) := if_pos hf
  have hbytes (b : Buf) : slice (blit (blit b 9 (audioHeader d c).bytes) (9 + sizeofTalkData1)
      (frame c)) 0 (9 + sizeofTalkData1 + c.length.toNat) =
        slice b 0 9 ++ (audioHeader d c).bytes ++ frame c := by
    rw [slice_blit_next _ _ _ (by rw [length_frame]), slice_blit_next _ _ _ (by rw [hsize])]
  rw [qsaSendAudio, if_neg hs]
  dsimp only
  rw [hcopy]
  dsimp only
  change some (d, [udpSendBuff _ _ _ (blit (blit _ 9 (audioHeader d c).bytes) _ _) _]) = _
  rw [udpSendBuff, hbytes, hhead]
  rfl

theorem sendAudio_undefined (hs : d.status ≠ .null) (hf : ¬c.fits) : qsaSendAudio c d = none := by
  have hcopy (b : Buf) : memcpy sizeofAdpcmOut b (9 + sizeofTalkData1) c.data c.length = none :=
    if_neg hf
  rw [qsaSendAudio, if_neg hs]
  dsimp only
  rw [hcopy]

theorem videoPacket_bytes (d : Device) (c : MediaCall) (frameType : Int) (j : Nat) :
    (packetOf d c (videoHead c) (videoHeader d c frameType) j).bytes = talkBytes d ask callUp ++
      (headerOf c (videoHeader d c frameType) j).tail ++ payloadOf c (videoHeader d c frameType) j := by
  have hparties : udpPackageHead ++ [videoTalk] ++ [1] ++ [callUp] ++
      (headerOf c (videoHeader d c frameType) j).bytes =
        talkBytes d ask callUp ++ (headerOf c (videoHeader d c frameType) j).tail :=
    media_bytes (parties_hostAddr c.talk) rfl (parties_assiAddr c.talk) rfl
  rw [← hparties, packetOf, videoHead, mediaHead_bytes]
  simp only [List.append_assoc]

/-- A small negative length counts as one packet. -/
theorem totalPackages_negative (hsmall : -88 < c.length) (hneg : c.length < 0) :
    totalPackages c.length (videoPackLen d.status).toNat = 1 := by
  have hlen : (88 : Int) < (videoPackLen d.status).toNat := by
    rw [videoPackLen_toNat, pieceLen]
    split <;> decide
  obtain ⟨n, hn⟩ := Int.eq_ofNat_of_zero_le (by omega : 0 ≤ -c.length)
  have hmod : c.length.tmod (videoPackLen d.status).toNat = c.length := by
    rw [← Int.neg_neg c.length, Int.neg_tmod, Int.tmod_eq_of_lt (by omega) (by omega)]
  have hdiv : c.length.tdiv (videoPackLen d.status).toNat = 0 := by
    rw [← Int.neg_neg c.length, Int.neg_tdiv, Int.tdiv_eq_zero_of_lt (by omega) (by omega)]
    rfl
  rw [totalPackages, hmod, hdiv, if_neg hneg.ne]
  rfl

/-- A frame of negative length makes the first copy undefined; an empty one needs no packet. -/
theorem sendVideo_eq (hs : d.status ≠ .null) (frameType : Int) : qsaSendVideo c frameType d =
    if 0 ≤ c.length then some (d, (videoPackets d c frameType).map Event.send) else none := by
  by_cases hpos : 0 < c.length
  · rw [if_pos hpos.le, sendVideo_packets hs hpos]
  have hp := (pieceLen_bounds d.status).1
  by_cases hz : c.length = 0
  · have htotal : totalPackages c.length (videoPackLen d.status).toNat = 0 := by
      rw [hz, totalPackages, Int.zero_tmod, if_pos rfl, Int.zero_tdiv]
    have hnone : videoPackets d c frameType = [] := by
      have hcount : packetCount d c = 0 := by
        rw [packetCount, hz, Fragments.count, Int.toNat_zero, Nat.zero_add]
        exact Nat.div_eq_of_lt (by omega)
      rw [videoPackets, hcount, List.range'_zero, List.map_nil]
    rw [if_pos hz.ge, hnone, qsaSendVideo, if_neg (by rw [hz, sizeofTalkData1]; omega), if_neg hs]
    dsimp only
    rw [htotal]
    rfl
  have hneg : ¬0 ≤ c.length := by omega
  rw [if_neg hneg, qsaSendVideo]
  by_cases hsize : c.length + sizeofTalkData1 + 20 ≤ 0
  · rw [if_pos hsize]
  rw [if_neg hsize, if_neg hs]
  dsimp only
  have htotal := totalPackages_negative (d := d) (by rw [sizeofTalkData1] at hsize; omega)
    (by omega : c.length < 0)
  rw [htotal]
  have hcopy (b src : Buf) : memcpy (c.length + sizeofTalkData1 + 20).toNat b
      (9 + sizeofTalkData1) src c.length = none := if_neg fun h => hneg h.1
  simp [videoLoop, videoPacket, hcopy]

end QsaTalk
