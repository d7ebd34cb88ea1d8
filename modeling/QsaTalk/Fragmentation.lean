import QsaTalk.Lib.Fragments
import QsaTalk.System

/-! Video frames on the wire: `qsa_send_video` cuts a frame into packets that say where in it they
belong, and a receiver who puts each payload there holds the frame, in whatever order they came. -/
namespace QsaTalk
open ByteBuffer Fragments

def Datagram.header (g : Datagram) : TalkData1 := TalkData1.read (ofList g.bytes) 9
def Datagram.payload (g : Datagram) : List UInt8 := g.bytes.drop (9 + sizeofTalkData1)

def Datagram.piece (g : Datagram) : Piece UInt8 :=
  ⟨(g.header.currPackage.toNat - 1) * g.header.packLen.toNat, g.payload⟩

def frame (c : MediaCall) : List UInt8 := slice c.data 0 c.length.toNat

def pieceLen (s : CallStatus) : Nat := if s = .talking then 2700 else 1350

def packetCount (d : Device) (c : MediaCall) : Nat := count c.length.toNat (pieceLen d.status)

/-- The datagrams of one frame; none is longer than `mpeg4_out`, which they are built in. -/
structure Packets (d : Device) (c : MediaCall) (gs : List Datagram) : Prop where
  count : gs.length = packetCount d c
  numbered : gs.map (fun g => g.header.currPackage.toNat) = List.range' 1 (packetCount d c)
  total : ∀ g ∈ gs, g.header.totalPackage.toNat = packetCount d c
  framelen : ∀ g ∈ gs, g.header.framelen.toNat = c.length.toNat
  frameno : ∀ g ∈ gs, g.header.frameno = UInt16.ofInt c.frameNum
  timestamp : ∀ g ∈ gs, g.header.timestamp = c.nowTime
  packLen : ∀ g ∈ gs, g.header.packLen.toNat = pieceLen d.status
  datalen : ∀ g ∈ gs, 0 < g.header.datalen.toNat ∧ g.header.datalen ≤ g.header.packLen
  length : ∀ g ∈ gs, g.bytes.length = 77 + g.header.datalen.toNat
  inside : ∀ g ∈ gs, (g.bytes.length : Int) ≤ c.length + sizeofTalkData1 + 20
  tiling : ∀ hs : List Datagram, hs.Perm gs → Tiles (frame c) (hs.map Datagram.piece)
  rebuilt : ∀ hs : List Datagram, hs.Perm gs → assemble (hs.map Datagram.piece) = fun i => (frame c)[i]?

/-! Numbers that fit their field. -/

theorem toNat_ofInt16 {n : Nat} (h : n < 2 ^ 16) : (UInt16.ofInt n).toNat = n := by
  rw [UInt16.ofInt, UInt16.toNat_ofNat']
  omega

theorem toNat_ofInt32 {n : Nat} (h : n < 2 ^ 32) : (UInt32.ofInt n).toNat = n := by
  rw [UInt32.ofInt, UInt32.toNat_ofNat']
  omega

theorem videoPackLen_toNat (s : CallStatus) : (videoPackLen s).toNat = pieceLen s := by
  unfold videoPackLen pieceLen
  split <;> rfl

theorem pieceLen_bounds (s : CallStatus) : 0 < pieceLen s ∧ pieceLen s ≤ 2700 := by
  unfold pieceLen
  split <;> decide

theorem totalPackages_eq {n p : Nat} (hp : 0 < p) : totalPackages n p = count n p := by
  have hdiv := Nat.div_add_mod n p
  have hmod := Nat.mod_lt n hp
  unfold totalPackages
  rw [← Int.ofNat_tmod, ← Int.ofNat_tdiv, Fragments.count]
  by_cases hz : n % p = 0
  · have hq : (n + p - 1) / p = n / p := by
      rw [Nat.div_eq_iff hp, Nat.mul_comm]
      omega
    rw [hz, hq]
    exact if_pos rfl
  · have hq : (n + p - 1) / p = n / p + 1 := by
      rw [Nat.div_eq_iff hp, Nat.succ_mul, Nat.mul_comm]
      omega
    rw [if_neg (by omega), hq]
    rfl

/-! One packet. -/

section Packet
variable (d : Device) (c : MediaCall) (head : List UInt8) (t : TalkData1)

def payloadOf (j : Nat) : List UInt8 := (Fragments.piece t.packLen.toNat (frame c) (j - 1)).data

def headerOf (j : Nat) : TalkData1 :=
  { t with currPackage := UInt16.ofInt j, datalen := UInt16.ofInt (payloadOf c t j).length }

def packetOf (j : Nat) : Datagram where
  socket := d.videoSocket
  dest := inetAddr c.ip
  port := remoteVideoPort
  bytes := head ++ ((headerOf c t j).bytes ++ payloadOf c t j)

end Packet

variable {d : Device} {c : MediaCall} {t : TalkData1} {out : Buf}

theorem length_frame (c : MediaCall) : (frame c).length = c.length.toNat := length_slice _ _ _

theorem payloadOf_eq (c : MediaCall) (t : TalkData1) (j : Nat) : payloadOf c t j =
    slice c.data ((j - 1) * t.packLen.toNat)
      (min t.packLen.toNat (c.length.toNat - (j - 1) * t.packLen.toNat)) := by
  rw [payloadOf, Fragments.piece, frame, take_drop_slice, Nat.zero_add]

theorem length_payloadOf (c : MediaCall) (t : TalkData1) (j : Nat) : (payloadOf c t j).length =
    min t.packLen.toNat (c.length.toNat - (j - 1) * t.packLen.toNat) := by
  rw [payloadOf_eq, length_slice]

/-- In both branches the copy is the next part of the frame, and it stays inside `mpeg4_out`. -/
theorem videoPacket_eq (hl : 0 < c.length) (hp : 0 < t.packLen.toNat) {j : Nat} (hj : 1 ≤ j)
    (hjt : j ≤ count c.length.toNat t.packLen.toNat) :
    videoPacket d c (count c.length.toNat t.packLen.toNat) j out t =
      some (blit (blit out 9 (headerOf c t j).bytes) (9 + sizeofTalkData1) (payloadOf c t j),
        headerOf c t j, .send (packetOf d c (slice out 0 9) t j)) := by
  obtain ⟨k, rfl⟩ := Nat.exists_eq_add_of_le' hj
  have hlen := length_payloadOf c t (k + 1)
  have hdata := payloadOf_eq c t (k + 1)
  rw [← hlen, Nat.add_sub_cancel] at hdata
  rw [Nat.add_sub_cancel] at hlen
  have hk : k * t.packLen.toNat < c.length.toNat := (lt_count_iff hp).mp hjt
  have hoff : (((k + 1 : Nat) : Int) - 1) * t.packLen.toNat = (k * t.packLen.toNat : Nat) := by
    have hk1 : ((k + 1 : Nat) : Int) - 1 = k := by omega
    rw [hk1, Int.natCast_mul]
  have hn : (if ((k + 1 : Nat) : Int) = (count c.length.toNat t.packLen.toNat : Nat) then
      c.length - (((k + 1 : Nat) : Int) - 1) * t.packLen.toNat else t.packLen.toNat) =
        ((payloadOf c t (k + 1)).length : Int) := by
    rw [hoff, hlen]
    split
    · rename_i hlast
      have hend : ¬(k + 1) * t.packLen.toNat < c.length.toNat := by
        rw [← lt_count_iff hp]
        omega
      rw [Nat.succ_mul] at hend
      omega
    · rename_i hmid
      have hnext : (k + 1) * t.packLen.toNat < c.length.toNat := (lt_count_iff hp).mp (by omega)
      rw [Nat.succ_mul] at hnext
      omega
  have hfits : 0 ≤ ((payloadOf c t (k + 1)).length : Int) ∧
      ((9 + sizeofTalkData1 : Nat) : Int) + (payloadOf c t (k + 1)).length ≤
        (c.length + sizeofTalkData1 + 20).toNat := by
    rw [hlen, sizeofTalkData1]
    omega
  have hsrc : slice (fun i => c.data (k * t.packLen.toNat + i)) 0 (payloadOf c t (k + 1)).length =
      payloadOf c t (k + 1) := by
    rw [slice_shift]
    exact hdata.symm
  have hsize := (headerOf c t (k + 1)).length_bytes
  have hbytes : slice (blit (blit out 9 (headerOf c t (k + 1)).bytes) (9 + sizeofTalkData1)
      (payloadOf c t (k + 1))) 0 (9 + sizeofTalkData1 + (payloadOf c t (k + 1)).length) =
        slice out 0 9 ++ ((headerOf c t (k + 1)).bytes ++ payloadOf c t (k + 1)) := by
    rw [slice_append_blit, ← hsize, slice_append_blit, List.append_assoc]
  unfold videoPacket
  dsimp only
  rw [hn, hoff]
  simp only [Int.toNat_natCast, memcpy, hsrc]
  rw [if_pos hfits, packetOf, ← hbytes]
  rfl

/-- The rounds of the loop, whatever the round before left in the header and the buffer. -/
theorem videoLoop_eq {u : TalkData1} {head : List UInt8} {js : List Nat} (hl : 0 < c.length)
    (hp : 0 < t.packLen.toNat) (hb : slice out 0 9 = head)
    (hu : ∀ j, headerOf c u j = headerOf c t j)
    (hjs : ∀ j ∈ js, 1 ≤ j ∧ j ≤ count c.length.toNat t.packLen.toNat) :
    videoLoop d c (count c.length.toNat t.packLen.toNat) js out u =
      some (js.map fun j => .send (packetOf d c head t j)) := by
  induction js generalizing u out with
  | nil => rfl
  | cons j js ih =>
    obtain ⟨hj, hjt⟩ := hjs j List.mem_cons_self
    have hlen : u.packLen = t.packLen := by
      have hh := congrArg TalkData1.packLen (hu j)
      exact hh
    have hpay : payloadOf c u j = payloadOf c t j := by rw [payloadOf, hlen, payloadOf]
    have hpacket : videoPacket d c (count c.length.toNat u.packLen.toNat) j out u = _ :=
      videoPacket_eq hl (hlen ▸ hp) hj (hlen ▸ hjt)
    rw [hlen, packetOf, hu, hpay, hb] at hpacket
    have hb' : slice (blit (blit out 9 (headerOf c t j).bytes) (9 + sizeofTalkData1)
        (payloadOf c t j)) 0 9 = head := by
      rw [slice_blit_before _ _ (by decide), slice_blit_before _ _ (by decide), hb]
    have htail := ih (u := headerOf c t j) hb' (fun _ => rfl)
      fun i hi => hjs i (List.mem_cons_of_mem _ hi)
    rw [videoLoop, hpacket]
    dsimp only
    rw [htail]
    rfl

/-! What a receiver makes of one packet. -/

section Received
variable {head : List UInt8} {j : Nat}

theorem header_packetOf (hh : head.length = 9) :
    (packetOf d c head t j).header.Same (headerOf c t j) := by
  have h := (headerOf c t j).read_bytes head (payloadOf c t j)
  rw [hh] at h
  exact h

theorem payload_packetOf (hh : head.length = 9) :
    (packetOf d c head t j).payload = payloadOf c t j := by
  have hlen : (head ++ (headerOf c t j).bytes).length = 9 + sizeofTalkData1 := by
    rw [List.length_append, hh, TalkData1.length_bytes]
  rw [Datagram.payload, packetOf, ← List.append_assoc, List.drop_left' hlen]

theorem length_packetOf (hh : head.length = 9) :
    (packetOf d c head t j).bytes.length = 77 + (payloadOf c t j).length := by
  rw [packetOf, List.length_append, List.length_append, hh, TalkData1.length_bytes, sizeofTalkData1]
  omega

theorem datalen_packetOf (hh : head.length = 9) :
    (packetOf d c head t j).header.datalen.toNat = (payloadOf c t j).length := by
  rw [(header_packetOf hh).datalen, headerOf]
  refine toNat_ofInt16 ?_
  have hmax := t.packLen.toNat_lt
  rw [length_payloadOf]
  omega

theorem piece_packetOf (hh : head.length = 9) (hj : j < 2 ^ 16) :
    (packetOf d c head t j).piece = Fragments.piece t.packLen.toNat (frame c) (j - 1) := by
  have hnum : (packetOf d c head t j).header.currPackage.toNat = j := by
    rw [(header_packetOf hh).currPackage, headerOf]
    exact toNat_ofInt16 hj
  rw [Datagram.piece, hnum, (header_packetOf hh).packLen, payload_packetOf hh]
  rfl

end Received

/-! The whole frame. -/

def videoHeader (d : Device) (c : MediaCall) (frameType : Int) : TalkData1 :=
  { c.talk.parties d with
    timestamp := c.nowTime
    frameno := UInt16.ofInt c.frameNum
    framelen := UInt32.ofInt c.length
    dataType := if frameType = 5 then 2 else 3
    packLen := videoPackLen d.status
    totalPackage := UInt16.ofInt (totalPackages c.length (videoPackLen d.status).toNat) }

def videoHead (c : MediaCall) : List UInt8 := slice (put (mediaHead c.out) 8 callUp) 0 9

def videoPackets (d : Device) (c : MediaCall) (frameType : Int) : List Datagram :=
  (List.range' 1 (packetCount d c)).map (packetOf d c (videoHead c) (videoHeader d c frameType))

theorem sendVideo_packets {frameType : Int} (hs : d.status ≠ .null) (hl : 0 < c.length) :
    qsaSendVideo c frameType d =
      some (d, (videoPackets d c frameType).map Event.send) := by
  have hp := (pieceLen_bounds d.status).1
  have hplen : (videoHeader d c frameType).packLen.toNat = pieceLen d.status :=
    videoPackLen_toNat d.status
  have htotal : totalPackages c.length (videoPackLen d.status).toNat = (packetCount d c : Nat) := by
    rw [videoPackLen_toNat, packetCount, ← totalPackages_eq hp, Int.toNat_of_nonneg hl.le]
  have hrange : ∀ j ∈ List.range' 1 (packetCount d c),
      1 ≤ j ∧ j ≤ count c.length.toNat (videoHeader d c frameType).packLen.toNat := by
    intro j hj
    have hr := List.mem_range'_1.mp hj
    rw [hplen]
    exact ⟨hr.1, Nat.lt_succ_iff.mp (by rw [Nat.succ_eq_one_add]; exact hr.2)⟩
  have hloop := videoLoop_eq (d := d) (t := videoHeader d c frameType)
    (u := videoHeader d c frameType) hl
    (hplen.symm ▸ hp) (rfl : slice (put (mediaHead c.out) 8 callUp) 0 9 = videoHead c)
    (fun _ => rfl) hrange
  rw [hplen] at hloop
  rw [qsaSendVideo, if_neg (by rw [sizeofTalkData1]; omega), if_neg hs]
  change (videoLoop d c (totalPackages c.length (videoPackLen d.status).toNat)
    (List.range' 1 (totalPackages c.length (videoPackLen d.status).toNat).toNat)
    (put (mediaHead c.out) 8 callUp) (videoHeader d c frameType)).map _ = _
  rw [htotal, Int.toNat_natCast]
  rw [packetCount] at hloop ⊢
  rw [hloop, videoPackets, List.map_map]
  rfl

theorem piece_videoPackets {frameType : Int} (hfit : packetCount d c < 2 ^ 16) :
    (videoPackets d c frameType).map Datagram.piece = cut (pieceLen d.status) (frame c) := by
  have hplen : (videoHeader d c frameType).packLen.toNat = pieceLen d.status :=
    videoPackLen_toNat d.status
  rw [videoPackets, List.range'_eq_map_range, List.map_map, List.map_map, cut, length_frame]
  refine List.map_congr_left fun k hk => ?_
  have hk' : 1 + k < 2 ^ 16 := by
    have hlt : k < packetCount d c := List.mem_range.mp hk
    omega
  have hhead : (videoHead c).length = 9 := length_slice _ _ _
  change (packetOf _ _ _ _ (1 + k)).piece = _
  rw [piece_packetOf hhead hk', hplen, Nat.add_sub_cancel_left]

theorem length_bounded (hfit : packetCount d c < 2 ^ 16) : c.length.toNat < 2 ^ 32 := by
  obtain ⟨hp, hmax⟩ := pieceLen_bounds d.status
  have hend : c.length.toNat ≤ packetCount d c * pieceLen d.status := by
    by_contra hlt
    exact absurd ((lt_count_iff hp).mpr (Nat.lt_of_not_le hlt)) (Nat.lt_irrefl _)
  have hmul : packetCount d c * pieceLen d.status ≤ 2 ^ 16 * 2700 := Nat.mul_le_mul hfit.le hmax
  omega

/-- Every frame whose packets can be numbered leaves in packets that tile it. -/
theorem video_fragmented {frameType : Int} (hs : d.status ≠ .null) (hl : 0 < c.length)
    (hfit : packetCount d c < 2 ^ 16) : ∃ gs : List Datagram,
      qsaSendVideo c frameType d = some (d, gs.map Event.send) ∧ Packets d c gs := by
  refine ⟨_, sendVideo_packets hs hl, ?_⟩
  obtain ⟨hp, hmax⟩ := pieceLen_bounds d.status
  have hhead : (videoHead c).length = 9 := length_slice _ _ _
  have hplen : (videoHeader d c frameType).packLen.toNat = pieceLen d.status :=
    videoPackLen_toNat d.status
  have hnat : ((c.length.toNat : Nat) : Int) = c.length := Int.toNat_of_nonneg hl.le
  have htotal : totalPackages c.length (videoPackLen d.status).toNat = (packetCount d c : Nat) := by
    rw [videoPackLen_toNat, packetCount, ← totalPackages_eq hp, hnat]
  -- every packet is `packetOf` at a number that fits its field
  have heach {P : Datagram → Prop} (h : ∀ j, 1 ≤ j → j ≤ packetCount d c →
      P (packetOf d c (videoHead c) (videoHeader d c frameType) j)) :
      ∀ g ∈ videoPackets d c frameType, P g := by
    intro g hg
    obtain ⟨j, hj, rfl⟩ := List.mem_map.mp hg
    have hr := List.mem_range'_1.mp hj
    exact h j hr.1 (by omega)
  have htiles : Tiles (frame c) ((videoPackets d c frameType).map Datagram.piece) :=
    piece_videoPackets hfit ▸ cut_tiles hp
  exact {
    count := by rw [videoPackets, List.length_map, List.length_range']
    numbered := by
      rw [videoPackets, List.map_map]
      refine (List.map_congr_left fun j hj => ?_).trans (List.map_id _)
      have hr := List.mem_range'_1.mp hj
      change (packetOf _ _ _ _ j).header.currPackage.toNat = j
      rw [(header_packetOf hhead).currPackage]
      exact toNat_ofInt16 (by omega)
    total := heach fun j _ _ => by
      rw [(header_packetOf hhead).totalPackage, headerOf, videoHeader, htotal]
      exact toNat_ofInt16 hfit
    framelen := heach fun j _ _ => by
      rw [(header_packetOf hhead).framelen, headerOf, videoHeader, ← hnat]
      exact toNat_ofInt32 (length_bounded hfit)
    frameno := heach fun j _ _ => (header_packetOf hhead).frameno
    timestamp := heach fun j _ _ => (header_packetOf hhead).timestamp
    packLen := heach fun j _ _ => by rw [(header_packetOf hhead).packLen]; exact hplen
    datalen := heach fun j hj hjt => by
      have hlt : j - 1 < packetCount d c := by omega
      have hbegin : (j - 1) * pieceLen d.status < c.length.toNat := (lt_count_iff hp).mp hlt
      rw [UInt16.le_iff_toNat_le, datalen_packetOf hhead, (header_packetOf hhead).packLen,
        length_payloadOf]
      change 0 < min (videoHeader d c frameType).packLen.toNat _ ∧
        min _ _ ≤ (videoHeader d c frameType).packLen.toNat
      rw [hplen]
      exact ⟨lt_min hp (Nat.sub_pos_of_lt hbegin), min_le_left _ _⟩
    length := heach fun j _ _ => by rw [length_packetOf hhead, datalen_packetOf hhead]
    inside := heach fun j _ _ => by
      rw [length_packetOf hhead, length_payloadOf, sizeofTalkData1]
      omega
    tiling := fun hs hperm => htiles.perm (hperm.map _)
    rebuilt := fun hs hperm => htiles.rebuild (hperm.map _) }

/-! A frame of 6000 bytes in a talk: two full packets and one of 600. -/

def sampleFrame : MediaCall where
  data := UInt8.ofNat
  length := 6000
  frameNum := 1
  ip := dotted sampleHost
  nowTime := 0
  out := fun _ => 0
  talk := TalkData1.read (fun _ => 0) 0

def sampleTalker : Device := setDeviceStatus .talking (bootDevice sampleBoot)

theorem sampleFrame_fragmented : ∃ gs : List Datagram,
    qsaSendVideo sampleFrame 5 sampleTalker = some (sampleTalker, gs.map Event.send) ∧
      Packets sampleTalker sampleFrame gs :=
  video_fragmented (by decide) (by decide) (by decide)

end QsaTalk
