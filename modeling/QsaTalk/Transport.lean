import QsaTalk.Pacing
import QsaTalk.Streamer

/-! The demo's stream from one end to the other: cut into pictures by `user_main`, into datagrams by
`qsa_send_video`, and put together by a receiver who goes by the headers. The pause that keeps
`qsa_send_video` from returning after a P picture is taken to end; which calls do return is said
along with the rest. -/
namespace QsaTalk
open ByteBuffer ByteFile Loops StartCodes Fragments

structure Moment where
  dev : Device
  ip : List UInt8
  nowTime : UInt32
  out : Buf
  talk : TalkData1

def SentFrame.call (f : SentFrame) (m : Moment) : MediaCall where
  data := ofList f.data
  length := f.data.length
  frameNum := f.frameNum
  ip := m.ip
  nowTime := m.nowTime
  out := m.out
  talk := m.talk

/-- All datagrams of the pictures handed over, by calls whose pauses end. -/
def transmitted : List (SentFrame × Moment) → Option (List Datagram)
  | [] => some []
  | (f, m) :: fs =>
    match qsaSendVideo (f.call m) f.frameType.toNat m.dev with
    | none => none
    | some (_, evs) => (transmitted fs).map (sends evs ++ ·)

def shown (hs : List Datagram) (k : Nat) : List UInt8 :=
  match hs.filter fun g => g.header.frameno == UInt16.ofNat k with
  | [] => []
  | g :: gs => (List.range g.header.framelen.toNat).map fun i =>
      (assemble ((g :: gs).map Datagram.piece) i).getD 0

/-! One picture. -/

structure Sendable (p : SentFrame × Moment) : Prop where
  up : p.2.dev.status ≠ .null
  nonempty : 0 < p.1.data.length
  fits : p.1.data.length ≤ sizeofFramebuffer

def packets (p : SentFrame × Moment) : List Datagram :=
  videoPackets p.2.dev (p.1.call p.2) p.1.frameType.toNat

variable {p : SentFrame × Moment} {g : Datagram}

theorem call_frame (p : SentFrame × Moment) : frame (p.1.call p.2) = p.1.data := by
  have h := slice_ofList [] p.1.data []
  change slice (ofList p.1.data) 0 p.1.data.length = p.1.data
  simpa using h

theorem packetCount_bounds (h : Sendable p) :
    0 < packetCount p.2.dev (p.1.call p.2) ∧ packetCount p.2.dev (p.1.call p.2) < 2 ^ 16 := by
  have hlen : (p.1.call p.2).length.toNat = p.1.data.length := rfl
  have hp : 1350 ≤ pieceLen p.2.dev.status := by
    unfold pieceLen
    split <;> decide
  have hpos := h.nonempty
  have hfit := h.fits
  rw [packetCount, hlen]
  constructor
  · rw [lt_count_iff (by omega)]
    omega
  · rw [← Nat.not_le]
    intro hle
    have hlast : 2 ^ 16 - 1 < count p.1.data.length (pieceLen p.2.dev.status) := by omega
    rw [lt_count_iff (by omega)] at hlast
    have hmul := Nat.mul_le_mul_left (2 ^ 16 - 1) hp
    unfold sizeofFramebuffer at hfit
    omega

theorem ofInt_ofNat (n : Nat) : UInt16.ofInt n = UInt16.ofNat n := by
  apply UInt16.toNat_inj.mp
  rw [UInt16.ofInt, UInt16.toNat_ofNat', UInt16.toNat_ofNat']
  omega

theorem packets_header (h : Sendable p) (hg : g ∈ packets p) :
    g.header.frameno = UInt16.ofNat p.1.frameNum ∧ g.header.framelen.toNat = p.1.data.length := by
  obtain ⟨j, -, rfl⟩ := List.mem_map.mp hg
  have hhead : (videoHead (p.1.call p.2)).length = 9 := length_slice _ _ _
  have hs := header_packetOf (d := p.2.dev) (c := p.1.call p.2)
    (t := videoHeader p.2.dev (p.1.call p.2) p.1.frameType.toNat) (j := j) hhead
  refine ⟨hs.frameno.trans (ofInt_ofNat _), ?_⟩
  rw [hs.framelen]
  exact toNat_ofInt32 (length_bounded (c := p.1.call p.2) (packetCount_bounds h).2)

/-- The call returns in the program just for an I picture. -/
theorem picture_returns_iff (h : Sendable p) :
    SendVideoReturns (p.1.call p.2) p.1.frameType.toNat p.2.dev
      (p.2.dev, (packets p).map Event.send) ↔ p.1.frameType = 5 := by
  have hlen : (p.1.call p.2).length = p.1.data.length := rfl
  have hpos := h.nonempty
  have hfit := h.fits
  have hbuf : sizeofFramebuffer = 2048000 := rfl
  rw [packets, video_returns_iff h.up (by omega), hlen, UInt8.ext_iff]
  simp only [UInt8.toNat_ofNat]
  omega

theorem packets_tiles (h : Sendable p) : Tiles p.1.data ((packets p).map Datagram.piece) := by
  rw [packets, piece_videoPackets (packetCount_bounds h).2, call_frame]
  exact cut_tiles (pieceLen_bounds _).1

theorem transmitted_eq {fs : List (SentFrame × Moment)} (h : ∀ p ∈ fs, Sendable p) :
    transmitted fs = some (fs.flatMap packets) := by
  induction fs with
  | nil => rfl
  | cons p fs ih =>
    obtain ⟨f, m⟩ := p
    have hp := h (f, m) (by simp)
    have hlen : 0 < (f.call m).length := by
      have hpos := hp.nonempty
      exact Int.natCast_pos.mpr hpos
    rw [transmitted, sendVideo_packets hp.up hlen, ih fun q hq => h q (List.mem_cons_of_mem _ hq)]
    simp [packets]

/-- The receiver shows a picture as it was, once all of its datagrams have arrived. -/
theorem shown_eq {hs : List Datagram} {k : Nat} (h : Sendable p)
    (hm : ∀ g, g ∈ hs ∧ g.header.frameno = UInt16.ofNat k ↔ g ∈ packets p) :
    shown hs k = p.1.data := by
  have hmem : ∀ g, g ∈ hs.filter (fun g => g.header.frameno == UInt16.ofNat k) ↔ g ∈ packets p := by
    intro g
    rw [List.mem_filter, beq_iff_eq, hm]
  unfold shown
  cases hf : hs.filter fun g => g.header.frameno == UInt16.ofNat k with
  | nil =>
    have hsome : packets p ≠ [] := by
      intro hn
      have hlen := congrArg List.length hn
      rw [packets, videoPackets, List.length_map, List.length_range', List.length_nil] at hlen
      exact (packetCount_bounds h).1.ne' hlen
    obtain ⟨g, hg⟩ := List.exists_mem_of_ne_nil _ hsome
    rw [hf] at hmem
    exact absurd ((hmem g).mpr hg) (by simp)
  | cons g gs =>
    rw [hf] at hmem
    have hsame : ∀ q, q ∈ (g :: gs).map Datagram.piece ↔ q ∈ (packets p).map Datagram.piece :=
      fun q => by simp only [List.mem_map, hmem]
    have hb := (packets_tiles h).rebuild_mem hsame
    dsimp only
    rw [hb, (packets_header h ((hmem g).mp (by simp))).2]
    apply List.ext_getElem
    · simp
    · intro i _ hi
      simp [hi]

/-! The numbers of the pictures. -/

/-- Every picture so far had its own number and fitted the frame buffer. -/
structure Streamer.Numbered (s : Streamer) : Prop where
  numbers : s.sent.map SentFrame.frameNum = List.range' 1 s.count
  sizes : ∀ f ∈ s.sent, 0 < f.data.length ∧ f.data.length ≤ sizeofFramebuffer
  buffer : s.wLength ≤ sizeofFramebuffer

variable {s t : Streamer}

theorem sendFrame_idle (h : s.wLength = 0) : s.sendFrame = s := by
  rw [Streamer.sendFrame, if_neg (not_not_intro h)]

/-- A frame that has just been read goes out under the next number. -/
theorem readFrame_numbered {u : Streamer} (hn : s.Numbered) (hr : s.readFrame = some u)
    (hw : u.wLength ≠ 0) : u.sendFrame.Numbered ∧ u.sendFrame.count = s.count + 1 := by
  unfold Streamer.readFrame at hr
  split at hr
  · obtain rfl := Option.some.inj hr
    exact absurd rfl hw
  · dsimp only at hr
    split at hr
    · rename_i hfit
      obtain rfl := Option.some.inj hr
      rw [Streamer.sendFrame, if_pos hw]
      dsimp only at hw
      refine ⟨⟨?_, fun f hf => ?_, hfit⟩, rfl⟩
      · dsimp only
        rw [List.map_append, hn.numbers, List.range'_1_concat, Nat.add_comm 1]
        rfl
      · obtain hf | hf := List.mem_append.mp hf
        · exact hn.sizes f hf
        · rw [List.mem_singleton.mp hf]
          dsimp only
          rw [length_slice]
          exact ⟨Nat.pos_of_ne_zero hw, hfit⟩
    · simp at hr

section Round
variable {r : Int} {n : NALU} {bits : File}
  (hg : getAnnexbNALU s.nalu s.bits = some (r, n, bits)) (hn : s.Numbered) (h : s.round = some t)
include hg hn h

theorem round_counts (hs : isSlice n.nalUnitType = false) (hf : s.sendflag = false)
    (hw : s.wLength = 0) : t.Numbered ∧ t.count = s.count := by
  rw [Streamer.round, hg] at h
  simp only [hf, hs, Bool.or_false, Bool.false_eq_true, if_false] at h
  obtain rfl := Option.some.inj h
  rw [Streamer.sendFrame, if_neg (not_not_intro hw)]
  exact ⟨⟨hn.numbers, hn.sizes, hn.buffer⟩, rfl⟩

theorem round_sends (hs : isSlice n.nalUnitType = true) (hw : t.wLength ≠ 0) :
    t.Numbered ∧ t.count = s.count + 1 := by
  rw [Streamer.round, hg] at h
  simp only [hs, Bool.or_true, if_true] at h
  obtain ⟨u, hu, rfl⟩ := Option.map_eq_some_iff.mp h
  have hn' : Streamer.Numbered { s with
      nalu := n
      bits := bits
      tsLength := s.tsLength + n.startcodeprefixLen + n.len
      sendflag := true } := ⟨hn.numbers, hn.sizes, hn.buffer⟩
  have hwu : u.wLength ≠ 0 := fun hz => hw (by rw [sendFrame_idle hz, hz])
  have hsent := readFrame_numbered hn' hu hwu
  exact hsent

end Round

variable {us done pending rest : List CodedUnit}

/-- Run lemma: with nothing but slices behind the first slice, no picture is sent twice. -/
theorem Streamer.At.numbered (h : s.At us done pending rest) (hn : s.Numbered)
    (hfit : ∀ vs, vs <:+: us → accessChunk vs → (stream vs).length ≤ sizeofFramebuffer)
    (hl : slicesLast rest) (hw : s.wLength ≠ 0 → ∀ u ∈ rest, endsPicture u = true) :
    ∃ t, Leads Streamer.goesOn Streamer.round s t ∧ Streams us t.sent ∧ t.Numbered ∧
      t.count = s.count + rest.countP endsPicture := by
  induction rest generalizing s done pending with
  | nil =>
    have hend : s.goesOn = false := by
      rw [Streamer.goesOn, Bool.not_eq_false', h.bits, leftOver_eof]
      rfl
    exact ⟨s, (leads_done hend).mpr rfl, h.complete, hn, rfl⟩
  | cons u rest ih =>
    have hgoes : s.goesOn = true := by
      rw [Streamer.goesOn, Bool.not_eq_true', ← Bool.not_eq_true, h.bits, leftOver_eof]
      exact stream_cons_ne_nil u rest
    have hunit : u.coded.length ≤ sizeofFramebuffer := by
      have hin : [u] <:+: us := ⟨done ++ pending, rest, by rw [← h.units]; simp⟩
      simpa [stream] using hfit [u] hin (by simp [accessChunk])
    obtain ⟨hhead, htail⟩ := List.pairwise_cons.mp hl
    obtain ⟨r, n, hg, hcar, -⟩ := h.call hunit
    have htype : isSlice n.nalUnitType = endsPicture u := by rw [carries_type hcar, endsPicture]
    cases hu : endsPicture u with
    | true =>
      have hchunk : accessChunk (pending ++ [u]) := by
        rw [accessChunk, List.dropLast_concat]
        exact h.lead
      have hin : pending ++ [u] <:+: us := ⟨done, rest, by rw [← h.units]; simp⟩
      obtain ⟨t, ht, hat, hwt⟩ := h.flushed (hfit _ hin hchunk) hu
      obtain ⟨hnt, hct⟩ := round_sends hg hn ht (htype.trans hu) hwt
      obtain ⟨v, hv, hstreams, hnum, hcount⟩ := ih hat hnt htail fun _ v hv => hhead v hv hu
      refine ⟨v, (leads_turn hgoes ht).mpr hv, hstreams, hnum, ?_⟩
      rw [hcount, hct, List.countP_cons_of_pos hu]
      omega
    | false =>
      have hzero : s.wLength = 0 := by
        by_contra hne
        have hslice := hw hne u (by simp)
        rw [hu] at hslice
        exact Bool.false_ne_true hslice
      obtain ⟨t, ht, hat, hwt⟩ := h.counted hunit hu hzero
      obtain ⟨hnt, hct⟩ := round_counts hg hn ht (htype.trans hu) h.sendflag hzero
      obtain ⟨v, hv, hstreams, hnum, hcount⟩ := ih hat hnt htail fun hne => absurd hwt hne
      refine ⟨v, (leads_turn hgoes ht).mpr hv, hstreams, hnum, ?_⟩
      rw [hcount, hct, List.countP_cons_of_neg (by simp [hu])]

/-! The whole stream. -/

/-- Two pictures of one number are one picture. -/
theorem picture_unique {fs : List (SentFrame × Moment)} {p q : SentFrame × Moment} {k : Nat}
    (hnum : (fs.map fun p => p.1.frameNum) = List.range' 1 k) (hk : k < 2 ^ 16) (hp : p ∈ fs)
    (hq : q ∈ fs) (h : UInt16.ofNat p.1.frameNum = UInt16.ofNat q.1.frameNum) : p = q := by
  have hnodup : (fs.map fun p => p.1.frameNum).Nodup := hnum ▸ List.nodup_range'
  refine List.inj_on_of_nodup_map hnodup hp hq ?_
  have hsmall : ∀ r ∈ fs, r.1.frameNum < 2 ^ 16 := by
    intro r hr
    have hmem : r.1.frameNum ∈ List.range' 1 k :=
      hnum ▸ List.mem_map_of_mem (f := fun p => p.1.frameNum) hr
    have hr := List.mem_range'_1.mp hmem
    omega
  have hnat := congrArg UInt16.toNat h
  rwa [UInt16.toNat_ofNat_of_lt' (hsmall p hp), UInt16.toNat_ofNat_of_lt' (hsmall q hq)] at hnat

/-- A stream with its slices last and fewer than 65536 of them, its pictures handed over whenever a
call is up, goes out in datagrams of which a receiver may get any, in any order and more than once:
each picture all of whose datagrams have come is shown as it was, and the pictures make up the
stream. Without taking the pauses as ended, a call returns just for a picture of type 5. -/
theorem stream_transported (a : AnnexB) (hl : slicesLast a.units)
    (hfew : a.units.countP endsPicture < 2 ^ 16) :
    ∃ s, Leads Streamer.goesOn Streamer.round (userMain (stream a.units) (stream a.units)) s ∧
      s.sent.flatMap SentFrame.data = stream (a.units.rdropWhile fun u => !endsPicture u) ∧
      ∀ fs : List (SentFrame × Moment), fs.map Prod.fst = s.sent →
        (∀ p ∈ fs, p.2.dev.status ≠ .null) →
        (∀ p ∈ fs, SendVideoReturns (p.1.call p.2) p.1.frameType.toNat p.2.dev
          (p.2.dev, (packets p).map Event.send) ↔ p.1.frameType = 5) ∧
        ∃ gs, transmitted fs = some gs ∧
          ∀ hs, (∀ g ∈ hs, g ∈ gs) → ∀ f ∈ s.sent,
            (∀ g ∈ gs, g.header.frameno = UInt16.ofNat f.frameNum → g ∈ hs) →
            shown hs f.frameNum = f.data := by
  have hstart : (userMain (stream a.units) (stream a.units)).Numbered :=
    ⟨rfl, by simp [userMain], Nat.zero_le _⟩
  obtain ⟨s, hleads, hstreams, hnum, hcount⟩ :=
    (userMain_at a).numbered hstart a.fits hl fun h => absurd rfl h
  have hzero : (userMain (stream a.units) (stream a.units)).count = 0 := rfl
  refine ⟨s, hleads, hstreams.whole, fun fs hfs hup => ?_⟩
  have hsend : ∀ p ∈ fs, Sendable p := by
    intro p hp
    have hsize := hnum.sizes p.1 (hfs ▸ List.mem_map_of_mem hp)
    exact ⟨hup p hp, hsize.1, hsize.2⟩
  have hnumbers : (fs.map fun p => p.1.frameNum) = List.range' 1 s.count := by
    rw [← hnum.numbers, ← hfs, List.map_map]
    rfl
  refine ⟨fun p hp => picture_returns_iff (hsend p hp), fs.flatMap packets, transmitted_eq hsend,
    fun hs hsub f hf hall => ?_⟩
  obtain ⟨p, hp, rfl⟩ := List.mem_map.mp (hfs ▸ hf)
  refine shown_eq (hsend p hp) fun g => ⟨fun hg => ?_, fun hg => ?_⟩
  · obtain ⟨hg, hno⟩ := hg
    obtain ⟨q, hq, hgq⟩ := List.mem_flatMap.mp (hsub g hg)
    have hsame := (packets_header (hsend q hq) hgq).1.symm.trans hno
    rwa [picture_unique hnumbers (by omega) hp hq hsame.symm]
  · have hno := (packets_header (hsend p hp) hg).1
    exact ⟨hall g (List.mem_flatMap.mpr ⟨p, hp, hg⟩) hno, hno⟩

def sampleFilm : AnnexB where
  units := [⟨.long, [0x67, 0x4d], by decide, by decide, by decide⟩,
    ⟨.long, [0x65, 0xb8], by decide, by decide, by decide⟩,
    ⟨.short, [0x65, 0x9b], by decide, by decide, by decide⟩]
  nonempty := by simp
  fits := fun _ hin _ => (length_stream_le hin).trans (by decide)

def sampleMoment : Moment where
  dev := setDeviceStatus .talking (initParamTask sampleBoot).dev
  ip := dotted sampleHost
  nowTime := 0
  out := fun _ => 0
  talk := TalkData1.read (fun _ => 0) 0

theorem film_transported : ∃ s,
    Leads Streamer.goesOn Streamer.round
      (userMain (stream sampleFilm.units) (stream sampleFilm.units)) s ∧
    s.sent.flatMap SentFrame.data = stream sampleFilm.units ∧
    (∀ f ∈ s.sent, SendVideoReturns (f.call sampleMoment) f.frameType.toNat sampleMoment.dev
      (sampleMoment.dev, (packets (f, sampleMoment)).map Event.send) ↔ f.frameType = 5) ∧
    ∃ gs, transmitted (s.sent.map fun f => (f, sampleMoment)) = some gs ∧
      ∀ f ∈ s.sent, shown gs f.frameNum = f.data := by
  obtain ⟨s, hleads, hwhole, hfs⟩ := stream_transported sampleFilm
    (by unfold slicesLast; decide) (by decide)
  obtain ⟨hret, gs, hgs, hshown⟩ := hfs (s.sent.map fun f => (f, sampleMoment))
    (by rw [List.map_map]; exact List.map_id _) fun p hp => by
    obtain ⟨f, -, rfl⟩ := List.mem_map.mp hp
    exact CallStatus.noConfusion
  exact ⟨s, hleads, hwhole, fun f hf => hret (f, sampleMoment) (List.mem_map_of_mem hf), gs, hgs,
    fun f hf => hshown gs (fun _ hg => hg) f hf fun _ hg _ => hg⟩

end QsaTalk
