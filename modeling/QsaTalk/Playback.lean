import QsaTalk.Outbound

/-! Media over the wire. Both encoders put a `talkdata1` behind the same nine bytes; the receiving
loop tells them apart by the low byte of the type, and hands audio on as it was given. -/
namespace QsaTalk
open ByteBuffer
variable {d : Device} {c : MediaCall} {s : System}

def mediaBytes (t : TalkData1) (payload : List UInt8) : List UInt8 :=
  (udpPackageHead ++ [videoTalk, 1, callUp]) ++ (t.bytes ++ payload)

theorem length_mediaBytes (t : TalkData1) (payload : List UInt8) :
    (mediaBytes t payload).length = 77 + payload.length := by
  have hsize : (t.bytes ++ payload).length = 68 + payload.length := by
    rw [List.length_append, t.length_bytes, sizeofTalkData1]
  rw [mediaBytes, List.length_append, hsize, ← Nat.add_assoc]
  rfl

section Received
variable {t : TalkData1} {payload : List UInt8} (buff : Buf) (hfit : 77 + payload.length ≤ 8095)
include hfit

/-- What is received stands in the buffer as it was sent. -/
theorem receive_media {k : Nat} (hk : k < 77 + payload.length) :
    receive buff (mediaBytes t payload) k = ofList (mediaBytes t payload) k := by
  rw [← length_mediaBytes t] at hfit hk
  have hv := List.getElem?_eq_getElem hk
  rw [receive_byte buff hfit hv, ofList, hv, Option.getD_some]

theorem media_task : videoTask (receive buff (mediaBytes t payload))
    (received (mediaBytes t payload)).length = some .callUpDown := by
  have hb {k : Nat} (hk : k < 9) : receive buff (mediaBytes t payload) k =
      ofList (udpPackageHead ++ [videoTalk, 1, callUp]) k := by
    rw [receive_media buff hfit (by omega), mediaBytes, ofList, ofList, List.getElem?_append_left]
    exact hk
  have hpackage : isPackage (receive buff (mediaBytes t payload)) := fun i => by
    rw [hb (by omega)]
    revert i
    decide
  rw [videoTask, if_pos hpackage, hb (by decide), hb (by decide), hb (by decide)]
  rfl

theorem media_not_exit : isExit (receive buff (mediaBytes t payload)) = false := by
  have h0 : receive buff (mediaBytes t payload) 0 = 81 := receive_media buff hfit (by omega)
  rw [isExit, h0]
  rfl

theorem media_type : receive buff (mediaBytes t payload) 61 = UInt8.ofNat t.dataType.toNat := by
  have hlen : 5 < t.fields.length := Nat.lt_of_lt_of_eq (by decide : 5 < 12) rfl
  have hfield : slice (ofList (mediaBytes t payload)) 61 2 = le16 t.dataType := by
    rw [mediaBytes, t.bytes_fields]
    exact slice_field (udpPackageHead ++ [videoTalk, 1, callUp]) payload t.fields hlen
  have hbyte := getElem?_of_slice hfield 0 (by decide)
  rw [receive_media buff hfit (by omega)]
  exact (Option.some.inj hbyte).symm

theorem media_datalen :
    (TalkData1.read (receive buff (mediaBytes t payload)) 9).datalen = t.datalen := by
  have hread := (t.read_bytes (udpPackageHead ++ [videoTalk, 1, callUp]) payload).datalen
  rw [← hread]
  change read16 _ 73 = read16 _ 73
  rw [read16, read16, receive_media buff hfit (by omega), receive_media buff hfit (by omega)]
  rfl

theorem media_payload :
    slice (receive buff (mediaBytes t payload)) (9 + sizeofTalkData1) payload.length = payload := by
  have hpre : ((udpPackageHead ++ [videoTalk, 1, callUp]) ++ t.bytes).length =
      9 + sizeofTalkData1 := by
    rw [List.length_append, t.length_bytes]
    rfl
  have hrest := slice_ofList ((udpPackageHead ++ [videoTalk, 1, callUp]) ++ t.bytes) payload []
  rw [hpre, List.append_nil, List.append_assoc] at hrest
  refine (slice_congr fun k hk => ?_).trans hrest
  refine receive_media buff hfit ?_
  rw [sizeofTalkData1]
  omega

end Received

def System.heard (s : System) (bytes : List UInt8) : System :=
  { s with
    videoBuff := receive s.videoBuff bytes
    videoRcv := s.udpRecvFlag }

theorem step_media {t : TalkData1} {payload : List UInt8} (hr : s.videoRcv = true)
    (hfit : 77 + payload.length ≤ 8095) (src : IP4) (sendB : Buf) :
    s.step (.recvVideo src (mediaBytes t payload) sendB) = some (s.heard (mediaBytes t payload),
      if s.dev.status = .talking ∧ UInt8.ofNat t.dataType.toNat = 1
        then [.audioData (slice (receive s.videoBuff (mediaBytes t payload)) (9 + sizeofTalkData1)
          t.datalen.toNat) t.datalen.toNat 0]
        else []) := by
  have hrun : recvTalkCallUpDownTask (receive s.videoBuff (mediaBytes t payload)) s.dev = (s.dev,
      if s.dev.status = .talking ∧ UInt8.ofNat t.dataType.toNat = 1
        then [.audioData (slice (receive s.videoBuff (mediaBytes t payload)) (9 + sizeofTalkData1)
          t.datalen.toNat) t.datalen.toNat 0]
        else []) := by
    rw [recvTalkCallUpDownTask, media_type s.videoBuff hfit, media_datalen s.videoBuff hfit]
    by_cases hs : s.dev.status = .talking
    · by_cases ht : UInt8.ofNat t.dataType.toNat = 1
      · rw [if_pos hs, if_pos ht, if_pos ⟨hs, ht⟩]
      · rw [if_pos hs, if_neg ht, if_neg fun h => ht h.2]
    · rw [if_neg hs, if_neg fun h => hs h.1]
  rw [step_recvVideo hr, udpVideoRcv, media_task s.videoBuff hfit, media_not_exit s.videoBuff hfit]
  change some (({ s with
    dev := (recvTalkCallUpDownTask (receive s.videoBuff (mediaBytes t payload)) s.dev).1
    videoBuff := _
    udpRecvFlag := s.udpRecvFlag && true
    videoRcv := s.udpRecvFlag && true } : System),
      (recvTalkCallUpDownTask (receive s.videoBuff (mediaBytes t payload)) s.dev).2) = _
  rw [hrun, Bool.and_true]
  rfl

theorem audioPacket_media (ht : d.status = .talking) :
    (audioPacket d c).bytes = mediaBytes (audioHeader d c) (frame c) := by
  rw [audioPacket, if_pos ht, mediaBytes]
  simp only [List.append_assoc]
  rfl

theorem videoPacket_media (d : Device) (c : MediaCall) (frameType : Int) (j : Nat) :
    (packetOf d c (videoHead c) (videoHeader d c frameType) j).bytes =
      mediaBytes (headerOf c (videoHeader d c frameType) j)
        (payloadOf c (videoHeader d c frameType) j) := by
  rw [packetOf, videoHead, mediaHead_bytes, mediaBytes]
  rfl

/-- The type a video packet carries is never that of audio. -/
theorem video_type (d : Device) (c : MediaCall) (frameType : Int) (j : Nat) :
    UInt8.ofNat (headerOf c (videoHeader d c frameType) j).dataType.toNat ≠ 1 := by
  have htype : (headerOf c (videoHeader d c frameType) j).dataType =
      if frameType = 5 then 2 else 3 := rfl
  rw [htype]
  split <;> decide

theorem audio_heard (hd : d.status = .talking) (hf : c.fits) (hr : s.videoRcv = true)
    (hs : s.dev.status = .talking) : ∃ g, qsaSendAudio c d = some (d, [.send g]) ∧
      ∀ src sendB, s.step (.recvVideo src g.bytes sendB) =
        some (s.heard g.bytes, [.audioData (frame c) c.length.toNat 0]) := by
  have hn : d.status ≠ .null := by simp [hd]
  have hmax : c.length.toNat ≤ 1523 := by
    have := hf.2
    rw [sizeofAdpcmOut] at this
    omega
  have hlen : (audioHeader d c).datalen.toNat = c.length.toNat := by
    have hcast : UInt16.ofInt c.length = UInt16.ofInt (c.length.toNat : Int) := by
      rw [Int.toNat_of_nonneg hf.1]
    change (UInt16.ofInt c.length).toNat = _
    rw [hcast]
    exact toNat_ofInt16 (by omega)
  have hfit : 77 + (frame c).length ≤ 8095 := by
    rw [length_frame]
    omega
  refine ⟨audioPacket d c, sendAudio_packet hn hf, fun src sendB => ?_⟩
  have hplay := media_payload (t := audioHeader d c) s.videoBuff hfit
  rw [length_frame] at hplay
  rw [audioPacket_media hd, step_media hr hfit, if_pos ⟨hs, rfl⟩, hlen, hplay]

theorem video_unheard {frameType : Int} {r : Outcome} {g : Datagram}
    (h : qsaSendVideo c frameType d = some r) (hg : g ∈ sends r.2) (hr : s.videoRcv = true)
    (src : IP4) (sendB : Buf) :
    s.step (.recvVideo src g.bytes sendB) = some (s.heard g.bytes, []) := by
  by_cases hn : d.status = .null
  · rw [qsaSendVideo, if_pos hn] at h
    split at h
    · simp at h
    · obtain rfl := Option.some.inj h
      simp [Event.sent] at hg
  rw [sendVideo_eq hn] at h
  split at h
  swap
  · simp at h
  obtain rfl := Option.some.inj h
  rw [sends_map_send, videoPackets, List.mem_map] at hg
  obtain ⟨j, -, rfl⟩ := hg
  have hfit : 77 + (payloadOf c (videoHeader d c frameType) j).length ≤ 8095 := by
    have hp := (pieceLen_bounds d.status).2
    have hlen : (videoHeader d c frameType).packLen.toNat = pieceLen d.status := videoPackLen_toNat _
    rw [length_payloadOf, hlen]
    omega
  rw [videoPacket_media, step_media hr hfit, if_neg fun h => video_type d c frameType j h.2]

/-- Audio survives the wire, and video is never played as audio. -/
theorem audio_survives :
    (∀ (c : MediaCall) (d : Device) (s : System), d.status = .talking → 0 ≤ c.length →
      77 + c.length ≤ 1600 → s.videoRcv = true → s.dev.status = .talking →
        ∃ g, qsaSendAudio c d = some (d, [.send g]) ∧
          ∀ src sendB, s.step (.recvVideo src g.bytes sendB) =
            some (s.heard g.bytes,
              [.audioData (slice c.data 0 c.length.toNat) c.length.toNat 0])) ∧
    ∀ (c : MediaCall) (frameType : Int) (d : Device) (r : Outcome) (g : Datagram) (s : System),
      qsaSendVideo c frameType d = some r → g ∈ sends r.2 → s.videoRcv = true →
        ∀ src sendB, s.step (.recvVideo src g.bytes sendB) = some (s.heard g.bytes, []) :=
  ⟨fun _ _ _ hd h0 hfit hr hs => audio_heard hd ⟨h0, hfit⟩ hr hs,
    fun _ _ _ _ _ _ h hg hr src sendB => video_unheard h hg hr src sendB⟩

/-! A talk, in which the device hears itself. -/

def started : Execution sampleBoot :=
  execute sampleBoot (answeredActions ++ [sampleRecv ask callStart sampleHost]) (by decide +kernel)

theorem started_talking : started.final.dev.status = .talking := by decide +kernel

theorem started_packet : qsaSendVideo sampleSound 5 started.final.dev = some (started.final.dev,
    [.send (packetOf started.final.dev sampleSound (videoHead sampleSound)
      (videoHeader started.final.dev sampleSound 5) 1)]) := by
  have hn : started.final.dev.status ≠ .null := by simp [started_talking]
  have hone : packetCount started.final.dev sampleSound = 1 := by
    rw [packetCount, started_talking]
    decide
  rw [sendVideo_eq hn, if_pos (by decide), videoPackets, hone]
  rfl

theorem started_hears : ∃ g g',
    qsaSendAudio sampleSound started.final.dev = some (started.final.dev, [.send g]) ∧
    started.final.step (.recvVideo sampleHost g.bytes fun _ => 0) =
      some (started.final.heard g.bytes, [.audioData [9] 1 0]) ∧
    qsaSendVideo sampleSound 5 started.final.dev = some (started.final.dev, [.send g']) ∧
    started.final.step (.recvVideo sampleHost g'.bytes fun _ => 0) =
      some (started.final.heard g'.bytes, []) := by
  have hr : started.final.videoRcv = true := by decide +kernel
  obtain ⟨g, hg, hplay⟩ := audio_survives.1 sampleSound started.final.dev started.final
    started_talking (by decide) (by decide) hr started_talking
  have hquiet := audio_survives.2 sampleSound 5 started.final.dev _ _ started.final started_packet
    (List.mem_singleton_self _) hr
  exact ⟨g, _, hg, hplay sampleHost _, started_packet, hquiet sampleHost _⟩

end QsaTalk
