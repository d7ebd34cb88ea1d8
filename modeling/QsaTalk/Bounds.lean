import QsaTalk.Lib.Stores
import QsaTalk.Messages
import QsaTalk.HandlerSpecs

/-! How far the requests of an application reach into memory: the frame that `qsa_send_audio` builds
in `adpcm_out`, the message that `send_info` builds in a slot, and the address text that `find_ip`
copies from. -/
namespace QsaTalk
open ByteBuffer SlotTable Stores
variable {d : Device} {c : MediaCall} {addr addr' : Buf} {uFlag : Int}

def audioStores (d : Device) (c : MediaCall) : List Store :=
  if d.status = .null then []
  else
    [⟨0, udpPackageHead⟩, ⟨6, [videoTalk]⟩, ⟨7, [1]⟩] ++
      (if d.status = .talking then [⟨8, [callUp]⟩] else []) ++
      [⟨9, (audioHeader d c).bytes⟩, ⟨9 + sizeofTalkData1, frame c⟩]

def messageStores (d : Device) (data : Buf) (info : SendInfo) : List Store :=
  if d.freeSlot = none then []
  else
    [⟨0, udpPackageHead⟩, ⟨6, [sendMessage]⟩, ⟨7, [ask]⟩, ⟨8, slice d.localConfig.address 0 20⟩,
      ⟨28, slice (d.remoteInfo.addr 0) 0 20⟩, ⟨48, slice d.localConfig.mac 0 6⟩,
      ⟨54, [UInt8.ofInt info.uFlag]⟩, ⟨55, slice info.title 0 16⟩, ⟨71, List.replicate 14 0⟩,
      ⟨72, [1]⟩, ⟨73, [UInt8.ofInt (info.length / 2 ^ 8)]⟩, ⟨74, [UInt8.ofInt info.length]⟩,
      ⟨78, [1]⟩, ⟨80, [1]⟩, ⟨81, [UInt8.ofInt (info.length / 2 ^ 8)]⟩,
      ⟨82, [UInt8.ofInt info.length]⟩, ⟨83, [UInt8.ofNat (1200 / 2 ^ 8)]⟩,
      ⟨84, [UInt8.ofNat 1200]⟩, ⟨85, slice data 0 info.length.toNat⟩]

/-- The reads of `find_ip` from `addr`: four characters for the query, then twenty for
`remote_info` once a slot is found. -/
def addrReads (d : Device) (uFlag : Int) : List Range :=
  if d.status = .null ∧ uFlag = 0 then
    ⟨0, 4⟩ :: if d.freeSlot = none then [] else [⟨0, 20⟩]
  else []

inductive Request where
  | audio (c : MediaCall) (length : Nat)
  | message (data : Buf) (info : SendInfo) (length : Nat)
  | query (addr : Buf) (uFlag : Int)

def sizeofAddr : Nat := 5

/-- The object a request works on: its size, and the ranges of it that are copied. -/
def Request.copies (d : Device) : Request → Nat × List Range
  | .audio c n => (sizeofAdpcmOut, (audioStores d { c with length := n }).map Store.range)
  | .message data info n =>
    (sizeofBuf, (messageStores (d.address info) data { info with length := n }).map Store.range)
  | .query _ uFlag => (sizeofAddr, addrReads d uFlag)

def Request.Held (d : Device) (r : Request) : Prop := ∀ a ∈ (r.copies d).2, a.Inside (r.copies d).1

instance (d : Device) (r : Request) : Decidable (r.Held d) := inferInstanceAs (Decidable (∀ _ ∈ _, _))

/-! The model writes and reads just there. -/

/-- The buffer that goes out is the old one with these copies. -/
theorem sendAudio_stores (hs : d.status ≠ .null) (c : MediaCall) : qsaSendAudio c d =
    if c.fits then
      some (d, [udpSendBuff d.videoSocket c.ip remoteVideoPort (stores c.out (audioStores d c))
        (9 + sizeofTalkData1 + c.length.toNat)])
    else none := by
  by_cases hf : c.fits
  · have hcopy (b : Buf) : memcpy sizeofAdpcmOut b (9 + sizeofTalkData1) c.data c.length =
        some (blit b (9 + sizeofTalkData1) (frame c)) := if_pos hf
    have hout : blit (blit (if d.status = .talking then put (mediaHead c.out) 8 callUp
        else mediaHead c.out) 9 (audioHeader d c).bytes) (9 + sizeofTalkData1) (frame c) =
          stores c.out (audioStores d c) := by
      rw [audioStores, if_neg hs]
      by_cases ht : d.status = .talking <;> simp [ht, stores, blit_one, mediaHead]
    rw [if_pos hf, ← hout, qsaSendAudio, if_neg hs]
    dsimp only
    rw [hcopy]
    rfl
  · rw [if_neg hf]
    exact sendAudio_undefined hs hf

theorem messageSlot_stores (hf : d.freeSlot ≠ none) (data : Buf) (info : SendInfo)
    (m : MultiUdpBuff1) : (messageSlot d data info m).map MultiUdpBuff1.buf =
      if 0 ≤ info.length ∧ 85 + info.length ≤ sizeofBuf then
        some (stores m.buf (messageStores d data info)) else none := by
  have hbuf : blit (messageHeader d info m.buf) 85 (slice data 0 info.length.toNat) =
      stores m.buf (messageStores d data info) := by
    rw [messageStores, if_neg hf]
    simp only [stores, blit_one, List.foldl_cons, List.foldl_nil]
    rfl
  rw [← hbuf, messageSlot, memcpy]
  by_cases hn : 0 ≤ info.length ∧ 85 + info.length ≤ sizeofBuf
  · rw [if_pos hn, if_pos (by exact hn)]
    rfl
  · rw [if_neg hn, if_neg (by exact hn)]
    rfl

/-- What lies outside the ranges that `find_ip` reads makes no difference to it. -/
theorem findIp_reads (h : ∀ r ∈ addrReads d uFlag, ∀ k, r.offset ≤ k → k < r.offset + r.count →
    addr k = addr' k) : findIp (some addr) uFlag d = findIp (some addr') uFlag d := by
  by_cases hq : d.status = .null ∧ uFlag = 0
  · rw [addrReads, if_pos hq] at h
    obtain ⟨hs, rfl⟩ := hq
    cases hf : d.freeSlot with
    | none => rw [findIp_full hs hf, findIp_full hs hf]
    | some i =>
      have hnum : slice addr 0 4 = slice addr' 0 4 := slice_eq_of_range (h ⟨0, 4⟩ (by simp))
      have htext : slice addr 0 20 = slice addr' 0 20 :=
        slice_eq_of_range (h ⟨0, 20⟩ (by simp [hf]))
      rw [findIp_queued hs hf, findIp_queued hs hf, Device.seek, Device.seek, htext, querySlot,
        querySlot, hnum]
  · rw [findIp_refused fun hc => hq hc.2, findIp_refused fun hc => hq hc.2]

/-! How much fits. -/

/-- The sizes that the two buffers have room for behind their headers. A query is harmless only
where it copies no twenty characters. -/
def Request.fits (d : Device) : Request → Prop
  | .audio _ n => d.status = .null ∨ n ≤ 1523
  | .message _ _ n => d.freeSlot = none ∨ n ≤ 1415
  | .query _ uFlag => ¬(d.status = .null ∧ uFlag = 0 ∧ d.freeSlot ≠ none)

instance (d : Device) : (r : Request) → Decidable (r.fits d)
  | .audio _ _ | .message _ _ _ | .query _ _ => by unfold Request.fits; infer_instance

theorem audio_held_iff (d : Device) (c : MediaCall) (n : Nat) :
    (Request.audio c n).Held d ↔ (Request.audio c n).fits d := by
  have hhead := (audioHeader d { c with length := n }).length_bytes
  have hdata : (frame { c with length := n }).length = n := length_frame _
  by_cases hs : d.status = .null
  · simp [Request.Held, Request.copies, Request.fits, audioStores, hs]
  · have hmagic : udpPackageHead.length ≤ 1600 := by decide
    by_cases ht : d.status = .talking <;>
      simp [Request.Held, Request.copies, Request.fits, audioStores, hs, ht, Store.range,
        Range.Inside, hhead, hdata, sizeofAdpcmOut, sizeofTalkData1] <;> omega

theorem message_held_iff (d : Device) (data : Buf) (info : SendInfo) (n : Nat) :
    (Request.message data info n).Held d ↔ (Request.message data info n).fits d := by
  have hfree : (d.address info).freeSlot = d.freeSlot := freeSlot_congr (address_multiUdpBuff ..)
  by_cases hf : d.freeSlot = none
  · simp [Request.Held, Request.copies, Request.fits, messageStores, hfree, hf]
  · have hmagic : udpPackageHead.length ≤ 1500 := by decide
    simp [Request.Held, Request.copies, Request.fits, messageStores, hfree, hf, Store.range,
      Range.Inside, sizeofBuf, length_slice]
    omega

theorem query_held_iff (d : Device) (addr : Buf) (uFlag : Int) :
    (Request.query addr uFlag).Held d ↔ (Request.query addr uFlag).fits d := by
  by_cases hq : d.status = .null ∧ uFlag = 0
  · by_cases hf : d.freeSlot = none <;>
      simp [Request.Held, Request.copies, Request.fits, addrReads, hq, hf, Range.Inside, sizeofAddr]
  · have hn : ¬(d.status = .null ∧ uFlag = 0 ∧ d.freeSlot ≠ none) := fun h => hq ⟨h.1, h.2.1⟩
    simp [Request.Held, Request.copies, Request.fits, addrReads, hq, hn]

/-- Copies stay inside their objects just for the requests that fit. -/
theorem held_iff_fits (d : Device) (r : Request) : r.Held d ↔ r.fits d := by
  cases r with
  | audio c n => exact audio_held_iff d c n
  | message data info n => exact message_held_iff d data info n
  | query addr uFlag => exact query_held_iff d addr uFlag

/-- A block one byte over, a message one byte over, and any room number asked for while idle. -/
theorem copies_escape :
    ¬(Request.audio { sampleFrame with data := fun _ => 0 } 1524).Held sampleTalker ∧
      ¬(Request.message (fun _ => 0) ⟨dotted sampleHost, fun _ => 0x31, fun _ => 0, 0, 8400, 2⟩
        1416).Held sampleTalker ∧
      ¬(Request.query (ofList [0x30, 0x31, 0x30, 0x32, 0]) 0).Held (bootDevice sampleBoot) := by
  rw [audio_held_iff, message_held_iff, query_held_iff]
  decide

/-- What stands behind `adpcm_out` is as before when the request fits. -/
theorem audio_beyond {n : Nat} (h : (Request.audio c n).Held d) {k : Nat} (hk : sizeofAdpcmOut ≤ k) :
    stores c.out (audioStores d { c with length := n }) k = c.out k :=
  stores_beyond (fun _ hs => h _ (List.mem_map_of_mem hs)) hk

theorem message_beyond {data old : Buf} {info : SendInfo} {n : Nat}
    (h : (Request.message data info n).Held d) {k : Nat} (hk : sizeofBuf ≤ k) :
    stores old (messageStores (d.address info) data { info with length := n }) k = old k :=
  stores_beyond (fun _ hs => h _ (List.mem_map_of_mem hs)) hk

end QsaTalk
