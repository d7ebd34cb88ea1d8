import Mathlib.Data.List.DropRight
import QsaTalk.Nalu

/-! `user_main` of `TestDemo/nalu.c`: two copies of a stream are read in step. The one is taken
apart into units, only to know how many bytes of the other make the next frame. -/
namespace QsaTalk
open ByteBuffer ByteFile Loops StartCodes

def sizeofFramebuffer : Nat := 1024 * 2000

structure SentFrame where
  data : List UInt8
  frameNum : Nat
  frameType : UInt8

/-- The variables of `user_main`; `ts_length` is static and starts at 0. -/
structure Streamer where
  bits : File
  bits1 : File
  nalu : NALU
  tsLength : Nat
  wLength : Nat
  count : Nat
  sendflag : Bool
  framebuffer : Buf
  sent : List SentFrame

def isSlice (naluType : UInt8) : Bool := naluType == 5 || naluType == 1

def Streamer.readFrame (s : Streamer) : Option Streamer :=
  if s.bits1.eof then some { s with wLength := 0 }
  else
    let (bytes, bits1) := s.bits1.fread s.tsLength
    if bytes.length ≤ sizeofFramebuffer then
      some { s with
        bits1 := bits1
        wLength := bytes.length
        count := s.count + 1
        framebuffer := blit s.framebuffer 0 bytes }
    else none

/-- The block under `if (w_length != 0)`, with `qsa_send_video` taken to return. -/
def Streamer.sendFrame (s : Streamer) : Streamer :=
  if s.wLength ≠ 0 then
    { s with
      sent := s.sent ++ [⟨slice s.framebuffer 0 s.wLength, s.count, s.nalu.nalUnitType⟩]
      tsLength := 0
      sendflag := false }
  else s

def Streamer.round (s : Streamer) : Option Streamer :=
  match getAnnexbNALU s.nalu s.bits with
  | none => none
  | some (_, n, bits) =>
    let s := { s with
      nalu := n
      bits := bits
      tsLength := s.tsLength + n.startcodeprefixLen + n.len
      sendflag := s.sendflag || isSlice n.nalUnitType }
    if s.sendflag then s.readFrame.map Streamer.sendFrame else some s.sendFrame

def Streamer.goesOn (s : Streamer) : Bool := !s.bits.eof

def userMain (data data1 : List UInt8) : Streamer where
  bits := File.opened data
  bits1 := File.opened data1
  nalu := allocNALU 0x8000000
  tsLength := 0
  wLength := 0
  count := 0
  sendflag := false
  framebuffer := fun _ => 0
  sent := []

/-! What it is for. -/

def naluType (bytes : List UInt8) : UInt8 := bytes.headD 0 &&& 0x1f

def endsPicture (u : CodedUnit) : Bool := isSlice (naluType u.bytes)

/-- Parameter sets and the like, perhaps with the slice they belong to. -/
def accessChunk (us : List CodedUnit) : Prop := ∀ u ∈ us.dropLast, endsPicture u = false

structure AnnexB where
  units : List CodedUnit
  nonempty : units ≠ []
  fits : ∀ us, us <:+: units → accessChunk us → (stream us).length ≤ sizeofFramebuffer

/-- The stream is sent up to its last slice, a slice at the end of each frame. -/
structure Streams (us : List CodedUnit) (sent : List SentFrame) : Prop where
  whole : sent.flatMap SentFrame.data = stream (us.rdropWhile fun u => !endsPicture u)
  each : ∀ k f, sent[k]? = some f → ∃ pre u, pre ++ [u] <+: us ∧ endsPicture u = true ∧
    (sent.take (k + 1)).flatMap SentFrame.data = stream (pre ++ [u]) ∧
    f.frameType = naluType u.bytes

/-- After some units: `done` has been sent, `pending` is counted in `ts_length` only. -/
structure Streamer.At (s : Streamer) (us done pending rest : List CodedUnit) : Prop where
  units : done ++ (pending ++ rest) = us
  bits : s.bits = leftOver (stream (done ++ pending)) (stream rest)
  bits1 : s.bits1 = reading (stream done) (stream (pending ++ rest))
  maxSize : s.nalu.maxSize = 0x8000000
  tsLength : s.tsLength = (stream pending).length
  sendflag : s.sendflag = false
  lead : ∀ u ∈ pending, endsPicture u = false
  last : done = [] ∨ ∃ pre u, done = pre ++ [u] ∧ endsPicture u = true
  sent : s.sent.flatMap SentFrame.data = stream done
  each : ∀ k f, s.sent[k]? = some f → ∃ pre u, pre ++ [u] <+: done ∧ endsPicture u = true ∧
    (s.sent.take (k + 1)).flatMap SentFrame.data = stream (pre ++ [u]) ∧
    f.frameType = naluType u.bytes

variable {s t : Streamer} {us done pending rest : List CodedUnit} {u : CodedUnit}

theorem carries_type {n : NALU} {c : StartCode} (h : n.Carries c u.bytes) :
    n.nalUnitType = naluType u.bytes := by
  have hb := h.bytes
  rw [h.type, naluType]
  cases hu : u.bytes with
  | nil => exact absurd hu u.nonempty
  | cons b bs =>
    rw [hu] at hb
    have h0 := getElem?_of_slice hb 0 (by simp)
    simp at h0
    rw [List.headD_cons, h0]

/-- The call that takes the next unit off the first file. -/
theorem Streamer.At.call (h : s.At us done pending (u :: rest))
    (hu : u.coded.length ≤ sizeofFramebuffer) :
    ∃ r n, getAnnexbNALU s.nalu s.bits =
        some (r, n, leftOver (stream (done ++ (pending ++ [u]))) (stream rest)) ∧
      n.Carries u.code u.bytes ∧ n.maxSize = 0x8000000 := by
  have hlen : u.coded.length = u.code.bytes.length + u.bytes.length := List.length_append
  have hroom : u.code.bytes.length + u.bytes.length + min 4 (stream rest).length <
      s.nalu.maxSize := by
    rw [h.maxSize, ← hlen]
    unfold sizeofFramebuffer at hu
    omega
  obtain ⟨n, hn, hcar, hmax⟩ := getAnnexbNALU_spec (stream (done ++ pending)) (cut_stream u rest) hroom
  have hbits : s.bits = reading (stream (done ++ pending))
      (u.code.bytes ++ (u.bytes ++ stream rest)) := by
    rw [h.bits, leftOver, if_neg (stream_cons_ne_nil u rest), stream_cons, CodedUnit.coded, List.append_assoc]
  have hdone : stream (done ++ pending) ++ u.code.bytes ++ u.bytes =
      stream (done ++ (pending ++ [u])) := by
    rw [← List.append_assoc, stream_concat, CodedUnit.coded, List.append_assoc]
  rw [hbits, hn, hdone]
  exact ⟨_, n, rfl, hcar, hmax.trans h.maxSize⟩

/-- A unit in front of the first slice is counted. -/
theorem Streamer.At.counted (h : s.At us done pending (u :: rest))
    (hu : u.coded.length ≤ sizeofFramebuffer) (hs : endsPicture u = false) (hw : s.wLength = 0) :
    ∃ t, s.round = some t ∧ t.At us done (pending ++ [u]) rest ∧ t.wLength = 0 := by
  obtain ⟨r, n, hn, hcar, hmax⟩ := h.call hu
  have htype : isSlice n.nalUnitType = false := by rw [carries_type hcar]; exact hs
  refine ⟨{ s with
      nalu := n
      bits := leftOver (stream (done ++ (pending ++ [u]))) (stream rest)
      tsLength := s.tsLength + n.startcodeprefixLen + n.len }, ?_, ?_, hw⟩
  · rw [Streamer.round, hn]
    simp only [h.sendflag, htype, Streamer.sendFrame, hw]
    rfl
  · refine ⟨by rw [← h.units]; simp, rfl, by rw [h.bits1]; simp, hmax, ?_, h.sendflag, ?_, h.last,
      h.sent, h.each⟩
    · dsimp only
      rw [hcar.code, hcar.len, h.tsLength, stream_concat, List.length_append, CodedUnit.coded,
        List.length_append]
      omega
    · intro v hv
      cases List.mem_append.mp hv with
      | inl hv => exact h.lead v hv
      | inr hv => rw [List.mem_singleton.mp hv]; exact hs

/-- A slice sends everything counted so far, and itself. -/
theorem Streamer.At.flushed (h : s.At us done pending (u :: rest))
    (hu : (stream (pending ++ [u])).length ≤ sizeofFramebuffer) (hs : endsPicture u = true) :
    ∃ t, s.round = some t ∧ t.At us (done ++ (pending ++ [u])) [] rest ∧ t.wLength ≠ 0 := by
  have hsplit := stream_concat pending u
  obtain ⟨r, n, hn, hcar, hmax⟩ := h.call (by rw [hsplit, List.length_append] at hu; omega)
  have htype : isSlice (naluType u.bytes) = true := hs
  have hlen : s.tsLength + n.startcodeprefixLen + n.len = (stream (pending ++ [u])).length := by
    rw [hcar.code, hcar.len, h.tsLength, hsplit, List.length_append, CodedUnit.coded,
      List.length_append]
    omega
  have hpos : (stream (pending ++ [u])).length ≠ 0 := by
    rw [hsplit, List.length_append, CodedUnit.coded, List.length_append]
    cases u.code <;> simp [StartCode.bytes]
  have hread : s.bits1.fread (stream (pending ++ [u])).length =
      (stream (pending ++ [u]), reading (stream (done ++ (pending ++ [u]))) (stream rest)) := by
    have hfile : stream (pending ++ u :: rest) = stream (pending ++ [u]) ++ stream rest := by
      rw [← stream_append]
      simp
    rw [h.bits1, hfile, fread_append rfl, stream_append done]
  have hbits1 : s.bits1.eof = false := by rw [h.bits1]; rfl
  have hdone : stream (done ++ (pending ++ [u])) = stream done ++ stream (pending ++ [u]) :=
    stream_append _ _
  have hround : s.round = some { s with
      nalu := n
      bits := leftOver (stream (done ++ (pending ++ [u]))) (stream rest)
      bits1 := reading (stream (done ++ (pending ++ [u]))) (stream rest)
      tsLength := 0
      wLength := (stream (pending ++ [u])).length
      count := s.count + 1
      sendflag := false
      framebuffer := blit s.framebuffer 0 (stream (pending ++ [u]))
      sent := s.sent ++ [⟨stream (pending ++ [u]), s.count + 1, naluType u.bytes⟩] } := by
    rw [Streamer.round, hn]
    simp only [h.sendflag, htype, hlen, Streamer.readFrame, hread, hbits1, if_pos hu, Bool.or_true,
      Bool.false_eq_true, if_true, if_false, Option.map_some, Streamer.sendFrame, ne_eq, hpos,
      not_false_eq_true, slice_blit, carries_type hcar]
  have hsent : (s.sent ++ [(⟨stream (pending ++ [u]), s.count + 1, naluType u.bytes⟩ : SentFrame)]).flatMap
      SentFrame.data = stream (done ++ (pending ++ [u])) := by
    rw [List.flatMap_append, h.sent, List.flatMap_singleton, hdone]
  refine ⟨_, hround, ⟨by rw [← h.units]; simp, by rw [List.append_nil], rfl, hmax, rfl, rfl, by simp,
    Or.inr ⟨done ++ pending, u, by simp, hs⟩, hsent, fun k f hk => ?_⟩, hpos⟩
  dsimp only at hk ⊢
  by_cases hlt : k < s.sent.length
  · rw [List.getElem?_append_left hlt] at hk
    obtain ⟨pre, v, hpre, hv, htake, hf⟩ := h.each k f hk
    refine ⟨pre, v, hpre.trans (List.prefix_append _ _), hv, ?_, hf⟩
    rw [List.take_append_of_le_length hlt, htake]
  · have hk' : k = s.sent.length := by
      have hb := (List.getElem?_eq_some_iff.mp hk).1
      rw [List.length_append, List.length_singleton] at hb
      omega
    subst hk'
    rw [List.getElem?_concat_length, Option.some.injEq] at hk
    refine ⟨done ++ pending, u, by simp, hs, ?_, by rw [← hk]⟩
    rw [List.take_of_length_le (by simp), hsent, List.append_assoc]

/-- A unit behind a slice sends the frame before it once more. -/
theorem Streamer.At.resent (h : s.At us done pending (u :: rest))
    (hu : u.coded.length ≤ sizeofFramebuffer) (hs : endsPicture u = false) (hw : s.wLength ≠ 0) :
    ∃ t f, s.round = some t ∧ t.sent = s.sent ++ [f] ∧ f.frameType = naluType u.bytes := by
  obtain ⟨r, n, hn, hcar, -⟩ := h.call hu
  have htype : isSlice n.nalUnitType = false := by rw [carries_type hcar]; exact hs
  have hround : s.round = some { s with
      nalu := n
      bits := leftOver (stream (done ++ (pending ++ [u]))) (stream rest)
      tsLength := 0
      sendflag := false
      sent := s.sent ++ [⟨slice s.framebuffer 0 s.wLength, s.count, n.nalUnitType⟩] } := by
    rw [Streamer.round, hn]
    simp only [h.sendflag, htype, Bool.or_false, Bool.false_eq_true, if_false, Streamer.sendFrame,
      if_pos hw]
  exact ⟨_, _, hround, rfl, carries_type hcar⟩

/-- What is sent stays sent. -/
theorem round_sent (h : s.round = some t) : s.sent <+: t.sent := by
  have hsend (s : Streamer) : s.sent <+: s.sendFrame.sent := by
    unfold Streamer.sendFrame
    split
    · exact List.prefix_append _ _
    · exact List.prefix_refl _
  have hread {s t : Streamer} (h : s.readFrame = some t) : t.sent = s.sent := by
    unfold Streamer.readFrame at h
    split at h
    · rw [← Option.some.inj h]
    · dsimp only at h
      split at h
      · rw [← Option.some.inj h]
      · simp at h
  unfold Streamer.round at h
  split at h
  · simp at h
  · dsimp only at h
    split at h
    · obtain ⟨u, hu, rfl⟩ := Option.map_eq_some_iff.mp h
      have hsame := hread hu
      dsimp only at hsame
      rw [← hsame]
      exact hsend u
    · rw [← Option.some.inj h, Streamer.sendFrame]
      split
      · exact List.prefix_append _ _
      · exact List.prefix_refl _

theorem leads_sent (h : Leads Streamer.goesOn Streamer.round s t) : s.sent <+: t.sent := by
  obtain ⟨n, hl⟩ := h
  exact hl.invariant (I := fun u => s.sent <+: u.sent) (List.prefix_refl _)
    fun u v hu _ hv => hu.trans (round_sent hv)

/-! The whole stream. -/

def slicesLast (us : List CodedUnit) : Prop :=
  us.Pairwise fun u v => endsPicture u = true → endsPicture v = true

/-- With all units taken, everything up to the last slice has been sent. -/
theorem Streamer.At.complete (h : s.At us done pending []) : Streams us s.sent := by
  have hus : us = done ++ pending := by rw [← h.units, List.append_nil]
  have hcut : (done ++ pending).rdropWhile (fun u => !endsPicture u) = done := by
    have hlead : ∀ us : List CodedUnit, (∀ u ∈ us, endsPicture u = false) →
        (done ++ us).rdropWhile (fun u => !endsPicture u) = done.rdropWhile fun u => !endsPicture u := by
      intro us
      induction us using List.reverseRecOn with
      | nil => simp
      | append_singleton us u ih =>
        intro hu
        have hlast : (!endsPicture u) = true := by simp [hu u (by simp)]
        rw [← List.append_assoc, List.rdropWhile_concat_pos (fun u => !endsPicture u) _ _ hlast]
        exact ih fun v hv => hu v (List.mem_append_left _ hv)
    rw [hlead pending h.lead]
    obtain hd | ⟨pre, u, hd, hu⟩ := h.last
    · rw [hd]
      rfl
    · have hlast : ¬(!endsPicture u) = true := by simp [hu]
      rw [hd, List.rdropWhile_concat_neg (fun u => !endsPicture u) _ _ hlast]
  refine ⟨by rw [h.sent, hus, hcut], fun k f hk => ?_⟩
  obtain ⟨pre, u, hpre, hu⟩ := h.each k f hk
  exact ⟨pre, u, hpre.trans (hus ▸ List.prefix_append _ _), hu⟩

/-- From the middle of a stream: what is still to come has its slices last, and none but slices if
a frame has been sent already. -/
theorem Streamer.At.streams_iff (h : s.At us done pending rest)
    (hfit : ∀ vs, vs <:+: us → accessChunk vs → (stream vs).length ≤ sizeofFramebuffer) :
    (∃ t, Leads Streamer.goesOn Streamer.round s t ∧ Streams us t.sent) ↔
      slicesLast rest ∧ (s.wLength ≠ 0 → ∀ u ∈ rest, endsPicture u = true) := by
  induction rest generalizing s done pending with
  | nil =>
    have hend : s.goesOn = false := by
      rw [Streamer.goesOn, Bool.not_eq_false', h.bits, leftOver_eof]
      rfl
    refine iff_of_true ⟨s, (leads_done hend).mpr rfl, h.complete⟩ ⟨List.Pairwise.nil, by simp⟩
  | cons u rest ih =>
    have hgoes : s.goesOn = true := by
      rw [Streamer.goesOn, Bool.not_eq_true', ← Bool.not_eq_true, h.bits, leftOver_eof]
      exact stream_cons_ne_nil u rest
    have hunit : u.coded.length ≤ sizeofFramebuffer := by
      have hin : [u] <:+: us := ⟨done ++ pending, rest, by rw [← h.units]; simp⟩
      simpa [stream] using hfit [u] hin (by simp [accessChunk])
    rw [slicesLast, List.pairwise_cons]
    cases hu : endsPicture u with
    | true =>
      have hchunk : accessChunk (pending ++ [u]) := by
        rw [accessChunk, List.dropLast_concat]
        exact h.lead
      have hin : pending ++ [u] <:+: us := ⟨done, rest, by rw [← h.units]; simp⟩
      obtain ⟨t, ht, hat, hw⟩ := h.flushed (hfit _ hin hchunk) hu
      simp only [leads_turn hgoes ht]
      rw [ih hat, slicesLast]
      constructor
      · rintro ⟨hp, hall⟩
        exact ⟨⟨fun v hv _ => hall hw v hv, hp⟩, fun _ v hv => by
          obtain rfl | hv := List.mem_cons.mp hv
          · exact hu
          · exact hall hw v hv⟩
      · rintro ⟨⟨hall, hp⟩, -⟩
        exact ⟨hp, fun _ v hv => hall v hv trivial⟩
    | false =>
      by_cases hw : s.wLength = 0
      · obtain ⟨t, ht, hat, hw'⟩ := h.counted hunit hu hw
        simp only [leads_turn hgoes ht]
        rw [ih hat, slicesLast]
        simp [hw, hw']
      · refine iff_of_false ?_ fun hc => by simpa [hu] using hc.2 hw u (by simp)
        rintro ⟨t, hl, hs⟩
        obtain ⟨v, f, hv, hsent, hf⟩ := h.resent hunit hu hw
        have hpre := leads_sent ((leads_turn hgoes hv).mp hl)
        rw [hsent] at hpre
        have hk : t.sent[s.sent.length]? = some f := by
          obtain ⟨us, hus⟩ := hpre
          rw [← hus]
          simp
        obtain ⟨pre, w, -, hw, -, hfw⟩ := hs.each _ f hk
        have hslice : endsPicture u = endsPicture w := by
          rw [endsPicture, endsPicture, ← hf, ← hfw]
        rw [hu, hw] at hslice
        exact Bool.false_ne_true hslice

theorem userMain_at (a : AnnexB) :
    (userMain (stream a.units) (stream a.units)).At a.units [] [] a.units := by
  have hne : stream a.units ≠ [] := by
    cases hu : a.units with
    | nil => exact absurd hu a.nonempty
    | cons u us => exact stream_cons_ne_nil u us
  refine ⟨rfl, ?_, rfl, rfl, rfl, rfl, by simp, Or.inl rfl, rfl, by simp [userMain]⟩
  simp only [userMain, File.opened, leftOver, if_neg hne]
  rfl

/-- The stream goes out whole and once just when nothing but slices comes after its first slice. -/
theorem streamed_iff (a : AnnexB) :
    (∃ s, Leads Streamer.goesOn Streamer.round (userMain (stream a.units) (stream a.units)) s ∧
      Streams a.units s.sent) ↔
    a.units.Pairwise fun u v => endsPicture u = true → endsPicture v = true := by
  rw [(userMain_at a).streams_iff a.fits, slicesLast]
  simp [userMain]

def samplePictures : AnnexB where
  units := [⟨.long, [0x67, 0x42], by decide, by decide, by decide⟩,
    ⟨.long, [0x65, 0x88], by decide, by decide, by decide⟩,
    ⟨.long, [0x67, 0x42], by decide, by decide, by decide⟩,
    ⟨.short, [0x41, 0x9a], by decide, by decide, by decide⟩]
  nonempty := by simp
  fits := fun _ hin _ => (length_stream_le hin).trans (by decide)

/-- The first picture goes out twice. -/
theorem picture_resent : ¬∃ s,
    Leads Streamer.goesOn Streamer.round
      (userMain (stream samplePictures.units) (stream samplePictures.units)) s ∧
    Streams samplePictures.units s.sent := by
  rw [(userMain_at samplePictures).streams_iff samplePictures.fits]
  unfold slicesLast
  decide

end QsaTalk
