import QsaTalk.Lib.Rtp
import QsaTalk.Nalu

/-! `TestDemo/new_nal.c`: a stream in RTP packets. Its `GetAnnexbNALU` is the one of `nalu.c` but
for the header bits at the end of the file, which it does not shift down. -/
namespace QsaTalk.NewNal
open ByteBuffer ByteFile Loops StartCodes Rtp

/-! `GetAnnexbNALU`. -/

def headed (n : NALU) : NALU :=
  { n with forbiddenBit := n.buf 0 &&& 0x80, nalReferenceIdc := n.buf 0 &&& 0x60 }

def finish (n : NALU) (s : Scan) : Option (Int × NALU × File) :=
  if s.startCodeFound then
    let rewind : Int := if s.info3 then -4 else -3
    match s.bits.fseekCur rewind, n.take s.buf (s.pos + rewind - n.startcodeprefixLen) with
    | some bits, some n => some (s.pos + rewind, headed n, bits)
    | _, _ => none
  else
    match n.take s.buf (s.pos - 1 - n.startcodeprefixLen) with
    | some n => some (s.pos - 1, headed n, s.bits)
    | none => none

def getUnit (n : NALU) (buf : Buf) (bits : File) : Option (Int × NALU × File) :=
  (run Scan.goesOn (scanByte n.maxSize) (bits.data.length + 1)
    ⟨n.startcodeprefixLen, buf, bits, false, false⟩).bind (finish n)

def getAnnexbNALU (n : NALU) (bits : File) : Option (Int × NALU × File) :=
  let n := { n with startcodeprefixLen := 3 }
  let (bytes, bits) := bits.fread 3
  match store n.maxSize (fun _ => 0) 0 bytes with
  | none => none
  | some buf =>
    if bytes.length ≠ 3 then some (0, n, bits)
    else if findStartCode2 buf 0 then getUnit n buf bits
    else
      let (byte, bits) := bits.fread 1
      match store n.maxSize buf 3 byte with
      | none => none
      | some buf =>
        if byte.length ≠ 1 then some (0, n, bits)
        else if findStartCode3 buf 0 then getUnit { n with startcodeprefixLen := 4 } buf bits
        else some (-1, n, bits)

theorem finish_eq (n : NALU) (s : Scan) :
    finish n s = (n.finish s).map fun r => (r.1, headed r.2.1, r.2.2) := by
  unfold finish NALU.finish
  split
  · dsimp only
    split <;> simp_all [headed]
  · split <;> simp_all [headed]

theorem getUnit_eq (n : NALU) (buf : Buf) (bits : File) :
    getUnit n buf bits = (QsaTalk.getUnit n buf bits).map fun r => (r.1, headed r.2.1, r.2.2) := by
  unfold getUnit QsaTalk.getUnit
  cases run Scan.goesOn (scanByte n.maxSize) (bits.data.length + 1)
    ⟨n.startcodeprefixLen, buf, bits, false, false⟩ with
  | none => rfl
  | some s => exact finish_eq n s

/-- A call that finds a unit finds the one the other copy of the function finds. -/
theorem getAnnexbNALU_of {n m : NALU} {bits f : File} {r : Int}
    (h : QsaTalk.getAnnexbNALU n bits = some (r, m, f)) (hr : 0 < r) :
    getAnnexbNALU n bits = some (r, headed m, f) := by
  unfold QsaTalk.getAnnexbNALU at h
  unfold getAnnexbNALU
  dsimp only at h ⊢
  obtain hb | ⟨buf, hb⟩ := (store n.maxSize (fun _ => 0) 0 (bits.fread 3).1).eq_none_or_eq_some
  · rw [hb] at h
    simp at h
  · rw [hb] at h ⊢
    dsimp only at h ⊢
    by_cases hl : (bits.fread 3).1.length ≠ 3
    · rw [if_pos hl] at h
      simp at h
      omega
    · rw [if_neg hl] at h ⊢
      by_cases h2 : findStartCode2 buf 0
      · rw [if_pos h2] at h ⊢
        rw [getUnit_eq, h]
        rfl
      · rw [if_neg h2] at h ⊢
        let rest := (bits.fread 3).2.fread 1
        obtain hb' | ⟨buf', hb'⟩ := (store n.maxSize buf 3 rest.1).eq_none_or_eq_some
        · rw [hb'] at h
          simp at h
        · rw [hb'] at h ⊢
          dsimp only at h ⊢
          by_cases hl' : rest.1.length ≠ 1
          · rw [if_pos hl'] at h
            simp at h
            omega
          · rw [if_neg hl'] at h ⊢
            by_cases h3 : findStartCode3 buf' 0
            · rw [if_pos h3] at h ⊢
              rw [getUnit_eq, h]
              rfl
            · rw [if_neg h3] at h
              simp at h
              omega

/-! The packets. -/

def sizeofSendbuf : Nat := 1500
def payloadH264 : UInt8 := 96
def ssrc : UInt32 := 10
def timestampIncrese : UInt32 := 6000

/-- `NALU_HEADER` and `FU_INDICATOR`: the three assignments fill the byte, each cut to its field. -/
def unitHeader (f nri type : UInt8) : UInt8 :=
  (f &&& 1) <<< 7 ||| (nri &&& 3) <<< 5 ||| (type &&& 0x1f)

/-- `FU_HEADER` with `R` 0. -/
def fuHeader (s e type : UInt8) : UInt8 := (s &&& 1) <<< 7 ||| (e &&& 1) <<< 6 ||| (type &&& 0x1f)

def setMarker (b : Buf) (m : UInt8) : Buf := put b 1 ((m &&& 1) <<< 7 ||| (b 1 &&& 0x7f))

/-- `sendbuf` after `memset`, with the parts of `RTP_FIXED_HEADER` that are the same for all
packets. -/
def fixedHeader : Buf :=
  let b : Buf := fun _ => 0
  let b := put b 1 ((b 1 &&& 0x80) ||| (payloadH264 &&& 0x7f))
  let b := put b 0 ((2 : UInt8) <<< 6 ||| (b 0 &&& 0x3f))
  let b := setMarker b 0
  blit b 8 (be32 ssrc)

/-- The variables of `main` that a packet goes through; `sent` is what `send` was given. -/
structure Out where
  sendbuf : Buf
  seqNum : UInt16
  sent : List (List UInt8)

def Out.whole (o : Out) (n : NALU) (tsCurrent : UInt32) : Option Out :=
  let b := setMarker o.sendbuf 1
  let b := blit b 2 (be16 o.seqNum)
  let b := put b 12 (unitHeader n.forbiddenBit (n.nalReferenceIdc >>> 5) n.nalUnitType)
  match memcpy sizeofSendbuf b 13 (fun i => n.buf (1 + i)) (n.len - 1) with
  | none => none
  | some b =>
    let b := blit b 4 (be32 tsCurrent)
    some ⟨b, o.seqNum + 1, o.sent ++ [slice b 0 (n.len + 12)]⟩

/-- The three branches of the loop differ in the marker, the bits `S` and `E` and what they copy. -/
def Out.part (o : Out) (n : NALU) (marker s e : UInt8) (off : Nat) (count : Int) : Option Out :=
  let b := setMarker o.sendbuf marker
  let b := put b 12 (unitHeader n.forbiddenBit (n.nalReferenceIdc >>> 5) 28)
  let b := put b 13 (fuHeader s e n.nalUnitType)
  match memcpy sizeofSendbuf b 14 (fun i => n.buf (off + i)) count with
  | none => none
  | some b => some { o with sendbuf := b, sent := o.sent ++ [slice b 0 (count + 14).toNat] }

/-- The body of `while (t <= k)`, which counts `t` up in each branch. -/
def Out.turn (n : NALU) (k l : Nat) (o : Out) (t : Nat) : Option Out :=
  let o := { o with sendbuf := blit o.sendbuf 2 (be16 o.seqNum), seqNum := o.seqNum + 1 }
  if t = 0 then o.part n 0 1 0 1 1400
  else if k = t then o.part n 1 0 1 (t * 1400 + 1) (l - 1)
  else o.part n 0 0 0 (t * 1400 + 1) 1400

def Out.parts (o : Out) (n : NALU) (tsCurrent : UInt32) : Option Out :=
  let k := n.len / 1400
  (List.range (k + 1)).foldlM (Out.turn n k (n.len % 1400))
    { o with sendbuf := blit o.sendbuf 4 (be32 tsCurrent) }

structure Sender where
  bits : File
  nalu : NALU
  seqNum : UInt16
  tsCurrent : UInt32
  sent : List (List UInt8)

/-- The body of `while (!feof (bits))`; what `GetAnnexbNALU` returns is not looked at. -/
def Sender.round (s : Sender) : Option Sender :=
  match getAnnexbNALU s.nalu s.bits with
  | none => none
  | some (_, n, bits) =>
    let ts := s.tsCurrent + timestampIncrese
    let o : Out := ⟨fixedHeader, s.seqNum, s.sent⟩
    (if n.len ≤ 1400 then o.whole n ts else o.parts n ts).map fun o =>
      ⟨bits, n, o.seqNum, ts, o.sent⟩

def Sender.goesOn (s : Sender) : Bool := !s.bits.eof

def main (data : List UInt8) : Sender where
  bits := File.opened data
  nalu := allocNALU 8000000
  seqNum := 0
  tsCurrent := 0
  sent := []

/-! What it is for: RTP packets of one source, those of a unit with one timestamp. -/

def streamHeader (marker : Bool) (seq : UInt16) (ts : UInt32) : Header :=
  ⟨marker, payloadH264, seq, ts, ssrc⟩

/-- The marker is in the last packet of a unit. -/
def unitPackets (seq : UInt16) (ts : UInt32) : List (List UInt8) → List Packet
  | [] => []
  | p :: ps => ⟨streamHeader ps.isEmpty seq ts, p⟩ :: unitPackets (seq + 1) ts ps

def streamPackets (seq : UInt16) (ts : UInt32) : List (List UInt8) → List Packet
  | [] => []
  | u :: us =>
    unitPackets seq (ts + timestampIncrese) (pack 1400 u) ++
      streamPackets (seq + UInt16.ofNat (pack 1400 u).length) (ts + timestampIncrese) us

def received (sent : List (List UInt8)) : Option (List (List UInt8)) :=
  (sent.mapM parse).bind fun ps => unpack (ps.map Packet.payload)

/-- A unit without its forbidden bit, for which the bit fields have no room. -/
def cleared : List UInt8 → List UInt8
  | [] => []
  | b :: tail => (b &&& 0x7f) :: tail

/-- No unit that has to be cut ends where a packet does. -/
def Cuttable (unit : List UInt8) : Prop := unit.length ≤ 1400 ∨ ¬1400 ∣ unit.length

instance (unit : List UInt8) : Decidable (Cuttable unit) :=
  inferInstanceAs (Decidable (_ ∨ _))

structure H264Stream where
  units : List CodedUnit
  nonempty : units ≠ []
  fits : ∀ u ∈ units, u.coded.length + 4 < 8000000

variable {b : Buf} {p : Header} {n : NALU} {o : Out} {ts : UInt32} {body : List UInt8}

/-! The header stays in the buffer from packet to packet. -/

structure Headed (b : Buf) (p : Header) : Prop where
  version : b 0 = 0x80
  second : b 1 = (if p.marker then 0x80 else 0) ||| p.payloadType
  seqNo : slice b 2 2 = be16 p.seqNo
  timestamp : slice b 4 4 = be32 p.timestamp
  ssrc : slice b 8 4 = be32 p.ssrc

theorem Headed.bytes (h : Headed b p) : slice b 0 12 = p.bytes := by
  have hsplit : slice b 0 12 = slice b 0 2 ++ slice b 2 2 ++ slice b 4 4 ++ slice b 8 4 := by
    rw [← slice_add b 0 2 2, ← slice_add b 0 4 4, ← slice_add b 0 8 4]
  have hfirst : slice b 0 2 = [b 0, b 1] := rfl
  rw [hsplit, hfirst, h.version, h.second, h.seqNo, h.timestamp, h.ssrc]
  rfl

/-- Only the first twelve bytes matter. -/
theorem Headed.of_low {c : Buf} (h : Headed b p) (hc : ∀ k < 12, c k = b k) : Headed c p where
  version := by rw [hc 0 (by decide), h.version]
  second := by rw [hc 1 (by decide), h.second]
  seqNo := by rw [slice_congr fun k hk => hc (2 + k) (by omega), h.seqNo]
  timestamp := by rw [slice_congr fun k hk => hc (4 + k) (by omega), h.timestamp]
  ssrc := by rw [slice_congr fun k hk => hc (8 + k) (by omega), h.ssrc]

theorem Headed.numbered (h : Headed b p) (s : UInt16) :
    Headed (blit b 2 (be16 s)) { p with seqNo := s } where
  version := by rw [blit_lt b _ (by decide), h.version]
  second := by rw [blit_lt b _ (by decide), h.second]
  seqNo := slice_blit b 2 (be16 s)
  timestamp := by rw [slice_blit_behind b _ (by simp [be16]), h.timestamp]
  ssrc := by rw [slice_blit_behind b _ (by simp [be16]), h.ssrc]

theorem Headed.stamped (h : Headed b p) (ts : UInt32) :
    Headed (blit b 4 (be32 ts)) { p with timestamp := ts } where
  version := by rw [blit_lt b _ (by decide), h.version]
  second := by rw [blit_lt b _ (by decide), h.second]
  seqNo := by rw [slice_blit_before b _ (by decide), h.seqNo]
  timestamp := slice_blit b 4 (be32 ts)
  ssrc := by rw [slice_blit_behind b _ (by simp [be32]), h.ssrc]

theorem Headed.marked (h : Headed b p) (hp : p.payloadType = payloadH264) (m : Bool) :
    Headed (setMarker b (if m then 1 else 0)) { p with marker := m } where
  version := by rw [setMarker, put_ne b _ (by decide), h.version]
  second := by
    rw [setMarker, put_self, h.second, hp]
    cases p.marker <;> cases m <;> rfl
  seqNo := by rw [setMarker, slice_put_outside b _ (by decide), h.seqNo]
  timestamp := by rw [setMarker, slice_put_outside b _ (by decide), h.timestamp]
  ssrc := by rw [setMarker, slice_put_outside b _ (by decide), h.ssrc]

theorem fixedHeader_headed : Headed fixedHeader (streamHeader false 0 0) := by
  constructor <;> decide

theorem Headed.packet {k : Nat} (h : Headed b p) (hb : slice b 12 k = body) :
    slice b 0 (12 + k) = Packet.bytes ⟨p, body⟩ := by
  rw [slice_add, Nat.zero_add, h.bytes, hb]
  rfl

/-! One packet. -/

structure Loaded (n : NALU) (b : UInt8) (tail : List UInt8) : Prop where
  len : n.len = tail.length + 1
  bytes : slice n.buf 0 (tail.length + 1) = b :: tail
  forbidden : n.forbiddenBit = b &&& 0x80
  reference : n.nalReferenceIdc = b &&& 0x60
  type : n.nalUnitType = kind b

theorem headed_loaded {c : StartCode} {x : UInt8} {tail : List UInt8}
    (h : n.Carries c (x :: tail)) : Loaded (headed n) x tail := by
  have h0 := getElem?_of_slice h.bytes 0 (by simp)
  rw [List.getElem?_cons_zero, Nat.zero_add, Option.some.injEq] at h0
  refine ⟨h.len, h.bytes, ?_, ?_, ?_⟩
  · rw [h0]
    rfl
  · rw [h0]
    rfl
  · rw [h0]
    exact h.type

/-- The field for the forbidden bit is given its value in place, so it is 0 whatever the bit is. -/
theorem unitHeader_eq (b : UInt8) :
    unitHeader (b &&& 0x80) ((b &&& 0x60) >>> 5) (kind b) = b &&& 0x7f ∧
      unitHeader (b &&& 0x80) ((b &&& 0x60) >>> 5) 28 = b &&& 0x7f &&& 0xe0 ||| fuA := by
  refine byte_cases (P := fun b => unitHeader (b &&& 0x80) ((b &&& 0x60) >>> 5) (kind b) = b &&& 0x7f ∧
    unitHeader (b &&& 0x80) ((b &&& 0x60) >>> 5) 28 = b &&& 0x7f &&& 0xe0 ||| fuA) ?_ b
  decide +kernel

theorem fuHeader_eq (b : UInt8) :
    fuHeader 1 0 (kind b) = 0x80 ||| kind (b &&& 0x7f) ∧
      fuHeader 0 0 (kind b) = 0 ||| kind (b &&& 0x7f) ∧
      fuHeader 0 1 (kind b) = 0x40 ||| kind (b &&& 0x7f) := by
  refine byte_cases (P := fun b => fuHeader 1 0 (kind b) = 0x80 ||| kind (b &&& 0x7f) ∧
    fuHeader 0 0 (kind b) = 0 ||| kind (b &&& 0x7f) ∧
    fuHeader 0 1 (kind b) = 0x40 ||| kind (b &&& 0x7f)) ?_ b
  decide +kernel

variable {x : UInt8} {tail : List UInt8}

theorem Loaded.copied (h : Loaded n x tail) {off c : Nat} (hc : off + c ≤ tail.length) :
    slice (fun i => n.buf (off + 1 + i)) 0 c = (tail.drop off).take c := by
  have ht := take_drop_slice n.buf 0 (tail.length + 1) (off + 1) c
  rw [h.bytes, List.drop_succ_cons, Nat.zero_add, Nat.min_eq_left (by omega)] at ht
  rw [slice_shift, ht]

theorem part_spec (h : Headed o.sendbuf p) (hp : p.payloadType = payloadH264)
    (hn : Loaded n x tail) (m : Bool) {s e flags : UInt8} {off c : Nat}
    (hf : fuHeader s e (kind x) = flags ||| kind (x &&& 0x7f)) (hc : c ≤ 1400)
    (ho : off + c ≤ tail.length) :
    ∃ buf, o.part n (if m then 1 else 0) s e (off + 1) c = some { o with
        sendbuf := buf
        sent := o.sent ++ [Packet.bytes ⟨{ p with marker := m },
          fragment (x &&& 0x7f) flags ((tail.drop off).take c)⟩] } ∧
      Headed buf { p with marker := m } := by
  have hroom : 0 ≤ (c : Int) ∧ ((14 : Nat) : Int) + c ≤ sizeofSendbuf := by
    unfold sizeofSendbuf
    omega
  have hcount : ((c : Int) + 14).toNat = 12 + (2 + c) := by omega
  rw [Out.part, memcpy, if_pos hroom, Int.toNat_natCast, hn.copied ho, hcount]
  have hlen : ((tail.drop off).take c).length = c := by
    rw [List.length_take, List.length_drop]
    omega
  generalize (tail.drop off).take c = ys at hlen ⊢
  let b₁ := put (put (setMarker o.sendbuf (if m then 1 else 0)) 12
    (unitHeader n.forbiddenBit (n.nalReferenceIdc >>> 5) 28)) 13 (fuHeader s e n.nalUnitType)
  have hhead : Headed (blit b₁ 14 ys) { p with marker := m } :=
    (h.marked hp m).of_low fun k hk => (blit_lt b₁ ys (by omega)).trans
      ((put_ne _ _ (by omega)).trans (put_ne _ _ (by omega)))
  have hpayload : slice (blit b₁ 14 ys) 12 (2 + c) = fragment (x &&& 0x7f) flags ys := by
    have hcopy : slice (blit b₁ 14 ys) 14 c = ys := hlen ▸ slice_blit b₁ 14 ys
    have hfirst : slice (blit b₁ 14 ys) 12 2 =
        [unitHeader n.forbiddenBit (n.nalReferenceIdc >>> 5) 28, fuHeader s e n.nalUnitType] := rfl
    rw [slice_add, hcopy, hfirst, hn.forbidden, hn.reference, hn.type, (unitHeader_eq x).2, hf]
    rfl
  refine ⟨blit b₁ 14 ys, ?_, hhead⟩
  dsimp only
  rw [hhead.packet hpayload]

theorem whole_spec (h : Headed o.sendbuf p) (hp : p.payloadType = payloadH264)
    (hn : Loaded n x tail) (hl : n.len ≤ 1400) :
    o.whole n ts = some ⟨blit (blit (put (blit (setMarker o.sendbuf 1) 2 (be16 o.seqNum)) 12
      (x &&& 0x7f)) 13 tail) 4 (be32 ts), o.seqNum + 1, o.sent ++ [Packet.bytes
        ⟨{ p with marker := true, seqNo := o.seqNum, timestamp := ts }, (x &&& 0x7f) :: tail⟩]⟩ := by
  have hlen := hn.len
  have hsub : (n.len : Int) - 1 = tail.length := by omega
  have hroom : 0 ≤ (tail.length : Int) ∧ ((13 : Nat) : Int) + tail.length ≤ sizeofSendbuf := by
    unfold sizeofSendbuf
    omega
  have hcopy : slice (fun i => n.buf (1 + i)) 0 tail.length = tail := by
    have ht := @Loaded.copied n x tail hn 0 tail.length (by omega)
    rwa [List.drop_zero, List.take_length, Nat.zero_add] at ht
  let b₁ := put (blit (setMarker o.sendbuf 1) 2 (be16 o.seqNum)) 12 (x &&& 0x7f)
  have hhead : Headed (blit (blit b₁ 13 tail) 4 (be32 ts))
      { p with marker := true, seqNo := o.seqNum, timestamp := ts } := by
    have hmarked := (h.marked hp true).numbered o.seqNum
    refine Headed.stamped (p := { p with marker := true, seqNo := o.seqNum }) ?_ ts
    exact hmarked.of_low fun k hk => (blit_lt b₁ tail (by omega)).trans (put_ne _ _ (by omega))
  have hpayload : slice (blit (blit b₁ 13 tail) 4 (be32 ts)) 12 (1 + tail.length) =
      (x &&& 0x7f) :: tail := by
    rw [slice_blit_behind _ _ (by simp [be32]), slice_add, slice_blit]
    rfl
  have hcount : n.len + 12 = 12 + (1 + tail.length) := by omega
  rw [Out.whole]
  dsimp only
  rw [hsub, memcpy, if_pos hroom, Int.toNat_natCast, hcopy, hn.forbidden, hn.reference, hn.type,
    (unitHeader_eq x).1, hcount]
  dsimp only
  rw [hhead.packet hpayload]

/-! One unit. -/

def Out.Ready (o : Out) (ts : UInt32) : Prop := ∃ m s, Headed o.sendbuf (streamHeader m s ts)

structure Out.Sends (o o' : Out) (ts : UInt32) (m : Bool) (payload : List UInt8) : Prop where
  ready : o'.Ready ts
  seqNum : o'.seqNum = o.seqNum + 1
  sent : o'.sent = o.sent ++ [Packet.bytes ⟨streamHeader m o.seqNum ts, payload⟩]

theorem turn_part (h : o.Ready ts) (hn : Loaded n x tail) (m : Bool) {s e flags : UInt8}
    (off : Nat) {c : Nat} (hf : fuHeader s e (kind x) = flags ||| kind (x &&& 0x7f)) (hc : c ≤ 1400)
    (ho : off + c ≤ tail.length) :
    ∃ o', Out.part { o with sendbuf := blit o.sendbuf 2 (be16 o.seqNum), seqNum := o.seqNum + 1 } n
        (if m then 1 else 0) s e (off + 1) c = some o' ∧
      o.Sends o' ts m (fragment (x &&& 0x7f) flags ((tail.drop off).take c)) := by
  obtain ⟨m', s', hb⟩ := h
  obtain ⟨buf, hpart, hbuf⟩ := part_spec
    (o := { o with sendbuf := blit o.sendbuf 2 (be16 o.seqNum), seqNum := o.seqNum + 1 })
    (hb.numbered o.seqNum) rfl hn m hf hc ho
  exact ⟨_, hpart, ⟨m, o.seqNum, hbuf⟩, rfl, rfl⟩

/-- Turns that send one packet each, the last one with the marker. -/
theorem sends_all {f : Out → Nat → Option Out} {js : List (Nat × List UInt8)}
    {last : Nat × List UInt8}
    (hj : ∀ j ∈ js, ∀ o, o.Ready ts → ∃ o', f o j.1 = some o' ∧ o.Sends o' ts false j.2)
    (hl : ∀ o, o.Ready ts → ∃ o', f o last.1 = some o' ∧ o.Sends o' ts true last.2)
    (h : o.Ready ts) :
    ∃ o', ((js ++ [last]).map Prod.fst).foldlM f o = some o' ∧
      o'.seqNum = o.seqNum + UInt16.ofNat (js ++ [last]).length ∧
      o'.sent = o.sent ++ (unitPackets o.seqNum ts ((js ++ [last]).map Prod.snd)).map Packet.bytes := by
  induction js generalizing o with
  | nil =>
    obtain ⟨o', ho, hs⟩ := hl o h
    refine ⟨o', ?_, hs.seqNum, hs.sent⟩
    simp [ho]
  | cons j js ih =>
    obtain ⟨o₁, ho₁, hs₁⟩ := hj j (by simp) o h
    obtain ⟨o', ho, hseq, hsent⟩ := ih (fun j hm => hj j (List.mem_cons_of_mem _ hm)) hs₁.ready
    refine ⟨o', ?_, ?_, ?_⟩
    · rw [List.cons_append, List.map_cons, List.foldlM_cons, ho₁]
      exact ho
    · rw [hseq, hs₁.seqNum, List.cons_append, List.length_cons, UInt16.ofNat_add, UInt16.add_assoc,
        UInt16.add_comm 1]
      rfl
    · have hmore : ((js ++ [last]).map Prod.snd).isEmpty = false := by simp
      rw [hsent, hs₁.sent, hs₁.seqNum, List.cons_append, List.map_cons, unitPackets, hmore,
        List.append_assoc]
      rfl

theorem parts_spec {m : Bool} {s : UInt16} {ts₀ : UInt32}
    (h : Headed o.sendbuf (streamHeader m s ts₀)) (hn : Loaded n x tail) (hl : 1400 < n.len)
    (hd : ¬1400 ∣ n.len) :
    ∃ o', o.parts n ts = some o' ∧
      o'.seqNum = o.seqNum + UInt16.ofNat (pack 1400 (cleared (x :: tail))).length ∧
      o'.sent = o.sent ++
        (unitPackets o.seqNum ts (pack 1400 (cleared (x :: tail)))).map Packet.bytes := by
  have hlen := hn.len
  have hmod : n.len % 1400 ≠ 0 := fun hz => hd (Nat.dvd_of_mod_eq_zero hz)
  have hdiv := Nat.div_add_mod n.len 1400
  obtain ⟨k, hk⟩ : ∃ k, n.len / 1400 = k + 1 := ⟨n.len / 1400 - 1, by omega⟩
  let first : Nat × List UInt8 := (0, fragment (x &&& 0x7f) 0x80 (tail.take 1400))
  let middle : List (Nat × List UInt8) := (List.range' 1 k).map fun t =>
    (t, fragment (x &&& 0x7f) 0 ((tail.drop (t * 1400)).take 1400))
  let last : Nat × List UInt8 := (k + 1, fragment (x &&& 0x7f) 0x40 (tail.drop ((k + 1) * 1400)))
  have hturns : List.range (k + 1 + 1) = ((first :: middle) ++ [last]).map Prod.fst := by
    rw [List.range_succ, List.range_eq_range', List.range'_succ]
    simp [first, middle, last, Function.comp_def]
  have hpack : pack 1400 (cleared (x :: tail)) = ((first :: middle) ++ [last]).map Prod.snd := by
    rw [cleared, pack, if_neg (by omega), ← hlen, hk]
    simp [first, middle, last, Function.comp_def]
  have hcopy : ((n.len % 1400 : Nat) : Int) - 1 = (tail.length - (k + 1) * 1400 : Nat) := by omega
  have hready : Out.Ready { o with sendbuf := blit o.sendbuf 4 (be32 ts) } ts :=
    ⟨m, s, h.stamped ts⟩
  obtain ⟨hs, hm, he⟩ := fuHeader_eq x
  have hjs : ∀ j ∈ first :: middle, ∀ o : Out, o.Ready ts →
      ∃ o', Out.turn n (k + 1) (n.len % 1400) o j.1 = some o' ∧ o.Sends o' ts false j.2 := by
    intro j hj o ho
    obtain rfl | hj := List.mem_cons.mp hj
    · exact turn_part ho hn false 0 hs le_rfl (by omega)
    · obtain ⟨t, ht, rfl⟩ := List.mem_map.mp hj
      obtain ⟨ht₁, htk⟩ := List.mem_range'_1.mp ht
      have hturn := turn_part ho hn false (t * 1400) hm le_rfl (by omega)
      rw [Out.turn]
      dsimp only
      rw [if_neg (by omega), if_neg (by omega)]
      exact hturn
  have hlast : ∀ o : Out, o.Ready ts →
      ∃ o', Out.turn n (k + 1) (n.len % 1400) o last.1 = some o' ∧ o.Sends o' ts true last.2 := by
    intro o ho
    have hturn := turn_part (c := tail.length - (k + 1) * 1400) ho hn true ((k + 1) * 1400) he
      (by omega) (by omega)
    rw [List.take_of_length_le (by rw [List.length_drop])] at hturn
    rw [Out.turn]
    dsimp only [last]
    rw [if_neg (by omega), if_pos rfl, hcopy]
    exact hturn
  rw [Out.parts]
  rw [hk, hturns, hpack, List.length_map]
  exact sends_all hjs hlast hready

/-- With nothing left for the last packet, `l - 1` bytes are copied all the same. -/
theorem parts_stuck (hl : 1400 < n.len) (hd : 1400 ∣ n.len) : o.parts n ts = none := by
  have hmod := Nat.mod_eq_zero_of_dvd hd
  have hlast (o : Out) : Out.turn n (n.len / 1400) (n.len % 1400) o (n.len / 1400) = none := by
    have hneg : ¬(0 ≤ ((0 : Nat) : Int) - 1 ∧ ((14 : Nat) : Int) + (((0 : Nat) : Int) - 1) ≤
        sizeofSendbuf) := by omega
    rw [Out.turn]
    rw [if_neg (by omega), if_pos rfl, hmod, Out.part, memcpy, if_neg hneg]
  rw [Out.parts]
  rw [List.range_succ, List.foldlM_append]
  cases (List.range (n.len / 1400)).foldlM (Out.turn n (n.len / 1400) (n.len % 1400))
      { o with sendbuf := blit o.sendbuf 4 (be32 ts) } with
  | none => rfl
  | some o' => simp [hlast]

theorem unit_spec (ts : UInt32) {m : Bool} {s : UInt16} {ts₀ : UInt32}
    (h : Headed o.sendbuf (streamHeader m s ts₀)) (hn : Loaded n x tail)
    (hc : Cuttable (x :: tail)) :
    ∃ o', (if n.len ≤ 1400 then o.whole n ts else o.parts n ts) = some o' ∧
      o'.seqNum = o.seqNum + UInt16.ofNat (pack 1400 (cleared (x :: tail))).length ∧
      o'.sent = o.sent ++
        (unitPackets o.seqNum ts (pack 1400 (cleared (x :: tail)))).map Packet.bytes := by
  have hlen : n.len = (x :: tail).length := hn.len
  by_cases hl : n.len ≤ 1400
  · have hpack : pack 1400 (cleared (x :: tail)) = [(x &&& 0x7f) :: tail] := by
      rw [cleared, pack, if_pos (by rwa [← hn.len])]
    rw [if_pos hl, whole_spec h rfl hn hl, hpack]
    exact ⟨_, rfl, rfl, rfl⟩
  · rw [if_neg hl]
    exact parts_spec h hn (by omega) (hlen ▸ hc.resolve_left (hlen ▸ hl))

/-! The stream. -/

structure Sender.At (s : Sender) (before : List UInt8) (rest : List CodedUnit) : Prop where
  bits : s.bits = leftOver before (stream rest)
  maxSize : s.nalu.maxSize = 8000000

variable {s : Sender} {before : List UInt8} {rest : List CodedUnit} {u : CodedUnit}

theorem Sender.At.call (h : s.At before (u :: rest)) (hu : u.coded.length + 4 < 8000000) :
    ∃ r n, getAnnexbNALU s.nalu s.bits =
        some (r, n, leftOver (before ++ u.coded) (stream rest)) ∧
      n.maxSize = 8000000 ∧ ∃ x tail, u.bytes = x :: tail ∧ Loaded n x tail := by
  have hlen : u.coded.length = u.code.bytes.length + u.bytes.length := List.length_append
  have hroom : u.code.bytes.length + u.bytes.length + min 4 (stream rest).length <
      s.nalu.maxSize := by
    rw [h.maxSize]
    omega
  obtain ⟨n, hn, hcar, hmax⟩ := getAnnexbNALU_spec before (cut_stream u rest) hroom
  have hbits : s.bits = reading before (u.code.bytes ++ (u.bytes ++ stream rest)) := by
    rw [h.bits, leftOver, if_neg (stream_cons_ne_nil u rest), stream_cons, CodedUnit.coded,
      List.append_assoc]
  have hpos : (0 : Int) < (u.code.bytes.length + u.bytes.length : Nat) := by
    have hcode := List.length_pos_iff.mpr u.nonempty
    omega
  obtain ⟨x, tail, hx⟩ := List.exists_cons_of_ne_nil u.nonempty
  refine ⟨(u.code.bytes.length + u.bytes.length : Nat), headed n, ?_, hmax.trans h.maxSize, x, tail, hx,
    headed_loaded (hx ▸ hcar)⟩
  rw [hbits, getAnnexbNALU_of hn hpos, CodedUnit.coded, List.append_assoc]

theorem Sender.At.round (h : s.At before (u :: rest)) (hu : u.coded.length + 4 < 8000000)
    (hc : Cuttable u.bytes) :
    ∃ t, s.round = some t ∧ t.At (before ++ u.coded) rest ∧
      t.tsCurrent = s.tsCurrent + timestampIncrese ∧
      t.seqNum = s.seqNum + UInt16.ofNat (pack 1400 (cleared u.bytes)).length ∧
      t.sent = s.sent ++ (unitPackets s.seqNum (s.tsCurrent + timestampIncrese)
        (pack 1400 (cleared u.bytes))).map Packet.bytes := by
  obtain ⟨r, n, hn, hmax, x, tail, hx, hload⟩ := h.call hu
  rw [hx] at hc ⊢
  obtain ⟨o, ho, hseq, hsent⟩ := unit_spec (s.tsCurrent + timestampIncrese)
    (o := ⟨fixedHeader, s.seqNum, s.sent⟩) fixedHeader_headed hload hc
  have hround : s.round = some ⟨leftOver (before ++ u.coded) (stream rest), n, o.seqNum,
      s.tsCurrent + timestampIncrese, o.sent⟩ := by
    rw [Sender.round, hn]
    dsimp only
    rw [ho]
    rfl
  exact ⟨_, hround, ⟨rfl, hmax⟩, rfl, hseq, hsent⟩

theorem Sender.At.stuck (h : s.At before (u :: rest)) (hu : u.coded.length + 4 < 8000000)
    (hc : ¬Cuttable u.bytes) : s.round = none := by
  obtain ⟨r, n, hn, -, x, tail, hx, hload⟩ := h.call hu
  have hlen : n.len = u.bytes.length := by rw [hx]; exact hload.len
  obtain ⟨hl, hd⟩ := not_or.mp hc
  rw [Sender.round, hn]
  dsimp only
  rw [if_neg (by omega), parts_stuck (by omega) (hlen ▸ not_not.mp hd)]
  rfl

theorem Sender.At.goesOn (h : s.At before (u :: rest)) : s.goesOn = true := by
  rw [Sender.goesOn, Bool.not_eq_true', ← Bool.not_eq_true, h.bits, leftOver_eof]
  exact stream_cons_ne_nil u rest

theorem Sender.At.done (h : s.At before []) : s.goesOn = false := by
  rw [Sender.goesOn, Bool.not_eq_false', h.bits, leftOver_eof]
  rfl

/-- Unit by unit: the loop ends if every unit can be cut, and all of them have been sent then. -/
theorem Sender.At.leads (h : s.At before rest) (hfit : ∀ u ∈ rest, u.coded.length + 4 < 8000000) :
    ((∀ u ∈ rest, Cuttable u.bytes) → ∃ t, Leads Sender.goesOn Sender.round s t) ∧
      ∀ t, Leads Sender.goesOn Sender.round s t → (∀ u ∈ rest, Cuttable u.bytes) ∧
        t.sent = s.sent ++ (streamPackets s.seqNum s.tsCurrent
          (rest.map fun u => cleared u.bytes)).map Packet.bytes := by
  induction rest generalizing s before with
  | nil =>
    refine ⟨fun _ => ⟨s, (leads_done h.done).mpr rfl⟩, fun t ht => ⟨by simp, ?_⟩⟩
    obtain rfl := (leads_done h.done).mp ht
    simp [streamPackets]
  | cons u rest ih =>
    have hu := hfit u (by simp)
    by_cases hc : Cuttable u.bytes
    · obtain ⟨s₁, hround, hat, hts, hseq, hsent⟩ := h.round hu hc
      obtain ⟨hex, hall⟩ := ih hat fun v hv => hfit v (List.mem_cons_of_mem _ hv)
      simp only [leads_turn h.goesOn hround, List.forall_mem_cons, hc, true_and]
      refine ⟨hex, fun t ht => ?_⟩
      obtain ⟨hcut, hsent'⟩ := hall t ht
      refine ⟨hcut, ?_⟩
      rw [hsent', hsent, hseq, hts, List.map_cons, streamPackets, List.map_append, List.append_assoc]
    · have hnone := h.stuck hu hc
      refine ⟨fun hall => absurd (hall u (by simp)) hc, ?_⟩
      rintro t ⟨k, hl⟩
      cases hl with
      | done hd => exact absurd (hd.symm.trans h.goesOn) Bool.false_ne_true
      | turn _ hs _ => exact absurd (hnone.symm.trans hs) (by simp)

theorem main_at (a : H264Stream) : (main (stream a.units)).At [] a.units := by
  have hne : stream a.units ≠ [] := by
    cases hu : a.units with
    | nil => exact absurd hu a.nonempty
    | cons u us => exact stream_cons_ne_nil u us
  refine ⟨?_, rfl⟩
  rw [leftOver, if_neg hne]
  rfl

/-! What arrives. -/

variable {seq : UInt16} {us : List (List UInt8)}

theorem unitPackets_payloads (ps : List (List UInt8)) :
    (unitPackets seq ts ps).map Packet.payload = ps := by
  induction ps generalizing seq with
  | nil => rfl
  | cons q ps ih => rw [unitPackets, List.map_cons, ih]

theorem unitPackets_type {q : Packet} {ps : List (List UInt8)} (hq : q ∈ unitPackets seq ts ps) :
    q.header.payloadType = payloadH264 := by
  induction ps generalizing seq with
  | nil => simp [unitPackets] at hq
  | cons x ps ih =>
    obtain rfl | hq := List.mem_cons.mp hq
    · rfl
    · exact ih hq

theorem streamPackets_payloads :
    (streamPackets seq ts us).map Packet.payload = us.flatMap (pack 1400) := by
  induction us generalizing seq ts with
  | nil => rfl
  | cons u us ih => rw [streamPackets, List.map_append, unitPackets_payloads, ih, List.flatMap_cons]

theorem streamPackets_type {q : Packet} (hq : q ∈ streamPackets seq ts us) :
    q.header.payloadType = payloadH264 := by
  induction us generalizing seq ts with
  | nil => simp [streamPackets] at hq
  | cons u us ih =>
    obtain hq | hq := List.mem_append.mp hq
    · exact unitPackets_type hq
    · exact ih hq

theorem parse_stream :
    ((streamPackets seq ts us).map Packet.bytes).mapM parse = some (streamPackets seq ts us) := by
  refine parse_all fun q hq => ?_
  rw [streamPackets_type hq]
  decide

theorem received_stream :
    received ((streamPackets seq ts us).map Packet.bytes) = unpack (us.flatMap (pack 1400)) := by
  rw [received, parse_stream, Option.bind_some, streamPackets_payloads]

theorem stream_datagram {d : List UInt8} (hd : d ∈ (streamPackets seq ts us).map Packet.bytes) :
    d.length ≤ 1414 := by
  obtain ⟨q, hq, rfl⟩ := List.mem_map.mp hd
  have hin : q.payload ∈ us.flatMap (pack 1400) := by
    rw [← @streamPackets_payloads ts seq us]
    exact List.mem_map_of_mem hq
  obtain ⟨u, -, hu⟩ := List.mem_flatMap.mp hin
  have hlen := pack_length (by decide) hu
  rw [packet_length]
  omega

theorem cleared_ne_nil (u : CodedUnit) : cleared u.bytes ≠ [] := by
  obtain ⟨x, tail, hx⟩ := List.exists_cons_of_ne_nil u.nonempty
  rw [hx]
  simp [cleared]

theorem cleared_length (unit : List UInt8) : (cleared unit).length = unit.length := by
  cases unit <;> rfl

theorem cleared_kind (unit : List UInt8) : kind ((cleared unit).headD 0) = kind (unit.headD 0) := by
  cases unit with
  | nil => rfl
  | cons x tail =>
    exact byte_cases (P := fun x => kind (x &&& 0x7f) = kind x) (by decide +kernel) x

theorem cleared_single (unit : List UInt8) :
    Single ((cleared unit).headD 0) ↔ Single (unit.headD 0) := by
  rw [Single, cleared_kind, Single]

theorem cleared_eq_iff (unit : List UInt8) : cleared unit = unit ↔ unit.headD 0 &&& 0x80 = 0 := by
  cases unit with
  | nil => exact iff_of_true rfl rfl
  | cons x tail =>
    rw [cleared, List.cons.injEq, List.headD_cons, and_iff_left rfl]
    exact byte_cases (P := fun x => x &&& 0x7f = x ↔ x &&& 0x80 = 0) (by decide +kernel) x

theorem total_cleared (us : List CodedUnit) :
    total (us.map fun u => cleared u.bytes) = total (us.map CodedUnit.bytes) := by
  rw [total, total, List.map_map, List.map_map]
  congr 1
  exact List.map_congr_left fun u _ => cleared_length u.bytes

/-- A file whose units can all be cut goes out as an RTP stream: a timestamp for each unit, the
marker in its last packet, and the packets numbered through. -/
theorem rtp_packetized (a : H264Stream) (hc : ∀ u ∈ a.units, Cuttable u.bytes) :
    ∃ s, Leads Sender.goesOn Sender.round (main (stream a.units)) s ∧
      s.sent.mapM parse = some (streamPackets 0 0 (a.units.map fun u => cleared u.bytes)) ∧
      ∀ d ∈ s.sent, d.length ≤ 1414 := by
  obtain ⟨hex, hall⟩ := (main_at a).leads a.fits
  obtain ⟨s, hs⟩ := hex hc
  have hsent : s.sent = (streamPackets 0 0 (a.units.map fun u => cleared u.bytes)).map Packet.bytes :=
    (hall s hs).2
  refine ⟨s, hs, ?_, fun d hd => ?_⟩
  · rw [hsent]
    exact parse_stream
  · rw [hsent] at hd
    exact stream_datagram hd

def plainSlice (n : Nat) : CodedUnit where
  code := .short
  bytes := List.replicate (n + 1) 0x65
  nonempty := by simp
  clear := fun h => absurd (List.eq_of_mem_replicate (h.subset List.mem_cons_self))
    (by decide)
  ended := fun h => absurd (List.eq_of_mem_replicate (List.mem_of_getLast? h)) (by decide)

theorem plainSlice_length (n : Nat) : (plainSlice n).bytes.length = n + 1 := List.length_replicate

def sampleUnits : List CodedUnit :=
  [⟨.long, [0x27, 0x42], by decide, by decide, by decide⟩, plainSlice 2899]

theorem sampleUnits_fit : ∀ u ∈ sampleUnits, u.coded.length + 4 < 8000000 := by
  intro u hu
  have hcode : u.code.bytes.length ≤ 4 := by cases u.code <;> decide
  have hbytes : u.bytes.length ≤ 2900 := by
    obtain rfl | rfl := List.mem_pair.mp hu
    · decide
    · exact (plainSlice_length 2899).le
  rw [CodedUnit.coded, List.length_append]
  omega

def sampleFilm : H264Stream := ⟨sampleUnits, List.cons_ne_nil _ _, sampleUnits_fit⟩

theorem film_packetized : (∀ u ∈ sampleFilm.units, Cuttable u.bytes) ∧
    ∃ s, Leads Sender.goesOn Sender.round (main (stream sampleFilm.units)) s ∧
      s.sent.mapM parse = some (streamPackets 0 0 (sampleFilm.units.map fun u => cleared u.bytes)) ∧
      ∀ d ∈ s.sent, d.length ≤ 1414 := by
  have hc : ∀ u ∈ sampleFilm.units, Cuttable u.bytes := by
    simp [sampleFilm, sampleUnits, Cuttable, plainSlice_length]
  exact ⟨hc, rtp_packetized sampleFilm hc⟩

/-- The receiver gets the stream just when no unit has its forbidden bit set, every short one is of
a type from 1 to 23, and no long one ends where a packet does. -/
theorem rtp_carries_iff (a : H264Stream) :
    (∃ s, Leads Sender.goesOn Sender.round (main (stream a.units)) s ∧
      received s.sent = some (a.units.map CodedUnit.bytes)) ↔
    ∀ u ∈ a.units, u.bytes.headD 0 &&& 0x80 = 0 ∧
      (u.bytes.length ≤ 1400 → Single (u.bytes.headD 0)) ∧
      (1400 < u.bytes.length → ¬1400 ∣ u.bytes.length) := by
  obtain ⟨hex, hall⟩ := (main_at a).leads a.fits
  have hne : ∀ v ∈ a.units.map fun u => cleared u.bytes, v ≠ [] := by
    intro v hv
    obtain ⟨u, -, rfl⟩ := List.mem_map.mp hv
    exact cleared_ne_nil u
  constructor
  · rintro ⟨s, hs, hr⟩ u hu
    obtain ⟨hcut, hsent⟩ := hall s hs
    have hunpack : unpack ((a.units.map fun u => cleared u.bytes).flatMap (pack 1400)) =
        some (a.units.map CodedUnit.bytes) := by
      rw [← hr, hsent]
      exact received_stream.symm
    have hkinds := unpack_total hne hunpack (total_cleared a.units).symm
    have hsame : (a.units.map fun u => cleared u.bytes) = a.units.map CodedUnit.bytes := by
      rw [unpack_pack fun v hv => ⟨hne v hv, hkinds v hv⟩, Option.some.injEq] at hunpack
      exact hunpack
    refine ⟨(cleared_eq_iff _).mp (List.map_inj_left.mp hsame u hu), fun hl => ?_,
      fun hl => (hcut u hu).resolve_left (by omega)⟩
    rw [← cleared_single]
    exact hkinds _ (List.mem_map_of_mem hu) (by rwa [cleared_length])
  · intro h
    obtain ⟨s, hs⟩ := hex fun u hu => Decidable.or_iff_not_imp_left.mpr fun hl =>
      (h u hu).2.2 (by omega)
    have hsame : (a.units.map fun u => cleared u.bytes) = a.units.map CodedUnit.bytes :=
      List.map_congr_left fun u hu => (cleared_eq_iff _).mpr (h u hu).1
    refine ⟨s, hs, ?_⟩
    rw [(hall s hs).2]
    refine received_stream.trans ?_
    rw [← hsame]
    refine unpack_pack fun v hv => ⟨hne v hv, fun hl => ?_⟩
    obtain ⟨u, hu, rfl⟩ := List.mem_map.mp hv
    rw [cleared_single]
    rw [cleared_length] at hl
    exact (h u hu).2.1 hl

end QsaTalk.NewNal
