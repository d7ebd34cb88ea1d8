import QsaTalk.Lib.ByteBuffer
import QsaTalk.Lib.ByteFile
import QsaTalk.Lib.Loops
import QsaTalk.Lib.StartCodes

/-! `TestDemo/nalu.c`: `GetAnnexbNALU` reads one unit of an Annex B stream, start code and all, by
looking back over the bytes read so far, and puts the start code it ran into back. -/
namespace QsaTalk
open ByteBuffer ByteFile Loops StartCodes

/-- `NALU_t`; `max_size` is the size of `buf`. -/
structure NALU where
  startcodeprefixLen : Nat
  len : Nat
  maxSize : Nat
  forbiddenBit : UInt8
  nalReferenceIdc : UInt8
  nalUnitType : UInt8
  buf : Buf

def findStartCode2 (buf : Buf) (off : Nat) : Bool :=
  buf off == 0 && buf (off + 1) == 0 && buf (off + 2) == 1

def findStartCode3 (buf : Buf) (off : Nat) : Bool :=
  buf off == 0 && buf (off + 1) == 0 && buf (off + 2) == 0 && buf (off + 3) == 1

/-- The variables of the loop that looks for the next start code. -/
structure Scan where
  pos : Nat
  buf : Buf
  bits : File
  info2 : Bool
  info3 : Bool

def Scan.startCodeFound (s : Scan) : Bool := s.info2 || s.info3

/-- `Buf[pos++] = fgetc (bits)` and a look back; `EOF` is stored as 255. `Buf` has `max_size` bytes,
and a write behind them is undefined. -/
def scanByte (maxSize : Nat) (s : Scan) : Option Scan :=
  if s.pos < maxSize then
    let (c, bits) := s.bits.fgetc
    let buf := put s.buf s.pos (c.getD 255)
    let pos := s.pos + 1
    let info3 := findStartCode3 buf (pos - 4)
    let info2 := if info3 then s.info2 else findStartCode2 buf (pos - 3)
    some ⟨pos, buf, bits, info2, info3⟩
  else none

/-- `while (!StartCodeFound)` with the return on `feof` taken out of it. -/
def Scan.goesOn (s : Scan) : Bool := !s.startCodeFound && !s.bits.eof

def NALU.take (n : NALU) (buf : Buf) (len : Int) : Option NALU :=
  match memcpy n.maxSize n.buf 0 (fun k => buf (n.startcodeprefixLen + k)) len with
  | none => none
  | some b => some { n with len := len.toNat, buf := b, nalUnitType := b 0 &&& 0x1f }

/-- Behind the loop. The header bits are shifted down at the end of the file only. -/
def NALU.finish (n : NALU) (s : Scan) : Option (Int × NALU × File) :=
  if s.startCodeFound then
    let rewind : Int := if s.info3 then -4 else -3
    match s.bits.fseekCur rewind, n.take s.buf (s.pos + rewind - n.startcodeprefixLen) with
    | some bits, some n => some (s.pos + rewind,
        { n with forbiddenBit := n.buf 0 &&& 0x80, nalReferenceIdc := n.buf 0 &&& 0x60 }, bits)
    | _, _ => none
  else
    match n.take s.buf (s.pos - 1 - n.startcodeprefixLen) with
    | some n => some (s.pos - 1, { n with
        forbiddenBit := n.buf 0 >>> 7 &&& 1
        nalReferenceIdc := n.buf 0 >>> 5 &&& 3 }, s.bits)
    | none => none

/-- No loop takes more turns than there are bytes left to read, and one for the end of the file. -/
def getUnit (n : NALU) (buf : Buf) (bits : File) : Option (Int × NALU × File) :=
  (run Scan.goesOn (scanByte n.maxSize) (bits.data.length + 1)
    ⟨n.startcodeprefixLen, buf, bits, false, false⟩).bind n.finish

def store (maxSize : Nat) (buf : Buf) (off : Nat) (bytes : List UInt8) : Option Buf :=
  if off + bytes.length ≤ maxSize then some (blit buf off bytes) else none

def getAnnexbNALU (n : NALU) (bits : File) : Option (Int × NALU × File) :=
  let n := { n with startcodeprefixLen := 3 }
  let (bytes, bits) := bits.fread 3
  match store n.maxSize (fun _ => 0) 0 bytes with
  | none => none
  | some buf =>
    if bytes.length ≠ 3 then some (0, n, bits)
    else if findStartCode2 buf 0 then getUnit n buf bits
    else
      let (byte, bits) := bits.fread 1
      match store n.maxSize buf 3 byte with
      | none => none
      | some buf =>
        if byte.length ≠ 1 then some (0, n, bits)
        else if findStartCode3 buf 0 then getUnit { n with startcodeprefixLen := 4 } buf bits
        else some (-1, n, bits)

/-! The look back. -/

structure Holds (buf : Buf) (xs : List UInt8) : Prop where
  bytes : slice buf 0 xs.length = xs

variable {buf : Buf} {xs ys : List UInt8} {b : UInt8} {before rest : List UInt8} {n : NALU}

theorem Holds.concat (h : Holds buf xs) (b : UInt8) : Holds (put buf xs.length b) (xs ++ [b]) := by
  constructor
  rw [List.length_append, List.length_singleton, slice_put_next, h.bytes]

theorem Holds.tail (h : Holds buf xs) {us vs : List UInt8} (hx : us ++ vs = xs) :
    slice buf us.length vs.length = vs := by
  have hb := h.bytes
  rw [← hx, List.length_append, slice_add, Nat.zero_add] at hb
  exact (List.append_inj hb (length_slice _ _ _)).2

/-- A window of `k` bytes shows the last `k` bytes read. -/
theorem Holds.window (h : Holds buf xs) {p : List UInt8} (hp : p.length ≤ xs.length) :
    slice buf (xs.length - p.length) p.length = p ↔ p <:+ xs := by
  have hlen : (xs.take (xs.length - p.length)).length = xs.length - p.length := by
    rw [List.length_take]
    omega
  have hw := h.tail (List.take_append_drop (xs.length - p.length) xs)
  rw [hlen, List.length_drop, Nat.sub_sub_self hp] at hw
  rw [hw]
  constructor
  · intro he
    rw [← he]
    exact List.drop_suffix _ _
  · rintro ⟨us, rfl⟩
    rw [List.length_append, Nat.add_sub_cancel, List.drop_left]

theorem findStartCode2_eq (buf : Buf) (off : Nat) :
    findStartCode2 buf off = true ↔ slice buf off 3 = [0, 0, 1] := by
  simp [findStartCode2, slice, List.range_succ, and_assoc]

theorem findStartCode3_eq (buf : Buf) (off : Nat) :
    findStartCode3 buf off = true ↔ slice buf off 4 = [0, 0, 0, 1] := by
  simp [findStartCode3, slice, List.range_succ, and_assoc]

structure Scan.Clean (s : Scan) (xs before rest : List UInt8) : Prop where
  pos : s.pos = xs.length
  holds : Holds s.buf xs
  bits : s.bits = reading before rest
  found : s.info2 = false ∧ s.info3 = false

variable {s : Scan} {maxSize : Nat} {c : StartCode}

theorem Scan.Clean.goesOn (h : s.Clean xs before rest) : s.goesOn = true := by
  simp [Scan.goesOn, Scan.startCodeFound, h.found, h.bits]

/-- One turn behind a start code and `ys`: what it sees in its two windows. -/
theorem scanByte_spec (h : s.Clean (c.bytes ++ ys) before (b :: rest))
    (hm : (c.bytes ++ ys).length < maxSize) :
    ∃ t, scanByte maxSize s = some t ∧ t.pos = (c.bytes ++ (ys ++ [b])).length ∧
      Holds t.buf (c.bytes ++ (ys ++ [b])) ∧ t.bits = reading (before ++ [b]) rest ∧
      (t.info3 = true ↔ [0, 0, 0, 1] <:+ ys ++ [b]) ∧
      (t.info2 = true ↔ [0, 0, 1] <:+ ys ++ [b] ∧ t.info3 = false) := by
  have hh := h.holds.concat b
  rw [List.append_assoc] at hh
  have hlen : 3 ≤ c.bytes.length := by cases c <;> decide
  have hone : c.bytes.getLast? = some 1 := by cases c <;> rfl
  have hsize : (c.bytes ++ (ys ++ [b])).length = s.pos + 1 := by
    rw [h.pos]
    simp
    omega
  have hlong : 4 ≤ (c.bytes ++ (ys ++ [b])).length := by simp; omega
  have h3 : findStartCode3 (put s.buf s.pos b) (s.pos + 1 - 4) = true ↔
      [0, 0, 0, 1] <:+ ys ++ [b] := by
    rw [findStartCode3_eq, ← hsize, h.pos]
    exact (hh.window (p := [0, 0, 0, 1]) hlong).trans (suffix_behind_one (n := 3) hone (by simp))
  have h2 : findStartCode2 (put s.buf s.pos b) (s.pos + 1 - 3) = true ↔
      [0, 0, 1] <:+ ys ++ [b] := by
    rw [findStartCode2_eq, ← hsize, h.pos]
    exact (hh.window (p := [0, 0, 1]) (Nat.le_of_succ_le hlong)).trans
      (suffix_behind_one (n := 2) hone (by simp))
  have hstep : scanByte maxSize s = some ⟨s.pos + 1, put s.buf s.pos b, reading (before ++ [b]) rest,
      if findStartCode3 (put s.buf s.pos b) (s.pos + 1 - 4) then s.info2
        else findStartCode2 (put s.buf s.pos b) (s.pos + 1 - 3),
      findStartCode3 (put s.buf s.pos b) (s.pos + 1 - 4)⟩ := by
    rw [scanByte, if_pos (h.pos ▸ hm), h.bits, fgetc_cons]
    rfl
  refine ⟨_, hstep, hsize.symm, h.pos ▸ hh, rfl, h3, ?_⟩
  cases hf : findStartCode3 (put s.buf s.pos b) (s.pos + 1 - 4) with
  | true => simp [h.found.1]
  | false =>
    dsimp only
    rw [if_neg Bool.false_ne_true, h2, and_iff_left rfl]

/-- Bytes that complete no start code are read one after the other. -/
theorem scan_clear {zs : List UInt8} (hc : Clear (ys ++ zs))
    (h : s.Clean (c.bytes ++ ys) before (zs ++ rest))
    (hm : (c.bytes ++ (ys ++ zs)).length ≤ maxSize) :
    ∃ t, t.Clean (c.bytes ++ (ys ++ zs)) (before ++ zs) rest ∧ ∀ k u,
      Loop Scan.goesOn (fun s t => scanByte maxSize s = some t) k t u →
      Loop Scan.goesOn (fun s t => scanByte maxSize s = some t) (k + zs.length) s u := by
  induction zs generalizing s ys before with
  | nil => exact ⟨s, by simpa using h, fun k u hl => hl⟩
  | cons b zs ih =>
    have hsplit : ys ++ b :: zs = ys ++ [b] ++ zs := by simp
    obtain ⟨hy, hno⟩ := clear_concat.mp (hc.of_prefix ⟨zs, hsplit.symm⟩)
    have hno3 : ¬[0, 0, 0, 1] <:+ ys ++ [b] := fun h3 => hno (.trans ⟨[0], rfl⟩ h3)
    have hroom : (c.bytes ++ ys).length < maxSize := by simp at hm ⊢; omega
    obtain ⟨t, ht, hpos, hh, hb, h3, h2⟩ := scanByte_spec h hroom
    have hclean : t.Clean (c.bytes ++ (ys ++ [b])) (before ++ [b]) (zs ++ rest) :=
      ⟨hpos, hh, hb, Bool.eq_false_iff.mpr fun hi => hno (h2.mp hi).1,
        Bool.eq_false_iff.mpr fun hi => hno3 (h3.mp hi)⟩
    obtain ⟨u, hu, hrest⟩ := ih (hsplit ▸ hc) hclean (hsplit ▸ hm)
    refine ⟨u, by simpa using hu, fun k v hl => ?_⟩
    exact .turn h.goesOn ht (hrest k v hl)

inductive Scan.Met (s : Scan) (c : StartCode) (unit before : List UInt8) : List UInt8 → Prop
  | eof (hp : s.pos = c.bytes.length + unit.length + 1) (hf : s.startCodeFound = false)
      (hh : Holds s.buf (c.bytes ++ (unit ++ [255]))) (hb : s.bits = exhausted (before ++ unit)) :
      s.Met c unit before []
  | code {tail} (d : StartCode) (hp : s.pos = c.bytes.length + unit.length + d.bytes.length)
      (hf : s.startCodeFound = true) (h3 : s.info3 = true ↔ d = .long)
      (hh : Holds s.buf (c.bytes ++ (unit ++ d.bytes)))
      (hb : s.bits = reading (before ++ (unit ++ d.bytes)) tail) :
      s.Met c unit before (d.bytes ++ tail)

/-- The turn that finds the end of the file stores a byte that completes nothing. -/
theorem scanByte_eof {unit : List UInt8} (h : s.Clean (c.bytes ++ unit) before [])
    (hm : (c.bytes ++ unit).length < maxSize) :
    ∃ t, scanByte maxSize s = some t ∧ t.pos = c.bytes.length + unit.length + 1 ∧
      t.startCodeFound = false ∧ Holds t.buf (c.bytes ++ (unit ++ [255])) ∧
      t.bits = exhausted before := by
  have hh := h.holds.concat 255
  rw [List.append_assoc] at hh
  have hlen : 3 ≤ c.bytes.length := by cases c <;> decide
  have hsize : (c.bytes ++ (unit ++ [255])).length = s.pos + 1 := by
    rw [h.pos]
    simp
    omega
  have hlong : 4 ≤ (c.bytes ++ (unit ++ [255])).length := by simp; omega
  have hno {p : List UInt8} (hp : p.getLast? = some 1) : ¬p <:+ c.bytes ++ (unit ++ [255]) := by
    rintro ⟨us, hus⟩
    have hl := congrArg List.getLast? hus
    rw [List.getLast?_append, hp, ← List.append_assoc, List.getLast?_concat] at hl
    simp at hl
  have h3 : findStartCode3 (put s.buf s.pos 255) (s.pos + 1 - 4) = false := by
    rw [Bool.eq_false_iff, Ne, findStartCode3_eq, ← hsize, h.pos]
    exact fun hw => hno rfl ((hh.window (p := [0, 0, 0, 1]) hlong).mp hw)
  have h2 : findStartCode2 (put s.buf s.pos 255) (s.pos + 1 - 3) = false := by
    rw [Bool.eq_false_iff, Ne, findStartCode2_eq, ← hsize, h.pos]
    exact fun hw => hno rfl ((hh.window (p := [0, 0, 1]) (Nat.le_of_succ_le hlong)).mp hw)
  have hstep : scanByte maxSize s = some ⟨s.pos + 1, put s.buf s.pos 255, exhausted before,
      false, false⟩ := by
    rw [scanByte, if_pos (h.pos ▸ hm), h.bits, fgetc_nil]
    simp only [Option.getD_none, h3, h2, Bool.false_eq_true, if_false]
  refine ⟨_, hstep, ?_, rfl, h.pos ▸ hh, rfl⟩
  rw [h.pos, List.length_append]

/-- The loop stops behind the first unit. -/
theorem scan_cut {body unit : List UInt8} (hc : Cut body unit rest)
    (h : s.Clean c.bytes before body)
    (hm : c.bytes.length + unit.length + min 4 rest.length < maxSize) :
    ∃ k t, k ≤ body.length + 1 ∧
      Loop Scan.goesOn (fun s t => scanByte maxSize s = some t) k s t ∧ t.Met c unit before rest := by
  have hstart : s.Clean (c.bytes ++ []) before body := by rwa [List.append_nil]
  cases hc with
  | last hc =>
    have hclean : s.Clean (c.bytes ++ []) before (body ++ []) := by rwa [List.append_nil body]
    have hroom : (c.bytes ++ ([] ++ body)).length < maxSize := by simpa using hm
    obtain ⟨t, ht, hloop⟩ := scan_clear (show Clear ([] ++ body) from hc) hclean hroom.le
    obtain ⟨u, hu, hpos, hf, hh, hb⟩ := scanByte_eof ht hroom
    have hstop : u.goesOn = false := by simp [Scan.goesOn, hb]
    exact ⟨_, u, by omega, hloop _ _ (.turn ht.goesOn hu (.done hstop)), .eof hpos hf hh hb⟩
  | @next _ tail d hc hz =>
    have hd : d.bytes = d.bytes.dropLast ++ [1] := by cases d <;> rfl
    have hbody : unit ++ (d.bytes ++ tail) = (unit ++ d.bytes.dropLast) ++ ([1] ++ tail) := by
      rw [List.append_assoc, ← List.append_assoc _ [1], ← hd]
    have hall : unit ++ d.bytes.dropLast ++ [1] = unit ++ d.bytes := by
      rw [List.append_assoc, ← hd]
    rw [hbody] at hstart
    have hroom : (c.bytes ++ (unit ++ d.bytes.dropLast)).length < maxSize := by
      have hlen : d.bytes.dropLast.length ≤ 3 := by cases d <;> decide
      have hcode : 3 ≤ d.bytes.length := by cases d <;> decide
      simp only [List.length_append] at hm ⊢
      omega
    obtain ⟨t, ht, hloop⟩ := scan_clear (show Clear ([] ++ (unit ++ d.bytes.dropLast)) from hc)
      hstart hroom.le
    rw [List.nil_append] at ht
    obtain ⟨u, hu, hpos, hh, hb, h3, h2⟩ := scanByte_spec ht hroom
    rw [hall] at hpos hh h3 h2
    have h3' : u.info3 = true ↔ d = .long := by
      rw [h3]
      cases d with
      | long => exact iff_of_true ⟨unit, rfl⟩ rfl
      | short =>
        refine iff_of_false (fun hs => ?_) (by decide)
        obtain ⟨us, hus⟩ := hs
        have hd := congrArg (fun l => l.dropLast.dropLast.dropLast) hus
        have hunit : us ++ [0] = unit := by simpa [StartCode.bytes] using hd
        exact hz rfl (by rw [← hunit]; simp)
    have hfound : u.startCodeFound = true := by
      rw [Scan.startCodeFound, Bool.or_eq_true, h2, h3']
      cases d with
      | long => exact Or.inr rfl
      | short => exact Or.inl ⟨⟨unit, rfl⟩, Bool.eq_false_iff.mpr fun h => by simpa using h3'.mp h⟩
    have hstop : u.goesOn = false := by simp [Scan.goesOn, hfound]
    refine ⟨_, u, ?_, hloop _ _ (.turn ht.goesOn hu (.done hstop)), ?_⟩
    · have hlen := congrArg List.length hbody
      simp at hlen ⊢
      omega
    · refine .code d ?_ hfound h3' hh ?_
      · rw [hpos, List.length_append, List.length_append, Nat.add_assoc]
      · rw [hb, List.append_assoc, hall]
        rfl

/-! One call. -/

def leftOver (before rest : List UInt8) : File :=
  if rest = [] then exhausted before else reading before rest

theorem leftOver_length (before rest : List UInt8) :
    (leftOver before rest).data.length - (leftOver before rest).pos = rest.length := by
  unfold leftOver
  split
  · rename_i hn
    simp [exhausted, hn]
  · simp [reading]

theorem leftOver_eof (before rest : List UInt8) : (leftOver before rest).eof = true ↔ rest = [] := by
  unfold leftOver
  split <;> simp [*]

structure NALU.Carries (n : NALU) (c : StartCode) (unit : List UInt8) : Prop where
  code : n.startcodeprefixLen = c.bytes.length
  len : n.len = unit.length
  bytes : slice n.buf 0 unit.length = unit
  type : n.nalUnitType = n.buf 0 &&& 0x1f

theorem take_spec {unit zs : List UInt8} (hp : n.startcodeprefixLen = c.bytes.length)
    (hh : Holds buf (c.bytes ++ (unit ++ zs))) (hm : unit.length ≤ n.maxSize) :
    n.take buf unit.length = some { n with
      len := unit.length, buf := blit n.buf 0 unit, nalUnitType := blit n.buf 0 unit 0 &&& 0x1f } := by
  have hsplit : c.bytes ++ (unit ++ zs) = c.bytes ++ unit ++ zs := (List.append_assoc _ _ _).symm
  have hb := hh.bytes
  rw [hsplit, List.length_append, List.length_append, slice_add, slice_add, Nat.zero_add] at hb
  have hcopy : slice (fun k => buf (c.bytes.length + k)) 0 unit.length = unit := by
    rw [slice_shift]
    have hl : (slice buf 0 c.bytes.length ++ slice buf c.bytes.length unit.length).length =
        (c.bytes ++ unit).length := by
      rw [List.length_append, length_slice, length_slice, List.length_append]
    exact (List.append_inj (List.append_inj hb hl).1 (length_slice _ _ _)).2
  have hfit : (0 : Int) ≤ unit.length ∧ ((0 : Nat) : Int) + unit.length ≤ n.maxSize := by omega
  rw [NALU.take, hp, memcpy, if_pos hfit, Int.toNat_natCast, hcopy]

theorem finish_spec {unit : List UInt8} (h : s.Met c unit before rest)
    (hp : n.startcodeprefixLen = c.bytes.length) (hm : unit.length ≤ n.maxSize) :
    ∃ n' : NALU, n.finish s = some (((c.bytes.length + unit.length : Nat) : Int), n',
      leftOver (before ++ unit) rest) ∧ n'.Carries c unit ∧ n'.maxSize = n.maxSize := by
  have hbytes : slice (blit n.buf 0 unit) 0 unit.length = unit := slice_blit _ _ _
  cases h with
  | eof hpos hf hh hb =>
    have hlen : (s.pos : Int) - 1 - n.startcodeprefixLen = unit.length := by rw [hpos, hp]; omega
    have hret : (s.pos : Int) - 1 = (c.bytes.length + unit.length : Nat) := by rw [hpos]; omega
    rw [NALU.finish, hf, if_neg Bool.false_ne_true, hlen, take_spec hp hh hm, hret, hb]
    exact ⟨_, rfl, ⟨hp, rfl, hbytes, rfl⟩, rfl⟩
  | @code tail d hpos hf h3 hh hb =>
    have hrewind : (if s.info3 = true then (-4 : Int) else -3) = -d.bytes.length := by
      cases d with
      | long => rw [if_pos (h3.mpr rfl)]; rfl
      | short => rw [if_neg fun hc => by simpa using h3.mp hc]; rfl
    have hlen : ((c.bytes.length + unit.length : Nat) : Int) - n.startcodeprefixLen =
        unit.length := by
      rw [hp]
      omega
    have hret : (s.pos : Int) + -d.bytes.length = (c.bytes.length + unit.length : Nat) := by
      rw [hpos]
      omega
    have hne : d.bytes ++ tail ≠ [] := d.bytes_ne_nil tail
    rw [NALU.finish, hf, if_pos rfl]
    dsimp only
    rw [hrewind, hret, hlen, take_spec hp hh hm, hb, ← List.append_assoc, fseek_back rfl, leftOver, if_neg hne]
    exact ⟨_, rfl, ⟨hp, rfl, hbytes, rfl⟩, rfl⟩

/-- A call in front of a start code hands out the unit behind it and stops at its end; `Buf` has to
hold the next start code too. -/
theorem getAnnexbNALU_spec (before : List UInt8) {body unit : List UInt8} (hc : Cut body unit rest)
    (hm : c.bytes.length + unit.length + min 4 rest.length < n.maxSize) :
    ∃ n' : NALU, getAnnexbNALU n (reading before (c.bytes ++ body)) =
        some (((c.bytes.length + unit.length : Nat) : Int), n',
          leftOver (before ++ c.bytes ++ unit) rest) ∧
      n'.Carries c unit ∧ n'.maxSize = n.maxSize := by
  have hopen : ∃ buf, (getAnnexbNALU n (reading before (c.bytes ++ body)) =
      getUnit { n with startcodeprefixLen := c.bytes.length } buf (reading (before ++ c.bytes) body)) ∧
      Holds buf c.bytes := by
    cases c with
    | short =>
      refine ⟨blit (fun _ => 0) 0 [0, 0, 1], ?_, ⟨rfl⟩⟩
      have hroom : 0 + [(0 : UInt8), 0, 1].length ≤ n.maxSize := by
        simp [StartCode.bytes] at hm ⊢
        omega
      have hread : (reading before (StartCode.short.bytes ++ body)).fread 3 =
          ([0, 0, 1], reading (before ++ StartCode.short.bytes) body) := fread_append rfl
      simp only [getAnnexbNALU, hread, store, if_pos hroom]
      rfl
    | long =>
      refine ⟨blit (blit (fun _ => 0) 0 [0, 0, 0]) 3 [1], ?_, ⟨rfl⟩⟩
      have hroom : 0 + [(0 : UInt8), 0, 0].length ≤ n.maxSize := by
        simp [StartCode.bytes] at hm ⊢
        omega
      have hroom' : 3 + [(1 : UInt8)].length ≤ n.maxSize := by
        simp [StartCode.bytes] at hm ⊢
        omega
      have hread : (reading before (StartCode.long.bytes ++ body)).fread 3 =
          ([0, 0, 0], reading (before ++ [0, 0, 0]) ([1] ++ body)) :=
        fread_append (rfl : [(0 : UInt8), 0, 0].length = 3)
      have hlast : (reading (before ++ [0, 0, 0]) ([1] ++ body)).fread 1 =
          ([1], reading (before ++ [0, 0, 0] ++ [1]) body) := fread_append rfl
      have hread' : (reading (before ++ [0, 0, 0]) ([1] ++ body)).fread 1 =
          ([1], reading (before ++ StartCode.long.bytes) body) := by
        rw [hlast, List.append_assoc]
        rfl
      simp only [getAnnexbNALU, hread, hread', store, if_pos hroom, if_pos hroom']
      rfl
  obtain ⟨buf, hcall, hbuf⟩ := hopen
  have hclean : Scan.Clean ⟨c.bytes.length, buf, reading (before ++ c.bytes) body, false, false⟩
      c.bytes (before ++ c.bytes) body := ⟨rfl, hbuf, rfl, rfl, rfl⟩
  obtain ⟨k, t, hk, hl, ht⟩ := scan_cut hc hclean hm
  have hunit : unit.length ≤ n.maxSize := by omega
  obtain ⟨n', hn, hcar, hmax⟩ := finish_spec (n := { n with startcodeprefixLen := c.bytes.length })
    ht rfl hunit
  have hfuel : k ≤ (reading (before ++ c.bytes) body).data.length + 1 := by
    simp [reading]
    omega
  refine ⟨n', ?_, hcar, hmax⟩
  rw [hcall, getUnit, loop_run hl hfuel]
  exact hn

/-! Call after call. -/

def NALU.unit (n : NALU) : List UInt8 := slice n.buf 0 n.len

def NALU.coded (n : NALU) : List UInt8 :=
  List.replicate (n.startcodeprefixLen - 1) 0 ++ [1] ++ n.unit

theorem NALU.Carries.unit_eq {unit : List UInt8} (h : n.Carries c unit) : n.unit = unit := by
  rw [NALU.unit, h.len, h.bytes]

theorem NALU.Carries.coded_eq {unit : List UInt8} (h : n.Carries c unit) :
    n.coded = c.bytes ++ unit := by
  rw [NALU.coded, h.unit_eq, h.code]
  cases c <;> rfl

/-- A stream being taken apart, with what each call returned and left in the `NALU`. -/
structure Split where
  nalu : NALU
  bits : File
  calls : List (Int × NALU)

/-- `while (!feof (bits)) GetAnnexbNALU (n);` -/
def Split.goesOn (s : Split) : Bool := !s.bits.eof

def Split.call (s : Split) : Option Split :=
  match getAnnexbNALU s.nalu s.bits with
  | none => none
  | some (r, n, bits) => some ⟨n, bits, s.calls ++ [(r, n)]⟩

structure SoundCall (p : Int × NALU) : Prop where
  code : p.2.startcodeprefixLen = 3 ∨ p.2.startcodeprefixLen = 4
  clear : Clear p.2.unit
  returned : p.1 = p.2.startcodeprefixLen + p.2.len

/-- Between two calls: `before` has been handed out, `rest` is empty or has a start
code in front. -/
structure Split.Between (s : Split) (data before rest : List UInt8) (maxSize : Nat) : Prop where
  bits : s.bits = leftOver before rest
  code : rest = [] ∨ ∃ (c : StartCode) (body : List UInt8), rest = c.bytes ++ body
  whole : before ++ rest = data
  done : s.calls.flatMap (fun p => p.2.coded) = before
  sound : ∀ p ∈ s.calls, SoundCall p
  maxSize : s.nalu.maxSize = maxSize

theorem Split.call_between {s : Split} {data before rest : List UInt8} {maxSize : Nat}
    (h : s.Between data before rest maxSize) (hr : rest ≠ []) (hm : data.length < maxSize) :
    ∃ t before' rest', s.call = some t ∧ t.Between data before' rest' maxSize ∧
      rest'.length < rest.length := by
  obtain ⟨c, body, rfl⟩ := h.code.resolve_left hr
  obtain ⟨unit, rest', hc⟩ := Cut.exists body
  have happ := congrArg List.length hc.append
  have hroom : c.bytes.length + unit.length + min 4 rest'.length < s.nalu.maxSize := by
    rw [h.maxSize]
    have hl := congrArg List.length h.whole
    simp only [List.length_append] at hl happ
    omega
  obtain ⟨n, hn, hcar, hmax⟩ := getAnnexbNALU_spec before hc hroom
  have hlen : c.bytes.length = 3 ∨ c.bytes.length = 4 := by cases c <;> decide
  have hcall : s.call = some ⟨n, leftOver (before ++ c.bytes ++ unit) rest',
      s.calls ++ [(((c.bytes.length + unit.length : Nat) : Int), n)]⟩ := by
    rw [Split.call, h.bits, leftOver, if_neg hr, hn]
  refine ⟨_, before ++ c.bytes ++ unit, rest', hcall,
    ⟨rfl, hc.rest_code, ?_, ?_, ?_, hmax.trans h.maxSize⟩, ?_⟩
  · rw [← h.whole, ← hc.append]
    simp only [List.append_assoc]
  · rw [List.flatMap_append, h.done, List.flatMap_singleton, hcar.coded_eq, List.append_assoc]
  · intro p hp
    cases List.mem_append.mp hp with
    | inl hp => exact h.sound p hp
    | inr hp =>
      rw [List.mem_singleton.mp hp]
      exact ⟨hcar.code ▸ hlen, hcar.unit_eq ▸ hc.clear, by rw [hcar.code, hcar.len]; rfl⟩
  · rw [List.length_append] at happ ⊢
    omega

/-- Whatever stream begins with a start code comes apart into units that make it up again. -/
theorem stream_split {data : List UInt8} (h : [0, 0, 1] <+: data ∨ [0, 0, 0, 1] <+: data)
    (hm : data.length < n.maxSize) :
    ∃ k s, Loop Split.goesOn (fun s t => s.call = some t) k
        ⟨n, File.opened data, []⟩ s ∧
      s.calls.flatMap (fun p => p.2.coded) = data ∧ ∀ p ∈ s.calls, SoundCall p := by
  have hcode : ∃ (c : StartCode) (body : List UInt8), data = c.bytes ++ body := by
    obtain ⟨body, hb⟩ | ⟨body, hb⟩ := h
    · exact ⟨.short, body, hb.symm⟩
    · exact ⟨.long, body, hb.symm⟩
  have hne : data ≠ [] := by
    obtain ⟨c, body, rfl⟩ := hcode
    exact c.bytes_ne_nil body
  have hstart : Split.Between ⟨n, File.opened data, []⟩ data [] data n.maxSize :=
    ⟨by rw [leftOver, if_neg hne]; rfl, Or.inr hcode, rfl, rfl, by simp, rfl⟩
  have hstep : ∀ s : Split, (∃ before rest, s.Between data before rest n.maxSize) →
      s.goesOn = true → ∃ t, s.call = some t ∧
        (∃ before rest, t.Between data before rest n.maxSize) ∧
        t.bits.data.length - t.bits.pos < s.bits.data.length - s.bits.pos := by
    rintro s ⟨before, rest, hs⟩ hcond
    have hr : rest ≠ [] := by
      rw [Split.goesOn, hs.bits, Bool.not_eq_true', ← Bool.not_eq_true, leftOver_eof] at hcond
      exact hcond
    obtain ⟨t, before', rest', hcall, ht, hlt⟩ := Split.call_between hs hr hm
    refine ⟨t, hcall, ⟨before', rest', ht⟩, ?_⟩
    rw [hs.bits, ht.bits, leftOver_length, leftOver_length]
    exact hlt
  have hinit : ∃ before rest, Split.Between ⟨n, File.opened data, []⟩ data before rest n.maxSize :=
    ⟨[], data, hstart⟩
  obtain ⟨k, s, -, hl, before, rest, hs⟩ :=
    Loop.total (fun s : Split => s.bits.data.length - s.bits.pos) hinit hstep
  have hend : rest = [] := by
    have hleave := hl.left
    rwa [Split.goesOn, Bool.not_eq_false', hs.bits, leftOver_eof] at hleave
  refine ⟨k, s, hl, ?_, hs.sound⟩
  rw [hs.done, ← hs.whole, hend, List.append_nil]

/-- `AllocNALU`: the size is an `int`, so positions in a stream that fits are ints too. -/
def allocNALU (buffersize : Nat) : NALU := ⟨0, 0, buffersize, 0, 0, 0, fun _ => 0⟩

def sampleStream : List UInt8 := [0, 0, 0, 1, 0x67, 0x42, 0, 0, 0, 0, 1, 0, 0, 1, 0x65, 0, 0, 1]

theorem sampleStream_split : ∃ k s, Loop Split.goesOn (fun s t => s.call = some t) k
      ⟨allocNALU 19, File.opened sampleStream, []⟩ s ∧
    s.calls.flatMap (fun p => p.2.coded) = sampleStream ∧ ∀ p ∈ s.calls, SoundCall p :=
  stream_split (by decide) (by decide)

end QsaTalk
