import Mathlib.Data.List.TakeWhile
import QsaTalk.Lib.ByteBuffer

/-! What goes over the wire: command bytes, IPv4 addresses in binary and dotted form, and the
packed `talkdata1` record. Constants keep the names of `libqsa_common.h`. -/
namespace QsaTalk
open ByteBuffer

def udpSendMax : Nat := 50
def maxSendNum : Int := 6
def directCallTime : Int := 200
def timerPerSec : Nat := 2
def intrTime : Nat := 50
def callTimeOut : Nat := 25 * (1000 / intrTime)
def talkTimeOut : Nat := 180 * (1000 / intrTime)
def audioPackDataLen : Int := 1200
def videoPackDataLen : Int := 1350

def sendMessage : UInt8 := 3
def lift : UInt8 := 110
def videoTalk : UInt8 := 150
def videoTalkTrans : UInt8 := 151
def nsOrder : UInt8 := 154

def ask : UInt8 := 1
def reply : UInt8 := 2

def call : UInt8 := 1
def lineUse : UInt8 := 2
def callAnswer : UInt8 := 4
def callStart : UInt8 := 6
def callUp : UInt8 := 7
def callDown : UInt8 := 8
def callConfirm : UInt8 := 9
def remoteOpenLock : UInt8 := 10
def forceIFrame : UInt8 := 11
def openLock : UInt8 := 17
def callEnd : UInt8 := 30

def h264 : UInt8 := 1

def udpPackageHead : List UInt8 := [81, 73, 85, 83, 72, 73]

def localVideoPort : Int := 8302
def remoteVideoPort : Int := 8302

structure IP4 where
  b0 : UInt8
  b1 : UInt8
  b2 : UInt8
  b3 : UInt8
deriving DecidableEq, Repr

def IP4.bytes (a : IP4) : List UInt8 := [a.b0, a.b1, a.b2, a.b3]
def IP4.zero : IP4 := ⟨0, 0, 0, 0⟩
def IP4.none : IP4 := ⟨255, 255, 255, 255⟩

def ipAt (b : Buf) (off : Nat) : IP4 := ⟨b off, b (off + 1), b (off + 2), b (off + 3)⟩

def decimal (b : UInt8) : List UInt8 := (Nat.toDigits 10 b.toNat).map Char.toUInt8

/-- `sprintf(.., "%d.%d.%d.%d", ..)`, also the text `inet_ntoa` gives. -/
def dotted (a : IP4) : List UInt8 := List.intercalate [46] (a.bytes.map decimal)

def isSpace (c : UInt8) : Bool := c == 32 || (9 ≤ c && c ≤ 13)

def digitVal (c : UInt8) : Option Nat :=
  if 48 ≤ c ∧ c ≤ 57 then some (c.toNat - 48)
  else if 97 ≤ c ∧ c ≤ 102 then some (c.toNat - 87)
  else if 65 ≤ c ∧ c ≤ 70 then some (c.toNat - 55)
  else none

def readDigits (base : Nat) : List UInt8 → Nat → Option Nat
  | [], acc => some acc
  | c :: cs, acc =>
    match digitVal c with
    | none => none
    | some v => if v < base then readDigits base cs (base * acc + v) else none

/-- One part of an address, in C notation: hexadecimal, octal or decimal. -/
def inetPart : List UInt8 → Option Nat
  | [] => none
  | c :: cs =>
    if c = 48 ∧ (cs.head? = some 120 ∨ cs.head? = some 88) then
      if cs.tail = [] then none else readDigits 16 cs.tail 0
    else if c = 48 then readDigits 8 cs 0
    else readDigits 10 (c :: cs) 0

/-- `inet_addr`: one to four parts, the last one filling the bytes that are left; text after a
blank is ignored, anything malformed gives `INADDR_NONE`. -/
def inetAddr (cp : List UInt8) : IP4 :=
  match ((cp.takeWhile fun c => !isSpace c).splitOn 46).mapM inetPart with
  | some [a, b, c, d] =>
    if a < 256 ∧ b < 256 ∧ c < 256 ∧ d < 256 then
      ⟨.ofNat a, .ofNat b, .ofNat c, .ofNat d⟩ else IP4.none
  | some [a, b, c] =>
    if a < 256 ∧ b < 256 ∧ c < 2 ^ 16 then
      ⟨.ofNat a, .ofNat b, .ofNat (c / 2 ^ 8), .ofNat c⟩ else IP4.none
  | some [a, b] =>
    if a < 256 ∧ b < 2 ^ 24 then
      ⟨.ofNat a, .ofNat (b / 2 ^ 16), .ofNat (b / 2 ^ 8), .ofNat b⟩ else IP4.none
  | some [a] =>
    if a < 2 ^ 32 then
      ⟨.ofNat (a / 2 ^ 24), .ofNat (a / 2 ^ 16), .ofNat (a / 2 ^ 8), .ofNat a⟩ else IP4.none
  | _ => IP4.none

/-- What `%d` prints of a byte is read back, and holds neither a dot nor a blank. -/
def decimalOk (n : Nat) : Bool :=
  inetPart (decimal (.ofNat n)) == some (UInt8.ofNat n).toNat &&
    (decimal (.ofNat n)).all fun c => c != 46 && !isSpace c

theorem decimal_spec (b : UInt8) :
    inetPart (decimal b) = some b.toNat ∧ ∀ c ∈ decimal b, c ≠ 46 ∧ isSpace c = false := by
  have h : (List.range 256).all decimalOk = true := by decide +kernel
  have hb := List.all_eq_true.mp h b.toNat (List.mem_range.mpr b.toNat_lt)
  simpa [decimalOk] using hb

/-- Formatting an address and parsing it back is the identity. -/
theorem inetAddr_dotted (a : IP4) : inetAddr (dotted a) = a := by
  have hblank : ∀ c ∈ dotted a, (!isSpace c) = true := by
    intro c hc
    simp only [dotted, IP4.bytes, List.map_cons, List.map_nil, List.intercalate_cons_cons,
      List.intercalate_singleton, List.mem_append, List.mem_singleton] at hc
    obtain ((hc | rfl) | (hc | rfl) | (hc | rfl) | hc) := hc <;>
      first | rfl | simp [(decimal_spec _).2 c hc]
  have hsplit : (dotted a).splitOn 46 = a.bytes.map decimal := by
    apply List.splitOn_intercalate
    · intro l hl
      obtain ⟨b, _, rfl⟩ := List.mem_map.mp hl
      exact fun h => ((decimal_spec b).2 46 h).1 rfl
    · simp [IP4.bytes]
  have hparts : (a.bytes.map decimal).mapM inetPart = some (a.bytes.map UInt8.toNat) := by
    simp [IP4.bytes, (decimal_spec _).1]
  have hb (b : UInt8) : b.toNat < 256 := b.toNat_lt
  rw [inetAddr, List.takeWhile_eq_self_iff.mpr hblank, hsplit, hparts]
  simp [IP4.bytes, hb]

/-! The packed record in front of every media payload. -/

structure TalkData1 where
  hostAddr : Buf
  hostIP : IP4
  assiAddr : Buf
  assiIP : IP4
  timestamp : UInt32
  dataType : UInt16
  frameno : UInt16
  framelen : UInt32
  totalPackage : UInt16
  currPackage : UInt16
  datalen : UInt16
  packLen : UInt16

def sizeofTalkData1 : Nat := 68

def TalkData1.bytes (t : TalkData1) : List UInt8 :=
  slice t.hostAddr 0 20 ++ t.hostIP.bytes ++ slice t.assiAddr 0 20 ++ t.assiIP.bytes ++
    le32 t.timestamp ++ le16 t.dataType ++ le16 t.frameno ++ le32 t.framelen ++
    le16 t.totalPackage ++ le16 t.currPackage ++ le16 t.datalen ++ le16 t.packLen

def TalkData1.read (b : Buf) (off : Nat) : TalkData1 where
  hostAddr := fun k => b (off + k)
  hostIP := ipAt b (off + 20)
  assiAddr := fun k => b (off + 24 + k)
  assiIP := ipAt b (off + 44)
  timestamp := read32 b (off + 48)
  dataType := read16 b (off + 52)
  frameno := read16 b (off + 54)
  framelen := read32 b (off + 56)
  totalPackage := read16 b (off + 60)
  currPackage := read16 b (off + 62)
  datalen := read16 b (off + 64)
  packLen := read16 b (off + 66)

theorem TalkData1.length_bytes (t : TalkData1) : t.bytes.length = sizeofTalkData1 := by
  simp [TalkData1.bytes, length_slice, IP4.bytes, le16, le32, sizeofTalkData1]

/-- The same record as far as it is sent: of an address buffer, twenty bytes. -/
structure TalkData1.Same (t u : TalkData1) : Prop where
  hostAddr : slice t.hostAddr 0 20 = slice u.hostAddr 0 20
  hostIP : t.hostIP = u.hostIP
  assiAddr : slice t.assiAddr 0 20 = slice u.assiAddr 0 20
  assiIP : t.assiIP = u.assiIP
  timestamp : t.timestamp = u.timestamp
  dataType : t.dataType = u.dataType
  frameno : t.frameno = u.frameno
  framelen : t.framelen = u.framelen
  totalPackage : t.totalPackage = u.totalPackage
  currPackage : t.currPackage = u.currPackage
  datalen : t.datalen = u.datalen
  packLen : t.packLen = u.packLen

def TalkData1.fields (t : TalkData1) : List (List UInt8) :=
  [slice t.hostAddr 0 20, t.hostIP.bytes, slice t.assiAddr 0 20, t.assiIP.bytes,
    le32 t.timestamp, le16 t.dataType, le16 t.frameno, le32 t.framelen,
    le16 t.totalPackage, le16 t.currPackage, le16 t.datalen, le16 t.packLen]

theorem TalkData1.bytes_fields (t : TalkData1) : t.bytes = t.fields.flatten := by
  simp [TalkData1.bytes, TalkData1.fields]

theorem ipAt_of_slice {b : Buf} {off : Nat} {a : IP4} (h : slice b off 4 = a.bytes) :
    ipAt b off = a := by
  have h0 := getElem?_of_slice h 0 (by decide)
  have h1 := getElem?_of_slice h 1 (by decide)
  have h2 := getElem?_of_slice h 2 (by decide)
  have h3 := getElem?_of_slice h 3 (by decide)
  simp only [IP4.bytes, List.getElem?_cons_zero, List.getElem?_cons_succ, Option.some.injEq,
    Nat.add_zero] at h0 h1 h2 h3
  rw [ipAt, ← h0, ← h1, ← h2, ← h3]

/-- The header record of a packet is read back as it was written. -/
theorem TalkData1.read_bytes (t : TalkData1) (head post : List UInt8) :
    (TalkData1.read (ofList (head ++ (t.bytes ++ post))) head.length).Same t := by
  rw [bytes_fields]
  have h (k : Nat) (hk : k < 12) := slice_field head post t.fields (k := k) hk
  exact {
    hostAddr := (slice_shift _ _ _).trans (h 0 (by decide))
    hostIP := ipAt_of_slice (h 1 (by decide))
    assiAddr := (slice_shift _ _ _).trans (h 2 (by decide))
    assiIP := ipAt_of_slice (h 3 (by decide))
    timestamp := read32_of_slice (h 4 (by decide))
    dataType := read16_of_slice (h 5 (by decide))
    frameno := read16_of_slice (h 6 (by decide))
    framelen := read32_of_slice (h 7 (by decide))
    totalPackage := read16_of_slice (h 8 (by decide))
    currPackage := read16_of_slice (h 9 (by decide))
    datalen := read16_of_slice (h 10 (by decide))
    packLen := read16_of_slice (h 11 (by decide)) }

end QsaTalk
