import Mathlib.Tactic.Common

/-! Files read byte by byte, as C's buffered input does: a position, and an end-of-file indicator
that only a read past the last byte sets and that moving the position clears. -/
namespace ByteFile

structure File where
  data : List UInt8
  pos : Nat
  eof : Bool

/-- `none` is `EOF`. -/
def File.fgetc (f : File) : Option UInt8 × File :=
  match f.data[f.pos]? with
  | some b => (some b, { f with pos := f.pos + 1 })
  | none => (none, { f with eof := true })

/-- At most `n` bytes, fewer at the end of the file. -/
def File.fread (n : Nat) (f : File) : List UInt8 × File :=
  let bytes := (f.data.drop f.pos).take n
  (bytes, { f with pos := f.pos + bytes.length, eof := f.eof || bytes.length < n })

/-- `fseek (f, off, SEEK_CUR)`, which fails in front of the first byte. -/
def File.fseekCur (off : Int) (f : File) : Option File :=
  if 0 ≤ f.pos + off then some { f with pos := (f.pos + off).toNat, eof := false } else none

def reading (before rest : List UInt8) : File := ⟨before ++ rest, before.length, false⟩

def exhausted (data : List UInt8) : File := ⟨data, data.length, true⟩

def File.opened (data : List UInt8) : File := reading [] data

variable {before xs rest : List UInt8} {b : UInt8}

@[simp] theorem reading_eof : (reading before rest).eof = false := rfl
@[simp] theorem exhausted_eof : (exhausted rest).eof = true := rfl

theorem fgetc_cons : (reading before (b :: rest)).fgetc = (some b, reading (before ++ [b]) rest) := by
  simp [File.fgetc, reading]

theorem fgetc_nil : (reading before []).fgetc = (none, exhausted before) := by
  simp [File.fgetc, reading, exhausted]

theorem fread_append {n : Nat} (h : xs.length = n) :
    (reading before (xs ++ rest)).fread n = (xs, reading (before ++ xs) rest) := by
  simp [File.fread, reading, ← h]

theorem fseek_back {n : Nat} (h : xs.length = n) :
    (reading (before ++ xs) rest).fseekCur (-n) = some (reading before (xs ++ rest)) := by
  have hpos : ((before ++ xs).length : Int) + -n = before.length := by
    rw [List.length_append]
    omega
  simp only [File.fseekCur, reading, hpos, List.append_assoc]
  simp

end ByteFile
