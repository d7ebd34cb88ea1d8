import Mathlib.Algebra.Ring.Nat
import Mathlib.Data.List.Basic
import Mathlib.Tactic.Common

/-! Flat byte memory: a buffer is its contents at every offset, `blit` is a copy into it and
`slice` reads a range back. Only `memcpy` knows a capacity; it fails when the copy leaves it. -/
namespace ByteBuffer

abbrev Buf := Nat → UInt8

def put (b : Buf) (i : Nat) (v : UInt8) : Buf := fun k => if k = i then v else b k

def blit (b : Buf) (off : Nat) (xs : List UInt8) : Buf :=
  fun k => if k < off then b k else (xs[k - off]?).getD (b k)

def slice (b : Buf) (off n : Nat) : List UInt8 := (List.range n).map fun k => b (off + k)

/-- A bounded copy of `n` bytes: undefined (`none`) for a negative count or past the end. -/
def memcpy (cap : Nat) (b : Buf) (off : Nat) (src : Buf) (n : Int) : Option Buf :=
  if 0 ≤ n ∧ off + n ≤ cap then some (blit b off (slice src 0 n.toNat)) else none

/-- A NUL-terminated string held in the first `cap` bytes. -/
def cstr (b : Buf) (cap : Nat) : List UInt8 := (slice b 0 cap).takeWhile (· ≠ 0)

def ofList (xs : List UInt8) : Buf := fun k => (xs[k]?).getD 0

theorem put_self (b : Buf) (i : Nat) (v : UInt8) : put b i v i = v := if_pos rfl

theorem put_ne (b : Buf) {i k : Nat} (v : UInt8) (h : k ≠ i) : put b i v k = b k := if_neg h

theorem blit_lt (b : Buf) {off k : Nat} (xs : List UInt8) (h : k < off) :
    blit b off xs k = b k := if_pos h

theorem blit_add (b : Buf) (off : Nat) (xs : List UInt8) {k : Nat} (h : k < xs.length) :
    blit b off xs (off + k) = xs[k] := by
  have hk : ¬ off + k < off := by omega
  simp [blit, hk, h]

theorem blit_ge (b : Buf) {off k : Nat} (xs : List UInt8) (h : off + xs.length ≤ k) :
    blit b off xs k = b k := by
  have hk : ¬ k < off := by omega
  have hx : xs[k - off]? = none := List.getElem?_eq_none (by omega)
  simp [blit, hk, hx]

theorem length_slice (b : Buf) (off n : Nat) : (slice b off n).length = n := by
  simp [slice]

theorem getElem_slice (b : Buf) (off n k : Nat) (h : k < (slice b off n).length) :
    (slice b off n)[k] = b (off + k) := by
  simp [slice]

theorem getElem?_slice (b : Buf) (off n k : Nat) :
    (slice b off n)[k]? = if k < n then some (b (off + k)) else none := by
  by_cases h : k < n <;> simp [slice, h]

theorem slice_congr {a b : Buf} {off n : Nat} (h : ∀ k < n, a (off + k) = b (off + k)) :
    slice a off n = slice b off n := by
  apply List.map_congr_left
  intro k hk
  exact h k (List.mem_range.mp hk)

theorem slice_add (b : Buf) (off m n : Nat) :
    slice b off (m + n) = slice b off m ++ slice b (off + m) n := by
  apply List.ext_getElem
  · simp [length_slice]
  · intro k _ _
    rw [getElem_slice, List.getElem_append]
    split
    · rw [getElem_slice]
    · rename_i hk
      rw [length_slice] at hk
      rw [getElem_slice, length_slice]
      congr 1
      omega

theorem take_drop_slice (b : Buf) (off n k p : Nat) :
    ((slice b off n).drop k).take p = slice b (off + k) (min p (n - k)) := by
  apply List.ext_getElem
  · rw [List.length_take, List.length_drop, length_slice, length_slice]
  · intro i _ _
    rw [List.getElem_take, List.getElem_drop, getElem_slice, getElem_slice, Nat.add_assoc]

theorem slice_blit (b : Buf) (off : Nat) (xs : List UInt8) :
    slice (blit b off xs) off xs.length = xs := by
  apply List.ext_getElem
  · exact length_slice _ _ _
  · intro k _ hk
    rw [getElem_slice, blit_add _ _ _ hk]

/-- Copying a range onto itself changes nothing. -/
theorem blit_slice_self (b : Buf) (off n : Nat) : blit b off (slice b off n) = b := by
  funext k
  by_cases hk : k < off
  · exact blit_lt _ _ hk
  · obtain ⟨j, rfl⟩ := Nat.exists_eq_add_of_le (Nat.le_of_not_lt hk)
    by_cases hj : j < n
    · rw [blit_add _ _ _ (by rwa [length_slice]), getElem_slice]
    · exact blit_ge _ _ (by rw [length_slice]; omega)

theorem blit_again (b : Buf) (off : Nat) (xs : List UInt8) :
    blit (blit b off xs) off xs = blit b off xs := by
  have h := blit_slice_self (blit b off xs) off xs.length
  rwa [slice_blit] at h

theorem slice_blit_before (b : Buf) {off o n : Nat} (xs : List UInt8) (h : o + n ≤ off) :
    slice (blit b off xs) o n = slice b o n :=
  slice_congr fun k hk => blit_lt b xs (by omega)

theorem slice_blit_behind (b : Buf) {off o n : Nat} (xs : List UInt8) (h : off + xs.length ≤ o) :
    slice (blit b off xs) o n = slice b o n :=
  slice_congr fun k _ => blit_ge b xs (by omega)

/-- Appending: the first bytes are kept, the copy follows them. -/
theorem slice_append_blit (b : Buf) (off : Nat) (xs : List UInt8) :
    slice (blit b off xs) 0 (off + xs.length) = slice b 0 off ++ xs := by
  rw [slice_add, Nat.zero_add, slice_blit, slice_blit_before b xs (by omega)]

theorem slice_blit_next (b : Buf) (off : Nat) (xs : List UInt8) {n : Nat}
    (h : off + xs.length = n) : slice (blit b off xs) 0 n = slice b 0 off ++ xs := by
  rw [← h, slice_append_blit]

theorem slice_put_next (b : Buf) (i : Nat) (v : UInt8) :
    slice (put b i v) 0 (i + 1) = slice b 0 i ++ [v] := by
  rw [slice_add, slice_congr fun k hk => put_ne b v (by omega : 0 + k ≠ i)]
  simp [slice, put_self]

theorem slice_put_outside (b : Buf) {i o n : Nat} (v : UInt8) (h : i < o ∨ o + n ≤ i) :
    slice (put b i v) o n = slice b o n :=
  slice_congr fun k hk => put_ne b v (by omega)

theorem slice_succ (b : Buf) (off n : Nat) :
    slice b off (n + 1) = slice b off n ++ [b (off + n)] := by
  simp [slice, List.range_succ]

/-- A byte written inside a range that is already filled. -/
theorem slice_put (b : Buf) (i : Nat) (v : UInt8) (n : Nat) :
    slice (put b i v) 0 n = (slice b 0 n).set i v := by
  apply List.ext_getElem
  · simp [length_slice]
  · intro k _ _
    rw [getElem_slice, List.getElem_set, getElem_slice, Nat.zero_add]
    split
    · rename_i hk
      rw [hk, put_self]
    · rename_i hk
      exact put_ne b v (Ne.symm hk)

/-! Little-endian fields of a packed record. -/

def le16 (v : UInt16) : List UInt8 := [UInt8.ofNat v.toNat, UInt8.ofNat (v.toNat / 2 ^ 8)]

def le32 (v : UInt32) : List UInt8 :=
  [UInt8.ofNat v.toNat, UInt8.ofNat (v.toNat / 2 ^ 8),
    UInt8.ofNat (v.toNat / 2 ^ 16), UInt8.ofNat (v.toNat / 2 ^ 24)]

def read16 (b : Buf) (off : Nat) : UInt16 :=
  UInt16.ofNat ((b off).toNat + 2 ^ 8 * (b (off + 1)).toNat)

def read32 (b : Buf) (off : Nat) : UInt32 :=
  UInt32.ofNat ((b off).toNat + 2 ^ 8 * (b (off + 1)).toNat +
    2 ^ 16 * (b (off + 2)).toNat + 2 ^ 24 * (b (off + 3)).toNat)

theorem getElem?_of_slice {b : Buf} {off n : Nat} {xs : List UInt8} (h : slice b off n = xs)
    (k : Nat) (hk : k < n) : xs[k]? = some (b (off + k)) := by
  rw [← h, getElem?_slice, if_pos hk]

theorem read16_of_slice {b : Buf} {off : Nat} {v : UInt16} (h : slice b off 2 = le16 v) :
    read16 b off = v := by
  have h0 := getElem?_of_slice h 0 (by decide)
  have h1 := getElem?_of_slice h 1 (by decide)
  simp only [le16, List.getElem?_cons_zero, List.getElem?_cons_succ, Option.some.injEq,
    Nat.add_zero] at h0 h1
  have hv := v.toNat_lt
  apply UInt16.toNat_inj.mp
  rw [read16, ← h0, ← h1, UInt16.toNat_ofNat', UInt8.toNat_ofNat', UInt8.toNat_ofNat']
  omega

theorem read32_of_slice {b : Buf} {off : Nat} {v : UInt32} (h : slice b off 4 = le32 v) :
    read32 b off = v := by
  have h0 := getElem?_of_slice h 0 (by decide)
  have h1 := getElem?_of_slice h 1 (by decide)
  have h2 := getElem?_of_slice h 2 (by decide)
  have h3 := getElem?_of_slice h 3 (by decide)
  simp only [le32, List.getElem?_cons_zero, List.getElem?_cons_succ, Option.some.injEq,
    Nat.add_zero] at h0 h1 h2 h3
  have hv := v.toNat_lt
  apply UInt32.toNat_inj.mp
  rw [read32, ← h0, ← h1, ← h2, ← h3, UInt32.toNat_ofNat']
  simp only [UInt8.toNat_ofNat']
  omega

/-! Records without padding: the fields of a record stand one behind the other. -/

theorem slice_ofList (pre f post : List UInt8) :
    slice (ofList (pre ++ (f ++ post))) pre.length f.length = f := by
  apply List.ext_getElem
  · exact length_slice _ _ _
  · intro k _ hk
    rw [getElem_slice, ofList, List.getElem?_append_right (by omega),
      List.getElem?_append_left (by omega), List.getElem?_eq_getElem (by omega), Option.getD_some]
    congr 1
    omega

theorem ofList_append (pre post : List UInt8) (k : Nat) :
    ofList (pre ++ post) (pre.length + k) = ofList post k := by
  rw [ofList, List.getElem?_append_right (Nat.le_add_right _ _), Nat.add_sub_cancel_left, ofList]

/-- A field in the middle of a message. -/
theorem take_drop_field {pre f post : List UInt8} {off n : Nat} (hpre : pre.length = off)
    (hf : f.length = n) : ((pre ++ f ++ post).drop off).take n = f := by
  rw [List.append_assoc, List.drop_left' hpre, List.take_left' hf]

theorem slice_field (pre post : List UInt8) (fs : List (List UInt8)) {k : Nat}
    (hk : k < fs.length) :
    slice (ofList (pre ++ (fs.flatten ++ post))) (pre.length + (fs.take k).flatten.length)
      fs[k].length = fs[k] := by
  have hsplit : pre ++ (fs.flatten ++ post) =
      (pre ++ (fs.take k).flatten) ++ (fs[k] ++ ((fs.drop (k + 1)).flatten ++ post)) := by
    calc pre ++ (fs.flatten ++ post)
        = pre ++ ((fs.take k ++ fs.drop k).flatten ++ post) := by rw [List.take_append_drop]
      _ = pre ++ ((fs.take k ++ fs[k] :: fs.drop (k + 1)).flatten ++ post) := by
          rw [List.drop_eq_getElem_cons hk]
      _ = _ := by simp only [List.flatten_append, List.flatten_cons, List.append_assoc]
  rw [hsplit, ← List.length_append]
  exact slice_ofList _ _ _

theorem slice_shift (b : Buf) (off n : Nat) : slice (fun k => b (off + k)) 0 n = slice b off n :=
  List.map_congr_left fun k _ => by rw [Nat.zero_add]

end ByteBuffer
