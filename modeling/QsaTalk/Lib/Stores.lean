import QsaTalk.Lib.ByteBuffer

/-! Buffers filled by one copy after another, the ranges those copies touch, and whether they stay
inside an object of a given size. -/
namespace Stores
open ByteBuffer

structure Range where
  offset : Nat
  count : Nat

def Range.Inside (size : Nat) (r : Range) : Prop := r.offset + r.count ≤ size

instance (size : Nat) (r : Range) : Decidable (r.Inside size) := inferInstanceAs (Decidable (_ ≤ _))

structure Store where
  offset : Nat
  bytes : List UInt8

def Store.range (s : Store) : Range := ⟨s.offset, s.bytes.length⟩

def stores (b : Buf) (ss : List Store) : Buf := ss.foldl (fun b s => blit b s.offset s.bytes) b

variable {b a a' : Buf} {size : Nat} {ss : List Store}

theorem blit_one (b : Buf) (i : Nat) (v : UInt8) : blit b i [v] = put b i v := by
  funext k
  obtain hk | rfl | hk := Nat.lt_trichotomy k i
  · rw [blit_lt _ _ hk, put_ne _ _ (by omega)]
  · rw [put_self]
    exact blit_add b k [v] (k := 0) (by simp)
  · rw [blit_ge b [v] hk, put_ne _ _ (by omega)]

/-- What stands behind the object is left alone by copies that stay inside. -/
theorem stores_beyond (h : ∀ s ∈ ss, s.range.Inside size) {k : Nat} (hk : size ≤ k) :
    stores b ss k = b k := by
  induction ss generalizing b with
  | nil => rfl
  | cons s ss ih =>
    have hs : s.offset + s.bytes.length ≤ size := h s (by simp)
    have hrest := ih (b := blit b s.offset s.bytes) fun t ht => h t (List.mem_cons_of_mem s ht)
    calc stores b (s :: ss) k
        = stores (blit b s.offset s.bytes) ss k := rfl
      _ = blit b s.offset s.bytes k := hrest
      _ = b k := blit_ge _ _ (Nat.le_trans hs hk)

/-- Equal contents over a range that is read. -/
theorem slice_eq_of_range {r : Range} (h : ∀ k, r.offset ≤ k → k < r.offset + r.count → a k = a' k) :
    slice a r.offset r.count = slice a' r.offset r.count :=
  slice_congr fun _ hk => h _ (Nat.le_add_right _ _) (Nat.add_lt_add_left hk _)

end Stores
