import Mathlib.Data.List.Basic
import Mathlib.Data.List.Range
import Mathlib.Tactic.Common

/-! A frame cut into pieces of one length, the last one shorter, and put together again from pieces
that arrive in any order. -/
namespace Fragments
variable {α : Type*}

structure Piece (α : Type*) where
  off : Nat
  data : List α

def Piece.covers (p : Piece α) (i : Nat) : Prop := p.off ≤ i ∧ i < p.off + p.data.length

instance (p : Piece α) (i : Nat) : Decidable (p.covers i) := inferInstanceAs (Decidable (_ ∧ _))

def place (b : Nat → Option α) (p : Piece α) : Nat → Option α :=
  fun i => if p.covers i then p.data[i - p.off]? else b i

/-- What a receiver holds once the pieces have arrived, first to last. -/
def assemble (ps : List (Piece α)) : Nat → Option α := ps.foldl place fun _ => none

def Piece.of (xs : List α) (p : Piece α) : Prop := ∀ i, p.covers i → p.data[i - p.off]? = xs[i]?

/-- The pieces are parts of the frame, without overlap and without a gap. -/
structure Tiles (xs : List α) (ps : List (Piece α)) : Prop where
  parts : ∀ p ∈ ps, p.of xs
  disjoint : ps.Pairwise fun p q => ∀ i, ¬(p.covers i ∧ q.covers i)
  complete : ∀ i < xs.length, ∃ p ∈ ps, p.covers i

variable {xs : List α} {ps qs : List (Piece α)}

theorem Tiles.perm (h : Tiles xs ps) (hp : qs.Perm ps) : Tiles xs qs where
  parts p hq := h.parts p (hp.mem_iff.mp hq)
  disjoint := by
    refine hp.symm.pairwise h.disjoint ?_
    intro p q hpq i hi
    exact hpq i hi.symm
  complete i hi := by
    obtain ⟨p, hq, hc⟩ := h.complete i hi
    exact ⟨p, hp.mem_iff.mpr hq, hc⟩

theorem place_parts {b : Nat → Option α} {i : Nat} (h : ∀ p ∈ ps, p.of xs) :
    ps.foldl place b i = if ∃ p ∈ ps, p.covers i then xs[i]? else b i := by
  induction ps generalizing b with
  | nil => simp
  | cons p ps ih =>
    rw [List.foldl_cons, ih fun q hq => h q (List.mem_cons_of_mem _ hq)]
    by_cases hrest : ∃ q ∈ ps, q.covers i
    · obtain ⟨q, hq, hc⟩ := hrest
      rw [if_pos ⟨q, hq, hc⟩, if_pos ⟨q, List.mem_cons_of_mem _ hq, hc⟩]
    · rw [if_neg hrest, place]
      by_cases hc : p.covers i
      · rw [if_pos hc, if_pos ⟨p, List.mem_cons_self, hc⟩]
        exact h p List.mem_cons_self i hc
      · rw [if_neg hc, if_neg]
        rintro ⟨q, hq, hcq⟩
        obtain rfl | hq := List.mem_cons.mp hq
        · exact hc hcq
        · exact hrest ⟨q, hq, hcq⟩

/-- Whatever order the pieces of a tiling arrive in, they give back the frame and nothing else. -/
theorem Tiles.rebuild (h : Tiles xs ps) (hp : qs.Perm ps) : assemble qs = fun i => xs[i]? := by
  have hq := h.perm hp
  funext i
  rw [assemble, place_parts hq.parts]
  by_cases hi : i < xs.length
  · rw [if_pos (hq.complete i hi)]
  · rw [List.getElem?_eq_none (by omega), ite_self]

/-- Pieces may also arrive more than once. -/
theorem Tiles.rebuild_mem (h : Tiles xs ps) (hp : ∀ p, p ∈ qs ↔ p ∈ ps) :
    assemble qs = fun i => xs[i]? := by
  funext i
  rw [assemble, place_parts fun p hq => h.parts p ((hp p).mp hq)]
  by_cases hi : i < xs.length
  · obtain ⟨p, hps, hc⟩ := h.complete i hi
    exact if_pos ⟨p, (hp p).mpr hps, hc⟩
  · rw [List.getElem?_eq_none (by omega), ite_self]

/-! Cutting. -/

def count (n p : Nat) : Nat := (n + p - 1) / p

def piece (p : Nat) (xs : List α) (k : Nat) : Piece α := ⟨k * p, (xs.drop (k * p)).take p⟩

def cut (p : Nat) (xs : List α) : List (Piece α) :=
  (List.range (count xs.length p)).map (piece p xs)

variable {p : Nat}

theorem lt_count_iff (hp : 0 < p) {k n : Nat} : k < count n p ↔ k * p < n := by
  rw [count, ← Nat.succ_le_iff, Nat.le_div_iff_mul_le hp, Nat.succ_mul]
  omega

theorem length_piece (k : Nat) : (piece p xs k).data.length = min p (xs.length - k * p) := by
  rw [piece, List.length_take, List.length_drop]

theorem covers_piece (hp : 0 < p) {k i : Nat} :
    (piece p xs k).covers i ↔ i < xs.length ∧ i / p = k := by
  rw [Piece.covers, length_piece, Nat.div_eq_iff hp]
  change k * p ≤ i ∧ i < k * p + min p (xs.length - k * p) ↔ _
  omega

theorem piece_of (k : Nat) : (piece p xs k).of xs := by
  rintro i ⟨hle, hlt⟩
  rw [length_piece] at hlt
  change k * p ≤ i at hle
  change i < k * p + _ at hlt
  change ((xs.drop (k * p)).take p)[i - k * p]? = _
  rw [List.getElem?_take_of_lt (by omega), List.getElem?_drop]
  congr 1
  omega

theorem cut_tiles (hp : 0 < p) : Tiles xs (cut p xs) where
  parts q hq := by
    obtain ⟨k, -, rfl⟩ := List.mem_map.mp hq
    exact piece_of k
  disjoint := by
    refine List.pairwise_map.mpr (List.pairwise_lt_range.imp ?_)
    rintro k l hkl i ⟨hk, hl⟩
    rw [covers_piece hp] at hk hl
    omega
  complete i hi := by
    refine ⟨piece p xs (i / p), List.mem_map.mpr ⟨i / p, ?_, rfl⟩, (covers_piece hp).mpr ⟨hi, rfl⟩⟩
    rw [List.mem_range, lt_count_iff hp]
    exact (Nat.div_mul_le_self i p).trans_lt hi

end Fragments
