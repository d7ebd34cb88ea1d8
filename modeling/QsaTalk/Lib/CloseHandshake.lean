import Mathlib.Logic.Function.Basic
import Mathlib.Tactic.Common

/-! Two parties close a session by request and reply, in any delivery order and without loss. A
party that is still open answers a request by closing; a closed one ignores everything. The
requests a party has not seen answered stay recorded with it. -/
namespace CloseHandshake
open Function

/-- Per party: whether it is open, its recorded requests, all requests it made, and what is on its
way to it. -/
structure Session where
  isOpen : Bool → Bool
  pending : Bool → Nat
  made : Bool → Nat
  requests : Bool → Nat
  replies : Bool → Nat

inductive Move (s : Session) : Session → Prop
  | request {x} (h : s.isOpen x = true) : Move s { s with
      pending := update s.pending x (s.pending x + 1)
      made := update s.made x (s.made x + 1)
      requests := update s.requests (!x) (s.requests (!x) + 1) }
  | accept {x} {n} (hn : s.requests x = n + 1) (h : s.isOpen x = true) : Move s { s with
      isOpen := update s.isOpen x false
      requests := update s.requests x n
      replies := update s.replies (!x) (s.replies (!x) + 1) }
  | ignoreRequest {x} {n} (hn : s.requests x = n + 1) (h : s.isOpen x = false) : Move s { s with
      requests := update s.requests x n }
  | finish {x} {n m} (hn : s.replies x = n + 1) (h : s.isOpen x = true)
      (hm : s.pending x = m + 1) : Move s { s with
      isOpen := update s.isOpen x false
      pending := update s.pending x m
      replies := update s.replies x n }
  | ignoreReply {x} {n} (hn : s.replies x = n + 1)
      (h : s.isOpen x = false ∨ s.pending x = 0) : Move s { s with
      replies := update s.replies x n }

def Fresh (s : Session) : Prop :=
  ∀ x, s.isOpen x = true ∧ s.pending x = 0 ∧ s.made x = 0 ∧ s.requests x = 0 ∧ s.replies x = 0

/-- What holds along every run, said of party `x` and the other party `!x`. -/
structure InvAt (s : Session) (x : Bool) : Prop where
  sent : s.requests x ≤ s.made (!x)
  kept : s.isOpen x = true → s.pending x = s.made x
  released : s.pending x ≤ s.made x ∧ s.made x ≤ s.pending x + 1
  /-- a reply that closed its party was the last word -/
  lastWord : s.pending x < s.made x →
    s.isOpen x = false ∧ s.isOpen (!x) = false ∧ s.replies x = 0 ∧ s.replies (!x) = 0 ∧
      s.pending (!x) = s.made (!x)
  /-- a reply on its way comes from a party that closed on request -/
  answered : s.replies x = 0 ∨ (s.replies x = 1 ∧ s.isOpen (!x) = false ∧ 1 ≤ s.made x ∧
    s.pending x = s.made x ∧ s.pending (!x) = s.made (!x))
  /-- a closed party was asked to, or got the reply to its own request -/
  reason : s.isOpen x = false →
    (1 ≤ s.made (!x) ∧ (s.isOpen (!x) = true → s.replies (!x) = 1)) ∨ s.pending x < s.made x
  /-- an open party that has asked is waiting for something -/
  waiting : s.isOpen x = true → 1 ≤ s.made x →
    (s.isOpen (!x) = true ∧ 1 ≤ s.requests (!x)) ∨ s.replies x = 1

def Inv (s : Session) : Prop := ∀ x, InvAt s x

theorem Fresh.inv {s : Session} (h : Fresh s) : Inv s := by
  intro x
  obtain ⟨h1, h2, h3, h4, h5⟩ := h x
  obtain ⟨g1, g2, g3, g4, g5⟩ := h (!x)
  constructor <;> simp [*]

/-- A step of party `p` is checked from its own side and from the other side. -/
theorem Inv.of_sides {s : Session} (p : Bool) (hp : InvAt s p) (hq : InvAt s (!p)) : Inv s := by
  intro x
  by_cases hx : x = p
  · exact hx ▸ hp
  · exact (Bool.eq_not.mpr hx) ▸ hq

/-- While a party is open nobody has had the last word. -/
theorem Inv.open_kept {s : Session} (hi : Inv s) {p : Bool} (h : s.isOpen p = true) (x : Bool) :
    s.pending x = s.made x := by
  have hle := (hi x).released.1
  by_contra hne
  obtain ⟨h1, h2, -⟩ := (hi x).lastWord (by omega)
  by_cases hx : p = x
  · simp [← hx, h] at h1
  · simp [← Bool.eq_not.mpr hx, h] at h2

/-! Each move keeps the invariant on both sides. -/

section Moves
variable {s : Session} {p : Bool} {n m : Nat}

theorem request_inv (hi : Inv s) (h : s.isOpen p = true) : Inv { s with
    pending := update s.pending p (s.pending p + 1)
    made := update s.made p (s.made p + 1)
    requests := update s.requests (!p) (s.requests (!p) + 1) } := by
  have hp := hi p
  have hq := hi (!p)
  refine .of_sides p ?_ ?_
  · constructor <;> simp <;> grind [InvAt]
  · constructor <;> simp <;> grind [InvAt]

theorem accept_inv (hi : Inv s) (hn : s.requests p = n + 1) (h : s.isOpen p = true) : Inv { s with
    isOpen := update s.isOpen p false
    requests := update s.requests p n
    replies := update s.replies (!p) (s.replies (!p) + 1) } := by
  have hp := hi p
  have hq := hi (!p)
  have hkept := hi.open_kept h (!p)
  -- no reply is on its way to the asker yet, so the one sent now is the only one
  have hfirst : s.replies (!p) = 0 := hq.answered.resolve_right fun ha => by simp [h] at ha
  have hasked : 1 ≤ s.made (!p) := by
    have := hp.sent
    omega
  refine .of_sides p ?_ ?_
  · constructor <;> simp <;> grind [InvAt]
  · constructor <;> simp <;> grind [InvAt]

theorem ignoreRequest_inv (hi : Inv s) (hn : s.requests p = n + 1) (h : s.isOpen p = false) :
    Inv { s with requests := update s.requests p n } := by
  have hp := hi p
  have hq := hi (!p)
  refine .of_sides p ?_ ?_
  · constructor <;> simp <;> grind [InvAt]
  · constructor <;> simp <;> grind [InvAt]

theorem finish_inv (hi : Inv s) (hn : s.replies p = n + 1) (h : s.isOpen p = true)
    (hm : s.pending p = m + 1) : Inv { s with
      isOpen := update s.isOpen p false
      pending := update s.pending p m
      replies := update s.replies p n } := by
  have hp := hi p
  have hq := hi (!p)
  -- the reply was the only one, and its sender has closed
  obtain ⟨hone, hclosed, -, hmade, hmade'⟩ := hp.answered.resolve_left (by omega)
  have hnone : s.replies (!p) = 0 := hq.answered.resolve_right fun ha => by simp [h] at ha
  refine .of_sides p ?_ ?_
  · constructor <;> simp <;> grind [InvAt]
  · constructor <;> simp <;> grind [InvAt]

theorem ignoreReply_inv (hi : Inv s) (hn : s.replies p = n + 1)
    (h : s.isOpen p = false ∨ s.pending p = 0) :
    Inv { s with replies := update s.replies p n } := by
  have hp := hi p
  have hq := hi (!p)
  obtain ⟨hone, hclosed, hasked, hmade, hmade'⟩ := hp.answered.resolve_left (by omega)
  have hshut : s.isOpen p = false := h.resolve_right (by omega)
  refine .of_sides p ?_ ?_
  · constructor <;> simp <;> grind [InvAt]
  · constructor <;> simp <;> grind [InvAt]

end Moves

theorem move_inv {s s' : Session} (hi : Inv s) (h : Move s s') : Inv s' := by
  cases h with
  | request h => exact request_inv hi h
  | accept hn h => exact accept_inv hi hn h
  | ignoreRequest hn h => exact ignoreRequest_inv hi hn h
  | finish hn h hm => exact finish_inv hi hn h hm
  | ignoreReply hn h => exact ignoreReply_inv hi hn h

/-- Once something was asked and nothing is on its way, both parties are closed. -/
theorem Inv.closed {s : Session} (hi : Inv s) (hm : ∃ x, 1 ≤ s.made x)
    (hq : ∀ x, s.requests x = 0) (hr : ∀ x, s.replies x = 0) (x : Bool) : s.isOpen x = false := by
  have hidle (y : Bool) (hy : 1 ≤ s.made y) : s.isOpen y = false := by
    by_contra ho
    obtain ⟨-, h⟩ | h := (hi y).waiting (by simpa using ho) hy
    · simp [hq] at h
    · simp [hr] at h
  obtain ⟨y, hy⟩ := hm
  by_cases hxy : x = y
  · exact hxy ▸ hidle y hy
  · obtain rfl : x = !y := Bool.eq_not.mpr hxy
    by_cases hx : 1 ≤ s.made (!y)
    · exact hidle _ hx
    · obtain ⟨h, -⟩ | h := (hi y).reason (hidle y hy)
      · exact absurd h hx
      · exact ((hi y).lastWord h).2.1

/-- Then the records are clear exactly when one request was made in all. -/
theorem Inv.clear_iff {s : Session} (hi : Inv s) (hm : ∃ x, 1 ≤ s.made x)
    (hq : ∀ x, s.requests x = 0) (hr : ∀ x, s.replies x = 0) :
    (∀ x, s.pending x = 0) ↔ s.made true + s.made false = 1 := by
  have ht := hi true
  have hf := hi false
  have hct := hi.closed hm hq hr true
  have hcf := hi.closed hm hq hr false
  -- at most one of the two had the last word
  have hone : ¬(s.pending true < s.made true ∧ s.pending false < s.made false) := by
    rintro ⟨h1, h2⟩
    have hkept : s.pending false = s.made false := (ht.lastWord h1).2.2.2.2
    omega
  have hsum : 1 ≤ s.made true + s.made false := by
    obtain ⟨x, hx⟩ := hm
    cases x <;> omega
  have hrt := ht.released
  have hrf := hf.released
  constructor
  · intro hp
    have h1 := hp true
    have h2 := hp false
    omega
  · intro hsum x
    have hreason := (hi x).reason (hi.closed hm hq hr x)
    cases x <;> simp at hreason ⊢ <;> omega

end CloseHandshake
