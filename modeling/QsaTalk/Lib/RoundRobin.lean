import Mathlib.Data.Finset.Lattice.Fold
import Mathlib.Data.Fintype.Basic
import Mathlib.Order.Lattice.Nat
import QsaTalk.Lib.Loops

/-! Components that take turns in a fixed order, round after round. A turn may use and change what
the components share, but of the components themselves only its own. -/
namespace RoundRobin
open Loops
variable {ι σ β ε : Type*}

structure Turn (ι σ ε : Type*) where
  slot : ι
  pre : σ
  out : ε

def turnsOf (turn : ι → σ → Option (σ × ε)) : List ι → σ → Option (σ × List (Turn ι σ ε))
  | [], s => some (s, [])
  | i :: is, s =>
    match turn i s with
    | none => none
    | some (t, e) =>
      match turnsOf turn is t with
      | none => none
      | some (u, ts) => some (u, ⟨i, s, e⟩ :: ts)

/-- Rounds under way: `go` is the flag the loop tests. -/
structure Rounds (ι σ ε : Type*) where
  go : Bool
  now : σ
  log : List (Turn ι σ ε)

def Rounds.next (turn : ι → σ → Option (σ × ε)) (live : σ → Bool) (is : List ι)
    (r : Rounds ι σ ε) : Option (Rounds ι σ ε) :=
  match turnsOf turn is r.now with
  | none => none
  | some (s, ts) => some ⟨live s, s, r.log ++ ts⟩

/-- What a component keeps in its own turns it keeps, if the others leave it alone. -/
theorem turnsOf_keeps {turn : ι → σ → Option (σ × ε)} {view : σ → ι → β} {K : β → Prop} {i : ι}
    (hown : ∀ s t e, turn i s = some (t, e) → K (view s i) → K (view t i))
    (hother : ∀ j s t e, j ≠ i → turn j s = some (t, e) → view t i = view s i) {is : List ι}
    {s t : σ} {ts : List (Turn ι σ ε)} (h : turnsOf turn is s = some (t, ts)) (hk : K (view s i)) :
    K (view t i) := by
  induction is generalizing s ts with
  | nil =>
    obtain ⟨rfl, -⟩ := Prod.mk.inj (Option.some.inj h)
    exact hk
  | cons j is ih =>
    rw [turnsOf] at h
    cases hj : turn j s with
    | none => simp [hj] at h
    | some r =>
      cases hr : turnsOf turn is r.1 with
      | none => simp [hj, hr] at h
      | some q =>
        simp only [hj, hr, Option.some.injEq, Prod.mk.injEq] at h
        have hkr : K (view r.1 i) := by
          by_cases hji : j = i
          · subst j
            exact hown s r.1 r.2 hj hk
          · rw [hother j s r.1 r.2 hji hj]
            exact hk
        obtain ⟨rfl, -⟩ := h
        exact ih hr hkr

variable [DecidableEq ι]

def own (i : ι) (ts : List (Turn ι σ ε)) : List (Turn ι σ ε) :=
  ts.filter fun t => decide (t.slot = i)

theorem own_cons (i : ι) (t : Turn ι σ ε) (ts : List (Turn ι σ ε)) :
    own i (t :: ts) = if t.slot = i then t :: own i ts else own i ts := by
  simp [own, List.filter_cons]

@[simp] theorem own_append (i : ι) (ts us : List (Turn ι σ ε)) :
    own i (ts ++ us) = own i ts ++ own i us :=
  List.filter_append _ _

theorem own_self (i : ι) (s : σ) (e : ε) : own i [(⟨i, s, e⟩ : Turn ι σ ε)] = [⟨i, s, e⟩] := by
  rw [own_cons, if_pos rfl]
  rfl

theorem own_other {i j : ι} (h : j ≠ i) (s : σ) (e : ε) : own j [(⟨i, s, e⟩ : Turn ι σ ε)] = [] := by
  rw [own_cons, if_neg (Ne.symm h)]
  rfl

/-- What is to be known of a single turn. `Good i` relates a component to its turns so far, `left`
bounds the rounds it still needs, and `Shared` holds of the rest. -/
structure Discipline (turn : ι → σ → Option (σ × ε)) (view : σ → ι → β) (Shared : σ → Prop)
    (Good : ι → β → List (Turn ι σ ε) → Prop) (left : β → Nat) : Prop where
  acts : ∀ i s ts, Shared s → Good i (view s i) ts → ∃ t e, turn i s = some (t, e) ∧ Shared t ∧
    Good i (view t i) (ts ++ [⟨i, s, e⟩]) ∧ left (view t i) ≤ left (view s i) - 1 ∧
    ∀ j, j ≠ i → view t j = view s j

variable {turn : ι → σ → Option (σ × ε)} {view : σ → ι → β} {Shared : σ → Prop}
  {Good : ι → β → List (Turn ι σ ε) → Prop} {left : β → Nat}

theorem Discipline.one_round (h : Discipline turn view Shared Good left) {is : List ι}
    (hn : is.Nodup) {s : σ} {ts : List (Turn ι σ ε)} (hs : Shared s)
    (hg : ∀ i, Good i (view s i) (own i ts)) :
    ∃ t us, turnsOf turn is s = some (t, us) ∧ Shared t ∧ (∀ i, Good i (view t i) (own i (ts ++ us))) ∧
      (∀ i ∈ is, left (view t i) ≤ left (view s i) - 1) ∧ ∀ i, i ∉ is → view t i = view s i := by
  induction is generalizing s ts with
  | nil =>
    refine ⟨s, [], rfl, hs, fun i => ?_, by simp, fun _ _ => rfl⟩
    rw [List.append_nil]
    exact hg i
  | cons i is ih =>
    obtain ⟨hi, hn⟩ := List.nodup_cons.mp hn
    obtain ⟨t, e, hturn, ht, hgood, hleft, hother⟩ := h.acts i s (own i ts) hs (hg i)
    have hgt : ∀ j, Good j (view t j) (own j (ts ++ [⟨i, s, e⟩])) := by
      intro j
      by_cases hj : j = i
      · subst j
        rw [own_append, own_self]
        exact hgood
      · rw [own_append, own_other hj, List.append_nil, hother j hj]
        exact hg j
    obtain ⟨u, us, hround, hu, hgu, hlu, hou⟩ := ih hn ht hgt
    refine ⟨u, ⟨i, s, e⟩ :: us, ?_, hu, fun j => ?_, fun j hj => ?_, fun j hj => ?_⟩
    · rw [turnsOf, hturn]
      dsimp only
      rw [hround]
    · rw [List.append_cons]
      exact hgu j
    · by_cases hji : j = i
      · subst j
        rw [hou i hi]
        exact hleft
      · rw [← hother j hji]
        exact hlu j ((List.mem_cons.mp hj).resolve_left hji)
    · obtain ⟨hji, hj⟩ := not_or.mp (mt List.mem_cons.mpr hj)
      rw [hou j hj, hother j hji]

/-- Rounds over all components, the first one taken anyhow, come to an end: the slowest component
says after how many. -/
theorem Discipline.rounds [Fintype ι] (h : Discipline turn view Shared Good left) {is : List ι}
    (hn : is.Nodup) (hall : ∀ i, i ∈ is) {live : σ → Bool}
    (hlive : ∀ s, live s = true ↔ ∃ i, 0 < left (view s i)) {s : σ} (hs : Shared s)
    (hg : ∀ i, Good i (view s i) []) :
    ∃ n r, n ≤ max 1 (Finset.univ.sup fun i => left (view s i)) ∧
      Loop Rounds.go (fun r r' => r.next turn live is = some r') n ⟨true, s, []⟩ r ∧ Shared r.now ∧
      ∀ i, Good i (view r.now i) (own i r.log) ∧ left (view r.now i) = 0 := by
  let most (s : σ) : Nat := Finset.univ.sup fun i => left (view s i)
  have hmost (s : σ) (i : ι) : left (view s i) ≤ most s :=
    Finset.le_sup (f := fun i => left (view s i)) (Finset.mem_univ i)
  let I (r : Rounds ι σ ε) : Prop := Shared r.now ∧ (∀ i, Good i (view r.now i) (own i r.log)) ∧
    (r.go = false → ∀ i, left (view r.now i) = 0)
  let variant (r : Rounds ι σ ε) : Nat := if r.go then max 1 (most r.now) else 0
  have hstep : ∀ r, I r → r.go = true →
      ∃ r', r.next turn live is = some r' ∧ I r' ∧ variant r' < variant r := by
    rintro r ⟨hr, hgr, -⟩ hgo
    obtain ⟨t, us, hround, ht, hgt, hleft, -⟩ := h.one_round hn hr hgr
    refine ⟨⟨live t, t, r.log ++ us⟩, by rw [Rounds.next, hround], ⟨ht, hgt, fun hdone i => ?_⟩, ?_⟩
    · by_contra hpos
      have hon := (hlive t).mpr ⟨i, Nat.pos_of_ne_zero hpos⟩
      exact Bool.false_ne_true (hdone.symm.trans hon)
    · have hless : most t ≤ most r.now - 1 := by
        refine Finset.sup_le fun i _ => ?_
        have h1 := hleft i (hall i)
        have h2 := hmost r.now i
        omega
      simp only [variant, hgo, if_true]
      cases hon : live t with
      | false => simp
      | true =>
        obtain ⟨i, hi⟩ := (hlive t).mp hon
        have hi' := hmost t i
        simp only [if_true]
        omega
  obtain ⟨n, r, hle, hloop, hr, hgr, hdone⟩ :=
    Loop.total (s := ⟨true, s, []⟩) variant (show I ⟨true, s, []⟩ from ⟨hs, hg, by simp⟩) hstep
  exact ⟨n, r, hle, hloop, hr, fun i => ⟨hgr i, hdone hloop.left i⟩⟩

end RoundRobin
