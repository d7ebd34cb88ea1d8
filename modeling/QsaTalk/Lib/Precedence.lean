import Mathlib.Data.List.Basic
import Mathlib.Tactic.Common

/-! Traces read backwards: an event is covered when a grant stands before it that has not been
revoked since. Each rule says what appending to a trace does. -/
namespace Precedence
variable {ε : Type*} {p q r : ε → Prop} {tr evs : List ε}

/-- The trace holds a `p` with no `q` behind it. -/
def Since (p q : ε → Prop) (tr : List ε) : Prop :=
  ∃ u x v, tr = u ++ x :: v ∧ p x ∧ ∀ y ∈ v, ¬q y

theorem Since.append (h : Since p q tr) (hq : ∀ y ∈ evs, ¬q y) : Since p q (tr ++ evs) := by
  obtain ⟨u, x, v, rfl, hx, hv⟩ := h
  refine ⟨u, x, v ++ evs, by simp, hx, fun y hy => ?_⟩
  obtain hy | hy := List.mem_append.mp hy
  · exact hv y hy
  · exact hq y hy

theorem Since.behind (h : Since p q evs) : Since p q (tr ++ evs) := by
  obtain ⟨u, x, v, rfl, hx, hv⟩ := h
  exact ⟨tr ++ u, x, v, by simp, hx, hv⟩

theorem since_concat {x : ε} : Since p q (tr ++ [x]) ↔ p x ∨ Since p q tr ∧ ¬q x := by
  constructor
  · rintro ⟨u, y, v, he, hy, hv⟩
    obtain rfl | ⟨w, z, rfl⟩ := List.eq_nil_or_concat' v
    · obtain ⟨-, hx⟩ := List.append_inj' he rfl
      rw [List.singleton_inj.mp hx]
      exact Or.inl hy
    · rw [← List.cons_append, ← List.append_assoc] at he
      obtain ⟨rfl, hx⟩ := List.append_inj' he rfl
      rw [List.singleton_inj.mp hx]
      exact Or.inr ⟨⟨u, y, w, rfl, hy, fun c hc => hv c (by simp [hc])⟩, hv z (by simp)⟩
  · rintro (hx | ⟨h, hq⟩)
    · exact ⟨tr, x, [], rfl, hx, by simp⟩
    · exact h.append (by simpa using hq)

/-- Every `r` of the trace has a `p` before it with no `q` in between. -/
def Covered (p q r : ε → Prop) (tr : List ε) : Prop :=
  ∀ u x v, tr = u ++ x :: v → r x → Since p q u

theorem covered_nil : Covered p q r [] := by
  intro u x v h
  simp at h

theorem Covered.append (h : Covered p q r tr)
    (hr : ∀ u x v, evs = u ++ x :: v → r x → Since p q (tr ++ u)) : Covered p q r (tr ++ evs) := by
  intro u x v he hx
  obtain ⟨w, hu, hw⟩ | ⟨w, hu, hw⟩ := List.append_eq_append_iff.mp he
  · rw [hu]
    exact hr w x v hw hx
  · cases w with
    | nil =>
      rw [List.nil_append] at hw
      rw [List.append_nil] at hu
      have hlast := hr [] x v hw.symm hx
      rwa [List.append_nil, hu] at hlast
    | cons y w =>
      obtain ⟨rfl, rfl⟩ := List.cons.inj hw
      exact h u x w hu hx

/-! On a given trace these are finite checks. -/

theorem split_get {u v : List ε} {x : ε} (h : tr = u ++ x :: v) :
    ∃ i : Fin tr.length, tr.take i = u ∧ tr.get i = x ∧ tr.drop (i + 1) = v := by
  subst h
  refine ⟨⟨u.length, by simp⟩, by simp, by simp, ?_⟩
  rw [← List.drop_drop, List.drop_left]
  rfl

theorem get_split (tr : List ε) (i : Fin tr.length) :
    tr = tr.take i ++ tr.get i :: tr.drop (i + 1) := by
  rw [List.get_eq_getElem, List.getElem_cons_drop, List.take_append_drop]

theorem forall_split {P : List ε → ε → Prop} :
    (∀ u x v, tr = u ++ x :: v → P u x) ↔ ∀ i : Fin tr.length, P (tr.take i) (tr.get i) := by
  constructor
  · exact fun h i => h _ _ _ (get_split tr i)
  · intro h u x v he
    obtain ⟨i, rfl, rfl, -⟩ := split_get he
    exact h i

theorem since_iff : Since p q tr ↔
    ∃ i : Fin tr.length, p (tr.get i) ∧ ∀ y ∈ tr.drop (i + 1), ¬q y := by
  constructor
  · rintro ⟨u, x, v, he, hx, hv⟩
    obtain ⟨i, -, rfl, rfl⟩ := split_get he
    exact ⟨i, hx, hv⟩
  · rintro ⟨i, hx, hv⟩
    exact ⟨_, _, _, get_split tr i, hx, hv⟩

instance [DecidablePred p] [DecidablePred q] (tr : List ε) : Decidable (Since p q tr) :=
  decidable_of_iff' _ since_iff

end Precedence
