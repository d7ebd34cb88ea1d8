import Mathlib.Tactic.Common

/-! `while` loops around a body that may get stuck. `Loop cond body n s t`: entered in `s` the loop
takes `n` turns and is left in `t`. A loop that gets stuck or goes on forever has no such `t`. -/
namespace Loops
variable {σ : Type*}

inductive Loop (cond : σ → Bool) (body : σ → σ → Prop) : Nat → σ → σ → Prop
  | done {s} (hc : cond s = false) : Loop cond body 0 s s
  | turn {n s t u} (hc : cond s = true) (hs : body s t) (hl : Loop cond body n t u) :
      Loop cond body (n + 1) s u

def Ends (cond : σ → Bool) (body : σ → σ → Prop) (s : σ) : Prop := ∃ n t, Loop cond body n s t

variable {cond : σ → Bool} {body : σ → σ → Prop} {n : Nat} {s t : σ}

theorem Loop.left (h : Loop cond body n s t) : cond t = false := by
  induction h with
  | done hc => exact hc
  | turn _ _ _ ih => exact ih

theorem Loop.invariant {I : σ → Prop} (h : Loop cond body n s t) (h0 : I s)
    (hstep : ∀ s t, I s → cond s = true → body s t → I t) : I t := by
  induction h with
  | done _ => exact h0
  | turn hc hs _ ih => exact ih (hstep _ _ h0 hc hs)

/-- The total rule: an invariant under which the body is never stuck, and a variant it decreases. -/
theorem Loop.total {I : σ → Prop} (m : σ → Nat) (h0 : I s)
    (hstep : ∀ s, I s → cond s = true → ∃ t, body s t ∧ I t ∧ m t < m s) :
    ∃ n t, n ≤ m s ∧ Loop cond body n s t ∧ I t := by
  induction hm : m s using Nat.strongRecOn generalizing s with
  | _ k ih =>
    cases hc : cond s with
    | false => exact ⟨0, s, Nat.zero_le _, .done hc, h0⟩
    | true =>
      obtain ⟨t, hs, ht, hlt⟩ := hstep s h0 hc
      obtain ⟨n, u, hn, hl, hu⟩ := ih (m t) (hm ▸ hlt) ht rfl
      exact ⟨n + 1, u, by omega, .turn hc hs hl, hu⟩

/-- A loop that cannot leave a set of states in which it goes on does not end. -/
theorem Loop.never {I : σ → Prop} (h0 : I s) (hc : ∀ s, I s → cond s = true)
    (hstep : ∀ s t, I s → body s t → I t) : ¬Ends cond body s := by
  rintro ⟨n, t, h⟩
  have ht : I t := h.invariant h0 fun s t hs _ hb => hstep s t hs hb
  exact Bool.false_ne_true (h.left.symm.trans (hc t ht))

/-- A loop with a body that is a function ends in one way at most. -/
theorem Loop.functional {m : Nat} {u : σ} (hb : ∀ s t u, body s t → body s u → t = u)
    (h : Loop cond body n s t) (h' : Loop cond body m s u) : n = m ∧ t = u := by
  induction h generalizing m with
  | done hc =>
    cases h' with
    | done _ => exact ⟨rfl, rfl⟩
    | turn hc' _ _ => exact absurd (hc.symm.trans hc') Bool.false_ne_true
  | turn hc hs _ ih =>
    cases h' with
    | done hc' => exact absurd (hc'.symm.trans hc) Bool.false_ne_true
    | turn _ hs' hl' =>
      obtain rfl := hb _ _ _ hs hs'
      obtain ⟨rfl, rfl⟩ := ih hl'
      exact ⟨rfl, rfl⟩

/-! Loops whose body is a partial function. -/

def Leads (cond : σ → Bool) (f : σ → Option σ) (s t : σ) : Prop :=
  ∃ n, Loop cond (fun s t => f s = some t) n s t

theorem leads_done {f : σ → Option σ} (hc : cond s = false) : Leads cond f s t ↔ t = s := by
  constructor
  · rintro ⟨n, hl⟩
    cases hl with
    | done _ => rfl
    | turn hc' _ _ => exact absurd (hc.symm.trans hc') Bool.false_ne_true
  · rintro rfl
    exact ⟨0, .done hc⟩

/-- Where the loop leads is where it leads after a turn. -/
theorem leads_turn {f : σ → Option σ} {u : σ} (hc : cond s = true) (hs : f s = some t) :
    Leads cond f s u ↔ Leads cond f t u := by
  constructor
  · rintro ⟨n, hl⟩
    cases hl with
    | done hc' => exact absurd (hc'.symm.trans hc) Bool.false_ne_true
    | turn _ hs' hl =>
      obtain rfl := Option.some.inj (hs.symm.trans hs')
      exact ⟨_, hl⟩
  · rintro ⟨n, hl⟩
    exact ⟨n + 1, .turn hc hs hl⟩

/-- At most `fuel` turns, computed. -/

def run (cond : σ → Bool) (f : σ → Option σ) : Nat → σ → Option σ
  | 0, s => if cond s then none else some s
  | fuel + 1, s => if cond s then (f s).bind (run cond f fuel) else some s

variable {f : σ → Option σ} {fuel : Nat}

theorem loop_run (h : Loop cond (fun s t => f s = some t) n s t) (hn : n ≤ fuel) :
    run cond f fuel s = some t := by
  induction h generalizing fuel with
  | done hc => cases fuel <;> simp [run, hc]
  | turn hc hs _ ih =>
    cases fuel with
    | zero => omega
    | succ fuel =>
      rw [run, if_pos hc, hs, Option.bind_some]
      exact ih (by omega)

end Loops
