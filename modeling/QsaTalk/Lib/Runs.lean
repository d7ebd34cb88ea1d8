import Mathlib.Data.List.Infix
import Mathlib.Algebra.BigOperators.Group.List.Basic
import Mathlib.Algebra.Ring.Nat
import Mathlib.Tactic.Common

/-! Finite runs of a deterministic machine whose step may be undefined. Each rule turns a fact
about one step into a fact about every run; the steps taken are kept, oldest first. -/
namespace Runs

structure Transition (σ α ε : Type*) where
  pre : σ
  act : α
  post : σ
  out : ε

variable {σ α ε : Type*}

/-- `Run step s₀ ts s`: the machine took the transitions `ts` from `s₀` and stands in `s`. -/
inductive Run (step : σ → α → Option (σ × ε)) (s₀ : σ) : List (Transition σ α ε) → σ → Prop
  | start : Run step s₀ [] s₀
  | step {ts s a s' o} (h : Run step s₀ ts s) (hs : step s a = some (s', o)) :
      Run step s₀ (ts ++ [⟨s, a, s', o⟩]) s'

def states (s₀ : σ) (ts : List (Transition σ α ε)) : List σ := s₀ :: ts.map Transition.post

variable {step : σ → α → Option (σ × ε)} {s₀ s : σ} {ts : List (Transition σ α ε)}

theorem Run.invariant {J : σ → Prop} (h : Run step s₀ ts s) (h0 : J s₀)
    (hstep : ∀ s a s' o, J s → step s a = some (s', o) → J s') : J s := by
  induction h with
  | start => exact h0
  | step _ hs ih => exact hstep _ _ _ _ ih hs

/-- The same for what is said of the history along with the state. -/
theorem Run.history {I : List (Transition σ α ε) → σ → Prop} (h : Run step s₀ ts s) (h0 : I [] s₀)
    (hstep : ∀ ts s a s' o, Run step s₀ ts s → I ts s → step s a = some (s', o) →
      I (ts ++ [⟨s, a, s', o⟩]) s') : I ts s := by
  induction h with
  | start => exact h0
  | step h hs ih => exact hstep _ _ _ _ _ h ih hs

/-- What every step from an invariant state guarantees holds of every transition of the run. -/
theorem Run.each {J : σ → Prop} {G : Transition σ α ε → Prop} (h : Run step s₀ ts s) (h0 : J s₀)
    (hinv : ∀ s a s' o, J s → step s a = some (s', o) → J s')
    (hG : ∀ s a s' o, J s → step s a = some (s', o) → G ⟨s, a, s', o⟩) : ∀ t ∈ ts, G t := by
  induction h with
  | start => simp
  | @step ts s a s' o h hs ih =>
    have hJ : J s := h.invariant h0 hinv
    intro t ht
    cases List.mem_append.mp ht with
    | inl ht =>
      exact ih t ht
    | inr ht =>
      rw [List.mem_singleton.mp ht]
      exact hG _ _ _ _ hJ hs

/-- A predicate on the history and the state it leads to, read along the whole run. -/
def Always (step : σ → α → Option (σ × ε)) (s₀ : σ) (I : List (Transition σ α ε) → σ → Prop)
    (ts : List (Transition σ α ε)) : Prop :=
  ∀ us u, us <+: ts → Run step s₀ us u → I us u

/-- Every step of the run met the condition when it was taken. -/
def Guarded (C : List (Transition σ α ε) → σ → α → Prop) (ts : List (Transition σ α ε)) : Prop :=
  ∀ us t, us ++ [t] <+: ts → C us t.pre t.act

theorem Run.functional {u v : σ} (h : Run step s₀ ts u) (h' : Run step s₀ ts v) : u = v := by
  cases h with
  | start =>
    generalize hn : ([] : List (Transition σ α ε)) = ns at h'
    cases h' with
    | start => rfl
    | step _ _ => simp at hn
  | @step ts₁ s₁ a₁ _ o₁ h₁ hs₁ =>
    generalize hn : ts₁ ++ [(⟨s₁, a₁, u, o₁⟩ : Transition σ α ε)] = ns at h'
    cases h' with
    | start => simp at hn
    | @step ts₂ s₂ a₂ _ o₂ h₂ hs₂ =>
      have ht := (List.append_inj' hn rfl).2
      simp only [List.cons.injEq, Transition.mk.injEq, and_true] at ht
      exact ht.2.2.1

theorem always_start {I : List (Transition σ α ε) → σ → Prop} (h0 : I [] s₀) :
    Always step s₀ I [] := by
  intro us u hp hu
  have hn : us = [] := List.prefix_nil.mp hp
  subst hn
  rw [hu.functional .start]
  exact h0

theorem always_step {I : List (Transition σ α ε) → σ → Prop} {t : Transition σ α ε} {s' : σ}
    (h' : Run step s₀ (ts ++ [t]) s') :
    Always step s₀ I (ts ++ [t]) ↔ Always step s₀ I ts ∧ I (ts ++ [t]) s' := by
  constructor
  · intro h
    exact ⟨fun us u hp => h us u (hp.trans (List.prefix_append _ _)),
      h _ _ (List.prefix_refl _) h'⟩
  · rintro ⟨h, hlast⟩ us u hp hu
    obtain rfl | hp := List.prefix_concat_iff.mp hp
    · rw [hu.functional h']
      exact hlast
    · exact h us u hp hu

theorem guarded_step {C : List (Transition σ α ε) → σ → α → Prop} {t : Transition σ α ε} :
    Guarded C (ts ++ [t]) ↔ Guarded C ts ∧ C ts t.pre t.act := by
  constructor
  · intro h
    exact ⟨fun us u hp => h us u (hp.trans (List.prefix_append _ _)), h _ _ (List.prefix_refl _)⟩
  · rintro ⟨h, hlast⟩ us u hp
    cases List.prefix_concat_iff.mp hp with
    | inl he =>
      obtain ⟨rfl, hu⟩ := List.append_inj' he rfl
      rw [List.singleton_inj.mp hu]
      exact hlast
    | inr hp =>
      exact h us u hp

theorem Always.last {I : List (Transition σ α ε) → σ → Prop} (h : Run step s₀ ts s)
    (ha : Always step s₀ I ts) : I ts s :=
  ha ts s (List.prefix_refl _) h

theorem Run.prefix {us : List (Transition σ α ε)} (h : Run step s₀ ts s) (hp : us <+: ts) :
    ∃ u, Run step s₀ us u := by
  induction h with
  | start =>
    rw [List.prefix_nil.mp hp]
    exact ⟨s₀, .start⟩
  | @step ts s a s' o h hs ih =>
    obtain rfl | hp := List.prefix_concat_iff.mp hp
    · exact ⟨s', h.step hs⟩
    · exact ih hp

theorem Run.trans {us : List (Transition σ α ε)} {u : σ} (h : Run step s₀ ts s)
    (h' : Run step s us u) : Run step s₀ (ts ++ us) u := by
  induction h' with
  | start =>
    rw [List.append_nil]
    exact h
  | step _ hs ih =>
    rw [← List.append_assoc]
    exact ih.step hs

/-- The last step of a run was taken. -/
theorem Run.last {t : Transition σ α ε} (h : Run step s₀ (ts ++ [t]) s) :
    Run step s₀ ts t.pre ∧ step t.pre t.act = some (t.post, t.out) ∧ t.post = s := by
  generalize hn : ts ++ [t] = us at h
  cases h with
  | start => simp at hn
  | @step us u a _ o h hs =>
    obtain ⟨rfl, ht⟩ := List.append_inj' hn rfl
    obtain rfl := List.singleton_inj.mp ht
    exact ⟨h, hs, rfl⟩

/-- The exactness rule: if a step out of a good state leads to a good state just when `C` holds
of it, a run is good throughout just when all its steps meet `C`. -/
theorem Run.exact {J : σ → Prop} {I : List (Transition σ α ε) → σ → Prop}
    {C : List (Transition σ α ε) → σ → α → Prop} (h : Run step s₀ ts s)
    (hJ0 : J s₀) (hJ : ∀ s a s' o, J s → step s a = some (s', o) → J s') (h0 : I [] s₀)
    (hstep : ∀ ts s a s' o, Run step s₀ ts s → J s → I ts s → step s a = some (s', o) →
      (I (ts ++ [⟨s, a, s', o⟩]) s' ↔ C ts s a)) :
    Always step s₀ I ts ↔ Guarded C ts := by
  induction h with
  | start =>
    refine ⟨fun _ us t hp => ?_, fun _ => always_start h0⟩
    simp at hp
  | @step ts s a s' o h hs ih =>
    rw [always_step (h.step hs), guarded_step, ← ih]
    refine and_congr_right fun hall => ?_
    exact hstep ts s a s' o h (h.invariant hJ0 hJ) (Always.last h hall) hs

theorem always_states {I : σ → Prop} (h : Run step s₀ ts s) :
    Always step s₀ (fun _ u => I u) ts ↔ ∀ u ∈ states s₀ ts, I u := by
  induction h with
  | start =>
    constructor
    · intro h u hu
      rw [List.mem_singleton.mp hu]
      exact h [] s₀ (List.prefix_refl _) .start
    · intro h
      exact always_start (h s₀ (by simp [states]))
  | @step ts s a s' o h hs ih =>
    rw [always_step (h.step hs), ih]
    simp only [states, List.map_append, List.map_cons, List.map_nil, List.mem_cons,
      List.mem_append, List.not_mem_nil, or_false]
    constructor
    · rintro ⟨hold, hnew⟩ u (rfl | hu | rfl)
      · exact hold _ (Or.inl rfl)
      · exact hold u (Or.inr hu)
      · exact hnew
    · intro hu
      exact ⟨fun u h => hu u (h.imp_right Or.inl), hu s' (Or.inr (Or.inr rfl))⟩

theorem guarded_forall {C : σ → α → Prop} :
    Guarded (fun _ s a => C s a) ts ↔ ∀ t ∈ ts, C t.pre t.act := by
  induction ts using List.reverseRecOn with
  | nil => simp [Guarded]
  | append_singleton ts t ih =>
    rw [guarded_step, ih]
    simp [or_imp, forall_and]

/-- The exactness rule for a property of single states. -/
theorem Run.exact_states {J I : σ → Prop} {C : σ → α → Prop} (h : Run step s₀ ts s)
    (hJ0 : J s₀) (hJ : ∀ s a s' o, J s → step s a = some (s', o) → J s') (h0 : I s₀)
    (hstep : ∀ s a s' o, J s → I s → step s a = some (s', o) → (I s' ↔ C s a)) :
    (∀ u ∈ states s₀ ts, I u) ↔ ∀ t ∈ ts, C t.pre t.act := by
  rw [← always_states h, ← guarded_forall]
  exact h.exact hJ0 hJ h0 fun _ s a s' o _ hj hi hs => hstep s a s' o hj hi hs

/-- Double-entry bookkeeping: a stock changes by what each step books in and out. -/
theorem Run.ledger {J : σ → Prop} (h : Run step s₀ ts s) (stock : σ → Nat)
    (credit debit : Transition σ α ε → Nat) (h0 : J s₀)
    (hJ : ∀ s a s' o, J s → step s a = some (s', o) → J s')
    (hstep : ∀ s a s' o, J s → step s a = some (s', o) →
      stock s' + debit ⟨s, a, s', o⟩ = stock s + credit ⟨s, a, s', o⟩) :
    stock s + (ts.map debit).sum = stock s₀ + (ts.map credit).sum := by
  induction h with
  | start => simp
  | @step ts s a s' o h hs ih =>
    have hb := hstep s a s' o (h.invariant h0 hJ) hs
    simp only [List.map_append, List.map_cons, List.map_nil, List.sum_append, List.sum_cons,
      List.sum_nil]
    omega

/-- The same where a step may waste some of what it has. -/
theorem Run.budget {J : σ → Prop} (h : Run step s₀ ts s) (stock : σ → Nat)
    (credit debit : Transition σ α ε → Nat) (h0 : J s₀)
    (hJ : ∀ s a s' o, J s → step s a = some (s', o) → J s')
    (hstep : ∀ s a s' o, J s → step s a = some (s', o) →
      stock s' + debit ⟨s, a, s', o⟩ ≤ stock s + credit ⟨s, a, s', o⟩) :
    stock s + (ts.map debit).sum ≤ stock s₀ + (ts.map credit).sum := by
  induction h with
  | start => simp
  | @step ts s a s' o h hs ih =>
    have hb := hstep s a s' o (h.invariant h0 hJ) hs
    simp only [List.map_append, List.map_cons, List.map_nil, List.sum_append, List.sum_cons,
      List.sum_nil]
    omega

/-- Unwinding: steps that are dropped from a run stay silent and invisible to the states related by
`R`, and the kept ones look the same from both sides, so the run without the dropped steps exists
and shows the same views. Which steps are dropped may depend on the states they are taken in. -/
theorem Run.purge {ω : Type*} {t₀ : σ} (h : Run step s₀ ts s) (R : σ → σ → Prop)
    (keep : σ → α → Bool) (Ok : σ → α → Prop) (view : Transition σ α ε → ω) (Silent : ω → Prop)
    (hR : R s₀ t₀) (hok : ∀ t ∈ ts, Ok t.pre t.act)
    (hkeep : ∀ s t a s' o, R s t → keep s a = true → Ok s a → step s a = some (s', o) →
      ∃ t' o', step t a = some (t', o') ∧ R s' t' ∧ view ⟨s, a, s', o⟩ = view ⟨t, a, t', o'⟩)
    (hdrop : ∀ s t a s' o, R s t → keep s a = false → Ok s a → step s a = some (s', o) →
      R s' t ∧ Silent (view ⟨s, a, s', o⟩)) :
    ∃ us t, Run step t₀ us t ∧ R s t ∧
      us.map Transition.act = (ts.filter fun t => keep t.pre t.act).map Transition.act ∧
      us.map view = (ts.filter fun t => keep t.pre t.act).map view ∧
      ∀ t ∈ ts, keep t.pre t.act = false → Silent (view t) := by
  induction h with
  | start => exact ⟨[], t₀, .start, hR, by simp, by simp, by simp⟩
  | @step ts s a s' o h hs ih =>
    obtain ⟨us, t, hrun, hst, hact, hview, hsil⟩ :=
      ih fun t ht => hok t (List.mem_append_left _ ht)
    have ha : Ok s a := hok ⟨s, a, s', o⟩ (by simp)
    by_cases hk : keep s a = true
    · obtain ⟨t', o', ht, hR', hv⟩ := hkeep s t a s' o hst hk ha hs
      refine ⟨us ++ [⟨t, a, t', o'⟩], t', hrun.step ht, hR', by simp [hact, hk],
        by simp [hview, hk, hv], fun u hu hku => ?_⟩
      cases List.mem_append.mp hu with
      | inl hu =>
        exact hsil u hu hku
      | inr hu =>
        rw [List.mem_singleton.mp hu, hk] at hku
        exact absurd hku (by decide)
    · have hk' : keep s a = false := Bool.eq_false_iff.mpr hk
      obtain ⟨hR', hquiet⟩ := hdrop s t a s' o hst hk' ha hs
      refine ⟨us, t, hrun, hR', by simp [hact, hk'], by simp [hview, hk'], fun u hu hku => ?_⟩
      cases List.mem_append.mp hu with
      | inl hu =>
        exact hsil u hu hku
      | inr hu =>
        rw [List.mem_singleton.mp hu]
        exact hquiet

/-- A trace collected from the views alone does not show the dropped steps. -/
theorem trace_purged {ω κ : Type*} {us : List (Transition σ α ε)} {view : Transition σ α ε → ω}
    {p : Transition σ α ε → Bool} (g : ω → List κ) (hv : us.map view = (ts.filter p).map view)
    (hdrop : ∀ t ∈ ts, p t = false → g (view t) = []) :
    us.flatMap (fun t => g (view t)) = ts.flatMap fun t => g (view t) := by
  have hfilter : (ts.filter p).flatMap (fun t => g (view t)) = ts.flatMap fun t => g (view t) := by
    clear hv
    induction ts with
    | nil => rfl
    | cons t ts ih =>
      have htail := ih fun u hu => hdrop u (List.mem_cons_of_mem _ hu)
      by_cases hp : p t = true
      · rw [List.filter_cons_of_pos hp, List.flatMap_cons, List.flatMap_cons, htail]
      · rw [List.filter_cons_of_neg hp, List.flatMap_cons, htail,
          hdrop t List.mem_cons_self (Bool.eq_false_iff.mpr hp), List.nil_append]
  calc us.flatMap (fun t => g (view t))
      = (us.map view).flatMap g := (List.flatMap_map view g us).symm
    _ = ((ts.filter p).map view).flatMap g := by rw [hv]
    _ = (ts.filter p).flatMap fun t => g (view t) := List.flatMap_map view g _
    _ = ts.flatMap fun t => g (view t) := hfilter

/-- Executing a list of actions, for runs on concrete inputs. -/
def trail (step : σ → α → Option (σ × ε)) : σ → List α → Option (List (Transition σ α ε) × σ)
  | s, [] => some ([], s)
  | s, a :: as =>
    match step s a with
    | none => none
    | some (s', o) =>
      match trail step s' as with
      | none => none
      | some (ts, u) => some (⟨s, a, s', o⟩ :: ts, u)

theorem Run.cons {a : α} {s' : σ} {o : ε} (hs : step s₀ a = some (s', o))
    (h : Run step s' ts s) : Run step s₀ (⟨s₀, a, s', o⟩ :: ts) s := by
  induction h with
  | start => exact Run.step .start hs
  | step _ hs' ih => exact Run.step ih hs'

theorem run_of_trail {as : List α} (h : trail step s₀ as = some (ts, s)) : Run step s₀ ts s := by
  induction as generalizing s₀ ts with
  | nil =>
    simp only [trail, Option.some.injEq, Prod.mk.injEq] at h
    obtain ⟨rfl, rfl⟩ := h
    exact .start
  | cons a as ih =>
    simp only [trail] at h
    split at h
    · simp at h
    · rename_i s' o hs
      split at h
      · simp at h
      · rename_i us u hu
        simp only [Option.some.injEq, Prod.mk.injEq] at h
        obtain ⟨rfl, rfl⟩ := h
        exact Run.cons hs (ih hu)

theorem trail_acts {as : List α} (h : trail step s₀ as = some (ts, s)) :
    ts.map Transition.act = as := by
  induction as generalizing s₀ ts with
  | nil =>
    simp only [trail, Option.some.injEq, Prod.mk.injEq] at h
    obtain ⟨rfl, rfl⟩ := h
    rfl
  | cons a as ih =>
    simp only [trail] at h
    split at h
    · simp at h
    · split at h
      · simp at h
      · rename_i us u hu
        simp only [Option.some.injEq, Prod.mk.injEq] at h
        obtain ⟨rfl, rfl⟩ := h
        rw [List.map_cons, ih hu]

end Runs
