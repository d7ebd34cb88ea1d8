import Mathlib.Data.Finset.Lattice.Fold
import Mathlib.Data.Fintype.Basic
import Mathlib.Order.Lattice.Nat
import QsaTalk.Lib.RoundRobin
import QsaTalk.Lib.Runs

/-! A worker that sleeps on a counting semaphore, and others that leave jobs for it in the slots of
a table and post. All of them take turns in any order; a post comes after the job it is for. -/
namespace Worker
open Runs
variable {n : Nat} {σ α ε : Type*}

/-- Where the worker is: blocked, before its turn at a slot, or asking a slot whether to go on. -/
inductive Place where
  | asleep
  | sweep (k : Nat)
  | check (k : Nat)
deriving DecidableEq

structure Shop (σ : Type*) where
  shared : σ
  sem : Nat
  owed : Nat
  place : Place

inductive Deed (α : Type*) where
  | other (a : α)
  | post
  | work

/-- What the worker and the others do to the state they share; `posts` are those a deed owes. -/
structure Rules (n : Nat) (σ α ε : Type*) where
  busy : σ → Fin n → Bool
  turn : Fin n → σ → Option (σ × List ε)
  other : σ → α → Option (σ × List ε)
  posts : List ε → Nat

def Rules.work (R : Rules n σ α ε) (s : Shop σ) : Option (Shop σ × List ε) :=
  match s.place with
  | .asleep => if s.sem = 0 then none else some ({ s with sem := s.sem - 1, place := .sweep 0 }, [])
  | .sweep k =>
    if h : k < n then
      match R.turn ⟨k, h⟩ s.shared with
      | none => none
      | some (t, e) => some ({ s with shared := t, place := .sweep (k + 1) }, e)
    else some ({ s with place := .check 0 }, [])
  | .check k =>
    if h : k < n then
      some ({ s with place := if R.busy s.shared ⟨k, h⟩ then .sweep 0 else .check (k + 1) }, [])
    else some ({ s with place := .asleep }, [])

def Rules.step (R : Rules n σ α ε) (s : Shop σ) : Deed α → Option (Shop σ × List ε)
  | .other a =>
    match R.other s.shared a with
    | none => none
    | some (t, e) => some ({ s with shared := t, owed := s.owed + R.posts e }, e)
  | .post => if s.owed = 0 then none else some ({ s with owed := s.owed - 1, sem := s.sem + 1 }, [])
  | .work => R.work s

/-- What a step can do, each case with what it met. -/
inductive Happens (R : Rules n σ α ε) (s : Shop σ) : Deed α → Shop σ → List ε → Prop
  | other {a t e} (h : R.other s.shared a = some (t, e)) :
      Happens R s (.other a) { s with shared := t, owed := s.owed + R.posts e } e
  | post (h : 0 < s.owed) :
      Happens R s .post { s with owed := s.owed - 1, sem := s.sem + 1 } []
  | wake (hp : s.place = .asleep) (h : 0 < s.sem) :
      Happens R s .work { s with sem := s.sem - 1, place := .sweep 0 } []
  | turn {k t e} (hp : s.place = .sweep k) (hk : k < n)
      (h : R.turn ⟨k, hk⟩ s.shared = some (t, e)) :
      Happens R s .work { s with shared := t, place := .sweep (k + 1) } e
  | swept {k} (hp : s.place = .sweep k) (hk : n ≤ k) : Happens R s .work { s with place := .check 0 } []
  | again {k} (hp : s.place = .check k) (hk : k < n) (h : R.busy s.shared ⟨k, hk⟩ = true) :
      Happens R s .work { s with place := .sweep 0 } []
  | passed {k} (hp : s.place = .check k) (hk : k < n) (h : R.busy s.shared ⟨k, hk⟩ = false) :
      Happens R s .work { s with place := .check (k + 1) } []
  | sleep {k} (hp : s.place = .check k) (hk : n ≤ k) : Happens R s .work { s with place := .asleep } []

theorem work_happens {R : Rules n σ α ε} {s s' : Shop σ} {e : List ε}
    (h : R.work s = some (s', e)) : Happens R s .work s' e := by
  unfold Rules.work at h
  split at h
  · rename_i hp
    split at h
    · simp at h
    · rename_i hs
      obtain ⟨rfl, rfl⟩ := Prod.mk.inj (Option.some.inj h)
      exact .wake hp (Nat.pos_of_ne_zero hs)
  · rename_i k hp
    split at h
    · rename_i hk
      split at h
      · simp at h
      · rename_i t o ht
        obtain ⟨rfl, rfl⟩ := Prod.mk.inj (Option.some.inj h)
        exact .turn hp hk ht
    · rename_i hk
      obtain ⟨rfl, rfl⟩ := Prod.mk.inj (Option.some.inj h)
      exact .swept hp (Nat.le_of_not_lt hk)
  · rename_i k hp
    split at h
    · rename_i hk
      obtain ⟨rfl, rfl⟩ := Prod.mk.inj (Option.some.inj h)
      cases hb : R.busy s.shared ⟨k, hk⟩ with
      | true => exact .again hp hk hb
      | false => exact .passed hp hk hb
    · rename_i hk
      obtain ⟨rfl, rfl⟩ := Prod.mk.inj (Option.some.inj h)
      exact .sleep hp (Nat.le_of_not_lt hk)

theorem step_happens {R : Rules n σ α ε} {s s' : Shop σ} {a : Deed α} {e : List ε}
    (h : R.step s a = some (s', e)) : Happens R s a s' e := by
  cases a with
  | other a =>
    simp only [Rules.step] at h
    split at h
    · simp at h
    · rename_i t o ht
      obtain ⟨rfl, rfl⟩ := Prod.mk.inj (Option.some.inj h)
      exact .other ht
  | post =>
    simp only [Rules.step] at h
    split at h
    · simp at h
    · rename_i hs
      obtain ⟨rfl, rfl⟩ := Prod.mk.inj (Option.some.inj h)
      exact .post (Nat.pos_of_ne_zero hs)
  | work => exact work_happens h

/-- The discipline: jobs come with a post, turns are defined and bring no jobs of their own, and a
job loses rank in each of its turns. -/
structure Lawful (R : Rules n σ α ε) (J : σ → Prop) (rank : σ → Fin n → Nat) : Prop where
  other_keeps : ∀ s a t e, J s → R.other s a = some (t, e) → J t
  announced : ∀ s a t e i, J s → R.other s a = some (t, e) → R.busy t i = true →
    R.busy s i = true ∨ 0 < R.posts e
  busy_iff : ∀ s i, J s → (R.busy s i = true ↔ 0 < rank s i)
  turn_runs : ∀ s i, J s → ∃ t e, R.turn i s = some (t, e) ∧ J t ∧
    (0 < rank s i → rank t i < rank s i) ∧ ∀ j, rank t j ≤ rank s j

variable {R : Rules n σ α ε} {J : σ → Prop} {rank : σ → Fin n → Nat} {s s' s₀ : Shop σ}
  {ts : List (Transition (Shop σ) (Deed α) (List ε))}

theorem Lawful.turn_rank (h : Lawful R J rank) {s t : σ} {i : Fin n} {e : List ε} (hJ : J s)
    (ht : R.turn i s = some (t, e)) :
    J t ∧ (0 < rank s i → rank t i < rank s i) ∧ ∀ j, rank t j ≤ rank s j := by
  obtain ⟨t', e', ht', hrest⟩ := h.turn_runs s i hJ
  obtain ⟨rfl, -⟩ := Prod.mk.inj (Option.some.inj (ht.symm.trans ht'))
  exact hrest

theorem Lawful.keeps (h : Lawful R J rank) {a : Deed α} {e : List ε} (hJ : J s.shared)
    (hs : R.step s a = some (s', e)) : J s'.shared := by
  cases step_happens hs with
  | other ht => exact h.other_keeps _ _ _ _ hJ ht
  | turn _ _ ht => exact (h.turn_rank hJ ht).1
  | post | wake | swept | again | passed | sleep => exact hJ

/-! No wake-up is lost. -/

def Place.before (i : Fin n) : Place → Prop
  | .asleep => False
  | .sweep _ => True
  | .check k => k ≤ i

/-- No job is forgotten: a post is on its way, or the worker will still come past. -/
def Attended (R : Rules n σ α ε) (s : Shop σ) : Prop :=
  ∀ i, R.busy s.shared i = true → 0 < s.sem + s.owed ∨ s.place.before i

theorem attended_step (h : Lawful R J rank) {a : Deed α} {e : List ε} (hJ : J s.shared)
    (ha : Attended R s) (hs : R.step s a = some (s', e)) : Attended R s' := by
  intro i hi
  cases step_happens hs with
  | other ht =>
    obtain hb | hp := h.announced _ _ _ _ i hJ ht hi
    · exact (ha i hb).imp_left fun hp => by dsimp only; omega
    · exact Or.inl (by dsimp only; omega)
  | post => exact Or.inl (by dsimp only; omega)
  | wake | swept | again => exact Or.inr (by simp [Place.before])
  | turn => exact Or.inr trivial
  | @passed k hp hk hb =>
    refine (ha i hi).imp id fun hle => ?_
    rw [hp] at hle
    refine Nat.lt_of_le_of_ne hle fun heq => ?_
    have hki : (⟨k, hk⟩ : Fin n) = i := Fin.ext heq
    simp [← hki, hb] at hi
  | sleep hp hk =>
    refine (ha i hi).imp id fun hle => ?_
    rw [hp] at hle
    exact absurd (Nat.lt_of_le_of_lt hle i.isLt) (Nat.not_lt.mpr hk)

theorem run_attended (h : Lawful R J rank) (hr : Run R.step s₀ ts s) (hJ : J s₀.shared)
    (ha : Attended R s₀) : J s.shared ∧ Attended R s :=
  hr.invariant (J := fun s => J s.shared ∧ Attended R s) ⟨hJ, ha⟩ fun _ _ _ _ hs hstep =>
    ⟨h.keeps hs.1 hstep, attended_step h hs.1 hs.2 hstep⟩

/-- The worker is blocked only on its semaphore. -/
theorem blocked_iff (h : Lawful R J rank) (hJ : J s.shared) :
    R.work s = none ↔ s.place = .asleep ∧ s.sem = 0 := by
  cases hp : s.place with
  | asleep => simp [Rules.work, hp]
  | sweep k =>
    by_cases hk : k < n
    · obtain ⟨t, e, ht, -⟩ := h.turn_runs s.shared ⟨k, hk⟩ hJ
      simp [Rules.work, hp, hk, ht]
    · simp [Rules.work, hp, hk]
  | check k => by_cases hk : k < n <;> simp [Rules.work, hp, hk]

/-- A worker that is blocked with no post under way has left nothing undone. -/
theorem Attended.done (h : Attended R s) (hp : s.place = .asleep) (hs : s.sem = 0)
    (ho : s.owed = 0) (i : Fin n) : R.busy s.shared i = false := by
  by_contra hb
  obtain hpos | hbefore := h i (by simpa using hb)
  · omega
  · rw [hp] at hbefore
    exact hbefore

/-! The work comes to an end. -/

def Place.swept (i : Fin n) : Place → Bool
  | .asleep => false
  | .sweep k => decide ((i : Nat) < k)
  | .check _ => true

def weight (rank : σ → Fin n → Nat) (s : Shop σ) (i : Fin n) : Nat :=
  if rank s.shared i = 0 then 0 else rank s.shared i + (s.place.swept i).toNat

def height (rank : σ → Fin n → Nat) (s : Shop σ) : Nat := Finset.univ.sup (weight rank s)

def Place.rest (n : Nat) : Place → Nat
  | .asleep => 0
  | .sweep k => n - k + (n + 2)
  | .check k => n - k + 1

def dues (n : Nat) (s : Shop σ) : Nat := s.place.rest n + s.sem * (2 * n + 3) + s.owed * (2 * n + 4)

def potential (rank : σ → Fin n → Nat) (s : Shop σ) : Nat := height rank s * (2 * n + 1) + dues n s

theorem weight_le_height (s : Shop σ) (i : Fin n) : weight rank s i ≤ height rank s :=
  Finset.le_sup (f := weight rank s) (Finset.mem_univ i)

theorem height_mono (h : ∀ i, weight rank s' i ≤ weight rank s i) :
    height rank s' ≤ height rank s :=
  Finset.sup_mono_fun fun i _ => h i

/-- Where no slot gains rank, only a slot's own turn can mark it as swept. -/
theorem weight_mono {i : Fin n} (hr : rank s'.shared i ≤ rank s.shared i)
    (hp : s'.place.swept i = true → s.place.swept i = true) :
    weight rank s' i ≤ weight rank s i := by
  have hb : (s'.place.swept i).toNat ≤ (s.place.swept i).toNat := by
    cases hs : s'.place.swept i with
    | false => exact Nat.zero_le _
    | true => rw [hp hs]
  unfold weight
  split
  · exact Nat.zero_le _
  · split <;> omega

def Quiet (R : Rules n σ α ε) (rank : σ → Fin n → Nat) (s : σ) (a : α) : Prop :=
  ∀ t e, R.other s a = some (t, e) → R.posts e = 0 ∧ ∀ i, rank t i ≤ rank s i

theorem potential_mono {c : Nat} (hh : height rank s' ≤ height rank s)
    (hd : dues n s' + c ≤ dues n s) : potential rank s' + c ≤ potential rank s := by
  have hmul := Nat.mul_le_mul_right (2 * n + 1) hh
  unfold potential
  omega

def Deed.works : Deed α → Bool
  | .other _ => false
  | _ => true

/-- The slot that keeps the loop going has lost rank in the sweep. -/
theorem height_again {k : Nat} (hp : s.place = .check k) (hk : k < n)
    (hpos : 0 < rank s.shared ⟨k, hk⟩) :
    height rank { s with place := .sweep 0 } + 1 ≤ height rank s := by
  have htop : 2 ≤ height rank s := by
    refine Nat.le_trans ?_ (weight_le_height s ⟨k, hk⟩)
    rw [weight, if_neg (Nat.ne_of_gt hpos), hp]
    exact Nat.succ_le_succ hpos
  have hh : height rank { s with place := .sweep 0 } ≤ height rank s - 1 := by
    refine Finset.sup_le fun i _ => ?_
    have hi : weight rank s i ≤ height rank s := weight_le_height s i
    rw [weight, hp] at hi
    rw [weight]
    split
    · exact Nat.zero_le _
    · rename_i hne
      rw [if_neg hne] at hi
      exact Nat.le_sub_of_add_le hi
  omega

/-- Every step of the worker and every post is paid for. -/
theorem potential_step (h : Lawful R J rank) {a : Deed α} {e : List ε} (hJ : J s.shared)
    (hq : ∀ b, a = .other b → Quiet R rank s.shared b) (hs : R.step s a = some (s', e)) :
    potential rank s' + a.works.toNat ≤ potential rank s := by
  cases step_happens hs with
  | other ht =>
    obtain ⟨hpost, hrank⟩ := hq _ rfl _ _ ht
    refine potential_mono (height_mono fun i => weight_mono (hrank i) id) ?_
    simp [dues, hpost, Deed.works]
  | post hpos =>
    obtain ⟨k, hk⟩ := Nat.exists_eq_succ_of_ne_zero (Nat.ne_of_gt hpos)
    refine potential_mono (Nat.le_refl _) ?_
    simp only [dues, hk, Nat.succ_sub_one, Nat.succ_mul, Deed.works, Bool.toNat_true]
    omega
  | wake hp hpos =>
    obtain ⟨k, hk⟩ := Nat.exists_eq_succ_of_ne_zero (Nat.ne_of_gt hpos)
    refine potential_mono (height_mono fun i => weight_mono (Nat.le_refl _) (by simp [Place.swept])) ?_
    simp only [dues, hp, hk, Place.rest, Nat.succ_sub_one, Nat.succ_mul, Deed.works, Bool.toNat_true]
    omega
  | @turn k t _ hp hk ht =>
    obtain ⟨-, hown, hrank⟩ := h.turn_rank hJ ht
    refine potential_mono (height_mono fun i => ?_) ?_
    · by_cases hi : (i : Nat) = k
      · obtain rfl : i = ⟨k, hk⟩ := Fin.ext hi
        simp only [weight, hp, Place.swept]
        split
        · exact Nat.zero_le _
        · rename_i hne
          have hpos : 0 < rank s.shared ⟨k, hk⟩ :=
            Nat.lt_of_lt_of_le (Nat.pos_of_ne_zero hne) (hrank _)
          have hlt := hown hpos
          rw [if_neg (Nat.ne_of_gt hpos)]
          simp
          omega
      · refine weight_mono (hrank i) fun hsw => ?_
        rw [hp]
        simp only [Place.swept, decide_eq_true_eq] at hsw ⊢
        omega
    · simp only [dues, hp, Place.rest, Deed.works, Bool.toNat_true]
      omega
  | swept hp hk =>
    refine potential_mono (height_mono fun i => weight_mono (Nat.le_refl _) fun _ => ?_) ?_
    · rw [hp]
      exact decide_eq_true (Nat.lt_of_lt_of_le i.isLt hk)
    · simp only [dues, hp, Place.rest, Deed.works, Bool.toNat_true]
      omega
  | @again k hp hk hb =>
    have hh := height_again hp hk ((h.busy_iff _ _ hJ).mp hb)
    have hmul := Nat.mul_le_mul_right (2 * n + 1) hh
    rw [Nat.succ_mul] at hmul
    simp only [potential, dues, hp, Place.rest, Deed.works, Bool.toNat_true]
    omega
  | passed hp hk hb =>
    refine potential_mono (height_mono fun i => weight_mono (Nat.le_refl _) fun _ => ?_) ?_
    · rw [hp]
      rfl
    · simp only [dues, hp, Place.rest, Deed.works, Bool.toNat_true]
      omega
  | sleep hp hk =>
    refine potential_mono (height_mono fun i => weight_mono (Nat.le_refl _) (by simp [Place.swept])) ?_
    simp only [dues, hp, Place.rest, Deed.works, Bool.toNat_true]
    omega

def labour (ts : List (Transition (Shop σ) (Deed α) (List ε))) : Nat :=
  ts.countP fun t => t.act.works

/-- While no job is brought, the worker takes no more steps than its potential allows, whatever the
others do in between. -/
theorem labour_le (h : Lawful R J rank) (hr : Run R.step s₀ ts s) (hJ : J s₀.shared)
    (hq : ∀ t ∈ ts, ∀ b, t.act = .other b → Quiet R rank t.pre.shared b) :
    labour ts + potential rank s ≤ potential rank s₀ := by
  induction hr with
  | start => simp [labour]
  | @step ts s a s' o hr hs ih =>
    have hJs : J s.shared := hr.invariant (J := fun s => J s.shared) hJ fun _ _ _ _ => h.keeps
    have hpay : potential rank s' + a.works.toNat ≤ potential rank s :=
      potential_step h hJs (hq ⟨s, a, s', o⟩ (by simp)) hs
    have hpre := ih fun t ht => hq t (List.mem_append_left _ ht)
    have hone : List.countP (fun t => t.act.works) [(⟨s, a, s', o⟩ : Transition _ _ _)] =
        a.works.toNat := by
      cases a <;> rfl
    rw [labour, List.countP_append, hone]
    calc _ = labour ts + (potential rank s' + a.works.toNat) := by rw [labour]; omega
      _ ≤ labour ts + potential rank s := Nat.add_le_add_left hpay _
      _ ≤ potential rank s₀ := hpre

theorem rest_le (n : Nat) (p : Place) : p.rest n ≤ 2 * n + 2 := by
  cases p <;> simp only [Place.rest] <;> omega

theorem potential_le {r : Nat} (hr : ∀ i, rank s.shared i ≤ r) : potential rank s ≤
    (r + 1) * (2 * n + 1) + (2 * n + 2) + s.sem * (2 * n + 3) + s.owed * (2 * n + 4) := by
  have hh : height rank s ≤ r + 1 := by
    refine Finset.sup_le fun i _ => ?_
    have hi := hr i
    have hb : (s.place.swept i).toNat ≤ 1 := Bool.toNat_le _
    unfold weight
    split <;> omega
  have hmul := Nat.mul_le_mul_right (2 * n + 1) hh
  have hrest := rest_le n s.place
  unfold potential dues
  omega

/-! Left alone, the worker goes round the table until no slot is busy. -/

/-- From `s` to `u` in steps of the worker alone, with the output `out`. -/
def Solo (R : Rules n σ α ε) (s u : Shop σ) (out : List ε) : Prop :=
  ∃ ts, Run R.step s ts u ∧ (∀ t ∈ ts, t.act = .work) ∧ ts.flatMap Transition.out = out

theorem Solo.refl (R : Rules n σ α ε) (s : Shop σ) : Solo R s s [] := ⟨[], .start, by simp, rfl⟩

theorem Solo.trans {u v : Shop σ} {out out' : List ε} (h : Solo R s u out)
    (h' : Solo R u v out') : Solo R s v (out ++ out') := by
  obtain ⟨ts, hr, ha, ho⟩ := h
  obtain ⟨us, hr', ha', ho'⟩ := h'
  refine ⟨ts ++ us, hr.trans hr', fun t ht => ?_, ?_⟩
  · exact (List.mem_append.mp ht).elim (ha t) (ha' t)
  · rw [List.flatMap_append, ho, ho']

theorem Solo.one {e : List ε} (h : R.work s = some (s', e)) : Solo R s s' e :=
  ⟨[⟨s, .work, s', e⟩], Run.step .start h, by simp, by simp⟩

/-- The worker's questions come to slot `k` with nothing busy before it. -/
theorem check_solo {k : Nat} (hk : k ≤ n) (h : ∀ i : Fin n, i < k → R.busy s.shared i = false) :
    Solo R { s with place := .check 0 } { s with place := .check k } [] := by
  induction k with
  | zero => exact .refl R _
  | succ k ih =>
    have hlt : k < n := hk
    have hstep : R.work { s with place := .check k } = some ({ s with place := .check (k + 1) }, []) := by
      have hidle := h ⟨k, hlt⟩ (Nat.lt_succ_self k)
      simp [Rules.work, hlt, hidle]
    exact (ih (Nat.le_of_lt hlt) fun i hi => h i (Nat.lt_succ_of_lt hi)).trans (.one hstep)

/-- The end of a sweep: back to the table if a slot is busy, else to sleep. -/
theorem check_ends (s : Shop σ) : Solo R { s with place := .sweep n }
    { s with place := if (∃ i, R.busy s.shared i = true) then .sweep 0 else .asleep } [] := by
  have hstart : R.work { s with place := .sweep n } = some ({ s with place := .check 0 }, []) := by
    simp [Rules.work]
  refine (Solo.one hstart).trans ?_
  by_cases h : ∃ i, R.busy s.shared i = true
  · rw [if_pos h]
    cases hf : Fin.find? (fun i => R.busy s.shared i) with
    | none =>
      obtain ⟨i, hi⟩ := h
      rw [Fin.find?_eq_none_iff.mp hf i] at hi
      exact Bool.noConfusion hi
    | some k =>
      obtain ⟨hk, hbefore⟩ := Fin.find?_eq_some_iff.mp hf
      have hwalk := check_solo (R := R) (s := s) (Nat.le_of_lt k.isLt) fun i hi => hbefore i hi
      have hback : R.work { s with place := .check k } = some ({ s with place := .sweep 0 }, []) := by
        simp [Rules.work, hk]
      exact hwalk.trans (.one hback)
  · rw [if_neg h]
    have hidle : ∀ i, R.busy s.shared i = false := fun i =>
      Bool.eq_false_iff.mpr fun hi => h ⟨i, hi⟩
    have hwalk := check_solo (R := R) (s := s) (Nat.le_refl n) fun i _ => hidle i
    have hsleep : R.work { s with place := .check n } = some ({ s with place := .asleep }, []) := by
      simp [Rules.work]
    exact hwalk.trans (.one hsleep)

/-- The turns use a part of the shared state and put it back. -/
structure Within {τ : Type*} (R : Rules n σ α ε) (turn : Fin n → τ → Option (τ × List ε))
    (get : σ → τ) (put : σ → τ → σ) : Prop where
  turn : ∀ i s t e, turn i (get s) = some (t, e) → R.turn i s = some (put s t, e)
  get_put : ∀ s t, get (put s t) = t
  put_put : ∀ s t u, put (put s t) u = put s u
  put_get : ∀ s, put s (get s) = s

variable {τ : Type*} {turn : Fin n → τ → Option (τ × List ε)} {get : σ → τ} {put : σ → τ → σ}

open RoundRobin Loops

/-- A sweep is a round of turns. -/
theorem sweep_solo (hw : Within R turn get put) {j : Nat} :
    ∀ {k : Nat} {s : Shop σ} {t : τ} {us : List (Turn (Fin n) τ (List ε))}, k + j = n →
      turnsOf turn ((List.finRange n).drop k) (get s.shared) = some (t, us) →
      Solo R { s with place := .sweep k } { s with shared := put s.shared t, place := .sweep n }
        (us.flatMap Turn.out) := by
  induction j with
  | zero =>
    intro k s t us hk h
    have hdrop : (List.finRange n).drop k = [] := List.drop_eq_nil_of_le (by simp; omega)
    rw [hdrop] at h
    obtain ⟨rfl, rfl⟩ := Prod.mk.inj (Option.some.inj h)
    obtain rfl : k = n := hk
    rw [hw.put_get]
    exact .refl R _
  | succ j ih =>
    intro k s t us hk h
    have hlt : k < n := by omega
    have hdrop : (List.finRange n).drop k = ⟨k, hlt⟩ :: (List.finRange n).drop (k + 1) := by
      rw [List.drop_eq_getElem_cons (by simpa using hlt), List.getElem_finRange]
      rfl
    rw [hdrop, turnsOf] at h
    split at h
    · simp at h
    · rename_i v e hv
      split at h
      · simp at h
      · rename_i u ws hrest
        obtain ⟨rfl, rfl⟩ := Prod.mk.inj (Option.some.inj h)
        have hstep : R.work { s with place := .sweep k } =
            some ({ s with shared := put s.shared v, place := .sweep (k + 1) }, e) := by
          simp [Rules.work, hlt, hw.turn _ _ _ _ hv]
        have htail := @ih (k + 1) { s with shared := put s.shared v } u ws
          (by omega) (by rw [hw.get_put]; exact hrest)
        rw [hw.put_put] at htail
        exact (Solo.one hstep).trans htail

/-- The worker's loop is the loop of whole rounds. -/
theorem rounds_solo (hw : Within R turn get put) {live : τ → Bool}
    (hlive : ∀ s, live (get s) = true ↔ ∃ i, R.busy s i = true) {m : Nat}
    {r r' : Rounds (Fin n) τ (List ε)}
    (h : Loop Rounds.go (fun r r' => r.next turn live (List.finRange n) = some r') m r r') :
    ∀ s : Shop σ, get s.shared = r.now → r.go = true → ∃ out,
      Solo R { s with place := .sweep 0 }
        { s with shared := put s.shared r'.now, place := .asleep } out ∧
      r'.log.flatMap Turn.out = r.log.flatMap Turn.out ++ out := by
  induction h with
  | done hc =>
    intro s _ hgo
    rw [hc] at hgo
    exact Bool.noConfusion hgo
  | @turn m r v r' _ hstep hloop ih =>
    intro s hs _
    unfold Rounds.next at hstep
    split at hstep
    · simp at hstep
    · rename_i t us hround
      obtain rfl := Option.some.inj hstep
      rw [← hs] at hround
      have hsweep := sweep_solo (R := R) (j := n) hw (k := 0) (s := s) (Nat.zero_add n) hround
      have hcheck := check_ends (R := R) { s with shared := put s.shared t }
      cases hon : live t with
      | true =>
        have hbusy : ∃ i, R.busy (put s.shared t) i = true :=
          (hlive _).mp (by rw [hw.get_put]; exact hon)
        rw [if_pos hbusy] at hcheck
        obtain ⟨out, hsolo, hout⟩ := ih { s with shared := put s.shared t } (hw.get_put _ _) hon
        rw [hw.put_put] at hsolo
        refine ⟨us.flatMap Turn.out ++ [] ++ out, (hsweep.trans hcheck).trans hsolo, ?_⟩
        rw [hout, List.flatMap_append, List.append_nil, List.append_assoc]
      | false =>
        have hidle : ¬∃ i, R.busy (put s.shared t) i = true := fun h => by
          have := (hlive (put s.shared t)).mpr h
          rw [hw.get_put, hon] at this
          exact Bool.noConfusion this
        rw [if_neg hidle] at hcheck
        cases hloop with
        | done _ =>
          refine ⟨us.flatMap Turn.out ++ [], hsweep.trans hcheck, ?_⟩
          rw [List.flatMap_append, List.append_nil]
        | turn hc _ _ =>
          dsimp only at hc
          rw [hon] at hc
          exact Bool.noConfusion hc

end Worker
