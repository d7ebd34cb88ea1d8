import Mathlib.Data.Fintype.Card
import Mathlib.Data.Fintype.Fin
import Mathlib.Data.Finset.Card

/-! Fixed tables searched from the lowest index: taking the first slot that fits, and sweeping
slots one by one until a hit. A `used` predicate counts how full the table is. -/
namespace SlotTable
open Function
variable {n : Nat} {β : Type*}

def first (p : β → Bool) (t : Fin n → β) : Option (Fin n) := Fin.find? fun i => p (t i)

theorem first_eq_some {p : β → Bool} {t : Fin n → β} {i : Fin n} :
    first p t = some i ↔ p (t i) = true ∧ ∀ j < i, p (t j) = false :=
  Fin.find?_eq_some_iff

theorem first_eq_none {p : β → Bool} {t : Fin n → β} :
    first p t = none ↔ ∀ i, p (t i) = false :=
  Fin.find?_eq_none_iff

theorem first_isSome {p : β → Bool} {t : Fin n → β} :
    (first p t).isSome ↔ ∃ i, p (t i) = true :=
  Fin.isSome_find?_iff

theorem first_spec {p : β → Bool} {t : Fin n → β} {i : Fin n} (h : first p t = some i) :
    p (t i) = true :=
  (first_eq_some.mp h).1

def usage (used : β → Bool) (t : Fin n → β) : Nat := (Finset.univ.filter fun i => used (t i)).card

theorem usage_eq_size {used : β → Bool} {t : Fin n → β} :
    usage used t = n ↔ ∀ i, used (t i) = true := by
  have h := Finset.card_filter_eq_iff (s := (Finset.univ : Finset (Fin n))) (p := fun i => used (t i) = true)
  simpa [usage] using h

theorem usage_le (used : β → Bool) (t : Fin n → β) : usage used t ≤ n := by
  simpa [usage] using Finset.card_filter_le (Finset.univ : Finset (Fin n)) fun i => used (t i) = true

theorem usage_take {used : β → Bool} {t : Fin n → β} {i : Fin n} {v : β}
    (hi : used (t i) = false) (hv : used v = true) :
    usage used (update t i v) = usage used t + 1 := by
  have hset : (Finset.univ.filter fun j => used (update t i v j) = true) =
      insert i (Finset.univ.filter fun j => used (t j) = true) := by
    ext j
    by_cases hj : j = i
    · subst j
      simp [hv]
    · simp [hj]
  rw [usage, hset, Finset.card_insert_of_notMem (by simp [hi]), usage]

theorem usage_free {used : β → Bool} {t : Fin n → β} {i : Fin n} {v : β}
    (hi : used (t i) = true) (hv : used v = false) :
    usage used (update t i v) + 1 = usage used t := by
  have h := usage_take (t := update t i v) (i := i) (v := t i) (by simpa using hv) hi
  rw [update_idem, update_eq_self] at h
  exact h.symm

theorem usage_congr {used : β → Bool} {t u : Fin n → β} (h : ∀ i, used (u i) = used (t i)) :
    usage used u = usage used t := by
  simp only [usage, h]

theorem usage_agree {used used' : β → Bool} {t : Fin n → β} (h : ∀ i, used (t i) = used' (t i)) :
    usage used t = usage used' t := by
  simp only [usage, h]

/-- Writing one slot books the new value in and the old one out. -/
theorem usage_update (used : β → Bool) (t : Fin n → β) (i : Fin n) (v : β) :
    usage used (update t i v) + (used (t i)).toNat = usage used t + (used v).toNat := by
  have hsame (h : used v = used (t i)) : usage used (update t i v) = usage used t := by
    refine usage_congr fun j => ?_
    by_cases hj : j = i
    · subst j
      simpa using h
    · simp [hj]
  cases hi : used (t i) with
  | true =>
    cases hv : used v with
    | true => rw [hsame (hv.trans hi.symm)]
    | false => exact usage_free hi hv
  | false =>
    cases hv : used v with
    | true => exact usage_take hi hv
    | false => rw [hsame (hv.trans hi.symm)]

/-- Dropping a set of slots books out those of them that were in use. -/
theorem usage_drop {used : β → Bool} {t u : Fin n → β} (p : Fin n → Prop) [DecidablePred p]
    (h : ∀ i, p i → used (u i) = false) (h' : ∀ i, ¬p i → used (u i) = used (t i)) :
    usage used u + (Finset.univ.filter fun i => p i ∧ used (t i) = true).card = usage used t := by
  have hu : (Finset.univ.filter fun i => used (u i) = true) =
      Finset.univ.filter fun i => used (t i) = true ∧ ¬p i := by
    ext i
    by_cases hp : p i
    · simp [hp, h i hp]
    · simp [hp, h' i hp]
  have hp : (Finset.univ.filter fun i => p i ∧ used (t i) = true) =
      Finset.univ.filter fun i => used (t i) = true ∧ p i := by
    ext i
    simp [and_comm]
  rw [usage, usage, hu, hp, ← Finset.filter_filter, ← Finset.filter_filter, Nat.add_comm]
  exact Finset.card_filter_add_card_filter_not p

theorem usage_pos {used : β → Bool} {t : Fin n → β} :
    0 < usage used t ↔ ∃ i, used (t i) = true := by
  simp [usage, Finset.card_pos, Finset.filter_nonempty_iff]

/-- Visit slots in order; rewrite each one that is picked, stop at the first picked one
that hits. -/
def sweep (pick hit : β → Bool) (f : β → β) : List (Fin n) → (Fin n → β) → (Fin n → β) × Bool
  | [], t => (t, false)
  | i :: is, t =>
    if pick (t i) then
      if hit (t i) then (update t i (f (t i)), true)
      else sweep pick hit f is (update t i (f (t i)))
    else sweep pick hit f is t

/-- Slot `i` is rewritten by the sweep exactly when it is picked and nothing before it hit. -/
def swept (pick hit : β → Bool) (t : Fin n → β) (i : Fin n) : Prop :=
  pick (t i) = true ∧ ∀ j < i, pick (t j) = true → hit (t j) = false

instance (pick hit : β → Bool) (t : Fin n → β) (i : Fin n) : Decidable (swept pick hit t i) :=
  inferInstanceAs (Decidable (_ ∧ ∀ _, _))

theorem sweep_other {pick hit : β → Bool} {f : β → β} {i : Fin n} :
    ∀ (is : List (Fin n)) (t : Fin n → β), i ∉ is → (sweep pick hit f is t).1 i = t i := by
  intro is
  induction is with
  | nil => intro t _; rfl
  | cons j is ih =>
    intro t hi
    have hij : i ≠ j := fun h => hi (by simp [h])
    have his : i ∉ is := fun h => hi (List.mem_cons_of_mem j h)
    simp only [sweep]
    split
    · split
      · exact update_of_ne hij _ _
      · rw [ih _ his, update_of_ne hij]
    · exact ih t his

theorem sweep_snd (pick hit : β → Bool) (f : β → β) :
    ∀ (is : List (Fin n)) (t : Fin n → β), is.Nodup →
      ((sweep pick hit f is t).2 = true ↔ ∃ i ∈ is, pick (t i) = true ∧ hit (t i) = true) := by
  intro is
  induction is with
  | nil => intro t _; simp [sweep]
  | cons j is ih =>
    intro t hn
    have hj : j ∉ is := (List.nodup_cons.mp hn).1
    have his := (List.nodup_cons.mp hn).2
    by_cases hp : pick (t j) = true
    · by_cases hh : hit (t j) = true
      · simp [sweep, hp, hh]
      · have hkeep : ∀ i ∈ is, update t j (f (t j)) i = t i := fun i hi =>
          update_of_ne (by rintro rfl; exact hj hi) _ _
        simp only [sweep, hp, hh, if_true, Bool.false_eq_true, if_false, ih _ his,
          List.mem_cons, exists_eq_or_imp, and_false, false_or]
        refine exists_congr fun i => and_congr_right fun hi => ?_
        rw [hkeep i hi]
    · simp only [sweep, hp, Bool.false_eq_true, if_false, ih _ his, List.mem_cons,
        exists_eq_or_imp, false_and, false_or]

theorem sweep_mem (pick hit : β → Bool) (f : β → β) {i : Fin n} :
    ∀ (is : List (Fin n)) (t : Fin n → β), is.Pairwise (· < ·) → i ∈ is →
      ((pick (t i) = true ∧ ∀ j ∈ is, j < i → pick (t j) = true → hit (t j) = false) →
        (sweep pick hit f is t).1 i = f (t i)) ∧
      (¬(pick (t i) = true ∧ ∀ j ∈ is, j < i → pick (t j) = true → hit (t j) = false) →
        (sweep pick hit f is t).1 i = t i) := by
  intro is
  induction is with
  | nil => intro t _ hi; simp at hi
  | cons k is ih =>
    intro t hs hi
    have hk : ∀ j ∈ is, k < j := (List.pairwise_cons.mp hs).1
    have his := (List.pairwise_cons.mp hs).2
    have hkn : k ∉ is := fun h => lt_irrefl k (hk k h)
    by_cases hik : i = k
    · subst i
      have hlow : ∀ j ∈ k :: is, j < k → pick (t j) = true → hit (t j) = false := by
        intro j hj hlt
        obtain rfl | hj := List.mem_cons.mp hj
        · exact absurd hlt (lt_irrefl _)
        · exact absurd hlt (lt_asymm (hk j hj))
      by_cases hp : pick (t k) = true
      · refine ⟨fun _ => ?_, fun h => absurd ⟨hp, hlow⟩ h⟩
        by_cases hh : hit (t k) = true
        · simp [sweep, hp, hh]
        · simp [sweep, hp, hh, sweep_other is _ hkn]
      · refine ⟨fun h => absurd h.1 hp, fun _ => ?_⟩
        simp [sweep, hp, sweep_other is _ hkn]
    · have hmem : i ∈ is := (List.mem_cons.mp hi).resolve_left hik
      have hki := hk i hmem
      by_cases hp : pick (t k) = true
      · by_cases hh : hit (t k) = true
        · refine ⟨fun h => ?_, fun _ => by simp [sweep, hp, hh, hik]⟩
          have := h.2 k (by simp) hki hp
          simp [this] at hh
        · have hkeep : ∀ j ∈ is, update t k (f (t k)) j = t j := fun j hj =>
            update_of_ne (by rintro rfl; exact hkn hj) _ _
          have hrec := ih (update t k (f (t k))) his hmem
          simp only [hkeep i hmem] at hrec
          have hiff : (∀ j ∈ is, j < i → pick (update t k (f (t k)) j) = true →
                hit (update t k (f (t k)) j) = false) ↔
              ∀ j ∈ k :: is, j < i → pick (t j) = true → hit (t j) = false := by
            constructor
            · intro h j hj hlt hpj
              obtain rfl | hj := List.mem_cons.mp hj
              · exact Bool.eq_false_iff.mpr hh
              · have := h j hj hlt
                rw [hkeep j hj] at this
                exact this hpj
            · intro h j hj hlt
              rw [hkeep j hj]
              exact h j (List.mem_cons_of_mem k hj) hlt
          simp only [hiff] at hrec
          simpa [sweep, hp, hh] using hrec
      · have hrec := ih t his hmem
        simpa [sweep, hp] using hrec

/-- The whole table after a sweep in index order. -/
theorem sweep_finRange (pick hit : β → Bool) (f : β → β) (t : Fin n → β) (i : Fin n) :
    (sweep pick hit f (List.finRange n) t).1 i = if swept pick hit t i then f (t i) else t i := by
  have h := sweep_mem pick hit f (i := i) (List.finRange n) t
    (List.pairwise_lt_finRange n) (List.mem_finRange i)
  simp only [List.mem_finRange, forall_const] at h
  split
  · rename_i hs
    exact h.1 hs
  · rename_i hs
    exact h.2 hs

theorem sweep_hit (pick hit : β → Bool) (f : β → β) (t : Fin n → β) :
    (sweep pick hit f (List.finRange n) t).2 = true ↔
      ∃ i, pick (t i) = true ∧ hit (t i) = true := by
  simpa using sweep_snd pick hit f (List.finRange n) t
    (List.nodup_finRange n)

theorem swept_of_first {pick hit : β → Bool} {t : Fin n → β} {i : Fin n}
    (h : first (fun x => pick x && hit x) t = some i) : swept pick hit t i := by
  obtain ⟨hi, hlow⟩ := first_eq_some.mp h
  refine ⟨(Bool.and_eq_true_iff.mp hi).1, fun j hj hp => ?_⟩
  have hj' := hlow j hj
  rwa [hp, Bool.true_and] at hj'

/-- A sweep rewrites nothing but the first hit, just when every picked slot that is no hit has a
hit before it. -/
theorem sweep_spares_iff {pick hit : β → Bool} {f : β → β} {t : Fin n → β}
    (hf : ∀ x, pick x = true → f x ≠ x) :
    (∀ i, first (fun x => pick x && hit x) t ≠ some i →
      (sweep pick hit f (List.finRange n) t).1 i = t i) ↔
        ∀ i, pick (t i) = true → hit (t i) = false →
          ∃ j < i, pick (t j) = true ∧ hit (t j) = true := by
  constructor
  · intro h i hp hh
    have hkeep := h i fun hi => by
      have hboth : (pick (t i) && hit (t i)) = true := first_spec hi
      simp [hh] at hboth
    by_contra hno
    have hswept : swept pick hit t i := ⟨hp, fun j hj hpj =>
      Bool.eq_false_iff.mpr fun hhj => hno ⟨j, hj, hpj, hhj⟩⟩
    rw [sweep_finRange, if_pos hswept] at hkeep
    exact hf _ hp hkeep
  · intro h i hi
    rw [sweep_finRange, if_neg]
    rintro ⟨hp, hlow⟩
    have hh : hit (t i) = false := by
      refine Bool.eq_false_iff.mpr fun hh => hi (first_eq_some.mpr ⟨?_, fun j hj => ?_⟩)
      · rw [hp, hh]
        rfl
      · cases hpj : pick (t j) with
        | false => rfl
        | true => rw [hlow j hj hpj]; rfl
    obtain ⟨j, hj, hpj, hhj⟩ := h i hp hh
    exact Bool.false_ne_true ((hlow j hj hpj).symm.trans hhj)

end SlotTable
