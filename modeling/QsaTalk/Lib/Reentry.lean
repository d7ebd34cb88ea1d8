import Mathlib.Data.List.Basic
import Mathlib.Tactic.Common

/-! A thread inside a library that guards its state with one lock that does not nest, and calls
the application back. The application answers a callback with calls of its own, on the same
thread, before the callback returns. -/
namespace Reentry

/-- What an effect is to the lock and to the application. -/
inductive Role where
  | acquire | release | ask | plain
deriving DecidableEq

variable {σ ε κ ο : Type*}

/-- A stretch of effects that takes the lock first, gives it back last, and asks nobody. -/
def Bracketed (role : ε → Role) (es : List ε) : Prop :=
  ∃ a body z, es = a :: (body ++ [z]) ∧ role a = .acquire ∧ (∀ e ∈ body, role e = .plain) ∧
    role z = .release

/-- What the application can do to the library: each call either takes the lock for its whole
effect or has no effect, as the part of the state that is on view decides. -/
structure Library (σ ε κ ο : Type*) where
  role : ε → Role
  call : κ → σ → σ × List ε
  view : σ → ο
  locks : κ → ο → Prop
  idle : ∀ c s, ¬locks c (view s) → call c s = (s, [])
  bracketed : ∀ c s, locks c (view s) → Bracketed role (call c s).2

structure Thread (σ ε : Type*) where
  state : σ
  held : Bool
  trace : List ε

def Thread.update (f : σ → σ) (t : Thread σ ε) : Thread σ ε := { t with state := f t.state }

/-- The part of a thread's program up to some point; `none` where the thread waits for a lock it
holds itself, or frees one it does not hold. -/
abbrev Prog (σ ε : Type*) := Thread σ ε → Option (Thread σ ε)

def Returns (r : Option (Thread σ ε)) : Prop := ∃ t, r = some t ∧ t.held = false

theorem returns_some {t : Thread σ ε} (h : t.held = false) : Returns (some t) := ⟨t, rfl, h⟩

theorem Returns.bind {r : Option (Thread σ ε)} {p : Prog σ ε} (h : Returns r)
    (hp : ∀ t, t.held = false → Returns (p t)) : Returns (r.bind p) := by
  obtain ⟨t, rfl, ht⟩ := h
  exact hp t ht

theorem Returns.update {r : Option (Thread σ ε)} (f : σ → σ) (h : Returns r) :
    Returns (r.map (Thread.update f)) := by
  obtain ⟨t, rfl, ht⟩ := h
  exact ⟨t.update f, rfl, ht⟩

/-- A finite program of calls that may look at the state in between. -/
inductive Reaction (κ ο : Type*) where
  | done
  | call (c : κ) (rest : Reaction κ ο)
  | look (next : ο → Reaction κ ο)

namespace Library
variable (L : Library σ ε κ ο)

def asked (es : List ε) : List ε := es.filter fun e => L.role e = .ask

def play1 (answer : List ε → Prog σ ε) (e : ε) (t : Thread σ ε) : Option (Thread σ ε) :=
  let t' := { t with trace := t.trace ++ [e] }
  match L.role e with
  | .acquire => if t.held then none else some { t' with held := true }
  | .release => if t.held then some { t' with held := false } else none
  | .ask => answer (L.asked t'.trace) t'
  | .plain => some t'

def play (answer : List ε → Prog σ ε) : List ε → Thread σ ε → Option (Thread σ ε)
  | [], t => some t
  | e :: es, t => (L.play1 answer e t).bind (play answer es)

def piece (answer : List ε → Prog σ ε) (f : σ → σ × List ε) (t : Thread σ ε) :
    Option (Thread σ ε) :=
  L.play answer (f t.state).2 { t with state := (f t.state).1 }

def run (answer : List ε → Prog σ ε) : Reaction κ ο → Thread σ ε → Option (Thread σ ε)
  | .done, t => some t
  | .call c r, t => (L.piece answer (L.call c) t).bind (run answer r)
  | .look next, t => run answer (next (L.view t.state)) t

/-- The application answers from the callbacks so far; callbacks inside its answers are answered
in turn, to the given depth. -/
def answer (app : List ε → Reaction κ ο) : Nat → List ε → Prog σ ε
  | 0, _ => some
  | n + 1, es => L.run (answer app n) (app es)

def quiet : Reaction κ ο → ο → Prop
  | .done, _ => True
  | .call c r, o => ¬L.locks c o ∧ quiet r o
  | .look next, o => quiet (next o) o

/-- Each callback of the list, raised with the state so in view, has a quiet answer. -/
def Heeds (app : List ε → Reaction κ ο) : List ε → List (ε × ο) → Prop
  | _, [] => True
  | past, (e, o) :: rest => L.quiet (app (past ++ [e])) o ∧ Heeds app (past ++ [e]) rest

/-- The lock is handled well and free at the end, and callbacks come only while it is held, or
only while it is free, as `during` says. -/
def Tidy (during : Bool) : Bool → List ε → Prop
  | held, [] => held = false
  | held, e :: es =>
    match L.role e with
    | .acquire => held = false ∧ Tidy during true es
    | .release => held = true ∧ Tidy during false es
    | .ask => held = during ∧ Tidy during held es
    | .plain => Tidy during held es

def pieces (answer : List ε → Prog σ ε) :
    List (σ → σ × List ε) → Thread σ ε → Option (Thread σ ε)
  | [], t => some t
  | f :: fs, t => (L.piece answer f t).bind (pieces answer fs)

def through : List (σ → σ × List ε) → σ → σ × List ε
  | [], s => (s, [])
  | f :: fs, s => ((through fs (f s).1).1, (f s).2 ++ (through fs (f s).1).2)

def told : List (σ → σ × List ε) → σ → List (ε × ο)
  | [], _ => []
  | f :: fs, s => (L.asked (f s).2).map (·, L.view (f s).1) ++ told fs (f s).1

variable {L} {answer : List ε → Prog σ ε} {app : List ε → Reaction κ ο} {n : Nat} {e : ε}
  {es : List ε} {t t' : Thread σ ε}

/-! One effect. -/

theorem play1_acquire (he : L.role e = .acquire) (h : t.held = false) :
    L.play1 answer e t = some ⟨t.state, true, t.trace ++ [e]⟩ := by
  simp [play1, he, h]

theorem play1_blocked (he : L.role e = .acquire) (h : t.held = true) :
    L.play1 answer e t = none := by
  simp [play1, he, h]

theorem play1_release (he : L.role e = .release) (h : t.held = true) :
    L.play1 answer e t = some ⟨t.state, false, t.trace ++ [e]⟩ := by
  simp [play1, he, h]

theorem play1_ask (he : L.role e = .ask) : L.play1 answer e t =
    answer (L.asked t.trace ++ [e]) { t with trace := t.trace ++ [e] } := by
  simp [play1, he, asked]

theorem play1_plain (he : L.role e = .plain) :
    L.play1 answer e t = some { t with trace := t.trace ++ [e] } := by
  simp [play1, he]

theorem asked_cons_ask (he : L.role e = .ask) : L.asked (e :: es) = e :: L.asked es := by
  simp [asked, he]

theorem asked_plain (h : ∀ e ∈ es, L.role e = .plain) : L.asked es = [] :=
  List.filter_eq_nil_iff.mpr fun e he => by simp [h e he]

theorem tidy_plain {during held : Bool} (h : ∀ e ∈ es, L.role e = .plain) (v : List ε) :
    L.Tidy during held (es ++ v) ↔ L.Tidy during held v := by
  induction es with
  | nil => rfl
  | cons e es ih =>
    have he : L.role e = .plain := h e List.mem_cons_self
    rw [List.cons_append, Tidy, he]
    exact ih fun e' h' => h e' (List.mem_cons_of_mem _ h')

theorem asked_append (u v : List ε) : L.asked (u ++ v) = L.asked u ++ L.asked v :=
  List.filter_append u v

/-! Calls. -/

theorem play_plain (h : ∀ e ∈ es, L.role e = .plain) (v : List ε) :
    L.play answer (es ++ v) t = L.play answer v { t with trace := t.trace ++ es } := by
  induction es generalizing t with
  | nil => simp
  | cons e es ih =>
    have he : L.role e = .plain := h e List.mem_cons_self
    rw [List.cons_append, play, play1_plain he, Option.bind_some,
      ih fun e' h' => h e' (List.mem_cons_of_mem _ h')]
    simp

theorem play_blocked (hb : Bracketed L.role es) (h : t.held = true) :
    L.play answer es t = none := by
  obtain ⟨a, body, z, rfl, ha, -, -⟩ := hb
  rw [play, play1_blocked ha h, Option.bind_none]

theorem play_bracketed (hb : Bracketed L.role es) (h : t.held = false) :
    L.play answer es t = some { t with trace := t.trace ++ es } := by
  obtain ⟨a, body, z, rfl, ha, hbody, hz⟩ := hb
  rw [play, play1_acquire ha h, Option.bind_some, play_plain hbody, play,
    play1_release hz rfl, Option.bind_some, play]
  simp [h]

/-- Under the lock an answer comes back if it is quiet, and changes nothing. -/
theorem run_held {r : Reaction κ ο} (h : t.held = true) :
    L.run answer r t = some t' ↔ L.quiet r (L.view t.state) ∧ t' = t := by
  induction r with
  | done => simp [run, quiet, eq_comm]
  | call c r ih =>
    rw [run, quiet, piece]
    by_cases hc : L.locks c (L.view t.state)
    · have hb : L.play answer (L.call c t.state).2 ⟨(L.call c t.state).1, t.held, t.trace⟩ =
          none := play_blocked (L.bracketed c _ hc) h
      simp [hb, hc]
    · rw [L.idle c _ hc, play, Option.bind_some, ih]
      simp [hc]
  | look next ih => exact ih _

/-- With the lock free every answer comes back, and leaves it free. -/
theorem run_free {r : Reaction κ ο} (h : t.held = false) : Returns (L.run answer r t) := by
  induction r generalizing t with
  | done => exact ⟨t, rfl, h⟩
  | call c r ih =>
    rw [run, piece]
    by_cases hc : L.locks c (L.view t.state)
    · rw [play_bracketed (t := ⟨(L.call c t.state).1, t.held, t.trace⟩) (L.bracketed c _ hc) h,
        Option.bind_some]
      exact ih h
    · rw [L.idle c _ hc, play, Option.bind_some]
      exact ih h
  | look next ih => exact ih _ h

theorem answer_held {es : List ε} (h : t.held = true) : L.answer app (n + 1) es t = some t' ↔
    L.quiet (app es) (L.view t.state) ∧ t' = t :=
  run_held h

theorem answer_free {es : List ε} (h : t.held = false) : Returns (L.answer app n es t) := by
  cases n with
  | zero => exact ⟨t, rfl, h⟩
  | succ n => exact run_free h

theorem answer_done (es : List ε) : L.answer (fun _ => .done) n es t = some t := by
  cases n <;> rfl

/-! Pieces of the program. -/

/-- An application that answers nothing leaves the effects as they are. -/
theorem play_done {during : Bool} (h : L.Tidy during t.held es) :
    L.play (L.answer (fun _ => .done) n) es t = some ⟨t.state, false, t.trace ++ es⟩ := by
  induction es generalizing t with
  | nil =>
    obtain ⟨s, held, tr⟩ := t
    obtain rfl : held = false := h
    simp [play]
  | cons e es ih =>
    rw [Tidy] at h
    rw [play]
    cases he : L.role e with
    | acquire =>
      rw [he] at h
      rw [play1_acquire he h.1, Option.bind_some, ih h.2]
      simp
    | release =>
      rw [he] at h
      rw [play1_release he h.1, Option.bind_some, ih h.2]
      simp
    | ask =>
      rw [he] at h
      rw [play1_ask he, answer_done, Option.bind_some,
        ih (t := { t with trace := t.trace ++ [e] }) h.2]
      simp
    | plain =>
      rw [he] at h
      rw [play1_plain he, Option.bind_some, ih (t := { t with trace := t.trace ++ [e] }) h]
      simp

/-- Callbacks under the lock: the thread gets through just when their answers are quiet. -/
theorem play_inside (h : L.Tidy true t.held es) :
    L.play (L.answer app (n + 1)) es t = some t' ↔
      L.Heeds app (L.asked t.trace) ((L.asked es).map (·, L.view t.state)) ∧
        t' = ⟨t.state, false, t.trace ++ es⟩ := by
  induction es generalizing t with
  | nil =>
    obtain ⟨s, held, tr⟩ := t
    obtain rfl : held = false := h
    simp [play, asked, Heeds, eq_comm]
  | cons e es ih =>
    rw [Tidy] at h
    rw [play]
    cases he : L.role e with
    | acquire =>
      rw [he] at h
      rw [play1_acquire he h.1, Option.bind_some, ih h.2]
      simp [asked, he]
    | release =>
      rw [he] at h
      rw [play1_release he h.1, Option.bind_some, ih h.2]
      simp [asked, he]
    | ask =>
      rw [he] at h
      have hans (u : Thread σ ε) : L.answer app (n + 1) (L.asked t.trace ++ [e])
          { t with trace := t.trace ++ [e] } = some u ↔
            L.quiet (app (L.asked t.trace ++ [e])) (L.view t.state) ∧
              u = { t with trace := t.trace ++ [e] } := answer_held h.1
      rw [play1_ask he, Option.bind_eq_some_iff]
      simp only [hans, and_assoc, exists_and_left, exists_eq_left]
      rw [ih (t := { t with trace := t.trace ++ [e] }) h.2, asked_cons_ask he, asked_append]
      simp [asked, he, Heeds, and_assoc]
    | plain =>
      rw [he] at h
      rw [play1_plain he, Option.bind_some, ih (t := { t with trace := t.trace ++ [e] }) h]
      simp [asked, he]

/-- Callbacks with the lock free never keep the thread from getting through. -/
theorem play_outside (h : L.Tidy false t.held es) : Returns (L.play (L.answer app n) es t) := by
  induction es generalizing t with
  | nil => exact ⟨t, rfl, h⟩
  | cons e es ih =>
    rw [Tidy] at h
    rw [play]
    cases he : L.role e with
    | acquire =>
      rw [he] at h
      rw [play1_acquire he h.1, Option.bind_some]
      exact ih h.2
    | release =>
      rw [he] at h
      rw [play1_release he h.1, Option.bind_some]
      exact ih h.2
    | ask =>
      rw [he] at h
      have hans : Returns (L.answer app n (L.asked t.trace ++ [e])
          { t with trace := t.trace ++ [e] }) := answer_free h.1
      obtain ⟨u, hu, hfree⟩ := hans
      have hrest := h.2
      rw [h.1] at hrest
      rw [play1_ask he, hu, Option.bind_some]
      refine ih ?_
      rw [hfree]
      exact hrest
    | plain =>
      rw [he] at h
      rw [play1_plain he, Option.bind_some]
      exact ih h

theorem heeds_append (past : List ε) (u v : List (ε × ο)) : L.Heeds app past (u ++ v) ↔
    L.Heeds app past u ∧ L.Heeds app (past ++ u.map Prod.fst) v := by
  induction u generalizing past with
  | nil => simp [Heeds]
  | cons p u ih => simp [Heeds, ih, and_assoc]

/-- A program of pieces with all callbacks under the lock: the thread gets through just when it
heeds what it is told, and has then done what the pieces do alone. -/
theorem pieces_inside {fs : List (σ → σ × List ε)} (h : ∀ f ∈ fs, ∀ s, L.Tidy true false (f s).2)
    (hfree : t.held = false) : L.pieces (L.answer app (n + 1)) fs t = some t' ↔
      L.Heeds app (L.asked t.trace) (L.told fs t.state) ∧
        t' = ⟨(through fs t.state).1, false, t.trace ++ (through fs t.state).2⟩ := by
  induction fs generalizing t with
  | nil =>
    obtain ⟨s, held, tr⟩ := t
    obtain rfl : held = false := hfree
    simp [pieces, told, through, Heeds, eq_comm]
  | cons f fs ih =>
    have hf : L.Tidy true t.held (f t.state).2 := by
      rw [hfree]
      exact h f List.mem_cons_self t.state
    have hplay (u : Thread σ ε) : L.play (L.answer app (n + 1)) (f t.state).2
        { t with state := (f t.state).1 } = some u ↔
          L.Heeds app (L.asked t.trace) ((L.asked (f t.state).2).map (·, L.view (f t.state).1)) ∧
            u = ⟨(f t.state).1, false, t.trace ++ (f t.state).2⟩ := play_inside hf
    rw [pieces, piece, Option.bind_eq_some_iff]
    simp only [hplay, and_assoc, exists_and_left, exists_eq_left]
    rw [ih (fun g hg => h g (List.mem_cons_of_mem _ hg)) rfl, told, heeds_append, through,
      asked_append]
    simp [and_assoc, Function.comp_def]

theorem pieces_returns {fs : List (σ → σ × List ε)} (h : ∀ f ∈ fs, ∀ s, L.Tidy true false (f s).2)
    (hfree : t.held = false) : Returns (L.pieces (L.answer app (n + 1)) fs t) ↔
      L.Heeds app (L.asked t.trace) (L.told fs t.state) := by
  constructor
  · rintro ⟨t', ht, -⟩
    exact ((pieces_inside h hfree).mp ht).1
  · intro hh
    exact ⟨_, (pieces_inside h hfree).mpr ⟨hh, rfl⟩, rfl⟩

theorem piece_returns {f : σ → σ × List ε} (h : L.Tidy true false (f t.state).2)
    (hfree : t.held = false) : Returns (L.piece (L.answer app (n + 1)) f t) ↔
      L.Heeds app (L.asked t.trace) ((L.asked (f t.state).2).map (·, L.view (f t.state).1)) := by
  have hheld : L.Tidy true t.held (f t.state).2 := by
    rw [hfree]
    exact h
  have hplay (u : Thread σ ε) : L.piece (L.answer app (n + 1)) f t = some u ↔
      L.Heeds app (L.asked t.trace) ((L.asked (f t.state).2).map (·, L.view (f t.state).1)) ∧
        u = ⟨(f t.state).1, false, t.trace ++ (f t.state).2⟩ :=
    play_inside (t := { t with state := (f t.state).1 }) hheld
  constructor
  · rintro ⟨u, hu, -⟩
    exact ((hplay u).mp hu).1
  · intro hh
    exact ⟨_, (hplay _).mpr ⟨hh, rfl⟩, rfl⟩

theorem piece_outside {f : σ → σ × List ε} (h : L.Tidy false false (f t.state).2)
    (hfree : t.held = false) : Returns (L.piece (L.answer app n) f t) := by
  have hheld : L.Tidy false t.held (f t.state).2 := by
    rw [hfree]
    exact h
  exact play_outside (t := { t with state := (f t.state).1 }) hheld

theorem piece_done {during : Bool} {f : σ → σ × List ε} (h : L.Tidy during false (f t.state).2)
    (hfree : t.held = false) : L.piece (L.answer (fun _ => .done) n) f t =
      some ⟨(f t.state).1, false, t.trace ++ (f t.state).2⟩ := by
  have hheld : L.Tidy during t.held (f t.state).2 := by
    rw [hfree]
    exact h
  exact play_done (t := { t with state := (f t.state).1 }) hheld

theorem pieces_done {during : Bool} {fs : List (σ → σ × List ε)}
    (h : ∀ f ∈ fs, ∀ s, L.Tidy during false (f s).2) (hfree : t.held = false) :
    L.pieces (L.answer (fun _ => .done) n) fs t =
      some ⟨(through fs t.state).1, false, t.trace ++ (through fs t.state).2⟩ := by
  induction fs generalizing t with
  | nil =>
    obtain ⟨s, held, tr⟩ := t
    obtain rfl : held = false := hfree
    simp [pieces, through]
  | cons f fs ih =>
    rw [pieces, piece_done (h f List.mem_cons_self t.state) hfree, Option.bind_some,
      ih (fun g hg => h g (List.mem_cons_of_mem _ hg)) rfl, through, List.append_assoc]

end Library

end Reentry
