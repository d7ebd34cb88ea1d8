import QsaTalk.Confirmation
import QsaTalk.Watchdog

/-! How long a call may ring and a talk may last. `TimeOut` counts ticks of 500 ms, while the limits
it is compared with are counted in units of 50 ms. -/
namespace QsaTalk
open ByteBuffer SlotTable Runs

def callStarted (ts : List Step) : Bool := ts.any fun t => decide (causeOf t = .start)

/-- The ticks since the CALLSTART, or since the beginning if there was none. -/
def elapsed (ts : List Step) : Nat :=
  ts.foldl (fun n t => if causeOf t = .start then 0 else if isTick t.act then n + 1 else n) 0

def secondsInTicks (talk : Bool) : Nat := if talk then 180 * timerPerSec else 25 * timerPerSec

/-- The tick behind `us` is on a whole second, and the time is up. -/
def Due (us : List Step) : Prop :=
  elapsed us % timerPerSec = 0 ∧ secondsInTicks (callStarted us) < elapsed us

/-- A tick that ends the call with its reason if it is due, and leaves it up otherwise. -/
structure OnTime (us : List Step) (t : Step) : Prop where
  ends : Due us → t.post.dev.status = .null ∧
    currOpts t.out = [(if callStarted us then .talkTimeout else .callTimeout, .null)]
  lasts : ¬Due us → t.post.dev.active

def IsConfirm (t : Step) : Prop := ∃ buff sendB src, inputOf t = .video .callConfirm buff sendB src

/-- A call from its accepted CALLANSWER on: ticks, CALLCONFIRMs and CALLSTARTs follow, and the
online check never ends it. -/
structure TimedCall (b : Boot) where
  before : Execution b
  answer : Action
  begun : System
  said : List Event
  answered : before.final.step answer = some (begun, said)
  accepted : before.final.dev.cause (before.final.input answer) = .answer
  steps : List Step
  final : System
  run : Run System.step begun steps final
  kinds : ∀ t ∈ steps, Ticks t ∨ IsConfirm t ∨ IsCallStart t
  watched : ∀ t ∈ steps, ¬OnlineEnds t

def Punctual (ts : List Step) : Prop :=
  ∀ us t vs, ts = us ++ t :: vs → Ticks t → t.pre.dev.active → OnTime us t

def ticksToDue (talk : Bool) : Nat := if talk then 362 else 52

def Short (ts : List Step) : Prop := ∀ us, us <+: ts → elapsed us ≤ ticksToDue (callStarted us)

variable {s s' u : System} {a : Action} {o : List Event} {sendB : Buf} {ts : List Step} {t : Step}

theorem callStarted_concat : callStarted (ts ++ [t]) = (callStarted ts || decide (causeOf t = .start)) := by
  simp [callStarted]

theorem elapsed_concat : elapsed (ts ++ [t]) =
    if causeOf t = .start then 0 else if isTick t.act then elapsed ts + 1 else elapsed ts := by
  rw [elapsed, List.foldl_append]
  rfl

theorem short_concat : Short (ts ++ [t]) ↔
    Short ts ∧ elapsed (ts ++ [t]) ≤ ticksToDue (callStarted (ts ++ [t])) := by
  constructor
  · intro h
    exact ⟨fun us hp => h us (hp.trans (List.prefix_append _ _)), h _ (List.prefix_refl _)⟩
  · rintro ⟨h, hlast⟩ us hp
    obtain rfl | hp := List.prefix_concat_iff.mp hp
    · exact hlast
    · exact h us hp

theorem punctual_concat : Punctual (ts ++ [t]) ↔
    Punctual ts ∧ (Ticks t → t.pre.dev.active → OnTime ts t) := by
  constructor
  · intro h
    refine ⟨fun us x vs he => h us x (vs ++ [t]) (by rw [he]; simp), h ts t [] rfl⟩
  · rintro ⟨h, hlast⟩ us x vs he
    obtain rfl | ⟨ws, w, rfl⟩ := List.eq_nil_or_concat' vs
    · obtain ⟨rfl, hx⟩ := List.append_inj' he rfl
      rw [← List.singleton_inj.mp hx]
      exact hlast
    · rw [← List.cons_append, ← List.append_assoc] at he
      obtain ⟨rfl, -⟩ := List.append_inj' he rfl
      exact h us x ws rfl

structure Ringing (ts : List Step) (u : System) : Prop where
  status : u.dev.status = if callStarted ts then .talking else .calling
  online : u.dev.local1.onlineFlag = 1
  timeOut : u.dev.local1.timeOut = elapsed ts

theorem Ringing.up (h : Ringing ts u) : u.dev.active := by
  have hs := h.status
  split at hs
  · exact Or.inr hs
  · exact Or.inl hs

theorem Ringing.not_overdue (h : Ringing ts u) (hb : elapsed ts ≤ ticksToDue (callStarted ts)) :
    ¬u.dev.overdue := by
  have hcall : callTimeOut = 500 := rfl
  have htalk : talkTimeOut = 3600 := rfl
  have ht := h.timeOut
  have hle : elapsed ts ≤ 362 := by
    unfold ticksToDue at hb
    split at hb <;> omega
  rintro ⟨-, ⟨-, hover⟩ | ⟨-, hover⟩⟩ <;> omega

theorem Ringing.not_lost (h : Ringing ts u) (hw : ¬OnlineEnds ⟨u, .tick sendB, s', o⟩) :
    ¬u.dev.lost := by
  intro hl
  refine hw ⟨sendB, rfl, h.online, h.up, ?_⟩
  rw [onlineCheck_lost hl h.up]
  exact not_active_of_null rfl

theorem tick_not_start : causeOf ⟨u, .tick sendB, s', o⟩ ≠ .start := by
  have hcause : causeOf ⟨u, .tick sendB, s', o⟩ = u.dev.cause (.tick sendB) := rfl
  rw [hcause, Device.cause]
  repeat' split
  all_goals decide

/-- A tick of a call that is not yet due by the limits of the code. -/
theorem ringing_tick (h : Ringing ts u) (hs : u.step (.tick sendB) = some (s', o))
    (hw : ¬OnlineEnds ⟨u, .tick sendB, s', o⟩) (hb : elapsed ts ≤ ticksToDue (callStarted ts)) :
    Ringing (ts ++ [⟨u, .tick sendB, s', o⟩]) s' := by
  obtain ⟨hd, -⟩ := step_tick hs
  obtain ⟨l, hst, hon, he⟩ := tick_quiet sendB h.online (active_caller h.up) (h.not_lost hw)
    (h.not_overdue hb)
  have hcount := (tick_counts sendB h.online).2.2
  refine ⟨?_, ?_, ?_⟩
  · rw [hd, he, callStarted_concat, decide_eq_false tick_not_start, Bool.or_false, ← h.status]
    exact hst
  · rw [hd, he]
    exact hon
  · rw [hd, hcount, elapsed_concat, if_neg tick_not_start, h.timeOut]
    rfl

theorem datagram_not_tick {k : VideoTask} {buff sendB : Buf} {src : IP4} {t : Step}
    (h : inputOf t = .video k buff sendB src) : isTick t.act = false := by
  cases ha : t.act with
  | tick sendB' =>
    rw [inputOf, ha] at h
    simp [System.input] at h
  | _ => rfl

theorem ringing_confirm (h : Ringing ts u) (hs : u.step a = some (s', o))
    (hc : IsConfirm ⟨u, a, s', o⟩) : Ringing (ts ++ [⟨u, a, s', o⟩]) s' := by
  obtain ⟨buff, sendB, src, hi⟩ := hc
  have hcause : causeOf ⟨u, a, s', o⟩ ≠ .start := by
    rw [causeOf, hi]
    change Cause.other ≠ .start
    decide
  have hin : u.input a = .video .callConfirm buff sendB src := hi
  have hd := device_step hs
  rw [hin] at hd
  have hrun : runVideoTask .callConfirm buff sendB (dotted src) u.dev = (s'.dev, o) :=
    Option.some.inj hd
  have hkeep {α : Type} (f : Device → α) (hf : ∀ e : Device, f e.confirmed = f e) :
      f s'.dev = f u.dev := by
    have hk : f (runVideoTask .callConfirm buff sendB (dotted src) u.dev).1 = f u.dev :=
      passive_keeps f hf trivial
    rwa [hrun] at hk
  refine ⟨?_, ?_, ?_⟩
  · rw [hkeep Device.status fun _ => rfl, callStarted_concat, decide_eq_false hcause, Bool.or_false]
    exact h.status
  · rw [hkeep (fun e => e.local1.onlineFlag) fun _ => rfl]
    exact h.online
  · rw [hkeep (fun e => e.local1.timeOut) fun _ => rfl, elapsed_concat, if_neg hcause,
      datagram_not_tick hi]
    exact h.timeOut

/-- A CALLSTART starts the count anew, or changes nothing. -/
theorem ringing_start (h : Ringing ts u) (hs : u.step a = some (s', o))
    (hc : IsCallStart ⟨u, a, s', o⟩) : Ringing (ts ++ [⟨u, a, s', o⟩]) s' := by
  obtain ⟨buff, sendB, src, hi⟩ := hc
  have hin : u.input a = .video .callStart buff sendB src := hi
  have hd := device_step hs
  rw [hin] at hd
  have hrun : recvTalkCallStartTask buff sendB (dotted src) u.dev = (s'.dev, o) :=
    Option.some.inj hd
  have hcause : causeOf ⟨u, a, s', o⟩ =
      if u.dev.status = .calling ∧ buff 7 = ask then .start else .other := by
    rw [causeOf, hi]
    rfl
  rw [recvTalkCallStartTask] at hrun
  by_cases hacc : u.dev.status = .calling ∧ buff 7 = ask
  · rw [if_pos hacc] at hrun hcause
    have hdev : s'.dev = u.dev.started buff := (congrArg Prod.fst hrun).symm
    refine ⟨?_, ?_, ?_⟩
    · rw [hdev, callStarted_concat, decide_eq_true hcause, Bool.or_true, if_pos rfl]
      rfl
    · rw [hdev]
      exact h.online
    · rw [hdev, elapsed_concat, if_pos hcause]
      rfl
  · rw [if_neg hacc] at hrun hcause
    have hdev : s'.dev = u.dev := (congrArg Prod.fst hrun).symm
    have hno : causeOf ⟨u, a, s', o⟩ ≠ .start := by
      rw [hcause]
      decide
    refine ⟨?_, ?_, ?_⟩
    · rw [hdev, callStarted_concat, decide_eq_false hno, Bool.or_false]
      exact h.status
    · rw [hdev]
      exact h.online
    · rw [hdev, elapsed_concat, if_neg hno, datagram_not_tick hi]
      exact h.timeOut

theorem ringing_begun {b : Boot} (c : TimedCall b) : Ringing [] c.begun := by
  obtain ⟨buff, sendB, src, hi, h7, hp⟩ : Explains c.before.final.dev
      (c.before.final.input c.answer) .answer := c.accepted ▸ cause_explains _ _
  obtain ⟨i, hp⟩ := Option.isSome_iff_exists.mp hp
  have hd := device_step c.answered
  rw [hi] at hd
  have hrun : recvTalkCallAnswerTask buff c.before.final.dev = (c.begun.dev, c.said) :=
    Option.some.inj hd
  rw [callAnswer_released h7 hp] at hrun
  have hdev := (congrArg Prod.fst hrun).symm
  exact ⟨congrArg Device.status hdev, congrArg (fun e : Device => e.local1.onlineFlag) hdev,
    congrArg (fun e : Device => e.local1.timeOut) hdev⟩

/-- Whatever is not a tick leaves the count, or starts it anew. -/
theorem short_concat_other (h : isTick t.act = false) : Short (ts ++ [t]) ↔ Short ts := by
  refine short_concat.trans ⟨And.left, fun hs => ⟨hs, ?_⟩⟩
  have hlast := hs ts (List.prefix_refl ts)
  rw [elapsed_concat, callStarted_concat, h]
  by_cases hc : causeOf t = .start
  · rw [if_pos hc]
    exact Nat.zero_le _
  · rw [if_neg hc, decide_eq_false hc, Bool.or_false]
    exact hlast

theorem due_iff (h : elapsed ts ≤ ticksToDue (callStarted ts)) :
    Due ts ↔ elapsed ts = ticksToDue (callStarted ts) := by
  have hsec : timerPerSec = 2 := rfl
  cases hs : callStarted ts with
  | true =>
    simp only [Due, secondsInTicks, ticksToDue, hs, hsec, if_true] at h ⊢
    constructor <;> omega
  | false =>
    simp only [Due, secondsInTicks, ticksToDue, hs, hsec, Bool.false_eq_true, if_false] at h ⊢
    constructor <;> omega

/-- With the call up behind it, the tick is on time exactly if it was not due. -/
theorem onTime_iff (hu : t.post.dev.active) : OnTime ts t ↔ ¬Due ts := by
  refine ⟨fun h hd => ?_, fun hd => ⟨fun h => absurd h hd, fun _ => hu⟩⟩
  exact active_ne_null hu (h.ends hd).1

theorem punctual_concat_other (h : isTick t.act = false) : Punctual (ts ++ [t]) ↔ Punctual ts := by
  refine punctual_concat.trans (and_iff_left ?_)
  rintro ⟨sendB, ht⟩
  rw [ht] at h
  exact absurd h Bool.noConfusion

theorem ringing_run (h : Run System.step s ts u) (h0 : Ringing [] s)
    (hk : ∀ t ∈ ts, Ticks t ∨ IsConfirm t ∨ IsCallStart t) (hw : ∀ t ∈ ts, ¬OnlineEnds t) :
    (Punctual ts ↔ Short ts) ∧ (Short ts → Ringing ts u) := by
  induction h with
  | start =>
    refine ⟨⟨fun _ us hp => ?_, fun _ us t vs he => ?_⟩, fun _ => h0⟩
    · rw [List.prefix_nil.mp hp]
      exact Nat.zero_le _
    · simp at he
  | @step ts u a s' o h hs ih =>
    obtain ⟨hiff, hring⟩ := ih (fun t ht => hk t (List.mem_append_left _ ht))
      fun t ht => hw t (List.mem_append_left _ ht)
    have hlast := hw ⟨u, a, s', o⟩ (by simp)
    obtain ⟨sendB, ha⟩ | hc | hc := hk ⟨u, a, s', o⟩ (by simp)
    · obtain rfl : a = .tick sendB := ha
      have hstep (hsh : Short ts) := ringing_tick (hring hsh) hs hlast (hsh ts (List.prefix_refl ts))
      refine ⟨?_, fun hsh => hstep (short_concat.mp hsh).1⟩
      rw [punctual_concat, short_concat, hiff]
      refine and_congr_right fun hsh => ?_
      have hle := hsh ts (List.prefix_refl ts)
      have hpre : (⟨u, .tick sendB, s', o⟩ : Step).pre.dev.active := (hring hsh).up
      rw [imp_iff_right ⟨sendB, rfl⟩, imp_iff_right hpre, onTime_iff (hstep hsh).up, due_iff hle,
        elapsed_concat, if_neg tick_not_start, callStarted_concat, decide_eq_false tick_not_start,
        Bool.or_false]
      exact ⟨fun hne => Nat.lt_of_le_of_ne hle hne, fun hlt => Nat.ne_of_lt hlt⟩
    · obtain ⟨buff, sendB, src, hi⟩ := id hc
      have hno : isTick (⟨u, a, s', o⟩ : Step).act = false := datagram_not_tick hi
      rw [punctual_concat_other hno, short_concat_other hno]
      exact ⟨hiff, fun hsh => ringing_confirm (hring hsh) hs hc⟩
    · obtain ⟨buff, sendB, src, hi⟩ := id hc
      have hno : isTick (⟨u, a, s', o⟩ : Step).act = false := datagram_not_tick hi
      rw [punctual_concat_other hno, short_concat_other hno]
      exact ⟨hiff, fun hsh => ringing_start (hring hsh) hs hc⟩

/-- The limits are right as far as nothing is due: up to 52 ticks of ringing and 362 of talk. -/
theorem timeouts_iff {b : Boot} (c : TimedCall b) : Punctual c.steps ↔ Short c.steps :=
  (ringing_run c.run (ringing_begun c) c.kinds c.watched).1

/-! A call that rings for 27 seconds, confirmed every nine. -/

def Input.isConfirm : Input → Bool
  | .video .callConfirm _ _ _ => true
  | _ => false

theorem of_isConfirm (h : (inputOf t).isConfirm = true) : IsConfirm t := by
  unfold Input.isConfirm at h
  split at h
  · rename_i buff sendB src hi
    exact ⟨buff, sendB, src, hi⟩
  · exact Bool.noConfusion h

theorem not_onlineEnds (h : ¬t.pre.dev.lost) : ¬OnlineEnds t :=
  fun ⟨sendB, _, _, hup, hdown⟩ => hdown (onlineCheck_up hup h sendB)

def lateActions : List Action :=
  (List.replicate 3 (sampleRecv ask callConfirm sampleHost ::
    List.replicate 18 (.tick fun _ => 0))).flatten

def dialled : Execution sampleBoot := execute sampleBoot [sampleCall sampleHost] (by decide +kernel)

def sampleAnswer : Action := sampleRecv ask callAnswer sampleHost

theorem dialled_answers : (dialled.final.step sampleAnswer).isSome := by
  decide +kernel

def answeredCall : System × List Event := (dialled.final.step sampleAnswer).get dialled_answers

theorem late_defined : (trail System.step answeredCall.1 lateActions).isSome := by
  decide +kernel

def lateRun : List Step × System := (trail System.step answeredCall.1 lateActions).get late_defined

theorem late_steps {t : Step} (h : t ∈ lateRun.1) :
    (isTick t.act = true ∨ (inputOf t).isConfirm = true) ∧ ¬t.pre.dev.lost := by
  have hall : lateRun.1.all (fun t => decide
      ((isTick t.act = true ∨ (inputOf t).isConfirm = true) ∧ ¬t.pre.dev.lost)) = true := by
    decide +kernel
  exact of_decide_eq_true (List.all_eq_true.mp hall t h)

def lateCall : TimedCall sampleBoot where
  before := dialled
  answer := sampleAnswer
  begun := answeredCall.1
  said := answeredCall.2
  answered := (Option.some_get dialled_answers).symm
  accepted := by decide +kernel
  steps := lateRun.1
  final := lateRun.2
  run := run_of_trail (Option.some_get late_defined).symm
  kinds t ht := (late_steps ht).1.imp ticks_iff.mpr fun h => Or.inl (of_isConfirm h)
  watched t ht := not_onlineEnds (late_steps ht).2

/-- After 54 ticks without a CALLSTART it still rings. -/
theorem call_rings_on : lateCall.steps.map Transition.act = lateActions ∧
    elapsed lateCall.steps = 54 ∧ callStarted lateCall.steps = false ∧
    lateCall.final.dev.status = .calling ∧ ¬Punctual lateCall.steps := by
  have he : elapsed lateCall.steps = 54 := by decide +kernel
  have hs : callStarted lateCall.steps = false := by decide +kernel
  refine ⟨trail_acts (Option.some_get late_defined).symm, he, hs, by decide +kernel, fun hp => ?_⟩
  have hshort := (ringing_run lateCall.run (ringing_begun lateCall) lateCall.kinds
    lateCall.watched).1.mp hp lateCall.steps (List.prefix_refl _)
  rw [he, hs] at hshort
  exact absurd hshort (by decide)

end QsaTalk
