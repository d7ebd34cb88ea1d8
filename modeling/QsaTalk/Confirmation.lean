import QsaTalk.Lib.Precedence
import QsaTalk.PendingCommands

/-! The online check in the course of a call: the counter stays in its window, a call confirmed in
every window goes on, and one that nobody confirms is over after two windows. -/
namespace QsaTalk
open ByteBuffer SlotTable Runs Precedence

def isTick : Action → Bool
  | .tick _ => true
  | _ => false

def Ticks (t : Step) : Prop := ∃ sendB, t.act = .tick sendB

def Confirms (t : Step) : Prop :=
  ∃ buff sendB src, inputOf t = .video .callConfirm buff sendB src ∧ t.pre.dev.active ∧ buff 7 = ask

def WindowCheck (t : Step) : Prop :=
  Ticks t ∧ t.pre.dev.local1.onlineFlag = 1 ∧ t.pre.dev.local1.timer1Num > timerPerSec * 12

def OnlineEnds (t : Step) : Prop :=
  ∃ sendB, t.act = .tick sendB ∧ t.pre.dev.local1.onlineFlag = 1 ∧ t.pre.dev.active ∧
    ¬(onlineCheckFunc sendB t.pre.dev).1.active

/-- A call under watch in a state that can be reached. -/
structure WatchedCall (b : Boot) extends Execution b where
  up : final.dev.active
  watched : final.dev.local1.onlineFlag = 1

/-- How a call goes on with timer ticks and accepted CALLCONFIRMs only. -/
structure Watch (s : System) where
  steps : List Step
  final : System
  run : Run System.step s steps final
  kinds : ∀ t ∈ steps, Ticks t ∨ Confirms t

structure Confirmed (ts : List Step) : Prop where
  first : ∀ us t vs, ts = us ++ t :: vs → WindowCheck t → (∀ w ∈ us, ¬WindowCheck w) →
    t.pre.dev.local1.callConfirmFlag = 1
  between : ∀ us t vs, ts = us ++ t :: vs → WindowCheck t → (∃ w ∈ us, WindowCheck w) →
    Since Confirms WindowCheck us

def outputs (ts : List Step) : List Event := ts.flatMap Transition.out

/-- The call is over, the application was told once, and one CALLEND at most went out. -/
structure Dropped (s : System) (ts : List Step) (u : System) : Prop where
  status : u.dev.status = .null
  online : u.dev.local1.onlineFlag = 0
  told : ∃ v, (v = .talkStop ∨ v = .callTimeout ∨ v = .talkTimeout) ∧
    currOpts (outputs ts) = [(v, .null)]
  sent : (sends (outputs ts)).length ≤ 1
  queued : u.dev.commands callEnd ≤ s.dev.commands callEnd + 1

/-! The steps of a run can be checked one by one. -/

theorem ticks_iff {t : Step} : Ticks t ↔ isTick t.act = true := by
  unfold isTick
  constructor
  · rintro ⟨sendB, ht⟩
    rw [ht]
  · intro h
    split at h
    · exact ⟨_, ‹_›⟩
    · exact Bool.noConfusion h

def Input.confirmation : Input → Option Buf
  | .video .callConfirm buff _ _ => some buff
  | _ => none

theorem confirms_iff {t : Step} : Confirms t ↔
    ∃ buff ∈ (inputOf t).confirmation, t.pre.dev.active ∧ buff 7 = ask := by
  constructor
  · rintro ⟨buff, sendB, src, hi, h⟩
    exact ⟨buff, by rw [hi]; rfl, h⟩
  · rintro ⟨buff, hb, h⟩
    unfold Input.confirmation at hb
    split at hb
    · obtain rfl := Option.some.inj hb
      exact ⟨_, _, _, ‹_›, h⟩
    · exact absurd hb (by simp)

theorem confirmed_iff {ts : List Step} : Confirmed ts ↔ ∀ us t vs, ts = us ++ t :: vs →
    WindowCheck t → ((∀ w ∈ us, ¬WindowCheck w) → t.pre.dev.local1.callConfirmFlag = 1) ∧
      ((∃ w ∈ us, WindowCheck w) → Since Confirms WindowCheck us) := by
  constructor
  · exact fun h us t vs he hc => ⟨h.first us t vs he hc, h.between us t vs he hc⟩
  · exact fun h => ⟨fun us t vs he hc => (h us t vs he hc).1, fun us t vs he hc => (h us t vs he hc).2⟩

instance : DecidablePred Ticks := fun _ => decidable_of_iff' _ ticks_iff
instance : DecidablePred Confirms := fun _ => decidable_of_iff' _ confirms_iff
instance : DecidablePred WindowCheck := fun _ => inferInstanceAs (Decidable (_ ∧ _))
instance (ts : List Step) : Decidable (Confirmed ts) :=
  decidable_of_iff' _ (confirmed_iff.trans forall_split)

variable {d : Device} {r : Outcome} {s s' u : System} {a : Action} {o : List Event} {sendB : Buf}
  {ts : List Step}

theorem step_tick (h : s.step (.tick sendB) = some (s', o)) :
    s'.dev = (timerThreadTask sendB s.dev).1 ∧ o = (timerThreadTask sendB s.dev).2 := by
  have hd : timerThreadTask sendB s.dev = (s'.dev, o) := Option.some.inj (device_step h)
  rw [hd]
  exact ⟨rfl, rfl⟩

theorem step_confirm (h : s.step a = some (s', o)) (hc : Confirms ⟨s, a, s', o⟩) :
    s'.dev = s.dev.confirmed := by
  obtain ⟨buff, sendB, src, hi, ha, h7⟩ := hc
  have hd := device_step h
  have hin : s.input a = .video .callConfirm buff sendB src := hi
  have hcond : (s.dev.status = .calling ∨ s.dev.status = .talking) ∧ buff 7 = ask := ⟨ha, h7⟩
  rw [hin] at hd
  have hrun : runVideoTask .callConfirm buff sendB (dotted src) s.dev = (s'.dev, o) :=
    Option.some.inj hd
  rw [runVideoTask, recvTalkCallConfirmTask, if_pos hcond] at hrun
  exact (congrArg Prod.fst hrun).symm

/-! The counter. -/

theorem timer1Num_step {i : Input} (h : d.step i = some r) (hb : d.local1.timer1Num ≤ 25) :
    r.1.local1.timer1Num ≤ 25 := by
  cases i with
  | idle =>
    rw [← Option.some.inj h]
    exact hb
  | startCall ip addr uFlag =>
    rw [← Option.some.inj h, startCall_effect.local1]
    exact hb
  | stopTalk =>
    rw [← Option.some.inj h, stopTalk_local1]
    exact hb
  | findIp addr uFlag =>
    rw [← Option.some.inj h, findIp_effect.local1]
    exact hb
  | sendInfo data info =>
    rw [(sendInfo_effect h).local1]
    exact hb
  | sendAudio c =>
    rw [(sendAudio_spec h).1]
    exact hb
  | sendVideo c frameType =>
    rw [(sendVideo_spec h).1]
    exact hb
  | openLock buff =>
    rw [← Option.some.inj h]
    by_cases hp : buff 7 = reply ∧ d.pendingOpenLock.isSome
    · obtain ⟨j, hj⟩ := Option.isSome_iff_exists.mp hp.2
      rw [openLock_released hp.1 hj]
      exact hb
    · rw [openLock_ignored hp]
      exact hb
  | tick sendB =>
    rw [← Option.some.inj h]
    by_cases hon : d.local1.onlineFlag = 1
    · rw [(tick_counts sendB hon).1]
      have hw : timerPerSec * 12 = 24 := rfl
      split <;> omega
    · rw [tick_off hon]
      exact hb
  | video t buff sendB src =>
    rw [← Option.some.inj h]
    have he := video_effect d t buff sendB (dotted src)
    generalize runVideoTask t buff sendB (dotted src) d = r at he
    cases he with
    | passive ht =>
      rw [passive_keeps (fun e => e.local1.timer1Num) (fun _ => rfl) ht]
      exact hb
    | answered => exact Nat.zero_le _
    | ended | concluded =>
      rw [Device.cleared, dropMultiGroup_eq]
      exact hb
    | _ => exact hb

def Device.Windowed (d : Device) : Prop := d.caller ∧ d.local1.timer1Num ≤ 25

theorem windowed_step (s : System) (a : Action) (s' : System) (o : List Event)
    (hs : s.dev.Windowed) (h : s.step a = some (s', o)) : s'.dev.Windowed :=
  ⟨caller_step s a s' o hs.1 h, timer1Num_step (device_step h) hs.2⟩

theorem run_windowed {b : Boot} (h : RunFrom b ts s) : s.dev.Windowed := by
  refine h.invariant (J := fun s => s.dev.Windowed) ⟨caller_init b, ?_⟩ windowed_step
  have hz : (initParamTask b).dev.local1.timer1Num = 0 := by
    unfold initParamTask sendFreeArp
    dsimp only
    cases (bootDevice b).freeSlot <;> rfl
  rw [hz]
  exact Nat.zero_le _

theorem states_windowed (hs : s.dev.Windowed) (h : Run System.step s ts u) :
    ∀ v ∈ states s ts, v.dev.Windowed :=
  (always_states h).mp fun _ _ _ hv => hv.invariant (J := fun s => s.dev.Windowed) hs windowed_step

/-! Confirmed in every window. -/

/-- A CALLCONFIRM that no check has used up shows in the flag. -/
theorem confirmation_kept {us : List Step} (h : Run System.step s us u)
    (hk : ∀ t ∈ us, Ticks t ∨ Confirms t) (hon : u.dev.local1.onlineFlag = 1)
    (hs : Since Confirms WindowCheck us) : u.dev.local1.callConfirmFlag ≠ 0 := by
  induction h with
  | start =>
    obtain ⟨_, _, _, he, -⟩ := hs
    simp at he
  | @step ts v a v' o h hstep ih =>
    have hks : ∀ t ∈ ts, Ticks t ∨ Confirms t := fun t ht => hk t (List.mem_append_left _ ht)
    by_cases hconf : Confirms ⟨v, a, v', o⟩
    · rw [step_confirm hstep hconf]
      exact one_ne_zero
    · obtain ⟨sendB, htick⟩ := (hk ⟨v, a, v', o⟩ (by simp)).resolve_right hconf
      obtain rfl : a = .tick sendB := htick
      obtain ⟨hsince, hno⟩ := (since_concat.mp hs).resolve_left hconf
      obtain ⟨hd, -⟩ := step_tick hstep
      have honv : v.dev.local1.onlineFlag = 1 := by
        by_contra hoff
        rw [hd, tick_off hoff] at hon
        exact hoff hon
      have hearly : ¬v.dev.local1.timer1Num > timerPerSec * 12 :=
        fun hw => hno ⟨⟨sendB, rfl⟩, honv, hw⟩
      rw [hd, (tick_counts sendB honv).2.1, if_neg hearly]
      exact ih hks honv hsince

theorem onlineCheck_up (hc : d.active) (hl : ¬d.lost) (sendB : Buf) :
    (onlineCheckFunc sendB d).1.active := by
  obtain ⟨n, f, he⟩ := onlineCheck_quiet sendB hl (active_caller hc)
  rw [he]
  exact hc

/-! Never confirmed. -/

def Device.ticksLeft (d : Device) : Nat :=
  26 - d.local1.timer1Num + if d.local1.callConfirmFlag = 0 then 0 else 25

structure Waiting (s : System) (ts : List Step) (u : System) : Prop where
  up : u.dev.active
  online : u.dev.local1.onlineFlag = 1
  window : u.dev.local1.timer1Num ≤ 25
  left : u.dev.ticksLeft + ts.length = s.dev.ticksLeft
  silent : outputs ts = []
  table : u.dev.multiUdpBuff = s.dev.multiUdpBuff

theorem outputs_append (ts : List Step) (t : Step) : outputs (ts ++ [t]) = outputs ts ++ t.out := by
  rw [outputs, List.flatMap_append, List.flatMap_singleton, outputs]

theorem endReason_cases (d : Device) :
    d.endReason = .talkStop ∨ d.endReason = .callTimeout ∨ d.endReason = .talkTimeout := by
  unfold Device.endReason timeoutReason
  split
  · exact Or.inl rfl
  · split
    · exact Or.inr (Or.inl rfl)
    · exact Or.inr (Or.inr rfl)

theorem stopTalk_sent (d : Device) : (sends (stopTalk d).2).length ≤ 1 := by
  unfold stopTalk
  split
  · exact Nat.zero_le _
  · cases d.freeSlot with
    | none => exact Nat.zero_le _
    | some i => exact Nat.le_refl _

theorem queued_le_one (used : MultiUdpBuff1 → Bool) (i : Input) : d.queued used i ≤ 1 := by
  unfold Device.queued
  split
  · exact Bool.toNat_le _
  · exact Nat.zero_le _

/-- A tick in a call: another one is used up, or the call is dropped. -/
theorem tick_waiting (h : Waiting s ts u) (hs : u.step (.tick sendB) = some (s', o)) :
    Waiting s (ts ++ [⟨u, .tick sendB, s', o⟩]) s' ∨
      Dropped s (ts ++ [⟨u, .tick sendB, s', o⟩]) s' := by
  obtain ⟨hd, ho⟩ := step_tick hs
  have hcall := active_caller h.up
  by_cases hx : u.dev.lost ∨ u.dev.overdue
  · obtain ⟨l, hn, hf, he⟩ := tick_ends sendB h.online h.up hx
    have hledger := step_commands callEnd hcall (device_step hs)
    have hone := queued_le_one (d := u.dev) (fun m => decide (m.holds callEnd)) (.tick sendB)
    have hsame : u.dev.commands callEnd = s.dev.commands callEnd := by
      rw [Device.commands, h.table, Device.commands]
    rw [he] at hd ho
    refine Or.inr ⟨?_, ?_, ⟨u.dev.endReason, endReason_cases u.dev, ?_⟩, ?_, ?_⟩
    · rw [hd]
      exact hn
    · rw [hd]
      exact hf
    · rw [outputs_append, h.silent, ho]
      simp [stopTalk_currOpts, Event.opt]
    · rw [outputs_append, h.silent, ho]
      simpa [Event.sent] using stopTalk_sent u.dev
    · rw [System.input] at hledger
      dsimp only at hledger
      omega
  · obtain ⟨hl, hov⟩ := not_or.mp hx
    obtain ⟨l, hst, hon, he⟩ := tick_quiet sendB h.online hcall hl hov
    obtain ⟨h1, h2, -⟩ := tick_counts sendB h.online
    have hw : timerPerSec * 12 = 24 := rfl
    have hwin := h.window
    have hleft := h.left
    rw [← hd] at h1 h2
    rw [he] at hd ho
    refine Or.inl ⟨?_, ?_, ?_, ?_, ?_, ?_⟩
    · rw [hd, Device.active, withLocal_status, hst]
      exact h.up
    · rw [hd]
      exact hon
    · rw [h1]
      split <;> omega
    · rw [Device.ticksLeft, h1, h2, List.length_append, List.length_singleton, ← hleft,
        Device.ticksLeft]
      have hkeep : ¬(u.dev.local1.timer1Num > timerPerSec * 12 ∧
        u.dev.local1.callConfirmFlag = 0) := hl
      by_cases hlast : u.dev.local1.timer1Num > timerPerSec * 12
      · rw [if_pos hlast, if_pos hlast, if_pos rfl, if_neg fun hz => hkeep ⟨hlast, hz⟩]
        omega
      · rw [if_neg hlast, if_neg hlast]
        omega
    · rw [outputs_append, h.silent, ho]
      rfl
    · rw [hd, ← h.table]
      rfl

/-- With the call over, ticks change nothing and say nothing. -/
theorem tick_dropped (h : Dropped s ts u) (hs : u.step (.tick sendB) = some (s', o)) :
    Dropped s (ts ++ [⟨u, .tick sendB, s', o⟩]) s' := by
  obtain ⟨hd, ho⟩ := step_tick hs
  have hoff : u.dev.local1.onlineFlag ≠ 1 := by
    rw [h.online]
    decide
  rw [tick_off hoff] at hd ho
  have hout : outputs (ts ++ [⟨u, .tick sendB, s', o⟩]) = outputs ts := by
    rw [outputs_append, ho]
    exact List.append_nil _
  exact ⟨hd ▸ h.status, hd ▸ h.online, hout ▸ h.told, hout ▸ h.sent, hd ▸ h.queued⟩

theorem ticks_run (h : Run System.step s ts u) (hk : ∀ t ∈ ts, Ticks t) (hup : s.dev.active)
    (hon : s.dev.local1.onlineFlag = 1) (hwin : s.dev.local1.timer1Num ≤ 25) :
    Waiting s ts u ∨ Dropped s ts u := by
  induction h with
  | start => exact Or.inl ⟨hup, hon, hwin, rfl, rfl, rfl⟩
  | @step ts u a s' o h hs ih =>
    obtain ⟨sendB, ht⟩ := hk ⟨u, a, s', o⟩ (by simp)
    obtain rfl : a = .tick sendB := ht
    obtain hw | hd := ih fun t ht => hk t (List.mem_append_left _ ht)
    · exact tick_waiting hw hs
    · exact Or.inr (tick_dropped hd hs)

/-- Two windows without a CALLCONFIRM are 51 ticks at most. -/
theorem Waiting.short (h : Waiting s ts u) : ts.length < 51 := by
  have hl := h.left
  have hw := h.window
  have hs : s.dev.ticksLeft ≤ 51 := by
    rw [Device.ticksLeft]
    split <;> omega
  have hu : 1 ≤ u.dev.ticksLeft := by
    rw [Device.ticksLeft]
    omega
  omega

/-- The online check of every call that is up and watched. -/
theorem confirm_watchdog {b : Boot} (c : WatchedCall b) (w : Watch c.final) :
    (∀ u ∈ states c.final w.steps, u.dev.local1.timer1Num ≤ 25) ∧
      (Confirmed w.steps → ∀ t ∈ w.steps, ¬OnlineEnds t) ∧
      ((∀ t ∈ w.steps, ¬Confirms t) → 51 ≤ w.steps.length → Dropped c.final w.steps w.final) := by
  have hwin := run_windowed c.run
  refine ⟨fun u hu => (states_windowed hwin w.run u hu).2, fun hc t ht hend => ?_, fun hno hlen => ?_⟩
  · obtain ⟨sendB, htick, hon, hup, hdown⟩ := hend
    obtain ⟨us, vs, hts⟩ := List.append_of_mem ht
    have hprefix : us ++ [t] <+: w.steps := ⟨vs, by rw [hts]; simp⟩
    obtain ⟨u, hrun⟩ := w.run.prefix hprefix
    obtain ⟨hbefore, -, -⟩ := hrun.last
    have hkinds : ∀ x ∈ us, Ticks x ∨ Confirms x := fun x hx => w.kinds x (by rw [hts]; simp [hx])
    refine hdown (onlineCheck_up hup (fun hl => ?_) sendB)
    have hcheck : WindowCheck t := ⟨⟨sendB, htick⟩, hon, hl.1⟩
    by_cases hfirst : ∃ x ∈ us, WindowCheck x
    · exact confirmation_kept hbefore hkinds hon (hc.between us t vs hts hcheck hfirst) hl.2
    · have hone := hc.first us t vs hts hcheck fun x hx hx' => hfirst ⟨x, hx, hx'⟩
      rw [hl.2] at hone
      exact absurd hone (by decide)
  · have hticks : ∀ t ∈ w.steps, Ticks t := fun t ht => (w.kinds t ht).resolve_right (hno t ht)
    obtain hw | hd := ticks_run w.run hticks c.up c.watched hwin.2
    · exact absurd hw.short (by omega)
    · exact hd

/-! A call that is answered, and goes on in either way. -/

def upActions : List Action := [sampleCall sampleHost, sampleRecv ask callAnswer sampleHost]

theorem up_defined : (trail System.step (initParamTask sampleBoot) upActions).isSome := by
  decide +kernel

def upCall : Execution sampleBoot := execute sampleBoot upActions up_defined

theorem upCall_watched : upCall.final.dev.active ∧ upCall.final.dev.local1.onlineFlag = 1 := by
  decide +kernel

def watchedCall : WatchedCall sampleBoot := ⟨upCall, upCall_watched.1, upCall_watched.2⟩

def bareTicks (n : Nat) : List Action := List.replicate n (.tick fun _ => 0)

def confirmedActions : List Action :=
  bareTicks 26 ++ sampleRecv ask callConfirm sampleHost :: bareTicks 26

theorem confirmed_defined :
    (trail System.step upCall.final confirmedActions).isSome := by
  decide +kernel

theorem unconfirmed_defined :
    (trail System.step upCall.final (bareTicks 51)).isSome := by
  decide +kernel

def confirmedWatch : Watch upCall.final where
  steps := ((trail System.step upCall.final confirmedActions).get confirmed_defined).1
  final := ((trail System.step upCall.final confirmedActions).get confirmed_defined).2
  run := run_of_trail (Option.some_get confirmed_defined).symm
  kinds := by decide +kernel

def unconfirmedWatch : Watch upCall.final where
  steps := ((trail System.step upCall.final (bareTicks 51)).get unconfirmed_defined).1
  final := ((trail System.step upCall.final (bareTicks 51)).get unconfirmed_defined).2
  run := run_of_trail (Option.some_get unconfirmed_defined).symm
  kinds := by decide +kernel

theorem answered_watched :
    ((confirmedWatch.steps.countP fun t => decide (WindowCheck t)) = 2 ∧
      Confirmed confirmedWatch.steps ∧ ∀ t ∈ confirmedWatch.steps, ¬OnlineEnds t) ∧
    Dropped upCall.final unconfirmedWatch.steps unconfirmedWatch.final := by
  have hconf : Confirmed confirmedWatch.steps := by decide +kernel
  have hlen : 51 ≤ unconfirmedWatch.steps.length := by decide +kernel
  have hbare : ∀ t ∈ unconfirmedWatch.steps, ¬Confirms t := by decide +kernel
  exact ⟨⟨by decide +kernel, hconf, (confirm_watchdog watchedCall confirmedWatch).2.1 hconf⟩,
    (confirm_watchdog watchedCall unconfirmedWatch).2.2 hbare hlen⟩

end QsaTalk
