import QsaTalk.Counters
import QsaTalk.Rejection
import QsaTalk.Timeouts
import QsaTalk.Traffic

/-! The two receive loops and the flag they share: when `exit` ends them, and what becomes of
a call on a device whose video loop has ended, where nothing is heard any more and only the
timer is left. -/
namespace QsaTalk
open ByteBuffer SlotTable Function Runs

def System.loop (s : System) : Port → Bool
  | .video => s.videoRcv
  | .data => s.dataRcv

def Action.socket : Action → Option Port
  | .recvVideo _ _ _ => some .video
  | .recvData _ _ => some .data
  | _ => none

def Action.exits : Action → Bool
  | .recvVideo _ dgram _ | .recvData _ dgram => decide (ExitText (received dgram))
  | _ => false

/-- A datagram has come to the socket at or after an `exit` on either of the two. -/
def Ended (p : Port) (ts : List Step) : Prop :=
  ∃ us t, us ++ [t] <+: ts ∧ t.act.socket = some p ∧ ∃ t' ∈ us ++ [t], t'.act.exits = true

def rounds (ts : List Step) : Nat := ts.countP fun t => isTick t.act

/-- The call is over, or the watch over it is and `k` rounds of it are gone. -/
def Fading (k : Nat) (d : Device) : Prop :=
  d.status = .null ∨ d.local1.onlineFlag = 1 ∧ d.grace + k ≤ 51

def Stuck (d : Device) : Prop := d.status ≠ .null ∧ d.local1.onlineFlag ≠ 1

variable {d : Device} {r : Outcome} {s s' u : System} {a : Action} {evs : List Event} {us ts : List Step} {k : Nat}

/-! The loops. -/

theorem exit_iff {buff : Buf} {dgram : List UInt8} :
    isExit (receive buff dgram) = decide (ExitText (received dgram)) := by
  by_cases h : ExitText (received dgram)
  · rw [decide_eq_true h]
    have hlen : 4 ≤ (received dgram).length := by
      have hl := congrArg List.length h
      simp at hl
      omega
    have hown : ∀ j < 5, [101, 120, 105, 116, 0][j]? = some (receive buff dgram j) := by
      intro j hj
      rw [← h, List.getElem?_take, if_pos hj]
      obtain hlt | heq := Nat.lt_or_eq_of_le (by omega : j ≤ (received dgram).length)
      · rw [List.getElem?_append_left hlt, receive_own buff dgram hlt]
      · rw [heq, receive_length]
        simp
    have h0 := hown 0 (by decide)
    have h1 := hown 1 (by decide)
    have h2 := hown 2 (by decide)
    have h3 := hown 3 (by decide)
    have h4 := hown 4 (by decide)
    simp at h0 h1 h2 h3 h4
    rw [isExit, ← h0, ← h1, ← h2, ← h3, ← h4]
    decide
  · rw [decide_eq_false h]
    exact Bool.eq_false_iff.mpr fun hx => h (exit_text hx)

/-- A datagram on a socket brings its loop down to the flag, which an `exit` clears. -/
theorem loops_step (h : ∀ p, s.loop p = false → s.udpRecvFlag = false)
    (hs : s.step a = some (s', evs)) : s'.udpRecvFlag = (s.udpRecvFlag && !a.exits) ∧
      ∀ p, s'.loop p = if a.socket = some p then s.udpRecvFlag && !a.exits else s.loop p := by
  unfold System.step at hs
  split at hs
  · simp at hs
  · obtain ⟨rfl, rfl⟩ := Prod.mk.inj (Option.some.inj hs)
    have hkeep : s.udpRecvFlag = (s.udpRecvFlag && !false) := by simp
    cases a with
    | recvVideo src dgram sendB =>
      by_cases hv : s.videoRcv = true
      · refine ⟨by simp [System.loops, hv, exit_iff, Action.exits], fun p => ?_⟩
        cases p <;> simp [System.loops, System.loop, hv, exit_iff, Action.exits, Action.socket]
      · have hoff := h .video (Bool.eq_false_iff.mpr hv)
        refine ⟨by simp [System.loops, hv, hoff], fun p => ?_⟩
        cases p <;> simp [System.loops, System.loop, hv, hoff, Action.socket]
    | recvData src dgram =>
      by_cases hd : s.dataRcv = true
      · refine ⟨by simp [System.loops, hd, exit_iff, Action.exits], fun p => ?_⟩
        cases p <;> simp [System.loops, System.loop, hd, exit_iff, Action.exits, Action.socket]
      · have hoff := h .data (Bool.eq_false_iff.mpr hd)
        refine ⟨by simp [System.loops, hd, hoff], fun p => ?_⟩
        cases p <;> simp [System.loops, System.loop, hd, hoff, Action.socket]
    | _ => exact ⟨hkeep, fun p => by cases p <;> rfl⟩

theorem ended_concat {p : Port} {t : Step} : Ended p (ts ++ [t]) ↔
    Ended p ts ∨ t.act.socket = some p ∧ ∃ t' ∈ ts ++ [t], t'.act.exits = true := by
  constructor
  · rintro ⟨us, v, hpre, hsock, hexit⟩
    obtain heq | hpre := List.prefix_concat_iff.mp hpre
    · obtain ⟨rfl, hv⟩ := List.append_inj' heq rfl
      obtain rfl := List.singleton_inj.mp hv
      exact Or.inr ⟨hsock, hexit⟩
    · exact Or.inl ⟨us, v, hpre, hsock, hexit⟩
  · rintro (⟨us, v, hpre, hsock, hexit⟩ | ⟨hsock, hexit⟩)
    · exact ⟨us, v, hpre.trans (List.prefix_append _ _), hsock, hexit⟩
    · exact ⟨ts, t, List.prefix_refl _, hsock, hexit⟩

theorem Ended.exited {p : Port} (h : Ended p ts) : ∃ t ∈ ts, t.act.exits = true := by
  obtain ⟨us, v, hpre, -, t, ht, hexit⟩ := h
  exact ⟨t, hpre.subset ht, hexit⟩

/-- The flag is down since the first `exit`, whichever loop it came to. -/
theorem loops_run {b : Boot} (h : RunFrom b ts s) :
    (s.udpRecvFlag = false ↔ ∃ t ∈ ts, t.act.exits = true) ∧
      ∀ p, s.loop p = false ↔ Ended p ts := by
  refine h.history (I := fun ts s => (s.udpRecvFlag = false ↔ ∃ t ∈ ts, t.act.exits = true) ∧
    ∀ p, s.loop p = false ↔ Ended p ts) ⟨by simp [initParamTask], fun p => ?_⟩ ?_
  · have hon : (initParamTask b).loop p = true := by cases p <;> rfl
    simp [hon, Ended]
  · intro ts v a w o _ ⟨hflag, hloop⟩ hs
    obtain ⟨hf, hl⟩ := loops_step (fun p hp => hflag.mpr ((hloop p).mp hp).exited) hs
    have hall : w.udpRecvFlag = false ↔ ∃ t ∈ ts ++ [⟨v, a, w, o⟩], t.act.exits = true := by
      rw [hf, Bool.and_eq_false_iff, hflag]
      simp [or_and_right, exists_or]
    refine ⟨hall, fun p => ?_⟩
    rw [hl p, ended_concat, ← hall, ← hf, ← hloop p]
    by_cases hsock : a.socket = some p
    · rw [if_pos hsock]
      refine ⟨fun hw => Or.inr ⟨hsock, hw⟩, fun hw => hw.elim (fun hp => ?_) And.right⟩
      rw [hf, hflag.mpr ((hloop p).mp hp).exited]
      rfl
    · rw [if_neg hsock]
      exact ⟨Or.inl, fun hw => hw.elim id fun hw => absurd hw.1 hsock⟩

/-- The loop on a socket has ended just when a datagram has come to it at or after the first `exit`
on either of the two: the loop that gets the `exit` ends with it, the other one takes one more. -/
theorem loop_ended_iff {b : Boot} (e : Execution b) (p : Port) :
    e.final.loop p = false ↔ Ended p e.steps :=
  (loops_run e.run).2 p

/-! A call on a deaf device. -/

theorem deaf_step (h : s.videoRcv = false) (hs : s.step a = some (s', evs)) :
    s'.videoRcv = false := by
  unfold System.step at hs
  split at hs
  · simp at hs
  · obtain ⟨rfl, rfl⟩ := Prod.mk.inj (Option.some.inj hs)
    cases a with
    | recvVideo src dgram sendB => simp [System.loops, h]
    | recvData src dgram =>
      unfold System.loops
      dsimp only
      split <;> exact h
    | _ => exact h

/-- Without datagrams only the timer moves `Local`. -/
theorem quiet_local1 {i : Input} (hr : d.step i = some r)
    (hv : ∀ t buff sendB src, i ≠ .video t buff sendB src) (ht : ∀ sendB, i ≠ .tick sendB) :
    r.1.local1 = d.local1 ∧ d.cause i = .other := by
  cases i with
  | idle =>
    obtain rfl := Option.some.inj hr
    exact ⟨rfl, rfl⟩
  | startCall ip addr uFlag =>
    obtain rfl := Option.some.inj hr
    exact ⟨startCall_effect.local1, rfl⟩
  | stopTalk =>
    obtain rfl := Option.some.inj hr
    exact ⟨stopTalk_effect.local1, rfl⟩
  | findIp addr uFlag =>
    obtain rfl := Option.some.inj hr
    exact ⟨findIp_effect.local1, rfl⟩
  | sendInfo data info => exact ⟨(sendInfo_effect hr).local1, rfl⟩
  | sendAudio c => exact ⟨congrArg Device.local1 (sendAudio_spec hr).1, rfl⟩
  | sendVideo c t => exact ⟨congrArg Device.local1 (sendVideo_spec hr).1, rfl⟩
  | openLock buff =>
    obtain rfl := Option.some.inj hr
    by_cases hp : buff 7 = reply ∧ d.pendingOpenLock.isSome
    · obtain ⟨j, hj⟩ := Option.isSome_iff_exists.mp hp.2
      rw [openLock_released hp.1 hj]
      exact ⟨rfl, rfl⟩
    · rw [openLock_ignored hp]
      exact ⟨rfl, rfl⟩
  | video t buff sendB src => exact absurd rfl (hv t buff sendB src)
  | tick sendB => exact absurd rfl (ht sendB)

theorem deaf_input (h : s.videoRcv = false) (hs : s.step a = some (s', evs)) :
    (∃ sendB, a = .tick sendB) ∨
      isTick a = false ∧ s'.dev.local1 = s.dev.local1 := by
  have hd := device_step hs
  cases a with
  | tick sendB => exact Or.inl ⟨sendB, rfl⟩
  | recvVideo src dgram sendB =>
    have hin : s.input (.recvVideo src dgram sendB) = .idle := if_neg (by simp [h])
    rw [hin] at hd
    exact Or.inr ⟨rfl, (quiet_local1 hd (by simp) (by simp)).1⟩
  | recvData src dgram =>
    refine Or.inr ⟨rfl, (quiet_local1 hd ?_ ?_).1⟩ <;> unfold System.input <;> dsimp only <;>
      split <;> simp
  | startCall | stopTalk | findIp | sendInfo | sendAudio | sendVideo =>
    exact Or.inr ⟨rfl, (quiet_local1 hd (by simp [System.input]) (by simp [System.input])).1⟩

theorem fading_tick {sendB : Buf} (hc : Counted d) (hf : Fading k d) :
    Fading (k + 1) (timerThreadTask sendB d).1 := by
  by_cases hx : d.expires
  · obtain ⟨v, l, hs, -, he⟩ := tick_expire sendB hx.1 hx.2.1 hx.2.2
    rw [he]
    exact Or.inl hs
  · obtain hn | ⟨hon, hg⟩ := hf
    · obtain ⟨l, hs, he⟩ := tick_keep sendB hc.caller hx
      rw [he]
      exact Or.inl (hs.trans hn)
    · by_cases ha : d.active
      · have hl : ¬d.lost := fun hl => hx ⟨hon, ha, Or.inl hl⟩
        have ho : ¬d.overdue := fun ho => hx ⟨hon, ha, Or.inr ho⟩
        have hgrace := grace_tick sendB hon hl hc.timer.timer1Num
        obtain ⟨l, -, hon', he⟩ := tick_quiet sendB hon hc.caller hl ho
        refine Or.inr ⟨?_, by omega⟩
        rw [he]
        exact hon'
      · obtain ⟨l, hs, he⟩ := tick_keep sendB hc.caller hx
        rw [he]
        exact Or.inl (hs.trans (caller_not_active hc.caller ha))

theorem fading_step (h : s.videoRcv = false) (hc : Counted s.dev) (hf : Fading k s.dev)
    (hs : s.step a = some (s', evs)) : Fading (k + if isTick a then 1 else 0) s'.dev := by
  obtain ⟨sendB, rfl⟩ | ⟨htick, hl⟩ := deaf_input h hs
  · have hd : timerThreadTask sendB s.dev = (s'.dev, evs) := Option.some.inj (device_step hs)
    have ht : Fading (k + 1) (timerThreadTask sendB s.dev).1 := fading_tick hc hf
    rw [hd] at ht
    exact ht
  · rw [if_neg (by simp [htick])]
    unfold Fading Device.grace Device.status at *
    rw [hl]
    exact hf

theorem stuck_step (h : s.videoRcv = false) (hk : Stuck s.dev)
    (hs : s.step a = some (s', evs)) : Stuck s'.dev := by
  obtain ⟨sendB, rfl⟩ | ⟨-, hl⟩ := deaf_input h hs
  · have hd : timerThreadTask sendB s.dev = (s'.dev, evs) := Option.some.inj (device_step hs)
    rw [tick_off hk.2] at hd
    obtain ⟨hd, -⟩ := Prod.mk.inj hd
    rw [← hd]
    exact hk
  · unfold Stuck Device.status at *
    rw [hl]
    exact hk

theorem deaf_fading (h : s.videoRcv = false) (hc : Counted s.dev) (hf : Fading 0 s.dev)
    (ht : Run System.step s ts u) : Counted u.dev ∧ Fading (rounds ts) u.dev := by
  have hinv := ht.history (I := fun ts u => u.videoRcv = false ∧ Counted u.dev ∧ Fading (rounds ts) u.dev)
    ⟨h, hc, hf⟩ fun ts v a w o _ ⟨hv, hcv, hfv⟩ hs => ⟨deaf_step hv hs, counted_step v a w o hcv hs, by
      have hstep := fading_step hv hcv hfv hs
      rwa [rounds, List.countP_append, List.countP_singleton]⟩
  exact hinv.2

theorem deaf_stuck (h : s.videoRcv = false) (hk : Stuck s.dev) (ht : Run System.step s ts u) :
    Stuck u.dev :=
  (ht.invariant (J := fun u => u.videoRcv = false ∧ Stuck u.dev) ⟨h, hk⟩
    fun _ _ _ _ hv hs => ⟨deaf_step hv.1 hs, stuck_step hv.1 hv.2 hs⟩).2

/-- After an `exit` no call comes up, and one that is up is over within fifty-one rounds of the
timer, whatever else is done, just when the watch over it is on; a call without it stays up for
good. -/
theorem deaf_settles {b : Boot} (hs : RunFrom b us s) (h : s.videoRcv = false)
    (ht : Run System.step s ts u) (hn : 51 ≤ rounds ts) :
    u.dev.status = .null ↔ s.dev.status = .null ∨ s.dev.local1.onlineFlag = 1 := by
  have hc := counted_run hs
  constructor
  · intro hu
    by_contra hno
    exact (deaf_stuck h ⟨fun hs => hno (Or.inl hs), fun ho => hno (Or.inr ho)⟩ ht).1 hu
  · intro hok
    obtain ⟨hcu, hf⟩ := deaf_fading h hc (hok.imp_right fun ho => ⟨ho, grace_le _⟩) ht
    obtain hu | ⟨-, hg⟩ := hf
    · exact hu
    · have hpos : 0 < u.dev.grace := by
        have htimer := hcu.timer.timer1Num
        have hsec : timerPerSec = 2 := rfl
        unfold Device.grace
        omega
      omega

theorem rounds_run (s : System) (n : Nat) : ∃ ts u, Run System.step s ts u ∧ rounds ts = n := by
  induction n with
  | zero => exact ⟨[], s, .start, rfl⟩
  | succ n ih =>
    obtain ⟨ts, u, hrun, hn⟩ := ih
    have hstep : u.step (.tick fun _ => 0) =
        some ({ u with dev := (timerThreadTask (fun _ => 0) u.dev).1 },
          (timerThreadTask (fun _ => 0) u.dev).2) := rfl
    refine ⟨_, _, hrun.step hstep, ?_⟩
    rw [rounds, List.countP_append, List.countP_singleton]
    exact congrArg (· + 1) hn

def deafActions : List Action :=
  [sampleCall sampleHost, sampleRecv ask callAnswer sampleHost,
    .recvVideo ⟨10, 0, 0, 1⟩ [0x65, 0x78, 0x69, 0x74] fun _ => 0]

def deafened : Execution sampleBoot := execute sampleBoot deafActions (by decide +kernel)

theorem deafened_settles : deafened.final.dev.status = .calling ∧ deafened.final.videoRcv = false ∧
    ∃ ts u, Run System.step deafened.final ts u ∧ rounds ts = 51 ∧ u.dev.status = .null := by
  have hdeaf : deafened.final.videoRcv = false := by decide +kernel
  have hon : deafened.final.dev.local1.onlineFlag = 1 := by decide +kernel
  obtain ⟨ts, u, hrun, hn⟩ := rounds_run deafened.final 51
  exact ⟨by decide +kernel, hdeaf, ts, u, hrun, hn,
    (deaf_settles deafened.run hdeaf hrun hn.ge).mpr (Or.inr hon)⟩

end QsaTalk
