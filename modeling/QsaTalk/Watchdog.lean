import QsaTalk.Lifecycle

/-! The watchdog flag and the call: when `OnlineFlag` says exactly that a call is up. -/
namespace QsaTalk
open ByteBuffer SlotTable Function Runs

def Armed (s : System) : Prop := s.dev.local1.onlineFlag = 1 ↔ s.dev.active

/-- With a call up, one of three datagrams arrives: a CALLEND that is neither an ASK nor the reply
to a pending CALLEND, a LINEUSE that finds a CALL pending while `DenNum` is 1, or a name reply for
a pending query. -/
def DetachesWatchdog (s : System) (a : Action) : Prop :=
  s.dev.active ∧
    match s.input a with
    | .video .callEnd buff _ _ =>
      buff 7 ≠ ask ∧ ¬(buff 7 = reply ∧ s.dev.pendingCallEnd.isSome)
    | .video .lineUse buff _ _ =>
      buff 7 = ask ∧ s.dev.pendingCall.isSome ∧ s.dev.remoteInfo.denNum = 1
    | .video .nsReply buff _ _ => s.dev.asksFor buff
    | _ => False

theorem detachesWatchdog_iff {s : System} {a : Action} : DetachesWatchdog s a ↔
    s.dev.active ∧ (s.dev.cause (s.input a) = .stray ∨ s.dev.cause (s.input a) = .busy ∨
      s.dev.cause (s.input a) = .resolve) := by
  rw [DetachesWatchdog, cause_iff (by decide) (by decide), cause_iff (by decide) (by decide),
    cause_iff (by decide) (by decide)]
  refine and_congr_right fun ha => ?_
  constructor
  · intro h
    split at h
    · exact Or.inl ⟨ha, _, _, _, ‹_›, h⟩
    · exact Or.inr (Or.inl ⟨_, _, _, ‹_›, h⟩)
    · exact Or.inr (Or.inr ⟨_, _, _, ‹_›, h⟩)
    · exact h.elim
  · rintro (⟨-, buff, sendB, src, hi, h⟩ | ⟨buff, sendB, src, hi, h⟩ | ⟨buff, sendB, src, hi, h⟩) <;>
      rw [hi] <;> exact h

theorem not_active_of_null {d : Device} (h : d.status = .null) : ¬d.active :=
  fun ha => active_ne_null ha h

/-- Idle with the watchdog off is armed too. -/
theorem armed_off {s : System} (hn : s.dev.status = .null) (hf : s.dev.local1.onlineFlag = 0) :
    Armed s := by
  rw [Armed, hf]
  exact ⟨fun h => absurd h (by decide), fun h => absurd h (not_active_of_null hn)⟩

theorem armed_init (b : Boot) : Armed (initParamTask b) := by
  have hf : (initParamTask b).dev.local1.onlineFlag = 0 := by
    unfold initParamTask sendFreeArp
    dsimp only
    cases (bootDevice b).freeSlot <;> rfl
  exact armed_off (init_status b) hf

/-- A step that only drops Status keeps the flag, so it is harmless just when no call was up. -/
theorem armed_dropped_iff {s s' : System} (ha : Armed s) (hn : s'.dev.status = .null)
    (hf : s'.dev.local1.onlineFlag = s.dev.local1.onlineFlag) : Armed s' ↔ ¬s.dev.active := by
  have hiff : s.dev.local1.onlineFlag = 1 ↔ s.dev.active := ha
  rw [Armed, hf, hiff]
  exact ⟨fun h hact => not_active_of_null hn (h.mp hact),
    fun hno => ⟨fun h => absurd h hno, fun h => absurd h (not_active_of_null hn)⟩⟩

theorem armed_kept {s s' : System} (ha : Armed s) (hs : s'.dev.status = s.dev.status)
    (hf : s'.dev.local1.onlineFlag = s.dev.local1.onlineFlag) : Armed s' := by
  rw [Armed, hf, Device.active, hs]
  exact ha

/-- A call goes on that nothing watches any more. -/
theorem not_armed_unwatched {s : System} (ha : s.dev.active)
    (hf : s.dev.local1.onlineFlag = 0) : ¬Armed s := by
  intro h
  simpa [hf] using h.mpr ha

/-- What one step does to an armed watchdog. -/
theorem armed_step_iff {s s' : System} {a : Action} {evs : List Event} (hc : s.dev.caller)
    (ha : Armed s) (h : s.step a = some (s', evs)) : Armed s' ↔ ¬DetachesWatchdog s a := by
  obtain ⟨hs, ho, -⟩ := step_callEffect hc (device_step h)
  dsimp only at hs ho
  have hexp := cause_explains s.dev (s.input a)
  rw [detachesWatchdog_iff]
  cases hcause : s.dev.cause (s.input a) with
  | answer =>
    rw [hcause] at hs ho
    have harm : Armed s' := ⟨fun _ => Or.inl hs, fun _ => ho⟩
    simp [harm]
  | start =>
    rw [hcause] at hs ho hexp
    obtain ⟨buff, sendB, src, hi, hstat, -⟩ := hexp
    have hcall : s.dev.active := Or.inl hstat
    have harm : Armed s' := ⟨fun _ => Or.inr hs, fun _ => ho.trans (ha.mpr hcall)⟩
    simp [harm]
  | busy | resolve =>
    rw [hcause] at hs ho
    rw [armed_dropped_iff ha hs ho]
    simp
  | hangUp | expire =>
    rw [hcause] at hs ho
    simp [armed_off hs ho]
  | stray =>
    rw [hcause] at hs ho hexp
    have hact : s.dev.active := hexp.1
    have hact' : s'.dev.active := by
      rw [Device.active, hs]
      exact hact
    simp [hact, not_armed_unwatched hact' ho]
  | lapse =>
    rw [hcause] at hs ho hexp
    have hnull := caller_not_active hc hexp
    simp [armed_off (hs.trans hnull) ho]
  | other =>
    rw [hcause] at hs ho
    simp [armed_kept ha hs ho]

/-- The watchdog is armed exactly while a call is up, in every state of a run, just when no step
of the run detaches it. -/
theorem armed_iff {b : Boot} (e : Execution b) :
    (∀ u ∈ e.states, u.dev.local1.onlineFlag = 1 ↔
      (u.dev.status = .calling ∨ u.dev.status = .talking)) ↔
    ∀ t ∈ e.steps, ¬DetachesWatchdog t.pre t.act :=
  e.run.exact_states (I := Armed) (C := fun s a => ¬DetachesWatchdog s a) (caller_init b)
    caller_step (armed_init b) fun _ _ _ _ hc ha h => armed_step_iff hc ha h

def strayReplyActions : List Action :=
  [sampleCall sampleHost, sampleRecv ask callAnswer sampleHost, sampleRecv reply callEnd sampleHost]

def strayReply : Execution sampleBoot := execute sampleBoot strayReplyActions (by decide +kernel)

/-- The call stays up with the watchdog off. -/
theorem call_unwatched : strayReply.steps.map Transition.act = strayReplyActions ∧
    ∃ u ∈ strayReply.states, u.dev.status = .calling ∧ u.dev.local1.onlineFlag = 0 ∧
      ¬(u.dev.local1.onlineFlag = 1 ↔
        (u.dev.status = .calling ∨ u.dev.status = .talking)) := by
  have hbad : strayReply.states.any (fun u =>
      u.dev.status = .calling ∧ u.dev.local1.onlineFlag = 0) = true := by
    decide +kernel
  obtain ⟨u, hu, h⟩ := List.any_eq_true.mp hbad
  obtain ⟨h1, h2⟩ := of_decide_eq_true h
  exact ⟨execute_acts _, u, hu, h1, h2, by simp [h1, h2]⟩

end QsaTalk
