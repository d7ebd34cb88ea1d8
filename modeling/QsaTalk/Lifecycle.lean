import QsaTalk.CallMachine

/-! The life of a call, along whole runs: which steps may move Status, and along which edges. -/
namespace QsaTalk
open ByteBuffer SlotTable Function Runs

def MultiUdpBuff1.holds (sub : UInt8) (m : MultiUdpBuff1) : Prop :=
  m.isValid = true ∧ m.buf 6 = videoTalk ∧ m.buf 7 = ask ∧ m.buf 8 = sub

instance (sub : UInt8) (m : MultiUdpBuff1) : Decidable (m.holds sub) :=
  inferInstanceAs (Decidable (_ ∧ _))

/-- The step is a CALLANSWER that takes a pending CALL out of the table. -/
def ReleasesCall (t : Step) : Prop :=
  ∃ buff sendB src i, inputOf t = .video .callAnswer buff sendB src ∧
    (t.pre.dev.multiUdpBuff i).holds call ∧ (t.post.dev.multiUdpBuff i).isValid = false

def IsCallStart (t : Step) : Prop := ∃ buff sendB src, inputOf t = .video .callStart buff sendB src

inductive LifecycleEdge (t : Step) : Prop
  | stay (h : t.post.dev.status = t.pre.dev.status)
  | openCall (h : t.pre.dev.status = .null) (h' : t.post.dev.status = .calling)
      (hr : ReleasesCall t)
  | startTalk (h : t.pre.dev.status = .calling) (h' : t.post.dev.status = .talking)
      (hs : IsCallStart t)
  | finish (h : t.pre.dev.active) (h' : t.post.dev.status = .null)

/-- An ASK CALLANSWER arrives while a CALL is pending, though a talk is established. -/
def ReopensTalk (s : System) (a : Action) : Prop :=
  s.dev.status = .talking ∧ s.dev.pendingCall.isSome ∧
    ∃ buff sendB src, s.input a = .video .callAnswer buff sendB src ∧ buff 7 = ask

theorem awaits_holds {sock : Int} {sub : UInt8} {m : MultiUdpBuff1}
    (h : m.awaits sock isTalk sub = true) : m.holds sub := by
  simp only [MultiUdpBuff1.awaits, isTalk, Bool.and_eq_true, beq_iff_eq, decide_eq_true_eq] at h
  obtain ⟨⟨⟨⟨⟨hv, -⟩, -⟩, h6⟩, h7⟩, h8⟩ := h
  exact ⟨hv, h6, h7, h8⟩

theorem releasesCall_of_answer {t : Step} (ht : t.pre.step t.act = some (t.post, t.out))
    (h : causeOf t = .answer) : ReleasesCall t := by
  obtain ⟨buff, sendB, src, hi, h7, hp⟩ := (cause_iff (by decide) (by decide)).mp h
  obtain ⟨i, hp⟩ := Option.isSome_iff_exists.mp hp
  have hd := device_step ht
  have hin : t.pre.input t.act = .video .callAnswer buff sendB src := hi
  rw [hin] at hd
  simp only [Device.step, runVideoTask, callAnswer_released h7 hp, Option.some.injEq,
    Prod.mk.injEq] at hd
  refine ⟨buff, sendB, src, i, hi, awaits_holds (first_spec hp), ?_⟩
  rw [← hd.1]
  simp [Device.answered]

/-- One step keeps to the edges of the lifecycle unless it reopens a talk. -/
theorem lifecycleEdge_iff {t : Step} (hc : t.pre.dev.caller)
    (ht : t.pre.step t.act = some (t.post, t.out)) :
    LifecycleEdge t ↔ ¬ReopensTalk t.pre t.act := by
  have hs : t.post.dev.status = t.pre.dev.status.after (causeOf t) :=
    (step_callEffect hc (device_step ht)).status
  constructor
  · rintro hedge ⟨htalk, hp, buff, sendB, src, hi, h7⟩
    have ha : causeOf t = .answer :=
      (cause_iff (by decide) (by decide)).mpr ⟨buff, sendB, src, hi, h7, hp⟩
    rw [ha] at hs
    have hpost : t.post.dev.status = .calling := hs
    cases hedge with
    | stay h => simp [hpost, htalk] at h
    | openCall h _ _ => simp [htalk] at h
    | startTalk h _ _ => simp [htalk] at h
    | finish _ h => simp [hpost] at h
  · intro hno
    have hexp : Explains t.pre.dev (inputOf t) (causeOf t) := cause_explains _ _
    cases hcause : causeOf t with
    | answer =>
      rw [hcause] at hs hexp
      obtain ⟨buff, sendB, src, hi, h7, hp⟩ := hexp
      obtain h | h | h := hc
      · exact .openCall h hs (releasesCall_of_answer ht hcause)
      · exact .stay (hs.trans h.symm)
      · exact absurd ⟨h, hp, buff, sendB, src, hi, h7⟩ hno
    | start =>
      rw [hcause] at hs hexp
      obtain ⟨buff, sendB, src, hi, h, -⟩ := hexp
      exact .startTalk h hs ⟨buff, sendB, src, hi⟩
    | busy | resolve | hangUp | expire =>
      rw [hcause] at hs
      by_cases ha : t.pre.dev.active
      · exact .finish ha hs
      · exact .stay (hs.trans (caller_not_active hc ha).symm)
    | stray | lapse | other =>
      rw [hcause] at hs
      exact .stay hs

/-- Status is always one of the caller's three, and a run keeps to the lifecycle exactly when no
CALLANSWER finds a CALL still pending during a talk. -/
theorem lifecycle_iff {b : Boot} (e : Execution b) :
    (∀ u ∈ e.states, u.dev.status = .null ∨ u.dev.status = .calling ∨ u.dev.status = .talking) ∧
    ((∀ t ∈ e.steps, LifecycleEdge t) ↔ ∀ t ∈ e.steps, ¬ReopensTalk t.pre t.act) := by
  have hedge : ∀ t ∈ e.steps, LifecycleEdge t ↔ ¬ReopensTalk t.pre t.act :=
    e.run.each (caller_init b) caller_step fun _ _ _ _ hc hs => lifecycleEdge_iff hc hs
  have hpost : ∀ t ∈ e.steps, t.post.dev.caller :=
    e.run.each (caller_init b) caller_step fun s a s' o hc hs => caller_step s a s' o hc hs
  refine ⟨?_, forall₂_congr hedge⟩
  intro u hu
  obtain rfl | hu := List.mem_cons.mp hu
  · exact caller_init b
  · obtain ⟨t, ht, rfl⟩ := List.mem_map.mp hu
    exact hpost t ht

def redialActions : List Action :=
  [sampleCall sampleHost, sampleCall sampleHost, sampleRecv ask callAnswer sampleHost,
    sampleRecv ask callStart sampleHost, sampleRecv ask callAnswer sampleHost]

def redial : Execution sampleBoot := execute sampleBoot redialActions (by decide +kernel)

/-- The second answer takes the talk back to calling. -/
theorem talk_demoted : redial.steps.map Transition.act = redialActions ∧
    ∃ t ∈ redial.steps, t.pre.dev.status = .talking ∧ t.post.dev.status = .calling ∧
      ¬LifecycleEdge t := by
  have hbad : redial.steps.any (fun t =>
      t.pre.dev.status = .talking ∧ t.post.dev.status = .calling) = true := by
    decide +kernel
  obtain ⟨t, ht, h⟩ := List.any_eq_true.mp hbad
  obtain ⟨h1, h2⟩ := of_decide_eq_true h
  refine ⟨execute_acts _, t, ht, h1, h2, ?_⟩
  intro hedge
  cases hedge with
  | stay h => simp [h1, h2] at h
  | openCall h _ _ => simp [h1] at h
  | startTalk h _ _ => simp [h1] at h
  | finish _ h => simp [h2] at h

end QsaTalk
