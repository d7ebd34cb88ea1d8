import QsaTalk.PendingCommands

/-! UDP may deliver a datagram twice. A copy that comes right behind its original changes nothing
but the command table, and that only where a second command waits for the same acknowledgement. -/
namespace QsaTalk
open ByteBuffer SlotTable Function Runs
variable {d : Device} {r : Outcome} {s s' : System} {evs : List Event} {t : VideoTask}
  {buff sendB sendB' : Buf} {host : List UInt8}

def Input.fromNet : Input → Prop
  | .idle | .video _ _ _ _ | .openLock _ => True
  | _ => False

/-- The datagram acknowledges a command in the table, or a query waits for the kind of
reply it is. -/
def Device.settles (d : Device) : Input → Prop
  | .video .nsReply buff _ _ => ∃ k, isQuery buff (d.multiUdpBuff k) = true
  | i => (d.ackOf i).isSome

instance (d : Device) : ∀ i, Decidable (d.settles i)
  | .video .nsReply _ _ _ => inferInstanceAs (Decidable (∃ _, _))
  | .video .call _ _ _ | .video .lineUse _ _ _ | .video .callAnswer _ _ _ | .video .callStart _ _ _
  | .video .callConfirm _ _ _ | .video .openLock _ _ _ | .video .callEnd _ _ _
  | .video .forceIFrame _ _ _ | .video .callUpDown _ _ _ | .idle | .startCall _ _ _ | .stopTalk
  | .findIp _ _ | .sendInfo _ _ | .sendAudio _ | .sendVideo _ _ | .openLock _ | .tick _ =>
    inferInstanceAs (Decidable (_ = true))

theorem settles_ack {i : Input} (hn : ∀ buff sendB src, i ≠ .video .nsReply buff sendB src) :
    d.settles i ↔ (d.ackOf i).isSome := by
  unfold Device.settles
  split
  · exact absurd rfl (hn _ _ _)
  · rfl

theorem settles_scratch {src : IP4} :
    d.settles (.video t buff sendB src) ↔ d.settles (.video t buff sendB' src) := by
  cases t <;> rfl

theorem isQuery_live {m : MultiUdpBuff1} (h : isQuery buff m = true) : m.isValid = true := by
  simp only [isQuery, Bool.and_eq_true] at h
  exact h.1.1.1.1

/-- Without queries there is nothing to scan. -/
theorem scanned_none (h : ∀ k, ¬isQuery buff (d.multiUdpBuff k) = true) : d.scanned buff = d := by
  have ht : (d.scanned buff).multiUdpBuff = d.multiUdpBuff := by
    funext k
    exact (scanned_slot buff k).resolve_right fun hq => h k hq.1
  calc d.scanned buff = { d with multiUdpBuff := (d.scanned buff).multiUdpBuff } := rfl
    _ = d := by rw [ht]

/-- The first query is dropped, whatever the reply says. -/
theorem scanned_some {k : Fin udpSendMax} (h : isQuery buff (d.multiUdpBuff k) = true) :
    ∃ j, (d.multiUdpBuff j).isValid = true ∧ ((d.scanned buff).multiUdpBuff j).isValid = false := by
  obtain ⟨j, hj⟩ := Option.isSome_iff_exists.mp (first_isSome.mpr ⟨k, h⟩)
  obtain ⟨hq, hlow⟩ := first_eq_some.mp hj
  refine ⟨j, isQuery_live hq, ?_⟩
  have hd : d.dropped buff j := by
    refine ⟨hq, fun l hl hp => ?_⟩
    rw [hlow l hl] at hp
    exact absurd hp (by decide)
  rw [scanned_dropped, if_pos hd]
  rfl

theorem settles_table {i : Input} {t : Fin udpSendMax → MultiUdpBuff1} (hi : i.fromNet)
    (h : TableEffect d i t) : t = d.multiUdpBuff ↔ ¬d.settles i := by
  cases h with
  | keep hc ha hn h =>
    refine iff_of_true h ?_
    rw [settles_ack hn, ha]
    exact Bool.false_ne_true
  | queue hc hk h => cases i <;> first | exact hi.elim | simp [Device.commandOf] at hc
  | @ack k ha h =>
    have hs := (settles_ack (ackOf_alone ha).2).mpr (Option.isSome_of_eq_some ha)
    refine iff_of_false (fun he => ?_) (not_not_intro hs)
    have hk := congrArg MultiUdpBuff1.isValid (congrFun (h.symm.trans he) k)
    rw [release_multiUdpBuff, update_self, ackOf_live ha] at hk
    exact Bool.false_ne_true hk
  | @scan buff sendB src hi h =>
    subst hi h
    by_cases hq : ∃ k, isQuery buff (d.multiUdpBuff k) = true
    · refine iff_of_false (fun he => ?_) (not_not_intro hq)
      obtain ⟨k, hk⟩ := hq
      obtain ⟨j, hlive, hdead⟩ := scanned_some hk
      rw [he, hlive] at hdead
      exact absurd hdead (by decide)
    · exact iff_of_true (congrArg Device.multiUdpBuff (scanned_none (not_exists.mp hq))) hq

/-! The second copy. -/

/-- What a handler makes of the device is not a matter of its scratch buffer. -/
theorem video_sendB : (runVideoTask t buff sendB host d).1 = (runVideoTask t buff sendB' host d).1 := by
  cases t with
  | nsReply | call | lineUse | callAnswer | callUpDown => rfl
  | callStart =>
    rw [runVideoTask, runVideoTask, recvTalkCallStartTask, recvTalkCallStartTask]
    split <;> rfl
  | callConfirm =>
    rw [runVideoTask, runVideoTask, recvTalkCallConfirmTask, recvTalkCallConfirmTask]
    split
    · rfl
    · split <;> rfl
  | openLock =>
    rw [runVideoTask, runVideoTask, recvTalkOpenLockTask, recvTalkOpenLockTask]
    split <;> rfl
  | forceIFrame =>
    rw [runVideoTask, runVideoTask, recvForceIFrameFunc, recvForceIFrameFunc]
    split
    · rfl
    · split <;> rfl
  | callEnd =>
    rw [runVideoTask, runVideoTask, recvTalkCallEndTask, recvTalkCallEndTask]
    split
    · dsimp only
      split <;> rfl
    · rfl

def Device.beside (d e : Device) : Prop := e = { d with multiUdpBuff := e.multiUdpBuff }

theorem Device.beside.eq_iff {e : Device} (h : d.beside e) :
    e = d ↔ e.multiUdpBuff = d.multiUdpBuff := by
  refine ⟨fun he => congrArg _ he, fun ht => ?_⟩
  rw [h, ht]

theorem resolved_again (d : Device) (buff : Buf) :
    (d.resolved buff).resolved buff = d.resolved buff := by
  simp only [Device.resolved, setDeviceStatus, update_idem, update_self, blit_again]

/-- A callback that a repeated request raises again. -/
def repeated (p : CbOpt × CallStatus) : Prop := p.1 = .openLock ∨ p.1 = .forceIFrame

theorem quiet_passive {r : Outcome} (h : PassiveEffect d buff sendB host t r) :
    ∀ p ∈ currOpts r.2, repeated p := by
  cases h with
  | call | heard | unheard | shut | unforced | mute => simp
  | confirmed => simp [echo, udpSendBuff, Event.opt]
  | unlocked => simp [echo, udpSendBuff, Event.opt, repeated]
  | forced => simp [echo, udpSendBuff, Event.opt, repeated]
  | played => simp [Event.opt]

/-- A datagram that settles nothing, starts no talk and ends no call reports nothing new. -/
theorem quiet_video {src : IP4} (hs : ¬d.settles (.video t buff sendB src))
    (hstart : t = .callStart → ¬(d.status = .calling ∧ buff 7 = ask))
    (hend : t = .callEnd → ¬(d.active ∧ buff 7 = ask)) :
    ∀ p ∈ currOpts (runVideoTask t buff sendB (dotted src) d).2, repeated p := by
  have he := video_effect d t buff sendB (dotted src)
  generalize runVideoTask t buff sendB (dotted src) d = r at he
  have hack {k : Fin udpSendMax} (h : d.ackOf (.video t buff sendB src) = some k) : False :=
    hs ((settles_ack (ackOf_alone h).2).mpr (Option.isSome_of_eq_some h))
  cases he with
  | passive ht => exact quiet_passive (passive_effect d buff sendB (dotted src) ht)
  | resolved h =>
    obtain ⟨k, hk, -⟩ := h
    exact absurd ⟨k, hk⟩ hs
  | busy h7 hp => exact (hack ((if_pos h7).trans hp)).elim
  | answered h7 hp => exact (hack ((if_pos h7).trans hp)).elim
  | started h => exact absurd h (hstart rfl)
  | ended ha h7 => exact absurd ⟨ha, h7⟩ (hend rfl)
  | concluded ha h7 hp => exact (hack ((if_pos ⟨ha, h7⟩).trans hp)).elim
  | unresolved | swallowed | unused | unanswered | stray => simp [Event.opt]
  | unstarted | noCall => simp

theorem cleared_idle (d : Device) : ¬d.cleared.active := by
  simp [Device.active, Device.cleared, Device.status]

/-- The first copy leaves no talk to start and no call to end. -/
theorem video_leaves {src : IP4} (e : Device)
    (he : e = (runVideoTask t buff sendB (dotted src) d).1) :
    (t = .callStart → ¬(e.status = .calling ∧ buff 7 = ask)) ∧
      (t = .callEnd → ¬(e.active ∧ buff 7 = ask)) := by
  have hv := video_effect d t buff sendB (dotted src)
  generalize runVideoTask t buff sendB (dotted src) d = r at he hv
  subst he
  cases hv with
  | passive ht => cases t <;> first | exact ht.elim | simp
  | resolved | unresolved | busy | swallowed | unused | answered | unanswered => simp
  | started h =>
    refine ⟨fun _ hc => ?_, by simp⟩
    have htalk : (d.started buff).status = .talking := rfl
    rw [htalk] at hc
    exact absurd hc.1 (by decide)
  | unstarted h => exact ⟨fun _ => h, by simp⟩
  | ended => exact ⟨by simp, fun _ hc => cleared_idle _ hc.1⟩
  | concluded => exact ⟨by simp, fun _ hc => cleared_idle _ hc.1⟩
  | stray ha h7 => exact ⟨by simp, fun _ hc => h7 hc.2⟩
  | noCall ha => exact ⟨by simp, fun _ hc => ha hc.1⟩

theorem beside_passive (ht : t.passive) :
    (runVideoTask t buff sendB' host (runVideoTask t buff sendB host d).1).1 =
      (runVideoTask t buff sendB host d).1 := by
  have hspec : (runVideoTask t buff sendB host d).1 = d ∨ _ := (passive_spec ht).1
  obtain h | h := hspec
  · rw [h]
    exact video_sendB.trans h
  · rw [h]
    exact (passive_spec ht).1.elim id id

theorem nsReply_beside (h : d.asksFor buff → d.resolved buff = d) :
    d.beside (recvNSReplyFunc buff d).1 := by
  by_cases hq : d.asksFor buff
  · obtain ⟨a, ip, hn⟩ := (nsReply_spec buff).1 hq
    rw [hn]
    calc (d.scanned buff).resolved buff
        = { d.resolved buff with multiUdpBuff := (d.scanned buff).multiUdpBuff } := rfl
      _ = { d with multiUdpBuff := (d.scanned buff).multiUdpBuff } := by rw [h hq]
  · rw [(nsReply_spec buff).2 hq]
    rfl

theorem lineUse_beside (h : d.remoteInfo.denNum = 1 → setDeviceStatus .null d = d) :
    d.beside (recvTalkLineUseTask buff d).1 := by
  by_cases hq : buff 7 = ask ∧ d.pendingCall.isSome
  · obtain ⟨j, hj⟩ := Option.isSome_iff_exists.mp hq.2
    rw [lineUse_released hq.1 hj]
    split
    · rename_i hn
      calc setDeviceStatus .null (d.release j)
          = { setDeviceStatus .null d with multiUdpBuff := (d.release j).multiUdpBuff } := rfl
        _ = { d with multiUdpBuff := (d.release j).multiUdpBuff } := by rw [h hn]
    · rfl
  · rw [lineUse_ignored hq]
    rfl

theorem callAnswer_beside (h : d.answered = d) : d.beside (recvTalkCallAnswerTask buff d).1 := by
  by_cases hq : buff 7 = ask ∧ d.pendingCall.isSome
  · obtain ⟨j, hj⟩ := Option.isSome_iff_exists.mp hq.2
    rw [callAnswer_released hq.1 hj]
    calc (d.release j).answered
        = { d.answered with multiUdpBuff := (d.release j).multiUdpBuff } := rfl
      _ = { d with multiUdpBuff := (d.release j).multiUdpBuff } := by rw [h]
  · rw [callAnswer_ignored hq]
    rfl

/-- A reply that matches no query has cleared them all. -/
theorem unresolved_clears (h : ¬d.asksFor buff) (k : Fin udpSendMax) :
    ¬isQuery buff ((d.scanned buff).multiUdpBuff k) = true := by
  intro hq
  rw [scanned_dropped] at hq
  split at hq
  · exact Bool.false_ne_true (isQuery_live hq)
  · rename_i hd
    refine hd ⟨hq, fun j _ hj => Bool.eq_false_iff.mpr fun hm => h ⟨j, hj, hm⟩⟩

/-- The second copy of a datagram leaves all but the table as the first one left it. -/
theorem beside_video {src : IP4} (e : Device)
    (he : e = (runVideoTask t buff sendB (dotted src) d).1) :
    e.beside (runVideoTask t buff sendB' (dotted src) e).1 := by
  have hv := video_effect d t buff sendB (dotted src)
  have hsame (h : (runVideoTask t buff sendB (dotted src) d).1 = d) :
      d.beside (runVideoTask t buff sendB' (dotted src) d).1 := by
    have hagain : (runVideoTask t buff sendB' (dotted src) d).1 = d := video_sendB.trans h
    rw [hagain]
    rfl
  generalize hr : runVideoTask t buff sendB (dotted src) d = r at he hv hsame
  subst he
  cases hv with
  | passive ht =>
    rw [beside_passive ht]
    rfl
  | resolved h => exact nsReply_beside fun _ => resolved_again _ buff
  | unresolved h =>
    exact nsReply_beside fun ⟨k, hk, _⟩ => absurd hk (unresolved_clears h k)
  | busy h7 hp hn => exact lineUse_beside fun _ => rfl
  | swallowed h7 hp hn => exact lineUse_beside fun h => absurd h hn
  | answered h7 hp => exact callAnswer_beside rfl
  | started h =>
    have htalk : ¬((d.started buff).status = .calling ∧ buff 7 = ask) := by
      rintro ⟨hc, -⟩
      exact absurd hc (by simp [Device.started, Device.status])
    rw [runVideoTask, recvTalkCallStartTask, if_neg htalk]
    rfl
  | ended ha h7 =>
    rw [runVideoTask, callEnd_idle (cleared_idle _)]
    rfl
  | concluded ha h7 hp =>
    rw [runVideoTask, callEnd_idle (cleared_idle _)]
    rfl
  | stray ha h7 hp =>
    have hp' : ¬(buff 7 = reply ∧ d.unwatched.pendingCallEnd.isSome) := hp
    rw [runVideoTask, callEnd_stray (d := d.unwatched) ha h7 hp']
    rfl
  | unused | unanswered | unstarted | noCall => exact hsame rfl

theorem beside_openLock : d.beside (recvOpenLockFunc buff d).1 := by
  by_cases hq : buff 7 = reply ∧ d.pendingOpenLock.isSome
  · obtain ⟨j, hj⟩ := Option.isSome_iff_exists.mp hq.2
    rw [openLock_released hq.1 hj]
    rfl
  · rw [openLock_ignored hq]
    rfl

/-! The running device. -/

/-- The same datagram from the same host. What the handler's scratch buffer holds is
another matter. -/
inductive Copy : Action → Action → Prop
  | video {src dgram} (sendB sendB' : Buf) :
      Copy (.recvVideo src dgram sendB) (.recvVideo src dgram sendB')
  | data {src dgram} : Copy (.recvData src dgram) (.recvData src dgram)

theorem receive_again (buff : Buf) (dgram : List UInt8) :
    receive (receive buff dgram) dgram = receive buff dgram := by
  funext k
  by_cases hk : k < (received dgram).length
  · rw [receive_lt _ _ hk, receive_lt _ _ hk]
  · by_cases he : k = (received dgram).length
    · rw [he, receive_length, receive_length]
    · have hafter : ∀ b : Buf, receive b dgram k = b k := fun b => by
        rw [receive, put_ne _ _ he, blit_ge _ _ (by omega)]
      rw [hafter]

theorem loops_again {a a' : Action} (hc : Copy a a') (e : Device) :
    System.loops { s.loops a with dev := e } a' = { s.loops a with dev := e } := by
  cases hc with
  | @video src dgram sendB sendB' =>
    cases hr : s.videoRcv with
    | false => simp [System.loops, hr]
    | true =>
      cases hx : isExit (receive s.videoBuff dgram) <;> cases hf : s.udpRecvFlag <;>
        simp [System.loops, hr, hx, hf, receive_again]
  | @data src dgram =>
    cases hr : s.dataRcv with
    | false => simp [System.loops, hr]
    | true =>
      cases hx : isExit (receive s.dataBuff dgram) <;> cases hf : s.udpRecvFlag <;>
        simp [System.loops, hr, hx, hf, receive_again]

theorem step_loops {a : Action} (h : s.step a = some (s', evs)) :
    s' = { s.loops a with dev := s'.dev } := by
  unfold System.step at h
  split at h
  · simp at h
  · obtain ⟨rfl, -⟩ := Prod.mk.inj (Option.some.inj h)
    rfl

/-- What a loop makes of the second copy it has made of the first, unless the first ended it. -/
theorem video_again {src : IP4} {dgram : List UInt8} (sendB sendB' : Buf)
    (hs : s' = { s.loops (.recvVideo src dgram sendB) with dev := s'.dev }) :
    s'.input (.recvVideo src dgram sendB') = .idle ∨
      ∃ t buff, s.input (.recvVideo src dgram sendB) = .video t buff sendB src ∧
        s'.input (.recvVideo src dgram sendB') = .video t buff sendB' src := by
  rw [hs]
  cases hr : s.videoRcv with
  | false => exact Or.inl (by simp [System.input, System.loops, hr])
  | true =>
    simp only [System.input, System.loops, hr, if_true, receive_again]
    split
    · cases videoTask (receive s.videoBuff dgram) (received dgram).length with
      | none => exact Or.inl rfl
      | some t => exact Or.inr ⟨t, _, rfl, rfl⟩
    · exact Or.inl rfl

theorem data_again {src : IP4} {dgram : List UInt8}
    (hs : s' = { s.loops (.recvData src dgram) with dev := s'.dev }) :
    s'.input (.recvData src dgram) = .idle ∨
      ∃ buff, s.input (.recvData src dgram) = .openLock buff ∧
        s'.input (.recvData src dgram) = .openLock buff := by
  rw [hs]
  cases hr : s.dataRcv with
  | false => exact Or.inl (by simp [System.input, System.loops, hr])
  | true =>
    simp only [System.input, System.loops, hr, if_true, receive_again, true_and]
    by_cases ho : isOpenLock (receive s.dataBuff dgram)
    · simp only [if_pos ho]
      split
      · exact Or.inr ⟨_, rfl, rfl⟩
      · exact Or.inl rfl
    · exact Or.inl (if_neg fun h => ho h.2)

structure Copied (s : System) (a : Action) (s' : System) (evs : List Event) : Prop where
  dev : s.dev.beside s'.dev
  rest : s' = { s with dev := s'.dev }
  table : s'.dev.multiUdpBuff = s.dev.multiUdpBuff ↔ ¬s.dev.settles (s.input a)
  reports : ¬s.dev.settles (s.input a) → ∀ p ∈ currOpts evs, repeated p

theorem Copied.unheard {a : Action} (hi : s.input a = .idle) (h : s.step a = some (s', evs))
    (hr : s' = { s with dev := s'.dev }) : Copied s a s' evs := by
  have hd := device_step h
  rw [hi] at hd
  obtain ⟨hdev, rfl⟩ := Prod.mk.inj (Option.some.inj hd)
  refine ⟨by rw [← hdev]; rfl, hr, ?_, fun _ => by simp⟩
  rw [hi, ← hdev]
  exact settles_table trivial (.same rfl rfl (by simp))

theorem copied {a a' : Action} {s₁ s₂ : System} {evs' : List Event} (hc : Copy a a')
    (h : s.step a = some (s₁, evs)) (h' : s₁.step a' = some (s₂, evs')) : Copied s₁ a' s₂ evs' := by
  have hl := step_loops h
  have hrest : s₂ = { s₁ with dev := s₂.dev } := by
    have h₂ := step_loops h'
    rw [hl, loops_again hc] at h₂
    rw [h₂, hl]
  have hd := device_step h
  have hd' := device_step h'
  cases hc with
  | @video src dgram sendB sendB' =>
    obtain hi | ⟨t, buff, hi, hi'⟩ := video_again sendB sendB' hl
    · exact .unheard hi h' hrest
    · rw [hi] at hd
      rw [hi'] at hd'
      have hfirst : s₁.dev = (runVideoTask t buff sendB (dotted src) s.dev).1 :=
        (congrArg Prod.fst (Option.some.inj hd)).symm
      have hlast : runVideoTask t buff sendB' (dotted src) s₁.dev = (s₂.dev, evs') :=
        Option.some.inj hd'
      obtain ⟨hstart, hend⟩ := video_leaves s₁.dev hfirst
      refine ⟨?_, hrest, ?_, fun hs => ?_⟩
      · have hb : s₁.dev.beside (runVideoTask t buff sendB' (dotted src) s₁.dev).1 :=
          beside_video s₁.dev hfirst
        rwa [hlast] at hb
      · have ht : TableEffect s₁.dev (.video t buff sendB' src)
            (runVideoTask t buff sendB' (dotted src) s₁.dev).1.multiUdpBuff := video_table
        rw [hlast] at ht
        rw [hi']
        exact settles_table trivial ht
      · rw [hi'] at hs
        have hq := quiet_video hs hstart hend
        rwa [hlast] at hq
  | @data src dgram =>
    obtain hi | ⟨buff, hi, hi'⟩ := data_again hl
    · exact .unheard hi h' hrest
    · rw [hi'] at hd'
      have hlast : recvOpenLockFunc buff s₁.dev = (s₂.dev, evs') := Option.some.inj hd'
      refine ⟨?_, hrest, ?_, fun _ => ?_⟩
      · have hb : s₁.dev.beside (recvOpenLockFunc buff s₁.dev).1 := beside_openLock
        rwa [hlast] at hb
      · have ht : TableEffect s₁.dev (.openLock buff) (recvOpenLockFunc buff s₁.dev).1.multiUdpBuff :=
          openLock_table
        rw [hlast] at ht
        rw [hi']
        exact settles_table trivial ht
      · by_cases hp : buff 7 = reply ∧ s₁.dev.pendingOpenLock.isSome
        · obtain ⟨j, hj⟩ := Option.isSome_iff_exists.mp hp.2
          rw [openLock_released hp.1 hj] at hlast
          obtain ⟨-, rfl⟩ := Prod.mk.inj hlast
          simp [Event.opt]
        · rw [openLock_ignored hp] at hlast
          obtain ⟨-, rfl⟩ := Prod.mk.inj hlast
          simp [Event.opt]

/-- Right behind its original, a copy of a datagram leaves Status, the watchdog, the counters, the
peer and the receive loops alone. It changes nothing at all just when it settles nothing more. -/
theorem copy_absorbed_iff {a a' : Action} {s₁ s₂ : System} {evs' : List Event} (hc : Copy a a')
    (h : s.step a = some (s₁, evs)) (h' : s₁.step a' = some (s₂, evs')) :
    s₂ = { s₁ with dev := { s₁.dev with multiUdpBuff := s₂.dev.multiUdpBuff } } ∧
      (s₂ = s₁ ↔ ¬s₁.dev.settles (s₁.input a')) := by
  have hcop := copied hc h h'
  refine ⟨hcop.rest.trans ?_, ?_⟩
  · exact congrArg (fun e => { s₁ with dev := e }) hcop.dev
  · rw [← hcop.table]
    refine ⟨fun he => congrArg (fun u => u.dev.multiUdpBuff) he, fun ht => ?_⟩
    rw [hcop.rest, hcop.dev.eq_iff.mpr ht]

/-! Whole runs. -/

instance (p : CbOpt × CallStatus) : Decidable (repeated p) := inferInstanceAs (Decidable (_ ∨ _))

def progress (ts : List Step) : List (CbOpt × CallStatus) :=
  ts.flatMap fun t => (currOpts t.out).filter fun p => ¬repeated p

/-- The second list is the first one with datagrams repeated on the spot, any number of times. -/
inductive Repeated : List Action → List Action → Prop
  | start : Repeated [] []
  | next {as bs} (a : Action) (h : Repeated as bs) : Repeated (as ++ [a]) (bs ++ [a])
  | again {as bs a a'} (hc : Copy a a') (h : Repeated (as ++ [a]) bs) :
      Repeated (as ++ [a]) (bs ++ [a'])

def Settling (t : Step) : Prop := ¬t.post.dev.settles (t.post.input t.act)

instance (t : Step) : Decidable (Settling t) := inferInstanceAs (Decidable (¬_))

theorem settling_copy {t : Step} {a' : Action} (hc : Copy t.act a') (h : Settling t) :
    ¬t.post.dev.settles (t.post.input a') := by
  obtain ⟨s, a, s', o⟩ := t
  unfold Settling at h
  dsimp only at hc h ⊢
  cases hc with
  | data => exact h
  | video =>
    unfold System.input at h ⊢
    dsimp only at h ⊢
    split
    · rename_i hr
      rw [if_pos hr] at h
      split
      · exact Bool.false_ne_true
      · rename_i t ht
        rw [ht] at h
        rwa [settles_scratch]
    · exact Bool.false_ne_true

theorem copy_defined {a a' : Action} (hc : Copy a a') (s : System) :
    ∃ s' evs, s.step a' = some (s', evs) := by
  have hdev : ∃ r, s.dev.step (s.input a') = some r := by
    cases hc with
    | video =>
      unfold System.input
      dsimp only
      split
      · split <;> exact ⟨_, rfl⟩
      · exact ⟨_, rfl⟩
    | data =>
      unfold System.input
      dsimp only
      split <;> exact ⟨_, rfl⟩
  obtain ⟨r, hr⟩ := hdev
  refine ⟨{ s.loops a' with dev := r.1 }, r.2, ?_⟩
  unfold System.step
  rw [hr]

theorem progress_append (ts us : List Step) : progress (ts ++ us) = progress ts ++ progress us :=
  List.flatMap_append

theorem split_last {ts : List Step} {as : List Action} {a : Action}
    (h : ts.map Transition.act = as ++ [a]) :
    ∃ us t, ts = us ++ [t] ∧ us.map Transition.act = as ∧ t.act = a := by
  obtain ⟨us, vs, rfl, hu, hv⟩ := List.map_eq_append_iff.mp h
  obtain ⟨t, rfl, ht⟩ := List.map_eq_singleton_iff.mp hv
  exact ⟨us, t, rfl, hu, ht⟩

/-- At-least-once delivery: where no datagram would settle a second command, a run in which
datagrams are repeated ends where the run without the copies ends, and reports the same calls. -/
theorem repeats_absorbed {b : Boot} (e : Execution b) {bs : List Action}
    (h : Repeated (e.steps.map Transition.act) bs) (hs : ∀ t ∈ e.steps, Settling t) :
    ∃ e' : Execution b, e'.steps.map Transition.act = bs ∧ e'.final = e.final ∧
      progress e'.steps = progress e.steps := by
  obtain ⟨ts, s, hrun⟩ := e
  dsimp only at h hs ⊢
  suffices hgoal : ∃ us, RunFrom b us s ∧ us.map Transition.act = bs ∧ progress us = progress ts by
    obtain ⟨us, hu, hact, hp⟩ := hgoal
    exact ⟨⟨us, s, hu⟩, hact, rfl, hp⟩
  generalize has : ts.map Transition.act = as at h
  induction h generalizing ts s with
  | start =>
    obtain rfl := List.map_eq_nil_iff.mp has
    exact ⟨[], hrun, rfl, rfl⟩
  | @next as bs a h ih =>
    obtain ⟨us, t, rfl, hu, rfl⟩ := split_last has
    obtain ⟨hpre, hstep, rfl⟩ := hrun.last
    obtain ⟨vs, hv, hact, hp⟩ := ih us t.pre hpre (fun t ht => hs t (List.mem_append_left _ ht)) hu
    refine ⟨vs ++ [t], hv.step hstep, by simp [hact], ?_⟩
    rw [progress_append, progress_append, hp]
  | @again as bs a a' hc h ih =>
    obtain ⟨vs, hv, hact, hp⟩ := ih ts s hrun hs has
    obtain ⟨us, t, rfl, hu, rfl⟩ := split_last has
    obtain ⟨hpre, hstep, rfl⟩ := hrun.last
    obtain ⟨s', evs, hlast⟩ := copy_defined hc t.post
    have hcop := copied hc hstep hlast
    have hset := settling_copy hc (hs t (by simp))
    have hsame : s' = t.post := (copy_absorbed_iff hc hstep hlast).2.mpr hset
    subst hsame
    refine ⟨vs ++ [⟨t.post, a', t.post, evs⟩], hv.step hlast, by simp [hact], ?_⟩
    have hnone : progress [⟨t.post, a', t.post, evs⟩] = [] := by
      rw [progress, List.flatMap_singleton, List.filter_eq_nil_iff]
      intro p hm
      simpa using hcop.reports hset p hm
    rw [progress_append, hp, hnone, List.append_nil]

def dialledTwice : Execution sampleBoot :=
  execute sampleBoot [sampleCall sampleHost, sampleCall sampleHost] (by decide +kernel)

theorem answer_taken_twice : ∃ s₁ s₂ evs evs',
    dialledTwice.final.step (sampleRecv ask callAnswer sampleHost) = some (s₁, evs) ∧
    s₁.step (sampleRecv ask callAnswer sampleHost) = some (s₂, evs') ∧
    s₂ = { s₁ with dev := { s₁.dev with multiUdpBuff := s₂.dev.multiUdpBuff } } ∧ s₂ ≠ s₁ := by
  have hc : Copy (sampleRecv ask callAnswer sampleHost) (sampleRecv ask callAnswer sampleHost) :=
    .video _ _
  obtain ⟨s₁, evs, h⟩ := copy_defined hc dialledTwice.final
  obtain ⟨s₂, evs', h'⟩ := copy_defined hc s₁
  have hsettles : (dialledTwice.final.step (sampleRecv ask callAnswer sampleHost)).map
      (fun r => decide (r.1.dev.settles (r.1.input (sampleRecv ask callAnswer sampleHost)))) =
        some true := by
    decide +kernel
  rw [h] at hsettles
  obtain ⟨hrest, hiff⟩ := copy_absorbed_iff hc h h'
  exact ⟨s₁, s₂, evs, evs', h, h', hrest, fun he =>
    hiff.mp he (of_decide_eq_true (Option.some.inj hsettles))⟩

def answeredOnce : Execution sampleBoot :=
  execute sampleBoot [sampleCall sampleHost, sampleRecv ask callAnswer sampleHost] (by decide +kernel)

theorem answer_absorbed : ∃ e' : Execution sampleBoot, e'.steps.map Transition.act =
      [sampleCall sampleHost, sampleRecv ask callAnswer sampleHost,
        sampleRecv ask callAnswer sampleHost] ∧
    e'.final = answeredOnce.final ∧ progress e'.steps = progress answeredOnce.steps := by
  have hsettling : ∀ t ∈ answeredOnce.steps, Settling t := by decide +kernel
  have hacts : answeredOnce.steps.map Transition.act =
      [sampleCall sampleHost, sampleRecv ask callAnswer sampleHost] := execute_acts _
  refine repeats_absorbed answeredOnce ?_ hsettling
  rw [hacts]
  have hsent : Repeated ([] ++ [sampleCall sampleHost]) ([] ++ [sampleCall sampleHost]) :=
    .next _ .start
  have hcopy : Copy (sampleRecv ask callAnswer sampleHost) (sampleRecv ask callAnswer sampleHost) :=
    .video _ _
  exact .again hcopy (hsent.next _)

end QsaTalk
