import QsaTalk.StaleBytes

/-! Who is listened to. No handler compares the sender of a datagram with the peer; here it is said
which datagrams are acted on, and that all others leave nothing for a later one to find. -/
namespace QsaTalk
open ByteBuffer SlotTable Function Runs
variable {d : Device}

/-! Of the two watchdog flags the handlers never read what they write. -/

theorem callEnd_unwatched {buff sendB : Buf} {host : List UInt8} :
    (recvTalkCallEndTask buff sendB host d.unwatched).2 =
        (recvTalkCallEndTask buff sendB host d).2 ∧
      (recvTalkCallEndTask buff sendB host d.unwatched).1.unwatched =
        (recvTalkCallEndTask buff sendB host d).1.unwatched := by
  by_cases ha : d.active
  swap
  · have ha' : ¬d.unwatched.active := ha
    rw [callEnd_idle ha, callEnd_idle ha']
    exact ⟨rfl, rfl⟩
  have ha' : d.unwatched.active := ha
  by_cases h7 : buff 7 = ask
  · rw [callEnd_ask ha h7, callEnd_ask ha' h7]
    exact ⟨rfl, rfl⟩
  by_cases hp : buff 7 = reply ∧ d.pendingCallEnd.isSome
  · obtain ⟨i, hi⟩ := Option.isSome_iff_exists.mp hp.2
    rw [callEnd_reply ha hp.1 hi, callEnd_reply ha' hp.1 hi]
    exact ⟨rfl, rfl⟩
  · rw [callEnd_stray ha h7 hp, callEnd_stray ha' h7 hp]
    exact ⟨rfl, rfl⟩

theorem video_unwatched {t : VideoTask} {buff sendB : Buf} {host : List UInt8} :
    (runVideoTask t buff sendB host d.unwatched).2 = (runVideoTask t buff sendB host d).2 ∧
      (runVideoTask t buff sendB host d.unwatched).1.unwatched =
        (runVideoTask t buff sendB host d).1.unwatched := by
  have hst : d.unwatched.status = d.status := rfl
  cases t with
  | call => exact ⟨rfl, rfl⟩
  | callEnd => exact callEnd_unwatched
  | nsReply =>
    have hm : d.unwatched.multiUdpBuff = d.multiUdpBuff := rfl
    simp only [runVideoTask, recvNSReplyFunc, hm]
    split <;> exact ⟨rfl, rfl⟩
  | lineUse =>
    change (recvTalkLineUseTask buff d.unwatched).2 = (recvTalkLineUseTask buff d).2 ∧
      (recvTalkLineUseTask buff d.unwatched).1.unwatched = (recvTalkLineUseTask buff d).1.unwatched
    by_cases hp : buff 7 = ask ∧ d.pendingCall.isSome
    · obtain ⟨i, hi⟩ := Option.isSome_iff_exists.mp hp.2
      have hi' : d.unwatched.pendingCall = some i := hi
      have hr : d.unwatched.remoteInfo = d.remoteInfo := rfl
      rw [lineUse_released hp.1 hi, lineUse_released hp.1 hi', hr]
      split <;> exact ⟨rfl, rfl⟩
    · rw [lineUse_ignored hp, lineUse_ignored (d := d.unwatched) hp]
      exact ⟨rfl, rfl⟩
  | callAnswer =>
    change (recvTalkCallAnswerTask buff d.unwatched).2 = (recvTalkCallAnswerTask buff d).2 ∧
      (recvTalkCallAnswerTask buff d.unwatched).1.unwatched =
        (recvTalkCallAnswerTask buff d).1.unwatched
    by_cases hp : buff 7 = ask ∧ d.pendingCall.isSome
    · obtain ⟨i, hi⟩ := Option.isSome_iff_exists.mp hp.2
      have hi' : d.unwatched.pendingCall = some i := hi
      rw [callAnswer_released hp.1 hi, callAnswer_released hp.1 hi']
      exact ⟨rfl, rfl⟩
    · rw [callAnswer_ignored hp, callAnswer_ignored (d := d.unwatched) hp]
      exact ⟨rfl, rfl⟩
  | callStart =>
    simp only [runVideoTask, recvTalkCallStartTask, hst]
    split <;> exact ⟨rfl, rfl⟩
  | callConfirm =>
    simp only [runVideoTask, recvTalkCallConfirmTask, hst]
    split
    · exact ⟨rfl, rfl⟩
    · split <;> exact ⟨rfl, rfl⟩
  | openLock =>
    simp only [runVideoTask, recvTalkOpenLockTask, hst]
    split <;> exact ⟨rfl, rfl⟩
  | forceIFrame =>
    simp only [runVideoTask, recvForceIFrameFunc, hst]
    split
    · exact ⟨rfl, rfl⟩
    · split <;> exact ⟨rfl, rfl⟩
  | callUpDown =>
    simp only [runVideoTask, recvTalkCallUpDownTask, hst]
    split
    · split <;> exact ⟨rfl, rfl⟩
    · exact ⟨rfl, rfl⟩

theorem udpVideoRcv_unwatched (d : Device) (buff sendB : Buf) (len : Nat) (host : List UInt8) :
    (udpVideoRcv buff sendB len host d.unwatched).2 = (udpVideoRcv buff sendB len host d).2 ∧
      (udpVideoRcv buff sendB len host d.unwatched).1.unwatched =
        (udpVideoRcv buff sendB len host d).1.unwatched := by
  simp only [udpVideoRcv]
  cases videoTask buff len with
  | none => exact ⟨rfl, rfl⟩
  | some t => exact video_unwatched

/-! Datagrams that are acted on. -/

/-- The handler moves the call, releases a command or calls the application. -/
def Device.heeds (d : Device) (buff : Buf) : VideoTask → Prop
  | .lineUse | .callAnswer => buff 7 = ask ∧ d.pendingCall.isSome
  | .callStart => d.status = .calling ∧ buff 7 = ask
  | .openLock => (d.status = .calling ∨ d.status = .called ∨ d.status = .talked ∨
      d.status = .talking) ∧ buff 7 = ask
  | .callEnd => d.active ∧ (buff 7 = ask ∨ buff 7 = reply ∧ d.pendingCallEnd.isSome)
  | .forceIFrame => d.status ≠ .null ∧ buff 7 = ask
  | .callUpDown => d.status = .talking ∧ buff 61 = 1
  | .nsReply | .call | .callConfirm => False

instance (d : Device) (buff : Buf) : DecidablePred (d.heeds buff)
  | .lineUse | .callAnswer | .callStart | .callEnd => inferInstanceAs (Decidable (_ ∧ _))
  | .openLock | .forceIFrame | .callUpDown => inferInstanceAs (Decidable (_ ∧ _))
  | .nsReply | .call | .callConfirm => inferInstanceAs (Decidable False)

def Event.reported : Event → Bool
  | .currOpt _ _ | .audioData _ _ _ => true
  | _ => false

theorem unheeded_spec {t : VideoTask} {buff sendB : Buf} {host : List UInt8} (ht : t ≠ .nsReply)
    (h : ¬d.heeds buff t) : (runVideoTask t buff sendB host d).1.unwatched = d.unwatched ∧
      (runVideoTask t buff sendB host d).2.filter Event.reported = [] := by
  have he := video_effect d t buff sendB host
  generalize runVideoTask t buff sendB host d = r at he
  cases he with
  | passive hp =>
    have he := passive_effect d buff sendB host hp
    generalize runVideoTask t buff sendB host d = r at he
    cases he with
    | unlocked hh | forced hh | played hh => exact absurd hh h
    | call | confirmed | heard | unheard | shut | unforced | mute => exact ⟨rfl, rfl⟩
  | resolved | unresolved => exact absurd rfl ht
  | busy h7 hp | swallowed h7 hp | answered h7 hp =>
    exact absurd ⟨h7, Option.isSome_of_eq_some hp⟩ h
  | started hh => exact absurd hh h
  | ended ha h7 => exact absurd ⟨ha, Or.inl h7⟩ h
  | concluded ha h7 hp => exact absurd ⟨ha, Or.inr ⟨h7, Option.isSome_of_eq_some hp⟩⟩ h
  | unused | unanswered | unstarted | stray | noCall => exact ⟨rfl, rfl⟩

/-- A heeded datagram is heard of at once; only a LINEUSE with no DenNum releases in silence. -/
theorem heeded_reported {t : VideoTask} {buff : Buf} (sendB : Buf) (host : List UInt8)
    (h : d.heeds buff t) (hl : t = .lineUse → d.remoteInfo.denNum = 1) :
    ∃ e ∈ (runVideoTask t buff sendB host d).2, e.reported = true := by
  have he := video_effect d t buff sendB host
  generalize runVideoTask t buff sendB host d = r at he
  cases he with
  | passive hp =>
    have he := passive_effect d buff sendB host hp
    generalize runVideoTask t buff sendB host d = r at he
    cases he with
    | call | confirmed | heard | unheard => exact h.elim
    | shut hh | unforced hh | mute hh => exact absurd h hh
    | unlocked => exact ⟨.currOpt .openLock d.status, by simp, rfl⟩
    | forced => exact ⟨.currOpt .forceIFrame d.status, by simp, rfl⟩
    | played => exact ⟨_, List.mem_singleton_self _, rfl⟩
  | resolved | unresolved => exact h.elim
  | swallowed h7 hp hn => exact absurd (hl rfl) hn
  | unused hh | unanswered hh | unstarted hh => exact absurd h hh
  | stray ha h7 hp => exact (h.2.elim h7 hp).elim
  | noCall ha => exact absurd h.1 ha
  | busy => exact ⟨.currOpt .callBusy .null, by simp, rfl⟩
  | answered => exact ⟨.currOpt .callOk .calling, by simp, rfl⟩
  | started => exact ⟨.currOpt .talkOk .talking, by simp, rfl⟩
  | ended | concluded => exact ⟨.currOpt .talkStop .null, by simp, rfl⟩

/-! Two runs, one of which lacks the datagrams of other hosts. -/

def Action.payload : Action → List UInt8
  | .recvVideo _ dgram _ => received dgram
  | _ => []

def Action.fromHost (peer : IP4) : Action → Bool
  | .recvVideo src _ _ => src == peer
  | _ => false

def Heeded (s : System) (dgram : List UInt8) : Prop :=
  s.videoRcv = true ∧ (s.udpRecvFlag = false ∨
    ∃ t ∈ videoTask (ofList dgram) dgram.length, s.dev.heeds (ofList dgram) t)

instance (s : System) (dgram : List UInt8) : Decidable (Heeded s dgram) :=
  inferInstanceAs (Decidable (_ ∧ _))

/-- The same but for the watchdog flags and the contents of the receive buffers. -/
structure SameCall (s t : System) : Prop where
  dev : s.dev.unwatched = t.dev.unwatched
  recvFlag : s.udpRecvFlag = t.udpRecvFlag
  loop : s.videoRcv = t.videoRcv

theorem SameCall.status {s t : System} (h : SameCall s t) : s.dev.status = t.dev.status := by
  have hs := congrArg Device.status h.dev
  exact hs

theorem SameCall.remoteInfo {s t : System} (h : SameCall s t) :
    s.dev.remoteInfo = t.dev.remoteInfo := by
  have hr := congrArg Device.remoteInfo h.dev
  exact hr

theorem talk_payload {a : Action} (h : TalkDatagram a.payload) :
    ∃ src dgram sendB, a = .recvVideo src dgram sendB := by
  have hne : ¬TalkDatagram [] := by decide
  cases a with
  | recvVideo src dgram sendB => exact ⟨src, dgram, sendB, rfl⟩
  | _ => exact absurd h hne

theorem step_stopped {s : System} {src : IP4} {dgram : List UInt8} {sendB : Buf}
    (h : ¬s.videoRcv = true) : s.step (.recvVideo src dgram sendB) = some (s, []) := by
  have hi : s.input (.recvVideo src dgram sendB) = .idle := if_neg h
  have hl : s.loops (.recvVideo src dgram sendB) = s := if_neg h
  rw [System.step, hi, hl]
  rfl

/-- The rest of the buffer is as good as zeros. -/
theorem receive_zero (dgram : List UInt8) :
    receive (fun _ => 0) dgram = ofList (received dgram) := by
  funext k
  by_cases hk : k < (received dgram).length
  · rw [receive_lt _ _ hk, ofList, List.getElem?_eq_getElem hk, Option.getD_some]
  · rw [ofList, List.getElem?_eq_none (by omega), receive, put, blit_ge _ _ (by omega)]
    split <;> rfl

theorem talk_not_exit {buff : Buf} {dgram : List UInt8} (h : TalkDatagram (received dgram)) :
    isExit (receive buff dgram) = false := by
  have hp := (package_iff buff dgram).mpr h.1
  have hq : receive buff dgram 0 = 81 := hp 0
  rw [isExit, hq]
  rfl

theorem talk_not_nsReply {buff : Buf} {dgram : List UInt8} {n : Nat} {t : VideoTask}
    (h : TalkDatagram (received dgram)) (hv : videoTask (receive buff dgram) n = some t) :
    t ≠ .nsReply := by
  rintro rfl
  have ho := ((videoTask_spec hv).order.resolve_right (by simp)).2.1
  cases h.2 with
  | inl h6 =>
    exact absurd (ho.symm.trans (receive_of_own buff dgram h6).2) (by decide)
  | inr h6 =>
    exact absurd (ho.symm.trans (receive_of_own buff dgram h6).2) (by decide)

/-- A datagram that both devices take by its own bytes keeps them in the same call. -/
theorem step_sameCall {s t s' : System} {a : Action} {o : List Event} (hst : SameCall s t)
    (htalk : TalkDatagram a.payload) (hown : ¬TrustsBuffer s a.payload)
    (h : s.step a = some (s', o)) : ∃ t', t.step a = some (t', o) ∧ SameCall s' t' := by
  obtain ⟨src, dgram, sendB, rfl⟩ := talk_payload htalk
  by_cases hr : s.videoRcv = true
  swap
  · rw [step_stopped hr] at h
    obtain ⟨rfl, rfl⟩ := Prod.mk.inj (Option.some.inj h)
    exact ⟨t, step_stopped (hst.loop ▸ hr), hst⟩
  rw [step_recvVideo hr] at h
  obtain ⟨rfl, rfl⟩ := Prod.mk.inj (Option.some.inj h)
  have hb := videoRcv_own sendB (dotted src) hr hown s.videoBuff t.videoBuff
  have hs := udpVideoRcv_unwatched s.dev (receive t.videoBuff dgram) sendB (received dgram).length
    (dotted src)
  have ht := udpVideoRcv_unwatched t.dev (receive t.videoBuff dgram) sendB (received dgram).length
    (dotted src)
  rw [hst.dev] at hs
  have hevs := hs.1.symm.trans ht.1
  have hdev := hs.2.symm.trans ht.2
  rw [hb, hevs]
  refine ⟨_, step_recvVideo (hst.loop ▸ hr), hdev, ?_, ?_⟩ <;>
    simp only [talk_not_exit htalk, hst.recvFlag]

/-- A datagram that is not heeded changes nothing a later one could tell. -/
theorem step_unheeded {s t s' : System} {a : Action} {o : List Event} (hst : SameCall s t)
    (htalk : TalkDatagram a.payload) (hown : ¬TrustsBuffer s a.payload)
    (hquiet : ¬Heeded s a.payload) (h : s.step a = some (s', o)) :
    SameCall s' t ∧ s'.dev.status = s.dev.status ∧ o.filter Event.reported = [] := by
  obtain ⟨src, dgram, sendB, rfl⟩ := talk_payload htalk
  by_cases hr : s.videoRcv = true
  swap
  · rw [step_stopped hr] at h
    obtain ⟨rfl, rfl⟩ := Prod.mk.inj (Option.some.inj h)
    exact ⟨hst, rfl, rfl⟩
  have hflag : s.udpRecvFlag = true := by
    by_contra hf
    exact hquiet ⟨hr, Or.inl (Bool.eq_false_iff.mpr hf)⟩
  have hrcv : (udpVideoRcv (receive s.videoBuff dgram) sendB (received dgram).length (dotted src)
        s.dev).1.unwatched = s.dev.unwatched ∧
      (udpVideoRcv (receive s.videoBuff dgram) sendB (received dgram).length (dotted src)
        s.dev).2.filter Event.reported = [] := by
    rw [videoRcv_own _ _ hr hown s.videoBuff fun _ => 0, udpVideoRcv]
    cases hv : videoTask (receive (fun _ => 0) dgram) (received dgram).length with
    | none => exact ⟨rfl, rfl⟩
    | some t =>
      refine unheeded_spec (talk_not_nsReply htalk hv) fun hh => hquiet ⟨hr, Or.inr ⟨t, ?_, ?_⟩⟩
      · exact (receive_zero dgram) ▸ hv
      · exact (receive_zero dgram) ▸ hh
  rw [step_recvVideo hr] at h
  obtain ⟨rfl, rfl⟩ := Prod.mk.inj (Option.some.inj h)
  refine ⟨⟨hrcv.1.trans hst.dev, ?_, ?_⟩, ?_, hrcv.2⟩
  · simp only [talk_not_exit htalk, hflag, Bool.not_false, Bool.and_self, ← hst.recvFlag]
  · simp only [talk_not_exit htalk, hflag, Bool.not_false, Bool.and_self, ← hst.loop, hr]
  · have hs := congrArg Device.status hrcv.1
    exact hs

/-! Runs. -/

abbrev View := (CallStatus × CallStatus) × List Event

def view (t : Step) : View :=
  ((t.pre.dev.status, t.post.dev.status), t.out.filter Event.reported)

def View.change (v : View) : List CallStatus := if v.1.1 = v.1.2 then [] else [v.1.2]

def statusTrace (ts : List Step) : List CallStatus := ts.flatMap fun t => (view t).change
def callbacks (ts : List Step) : List Event := ts.flatMap fun t => (view t).2

/-- The steps of the run from `s₀` that `keep` picks, taken alone, show the same call: Status and
the callbacks go the same way and `remote_info` ends up the same. -/
def ShownBy (keep : Step → Bool) (s₀ : System) (ts : List Step) (s : System) : Prop :=
  ∃ us t, Run System.step s₀ us t ∧
    us.map Transition.act = (ts.filter keep).map Transition.act ∧
    statusTrace us = statusTrace ts ∧ t.dev.remoteInfo = s.dev.remoteInfo ∧
    callbacks us = callbacks ts

/-- The run without the datagrams of other hosts shows the same call. -/
def PeerOnly (s₀ : System) (ts : List Step) (s : System) : Prop :=
  ShownBy (fun t => t.act.fromHost s₀.dev.remoteInfo.denIP) s₀ ts s

def peerOrHeeded (peer : IP4) (s : System) (a : Action) : Bool :=
  a.fromHost peer || decide (Heeded s a.payload)

/-- A datagram that releases a CALL without a word: LINEUSE while `DenNum` is not 1. -/
def SilentRelease (s : System) (dgram : List UInt8) : Prop :=
  videoTask (ofList dgram) dgram.length = some .lineUse ∧ s.dev.remoteInfo.denNum ≠ 1

instance (s : System) (dgram : List UInt8) : Decidable (SilentRelease s dgram) :=
  inferInstanceAs (Decidable (_ ∧ _))

/-- While the loop runs, a datagram that is heeded is heard of in the step that takes it. -/
theorem step_heeded {s s' : System} {a : Action} {o : List Event}
    (htalk : TalkDatagram a.payload) (hown : ¬TrustsBuffer s a.payload)
    (hflag : s.udpRecvFlag = true) (hh : Heeded s a.payload) (hl : ¬SilentRelease s a.payload)
    (hs : s.step a = some (s', o)) : callbacks [⟨s, a, s', o⟩] ≠ [] := by
  obtain ⟨src, dgram, sendB, rfl⟩ := talk_payload htalk
  obtain ⟨hr, hf | ⟨t, hv, hd⟩⟩ := hh
  · exact absurd (hflag.symm.trans hf) (by decide)
  have hv' : videoTask (ofList (received dgram)) (received dgram).length = some t := hv
  rw [step_recvVideo hr, videoRcv_own _ _ hr hown s.videoBuff fun _ => 0, receive_zero, udpVideoRcv,
    hv'] at hs
  obtain ⟨-, ho⟩ := Prod.mk.inj (Option.some.inj hs)
  obtain ⟨e, he, hrep⟩ := heeded_reported sendB (dotted src) hd fun ht => by
    subst ht
    exact not_not.mp fun hn => hl ⟨hv, hn⟩
  have hmem : e ∈ callbacks [⟨s, .recvVideo src dgram sendB, s', o⟩] := by
    simp only [callbacks, view, List.flatMap_cons, List.flatMap_nil, List.append_nil,
      List.mem_filter, ← ho]
    exact ⟨he, hrep⟩
  exact List.ne_nil_of_mem hmem

/-- One datagram of another host that is heeded is seen by the application. -/
theorem stranger_seen {s s' : System} {src : IP4} {dgram : List UInt8} {sendB : Buf}
    {o : List Event} (hsrc : src ≠ s.dev.remoteInfo.denIP)
    (hcalls : callbacks [⟨s, .recvVideo src dgram sendB, s', o⟩] ≠ []) :
    ¬PeerOnly s [⟨s, .recvVideo src dgram sendB, s', o⟩] s' := by
  rintro ⟨us, u, -, hact, -, -, hsame⟩
  have hfrom : (Action.recvVideo src dgram sendB).fromHost s.dev.remoteInfo.denIP = false :=
    beq_eq_false_iff_ne.mpr hsrc
  simp only [List.filter_cons, List.filter_nil, hfrom, Bool.false_eq_true, if_false, List.map_nil,
    List.map_eq_nil_iff] at hact
  subst hact
  exact hcalls hsame.symm

def stranger : IP4 := ⟨192, 168, 10, 66⟩

/-- The stranger confirms, which is not heeded, and asks for a key frame, which is, among the
packets of the peer. -/
def visitActions : List Action :=
  [sampleRecv ask callConfirm sampleHost, sampleRecv ask callConfirm stranger,
    sampleRecv ask forceIFrame stranger, sampleRecv ask remoteOpenLock sampleHost]

theorem visit_defined : (trail System.step inTalk.final visitActions).isSome := by decide +kernel

def visit : List Step × System := (trail System.step inTalk.final visitActions).get visit_defined

end QsaTalk
