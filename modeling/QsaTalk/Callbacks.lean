import QsaTalk.Messages
import QsaTalk.PendingCommands

/-! What the application hears of a step, callback by callback, as the cause of the step tells. -/
namespace QsaTalk
open ByteBuffer SlotTable Function
variable {d : Device} {r : Outcome}

def CbOpt.incidental : CbOpt → Prop
  | .callFail | .openLock | .forceIFrame => True
  | _ => False

def CbOpt.expiry : CbOpt → Prop
  | .talkStop | .callTimeout | .talkTimeout => True
  | _ => False

/-- An effect that changes nothing the application knows about the call; sound is handed on in a
talk only. -/
def Event.harmless (s : CallStatus) : Event → Prop
  | .currOpt v _ => v.incidental
  | .audioData _ _ _ => s = .talking
  | .devip _ _ _ => False
  | _ => True

/-- The callbacks of a step, by cause. -/
def Tells (d : Device) (evs : List Event) : Cause → Prop
  | .answer => evs = [.lock, .currOpt .callOk .calling, .unlock]
  | .start => ∃ e, e.silent ∧ evs = [e, .currOpt .talkOk .talking]
  | .busy => evs = [.lock, .currOpt .callBusy .null, .unlock]
  | .resolve => ∃ addr ip, evs = [.lock, .unlock, .devip addr ip 0]
  | .hangUp => ∃ u v, (∀ e ∈ u, e.silent) ∧ (∀ e ∈ v, e.silent) ∧
      evs = u ++ .currOpt .talkStop .null :: v
  | .expire => ∃ u v, (∀ e ∈ u, e.silent) ∧ v.expiry ∧ evs = u ++ [.currOpt v .null]
  | .stray | .lapse | .other => ∀ e ∈ evs, e.harmless d.status

theorem Event.silent.harmless {e : Event} {s : CallStatus} (h : e.silent) : e.harmless s := by
  cases e with
  | currOpt v s => exact absurd h id
  | audioData data n ty => exact absurd h id
  | devip addr ip f => exact absurd h id
  | lock | unlock | semPost | send g => trivial

theorem stopTalk_silent : ∀ e ∈ (stopTalk d).2, e.silent := stopTalk_effect.silent

theorem onlineCheck_expiry {sendB : Buf} : ∀ p ∈ currOpts (onlineCheckFunc sendB d).2, p.1.expiry := by
  unfold onlineCheckFunc
  dsimp only
  split
  · split
    · split
      · simp [Outcome.andThen, finishCall, stopTalk_currOpts, Event.opt, CbOpt.expiry]
      · simp
    · simp
  · split
    · split
      · simp [udpSendBuff, Event.opt]
      · simp
    · simp

theorem giveUp_expiry {v : CbOpt} (hv : v.expiry) : ∀ p ∈ currOpts (giveUp v d).2, p.1.expiry := by
  simp [giveUp, Outcome.andThen, finishCall, stopTalk_currOpts, Event.opt, hv]

theorem talkCtrl_expiry : ∀ p ∈ currOpts (talkCtrlFunc d).2, p.1.expiry := by
  unfold talkCtrlFunc
  dsimp only
  split
  · split
    · split
      · exact giveUp_expiry trivial
      · simp
    · split
      · exact giveUp_expiry trivial
      · simp
    · split
      · exact giveUp_expiry trivial
      · simp
    · split
      · exact giveUp_expiry trivial
      · simp
    · simp
  · simp

theorem tick_expiry (sendB : Buf) : ∀ p ∈ currOpts (timerThreadTask sendB d).2, p.1.expiry := by
  rw [timerThreadTask]
  split
  · intro p hp
    rw [andThen_snd, currOpts_append] at hp
    obtain hp | hp := List.mem_append.mp hp
    · exact onlineCheck_expiry p hp
    · exact talkCtrl_expiry p hp
  · simp

theorem tells_tick {sendB : Buf} (hc : d.caller) :
    Tells d (timerThreadTask sendB d).2 (d.cause (.tick sendB)) := by
  by_cases hx : d.expires
  · have hcause : d.cause (.tick sendB) = .expire :=
      (cause_iff (by decide) (by decide)).mpr ⟨hx, sendB, rfl⟩
    obtain ⟨v, l, -, -, he⟩ := tick_expire sendB hx.1 hx.2.1 hx.2.2
    have hv := tick_expiry (d := d) sendB (v, .null)
    rw [he] at hv
    rw [hcause, he]
    exact ⟨(stopTalk d).2, v, stopTalk_silent, hv (by simp [Event.opt]), rfl⟩
  · obtain ⟨l, -, he⟩ := tick_keep sendB hc hx
    rw [he, Device.cause]
    split
    · split
      · rename_i hon hends
        exact absurd ⟨hon, hends⟩ hx
      · split <;> simp [Tells]
    · simp [Tells]

theorem tells_other {i : Input} {evs : List Event} (hc : d.cause i = .other)
    (h : ∀ e ∈ evs, e.harmless d.status) : Tells d evs (d.cause i) := by
  rw [hc]
  exact h

theorem echo_silent (buff sendB : Buf) (host : List UInt8) (n : Nat) :
    (echo d buff sendB host n).silent := trivial

theorem tells_passive {t : VideoTask} {buff sendB : Buf} {host : List UInt8} (ht : t.passive) :
    ∀ e ∈ (runVideoTask t buff sendB host d).2, e.harmless d.status := by
  have he := passive_effect d buff sendB host ht
  generalize runVideoTask t buff sendB host d = r at he
  cases he with
  | confirmed => simp [(echo_silent _ _ _ _).harmless]
  | unlocked | forced => simp [echo, udpSendBuff, Event.harmless, CbOpt.incidental]
  | played h => simp [Event.harmless, h.1]
  | call | heard | unheard | shut | unforced | mute => simp

theorem tells_video {t : VideoTask} {buff sendB : Buf} {src : IP4} :
    Tells d (runVideoTask t buff sendB (dotted src) d).2 (d.cause (.video t buff sendB src)) := by
  have he := video_effect d t buff sendB (dotted src)
  generalize runVideoTask t buff sendB (dotted src) d = r at he
  cases he with
  | passive ht => exact tells_other (passive_cause ht) (tells_passive ht)
  | resolved h =>
    rw [Device.cause, if_pos h]
    exact ⟨_, _, rfl⟩
  | busy h7 hp hn =>
    rw [Device.cause, if_pos ⟨⟨h7, Option.isSome_of_eq_some hp⟩, hn⟩]
    rfl
  | answered h7 hp =>
    rw [Device.cause, if_pos ⟨h7, Option.isSome_of_eq_some hp⟩]
    rfl
  | started h =>
    rw [Device.cause, if_pos h]
    exact ⟨_, echo_silent _ _ _ _, rfl⟩
  | ended ha h7 =>
    rw [Device.cause, if_pos ha, if_pos (Or.inl h7)]
    exact ⟨[_], [], by simp [echo_silent], by simp, rfl⟩
  | concluded ha h7 hp =>
    rw [Device.cause, if_pos ha, if_pos (Or.inr ⟨h7, Option.isSome_of_eq_some hp⟩)]
    exact ⟨[.lock], [.unlock], by simp [Event.silent], by simp [Event.silent], rfl⟩
  | stray ha h7 hp =>
    rw [Device.cause, if_pos ha, if_neg fun h => h.elim h7 hp]
    simp [Tells, Event.harmless]
  | unresolved h => exact tells_other (if_neg h) (by simp [Event.harmless])
  | swallowed h7 hp hn => exact tells_other (if_neg fun h => hn h.2) (by simp [Event.harmless])
  | unused h => exact tells_other (if_neg fun hc => h hc.1) (by simp [Event.harmless])
  | unanswered h => exact tells_other (if_neg h) (by simp [Event.harmless])
  | unstarted h => exact tells_other (if_neg h) (by simp)
  | noCall ha => exact tells_other (if_neg ha) (by simp)

theorem silent_harmless {evs : List Event} {s : CallStatus} (h : ∀ e ∈ evs, e.silent) :
    ∀ e ∈ evs, e.harmless s :=
  fun e he => (h e he).harmless

theorem tells_media {evs : List Event} (h : evs = [.currOpt .callFail d.status] ∨
    ∃ gs : List Datagram, evs = gs.map Event.send) : ∀ e ∈ evs, e.harmless d.status := by
  obtain rfl | ⟨gs, rfl⟩ := h
  · simp [Event.harmless, CbOpt.incidental]
  · intro e he
    obtain ⟨g, -, rfl⟩ := List.mem_map.mp he
    trivial

/-- A media call is refused, or sends and does nothing else. -/
theorem sendAudio_events {c : MediaCall} (h : qsaSendAudio c d = some r) :
    (d.status = .null ∧ r.2 = [.currOpt .callFail d.status]) ∨
      (d.status ≠ .null ∧ ∃ gs : List Datagram, r.2 = gs.map Event.send) := by
  by_cases hn : d.status = .null
  · rw [qsaSendAudio, if_pos hn] at h
    obtain rfl := Option.some.inj h
    exact Or.inl ⟨hn, rfl⟩
  · by_cases hf : c.fits
    · rw [sendAudio_packet hn hf] at h
      obtain rfl := Option.some.inj h
      exact Or.inr ⟨hn, [_], rfl⟩
    · rw [sendAudio_undefined hn hf] at h
      simp at h

theorem sendVideo_events {c : MediaCall} {frameType : Int} (h : qsaSendVideo c frameType d = some r) :
    (d.status = .null ∧ r.2 = [.currOpt .callFail d.status]) ∨
      (d.status ≠ .null ∧ ∃ gs : List Datagram, r.2 = gs.map Event.send) := by
  by_cases hn : d.status = .null
  · rw [qsaSendVideo] at h
    split at h
    · simp at h
    · obtain rfl := Option.some.inj h
      exact Or.inl ⟨hn, rfl⟩
  · rw [sendVideo_eq hn] at h
    split at h
    · obtain rfl := Option.some.inj h
      exact Or.inr ⟨hn, _, rfl⟩
    · simp at h

/-- What a step tells is told by its cause. -/
theorem step_tells {i : Input} (hc : d.caller) (h : d.step i = some r) :
    Tells d r.2 (d.cause i) := by
  cases i with
  | idle =>
    obtain rfl := Option.some.inj h
    exact tells_other rfl (by simp)
  | startCall ip addr uFlag =>
    obtain rfl := Option.some.inj h
    exact tells_other rfl (silent_harmless startCall_effect.silent)
  | stopTalk =>
    obtain rfl := Option.some.inj h
    exact tells_other rfl (silent_harmless stopTalk_silent)
  | findIp addr uFlag =>
    obtain rfl := Option.some.inj h
    exact tells_other rfl (silent_harmless findIp_effect.silent)
  | sendInfo data info => exact tells_other rfl (silent_harmless (sendInfo_effect h).silent)
  | sendAudio c => exact tells_other rfl (tells_media ((sendAudio_events h).imp And.right And.right))
  | sendVideo c frameType =>
    exact tells_other rfl (tells_media ((sendVideo_events h).imp And.right And.right))
  | openLock buff =>
    obtain rfl := Option.some.inj h
    refine tells_other rfl (silent_harmless ?_)
    by_cases hp : buff 7 = reply ∧ d.pendingOpenLock.isSome
    · obtain ⟨j, hj⟩ := Option.isSome_iff_exists.mp hp.2
      simp [openLock_released hp.1 hj, Event.silent]
    · simp [openLock_ignored hp, Event.silent]
  | tick sendB =>
    obtain rfl := Option.some.inj h
    exact tells_tick hc
  | video t buff sendB src =>
    obtain rfl := Option.some.inj h
    exact tells_video

/-- Only a resolved name is handed to the application. -/
theorem devip_resolves {c : Cause} {addr ip : List UInt8} {f : Int} (h : Tells d evs c)
    (hm : .devip addr ip f ∈ evs) : c = .resolve := by
  cases c with
  | resolve => rfl
  | answer | busy =>
    obtain rfl := h
    simp at hm
  | start =>
    obtain ⟨e, he, rfl⟩ := h
    obtain rfl : .devip addr ip f = e := by simpa using hm
    exact he.elim
  | hangUp =>
    obtain ⟨l, l', hl, hl', rfl⟩ := h
    obtain hm | hm := List.mem_append.mp hm
    · exact (hl _ hm).elim
    · exact (hl' (.devip addr ip f) (by simpa using hm)).elim
  | expire =>
    obtain ⟨l, v, hl, -, rfl⟩ := h
    obtain hm | hm := List.mem_append.mp hm
    · exact (hl _ hm).elim
    · simp at hm
  | stray | lapse | other => exact (h _ hm).elim

/-! Counting one report. -/

def raised (v : CbOpt) (evs : List Event) : Nat := ((currOpts evs).map Prod.fst).count v

theorem mem_currOpts {evs : List Event} {v : CbOpt} {s : CallStatus} :
    (v, s) ∈ currOpts evs ↔ .currOpt v s ∈ evs := by
  rw [currOpts, List.mem_filterMap]
  constructor
  · rintro ⟨e, he, ho⟩
    cases e with
    | currOpt w u =>
      obtain ⟨rfl, rfl⟩ := Prod.mk.inj (Option.some.inj ho)
      exact he
    | _ => simp [Event.opt] at ho
  · intro h
    exact ⟨_, h, rfl⟩

theorem raised_harmless {evs : List Event} {s : CallStatus} {v : CbOpt}
    (h : ∀ e ∈ evs, e.harmless s) (hv : ¬v.incidental) : raised v evs = 0 := by
  rw [raised, List.count_eq_zero]
  intro hm
  obtain ⟨⟨w, u⟩, hp, rfl⟩ := List.mem_map.mp hm
  exact hv (h _ (mem_currOpts.mp hp))

/-- The two outcomes of a call attempt come with their causes and at no other time. -/
theorem Tells.outcomes {evs : List Event} {c : Cause} (h : Tells d evs c) :
    raised .callOk evs = (if c = .answer then 1 else 0) ∧
      raised .callBusy evs = if c = .busy then 1 else 0 := by
  cases c with
  | answer | busy =>
    obtain rfl := h
    exact ⟨rfl, rfl⟩
  | start =>
    obtain ⟨e, he, rfl⟩ := h
    have hs : currOpts [e] = [] := currOpts_silent (by simpa using he)
    have hl : currOpts [e, .currOpt .talkOk .talking] = currOpts [e] ++ [(.talkOk, .talking)] :=
      currOpts_append [e] _
    rw [raised, raised, hl, hs]
    exact ⟨rfl, rfl⟩
  | resolve =>
    obtain ⟨addr, ip, rfl⟩ := h
    exact ⟨rfl, rfl⟩
  | hangUp =>
    obtain ⟨u, v, hu, hv, rfl⟩ := h
    rw [raised, raised, currOpts_append, currOpts_silent hu, currOpts_cons, currOpts_silent hv]
    exact ⟨rfl, rfl⟩
  | expire =>
    obtain ⟨u, v, hu, hv, rfl⟩ := h
    rw [raised, raised, currOpts_append, currOpts_silent hu]
    cases v with
    | talkStop | callTimeout | talkTimeout => exact ⟨rfl, rfl⟩
    | _ => exact hv.elim
  | stray | lapse | other =>
    exact ⟨raised_harmless h id, raised_harmless h id⟩

end QsaTalk
