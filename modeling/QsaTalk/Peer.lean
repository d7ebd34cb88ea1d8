import QsaTalk.CallMachine

/-! The peer of a call: where `remote_info` points over a run, and when that stays the host whose
answer opened the call. -/
namespace QsaTalk
open ByteBuffer SlotTable Function Runs
variable {d : Device} {r : Outcome}

def Device.pointer (d : Device) : IP4 × IP4 := (d.remoteInfo.ip 0, d.remoteInfo.denIP)

def Device.redirect (d : Device) (p : IP4 × IP4) : Input → IP4 × IP4
  | .startCall ip _ uFlag =>
    if uFlag = 2 ∧ d.status = .null then (inetAddr ip, inetAddr ip) else p
  | .findIp (some _) uFlag =>
    if (d.status = .null ∧ uFlag = 0) ∧ d.freeSlot.isSome then (IP4.zero, p.2) else p
  | .sendInfo _ (some info) => (inetAddr info.ip, p.2)
  | .video .callStart buff _ _ =>
    if d.status = .calling ∧ buff 7 = ask then
      (ipAt buff 53, if buff 6 = videoTalk then ipAt buff 53 else p.2)
    else p
  | .video .nsReply buff _ _ => if d.asksFor buff then (ipAt buff 53, ipAt buff 53) else p
  | _ => p

@[simp] theorem dial_pointer (d : Device) (ip : List UInt8) (addr : Buf) :
    (d.dial ip addr).pointer = (inetAddr ip, inetAddr ip) := by
  simp [Device.pointer, Device.dial]

@[simp] theorem seek_pointer (d : Device) (addr : Buf) :
    (d.seek addr).pointer = (IP4.zero, d.remoteInfo.denIP) := by
  simp [Device.pointer, Device.seek]

@[simp] theorem address_pointer (d : Device) (info : SendInfo) :
    (d.address info).pointer = (inetAddr info.ip, d.remoteInfo.denIP) := by
  simp [Device.pointer, Device.address]

@[simp] theorem resolved_pointer (d : Device) (buff : Buf) :
    (d.resolved buff).pointer = (ipAt buff 53, ipAt buff 53) := by
  simp [Device.pointer, Device.resolved]

@[simp] theorem started_pointer (d : Device) (buff : Buf) : (d.started buff).pointer =
    (ipAt buff 53, if buff 6 = videoTalk then ipAt buff 53 else d.remoteInfo.denIP) := by
  simp [Device.pointer, Device.started]

@[simp] theorem setSlot_pointer (d : Device) (k : Fin udpSendMax) (m : MultiUdpBuff1) :
    (d.setSlot k m).pointer = d.pointer := rfl

theorem tick_pointer {sendB : Buf} (hc : d.caller) :
    (timerThreadTask sendB d).1.pointer = d.pointer := by
  by_cases hx : d.expires
  · obtain ⟨v, l, -, -, he⟩ := tick_expire sendB hx.1 hx.2.1 hx.2.2
    rw [he]
    exact congrArg (fun x => (x.ip 0, x.denIP)) stopTalk_remoteInfo
  · obtain ⟨l, -, he⟩ := tick_keep sendB hc hx
    rw [he]
    rfl

theorem cleared_pointer (d : Device) : d.cleared.pointer = d.pointer := by
  rw [Device.cleared, dropMultiGroup_eq]
  rfl

theorem video_pointer {t : VideoTask} {buff sendB : Buf} {src : IP4} :
    (runVideoTask t buff sendB (dotted src) d).1.pointer =
      d.redirect d.pointer (.video t buff sendB src) := by
  have he := video_effect d t buff sendB (dotted src)
  generalize runVideoTask t buff sendB (dotted src) d = r at he
  cases he with
  | passive ht =>
    rw [passive_keeps Device.pointer (fun _ => rfl) ht]
    cases t with
    | call | callConfirm | openLock | forceIFrame | callUpDown => rfl
    | nsReply | lineUse | callAnswer | callStart | callEnd => exact ht.elim
  | resolved h =>
    rw [Device.redirect, if_pos h]
    exact resolved_pointer _ _
  | unresolved h =>
    rw [Device.redirect, if_neg h]
    rfl
  | started h =>
    rw [Device.redirect, if_pos h]
    exact started_pointer _ _
  | unstarted h => rw [Device.redirect, if_neg h]
  | ended | concluded => exact cleared_pointer _
  | busy | swallowed | unused | answered | unanswered | stray | noCall => rfl

theorem startCall_pointer {ip : List UInt8} {addr : Buf} {uFlag : Int} :
    (startCall ip addr uFlag d).1.pointer = d.redirect d.pointer (.startCall ip addr uFlag) := by
  by_cases h : uFlag = 2 ∧ d.status = .null
  · rw [Device.redirect, if_pos h]
    obtain ⟨rfl, hs⟩ := h
    cases hf : d.freeSlot with
    | none =>
      rw [startCall_full hs hf]
      exact dial_pointer _ _ _
    | some k =>
      rw [startCall_queued hs hf]
      exact dial_pointer _ _ _
  · rw [startCall_refused h, Device.redirect, if_neg h]

theorem findIp_pointer {addr : Option Buf} {uFlag : Int} :
    (findIp addr uFlag d).1.pointer = d.redirect d.pointer (.findIp addr uFlag) := by
  cases addr with
  | none => rfl
  | some addr =>
    by_cases h : d.status = .null ∧ uFlag = 0
    · cases hf : d.freeSlot with
      | none =>
        have hno : ¬((d.status = .null ∧ uFlag = 0) ∧ d.freeSlot.isSome) := by simp [hf]
        rw [Device.redirect, if_neg hno]
        obtain ⟨hs, rfl⟩ := h
        rw [findIp_full hs hf]
      | some k =>
        rw [Device.redirect, if_pos ⟨h, by simp [hf]⟩]
        obtain ⟨hs, rfl⟩ := h
        rw [findIp_queued hs hf]
        exact seek_pointer _ _
    · rw [findIp_refused fun hc => h hc.2, Device.redirect, if_neg fun hc => h hc.1]

theorem sendInfo_pointer {data : Buf} {info : Option SendInfo} (h : sendInfo data info d = some r) :
    r.1.pointer = d.redirect d.pointer (.sendInfo data info) := by
  cases info with
  | none =>
    obtain rfl := Option.some.inj h
    rfl
  | some info =>
    cases hf : d.freeSlot with
    | none =>
      rw [sendInfo_full hf] at h
      obtain rfl := Option.some.inj h
      exact address_pointer _ _
    | some k =>
      obtain ⟨m, -, rfl⟩ := sendInfo_queued hf h
      exact address_pointer _ _

/-- `remote_info` points where the input directs it. -/
theorem step_pointer {i : Input} (hc : d.caller) (h : d.step i = some r) :
    r.1.pointer = d.redirect d.pointer i := by
  cases i with
  | sendAudio c => rw [(sendAudio_spec h).1]; rfl
  | sendVideo c frameType => rw [(sendVideo_spec h).1]; rfl
  | sendInfo data info => exact sendInfo_pointer h
  | idle =>
    obtain rfl := Option.some.inj h
    rfl
  | startCall ip addr uFlag =>
    obtain rfl := Option.some.inj h
    exact startCall_pointer
  | stopTalk =>
    obtain rfl := Option.some.inj h
    exact congrArg (fun x => (x.ip 0, x.denIP)) stopTalk_remoteInfo
  | findIp addr uFlag =>
    obtain rfl := Option.some.inj h
    exact findIp_pointer
  | openLock buff =>
    obtain rfl := Option.some.inj h
    by_cases hp : buff 7 = reply ∧ d.pendingOpenLock.isSome
    · obtain ⟨k, hk⟩ := Option.isSome_iff_exists.mp hp.2
      rw [openLock_released hp.1 hk]
      rfl
    · rw [openLock_ignored hp]
      rfl
  | tick sendB =>
    obtain rfl := Option.some.inj h
    exact tick_pointer hc
  | video t buff sendB src =>
    obtain rfl := Option.some.inj h
    exact video_pointer

/-! Histories. -/

def pointed (ts : List Step) : IP4 × IP4 :=
  ts.foldl (fun p t => t.pre.dev.redirect p (inputOf t)) (IP4.zero, IP4.zero)

theorem pointed_snoc (ts : List Step) (t : Step) :
    pointed (ts ++ [t]) = t.pre.dev.redirect (pointed ts) (inputOf t) := by
  simp [pointed]

theorem init_pointer (b : Boot) : (initParamTask b).dev.pointer = (IP4.zero, IP4.zero) := by
  unfold initParamTask sendFreeArp
  dsimp only
  cases (bootDevice b).freeSlot <;> rfl

theorem run_pointed {b : Boot} {ts : List Step} {s : System} (h : RunFrom b ts s) :
    s.dev.pointer = pointed ts := by
  induction h with
  | start => exact init_pointer b
  | @step ts s a s' o h hs ih =>
    rw [pointed_snoc, ← ih]
    exact step_pointer (run_caller h) (device_step hs)

/-- The slot a CALLANSWER releases: its CALL is the one that was answered. -/
def answeredSlot (t : Step) : Option (Fin udpSendMax) :=
  match inputOf t with
  | .video .callAnswer buff _ _ => if buff 7 = ask then t.pre.dev.pendingCall else none
  | _ => none

/-- The address of the `RemoteHost` of the CALL that was answered last. -/
def callee (ts : List Step) : IP4 :=
  ts.foldl (fun a t =>
    match answeredSlot t with
    | some k => inetAddr (t.pre.dev.multiUdpBuff k).remoteHost
    | none => a) IP4.zero

theorem callee_snoc (ts : List Step) (t : Step) : callee (ts ++ [t]) =
    match answeredSlot t with
    | some k => inetAddr (t.pre.dev.multiUdpBuff k).remoteHost
    | none => callee ts := by
  simp [callee]

structure HoldsPeer (d : Device) (a : IP4) : Prop where
  ip : d.remoteInfo.ip 0 = a
  denIP : d.remoteInfo.denIP = a
  hangUp : ∀ g ∈ sends (stopTalk d).2, g.dest = a
  timeout : d.expires → ∀ sendB, ∀ g ∈ sends (timerThreadTask sendB d).2, g.dest = a

theorem stopTalk_dest (g : Datagram) (h : g ∈ sends (stopTalk d).2) :
    g.dest = d.remoteInfo.ip 0 := by
  by_cases hn : d.status = .null
  · rw [stopTalk_idle hn] at h
    simp at h
  · cases hf : d.freeSlot with
    | none =>
      rw [stopTalk_full hn hf] at h
      simp [Event.sent] at h
    | some k =>
      rw [stopTalk_queued hn hf] at h
      simp only [sends_cons, Event.sent, MultiUdpBuff1.transmit, udpSendBuff, Option.toList,
        sends_nil, List.nil_append, List.append_nil, List.mem_singleton] at h
      rw [h]
      exact inetAddr_dotted _

theorem holdsPeer_iff {a : IP4} : HoldsPeer d a ↔ d.pointer = (a, a) := by
  constructor
  · intro h
    exact Prod.ext h.ip h.denIP
  · intro h
    have hip : d.remoteInfo.ip 0 = a := congrArg Prod.fst h
    refine ⟨hip, congrArg Prod.snd h, fun g hg => (stopTalk_dest g hg).trans hip, ?_⟩
    intro hx sendB g hg
    obtain ⟨v, l, -, -, he⟩ := tick_expire sendB hx.1 hx.2.1 hx.2.2
    rw [he] at hg
    simp only [sends_append, sends_cons, Event.sent, Option.toList, sends_nil,
      List.append_nil] at hg
    exact (stopTalk_dest g hg).trans hip

/-- An answer finds `remote_info` last pointed at the host of its CALL, and nothing points it
elsewhere while the call is up. -/
def KeepsPeer (us : List Step) (t : Step) : Prop :=
  match inputOf t with
  | .video .callAnswer buff _ _ => buff 7 = ask → ∀ k, t.pre.dev.pendingCall = some k →
      pointed us = (inetAddr (t.pre.dev.multiUdpBuff k).remoteHost,
        inetAddr (t.pre.dev.multiUdpBuff k).remoteHost)
  | .video .callStart buff _ _ =>
    t.pre.dev.status = .calling → buff 7 = ask → ipAt buff 53 = (pointed us).1
  | .sendInfo _ (some info) => t.pre.dev.active → inetAddr info.ip = (pointed us).1
  | _ => True

def PeerHeld (ts : List Step) (s : System) : Prop := s.dev.active → HoldsPeer s.dev (callee ts)

theorem active_before {c : Cause} (ha : c ≠ .answer) (hs : c ≠ .start)
    (h : r.1.status = d.status.after c) (hact : r.1.active) : d.active := by
  unfold Device.active at hact
  rw [h] at hact
  cases c with
  | answer => exact absurd rfl ha
  | start => exact absurd rfl hs
  | busy | resolve | hangUp | expire => simp [CallStatus.after] at hact
  | stray | lapse | other => exact hact

/-- Away from answers and starts, the peer is held if nothing points elsewhere during a call. -/
theorem peerHeld_quiet {ts : List Step} {t : Step} (hc : t.pre.dev.caller)
    (ht : t.pre.dev.step (inputOf t) = some (t.post.dev, t.out))
    (hp : t.pre.dev.pointer = pointed ts) (hheld : PeerHeld ts t.pre)
    (ha : causeOf t ≠ .answer) (hs : causeOf t ≠ .start) (hans : answeredSlot t = none)
    (hkeep : t.pre.dev.active → t.pre.dev.redirect (pointed ts) (inputOf t) = pointed ts) :
    PeerHeld (ts ++ [t]) t.post := by
  intro hact
  have hpre : t.pre.dev.active := active_before ha hs (step_callEffect hc ht).status hact
  have hptr : t.post.dev.pointer = _ := step_pointer hc ht
  rw [hp, hkeep hpre, ← hp] at hptr
  rw [holdsPeer_iff, hptr, callee_snoc, hans]
  exact holdsPeer_iff.mp (hheld hpre)

theorem peerHeld_answer {ts : List Step} {t : Step} {buff sendB : Buf} {src : IP4}
    (hi : inputOf t = .video .callAnswer buff sendB src) (hc : t.pre.dev.caller)
    (ht : t.pre.dev.step (inputOf t) = some (t.post.dev, t.out))
    (hp : t.pre.dev.pointer = pointed ts) (hheld : PeerHeld ts t.pre) :
    PeerHeld (ts ++ [t]) t.post ↔ KeepsPeer ts t := by
  have hkeeps : KeepsPeer ts t ↔ (buff 7 = ask → ∀ k, t.pre.dev.pendingCall = some k →
      pointed ts = (inetAddr (t.pre.dev.multiUdpBuff k).remoteHost,
        inetAddr (t.pre.dev.multiUdpBuff k).remoteHost)) := by
    rw [KeepsPeer, hi]
  have hslot : answeredSlot t = if buff 7 = ask then t.pre.dev.pendingCall else none := by
    rw [answeredSlot, hi]
  rw [hkeeps]
  by_cases h : buff 7 = ask ∧ t.pre.dev.pendingCall.isSome
  · obtain ⟨k, hk⟩ := Option.isSome_iff_exists.mp h.2
    have hcause : causeOf t = .answer :=
      (cause_iff (by decide) (by decide)).mpr ⟨buff, sendB, src, hi, h⟩
    have hst : t.post.dev.status = t.pre.dev.status.after (causeOf t) :=
      (step_callEffect hc ht).status
    rw [hcause] at hst
    have hact : t.post.dev.active := Or.inl hst
    have hptr : t.post.dev.pointer = _ := step_pointer hc ht
    rw [hi, hp] at hptr
    rw [if_pos h.1, hk] at hslot
    rw [PeerHeld, holdsPeer_iff, callee_snoc, hslot, hptr]
    simp only [hact, forall_const, h.1, hk, Option.some.injEq, forall_eq']
    rfl
  · refine iff_of_true (peerHeld_quiet hc ht hp hheld ?_ ?_ ?_ fun _ => ?_) fun h7 k hk => ?_
    · intro hcause
      obtain ⟨b, _, _, hb, h7, hpend⟩ := (cause_iff (by decide) (by decide)).mp hcause
      obtain ⟨-, rfl, -⟩ := Input.video.inj (hi.symm.trans hb)
      exact h ⟨h7, hpend⟩
    · intro hcause
      obtain ⟨_, _, _, hb, -⟩ := (cause_iff (by decide) (by decide)).mp hcause
      exact absurd (Input.video.inj (hi.symm.trans hb)).1 (by decide)
    · rw [hslot]
      simpa using h
    · rw [hi]
      rfl
    · exact absurd ⟨h7, by simp [hk]⟩ h

theorem peerHeld_start {ts : List Step} {t : Step} {buff sendB : Buf} {src : IP4}
    (hi : inputOf t = .video .callStart buff sendB src) (hc : t.pre.dev.caller)
    (ht : t.pre.dev.step (inputOf t) = some (t.post.dev, t.out))
    (hp : t.pre.dev.pointer = pointed ts) (hheld : PeerHeld ts t.pre) :
    PeerHeld (ts ++ [t]) t.post ↔ KeepsPeer ts t := by
  have hkeeps : KeepsPeer ts t ↔ (t.pre.dev.status = .calling → buff 7 = ask →
      ipAt buff 53 = (pointed ts).1) := by
    rw [KeepsPeer, hi]
  have hslot : answeredSlot t = none := by rw [answeredSlot, hi]
  rw [hkeeps]
  by_cases h : t.pre.dev.status = .calling ∧ buff 7 = ask
  · have hcause : causeOf t = .start :=
      (cause_iff (by decide) (by decide)).mpr ⟨buff, sendB, src, hi, h⟩
    have hst : t.post.dev.status = t.pre.dev.status.after (causeOf t) :=
      (step_callEffect hc ht).status
    rw [hcause] at hst
    have hact : t.post.dev.active := Or.inr hst
    have hpre := holdsPeer_iff.mp (hheld (Or.inl h.1))
    rw [hp] at hpre
    have hptr : t.post.dev.pointer = _ := step_pointer hc ht
    rw [hi, hp, hpre, Device.redirect, if_pos h] at hptr
    rw [PeerHeld, holdsPeer_iff, callee_snoc, hslot, hptr, hpre]
    simp only [hact, forall_const, h.1, h.2, Prod.mk.injEq]
    constructor
    · exact fun he => he.1
    · intro he
      simp [he]
  · refine iff_of_true (peerHeld_quiet hc ht hp hheld ?_ ?_ hslot fun _ => ?_) fun h1 h2 =>
      absurd ⟨h1, h2⟩ h
    · intro hcause
      obtain ⟨_, _, _, hb, -⟩ := (cause_iff (by decide) (by decide)).mp hcause
      exact absurd (Input.video.inj (hi.symm.trans hb)).1 (by decide)
    · intro hcause
      obtain ⟨b, _, _, hb, h7⟩ := (cause_iff (by decide) (by decide)).mp hcause
      obtain ⟨-, rfl, -⟩ := Input.video.inj (hi.symm.trans hb)
      exact h h7
    · rw [hi, Device.redirect, if_neg h]

/-- `send_info` redirects the device, and leaves the call as it is. -/
theorem peerHeld_sendInfo {ts : List Step} {t : Step} {data : Buf} {info : SendInfo}
    (hi : inputOf t = .sendInfo data (some info)) (hc : t.pre.dev.caller)
    (ht : t.pre.dev.step (inputOf t) = some (t.post.dev, t.out))
    (hp : t.pre.dev.pointer = pointed ts) (hheld : PeerHeld ts t.pre) :
    PeerHeld (ts ++ [t]) t.post ↔ KeepsPeer ts t := by
  have hkeeps : KeepsPeer ts t ↔ (t.pre.dev.active → inetAddr info.ip = (pointed ts).1) := by
    rw [KeepsPeer, hi]
  have hslot : answeredSlot t = none := by rw [answeredSlot, hi]
  have hst : t.post.dev.status = _ := (step_callEffect hc ht).status
  rw [hi] at hst
  have hactive : t.post.dev.active ↔ t.pre.dev.active := by
    unfold Device.active
    rw [hst]
    rfl
  have hptr : t.post.dev.pointer = _ := step_pointer hc ht
  rw [hi, hp] at hptr
  rw [hkeeps, PeerHeld, hactive]
  refine forall_congr' fun hact => ?_
  have hpre := holdsPeer_iff.mp (hheld hact)
  rw [hp] at hpre
  rw [holdsPeer_iff, callee_snoc, hslot, hptr, hpre]
  simp [Device.redirect]

/-- A resolved name leaves no call. -/
theorem peerHeld_resolve {ts : List Step} {t : Step} {buff sendB : Buf} {src : IP4}
    (hi : inputOf t = .video .nsReply buff sendB src) (hc : t.pre.dev.caller)
    (ht : t.pre.dev.step (inputOf t) = some (t.post.dev, t.out)) (hq : t.pre.dev.asksFor buff) :
    PeerHeld (ts ++ [t]) t.post := by
  intro hact
  have hs : t.post.dev.status = _ := (step_callEffect hc ht).status
  have hcause : t.pre.dev.cause (inputOf t) = .resolve :=
    (cause_iff (by decide) (by decide)).mpr ⟨buff, sendB, src, hi, hq⟩
  rw [hcause] at hs
  exact absurd hs (active_ne_null hact)

def Input.steers : Input → Prop
  | .video .callAnswer _ _ _ | .video .callStart _ _ _ | .sendInfo _ (some _) => True
  | _ => False

theorem keepsPeer_of_not_steers {ts : List Step} {t : Step} (h : ¬(inputOf t).steers) :
    KeepsPeer ts t := by
  unfold KeepsPeer
  split
  · rename_i hi
    rw [hi] at h
    exact absurd trivial h
  · rename_i hi
    rw [hi] at h
    exact absurd trivial h
  · rename_i hi
    rw [hi] at h
    exact absurd trivial h
  · trivial

theorem cause_of_not_steers {i : Input} (h : ¬i.steers) :
    d.cause i ≠ .answer ∧ d.cause i ≠ .start := by
  constructor
  · intro hcause
    obtain ⟨_, _, _, rfl, -⟩ := (cause_iff (by decide) (by decide)).mp hcause
    exact h trivial
  · intro hcause
    obtain ⟨_, _, _, rfl, -⟩ := (cause_iff (by decide) (by decide)).mp hcause
    exact h trivial

/-- The remaining inputs point nowhere else while a call is up. -/
theorem redirect_of_not_steers {i : Input} (h : ¬i.steers) (hact : d.active)
    (hq : ∀ buff sendB src, i = .video .nsReply buff sendB src → ¬d.asksFor buff) (p : IP4 × IP4) :
    d.redirect p i = p := by
  unfold Device.redirect
  split
  · exact if_neg fun hs => active_ne_null hact hs.2
  · exact if_neg fun hs => active_ne_null hact hs.1.1
  · exact absurd trivial h
  · exact absurd trivial h
  · exact if_neg (hq _ _ _ rfl)
  · rfl

/-- What one step does to a held peer. -/
theorem peerHeld_step_iff {b : Boot} {ts : List Step} {t : Step} (hrun : RunFrom b ts t.pre)
    (hheld : PeerHeld ts t.pre) (ht : t.pre.step t.act = some (t.post, t.out)) :
    PeerHeld (ts ++ [t]) t.post ↔ KeepsPeer ts t := by
  have hc := run_caller hrun
  have hp := run_pointed hrun
  have hd : t.pre.dev.step (inputOf t) = some (t.post.dev, t.out) := device_step ht
  by_cases hans : ∃ buff sendB src, inputOf t = .video .callAnswer buff sendB src
  · obtain ⟨buff, sendB, src, hi⟩ := hans
    exact peerHeld_answer hi hc hd hp hheld
  by_cases hst : ∃ buff sendB src, inputOf t = .video .callStart buff sendB src
  · obtain ⟨buff, sendB, src, hi⟩ := hst
    exact peerHeld_start hi hc hd hp hheld
  by_cases hinfo : ∃ data info, inputOf t = .sendInfo data (some info)
  · obtain ⟨data, info, hi⟩ := hinfo
    exact peerHeld_sendInfo hi hc hd hp hheld
  have hsteer : ¬(inputOf t).steers := by
    unfold Input.steers
    split
    · exact fun _ => hans ⟨_, _, _, ‹_›⟩
    · exact fun _ => hst ⟨_, _, _, ‹_›⟩
    · exact fun _ => hinfo ⟨_, _, ‹_›⟩
    · exact id
  refine iff_of_true ?_ (keepsPeer_of_not_steers hsteer)
  by_cases hq : ∃ buff sendB src, inputOf t = .video .nsReply buff sendB src ∧
      t.pre.dev.asksFor buff
  · obtain ⟨buff, sendB, src, hi, hq⟩ := hq
    exact peerHeld_resolve hi hc hd hq
  · have hcause := cause_of_not_steers (d := t.pre.dev) hsteer
    have hslot : answeredSlot t = none := by
      unfold answeredSlot
      split
      · exact absurd ⟨_, _, _, ‹_›⟩ hans
      · rfl
    exact peerHeld_quiet hc hd hp hheld hcause.1 hcause.2 hslot fun hact =>
      redirect_of_not_steers hsteer hact (fun b' sb s' hi ha => hq ⟨b', sb, s', hi, ha⟩) _

/-- During every call of a run the device points at the host whose answer opened it, exactly when
every step keeps the peer. -/
theorem peer_held_iff {b : Boot} (e : Execution b) :
    (∀ us u, us <+: e.steps → RunFrom b us u → u.dev.active → HoldsPeer u.dev (callee us)) ↔
      ∀ us t, us ++ [t] <+: e.steps → KeepsPeer us t :=
  e.run.exact (J := fun s => s.dev.caller) (I := PeerHeld)
    (C := fun us s a => KeepsPeer us ⟨s, a, s, []⟩) (caller_init b) caller_step
    (fun h => absurd h fun hact => active_ne_null hact (init_status b))
    fun _ s a s' o hrun _ hheld hs => peerHeld_step_iff (t := ⟨s, a, s', o⟩) hrun hheld hs

def otherHost : IP4 := ⟨192, 168, 10, 98⟩

def crossedActions : List Action :=
  [sampleCall sampleHost, sampleCall otherHost, sampleRecv ask callAnswer sampleHost]

def crossed : Execution sampleBoot := execute sampleBoot crossedActions (by decide +kernel)

/-- The call is up with the first host and points at the second. -/
theorem peer_drifted : crossed.steps.map Transition.act = crossedActions ∧
    crossed.final.dev.active ∧ callee crossed.steps = sampleHost ∧
    crossed.final.dev.remoteInfo.ip 0 = otherHost ∧
    ¬HoldsPeer crossed.final.dev (callee crossed.steps) := by
  have hcallee : callee crossed.steps = sampleHost := by decide +kernel
  have hip : crossed.final.dev.remoteInfo.ip 0 = otherHost := by decide +kernel
  refine ⟨execute_acts _, by decide +kernel, hcallee, hip, fun h => ?_⟩
  rw [hcallee] at h
  exact absurd (hip.symm.trans h.ip) (by decide)

end QsaTalk
