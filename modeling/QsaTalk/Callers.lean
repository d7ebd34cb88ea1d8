import QsaTalk.CallMachine
import QsaTalk.Messages
import QsaTalk.StaleBytes
import QsaTalk.Traffic

/-! A network of callers. The library dials, but nothing in it answers a call: it takes a CALLANSWER
of another make before any device leaves the idle state. -/
namespace QsaTalk
open ByteBuffer SlotTable Function Runs
variable {d : Device} {r : Outcome} {s s' : System} {evs : List Event}

structure Accepts (bytes : List UInt8) : Prop where
  head : bytes.take 6 = udpPackageHead
  order : bytes[6]? = some videoTalk ∨ bytes[6]? = some videoTalkTrans
  kind : bytes[7]? = some ask
  sub : bytes[8]? = some callAnswer
  long : 61 ≤ bytes.length

/-- A CALL as `start_call` builds it. -/
def CallPacket (bytes : List UInt8) : Prop :=
  bytes.length = 62 ∧ bytes.take 9 = udpPackageHead ++ [videoTalk, ask, call] ∧
    bytes[57]? = some h264

/-- A name query as `find_ip` builds it. -/
def QueryPacket (bytes : List UInt8) : Prop :=
  bytes.length = 56 ∧ bytes.take 8 = udpPackageHead ++ [nsOrder, ask]

/-- What an idle device does in a network of callers: it sends calls and name queries, and tells
its application that the other side is busy, that there is no call to send media in, or what
address a name has. -/
def Event.dials : Event → Prop
  | .send g => CallPacket g.bytes ∨ QueryPacket g.bytes
  | .currOpt v s => (v = .callBusy ∨ v = .callFail) ∧ s = .null
  | .audioData _ _ _ => False
  | .devip _ _ _ | .lock | .unlock | .semPost => True

def Input.accepts : Input → Prop
  | .video .callAnswer buff _ _ => buff 7 = ask
  | _ => False

/-! One device. -/

theorem locked_dials : ∀ e ∈ [Event.lock, .unlock], e.dials := by
  simp [Event.dials]

theorem callSlot_packet (d : Device) (m : MultiUdpBuff1) : CallPacket (callSlot d m).bytes := by
  rw [call_bytes]
  exact ⟨rfl, rfl, rfl⟩

theorem querySlot_packet (d : Device) (addr : Buf) (m : MultiUdpBuff1) :
    QueryPacket (querySlot d addr m).bytes := by
  rw [query_bytes]
  exact ⟨rfl, rfl⟩

theorem transmit_dials {m : MultiUdpBuff1} (h : CallPacket m.bytes ∨ QueryPacket m.bytes) :
    ∀ e ∈ [.lock, m.transmit, .unlock], e.dials := by
  intro e he
  simp only [List.mem_cons, List.not_mem_nil, or_false] at he
  obtain rfl | rfl | rfl := he
  · trivial
  · exact h
  · trivial

theorem startCall_dials {ip : List UInt8} {addr : Buf} {uFlag : Int} (hn : d.status = .null) :
    ∀ e ∈ (startCall ip addr uFlag d).2, e.dials := by
  by_cases hu : uFlag = 2
  · subst hu
    cases hf : d.freeSlot with
    | none =>
      rw [startCall_full hn hf]
      exact locked_dials
    | some i =>
      rw [startCall_queued hn hf]
      exact transmit_dials (Or.inl (callSlot_packet _ _))
  · rw [startCall_refused fun h => hu h.1]
    simp

theorem findIp_dials {addr : Option Buf} {uFlag : Int} (hn : d.status = .null) :
    ∀ e ∈ (findIp addr uFlag d).2, e.dials := by
  by_cases h : addr.isSome ∧ d.status = .null ∧ uFlag = 0
  · obtain ⟨hs, -, rfl⟩ := h
    obtain ⟨a, rfl⟩ := Option.isSome_iff_exists.mp hs
    cases hf : d.freeSlot with
    | none =>
      rw [findIp_full hn hf]
      exact locked_dials
    | some i =>
      rw [findIp_queued hn hf]
      exact transmit_dials (Or.inr (querySlot_packet _ _ _))
  · rw [findIp_refused h]
    simp

theorem sendInfo_dials {data : Buf} {info : Option SendInfo} (h : sendInfo data info d = some r) :
    ∀ e ∈ r.2, e.dials := by
  cases info with
  | none =>
    obtain rfl := Option.some.inj h
    simp
  | some info =>
    cases hf : d.freeSlot with
    | none =>
      rw [sendInfo_full hf] at h
      obtain rfl := Option.some.inj h
      simp
    | some i =>
      obtain ⟨m, -, rfl⟩ := sendInfo_queued hf h
      simp [Event.dials]

theorem sendAudio_dials {c : MediaCall} (hn : d.status = .null) (h : qsaSendAudio c d = some r) :
    ∀ e ∈ r.2, e.dials := by
  rw [qsaSendAudio, if_pos hn] at h
  obtain rfl := Option.some.inj h
  simp [Event.dials, hn]

theorem sendVideo_dials {c : MediaCall} {frameType : Int} (hn : d.status = .null)
    (h : qsaSendVideo c frameType d = some r) : ∀ e ∈ r.2, e.dials := by
  unfold qsaSendVideo at h
  rw [if_pos hn] at h
  split at h
  · simp at h
  · obtain rfl := Option.some.inj h
    simp [Event.dials, hn]

/-- A datagram makes an idle device send nothing. -/
theorem video_dials {t : VideoTask} {buff sendB : Buf} {host : List UInt8} (hn : d.status = .null)
    (ha : ¬(t = .callAnswer ∧ buff 7 = ask)) :
    (runVideoTask t buff sendB host d).1.status = .null ∧
      ∀ e ∈ (runVideoTask t buff sendB host d).2, e.dials := by
  have hidle : ¬d.active := fun h => active_ne_null h hn
  have he := video_effect d t buff sendB host
  generalize runVideoTask t buff sendB host d = r at he
  cases he with
  | passive ht =>
    have hp := passive_effect d buff sendB host ht
    generalize runVideoTask t buff sendB host d = r at hp
    cases hp with
    | confirmed h => exact absurd h.1 hidle
    | heard h hr => simp [hn] at hr
    | unlocked h => simp [hn] at h
    | forced h => exact absurd hn h.1
    | played h => simp [hn] at h
    | call | unheard | shut | unforced | mute => exact ⟨hn, by simp⟩
  | resolved h => exact ⟨rfl, by simp [Event.dials]⟩
  | unresolved h => exact ⟨hn, locked_dials⟩
  | busy => exact ⟨rfl, by simp [Event.dials]⟩
  | swallowed => exact ⟨hn, locked_dials⟩
  | unused => exact ⟨hn, locked_dials⟩
  | answered h7 => exact absurd ⟨rfl, h7⟩ ha
  | unanswered => exact ⟨hn, locked_dials⟩
  | started h => simp [hn] at h
  | unstarted => exact ⟨hn, by simp⟩
  | ended h => exact absurd h hidle
  | concluded h => exact absurd h hidle
  | stray h => exact absurd h hidle
  | noCall => exact ⟨hn, by simp⟩

/-- Step lemma: an idle device that accepts no answer stays idle. -/
theorem idle_step {i : Input} (hn : d.status = .null) (ha : ¬i.accepts) (h : d.step i = some r) :
    r.1.status = .null ∧ ∀ e ∈ r.2, e.dials := by
  have hc : d.caller := Or.inl hn
  have hidle : ¬d.active := fun h => active_ne_null h hn
  cases i with
  | idle =>
    obtain rfl := Option.some.inj h
    exact ⟨hn, by simp⟩
  | startCall ip addr uFlag =>
    obtain rfl := Option.some.inj h
    exact ⟨(congrArg Local1.status startCall_effect.local1).trans hn, startCall_dials hn⟩
  | stopTalk =>
    obtain rfl := Option.some.inj h
    rw [stopTalk_idle hn]
    exact ⟨hn, by simp⟩
  | findIp addr uFlag =>
    obtain rfl := Option.some.inj h
    exact ⟨(congrArg Local1.status findIp_effect.local1).trans hn, findIp_dials hn⟩
  | sendInfo data info =>
    exact ⟨(congrArg Local1.status (sendInfo_effect h).local1).trans hn, sendInfo_dials h⟩
  | sendAudio c =>
    rw [(sendAudio_spec h).1]
    exact ⟨hn, sendAudio_dials hn h⟩
  | sendVideo c frameType =>
    rw [(sendVideo_spec h).1]
    exact ⟨hn, sendVideo_dials hn h⟩
  | video t buff sendB src =>
    obtain rfl := Option.some.inj h
    refine video_dials hn fun ⟨ht, h7⟩ => ha ?_
    subst ht
    exact h7
  | openLock buff =>
    obtain rfl := Option.some.inj h
    by_cases hp : buff 7 = reply ∧ d.pendingOpenLock.isSome
    · obtain ⟨j, hj⟩ := Option.isSome_iff_exists.mp hp.2
      rw [openLock_released hp.1 hj]
      exact ⟨hn, locked_dials⟩
    · rw [openLock_ignored hp]
      exact ⟨hn, locked_dials⟩
  | tick sendB =>
    obtain rfl := Option.some.inj h
    obtain ⟨l, hl, he⟩ := tick_keep sendB hc fun hx => hidle hx.2.1
    rw [he]
    exact ⟨hl.trans hn, by simp⟩

/-- Only the datagram's own bytes make it a CALLANSWER. -/
theorem accepts_own {buff : Buf} {dgram : List UInt8}
    (ht : videoTask (receive buff dgram) (received dgram).length = some .callAnswer)
    (h7 : receive buff dgram 7 = ask) : Accepts dgram := by
  obtain ⟨hp, hlen, h⟩ := videoTask_switch ht
  have hlong : 61 ≤ (received dgram).length := hlen
  have hcut : (received dgram).length ≤ dgram.length := List.length_take_le' _ _
  have hown : ∀ k ≤ 8, dgram[k]? = some (receive buff dgram k) := by
    intro k hk
    rw [receive_lt buff dgram (by omega), List.getElem?_eq_getElem (by omega)]
    simp [received]
  obtain ⟨h6, h8⟩ : (receive buff dgram 6 = videoTalk ∨ receive buff dgram 6 = videoTalkTrans) ∧
      receive buff dgram 8 = callAnswer := by
    obtain ⟨hne, -⟩ | ⟨h6, hm⟩ := h
    · simp at hne
    · have honly : ∀ p ∈ talkTasks, p.2 = .callAnswer → p.1 = callAnswer := by decide
      exact ⟨h6, honly _ hm rfl⟩
  have hhead := (package_iff buff dgram).mp hp
  rw [received, List.take_take] at hhead
  exact ⟨hhead, by simpa [hown] using h6, by simp [hown, h7], by simp [hown, h8],
    hlong.trans hcut⟩

def Action.accepts : Action → Prop
  | .recvVideo _ dgram _ => Accepts dgram
  | _ => False

theorem input_accepts {a : Action} (h : (s.input a).accepts) : a.accepts := by
  cases a with
  | recvVideo src dgram sendB =>
    unfold System.input at h
    dsimp only at h
    split at h
    · split at h
      · exact h.elim
      · rename_i t ht
        cases t with
        | callAnswer => exact accepts_own ht h
        | nsReply | call | lineUse | callStart | callConfirm | openLock | callEnd | forceIFrame
        | callUpDown => exact h.elim
    · exact h.elim
  | recvData src dgram =>
    unfold System.input at h
    dsimp only at h
    split at h <;> exact h.elim
  | startCall | stopTalk | findIp | sendInfo | sendAudio | sendVideo | tick => exact h.elim

theorem idle_system {a : Action} (hn : s.dev.status = .null) (ha : ¬a.accepts)
    (h : s.step a = some (s', evs)) : s'.dev.status = .null ∧ ∀ e ∈ evs, e.dials :=
  idle_step hn (fun hi => ha (input_accepts hi)) (device_step h)

/-! The network. -/

variable {ι : Type}

def Parcel.accepts (p : Parcel ι) : Prop := Accepts p.bytes

structure Lan.Unanswered (n : Lan ι) : Prop where
  idle : ∀ x, (n.sys x).dev.status = .null
  flight : ∀ p ∈ n.flight, ¬p.accepts

def LanAct.answers : LanAct ι → Prop
  | .inject p => p.accepts
  | _ => False

variable (site : Site ι)

/-- What idle devices send is no answer. -/
theorem dialled_unanswered {x : ι} (h : ∀ e ∈ evs, e.dials) : ∀ p ∈ site.routes x evs, ¬p.accepts := by
  intro p hp ha
  obtain ⟨g, hg, hr⟩ := List.mem_flatMap.mp hp
  obtain ⟨j, -, hj⟩ := List.mem_filterMap.mp hr
  obtain ⟨q, -, rfl⟩ := Option.map_eq_some_iff.mp hj
  obtain ⟨e, he, hs⟩ := List.mem_filterMap.mp hg
  have hd := h e he
  cases e with
  | send g' =>
    obtain rfl := Option.some.inj hs
    obtain ⟨-, hcall, -⟩ | ⟨-, hquery⟩ := hd
    · have h8 : g'.bytes[8]? = some call := by
        rw [← List.getElem?_take_of_lt (by decide : 8 < 9), hcall]
        rfl
      have hne : ¬some call = some callAnswer := by decide
      exact hne (h8.symm.trans ha.sub)
    · have h6 : g'.bytes[6]? = some nsOrder := by
        rw [← List.getElem?_take_of_lt (by decide : 6 < 8), hquery]
        rfl
      have hne : ¬(some nsOrder = some videoTalk ∨ some nsOrder = some videoTalkTrans) := by decide
      exact hne (h6 ▸ ha.order)
  | lock | unlock | semPost | currOpt | devip | audioData => simp [Event.sent] at hs

variable [DecidableEq ι]

theorem run_unanswered {n n' : Lan ι} {x : ι} {a : Action} {rest : List (Parcel ι)}
    (hn : n.Unanswered) (hrest : ∀ p ∈ rest, ¬p.accepts) (ha : ¬a.accepts)
    (h : site.run n x a rest = some (n', evs)) : n'.Unanswered ∧ ∀ e ∈ evs, e.dials := by
  rw [Site.run] at h
  split at h
  · simp at h
  · rename_i s' evs' hs
    obtain ⟨rfl, rfl⟩ := Prod.mk.inj (Option.some.inj h)
    obtain ⟨hidle, hd⟩ := idle_system (hn.idle x) ha hs
    refine ⟨⟨fun y => ?_, fun p hp => ?_⟩, hd⟩
    · dsimp only
      by_cases hy : y = x
      · subst hy
        rw [update_self]
        exact hidle
      · rw [update_of_ne hy]
        exact hn.idle y
    · obtain hp | hp := List.mem_append.mp hp
      · exact hrest p hp
      · exact dialled_unanswered site hd p hp

/-- Step lemma: nobody gets into a call by anything that happens among the devices. -/
theorem lan_unanswered {n n' : Lan ι} {a : LanAct ι} (hn : n.Unanswered) (ha : ¬a.answers)
    (h : site.step n a = some (n', evs)) : n'.Unanswered ∧ ∀ e ∈ evs, e.dials := by
  cases a with
  | act x a =>
    rw [Site.step] at h
    split at h
    · simp at h
    · rename_i hr
      refine run_unanswered site hn hn.flight (fun hacc => ?_) h
      cases a with
      | recvVideo src dgram sendB => exact hr rfl
      | recvData | startCall | stopTalk | findIp | sendInfo | sendAudio | sendVideo | tick =>
        exact hacc
  | deliver k sendB =>
    rw [Site.step] at h
    split at h
    · simp at h
    · rename_i p hp
      refine run_unanswered site hn (fun q hq => hn.flight q (List.mem_of_mem_eraseIdx hq))
        (fun hacc => ?_) h
      unfold Parcel.arrival at hacc
      cases hport : p.port with
      | video =>
        rw [hport] at hacc
        exact hn.flight p (List.mem_of_getElem? hp) hacc
      | data =>
        rw [hport] at hacc
        exact hacc
  | lose k =>
    obtain ⟨rfl, rfl⟩ := Prod.mk.inj (Option.some.inj h)
    exact ⟨⟨hn.idle, fun p hp => hn.flight p (List.mem_of_mem_eraseIdx hp)⟩, by simp⟩
  | inject p =>
    obtain ⟨rfl, rfl⟩ := Prod.mk.inj (Option.some.inj h)
    refine ⟨⟨hn.idle, fun q hq => ?_⟩, by simp⟩
    obtain hq | hq := List.mem_append.mp hq
    · exact hn.flight q hq
    · rw [List.mem_singleton.mp hq]
      exact ha

/-- However idle devices dial, act and hear from each other and from other hosts, and whatever is
lost, repeated or forged on the way: until some other host sends a CALLANSWER nobody is in a call,
nothing but calls and name queries is sent, and the applications hear of busy peers, of media that
no call is there for and of names found. -/
theorem callers_unanswered {n n' : Lan ι} {ts : List (LanStep ι)} (h : Run site.step n ts n')
    (hn : n.Unanswered) (ha : ∀ t ∈ ts, ¬t.act.answers) :
    n'.Unanswered ∧ ∀ t ∈ ts, ∀ e ∈ t.out, e.dials := by
  induction h with
  | start => exact ⟨hn, by simp⟩
  | @step ts n₁ a n₂ evs h hs ih =>
    obtain ⟨h₁, hd⟩ := ih fun t ht => ha t (List.mem_append_left _ ht)
    obtain ⟨h₂, hlast⟩ := lan_unanswered site h₁ (ha ⟨n₁, a, n₂, evs⟩ (by simp)) hs
    refine ⟨h₂, fun t ht => ?_⟩
    obtain ht | ht := List.mem_append.mp ht
    · exact hd t ht
    · rw [List.mem_singleton.mp ht]
      exact hlast

def busyActs : List (LanAct Bool) :=
  [.act false (sampleCall samplePeer), .deliver 0 fun _ => 0,
    .inject ⟨false, .video, samplePeer, samplePacket ask lineUse samplePeer⟩, .deliver 0 fun _ => 0,
    .act false (.findIp (some fun _ => 0x30) 0)]

theorem pair_unanswered : ∃ ts n',
    Run samplePair.step ⟨fun _ => initParamTask sampleBoot, []⟩ ts n' ∧
    ts.map Transition.act = busyActs ∧ n'.Unanswered ∧ ∀ t ∈ ts, ∀ e ∈ t.out, e.dials := by
  have hrun : (trail samplePair.step ⟨fun _ => initParamTask sampleBoot, []⟩ busyActs).isSome =
      true := by
    decide +kernel
  obtain ⟨⟨ts, n'⟩, h⟩ := Option.isSome_iff_exists.mp hrun
  have hacts := trail_acts h
  refine ⟨ts, n', run_of_trail h, hacts, callers_unanswered samplePair (run_of_trail h)
    ⟨fun _ => rfl, by simp⟩ fun t ht ha => ?_⟩
  have hmem : t.act ∈ busyActs := hacts ▸ List.mem_map_of_mem ht
  simp only [busyActs, List.mem_cons, List.not_mem_nil, or_false] at hmem
  obtain he | he | he | he | he := hmem <;> rw [he] at ha
  · exact ha
  · exact ha
  · have hsub : ¬(samplePacket ask lineUse samplePeer)[8]? = some callAnswer := by decide
    exact hsub ha.sub
  · exact ha
  · exact ha

end QsaTalk
