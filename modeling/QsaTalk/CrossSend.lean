import QsaTalk.Drain
import QsaTalk.Reentrancy

/-! `_CROSS_SEND_FLAG`: the three commands of a call as they are compiled here, where a command is
sent at once, against the variant that leaves the sending to the woken thread. -/
namespace QsaTalk
open ByteBuffer SlotTable Function Loops RoundRobin

/-! `#if _CROSS_SEND_FLAG`: `sem_post` in place of `UdpSendBuff`. -/

def startCallQueued (ip : List UInt8) (addr : Buf) (uFlag : Int) (d : Device) : Outcome :=
  if uFlag = 2 ∧ d.status = .null then
    let d := d.dial ip addr
    locked (match d.freeSlot with
      | none => (d, [])
      | some i => (d.setSlot i (callSlot d (d.multiUdpBuff i)), [.semPost]))
  else (d, [])

def stopTalkQueued (d : Device) : Outcome :=
  if d.status = .null then (d, [])
  else
    locked (match d.freeSlot with
      | none => (d, [])
      | some i => (d.setSlot i (callEndSlot d (d.multiUdpBuff i)), [.semPost]))

def findIpQueued (addr : Option Buf) (uFlag : Int) (d : Device) : Outcome :=
  match addr with
  | none => (d, [])
  | some addr =>
    if d.status = .null ∧ uFlag = 0 then
      locked (match d.freeSlot with
        | none => (d, [])
        | some i => ((d.setSlot i (querySlot d addr (d.multiUdpBuff i))).seek addr, [.semPost]))
    else (d, [])

def PublicCall.queued : PublicCall → Device → Outcome
  | .startCall ip addr uFlag => startCallQueued ip addr uFlag
  | .stopTalk => stopTalkQueued
  | .findIp addr uFlag => findIpQueued addr uFlag

/-- The queued variant up to the point where the thread sleeps again. No post, no waking. -/
def QueuedRun (d : Device) (c : PublicCall) (r : Outcome) : Prop :=
  if .semPost ∈ (c.queued d).2 then
    ∃ n t, Drains (c.queued d).1 n t ∧ r = (t.now, (c.queued d).2 ++ spoken t.log)
  else r = c.queued d

structure SameEffect (r r' : Outcome) : Prop where
  datagrams : sends r.2 = sends r'.2
  valid : ∀ i, (r.1.multiUdpBuff i).isValid = (r'.1.multiUdpBuff i).isValid
  status : r.1.status = r'.1.status
  callbacks : currOpts r.2 = currOpts r'.2

/-- Both variants fill the slot alike; one sends the command, the other wakes the thread. -/
structure Accepted (d : Device) (c : PublicCall) (i : Fin udpSendMax) (m : MultiUdpBuff1) (e : Device) :
    Prop where
  direct : c.run d = (e, [.lock, m.transmit, .unlock])
  queued : c.queued d = (e, [.lock, .semPost, .unlock])
  table : e.multiUdpBuff = update d.multiUdpBuff i m
  sockets : e.videoSocket = d.videoSocket ∧ e.arpSocket = d.arpSocket
  slot : m.isValid = true ∧ m.sendNum = 5 ∧ m.sendDelayTime = 0 ∧ m.delayTime = directCallTime ∧
    m.mSocket = d.videoSocket

variable {d : Device} {c : PublicCall} {r : Outcome}

theorem publicCall_unqueued (h : ¬c.locks d.status) : c.queued d = (d, []) := by
  cases c with
  | startCall ip addr uFlag => exact if_neg h
  | stopTalk => exact if_pos (not_not.mp h)
  | findIp addr uFlag =>
    cases addr with
    | none => rfl
    | some addr => exact if_neg fun hc => h ⟨rfl, hc⟩

theorem accepted (h : c.locks d.status) {i : Fin udpSendMax} (hf : d.freeSlot = some i) :
    ∃ m e, Accepted d c i m e := by
  cases c with
  | startCall ip addr uFlag =>
    obtain ⟨rfl, hs⟩ := h
    have hf' : (d.dial ip addr).freeSlot = some i :=
      (freeSlot_congr (dial_multiUdpBuff ..)).trans hf
    refine ⟨_, _, startCall_queued hs hf, ?_, rfl, ⟨rfl, rfl⟩, rfl, rfl, rfl, rfl, rfl⟩
    simp only [PublicCall.queued, startCallQueued, hs, and_self, if_true, hf']
    rfl
  | stopTalk =>
    refine ⟨_, _, stopTalk_queued h hf, ?_, rfl, ⟨rfl, rfl⟩, rfl, rfl, rfl, rfl, rfl⟩
    exact (if_neg h).trans (by rw [hf]; rfl)
  | findIp addr uFlag =>
    obtain ⟨ha, hs, rfl⟩ := h
    obtain ⟨addr, rfl⟩ := Option.isSome_iff_exists.mp ha
    refine ⟨_, _, findIp_queued hs hf, ?_, rfl, ⟨rfl, rfl⟩, rfl, rfl, rfl, rfl, rfl⟩
    simp only [PublicCall.queued, findIpQueued, hs, and_self, if_true, hf]
    rfl

theorem free_of_empty (hv : ∀ k, (d.multiUdpBuff k).isValid = false) :
    ∃ i, d.freeSlot = some i :=
  Option.isSome_iff_exists.mp (first_isSome.mpr ⟨⟨0, by decide⟩, by simp [hv]⟩)

/-- The command is the only one in the table, and one transmission from the end. -/
theorem Accepted.drainable {i : Fin udpSendMax} {m : MultiUdpBuff1} {e : Device}
    (h : Accepted d c i m e) (hv : ∀ k, (d.multiUdpBuff k).isValid = false) : Drainable e := by
  obtain ⟨-, hnum, hdelay, htime, -⟩ := h.slot
  have hslot : ∀ k, (e.multiUdpBuff k).isValid = true → e.multiUdpBuff k = m := by
    intro k hk
    rw [h.table] at hk ⊢
    by_cases hki : k = i
    · rw [hki, update_self]
    · rw [update_of_ne hki, hv k] at hk
      exact Bool.noConfusion hk
  refine ⟨fun k hk => ?_, fun k hk _ => ?_⟩
  · rw [hslot k hk, hnum, hdelay, htime]
    decide
  · rw [hslot k hk, htime]
    decide

theorem Accepted.posts {i : Fin udpSendMax} {m : MultiUdpBuff1} {e : Device}
    (h : Accepted d c i m e) : QueuedRun d c r ↔
      ∃ n t, Drains e n t ∧ r = (t.now, [.lock, .semPost, .unlock] ++ spoken t.log) := by
  rw [QueuedRun, h.queued, if_pos (by simp)]

theorem queuedRun_refused (h : ¬c.locks d.status) : QueuedRun d c r ↔ r = (d, []) := by
  rw [QueuedRun, publicCall_unqueued h, if_neg (by simp)]

/-- Where all but one component stay silent, the log is that component's own. -/
theorem spoken_own {i : Fin udpSendMax} {ts : List SendTurn}
    (h : ∀ j, j ≠ i → spoken (own j ts) = []) : spoken ts = spoken (own i ts) := by
  have hquiet : ∀ t ∈ ts, t.slot ≠ i → t.out = [] := by
    intro t ht hne
    have hown := List.flatMap_eq_nil_iff.mp (h t.slot hne)
    exact hown t (List.mem_filter.mpr ⟨ht, by simp⟩)
  clear h
  induction ts with
  | nil => rfl
  | cons t ts ih =>
    have hts : spoken ts = spoken (own i ts) := ih fun u hu => hquiet u (List.mem_cons_of_mem _ hu)
    have hcons : spoken (t :: ts) = t.out ++ spoken ts := List.flatMap_cons
    rw [hcons, hts, own_cons]
    by_cases hi : t.slot = i
    · rw [if_pos hi]
      rfl
    · rw [if_neg hi, hquiet t (by simp) hi]
      rfl

/-- What the shortcut does keep: the one datagram of the command. -/
theorem datagrams_agree (hv : ∀ k, (d.multiUdpBuff k).isValid = false)
    (hs : d.videoSocket ≠ d.arpSocket) (hr : QueuedRun d c r) :
    sends (c.run d).2 = sends r.2 := by
  by_cases hc : c.locks d.status
  · obtain ⟨i, hf⟩ := free_of_empty hv
    obtain ⟨m, e, h⟩ := accepted hc hf
    obtain ⟨n, t, hdrain, rfl⟩ := h.posts.mp hr
    have hu := drains_settled (h.drainable hv) hdrain
    obtain ⟨hvalid, hnum, -, -, hsock⟩ := h.slot
    have hm : e.multiUdpBuff i = m := by rw [h.table, update_self]
    have hothers : ∀ j, j ≠ i → spoken (own j t.log) = [] := by
      intro j hj
      refine ((hu j).untouched ?_).2
      rw [h.table, update_of_ne hj]
      exact hv j
    have hsent := (hu i).sent (by rw [hm]; exact hvalid)
    have hone : m.transmissions e.arpSocket = 1 := by
      rw [MultiUdpBuff1.transmissions, hsock, h.sockets.2, if_neg hs, hnum]
      rfl
    rw [hm, hone, ← spoken_own hothers] at hsent
    rw [h.direct, sends_append, hsent]
    rfl
  · rw [publicCall_idle c hc, (queuedRun_refused hc).mp hr]

/-- The thread does not sleep before the command is out of the table. -/
theorem Accepted.differs {i : Fin udpSendMax} {m : MultiUdpBuff1} {e : Device}
    (h : Accepted d c i m e) (hv : ∀ k, (d.multiUdpBuff k).isValid = false) (hr : QueuedRun d c r) :
    ((c.run d).1.multiUdpBuff i).isValid = true ∧ ∀ k, (r.1.multiUdpBuff k).isValid = false := by
  obtain ⟨n, t, hdrain, rfl⟩ := h.posts.mp hr
  refine ⟨?_, fun k => (drains_settled (h.drainable hv) hdrain k).invalid⟩
  rw [h.direct, h.table, update_self]
  exact h.slot.1

/-- Only a refused command goes alike. An accepted one stays in the table when it is sent at once;
the thread takes it out, with its callback. -/
theorem crossSend_iff (d : Device) (c : PublicCall) (hv : ∀ k, (d.multiUdpBuff k).isValid = false) :
    (∃ r, QueuedRun d c r) ∧ ((∃ r, QueuedRun d c r ∧ SameEffect (c.run d) r) ↔ ¬c.locks d.status) := by
  by_cases hc : c.locks d.status
  · obtain ⟨i, hf⟩ := free_of_empty hv
    obtain ⟨m, e, h⟩ := accepted hc hf
    refine ⟨?_, iff_of_false ?_ (not_not.mpr hc)⟩
    · obtain ⟨n, t, -, hdrain, -⟩ := drain_ends (h.drainable hv)
      exact ⟨_, h.posts.mpr ⟨n, t, hdrain, rfl⟩⟩
    · rintro ⟨r, hr, hsame⟩
      obtain ⟨hdirect, hqueued⟩ := h.differs hv hr
      rw [hsame.valid i, hqueued i] at hdirect
      exact Bool.false_ne_true hdirect
  · have hrun : QueuedRun d c (d, []) := (queuedRun_refused hc).mpr rfl
    refine ⟨⟨_, hrun⟩, iff_of_true ⟨_, hrun, ?_⟩ hc⟩
    rw [publicCall_idle c hc]
    exact ⟨rfl, fun _ => rfl, rfl, rfl⟩

def idle : Device := { bootDevice sampleBoot with arpSocket := 5 }

def sampleDial : PublicCall := .startCall (dotted sampleHost) (fun _ => 0x30) 2

theorem idle_empty : ∀ k, (idle.multiUdpBuff k).isValid = false := fun _ => rfl

theorem dial_accepted : sampleDial.locks idle.status := ⟨rfl, rfl⟩

/-- Idle, the device refuses to hang up and takes a call. -/
theorem idle_variants :
    (∃ r, QueuedRun idle .stopTalk r ∧ SameEffect (PublicCall.run .stopTalk idle) r) ∧
      ¬∃ r, QueuedRun idle sampleDial r ∧ SameEffect (sampleDial.run idle) r :=
  ⟨(crossSend_iff idle .stopTalk idle_empty).2.mpr fun h => h rfl,
    fun h => (crossSend_iff idle sampleDial idle_empty).2.mp h dial_accepted⟩

/-- The thread gives a call up that nobody answers; sent at once, it is never given up. -/
theorem call_never_fails : (∀ k, (idle.multiUdpBuff k).isValid = false) ∧
    currOpts (sampleDial.run idle).2 = [] ∧
    ((sampleDial.run idle).1.multiUdpBuff slot0).isValid = true ∧
    ∃ r, QueuedRun idle sampleDial r ∧ currOpts r.2 = [(.callFail, .null)] ∧
      (r.1.multiUdpBuff slot0).isValid = false ∧ ¬SameEffect (sampleDial.run idle) r := by
  have hvalid : ((sampleDial.run idle).1.multiUdpBuff slot0).isValid = true := by decide +kernel
  refine ⟨idle_empty, by decide +kernel, hvalid, ?_⟩
  have hf : idle.freeSlot = some slot0 := by decide +kernel
  obtain ⟨m, e, h⟩ := accepted dial_accepted hf
  have he : (sampleDial.queued idle).1 = e := congrArg Prod.fst h.queued
  obtain ⟨n, t, hn, hdrain, ht⟩ := drain_ends (h.drainable idle_empty)
  have hpasses : (sampleDial.queued idle).1.passes = 2 := by decide +kernel
  have hrun : run Rounds.go drainPass 2 (woken e) = some t :=
    loop_run hdrain (by rw [← hpasses, he]; exact hn)
  have hshown : (run Rounds.go drainPass 2 (woken (sampleDial.queued idle).1)).map
      (fun t => currOpts (spoken t.log)) = some [(.callFail, .null)] := by
    decide +kernel
  rw [he, hrun] at hshown
  have htold : currOpts (spoken t.log) = [(.callFail, .null)] := Option.some.inj hshown
  refine ⟨_, h.posts.mpr ⟨n, t, hdrain, rfl⟩, ?_, (ht slot0).invalid, fun hsame => ?_⟩
  · rw [currOpts_append, htold]
    rfl
  · have hgone := (hsame.valid slot0).symm.trans hvalid
    exact Bool.false_ne_true ((ht slot0).invalid.symm.trans hgone)

end QsaTalk
