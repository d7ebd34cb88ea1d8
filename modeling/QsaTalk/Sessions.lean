import QsaTalk.Acknowledgement
import QsaTalk.Callbacks
import QsaTalk.PendingCommands

/-! `uninit_task`, and `init_param_task` once more: what a session leaves in the command table, and
what the next one makes of it. The mutex and the semaphore that `Uninit_Udp_Send_Task` destroys are
never initialised again. C does not say what the next session's locks and posts then do; here they
are assumed to do what they did before. -/
namespace QsaTalk
open ByteBuffer SlotTable Function Runs

/-- `init_param_task` down to `SendFreeArp`, on the globals as they stand. -/
def Device.booted (d : Device) (b : Boot) : Device :=
  let config := b.config.getD nullConfig
  { d with
    localConfig := config
    locateIp := inetAddr (cstr config.ip 20)
    local1 := { d.local1 with status := .null, timeOut := 0, talkTimeOut := talkTimeOut }
    remoteInfo := initRemote
    videoSocket := b.videoSocket
    dataSocket := b.dataSocket }

def System.init (s : System) (b : Boot) : System where
  dev := { (sendFreeArp (s.dev.booted b)).1 with arpSocket := b.arpSocket }
  videoBuff := b.videoBuff
  dataBuff := b.dataBuff
  udpRecvFlag := true
  videoRcv := true
  dataRcv := true

/-- `uninit_task`: the receive loops find the flag down when they come round. `udp_lock` and
`multi_send_sem`, destroyed here, are assumed to go on working. -/
def System.uninit (s : System) : System :=
  { s with dev := dropMultiGroup s.dev, udpRecvFlag := false }

/-- A session ends and the next one starts, with the lock and the semaphore of the old one. -/
def System.restart (s : System) (b : Boot) : System := s.uninit.init b

def blank : System where
  dev := ⟨nullConfig, IP4.zero, ⟨.null, IP4.zero, 0, 0, 0, 0, 0, 0⟩, initRemote, fun _ => emptySlot,
    0, 0, 0⟩
  videoBuff := fun _ => 0
  dataBuff := fun _ => 0
  udpRecvFlag := false
  videoRcv := false
  dataRcv := false

theorem init_blank (b : Boot) : blank.init b = initParamTask b := rfl

def MultiUdpBuff1.rings (sock : Int) (m : MultiUdpBuff1) : Bool := m.awaits sock isTalk call

def Action.isStartCall : Action → Bool
  | .startCall _ _ _ => true
  | _ => false

def Action.isFindIp : Action → Bool
  | .findIp _ _ => true
  | _ => false

/-- A slot of an old query, which the next command put into it without a header would look like. -/
def MultiUdpBuff1.looksAsking (m : MultiUdpBuff1) : Prop := m.buf 6 = nsOrder ∧ m.buf 7 = ask

instance (m : MultiUdpBuff1) : Decidable m.looksAsking := inferInstanceAs (Decidable (_ ∧ _))

variable {d : Device} {r : Outcome} {s s' u : System} {a : Action} {evs : List Event} {b : Boot}
  {ts : List Step} {sock : Int}

/-! The table a session starts with. -/

theorem restart_status (s : System) (b : Boot) : (s.restart b).dev.status = .null := by
  unfold System.restart System.init sendFreeArp
  dsimp only
  split <;> rfl

theorem restart_videoSocket (s : System) (b : Boot) : (s.restart b).dev.videoSocket = b.videoSocket := by
  unfold System.restart System.init sendFreeArp
  dsimp only
  split <;> rfl

theorem uninit_table (s : System) : s.uninit.dev.multiUdpBuff = s.dev.multiUdpBuff ∧
    s.uninit.dev.arpSocket = s.dev.arpSocket := by
  unfold System.uninit
  dsimp only
  rw [dropMultiGroup_eq]
  exact ⟨rfl, rfl⟩

/-- The free-ARP command is all a restart changes in the table. -/
theorem restart_slot (s : System) (b : Boot) (i : Fin udpSendMax) :
    (s.restart b).dev.multiUdpBuff i = if s.dev.freeSlot = some i then
      arpSlot s.dev (s.dev.multiUdpBuff i) else s.dev.multiUdpBuff i := by
  obtain ⟨htable, harp⟩ := uninit_table s
  have hfree : (s.uninit.dev.booted b).freeSlot = s.dev.freeSlot := freeSlot_congr htable
  have hslot (m : MultiUdpBuff1) : arpSlot (s.uninit.dev.booted b) m = arpSlot s.dev m := by
    simp [arpSlot, Device.booted, harp]
  unfold System.restart System.init sendFreeArp
  dsimp only
  rw [hfree]
  cases hf : s.dev.freeSlot with
  | none =>
    rw [if_neg (by simp)]
    exact congrFun htable i
  | some k =>
    have hold : (s.uninit.dev.booted b).multiUdpBuff = s.dev.multiUdpBuff := htable
    dsimp only
    rw [setSlot_multiUdpBuff, hold, hslot]
    by_cases hk : k = i
    · subst hk
      rw [if_pos rfl, update_self]
    · rw [if_neg fun h => hk (Option.some.inj h), update_of_ne fun h => hk h.symm]

theorem free_slot_invalid {k : Fin udpSendMax} (h : d.freeSlot = some k) :
    (d.multiUdpBuff k).isValid = false := by
  simpa using first_spec h

/-- With a video socket that is no ARP socket, the CALLs that are out are those of the session
before. -/
theorem restart_rings (hb : b.videoSocket ≠ s.dev.arpSocket) (i : Fin udpSendMax) :
    ((s.restart b).dev.multiUdpBuff i).rings b.videoSocket =
      (s.dev.multiUdpBuff i).rings b.videoSocket := by
  rw [restart_slot]
  split
  · rename_i hf
    have hv := free_slot_invalid hf
    have hs : (s.dev.arpSocket == b.videoSocket) = false := by simpa using hb.symm
    simp [MultiUdpBuff1.rings, MultiUdpBuff1.awaits, arpSlot, hs, hv]
  · rfl

theorem restart_asks (i : Fin udpSendMax) : ((s.restart b).dev.multiUdpBuff i).asks = true ↔
    (s.dev.multiUdpBuff i).asks = true ∨
      s.dev.freeSlot = some i ∧ (s.dev.multiUdpBuff i).looksAsking := by
  have hthree : (3 : Int) < maxSendNum := by decide
  rw [restart_slot]
  split
  · rename_i hf
    have hv := free_slot_invalid hf
    simp [MultiUdpBuff1.asks, MultiUdpBuff1.looksAsking, arpSlot, hf, hv, hthree]
  · rename_i hf
    simp [hf]

/-! What goes into it. -/

/-- The two bytes a command is told by, and which action it takes. -/
theorem commandOf_kind {a : Action} {f : MultiUdpBuff1 → MultiUdpBuff1}
    (h : s.dev.commandOf (s.input a) = some f) (hr : s.dev.step (s.input a) = some r)
    {k : Fin udpSendMax} (hk : s.dev.freeSlot = some k) :
    ((f (s.dev.multiUdpBuff k)).buf 6 = videoTalk ∧
      ((f (s.dev.multiUdpBuff k)).buf 8 = callEnd ∨ a.isStartCall = true)) ∨
    (f (s.dev.multiUdpBuff k)).buf 6 = sendMessage ∨
    ((f (s.dev.multiUdpBuff k)).buf 6 = nsOrder ∧ a.isFindIp = true) := by
  cases a with
  | startCall ip addr uFlag =>
    simp only [System.input, Device.commandOf, Option.ite_none_right_eq_some, Option.some.injEq] at h
    obtain ⟨-, rfl⟩ := h
    exact Or.inl ⟨rfl, Or.inr rfl⟩
  | stopTalk =>
    simp only [System.input, Device.commandOf, Option.ite_none_left_eq_some, Option.some.injEq] at h
    obtain ⟨-, rfl⟩ := h
    exact Or.inl ⟨rfl, Or.inl rfl⟩
  | tick sendB =>
    simp only [System.input, Device.commandOf, Option.ite_none_right_eq_some, Option.some.injEq] at h
    obtain ⟨-, rfl⟩ := h
    exact Or.inl ⟨rfl, Or.inl rfl⟩
  | findIp addr uFlag =>
    cases addr with
    | none => simp [System.input, Device.commandOf] at h
    | some addr =>
      simp only [System.input, Device.commandOf, Option.ite_none_right_eq_some,
        Option.some.injEq] at h
      obtain ⟨-, rfl⟩ := h
      exact Or.inr (Or.inr ⟨rfl, rfl⟩)
  | sendInfo data info =>
    cases info with
    | none => simp [System.input, Device.commandOf] at h
    | some info =>
      obtain ⟨m, hm, -⟩ := sendInfo_queued hk hr
      have hf := Option.some.inj h
      refine Or.inr (Or.inl ?_)
      rw [← hf]
      simp only [hm, Option.getD_some]
      exact messageSlot_order hm
  | sendAudio c => simp [System.input, Device.commandOf] at h
  | sendVideo c t => simp [System.input, Device.commandOf] at h
  | recvVideo src dgram sendB => simp [commandOf_recvVideo] at h
  | recvData src dgram => simp [commandOf_recvData] at h

/-- A kind of command that no action puts into the table stays out of it. -/
theorem absent_step {used : MultiUdpBuff1 → Bool} (hused : ∀ m, used m = true → m.isValid = true)
    (hc : s.dev.caller) (h : usage used s.dev.multiUdpBuff = 0)
    (hs : s.step a = some (s', evs))
    (hnew : ∀ f k, s.dev.commandOf (s.input a) = some f → s.dev.freeSlot = some k →
      used (f (s.dev.multiUdpBuff k)) = false) :
    usage used s'.dev.multiUdpBuff = 0 := by
  have hd := device_step hs
  have hledger := step_usage hused hc hd
  have hqueued : s.dev.queued used (s.input a) = 0 := by
    unfold Device.queued
    split
    · rename_i f k hf hk
      rw [hnew f k hf hk]
      rfl
    · rfl
  dsimp only at hledger
  omega

theorem absent_iff {used : MultiUdpBuff1 → Bool} {t : Fin udpSendMax → MultiUdpBuff1} :
    usage used t = 0 ↔ ¬∃ i, used (t i) = true := by
  rw [← usage_pos]
  omega

theorem rings_valid {m : MultiUdpBuff1} (h : m.rings sock = true) : m.isValid = true := by
  simp only [MultiUdpBuff1.rings, MultiUdpBuff1.awaits, Bool.and_eq_true] at h
  exact h.1.1.1.1.1

theorem asks_valid {m : MultiUdpBuff1} (h : m.asks = true) : m.isValid = true := by
  simp only [MultiUdpBuff1.asks, Bool.and_eq_true] at h
  exact h.1.1.1

/-! Calls. -/

structure Unrung (s : System) : Prop where
  status : s.dev.status = .null
  table : usage (MultiUdpBuff1.rings s.dev.videoSocket) s.dev.multiUdpBuff = 0

theorem unrung_step (h : Unrung s) (ha : a.isStartCall = false) (hs : s.step a = some (s', evs)) :
    Unrung s' := by
  have hc : s.dev.caller := Or.inl h.status
  have hd := device_step hs
  have hsock : s'.dev.videoSocket = s.dev.videoSocket :=
    congrArg (fun x => x.2.2.1) (step_fixed hc hd)
  refine ⟨?_, ?_⟩
  · have hstatus := (step_callEffect hc hd).status
    have hexp := cause_explains s.dev (s.input a)
    dsimp only at hstatus
    rw [hstatus]
    generalize s.dev.cause (s.input a) = c at hexp ⊢
    cases c with
    | answer =>
      obtain ⟨buff, sendB, src, -, -, hp⟩ := hexp
      exact absurd (first_isSome.mp hp) (absent_iff.mp h.table)
    | start =>
      obtain ⟨buff, sendB, src, -, hcalling, -⟩ := hexp
      rw [h.status] at hcalling
      simp at hcalling
    | busy | resolve | hangUp | expire => rfl
    | stray | lapse | other => exact h.status
  · rw [hsock]
    refine absent_step (fun m hm => rings_valid hm) hc h.table hs fun f k hf hk => ?_
    have hne : ¬callEnd = call ∧ ¬sendMessage = videoTalk ∧ ¬nsOrder = videoTalk := by decide
    obtain ⟨-, h8 | h8⟩ | h6 | ⟨h6, -⟩ := commandOf_kind hf hd hk
    · simp [MultiUdpBuff1.rings, MultiUdpBuff1.awaits, h8, hne.1]
    · rw [ha] at h8
      exact absurd h8 (by decide)
    · simp [MultiUdpBuff1.rings, MultiUdpBuff1.awaits, isTalk, h6, hne.2.1]
    · simp [MultiUdpBuff1.rings, MultiUdpBuff1.awaits, isTalk, h6, hne.2.2]

theorem answer_task (buff : Buf) :
    videoTask (receive buff (samplePacket ask callAnswer sampleHost))
      (received (samplePacket ask callAnswer sampleHost)).length = some .callAnswer ∧
      receive buff (samplePacket ask callAnswer sampleHost) 7 = ask := by
  have hb {k : Nat} {v : UInt8} (hv : (samplePacket ask callAnswer sampleHost)[k]? = some v) :
      receive buff (samplePacket ask callAnswer sampleHost) k = v := receive_byte buff (by decide) hv
  have hpackage : isPackage (receive buff (samplePacket ask callAnswer sampleHost)) := fun i =>
    hb (by revert i; decide)
  refine ⟨?_, hb (by decide)⟩
  rw [videoTask, if_pos hpackage, hb (v := videoTalk) (by decide), hb (v := ask) (by decide),
    hb (v := callAnswer) (by decide)]
  decide

theorem rung_answered (hv : s.videoRcv = true) (hp : s.dev.pendingCall.isSome) :
    ∃ s' evs, s.step (sampleRecv ask callAnswer sampleHost) = some (s', evs) ∧
      s'.dev.status = .calling := by
  obtain ⟨i, hi⟩ := Option.isSome_iff_exists.mp hp
  obtain ⟨htask, h7⟩ := answer_task s.videoBuff
  refine ⟨_, _, step_recvVideo hv, ?_⟩
  dsimp only
  rw [udpVideoRcv, htask]
  dsimp only [runVideoTask]
  rw [callAnswer_released h7 hi]
  rfl

/-- A session that places no call gets into one just when the session before left a CALL out on a
socket of the same number. -/
theorem call_revived_iff (s : System) (b : Boot) (hb : b.videoSocket ≠ s.dev.arpSocket) :
    (∃ ts u, Run System.step (s.restart b) ts u ∧ (∀ t ∈ ts, t.act.isStartCall = false) ∧
      u.dev.status ≠ .null) ↔
    ∃ i, (s.dev.multiUdpBuff i).rings b.videoSocket = true := by
  have hleft : (∃ i, (s.dev.multiUdpBuff i).rings b.videoSocket = true) ↔
      (s.restart b).dev.pendingCall.isSome := by
    rw [Device.pendingCall, first_isSome, restart_videoSocket]
    exact exists_congr fun i => by rw [← restart_rings hb i, MultiUdpBuff1.rings]
  rw [hleft]
  constructor
  · rintro ⟨ts, u, hrun, hno, hu⟩
    by_contra hp
    have hstart : Unrung (s.restart b) :=
      ⟨restart_status s b, absent_iff.mpr fun h => hp (first_isSome.mpr h)⟩
    have hend : (∀ t ∈ ts, t.act.isStartCall = false) → Unrung u := by
      refine hrun.history (I := fun (ts : List Step) u =>
        (∀ t ∈ ts, t.act.isStartCall = false) → Unrung u) (fun _ => hstart) ?_
      intro ts v a w o _ ih hs hall
      exact unrung_step (ih fun t ht => hall t (List.mem_append_left _ ht))
        (hall ⟨v, a, w, o⟩ (by simp)) hs
    exact hu (hend hno).status
  · intro hp
    obtain ⟨u, evs, hs, hu⟩ := rung_answered (s := s.restart b) rfl hp
    exact ⟨_, u, Run.start.step hs, by simp [sampleRecv, Action.isStartCall], by simp [hu]⟩

def unanswered : Execution sampleBoot :=
  execute sampleBoot [sampleCall sampleHost, .tick fun _ => 0] (by decide +kernel)

theorem unanswered_revived : sampleBoot.videoSocket ≠ unanswered.final.dev.arpSocket ∧
    ∃ ts u, Run System.step (unanswered.final.restart sampleBoot) ts u ∧
      (∀ t ∈ ts, t.act.isStartCall = false) ∧ u.dev.status ≠ .null := by
  have hb : sampleBoot.videoSocket ≠ unanswered.final.dev.arpSocket := by decide +kernel
  have hleft : ∃ i, (unanswered.final.dev.multiUdpBuff i).rings sampleBoot.videoSocket = true :=
    ⟨⟨1, by decide⟩, by decide +kernel⟩
  exact ⟨hb, (call_revived_iff unanswered.final sampleBoot hb).mpr hleft⟩

/-! Names. -/

/-- With no query out, no name is told and none is asked for. -/
theorem unasked_step (hc : s.dev.caller) (h : usage MultiUdpBuff1.asks s.dev.multiUdpBuff = 0)
    (ha : a.isFindIp = false) (hs : s.step a = some (s', evs)) :
    usage MultiUdpBuff1.asks s'.dev.multiUdpBuff = 0 ∧
      ∀ addr ip f, .devip addr ip f ∉ evs := by
  have hd := device_step hs
  have hne : ¬videoTalk = nsOrder ∧ ¬sendMessage = nsOrder := by decide
  refine ⟨absent_step (fun m hm => asks_valid hm) hc h hs fun f k hf hk => ?_, fun addr ip f hm => ?_⟩
  · obtain ⟨h6, -⟩ | h6 | ⟨-, hseek⟩ := commandOf_kind hf hd hk
    · simp [MultiUdpBuff1.asks, h6, hne.1]
    · simp [MultiUdpBuff1.asks, h6, hne.2]
    · rw [ha] at hseek
      exact absurd hseek (by decide)
  · have hexp := cause_explains s.dev (s.input a)
    rw [devip_resolves (step_tells hc hd) hm] at hexp
    obtain ⟨buff, sendB, src, -, i, hq, -⟩ := hexp
    refine absent_iff.mp h ⟨i, ?_⟩
    rw [isQuery_eq, Bool.and_eq_true] at hq
    exact hq.1

def replyFront : List UInt8 := udpPackageHead ++ [nsOrder, reply] ++ List.replicate 24 0 ++ [1]

def replyTo (m : MultiUdpBuff1) : List UInt8 :=
  replyFront ++ (slice m.buf 32 20 ++ List.replicate 4 0)

theorem replyTo_task (buff : Buf) (m : MultiUdpBuff1) :
    videoTask (receive buff (replyTo m)) (received (replyTo m)).length = some .nsReply := by
  have hlen : (replyTo m).length = 57 := rfl
  have hb {k : Nat} {v : UInt8} (hv : replyFront[k]? = some v) : receive buff (replyTo m) k = v := by
    refine receive_byte buff (by rw [hlen]; decide) ?_
    rw [replyTo, List.getElem?_append_left (List.getElem?_eq_some_iff.mp hv).1]
    exact hv
  have hpackage : isPackage (receive buff (replyTo m)) := fun i => hb (by revert i; decide)
  have hrec : (received (replyTo m)).length = 57 := rfl
  rw [videoTask, if_pos hpackage, hb (v := nsOrder) (by decide), hb (v := reply) (by decide), hrec]
  rfl

theorem replyTo_answers (buff : Buf) {m : MultiUdpBuff1} (h : m.asks = true) :
    0 < receive buff (replyTo m) 32 ∧ answers (receive buff (replyTo m)) m = true := by
  have hlen : (replyTo m).length ≤ 8095 := by
    have h57 : (replyTo m).length = 57 := rfl
    omega
  have hflag : receive buff (replyTo m) 32 = 1 := receive_byte buff hlen rfl
  have haddr (k : Nat) (hk : k < 20) : receive buff (replyTo m) (33 + k) = m.buf (32 + k) := by
    have hfront : replyFront.length = 33 := rfl
    refine receive_byte buff hlen ?_
    rw [replyTo, List.getElem?_append_right (by omega), hfront, Nat.add_sub_cancel_left,
      List.getElem?_append_left (by rwa [length_slice]), getElem?_slice, if_pos hk]
  refine ⟨by rw [hflag]; decide, ?_⟩
  rw [answers, h, Bool.true_and, decide_eq_true_eq, sameAddress]
  split
  · exact slice_eq_iff.mpr fun k hk => by
      have hbyte := haddr (k + 1) (by omega)
      rw [Nat.add_comm k, ← Nat.add_assoc, ← Nat.add_assoc] at hbyte
      exact hbyte.symm
  · split
    · exact slice_eq_iff.mpr fun k hk => (haddr k (by omega)).symm
    · exact slice_eq_iff.mpr fun k hk => (haddr k (by omega)).symm

theorem asked_told (hv : s.videoRcv = true) {i : Fin udpSendMax}
    (h : (s.dev.multiUdpBuff i).asks = true) :
    ∃ s' evs addr ip f, s.step (.recvVideo sampleHost (replyTo (s.dev.multiUdpBuff i)) fun _ => 0) =
      some (s', evs) ∧ .devip addr ip f ∈ evs := by
  obtain ⟨hpos, hans⟩ := replyTo_answers s.videoBuff h
  have hasks := (asksFor_iff hpos).mpr ⟨i, hans⟩
  obtain ⟨addr, ip, he⟩ := (nsReply_spec (receive s.videoBuff (replyTo (s.dev.multiUdpBuff i)))).1 hasks
  refine ⟨_, _, addr, ip, 0, step_recvVideo hv, ?_⟩
  rw [udpVideoRcv, replyTo_task]
  dsimp only [runVideoTask]
  rw [he]
  simp

/-- A session that looks for nobody is told of somebody just when the session before left a query
out, or the free-ARP command has come to stand in the slot of one that was answered. -/
theorem name_revived_iff (s : System) (b : Boot) :
    (∃ ts u, Run System.step (s.restart b) ts u ∧ (∀ t ∈ ts, t.act.isFindIp = false) ∧
      ∃ t ∈ ts, ∃ addr ip f, .devip addr ip f ∈ t.out) ↔
    (∃ i, (s.dev.multiUdpBuff i).asks = true) ∨
      ∃ k, s.dev.freeSlot = some k ∧ (s.dev.multiUdpBuff k).looksAsking := by
  rw [← exists_or]
  simp only [← restart_asks (s := s) (b := b)]
  have hstart : (s.restart b).dev.caller := Or.inl (restart_status s b)
  constructor
  · rintro ⟨ts, u, hrun, hno, t, ht, addr, ip, f, hm⟩
    by_contra hq
    have hend : (∀ t ∈ ts, t.act.isFindIp = false) →
        (u.dev.caller ∧ usage MultiUdpBuff1.asks u.dev.multiUdpBuff = 0) ∧
          ∀ t ∈ ts, ∀ addr ip f, .devip addr ip f ∉ t.out := by
      refine hrun.history (I := fun (ts : List Step) u => (∀ t ∈ ts, t.act.isFindIp = false) →
        (u.dev.caller ∧ usage MultiUdpBuff1.asks u.dev.multiUdpBuff = 0) ∧
          ∀ t ∈ ts, ∀ addr ip f, .devip addr ip f ∉ t.out)
        (fun _ => ⟨⟨hstart, absent_iff.mpr hq⟩, by simp⟩) ?_
      intro ts v a w o _ ih hs hall
      obtain ⟨⟨hc, hz⟩, hquiet⟩ := ih fun t ht => hall t (List.mem_append_left _ ht)
      obtain ⟨hz', hnew⟩ := unasked_step hc hz (hall ⟨v, a, w, o⟩ (by simp)) hs
      refine ⟨⟨caller_step v a w o hc hs, hz'⟩, fun t ht => ?_⟩
      obtain ht | ht := List.mem_append.mp ht
      · exact hquiet t ht
      · rw [List.mem_singleton.mp ht]
        exact hnew
    exact (hend hno).2 t ht addr ip f hm
  · rintro ⟨i, hi⟩
    obtain ⟨u, evs, addr, ip, f, hs, hm⟩ := asked_told (s := s.restart b) rfl hi
    exact ⟨_, u, Run.start.step hs, by simp [Action.isFindIp], _, List.mem_singleton_self _, addr, ip,
      f, hm⟩

end QsaTalk
