import QsaTalk.Peer

/-! The end of a call: when the application and the far end both learn of it, and when the Status
an application mirrors from the callbacks is the device's own. -/
namespace QsaTalk
open ByteBuffer SlotTable Function Runs
variable {d : Device} {r : Outcome}

/-! Datagrams that end a call. -/

def IsCallEnd (bytes : List UInt8) (kind : UInt8) : Prop :=
  (bytes[6]? = some videoTalk ∨ bytes[6]? = some videoTalkTrans) ∧ bytes[7]? = some kind ∧
    bytes[8]? = some callEnd

theorem input_callEnd {s : System} {a : Action} {buff sendB : Buf} {src : IP4}
    (h : s.input a = .video .callEnd buff sendB src) :
    (buff 6 = videoTalk ∨ buff 6 = videoTalkTrans) ∧ buff 8 = callEnd := by
  cases a with
  | recvVideo src' dgram sendB' =>
    simp only [System.input] at h
    split at h
    · split at h
      · simp at h
      · rename_i t ht
        obtain ⟨rfl, rfl, -, -⟩ := Input.video.inj h
        obtain ⟨-, -, ho, -, he⟩ := videoTask_spec ht
        exact ⟨(ho.resolve_left (by simp)).2, he rfl⟩
    · simp at h
  | recvData src' dgram =>
    simp only [System.input] at h
    split at h <;> simp at h
  | _ => simp [System.input] at h

/-- The reply to a CALLEND is a CALLEND. -/
theorem echo_callEnd {buff : Buf} (sendB : Buf) (src : IP4)
    (h6 : buff 6 = videoTalk ∨ buff 6 = videoTalkTrans) (h8 : buff 8 = callEnd) :
    ∃ g, echo d buff sendB (dotted src) 57 = .send g ∧ g.dest = src ∧ IsCallEnd g.bytes reply := by
  have hcopy (k : Nat) (hk : k < 57) : blit sendB 0 (slice buff 0 57) k = buff k := by
    have h := blit_add sendB 0 (slice buff 0 57) (k := k) (by rw [length_slice]; exact hk)
    rw [Nat.zero_add] at h
    rw [h, getElem_slice, Nat.zero_add]
  have hbyte (k : Nat) (hk : k < 57) (h7 : k ≠ 7) :
      (slice (put (blit sendB 0 (slice buff 0 57)) 7 reply) 0 57)[k]? = some (buff k) := by
    rw [getElem?_slice, if_pos hk, Nat.zero_add, put_ne _ _ h7, hcopy k hk]
  refine ⟨_, rfl, inetAddr_dotted src, ?_, ?_, ?_⟩
  · rw [hbyte 6 (by decide) (by decide)]
    exact h6.imp (congrArg some) (congrArg some)
  · rw [getElem?_slice, if_pos (by decide), Nat.zero_add, put_self]
  · rw [hbyte 8 (by decide) (by decide), h8]

theorem stopTalk_sends {g : Datagram} (hn : d.status ≠ .null) : g ∈ sends (stopTalk d).2 ↔
    ∃ k, d.freeSlot = some k ∧ (callEndSlot d (d.multiUdpBuff k)).transmit = .send g := by
  cases hf : d.freeSlot with
  | none => simp [stopTalk_full hn hf, Event.sent]
  | some k =>
    simp [stopTalk_queued hn hf, Event.sent, MultiUdpBuff1.transmit, udpSendBuff, eq_comm]

theorem callEndSlot_sends (m : MultiUdpBuff1) : ∃ g, (callEndSlot d m).transmit = .send g ∧
    g.dest = d.remoteInfo.ip 0 ∧ IsCallEnd g.bytes ask := by
  have hbyte (k : Nat) (hk : k < 57) : (slice (callEndSlot d m).buf 0 57)[k]? =
      some ((callEndSlot d m).buf k) := by
    rw [getElem?_slice, if_pos hk, Nat.zero_add]
  refine ⟨_, rfl, inetAddr_dotted _, Or.inl ?_, ?_, ?_⟩
  · exact (hbyte 6 (by decide)).trans rfl
  · exact (hbyte 7 (by decide)).trans rfl
  · exact (hbyte 8 (by decide)).trans rfl

/-! One step. -/

/-- One callback says NULL, and the host whose answer opened the call is sent a CALLEND or the
reply to its own, or has replied to ours. -/
structure OpenTeardown (us : List Step) (t : Step) : Prop where
  once : ((currOpts t.out).map Prod.snd).count .null = 1
  told : (∃ g ∈ sends t.out, g.dest = callee us ∧
      (IsCallEnd g.bytes ask ∨ IsCallEnd g.bytes reply)) ∨
    ∃ buff sendB src, inputOf t = .video .callEnd buff sendB src ∧ buff 7 = reply ∧
      src = callee us

/-- With a call up: a name reply for a pending query, a LINEUSE for a pending CALL while `DenNum`
is 1, a CALLEND that counts but is not from the host that answered, or a timer round that ends the
call with no slot free or with `IP[0]` turned to another host. -/
def DropsCall (us : List Step) (s : System) (a : Action) : Prop :=
  s.dev.active ∧
    match s.input a with
    | .video .nsReply buff _ _ => s.dev.asksFor buff
    | .video .lineUse buff _ _ =>
      buff 7 = ask ∧ s.dev.pendingCall.isSome ∧ s.dev.remoteInfo.denNum = 1
    | .video .callEnd buff _ src =>
      (buff 7 = ask ∨ (buff 7 = reply ∧ s.dev.pendingCallEnd.isSome)) ∧ src ≠ callee us
    | .tick _ => s.dev.expires ∧ (s.dev.freeSlot = none ∨ s.dev.remoteInfo.ip 0 ≠ callee us)
    | _ => False

theorem reply_ne_ask : ¬reply = ask := by decide

theorem openTeardown_asked {us : List Step} {t : Step} {buff sendB : Buf} {src : IP4}
    (ha : t.pre.dev.active) (hd : t.pre.dev.step (inputOf t) = some (t.post.dev, t.out))
    (hi : inputOf t = .video .callEnd buff sendB src) (h7 : buff 7 = ask) :
    OpenTeardown us t ↔ src = callee us := by
  obtain ⟨h6, h8⟩ := input_callEnd hi
  obtain ⟨g, hg, hdest, hbytes⟩ := echo_callEnd (d := t.pre.dev) sendB src h6 h8
  rw [hi, Device.step, runVideoTask, callEnd_ask ha h7] at hd
  have hout := congrArg Prod.snd (Option.some.inj hd)
  dsimp only at hout
  rw [hg] at hout
  constructor
  · rintro ⟨-, ⟨g', hg', hpeer, -⟩ | ⟨b, _, _, hb, hr, -⟩⟩
    · rw [← hout] at hg'
      simp only [sends_cons, Event.sent, Option.toList, sends_nil, List.append_nil,
        List.mem_singleton] at hg'
      exact hdest.symm.trans (hg' ▸ hpeer)
    · obtain ⟨-, rfl, -⟩ := Input.video.inj (hi.symm.trans hb)
      exact absurd (hr.symm.trans h7) reply_ne_ask
  · intro hpeer
    refine ⟨by rw [← hout]; rfl, Or.inl ⟨g, ?_, hdest.trans hpeer, Or.inr hbytes⟩⟩
    rw [← hout]
    simp [Event.sent]

theorem openTeardown_replied {us : List Step} {t : Step} {buff sendB : Buf} {src : IP4}
    (ha : t.pre.dev.active) (hd : t.pre.dev.step (inputOf t) = some (t.post.dev, t.out))
    (hi : inputOf t = .video .callEnd buff sendB src) (h7 : buff 7 = reply)
    (hp : t.pre.dev.pendingCallEnd.isSome) : OpenTeardown us t ↔ src = callee us := by
  obtain ⟨k, hk⟩ := Option.isSome_iff_exists.mp hp
  rw [hi, Device.step, runVideoTask, callEnd_reply ha h7 hk] at hd
  have hout := congrArg Prod.snd (Option.some.inj hd)
  dsimp only at hout
  constructor
  · rintro ⟨-, ⟨g, hg, -⟩ | ⟨_, _, _, hb, -, hpeer⟩⟩
    · rw [← hout] at hg
      simp [Event.sent] at hg
    · obtain ⟨-, -, -, rfl⟩ := Input.video.inj (hi.symm.trans hb)
      exact hpeer
  · intro hpeer
    exact ⟨by rw [← hout]; rfl, Or.inr ⟨buff, sendB, src, hi, h7, hpeer⟩⟩

/-- A CALLEND that counts is an open end just when it comes from the host that answered. -/
theorem openTeardown_hangUp {us : List Step} {t : Step} {buff sendB : Buf} {src : IP4}
    (ha : t.pre.dev.active) (hd : t.pre.dev.step (inputOf t) = some (t.post.dev, t.out))
    (hi : inputOf t = .video .callEnd buff sendB src)
    (hend : buff 7 = ask ∨ (buff 7 = reply ∧ t.pre.dev.pendingCallEnd.isSome)) :
    OpenTeardown us t ↔ src = callee us := by
  obtain h7 | ⟨h7, hp⟩ := hend
  · exact openTeardown_asked ha hd hi h7
  · exact openTeardown_replied ha hd hi h7 hp

theorem openTeardown_expire {us : List Step} {t : Step} {sendB : Buf} (hx : t.pre.dev.expires)
    (hd : t.pre.dev.step (inputOf t) = some (t.post.dev, t.out))
    (hi : inputOf t = .tick sendB) : OpenTeardown us t ↔
      t.pre.dev.freeSlot ≠ none ∧ t.pre.dev.remoteInfo.ip 0 = callee us := by
  rw [hi] at hd
  obtain ⟨v, l, -, -, he⟩ := tick_expire sendB hx.1 hx.2.1 hx.2.2
  rw [Device.step, he] at hd
  have hout := congrArg Prod.snd (Option.some.inj hd)
  dsimp only at hout
  have hsends : sends t.out = sends (stopTalk t.pre.dev).2 := by
    rw [← hout]
    simp [Event.sent]
  have hn := active_ne_null hx.2.1
  constructor
  · rintro ⟨-, ⟨g, hg, hpeer, -⟩ | ⟨b, _, _, hb, -⟩⟩
    · rw [hsends] at hg
      obtain ⟨k, hk, -⟩ := (stopTalk_sends hn).mp hg
      exact ⟨by simp [hk], (stopTalk_dest g hg).symm.trans hpeer⟩
    · simp [hi] at hb
  · rintro ⟨hf, hip⟩
    obtain ⟨k, hk⟩ := Option.ne_none_iff_exists'.mp hf
    obtain ⟨g, hg, hdest, hbytes⟩ := callEndSlot_sends (d := t.pre.dev) (t.pre.dev.multiUdpBuff k)
    refine ⟨?_, Or.inl ⟨g, ?_, hdest.trans hip, Or.inl hbytes⟩⟩
    · rw [← hout]
      simp [stopTalk_currOpts, Event.opt]
    · rw [hsends, stopTalk_sends hn]
      exact ⟨k, hk, hg⟩

theorem not_openTeardown_busy {us : List Step} {t : Step} {buff sendB : Buf} {src : IP4}
    (hd : t.pre.dev.step (inputOf t) = some (t.post.dev, t.out))
    (hi : inputOf t = .video .lineUse buff sendB src) (h7 : buff 7 = ask)
    (hp : t.pre.dev.pendingCall.isSome) (hn : t.pre.dev.remoteInfo.denNum = 1) :
    ¬OpenTeardown us t := by
  obtain ⟨k, hk⟩ := Option.isSome_iff_exists.mp hp
  rw [hi, Device.step, runVideoTask, lineUse_released h7 hk, if_pos hn] at hd
  have hout := congrArg Prod.snd (Option.some.inj hd)
  dsimp only at hout
  rintro ⟨-, ⟨g, hg, -⟩ | ⟨b, _, _, hb, -⟩⟩
  · rw [← hout] at hg
    simp [Event.sent] at hg
  · exact absurd (Input.video.inj (hi.symm.trans hb)).1 (by decide)

theorem not_openTeardown_unreported {us : List Step} {t : Step} (h : currOpts t.out = []) :
    ¬OpenTeardown us t := by
  intro hop
  have honce := hop.once
  simp [h] at honce

/-- Only a step that ends a call drops one. -/
theorem dropsCall_ends {us : List Step} {t : Step} (h : DropsCall us t.pre t.act) :
    causeOf t = .resolve ∨ causeOf t = .busy ∨ causeOf t = .hangUp ∨ causeOf t = .expire := by
  obtain ⟨ha, hx⟩ := h
  split at hx
  · exact Or.inl ((cause_iff (by decide) (by decide)).mpr ⟨_, _, _, ‹_›, hx⟩)
  · exact Or.inr (Or.inl ((cause_iff (by decide) (by decide)).mpr ⟨_, _, _, ‹_›, hx⟩))
  · exact Or.inr (Or.inr (Or.inl ((cause_iff (by decide) (by decide)).mpr
      ⟨ha, _, _, _, ‹_›, hx.1⟩)))
  · exact Or.inr (Or.inr (Or.inr ((cause_iff (by decide) (by decide)).mpr ⟨hx.1, _, ‹_›⟩)))
  · exact hx.elim

/-- A step out of a call that ends it does so openly exactly when it does not drop it. -/
theorem openTeardown_iff {us : List Step} {t : Step} (hc : t.pre.dev.caller)
    (ht : t.pre.step t.act = some (t.post, t.out)) :
    (t.pre.dev.active → t.post.dev.status = .null → OpenTeardown us t) ↔
      ¬DropsCall us t.pre t.act := by
  have hd : t.pre.dev.step (inputOf t) = some (t.post.dev, t.out) := device_step ht
  by_cases ha : t.pre.dev.active
  swap
  · exact iff_of_true (fun h => absurd h ha) fun h => ha h.1
  obtain ⟨hs, -, hrep⟩ := step_callEffect hc hd
  have hs' : t.post.dev.status = t.pre.dev.status.after (causeOf t) := hs
  have hrep' : Reports t.pre.dev.status (currOpts t.out) (causeOf t) := hrep
  have hexp : Explains t.pre.dev (t.pre.input t.act) (causeOf t) := cause_explains _ _
  have hends (hnull : t.post.dev.status = .null) :
      (t.pre.dev.active → t.post.dev.status = .null → OpenTeardown us t) ↔ OpenTeardown us t :=
    ⟨fun h => h ha hnull, fun h _ _ => h⟩
  have hstays (hne : t.post.dev.status ≠ .null) (hno : ¬(causeOf t = .resolve ∨
      causeOf t = .busy ∨ causeOf t = .hangUp ∨ causeOf t = .expire)) :
      (t.pre.dev.active → t.post.dev.status = .null → OpenTeardown us t) ↔
        ¬DropsCall us t.pre t.act :=
    iff_of_true (fun _ hnull => absurd hnull hne) (mt dropsCall_ends hno)
  cases hcause : causeOf t with
  | answer | start =>
    exact hstays (by simp [hs', hcause, CallStatus.after]) (by simp [hcause])
  | stray | other =>
    exact hstays (by rw [hs', hcause]; exact active_ne_null ha) (by simp [hcause])
  | lapse =>
    rw [hcause] at hexp
    exact absurd ha hexp
  | resolve =>
    rw [hcause] at hs' hrep' hexp
    obtain ⟨buff, sendB, src, hi, hq⟩ := hexp
    rw [hends hs', DropsCall, hi]
    exact iff_of_false (not_openTeardown_unreported hrep') fun h => h ⟨ha, hq⟩
  | busy =>
    rw [hcause] at hs' hexp
    obtain ⟨buff, sendB, src, hi, hb⟩ := hexp
    rw [hends hs', DropsCall, hi]
    exact iff_of_false (not_openTeardown_busy hd hi hb.1 hb.2.1 hb.2.2) fun h => h ⟨ha, hb⟩
  | hangUp =>
    rw [hcause] at hs' hexp
    obtain ⟨-, buff, sendB, src, hi, hend⟩ := hexp
    rw [hends hs', DropsCall, hi, openTeardown_hangUp ha hd hi hend]
    simp [ha, hend]
  | expire =>
    rw [hcause] at hs' hexp
    obtain ⟨hx, sendB, hi⟩ := hexp
    rw [hends hs', DropsCall, hi, openTeardown_expire hx hd hi]
    simp [ha, hx, not_or]

/-! Runs. -/

def mirror (ts : List Step) : CallStatus :=
  ts.foldl (fun m t => (currOpts t.out).foldl (fun _ p => p.2) m) .null

theorem mirror_snoc (ts : List Step) (t : Step) :
    mirror (ts ++ [t]) = (currOpts t.out).foldl (fun _ p => p.2) (mirror ts) := by
  simp [mirror]

theorem told_nothing_new {l : List (CbOpt × CallStatus)} {a : CallStatus}
    (h : ∀ p ∈ l, p.2 = a) : l.foldl (fun _ p => p.2) a = a := by
  induction l with
  | nil => rfl
  | cons p l ih =>
    rw [List.foldl_cons, h p (by simp)]
    exact ih fun q hq => h q (by simp [hq])

/-- A mirror that agrees goes on agreeing unless a name reply ends a call. -/
theorem mirror_step_iff {ts : List Step} {t : Step} (hc : t.pre.dev.caller)
    (ht : t.pre.step t.act = some (t.post, t.out)) (hm : mirror ts = t.pre.dev.status) :
    mirror (ts ++ [t]) = t.post.dev.status ↔ ¬(t.pre.dev.active ∧ causeOf t = .resolve) := by
  have hd : t.pre.dev.step (inputOf t) = some (t.post.dev, t.out) := device_step ht
  obtain ⟨hs, -, hrep⟩ := step_callEffect hc hd
  have hs' : t.post.dev.status = t.pre.dev.status.after (causeOf t) := hs
  have hrep' : Reports t.pre.dev.status (currOpts t.out) (causeOf t) := hrep
  rw [mirror_snoc, hs', hm]
  cases hcause : causeOf t with
  | answer | start | busy | hangUp =>
    rw [hcause] at hrep'
    have hopts : currOpts t.out = _ := hrep'
    simp [hopts, CallStatus.after]
  | expire =>
    rw [hcause] at hrep'
    obtain ⟨v, hv⟩ := hrep'
    simp [hv, CallStatus.after]
  | resolve =>
    rw [hcause] at hrep'
    have hopts : currOpts t.out = [] := hrep'
    simp only [hopts, List.foldl_nil, CallStatus.after, and_true]
    exact ⟨fun h ha => active_ne_null ha h, fun h => caller_not_active hc h⟩
  | stray | lapse | other =>
    rw [hcause] at hrep'
    simp [told_nothing_new hrep', CallStatus.after]

/-- Every call of a run ends openly and the mirrored Status is right throughout, exactly when no
step drops a call. -/
theorem calls_end_openly_iff {b : Boot} (e : Execution b) :
    ((∀ us t, us ++ [t] <+: e.steps →
        t.pre.dev.active → t.post.dev.status = .null → OpenTeardown us t) ∧
      ∀ us u, us <+: e.steps → RunFrom b us u → mirror us = u.dev.status) ↔
    ∀ us t, us ++ [t] <+: e.steps → ¬DropsCall us t.pre t.act := by
  have htaken (us : List Step) (t : Step) (hp : us ++ [t] <+: e.steps) :
      RunFrom b us t.pre ∧ t.pre.step t.act = some (t.post, t.out) := by
    obtain ⟨u, hu⟩ := e.run.prefix hp
    exact ⟨hu.last.1, hu.last.2.1⟩
  have hopen : (∀ us t, us ++ [t] <+: e.steps →
        t.pre.dev.active → t.post.dev.status = .null → OpenTeardown us t) ↔
      ∀ us t, us ++ [t] <+: e.steps → ¬DropsCall us t.pre t.act :=
    forall₃_congr fun us t hp =>
      openTeardown_iff (run_caller (htaken us t hp).1) (htaken us t hp).2
  rw [hopen]
  refine and_iff_left_of_imp fun hno => ?_
  have hmirror := e.run.exact (J := fun s => s.dev.caller)
    (I := fun us s => mirror us = s.dev.status)
    (C := fun _ s a => ¬(s.dev.active ∧ s.dev.cause (s.input a) = .resolve))
    (caller_init b) caller_step (init_status b).symm
    fun _ s a s' o _ hc hm hs => mirror_step_iff (t := ⟨s, a, s', o⟩) hc hs hm
  refine hmirror.mpr fun us t hp => ?_
  rintro ⟨ha, hcause⟩
  obtain ⟨buff, sendB, src, hi, hq⟩ := (cause_iff (by decide) (by decide)).mp hcause
  refine hno us t hp ⟨ha, ?_⟩
  rw [hi]
  exact hq

/-- A name is looked up, the host is called directly and answers, and then the name reply comes. -/
def lateReplyPacket : List UInt8 :=
  udpPackageHead ++ [nsOrder, 2] ++ List.replicate 24 0 ++ [1, 83] ++ List.replicate 6 0 ++
    List.replicate 4 0x30 ++ List.replicate 9 0 ++ sampleHost.bytes

def lateReplyActions : List Action :=
  [.findIp (some fun _ => 0x30) 0, sampleCall sampleHost, sampleRecv ask callAnswer sampleHost,
    .recvVideo sampleHost lateReplyPacket fun _ => 0]

def lateReply : Execution sampleBoot := execute sampleBoot lateReplyActions (by decide +kernel)

/-- The reply ends the call; the application is not told and still shows CALLING. -/
theorem call_dropped_silently : lateReply.steps.map Transition.act = lateReplyActions ∧
    ∃ us t, us ++ [t] <+: lateReply.steps ∧ t.pre.dev.active ∧ t.post.dev.status = .null ∧
      currOpts t.out = [] ∧ mirror lateReply.steps = .calling ∧
      lateReply.final.dev.status = .null ∧ ¬OpenTeardown us t := by
  have hbad : lateReply.steps.any (fun t =>
      t.pre.dev.active ∧ t.post.dev.status = .null ∧ currOpts t.out = []) = true := by
    decide +kernel
  obtain ⟨t, ht, h⟩ := List.any_eq_true.mp hbad
  obtain ⟨h1, h2, h3⟩ := of_decide_eq_true h
  obtain ⟨us, vs, hsplit⟩ := List.append_of_mem ht
  refine ⟨execute_acts _, us, t, ⟨vs, ?_⟩, h1, h2, h3, by decide +kernel, by decide +kernel,
    not_openTeardown_unreported h3⟩
  rw [hsplit, List.append_assoc, List.singleton_append]

end QsaTalk
