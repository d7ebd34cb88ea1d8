import QsaTalk.CallMachine
import QsaTalk.Lib.CloseHandshake

/-! Two devices hang up on each other. Each is a system of its own; what one sends to the other's
address travels until it is delivered, in any order. The pair simulates the close handshake. -/
namespace QsaTalk
open ByteBuffer SlotTable Function Runs CloseHandshake

structure Packet where
  dest : Bool
  bytes : List UInt8

structure Net where
  sys : Bool → System
  flight : List Packet

inductive NetAct where
  | stop (x : Bool)
  | deliver (i : Nat) (sendB : Buf)

variable {addr : Bool → IP4}

def routed (addr : Bool → IP4) (x : Bool) (evs : List Event) : List Packet :=
  (sends evs).filterMap fun g =>
    if g.dest = addr (!x) ∧ g.port = localVideoPort then some ⟨!x, g.bytes⟩ else none

/-- Device `x` takes an action; `rest` stays on its way. -/
def Net.act (addr : Bool → IP4) (n : Net) (x : Bool) (a : Action) (rest : List Packet) :
    Option (Net × List Event) :=
  match (n.sys x).step a with
  | none => none
  | some (s, evs) => some (⟨update n.sys x s, rest ++ routed addr x evs⟩, evs)

def Net.step (addr : Bool → IP4) (n : Net) : NetAct → Option (Net × List Event)
  | .stop x => n.act addr x .stopTalk n.flight
  | .deliver i sendB =>
    match n.flight[i]? with
    | none => none
    | some p =>
      n.act addr p.dest (.recvVideo (addr (!p.dest)) p.bytes sendB) (n.flight.eraseIdx i)

/-! CALLEND commands in the table and on the wire. -/

def MultiUdpBuff1.isEnd (m : MultiUdpBuff1) : Bool :=
  m.isValid && isTalkOrTrans (m.buf 6) && m.buf 7 == ask && m.buf 8 == callEnd

def Device.ends (d : Device) : Nat := usage MultiUdpBuff1.isEnd d.multiUdpBuff

def carries (kind : UInt8) (bytes : List UInt8) : Prop :=
  bytes.length = 57 ∧ bytes.take 9 = udpPackageHead ++ [videoTalk, kind, callEnd]

instance (kind : UInt8) (bytes : List UInt8) : Decidable (carries kind bytes) :=
  inferInstanceAs (Decidable (_ ∧ _))

theorem carries_byte {kind : UInt8} {bytes : List UInt8} (h : carries kind bytes) {k : Nat}
    (hk : k < 9) : bytes[k]? = (udpPackageHead ++ [videoTalk, kind, callEnd])[k]? := by
  rw [← h.2, List.getElem?_take, if_pos hk]

theorem carries_inj {kind kind' : UInt8} {bytes : List UInt8} (h : carries kind bytes)
    (h' : carries kind' bytes) : kind = kind' := by
  have h7 := (carries_byte h (k := 7) (by decide)).symm.trans (carries_byte h' (by decide))
  exact Option.some.inj h7

def inFlight (kind : UInt8) (x : Bool) (ps : List Packet) : Nat :=
  ps.countP fun p => p.dest = x ∧ carries kind p.bytes

/-! Receiving one. -/

structure Decoded (kind : UInt8) (b : Buf) : Prop where
  package : isPackage b
  order : b 6 = videoTalk
  kind : b 7 = kind
  sub : b 8 = callEnd

theorem receive_decoded {kind : UInt8} {bytes : List UInt8} (buff : Buf) (h : carries kind bytes) :
    Decoded kind (receive buff bytes) := by
  have hbyte {k : Nat} {v : UInt8} (hk : k < 9)
      (hv : (udpPackageHead ++ [videoTalk, kind, callEnd])[k]? = some v) :
      receive buff bytes k = v :=
    receive_byte buff (by rw [h.1]; decide) ((carries_byte h hk).trans hv)
  refine ⟨fun i => ?_, hbyte (by decide) rfl, hbyte (by decide) rfl, hbyte (by decide) rfl⟩
  refine hbyte (by omega) ?_
  have hi : (i : Nat) < udpPackageHead.length := i.isLt
  rw [List.getElem?_append_left hi]
  exact List.getElem?_eq_getElem hi

theorem Decoded.task {kind : UInt8} {b : Buf} (h : Decoded kind b) :
    videoTask b 57 = some .callEnd := by
  have hne : ¬videoTalk = nsOrder := by decide
  rw [videoTask, if_pos h.package, h.order, if_neg hne, if_pos (Or.inl rfl), h.sub]
  rfl

theorem Decoded.not_exit {kind : UInt8} {b : Buf} (h : Decoded kind b) : isExit b = false := by
  have h0 : b 0 = 81 := h.package 0
  have hne : ((81 : UInt8) == 'e'.toUInt8) = false := by decide
  simp [isExit, h0, hne]

/-- A loop that is running takes the datagram to the CALLEND handler and goes on. -/
theorem step_callEnd {s : System} {kind : UInt8} {bytes : List UInt8} (src : IP4) (sendB : Buf)
    (hr : s.videoRcv = true ∧ s.udpRecvFlag = true) (h : carries kind bytes) :
    ∃ b, Decoded kind b ∧ s.step (.recvVideo src bytes sendB) =
      some ({ s with
        dev := (recvTalkCallEndTask b sendB (dotted src) s.dev).1
        videoBuff := b },
        (recvTalkCallEndTask b sendB (dotted src) s.dev).2) := by
  have hdec := receive_decoded s.videoBuff h
  have hlen : (received bytes).length = 57 := by
    rw [received, List.length_take, h.1]
    rfl
  refine ⟨receive s.videoBuff bytes, hdec, ?_⟩
  have hflag : (s.udpRecvFlag && !isExit (receive s.videoBuff bytes)) = true := by
    simp [hr.2, hdec.not_exit]
  rw [step_recvVideo hr.1, hflag, udpVideoRcv, hlen, hdec.task]
  obtain ⟨dev, vb, db, uf, vr, dr⟩ := s
  obtain ⟨rfl, rfl⟩ : vr = true ∧ uf = true := hr
  rfl

/-! One device against its party of the handshake. -/

/-- System `s` of device `x` plays a party that is open if `o` and has `n` requests on record. -/
structure Follows (addr : Bool → IP4) (x : Bool) (s : System) (o : Bool) (n : Nat) : Prop where
  isOpen : o = true ↔ s.dev.active
  caller : s.dev.caller
  ends : s.dev.ends = n
  found : ∀ k, (s.dev.multiUdpBuff k).isEnd = true →
    (s.dev.multiUdpBuff k).awaits s.dev.videoSocket isTalkOrTrans callEnd = true
  peer : s.dev.remoteInfo.ip 0 = addr (!x)
  receiving : s.videoRcv = true ∧ s.udpRecvFlag = true

variable {x o : Bool} {n : Nat} {s : System}

theorem Follows.closed (h : Follows addr x s o n) (ho : o = false) : s.dev.status = .null :=
  caller_not_active h.caller fun ha => by simp [h.isOpen.mpr ha] at ho

theorem awaits_isEnd {sock : Int} {m : MultiUdpBuff1}
    (h : m.awaits sock isTalkOrTrans callEnd = true) : m.isEnd = true := by
  simp only [MultiUdpBuff1.awaits, MultiUdpBuff1.isEnd, Bool.and_eq_true] at h ⊢
  obtain ⟨⟨⟨⟨⟨hv, -⟩, -⟩, h6⟩, h7⟩, h8⟩ := h
  exact ⟨⟨⟨hv, h6⟩, h7⟩, h8⟩

theorem Follows.pending_iff (h : Follows addr x s o n) :
    s.dev.pendingCallEnd.isSome ↔ 0 < n := by
  rw [← h.ends, Device.ends, usage_pos, Device.pendingCallEnd, first_isSome]
  exact exists_congr fun k => ⟨awaits_isEnd, h.found k⟩

theorem cleared_keeps (d : Device) : d.cleared.remoteInfo.ip = d.remoteInfo.ip ∧
    d.cleared.videoSocket = d.videoSocket ∧ d.cleared.status = .null := by
  rw [Device.cleared, dropMultiGroup_eq]
  exact ⟨rfl, rfl, rfl⟩

/-- A device that goes back to NULL plays a closed party. -/
theorem Follows.close {m : Nat} {d : Device} {b : Buf} (h : Follows addr x s o n)
    (hd : d.videoSocket = s.dev.videoSocket) (hip : d.remoteInfo.ip = s.dev.remoteInfo.ip)
    (hm : d.ends = m) (hf : ∀ k, (d.multiUdpBuff k).isEnd = true →
      (s.dev.multiUdpBuff k).isEnd = true ∧ d.multiUdpBuff k = s.dev.multiUdpBuff k) :
    Follows addr x { s with dev := d.cleared, videoBuff := b } false m := by
  obtain ⟨hcip, hcs, hcn⟩ := cleared_keeps d
  refine ⟨?_, Or.inl hcn, ?_, fun k hk => ?_, ?_, h.receiving⟩
  · simp [Device.active, hcn]
  · rw [← hm]
    simp [Device.ends]
  · simp only [cleared_multiUdpBuff] at hk ⊢
    obtain ⟨hk', he⟩ := hf k hk
    rw [hcs, hd, he]
    exact h.found k hk'
  · have hptr : d.cleared.remoteInfo.ip 0 = d.remoteInfo.ip 0 := congrFun hcip 0
    rw [hptr, hip]
    exact h.peer

theorem echo_carries {kind : UInt8} {b : Buf} (sendB : Buf) (d : Device) (src : IP4)
    (h : Decoded kind b) : ∃ g, echo d b sendB (dotted src) 57 = .send g ∧ g.dest = src ∧
      g.port = localVideoPort ∧ carries reply g.bytes := by
  refine ⟨_, rfl, inetAddr_dotted src, rfl, length_slice _ _ _, ?_⟩
  have hcopy (k : Nat) (hk : k < 57) (h7 : k ≠ 7) :
      put (blit sendB 0 (slice b 0 57)) 7 reply k = b k := by
    have hb := blit_add sendB 0 (slice b 0 57) (k := k) (by rw [length_slice]; exact hk)
    rw [Nat.zero_add] at hb
    rw [put_ne _ _ h7, hb, getElem_slice, Nat.zero_add]
  apply List.ext_getElem?
  intro k
  rw [List.getElem?_take]
  by_cases hk : k < 9
  · rw [if_pos hk, getElem?_slice, if_pos (by omega), Nat.zero_add]
    by_cases h7 : k = 7
    · subst h7
      rw [put_self]
      rfl
    · rw [hcopy k (by omega) h7]
      by_cases h6 : k < 6
      · have hp := h.package ⟨k, h6⟩
        have hl : k < udpPackageHead.length := h6
        rw [List.getElem?_append_left hl, List.getElem?_eq_getElem hl]
        exact congrArg some hp
      · obtain rfl | rfl : k = 6 ∨ k = 8 := by omega
        · exact congrArg some h.order
        · exact congrArg some h.sub
  · rw [if_neg hk, List.getElem?_eq_none]
    simp [udpPackageHead]
    omega

theorem callEndSlot_carries {d : Device} (m : MultiUdpBuff1) :
    ∃ g, (callEndSlot d m).transmit = .send g ∧ g.dest = d.remoteInfo.ip 0 ∧
      g.port = localVideoPort ∧ carries ask g.bytes := by
  refine ⟨_, rfl, inetAddr_dotted _, rfl, length_slice _ _ _, ?_⟩
  have hsplit := slice_add (callEndSlot d m).buf 0 9 48
  have hhead : slice (callEndSlot d m).buf 0 9 = udpPackageHead ++ [videoTalk, ask, callEnd] := rfl
  exact (congrArg (List.take 9) hsplit).trans
    ((List.take_left' (length_slice _ _ _)).trans hhead)

theorem callEndSlot_awaits {d : Device} (m : MultiUdpBuff1) :
    (callEndSlot d m).awaits d.videoSocket isTalkOrTrans callEnd = true := by
  simp [MultiUdpBuff1.awaits, callEndSlot]
  exact ⟨⟨⟨by simp [maxSendNum], rfl⟩, rfl⟩, rfl⟩

def System.canHangUp (s : System) : Prop := s.dev.active ∧ s.dev.freeSlot.isSome

instance (s : System) : Decidable s.canHangUp := inferInstanceAs (Decidable (_ ∧ _))

theorem step_stopTalk (s : System) : s.step .stopTalk =
    some ({ s with dev := (stopTalk s.dev).1 }, (stopTalk s.dev).2) := rfl

theorem Follows.stop_idle (h : Follows addr x s o n) (hc : ¬s.canHangUp) :
    (stopTalk s.dev).1 = s.dev ∧ sends (stopTalk s.dev).2 = [] := by
  by_cases ha : s.dev.active
  · have hf : s.dev.freeSlot = none := by
      rw [← Option.not_isSome_iff_eq_none]
      exact fun hf => hc ⟨ha, hf⟩
    rw [stopTalk_full (active_ne_null ha) hf]
    exact ⟨rfl, rfl⟩
  · rw [stopTalk_idle (caller_not_active h.caller ha)]
    exact ⟨rfl, rfl⟩

theorem Follows.stop (h : Follows addr x s o n) (hc : s.canHangUp) :
    o = true ∧ Follows addr x { s with dev := (stopTalk s.dev).1 } true (n + 1) ∧
      ∃ g, sends (stopTalk s.dev).2 = [g] ∧ g.dest = addr (!x) ∧ g.port = localVideoPort ∧
        carries ask g.bytes := by
  obtain ⟨k, hk⟩ := Option.isSome_iff_exists.mp hc.2
  obtain ⟨g, hg, hdest, hport, hbytes⟩ := callEndSlot_carries (d := s.dev) (s.dev.multiUdpBuff k)
  have hend : (callEndSlot s.dev (s.dev.multiUdpBuff k)).isEnd = true := rfl
  have hfree : (s.dev.multiUdpBuff k).isEnd = false := by
    have hv : (s.dev.multiUdpBuff k).isValid = false := by simpa using first_spec hk
    simp [MultiUdpBuff1.isEnd, hv]
  rw [stopTalk_queued (active_ne_null hc.1) hk]
  refine ⟨h.isOpen.mpr hc.1, ⟨iff_of_true rfl hc.1, h.caller, ?_, fun j hj => ?_, h.peer,
    h.receiving⟩, g, ?_, hdest.trans h.peer, hport, hbytes⟩
  · rw [← h.ends]
    exact usage_take hfree hend
  · by_cases hjk : j = k
    · subst hjk
      simp only [setSlot_multiUdpBuff, update_self]
      exact callEndSlot_awaits _
    · simp only [setSlot_multiUdpBuff, update_of_ne hjk] at hj ⊢
      exact h.found j hj
  · simp [hg, Event.sent]

/-- An ASK closes an open device and is answered; a closed one ignores it. -/
theorem Follows.ask (h : Follows addr x s o n) (sendB : Buf) (src : IP4) {b : Buf}
    (hb : Decoded ask b) :
    Follows addr x { s with
      dev := (recvTalkCallEndTask b sendB (dotted src) s.dev).1
      videoBuff := b } false n ∧
    ((o = false ∧ sends (recvTalkCallEndTask b sendB (dotted src) s.dev).2 = []) ∨
      (o = true ∧ ∃ g, sends (recvTalkCallEndTask b sendB (dotted src) s.dev).2 = [g] ∧
        g.dest = src ∧ g.port = localVideoPort ∧ carries reply g.bytes)) := by
  cases o with
  | false =>
    have hn : ¬s.dev.active := fun ha => by simpa using h.isOpen.mpr ha
    rw [callEnd_idle hn]
    exact ⟨⟨h.isOpen, h.caller, h.ends, h.found, h.peer, h.receiving⟩, Or.inl ⟨rfl, rfl⟩⟩
  | true =>
    have ha := h.isOpen.mp rfl
    obtain ⟨g, hg, hrest⟩ := echo_carries sendB s.dev src hb
    rw [callEnd_ask ha hb.kind, hg]
    refine ⟨h.close rfl rfl h.ends fun k hk => ⟨hk, rfl⟩, Or.inr ⟨rfl, g, ?_, hrest⟩⟩
    simp [Event.sent]

/-- A REPLY closes an open device that has a CALLEND on record, and takes the record out. -/
theorem Follows.reply (h : Follows addr x s o n) (sendB : Buf) (src : IP4) {b : Buf}
    (hb : Decoded reply b) :
    sends (recvTalkCallEndTask b sendB (dotted src) s.dev).2 = [] ∧
    (((o = false ∨ n = 0) ∧ Follows addr x { s with
        dev := (recvTalkCallEndTask b sendB (dotted src) s.dev).1
        videoBuff := b } o n) ∨
      ∃ m, o = true ∧ n = m + 1 ∧ Follows addr x { s with
        dev := (recvTalkCallEndTask b sendB (dotted src) s.dev).1
        videoBuff := b } false m) := by
  have h7 : ¬b 7 = QsaTalk.ask := by
    rw [hb.kind]
    decide
  by_cases ha : s.dev.active
  · have ho := h.isOpen.mpr ha
    by_cases hp : s.dev.pendingCallEnd.isSome
    · obtain ⟨k, hk⟩ := Option.isSome_iff_exists.mp hp
      obtain ⟨m, rfl⟩ := Nat.exists_eq_add_of_lt (h.pending_iff.mp hp)
      rw [Nat.zero_add] at h
      have hend : (s.dev.multiUdpBuff k).isEnd = true := awaits_isEnd (first_spec hk)
      rw [callEnd_reply ha hb.kind hk]
      refine ⟨rfl, Or.inr ⟨m, ho, by omega, h.close rfl rfl ?_ fun j hj => ?_⟩⟩
      · have hu := usage_free (t := s.dev.multiUdpBuff) (i := k)
          (v := { s.dev.multiUdpBuff k with isValid := false }) hend rfl
        have he : usage MultiUdpBuff1.isEnd s.dev.multiUdpBuff = m + 1 := h.ends
        exact Nat.succ.inj (hu.trans he)
      · by_cases hjk : j = k
        · subst hjk
          simp [Device.unwatched, MultiUdpBuff1.isEnd] at hj
        · simp only [release_multiUdpBuff, update_of_ne hjk] at hj ⊢
          exact ⟨hj, rfl⟩
    · have hn : n = 0 := Nat.eq_zero_of_not_pos fun hn => hp (h.pending_iff.mpr hn)
      rw [callEnd_stray ha h7 fun hc => hp hc.2]
      exact ⟨rfl, Or.inl ⟨Or.inr hn, h.isOpen, h.caller, h.ends, h.found, h.peer, h.receiving⟩⟩
  · have ho : o = false := Bool.eq_false_iff.mpr fun ho => ha (h.isOpen.mp ho)
    rw [callEnd_idle ha]
    exact ⟨rfl, Or.inl ⟨Or.inl ho, h.isOpen, h.caller, h.ends, h.found, h.peer, h.receiving⟩⟩

/-! The pair of devices against the handshake. -/

structure Simulates (addr : Bool → IP4) (n : Net) (s : Session) : Prop where
  parties : ∀ x, Follows addr x (n.sys x) (s.isOpen x) (s.pending x)
  packets : ∀ p ∈ n.flight, carries ask p.bytes ∨ carries reply p.bytes
  requests : ∀ x, inFlight ask x n.flight = s.requests x
  replies : ∀ x, inFlight reply x n.flight = s.replies x

theorem inFlight_append (kind : UInt8) (x : Bool) (ps qs : List Packet) :
    inFlight kind x (ps ++ qs) = inFlight kind x ps + inFlight kind x qs :=
  List.countP_append

theorem inFlight_one (kind : UInt8) (x : Bool) (p : Packet) :
    inFlight kind x [p] = if p.dest = x ∧ carries kind p.bytes then 1 else 0 := by
  simp [inFlight, List.countP_cons]

theorem inFlight_erase {ps : List Packet} {i : Nat} {p : Packet} (h : ps[i]? = some p)
    (kind : UInt8) (x : Bool) :
    inFlight kind x (ps.eraseIdx i) + inFlight kind x [p] = inFlight kind x ps := by
  obtain ⟨hi, rfl⟩ := List.getElem?_eq_some_iff.mp h
  have hsplit : ps = ps.take i ++ ([ps[i]] ++ ps.drop (i + 1)) := by
    rw [List.singleton_append, List.getElem_cons_drop, List.take_append_drop]
  conv_rhs => rw [hsplit]
  rw [List.eraseIdx_eq_take_drop_succ, inFlight_append, inFlight_append, inFlight_append]
  omega

/-- A packet that is taken out of the air is missing in its own count only. -/
theorem inFlight_taken {ps : List Packet} {i : Nat} {p : Packet} {kind other : UInt8}
    {own rest : Bool → Nat} (hp : ps[i]? = some p) (hb : carries kind p.bytes)
    (hne : ¬carries other p.bytes) (hown : ∀ y, inFlight kind y ps = own y)
    (hrest : ∀ y, inFlight other y ps = rest y) :
    own p.dest = own p.dest - 1 + 1 ∧
      (∀ y, inFlight kind y (ps.eraseIdx i) = update own p.dest (own p.dest - 1) y) ∧
      ∀ y, inFlight other y (ps.eraseIdx i) = rest y := by
  have herase := inFlight_erase hp
  have hmine : inFlight kind p.dest (ps.eraseIdx i) + 1 = own p.dest := by
    have he := herase kind p.dest
    rw [inFlight_one, if_pos ⟨rfl, hb⟩, hown] at he
    exact he
  refine ⟨by omega, fun y => ?_, fun y => ?_⟩
  · by_cases hy : y = p.dest
    · rw [hy, update_self]
      omega
    · have he := herase kind y
      rw [inFlight_one, if_neg fun hc => hy hc.1.symm, hown] at he
      rw [update_of_ne hy]
      exact he
  · have he := herase other y
    rw [inFlight_one, if_neg fun hc => hne hc.2, hrest] at he
    exact he

/-- A packet that is sent is added in its own count only. -/
theorem inFlight_sent {ps : List Packet} {x : Bool} {bytes : List UInt8} {kind other : UInt8}
    {own rest : Bool → Nat} (hb : carries kind bytes) (hne : ¬carries other bytes)
    (hown : ∀ y, inFlight kind y ps = own y) (hrest : ∀ y, inFlight other y ps = rest y) :
    (∀ y, inFlight kind y (ps ++ [⟨x, bytes⟩]) = update own x (own x + 1) y) ∧
      ∀ y, inFlight other y (ps ++ [⟨x, bytes⟩]) = rest y := by
  refine ⟨fun y => ?_, fun y => ?_⟩
  · rw [inFlight_append, inFlight_one, hown]
    by_cases hy : y = x
    · rw [hy, update_self, if_pos ⟨rfl, hb⟩]
    · rw [update_of_ne hy, if_neg fun hc => hy hc.1.symm, Nat.add_zero]
  · rw [inFlight_append, inFlight_one, if_neg fun hc => hne hc.2, hrest, Nat.add_zero]

/-- One party moves, the other stays as it is. -/
theorem follows_update {sys : Bool → System} {o : Bool → Bool} {k : Bool → Nat}
    (h : ∀ y, Follows addr y (sys y) (o y) (k y)) {x : Bool} {t : System} {o' : Bool} {k' : Nat}
    (hf : Follows addr x t o' k') (y : Bool) :
    Follows addr y (update sys x t y) (update o x o' y) (update k x k' y) := by
  by_cases hy : y = x
  · subst hy
    simpa using hf
  · simpa [hy] using h y

theorem routed_none {x : Bool} {evs : List Event} (h : sends evs = []) :
    routed addr x evs = [] := by
  simp [routed, h]

theorem routed_one {x : Bool} {evs : List Event} {g : Datagram} (h : sends evs = [g])
    (hd : g.dest = addr (!x)) (hp : g.port = localVideoPort) :
    routed addr x evs = [⟨!x, g.bytes⟩] := by
  simp [routed, h, hd, hp]

theorem ask_not_reply {bytes : List UInt8} (h : carries ask bytes) : ¬carries reply bytes :=
  fun h' => absurd (carries_inj h h') (by decide)

theorem reply_not_ask {bytes : List UInt8} (h : carries reply bytes) : ¬carries ask bytes :=
  fun h' => absurd (carries_inj h h') (by decide)

def Net.hangsUp (n : Net) : NetAct → Prop
  | .stop x => (n.sys x).canHangUp
  | .deliver _ _ => False

instance (n : Net) (a : NetAct) : Decidable (n.hangsUp a) :=
  match a with
  | .stop x => inferInstanceAs (Decidable (n.sys x).canHangUp)
  | .deliver _ _ => inferInstanceAs (Decidable False)

variable {n n' : Net} {s : Session} {evs : List Event}

theorem simulates_stop {x : Bool} (h : Simulates addr n s)
    (hs : n.step addr (.stop x) = some (n', evs)) :
    (¬n.hangsUp (.stop x) ∧ Simulates addr n' s) ∨
      (n.hangsUp (.stop x) ∧ ∃ s', Move s s' ∧ Simulates addr n' s' ∧
        s'.made = update s.made x (s.made x + 1)) := by
  have hn : n' = ⟨update n.sys x { n.sys x with dev := (stopTalk (n.sys x).dev).1 },
      n.flight ++ routed addr x (stopTalk (n.sys x).dev).2⟩ := by
    simp only [Net.step, Net.act, step_stopTalk, Option.some.injEq, Prod.mk.injEq] at hs
    exact hs.1.symm
  by_cases hc : (n.sys x).canHangUp
  · obtain ⟨ho, hf, g, hg, hd, hp, hb⟩ := (h.parties x).stop hc
    rw [routed_one hg hd hp] at hn
    obtain ⟨hreq, hrep⟩ := inFlight_sent (x := !x) hb (ask_not_reply hb) h.requests h.replies
    subst hn
    refine Or.inr ⟨hc, _, .request ho, ⟨fun y => ?_, fun p hp => ?_, hreq, hrep⟩, rfl⟩
    · have hy := follows_update h.parties hf y
      rw [← ho, update_eq_self] at hy
      exact hy
    · obtain hp | hp := List.mem_append.mp hp
      · exact h.packets p hp
      · rw [List.mem_singleton.mp hp]
        exact Or.inl hb
  · obtain ⟨hd, hg⟩ := (h.parties x).stop_idle hc
    rw [routed_none hg, List.append_nil, hd] at hn
    have hself : update n.sys x (n.sys x) = n.sys := update_eq_self x n.sys
    refine Or.inl ⟨hc, ?_⟩
    rw [hn]
    exact ⟨fun y => by simpa [hself] using h.parties y, h.packets, h.requests, h.replies⟩

theorem simulates_ask {i : Nat} {sendB : Buf} {p : Packet} (h : Simulates addr n s)
    (hp : n.flight[i]? = some p) (hb : carries ask p.bytes)
    (hs : n.step addr (.deliver i sendB) = some (n', evs)) :
    ∃ s', Move s s' ∧ Simulates addr n' s' ∧ s'.made = s.made := by
  obtain ⟨b, hdec, hstep⟩ := step_callEnd (addr (!p.dest)) sendB
    (h.parties p.dest).receiving hb
  have hn := hs
  simp only [Net.step, hp, Net.act, hstep, Option.some.injEq, Prod.mk.injEq] at hn
  replace hn := hn.1.symm
  obtain ⟨hf, hcase⟩ := (h.parties p.dest).ask sendB (addr (!p.dest)) hdec
  have hleft : ∀ q ∈ n.flight.eraseIdx i, carries ask q.bytes ∨ carries reply q.bytes :=
    fun q hq => h.packets q (List.mem_of_mem_eraseIdx hq)
  obtain ⟨hpos, hreq, hrep⟩ := inFlight_taken hp hb (ask_not_reply hb) h.requests h.replies
  obtain ⟨ho, hg⟩ | ⟨ho, g, hg, hd, hport, hbytes⟩ := hcase
  · rw [routed_none hg, List.append_nil] at hn
    subst hn
    refine ⟨_, .ignoreRequest hpos ho, ⟨fun y => ?_, hleft, hreq, hrep⟩, rfl⟩
    have hy := follows_update h.parties hf y
    rw [← ho, update_eq_self, update_eq_self] at hy
    exact hy
  · rw [routed_one hg hd hport] at hn
    obtain ⟨hrep', hreq'⟩ := inFlight_sent (x := !p.dest) hbytes (reply_not_ask hbytes) hrep hreq
    subst hn
    refine ⟨_, .accept hpos ho, ⟨fun y => ?_, fun q hq => ?_, hreq', hrep'⟩, rfl⟩
    · simpa using follows_update h.parties hf y
    · obtain hq | hq := List.mem_append.mp hq
      · exact hleft q hq
      · rw [List.mem_singleton.mp hq]
        exact Or.inr hbytes

theorem simulates_reply {i : Nat} {sendB : Buf} {p : Packet} (h : Simulates addr n s)
    (hp : n.flight[i]? = some p) (hb : carries reply p.bytes)
    (hs : n.step addr (.deliver i sendB) = some (n', evs)) :
    ∃ s', Move s s' ∧ Simulates addr n' s' ∧ s'.made = s.made := by
  obtain ⟨b, hdec, hstep⟩ := step_callEnd (addr (!p.dest)) sendB
    (h.parties p.dest).receiving hb
  have hn := hs
  simp only [Net.step, hp, Net.act, hstep, Option.some.injEq, Prod.mk.injEq] at hn
  replace hn := hn.1.symm
  obtain ⟨hg, hcase⟩ := (h.parties p.dest).reply sendB (addr (!p.dest)) hdec
  rw [routed_none hg, List.append_nil] at hn
  have hleft : ∀ q ∈ n.flight.eraseIdx i, carries ask q.bytes ∨ carries reply q.bytes :=
    fun q hq => h.packets q (List.mem_of_mem_eraseIdx hq)
  obtain ⟨hpos, hrep, hreq⟩ := inFlight_taken hp hb (reply_not_ask hb) h.replies h.requests
  subst hn
  obtain ⟨hno, hf⟩ | ⟨m, ho, hm, hf⟩ := hcase
  · refine ⟨_, .ignoreReply hpos hno, ⟨fun y => ?_, hleft, hreq, hrep⟩, rfl⟩
    simpa using follows_update h.parties hf y
  · refine ⟨_, .finish hpos ho hm, ⟨fun y => ?_, hleft, hreq, hrep⟩, rfl⟩
    simpa using follows_update h.parties hf y

/-- Each step of the pair is a move of the handshake, or a `stop_talk` that does nothing. -/
theorem simulates_step {a : NetAct} (h : Simulates addr n s)
    (hs : n.step addr a = some (n', evs)) :
    ∃ s', Simulates addr n' s' ∧ (s' = s ∨ Move s s') ∧
      s'.made true + s'.made false =
        s.made true + s.made false + (if n.hangsUp a then 1 else 0) := by
  cases a with
  | stop x =>
    obtain ⟨hno, h'⟩ | ⟨hyes, s', hm, h', hmade⟩ := simulates_stop h hs
    · exact ⟨s, h', Or.inl rfl, by simp [hno]⟩
    · refine ⟨s', h', Or.inr hm, ?_⟩
      rw [if_pos hyes, hmade]
      cases x <;> simp <;> omega
  | deliver i sendB =>
    have hno : ¬n.hangsUp (.deliver i sendB) := id
    cases hp : n.flight[i]? with
    | none => simp [Net.step, hp] at hs
    | some p =>
      have hmove : ∃ s', Move s s' ∧ Simulates addr n' s' ∧ s'.made = s.made := by
        cases h.packets p (List.mem_of_getElem? hp) with
        | inl hb =>
          exact simulates_ask h hp hb hs
        | inr hb =>
          exact simulates_reply h hp hb hs
      obtain ⟨s', hm, h', hmade⟩ := hmove
      exact ⟨s', h', Or.inr hm, by simp [hno, hmade]⟩

/-! Runs. -/

/-- A talk of two devices that point at each other, with room for a CALLEND and none pending. -/
structure Established (addr : Bool → IP4) (n : Net) : Prop where
  talking : ∀ x, (n.sys x).dev.status = .talking
  peer : ∀ x, (n.sys x).dev.remoteInfo.ip 0 = addr (!x)
  room : ∀ x, (n.sys x).dev.freeSlot.isSome
  noEnd : ∀ x, (n.sys x).dev.ends = 0
  receiving : ∀ x, (n.sys x).videoRcv = true ∧ (n.sys x).udpRecvFlag = true
  quiet : n.flight = []

abbrev NetStep := Transition Net NetAct (List Event)

def hangUps (ts : List NetStep) : Nat := ts.countP fun t => t.pre.hangsUp t.act

theorem hangUps_snoc (ts : List NetStep) (t : NetStep) :
    hangUps (ts ++ [t]) = hangUps ts + if t.pre.hangsUp t.act then 1 else 0 := by
  simp [hangUps, List.countP_append, List.countP_cons]

theorem Established.simulates (h : Established addr n) : Simulates addr n
    ⟨fun _ => true, fun _ => 0, fun _ => 0, fun _ => 0, fun _ => 0⟩ := by
  refine ⟨fun x => ?_, ?_, ?_, ?_⟩
  · refine ⟨iff_of_true rfl (Or.inr (h.talking x)), Or.inr (Or.inr (h.talking x)), h.noEnd x,
      fun k hk => ?_, h.peer x, h.receiving x⟩
    have hpos : 0 < (n.sys x).dev.ends := usage_pos.mpr ⟨k, hk⟩
    rw [h.noEnd x] at hpos
    exact absurd hpos (lt_irrefl 0)
  all_goals simp [h.quiet, inFlight]

theorem run_simulates {n₀ : Net} {ts : List NetStep} (h₀ : Established addr n₀)
    (h : Run (Net.step addr) n₀ ts n) :
    ∃ s, Simulates addr n s ∧ Inv s ∧ s.made true + s.made false = hangUps ts := by
  induction h with
  | start => exact ⟨_, h₀.simulates, Fresh.inv (by simp [Fresh]), rfl⟩
  | @step ts n a n' o _ hs ih =>
    obtain ⟨s, hsim, hinv, hmade⟩ := ih
    obtain ⟨s', hsim', hmove, hmade'⟩ := simulates_step hsim hs
    refine ⟨s', hsim', ?_, ?_⟩
    · obtain rfl | hmove := hmove
      · exact hinv
      · exact move_inv hinv hmove
    · rw [hmade', hmade, hangUps_snoc]

/-- The first thing that can happen is an effective `stop_talk`. -/
theorem hangUps_pos {n₀ : Net} {ts : List NetStep} (h₀ : Established addr n₀)
    (h : Run (Net.step addr) n₀ ts n) (hne : ts ≠ []) : 1 ≤ hangUps ts := by
  induction h with
  | start => exact absurd rfl hne
  | @step ts n a n' o h hs ih =>
    rw [hangUps_snoc]
    by_cases hts : ts = []
    · subst hts
      obtain rfl : n₀ = n := Run.functional .start h
      cases a with
      | stop x =>
        have hyes : n₀.hangsUp (.stop x) := ⟨Or.inr (h₀.talking x), h₀.room x⟩
        simp [hyes]
      | deliver i sendB => simp [Net.step, h₀.quiet] at hs
    · exact Nat.le_add_right_of_le (ih hts)

structure Conversation (addr : Bool → IP4) where
  start : Net
  established : Established addr start
  steps : List NetStep
  final : Net
  run : Run (Net.step addr) start steps final

/-- Somebody called `stop_talk`, and everything sent has arrived. -/
def Conversation.Settled (c : Conversation addr) : Prop :=
  (∃ t ∈ c.steps, ∃ x, t.act = .stop x) ∧ c.final.flight = []

def Conversation.Agreed (c : Conversation addr) : Prop :=
  ∀ x, (c.final.sys x).dev.status = .null ∧ (c.final.sys x).dev.ends = 0

/-- Two devices that hang up both end in NULL, and leave no CALLEND behind exactly when one
`stop_talk` in all took effect. -/
theorem hangUp_agreed_iff (c : Conversation addr) :
    (c.Settled → ∀ x, (c.final.sys x).dev.status = .null) ∧
      ((c.Settled → c.Agreed) ↔ (c.Settled → hangUps c.steps = 1)) := by
  obtain ⟨s, hsim, hinv, hmade⟩ := run_simulates c.established c.run
  have hsettled (h : c.Settled) : (∃ x, 1 ≤ s.made x) ∧ (∀ x, s.requests x = 0) ∧
      ∀ x, s.replies x = 0 := by
    obtain ⟨⟨t, ht, -⟩, hq⟩ := h
    have hpos := hangUps_pos c.established c.run (List.ne_nil_of_mem ht)
    refine ⟨?_, fun x => ?_, fun x => ?_⟩
    · by_contra hno
      have h1 := not_exists.mp hno true
      have h2 := not_exists.mp hno false
      omega
    · rw [← hsim.requests x, hq]
      rfl
    · rw [← hsim.replies x, hq]
      rfl
  have hnull (h : c.Settled) (x : Bool) : (c.final.sys x).dev.status = .null := by
    obtain ⟨hm, hq, hr⟩ := hsettled h
    exact (hsim.parties x).closed (hinv.closed hm hq hr x)
  refine ⟨hnull, forall_congr' fun h => ?_⟩
  obtain ⟨hm, hq, hr⟩ := hsettled h
  rw [← hmade, ← hinv.clear_iff hm hq hr]
  constructor
  · intro ha x
    rw [← (hsim.parties x).ends]
    exact (ha x).2
  · intro hp x
    exact ⟨hnull h x, by rw [(hsim.parties x).ends, hp x]⟩

def converse (n : Net) (h : Established addr n) (acts : List NetAct)
    (ok : (trail (Net.step addr) n acts).isSome) : Conversation addr where
  start := n
  established := h
  steps := ((trail (Net.step addr) n acts).get ok).1
  final := ((trail (Net.step addr) n acts).get ok).2
  run := run_of_trail (Option.some_get ok).symm

theorem converse_acts (h : Established addr n) {acts : List NetAct}
    (ok : (trail (Net.step addr) n acts).isSome) :
    (converse n h acts ok).steps.map Transition.act = acts :=
  trail_acts (Option.some_get ok).symm

def pairAddr : Bool → IP4
  | true => sampleHost
  | false => ⟨192, 168, 10, 98⟩

def talkActions (a : IP4) : List Action :=
  [sampleCall a, sampleRecv ask callAnswer a, sampleRecv ask callStart a]

def talkWith (x : Bool) : Execution sampleBoot :=
  execute sampleBoot (talkActions (pairAddr (!x))) (by cases x <;> decide +kernel)

def pairNet : Net := ⟨fun x => (talkWith x).final, []⟩

theorem pair_established : Established pairAddr pairNet where
  talking := by decide +kernel
  peer := by decide +kernel
  room := by decide +kernel
  noEnd := by decide +kernel
  receiving := by decide +kernel
  quiet := rfl

def crossingActs : List NetAct :=
  [.stop true, .stop false] ++ List.replicate 4 (.deliver 0 fun _ => 0)

def crossing : Conversation pairAddr :=
  converse pairNet pair_established crossingActs (by decide +kernel)

/-- Each ignores the reply to its own CALLEND, which stays in its table. -/
theorem callEnds_left_behind : crossing.steps.map Transition.act = crossingActs ∧
    crossing.Settled ∧ (∀ x, (crossing.final.sys x).dev.ends = 1) ∧ ¬crossing.Agreed := by
  have hacts : crossing.steps.map Transition.act = crossingActs :=
    converse_acts pair_established _
  have hends : ∀ x, (crossing.final.sys x).dev.ends = 1 := by decide +kernel
  refine ⟨hacts, ⟨?_, ?_⟩, hends, fun h => ?_⟩
  · have hmem : NetAct.stop true ∈ crossing.steps.map Transition.act := by
      rw [hacts]
      simp [crossingActs]
    obtain ⟨t, ht, he⟩ := List.mem_map.mp hmem
    exact ⟨t, ht, true, he⟩
  · have hnone : crossing.final.flight.isEmpty = true := by decide +kernel
    exact List.isEmpty_iff.mp hnone
  · have h0 := (h true).2
    rw [hends true] at h0
    exact absurd h0 (by decide)

end QsaTalk
