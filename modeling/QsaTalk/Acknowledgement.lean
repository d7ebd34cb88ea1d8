import QsaTalk.HandlerSpecs

/-! What a reply takes out of the command table. Four handlers take the lowest slot they look for;
the name reply also drops every query it passes on the way. -/
namespace QsaTalk
open ByteBuffer SlotTable Function
variable {d : Device}

/-- `t'` is `t` but for the lowest slot that `p` picks, which is no longer in use. -/
def Acknowledges (p : MultiUdpBuff1 → Bool) (t t' : Fin udpSendMax → MultiUdpBuff1) : Prop :=
  ∀ i, if first p t = some i then (t' i).isValid = false else t' i = t i

def AcknowledgesIf (heeded : Prop) (p : MultiUdpBuff1 → Bool)
    (t t' : Fin udpSendMax → MultiUdpBuff1) : Prop :=
  (heeded → Acknowledges p t t') ∧ (¬heeded → t' = t)

theorem acknowledges_none {p : MultiUdpBuff1 → Bool} {t : Fin udpSendMax → MultiUdpBuff1}
    (h : first p t = none) : Acknowledges p t t := by
  intro i
  rw [h]
  rfl

theorem acknowledges_release {p : MultiUdpBuff1 → Bool} {i : Fin udpSendMax}
    (h : first p d.multiUdpBuff = some i) :
    Acknowledges p d.multiUdpBuff (d.release i).multiUdpBuff := by
  intro j
  rw [release_multiUdpBuff, h]
  by_cases hj : i = j
  · subst hj
    rw [if_pos rfl, update_self]
  · rw [if_neg fun hc => hj (Option.some.inj hc), update_of_ne fun hc => hj hc.symm]

/-- The shape four handlers share. -/
theorem acknowledgesIf_of {heeded : Prop} [Decidable heeded] {p : MultiUdpBuff1 → Bool}
    {t' : Fin udpSendMax → MultiUdpBuff1}
    (hskip : ¬(heeded ∧ (first p d.multiUdpBuff).isSome) → t' = d.multiUdpBuff)
    (hack : ∀ i, heeded → first p d.multiUdpBuff = some i → t' = (d.release i).multiUdpBuff) :
    AcknowledgesIf heeded p d.multiUdpBuff t' := by
  constructor
  · intro hh
    cases hp : first p d.multiUdpBuff with
    | none =>
      rw [hskip fun hc => by simp [hp] at hc]
      exact acknowledges_none hp
    | some i =>
      rw [hack i hh hp]
      exact acknowledges_release hp
  · exact fun hh => hskip fun hc => hh hc.1

theorem lineUse_acknowledges (recvBuf : Buf) :
    AcknowledgesIf (recvBuf 7 = ask) (MultiUdpBuff1.awaits d.videoSocket isTalk call)
      d.multiUdpBuff (recvTalkLineUseTask recvBuf d).1.multiUdpBuff := by
  refine acknowledgesIf_of (fun h => ?_) fun i h7 hi => ?_
  · rw [lineUse_ignored h]
  · rw [lineUse_released h7 hi]
    split <;> rfl

theorem callAnswer_acknowledges (recvBuf : Buf) :
    AcknowledgesIf (recvBuf 7 = ask) (MultiUdpBuff1.awaits d.videoSocket isTalk call)
      d.multiUdpBuff (recvTalkCallAnswerTask recvBuf d).1.multiUdpBuff := by
  refine acknowledgesIf_of (fun h => ?_) fun i h7 hi => ?_
  · rw [callAnswer_ignored h]
  · rw [callAnswer_released h7 hi]
    rfl

theorem openLock_acknowledges (recvBuf : Buf) :
    AcknowledgesIf (recvBuf 7 = reply) (MultiUdpBuff1.awaits d.dataSocket isLift openLock)
      d.multiUdpBuff (recvOpenLockFunc recvBuf d).1.multiUdpBuff := by
  refine acknowledgesIf_of (fun h => ?_) fun i h7 hi => ?_
  · rw [openLock_ignored h]
  · rw [openLock_released h7 hi]

theorem callEnd_acknowledges (recvBuf sendB : Buf) (host : List UInt8) :
    AcknowledgesIf (d.active ∧ recvBuf 7 = reply)
      (MultiUdpBuff1.awaits d.videoSocket isTalkOrTrans callEnd)
      d.multiUdpBuff (recvTalkCallEndTask recvBuf sendB host d).1.multiUdpBuff := by
  refine acknowledgesIf_of (fun h => ?_) fun i hh hi => ?_
  · by_cases ha : d.active
    swap
    · rw [callEnd_idle ha]
    by_cases h7 : recvBuf 7 = ask
    · rw [callEnd_ask ha h7, cleared_multiUdpBuff]
      rfl
    · rw [callEnd_stray ha h7 fun hc => h ⟨⟨ha, hc.1⟩, hc.2⟩]
      rfl
  · rw [callEnd_reply hh.1 hh.2 hi, cleared_multiUdpBuff]
    rfl

/-! The name reply. -/

def MultiUdpBuff1.asks (m : MultiUdpBuff1) : Bool :=
  m.isValid && m.sendNum < maxSendNum && m.buf 6 == nsOrder && m.buf 7 == ask

/-- The query asks for the address of the reply. A house is told by its first eleven bytes, and
a small `s` stands for any first letter. -/
def sameAddress (recvBuf : Buf) (m : MultiUdpBuff1) : Prop :=
  if recvBuf 33 = 's'.toUInt8 then slice m.buf 33 10 = slice recvBuf 34 10
  else if recvBuf 33 = 'S'.toUInt8 then slice m.buf 32 11 = slice recvBuf 33 11
  else slice m.buf 32 12 = slice recvBuf 33 12

instance (recvBuf : Buf) (m : MultiUdpBuff1) : Decidable (sameAddress recvBuf m) :=
  inferInstanceAs (Decidable (if recvBuf 33 = 's'.toUInt8 then slice m.buf 33 10 = slice recvBuf 34 10
    else if recvBuf 33 = 'S'.toUInt8 then slice m.buf 32 11 = slice recvBuf 33 11
    else slice m.buf 32 12 = slice recvBuf 33 12))

def answers (recvBuf : Buf) (m : MultiUdpBuff1) : Bool := m.asks && decide (sameAddress recvBuf m)

theorem slice_eq_iff {b c : Buf} {o p n : Nat} :
    slice b o n = slice c p n ↔ ∀ k < n, b (o + k) = c (p + k) := by
  simp [slice]

theorem addrMatches_forall (recvBuf : Buf) (n : Nat) (m : MultiUdpBuff1) :
    addrMatches recvBuf n m = true ↔
      ∀ k < n, (recvBuf 33 = 's'.toUInt8 ∧ k = 0) ∨ m.buf (32 + k) = recvBuf (33 + k) := by
  rw [addrMatches, List.all_eq_true]
  constructor
  · intro h k hk
    have hj := h (32 + k) (by simp [List.mem_range'_1, hk])
    have hnext : 32 + k + 1 = 33 + k := by omega
    simpa [hnext] using hj
  · intro h j hj
    obtain ⟨hlow, hhigh⟩ := List.mem_range'_1.mp hj
    obtain ⟨k, rfl⟩ := Nat.exists_eq_add_of_le hlow
    have hnext : 32 + k + 1 = 33 + k := by omega
    simpa [hnext] using h k (by omega)

theorem addrMatches_iff (recvBuf : Buf) (m : MultiUdpBuff1) :
    addrMatches recvBuf (nsAddrLen recvBuf) m = true ↔ sameAddress recvBuf m := by
  rw [addrMatches_forall, sameAddress]
  by_cases hs : recvBuf 33 = 's'.toUInt8
  · have hlen : nsAddrLen recvBuf = 11 := by simp [nsAddrLen, isHouse, hs]
    rw [if_pos hs, hlen, slice_eq_iff]
    constructor
    · intro h k hk
      have hbyte := (h (k + 1) (by omega)).resolve_left (by simp)
      rwa [Nat.add_comm k, ← Nat.add_assoc, ← Nat.add_assoc] at hbyte
    · intro h k hk
      cases k with
      | zero => exact Or.inl ⟨hs, rfl⟩
      | succ k =>
        have hbyte := h k (by omega)
        rw [Nat.add_comm k, ← Nat.add_assoc, ← Nat.add_assoc]
        exact Or.inr hbyte
  · have hall (n : Nat) : (∀ k < n, (recvBuf 33 = 's'.toUInt8 ∧ k = 0) ∨
        m.buf (32 + k) = recvBuf (33 + k)) ↔ slice m.buf 32 n = slice recvBuf 33 n := by
      rw [slice_eq_iff]
      simp [hs]
    rw [if_neg hs, hall]
    by_cases hS : recvBuf 33 = 'S'.toUInt8
    · have hlen : nsAddrLen recvBuf = 11 := by simp [nsAddrLen, isHouse, hS]
      rw [if_pos hS, hlen]
    · have hlen : nsAddrLen recvBuf = 12 := by simp [nsAddrLen, isHouse, hs, hS]
      rw [if_neg hS, hlen]

theorem isQuery_eq (recvBuf : Buf) (m : MultiUdpBuff1) :
    isQuery recvBuf m = (m.asks && decide (0 < recvBuf 32)) := rfl

/-- A name reply acknowledges the query it answers, tells the application of it, and leaves all
other queries pending. -/
structure NameReplyAcknowledges (recvBuf : Buf) (t : Fin udpSendMax → MultiUdpBuff1) (r : Outcome) :
    Prop where
  table : Acknowledges (answers recvBuf) t r.1.multiUdpBuff
  devip : (∃ addr ip uFlag, .devip addr ip uFlag ∈ r.2) ↔ ∃ i, answers recvBuf (t i) = true
  others : (∀ i, answers recvBuf (t i) = false) → r.1.multiUdpBuff = t

/-- The reply passes no query on its way to the one it answers; a reply without addresses has none
to answer. -/
def Device.inOrder (d : Device) (recvBuf : Buf) : Prop :=
  if 0 < recvBuf 32 then
    ∀ i, (d.multiUdpBuff i).asks = true → ¬sameAddress recvBuf (d.multiUdpBuff i) →
      ∃ j < i, answers recvBuf (d.multiUdpBuff j) = true
  else ∀ i, answers recvBuf (d.multiUdpBuff i) = false

instance (d : Device) (recvBuf : Buf) : Decidable (d.inOrder recvBuf) :=
  inferInstanceAs (Decidable (if 0 < recvBuf 32 then _ else _))

theorem nsReply_effect (recvBuf : Buf) :
    (recvNSReplyFunc recvBuf d).1.multiUdpBuff = (d.scanned recvBuf).multiUdpBuff ∧
      ((∃ addr ip uFlag, .devip addr ip uFlag ∈ (recvNSReplyFunc recvBuf d).2) ↔
        d.asksFor recvBuf) := by
  by_cases ha : d.asksFor recvBuf
  · obtain ⟨addr, ip, he⟩ := (nsReply_spec recvBuf).1 ha
    rw [he]
    exact ⟨rfl, iff_of_true ⟨addr, ip, 0, by simp⟩ ha⟩
  · rw [(nsReply_spec recvBuf).2 ha]
    exact ⟨rfl, iff_of_false (by simp) ha⟩

/-- With addresses in the reply, the scan is over the pending queries. -/
theorem scan_pending {recvBuf : Buf} (h : 0 < recvBuf 32) :
    isQuery recvBuf = MultiUdpBuff1.asks ∧
      (fun m => isQuery recvBuf m && addrMatches recvBuf (nsAddrLen recvBuf) m) = answers recvBuf := by
  have hq : isQuery recvBuf = MultiUdpBuff1.asks := by
    funext m
    rw [isQuery_eq, decide_eq_true h, Bool.and_true]
  refine ⟨hq, ?_⟩
  funext m
  rw [hq, answers, Bool.eq_iff_iff.mpr ((addrMatches_iff recvBuf m).trans decide_eq_true_iff.symm)]

theorem asksFor_iff {recvBuf : Buf} (h : 0 < recvBuf 32) :
    d.asksFor recvBuf ↔ ∃ i, answers recvBuf (d.multiUdpBuff i) = true := by
  rw [← (scan_pending h).2]
  simp [Device.asksFor]

theorem scanned_acknowledges_iff {recvBuf : Buf} (h : 0 < recvBuf 32) :
    Acknowledges (answers recvBuf) d.multiUdpBuff (d.scanned recvBuf).multiUdpBuff ↔
      d.inOrder recvBuf := by
  have hclear (m : MultiUdpBuff1) (hm : isQuery recvBuf m = true) : clearQuery m ≠ m := by
    intro he
    have hv : (clearQuery m).isValid = false := rfl
    rw [he] at hv
    simp [isQuery, hv] at hm
  obtain ⟨hq, hand⟩ := scan_pending h
  have hmiss (m : MultiUdpBuff1) : addrMatches recvBuf (nsAddrLen recvBuf) m = false ↔
      ¬sameAddress recvBuf m := by
    rw [← addrMatches_iff, Bool.not_eq_true]
  have hhit (m : MultiUdpBuff1) : (isQuery recvBuf m = true ∧
      addrMatches recvBuf (nsAddrLen recvBuf) m = true) ↔ answers recvBuf m = true := by
    rw [← hand, Bool.and_eq_true_iff]
  have hspare : (∀ i, first (answers recvBuf) d.multiUdpBuff ≠ some i →
      (d.scanned recvBuf).multiUdpBuff i = d.multiUdpBuff i) ↔ d.inOrder recvBuf := by
    rw [← hand]
    refine (sweep_spares_iff hclear).trans ?_
    rw [Device.inOrder, if_pos h]
    simp only [hmiss, hhit]
    rw [hq]
  rw [← hspare]
  constructor
  · intro ha i hi
    have hi' := ha i
    rwa [if_neg hi] at hi'
  · intro hs i
    by_cases hi : first (answers recvBuf) d.multiUdpBuff = some i
    · rw [← hand] at hi
      have hswept := swept_of_first hi
      rw [hand] at hi
      have hrow := sweep_finRange (isQuery recvBuf) (addrMatches recvBuf (nsAddrLen recvBuf))
        clearQuery d.multiUdpBuff i
      rw [if_pos hswept] at hrow
      rw [if_pos hi]
      exact congrArg MultiUdpBuff1.isValid hrow
    · rw [if_neg hi]
      exact hs i hi

theorem nameReply_iff (recvBuf : Buf) :
    NameReplyAcknowledges recvBuf d.multiUdpBuff (recvNSReplyFunc recvBuf d) ↔ d.inOrder recvBuf := by
  obtain ⟨htable, hdevip⟩ := nsReply_effect (d := d) recvBuf
  by_cases h : 0 < recvBuf 32
  · rw [← scanned_acknowledges_iff h]
    constructor
    · intro hr
      exact htable ▸ hr.table
    · intro ht
      refine ⟨htable ▸ ht, hdevip.trans (asksFor_iff h), fun hno => ?_⟩
      have hnone : first (answers recvBuf) d.multiUdpBuff = none := first_eq_none.mpr hno
      funext i
      have hi := ht i
      rw [hnone] at hi
      rw [htable]
      exact hi
  · have hquiet (m : MultiUdpBuff1) : isQuery recvBuf m = false := by
      rw [isQuery_eq, decide_eq_false h, Bool.and_false]
    have hkeep : (recvNSReplyFunc recvBuf d).1.multiUdpBuff = d.multiUdpBuff := by
      rw [htable]
      funext i
      obtain hs | ⟨hq, -⟩ := scanned_slot (d := d) recvBuf i
      · exact hs
      · rw [hquiet] at hq
        exact absurd hq Bool.false_ne_true
    have hsilent : ¬d.asksFor recvBuf := by
      rintro ⟨i, hq, -⟩
      rw [hquiet] at hq
      exact absurd hq Bool.false_ne_true
    rw [Device.inOrder, if_neg h]
    constructor
    · intro hr i
      refine Bool.eq_false_iff.mpr fun hi => ?_
      exact hsilent (hdevip.mp (hr.devip.mpr ⟨i, hi⟩))
    · intro hno
      refine ⟨?_, ?_, fun _ => hkeep⟩
      · rw [hkeep]
        exact acknowledges_none (first_eq_none.mpr hno)
      · exact hdevip.trans (iff_of_false hsilent fun ⟨i, hi⟩ => by simp [hno i] at hi)

structure RepliesAcknowledge (d : Device) (recvBuf sendB : Buf) (host : List UInt8) : Prop where
  nsReply : NameReplyAcknowledges recvBuf d.multiUdpBuff (recvNSReplyFunc recvBuf d)
  lineUse : AcknowledgesIf (recvBuf 7 = ask) (MultiUdpBuff1.awaits d.videoSocket isTalk call)
    d.multiUdpBuff (recvTalkLineUseTask recvBuf d).1.multiUdpBuff
  callAnswer : AcknowledgesIf (recvBuf 7 = ask) (MultiUdpBuff1.awaits d.videoSocket isTalk call)
    d.multiUdpBuff (recvTalkCallAnswerTask recvBuf d).1.multiUdpBuff
  callEnd : AcknowledgesIf (d.active ∧ recvBuf 7 = reply)
    (MultiUdpBuff1.awaits d.videoSocket isTalkOrTrans callEnd)
    d.multiUdpBuff (recvTalkCallEndTask recvBuf sendB host d).1.multiUdpBuff
  openLock : AcknowledgesIf (recvBuf 7 = reply)
    (MultiUdpBuff1.awaits d.dataSocket isLift openLock)
    d.multiUdpBuff (recvOpenLockFunc recvBuf d).1.multiUdpBuff

/-- Every reply takes out exactly what it answers, but for a name reply that is out of order. -/
theorem acknowledged_iff (d : Device) (recvBuf sendB : Buf) (host : List UInt8) :
    RepliesAcknowledge d recvBuf sendB host ↔ d.inOrder recvBuf := by
  rw [← nameReply_iff]
  constructor
  · exact RepliesAcknowledge.nsReply
  · intro h
    exact ⟨h, lineUse_acknowledges recvBuf, callAnswer_acknowledges recvBuf,
      callEnd_acknowledges recvBuf sendB host, openLock_acknowledges recvBuf⟩

/-! A query for room 1111, and the reply of room 2222. -/

def askedRun : Execution sampleBoot :=
  execute sampleBoot [.findIp (some fun _ => 0x31) 0] (by decide +kernel)

def otherReply : List UInt8 :=
  udpPackageHead ++ [nsOrder, reply] ++ List.replicate 24 0 ++ [1] ++
    ('S'.toUInt8 :: List.replicate 6 0 ++ List.replicate 4 0x32 ++ List.replicate 9 0) ++
      sampleHost.bytes

theorem query_dropped : videoTask (receive (fun _ => 0) otherReply) otherReply.length = some .nsReply ∧
    ¬RepliesAcknowledge askedRun.final.dev (receive (fun _ => 0) otherReply) (fun _ => 0)
      (dotted sampleHost) := by
  refine ⟨by decide +kernel, fun h => ?_⟩
  have horder : ¬askedRun.final.dev.inOrder (receive (fun _ => 0) otherReply) := by decide +kernel
  exact horder ((nameReply_iff _).mp h.nsReply)

end QsaTalk
