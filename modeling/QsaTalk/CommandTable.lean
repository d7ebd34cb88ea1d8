import QsaTalk.CallMachine

/-! What a step does to the command table: it queues one command, releases one on an
acknowledgement, drops resolved queries, or leaves the table alone. The slots of any one kind
follow as a ledger. -/
namespace QsaTalk
open ByteBuffer SlotTable Function
variable {d : Device} {r : Outcome}

/-- The command an input wants queued, made from the old contents of the slot it gets. -/
def Device.commandOf (d : Device) : Input → Option (MultiUdpBuff1 → MultiUdpBuff1)
  | .startCall ip addr uFlag =>
    if uFlag = 2 ∧ d.status = .null then some (callSlot (d.dial ip addr)) else none
  | .stopTalk => if d.status = .null then none else some (callEndSlot d)
  | .findIp (some addr) uFlag =>
    if d.status = .null ∧ uFlag = 0 then some (querySlot d addr) else none
  | .sendInfo data (some info) =>
    some fun m => (messageSlot (d.address info) data info m).getD m
  | .tick _ => if d.expires then some (callEndSlot d) else none
  | _ => none

def Device.ackOf (d : Device) : Input → Option (Fin udpSendMax)
  | .video .callAnswer buff _ _ => if buff 7 = ask then d.pendingCall else none
  | .video .lineUse buff _ _ => if buff 7 = ask then d.pendingCall else none
  | .video .callEnd buff _ _ => if d.active ∧ buff 7 = reply then d.pendingCallEnd else none
  | .openLock buff => if buff 7 = reply then d.pendingOpenLock else none
  | _ => none

def Device.dropped (d : Device) (buff : Buf) (k : Fin udpSendMax) : Prop :=
  swept (isQuery buff) (addrMatches buff (nsAddrLen buff)) d.multiUdpBuff k

instance (d : Device) (buff : Buf) (k : Fin udpSendMax) : Decidable (d.dropped buff k) :=
  inferInstanceAs (Decidable (swept _ _ _ _))

theorem scanned_dropped (buff : Buf) (k : Fin udpSendMax) : (d.scanned buff).multiUdpBuff k =
    if d.dropped buff k then clearQuery (d.multiUdpBuff k) else d.multiUdpBuff k :=
  sweep_finRange (isQuery buff) (addrMatches buff (nsAddrLen buff)) clearQuery d.multiUdpBuff k

inductive TableEffect (d : Device) (i : Input) (t : Fin udpSendMax → MultiUdpBuff1) : Prop
  | keep (hc : d.commandOf i = none ∨ d.freeSlot = none) (ha : d.ackOf i = none)
      (hn : ∀ buff sendB src, i ≠ .video .nsReply buff sendB src) (h : t = d.multiUdpBuff)
  | queue {f k} (hc : d.commandOf i = some f) (hk : d.freeSlot = some k)
      (h : t = update d.multiUdpBuff k (f (d.multiUdpBuff k)))
  | ack {k} (ha : d.ackOf i = some k) (h : t = (d.release k).multiUdpBuff)
  | scan {buff sendB src} (hi : i = .video .nsReply buff sendB src)
      (h : t = (d.scanned buff).multiUdpBuff)

theorem TableEffect.same {i : Input} (hc : d.commandOf i = none) (ha : d.ackOf i = none)
    (hn : ∀ buff sendB src, i ≠ .video .nsReply buff sendB src) :
    TableEffect d i d.multiUdpBuff :=
  .keep (Or.inl hc) ha hn rfl

theorem stopTalk_table {i : Input} (hs : d.status ≠ .null)
    (hc : d.commandOf i = some (callEndSlot d)) (ha : d.ackOf i = none)
    (hn : ∀ buff sendB src, i ≠ .video .nsReply buff sendB src) :
    TableEffect d i (stopTalk d).1.multiUdpBuff := by
  cases hf : d.freeSlot with
  | none =>
    rw [stopTalk_full hs hf]
    exact .keep (Or.inr hf) ha hn rfl
  | some k =>
    rw [stopTalk_queued hs hf]
    exact .queue hc hf rfl

theorem startCall_table {ip : List UInt8} {addr : Buf} {uFlag : Int} :
    TableEffect d (.startCall ip addr uFlag) (startCall ip addr uFlag d).1.multiUdpBuff := by
  by_cases h : uFlag = 2 ∧ d.status = .null
  · have hc : d.commandOf (.startCall ip addr uFlag) = some (callSlot (d.dial ip addr)) := if_pos h
    obtain ⟨rfl, hs⟩ := h
    cases hf : d.freeSlot with
    | none =>
      rw [startCall_full hs hf]
      exact .keep (Or.inr hf) rfl (by simp) rfl
    | some k =>
      rw [startCall_queued hs hf]
      exact .queue hc hf rfl
  · rw [startCall_refused h]
    exact .same (if_neg h) rfl (by simp)

theorem findIp_table {addr : Option Buf} {uFlag : Int} :
    TableEffect d (.findIp addr uFlag) (findIp addr uFlag d).1.multiUdpBuff := by
  cases addr with
  | none => exact .same rfl rfl (by simp)
  | some addr =>
    by_cases h : d.status = .null ∧ uFlag = 0
    · have hc : d.commandOf (.findIp (some addr) uFlag) = some (querySlot d addr) := if_pos h
      obtain ⟨hs, rfl⟩ := h
      cases hf : d.freeSlot with
      | none =>
        rw [findIp_full hs hf]
        exact .keep (Or.inr hf) rfl (by simp) rfl
      | some k =>
        rw [findIp_queued hs hf]
        exact .queue hc hf rfl
    · rw [findIp_refused fun hc => h hc.2]
      exact .same (if_neg h) rfl (by simp)

theorem sendInfo_table {data : Buf} {info : Option SendInfo} (h : sendInfo data info d = some r) :
    TableEffect d (.sendInfo data info) r.1.multiUdpBuff := by
  cases info with
  | none =>
    obtain rfl := Option.some.inj h
    exact .same rfl rfl (by simp)
  | some info =>
    cases hf : d.freeSlot with
    | none =>
      rw [sendInfo_full hf] at h
      obtain rfl := Option.some.inj h
      exact .keep (Or.inr hf) rfl (by simp) rfl
    | some k =>
      obtain ⟨m, hm, rfl⟩ := sendInfo_queued hf h
      exact .queue rfl hf (by simp [hm])

theorem tick_table {sendB : Buf} (hc : d.caller) :
    TableEffect d (.tick sendB) (timerThreadTask sendB d).1.multiUdpBuff := by
  by_cases hx : d.expires
  · obtain ⟨v, l, -, -, he⟩ := tick_expire sendB hx.1 hx.2.1 hx.2.2
    rw [he]
    exact stopTalk_table (active_ne_null hx.2.1) (if_pos hx) rfl (by simp)
  · obtain ⟨l, -, he⟩ := tick_keep sendB hc hx
    rw [he]
    exact .same (if_neg hx) rfl (by simp)

theorem openLock_table {buff : Buf} :
    TableEffect d (.openLock buff) (recvOpenLockFunc buff d).1.multiUdpBuff := by
  by_cases h : buff 7 = reply ∧ d.pendingOpenLock.isSome
  · obtain ⟨k, hk⟩ := Option.isSome_iff_exists.mp h.2
    rw [openLock_released h.1 hk]
    exact .ack ((if_pos h.1).trans hk) rfl
  · rw [openLock_ignored h]
    refine .same rfl ?_ (by simp)
    simpa [Device.ackOf] using h

theorem video_table {t : VideoTask} {buff sendB : Buf} {src : IP4} :
    TableEffect d (.video t buff sendB src)
      (runVideoTask t buff sendB (dotted src) d).1.multiUdpBuff := by
  have hne : ¬ask = reply := by decide
  have he := video_effect d t buff sendB (dotted src)
  generalize runVideoTask t buff sendB (dotted src) d = r at he
  cases he with
  | passive ht =>
    rw [passive_keeps Device.multiUdpBuff (fun _ => rfl) ht]
    cases t with
    | call | callConfirm | openLock | forceIFrame | callUpDown => exact .same rfl rfl (by simp)
    | nsReply | lineUse | callAnswer | callStart | callEnd => exact ht.elim
  | resolved | unresolved => exact .scan rfl rfl
  | busy h7 hp | swallowed h7 hp | answered h7 hp => exact .ack ((if_pos h7).trans hp) rfl
  | unused h | unanswered h => exact .same rfl (by simpa [Device.ackOf] using h) (by simp)
  | started => exact .same rfl rfl (by simp)
  | unstarted => exact .same rfl rfl (by simp)
  | ended ha h7 =>
    exact .keep (Or.inl rfl) (if_neg fun h => hne (h7.symm.trans h.2)) (by simp)
      (cleared_multiUdpBuff _)
  | concluded ha h7 hp => exact .ack ((if_pos ⟨ha, h7⟩).trans hp) (cleared_multiUdpBuff _)
  | stray ha h7 hp =>
    exact .keep (Or.inl rfl) (by simpa [Device.ackOf, ha] using hp) (by simp) rfl
  | noCall ha => exact .same rfl (if_neg fun h => ha h.1) (by simp)

/-- Every step of the device is one of the four. -/
theorem step_table {i : Input} (hc : d.caller) (h : d.step i = some r) :
    TableEffect d i r.1.multiUdpBuff := by
  cases i with
  | idle =>
    obtain rfl := Option.some.inj h
    exact .same rfl rfl (by simp)
  | startCall ip addr uFlag =>
    obtain rfl := Option.some.inj h
    exact startCall_table
  | stopTalk =>
    obtain rfl := Option.some.inj h
    by_cases hs : d.status = .null
    · rw [stopTalk_idle hs]
      exact .same (if_pos hs) rfl (by simp)
    · exact stopTalk_table hs (if_neg hs) rfl (by simp)
  | findIp addr uFlag =>
    obtain rfl := Option.some.inj h
    exact findIp_table
  | sendInfo data info => exact sendInfo_table h
  | sendAudio c =>
    rw [(sendAudio_spec h).1]
    exact .same rfl rfl (by simp)
  | sendVideo c frameType =>
    rw [(sendVideo_spec h).1]
    exact .same rfl rfl (by simp)
  | openLock buff =>
    obtain rfl := Option.some.inj h
    exact openLock_table
  | tick sendB =>
    obtain rfl := Option.some.inj h
    exact tick_table hc
  | video t buff sendB src =>
    obtain rfl := Option.some.inj h
    exact video_table

/-- A datagram puts no command into the table. -/
theorem commandOf_recvVideo (s : System) (src : IP4) (dgram : List UInt8) (sendB : Buf) :
    s.dev.commandOf (s.input (.recvVideo src dgram sendB)) = none := by
  unfold System.input
  dsimp only
  split
  · split <;> rfl
  · rfl

theorem commandOf_recvData (s : System) (src : IP4) (dgram : List UInt8) :
    s.dev.commandOf (s.input (.recvData src dgram)) = none := by
  unfold System.input
  dsimp only
  split <;> rfl

inductive Commanded (d : Device) (m : MultiUdpBuff1) : MultiUdpBuff1 → Prop
  | call (e : Device) : Commanded d m (callSlot e m)
  | callEnd : Commanded d m (callEndSlot d m)
  | query (addr : Buf) : Commanded d m (querySlot d addr m)
  | message {e data info m'} (h : messageSlot e data info m = some m') : Commanded d m m'

theorem commandOf_slot {i : Input} {f : MultiUdpBuff1 → MultiUdpBuff1} (h : d.commandOf i = some f)
    (hr : d.step i = some r) {k : Fin udpSendMax} (hk : d.freeSlot = some k) :
    Commanded d (d.multiUdpBuff k) (f (d.multiUdpBuff k)) := by
  cases i with
  | startCall ip addr uFlag =>
    simp only [Device.commandOf, Option.ite_none_right_eq_some, Option.some.injEq] at h
    obtain ⟨-, rfl⟩ := h
    exact .call _
  | stopTalk =>
    simp only [Device.commandOf, Option.ite_none_left_eq_some, Option.some.injEq] at h
    obtain ⟨-, rfl⟩ := h
    exact .callEnd
  | tick sendB =>
    simp only [Device.commandOf, Option.ite_none_right_eq_some, Option.some.injEq] at h
    obtain ⟨-, rfl⟩ := h
    exact .callEnd
  | findIp addr uFlag =>
    cases addr with
    | none => simp [Device.commandOf] at h
    | some addr =>
      simp only [Device.commandOf, Option.ite_none_right_eq_some, Option.some.injEq] at h
      obtain ⟨-, rfl⟩ := h
      exact .query addr
  | sendInfo data info =>
    cases info with
    | none => simp [Device.commandOf] at h
    | some info =>
      obtain ⟨m, hm, -⟩ := sendInfo_queued hk hr
      have hf := Option.some.inj h
      have hfm : f (d.multiUdpBuff k) = m := by rw [← hf]; simp only [hm, Option.getD_some]
      rw [hfm]
      exact .message hm
  | _ => simp [Device.commandOf] at h

/-! The ledger of the table, for any kind of live slot. -/

def Device.queued (d : Device) (used : MultiUdpBuff1 → Bool) (i : Input) : Nat :=
  match d.commandOf i, d.freeSlot with
  | some f, some k => (used (f (d.multiUdpBuff k))).toNat
  | _, _ => 0

def Device.freed (d : Device) (used : MultiUdpBuff1 → Bool) : Input → Nat
  | .video .nsReply buff _ _ =>
    (Finset.univ.filter fun k => d.dropped buff k ∧ used (d.multiUdpBuff k) = true).card
  | i =>
    match d.ackOf i with
    | some k => (used (d.multiUdpBuff k)).toNat
    | none => 0

theorem freed_ack {used : MultiUdpBuff1 → Bool} {i : Input}
    (hn : ∀ buff sendB src, i ≠ .video .nsReply buff sendB src) :
    d.freed used i = match d.ackOf i with
      | some k => (used (d.multiUdpBuff k)).toNat
      | none => 0 := by
  unfold Device.freed
  split
  · exact absurd rfl (hn _ _ _)
  · rfl

theorem commandOf_alone {i : Input} {f : MultiUdpBuff1 → MultiUdpBuff1}
    (h : d.commandOf i = some f) :
    d.ackOf i = none ∧ ∀ buff sendB src, i ≠ .video .nsReply buff sendB src := by
  cases i with
  | video t buff sendB src => simp [Device.commandOf] at h
  | openLock buff => simp [Device.commandOf] at h
  | _ => exact ⟨rfl, by simp⟩

theorem ackOf_alone {i : Input} {k : Fin udpSendMax} (h : d.ackOf i = some k) :
    d.commandOf i = none ∧ ∀ buff sendB src, i ≠ .video .nsReply buff sendB src := by
  refine ⟨?_, ?_⟩
  · cases hc : d.commandOf i with
    | none => rfl
    | some f => simp [(commandOf_alone hc).1] at h
  · rintro buff sendB src rfl
    simp [Device.ackOf] at h

theorem step_usage {i : Input} {used : MultiUdpBuff1 → Bool}
    (hused : ∀ m, used m = true → m.isValid = true) (hc : d.caller) (h : d.step i = some r) :
    usage used r.1.multiUdpBuff + d.freed used i = usage used d.multiUdpBuff + d.queued used i := by
  have hdead {m : MultiUdpBuff1} (hm : m.isValid = false) : used m = false :=
    Bool.eq_false_iff.mpr fun h => by simp [hused m h] at hm
  cases step_table hc h with
  | keep hq ha hn ht =>
    have hz : d.queued used i = 0 := by
      obtain hq | hq := hq <;> simp [Device.queued, hq]
    rw [ht, hz, freed_ack hn, ha]
  | @queue f k hf hk ht =>
    obtain ⟨ha, hn⟩ := commandOf_alone hf
    have hfree : used (d.multiUdpBuff k) = false :=
      hdead (by simpa using first_spec hk)
    have hu := usage_update used d.multiUdpBuff k (f (d.multiUdpBuff k))
    rw [hfree] at hu
    rw [ht, freed_ack hn, ha, Device.queued, hf, hk]
    exact hu
  | @ack k ha ht =>
    obtain ⟨hf, hn⟩ := ackOf_alone ha
    have hu := usage_update used d.multiUdpBuff k { d.multiUdpBuff k with isValid := false }
    have hz : used { d.multiUdpBuff k with isValid := false } = false := hdead rfl
    rw [hz] at hu
    rw [ht, freed_ack hn, ha, Device.queued, hf]
    exact hu
  | @scan buff sendB src hi ht =>
    subst hi
    rw [ht]
    refine usage_drop (d.dropped buff) (fun k hk => ?_) fun k hk => ?_
    · rw [scanned_dropped, if_pos hk]
      have hclear : (clearQuery (d.multiUdpBuff k)).isValid = false := rfl
      exact hdead hclear
    · rw [scanned_dropped, if_neg hk]

end QsaTalk
