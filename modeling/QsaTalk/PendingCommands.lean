import QsaTalk.CommandTable
import QsaTalk.Lifecycle

/-! The CALL and CALLEND commands in the table: what a reply handler can find of them, and how a
step changes their number. -/
namespace QsaTalk
open ByteBuffer SlotTable Function
variable {d : Device} {r : Outcome}

def Device.commands (d : Device) (sub : UInt8) : Nat :=
  usage (fun m => decide (m.holds sub)) d.multiUdpBuff

/-- A talk command in the table is one of the device's own, which the reply handlers can find. -/
def Device.TableOk (d : Device) : Prop :=
  ∀ k, (d.multiUdpBuff k).isValid = true → (d.multiUdpBuff k).buf 6 ≠ videoTalkTrans ∧
    ((d.multiUdpBuff k).buf 6 = videoTalk →
      (d.multiUdpBuff k).mSocket = d.videoSocket ∧ (d.multiUdpBuff k).sendNum < maxSendNum)

theorem callSlot_holds (m : MultiUdpBuff1) : (callSlot d m).holds call := ⟨rfl, rfl, rfl, rfl⟩

theorem callEndSlot_holds (m : MultiUdpBuff1) : (callEndSlot d m).holds callEnd :=
  ⟨rfl, rfl, rfl, rfl⟩

theorem messageSlot_order {data : Buf} {info : SendInfo} {m m' : MultiUdpBuff1}
    (h : messageSlot d data info m = some m') : m'.buf 6 = sendMessage := by
  unfold messageSlot at h
  split at h
  · simp at h
  · rename_i b hb
    obtain rfl := Option.some.inj h
    unfold memcpy at hb
    split at hb
    · obtain rfl := Option.some.inj hb
      have hlt : 6 < 85 := by decide
      exact blit_lt (messageHeader d info m.buf) (slice data 0 info.length.toNat) hlt
    · simp at hb

theorem holds_sub {sub sub' : UInt8} {m : MultiUdpBuff1} (h : m.holds sub) (h' : m.holds sub') :
    sub = sub' :=
  h.2.2.2.symm.trans h'.2.2.2

theorem holds_not_query {buff : Buf} {sub : UInt8} {m : MultiUdpBuff1} (h : m.holds sub) :
    isQuery buff m = false := by
  have hne : (videoTalk == nsOrder) = false := by decide
  simp [isQuery, h.2.1, hne]

/-! What a step does to their number. -/

theorem step_commands {i : Input} (sub : UInt8) (hc : d.caller) (h : d.step i = some r) :
    r.1.commands sub + d.freed (fun m => decide (m.holds sub)) i =
      d.commands sub + d.queued (fun m => decide (m.holds sub)) i :=
  step_usage (fun _ hm => (of_decide_eq_true hm).1) hc h

theorem queued_idle {used : MultiUdpBuff1 → Bool} {i : Input} (h : d.commandOf i = none) :
    d.queued used i = 0 := by
  simp [Device.queued, h]

theorem queued_slot {used : MultiUdpBuff1 → Bool} {i : Input}
    {f : MultiUdpBuff1 → MultiUdpBuff1} (h : d.commandOf i = some f) {b : Bool}
    (hb : ∀ m, used (f m) = b) : d.queued used i = (d.freeSlot.isSome && b).toNat := by
  cases hk : d.freeSlot with
  | none => simp [Device.queued, hk]
  | some k => simp [Device.queued, h, hk, hb]

theorem freed_idle {used : MultiUdpBuff1 → Bool} {i : Input} (h : d.ackOf i = none)
    (hn : ∀ buff sendB src, i ≠ .video .nsReply buff sendB src) : d.freed used i = 0 := by
  rw [freed_ack hn, h]

theorem freed_talk {buff sendB : Buf} {src : IP4} (sub : UInt8) :
    d.freed (fun m => decide (m.holds sub)) (.video .nsReply buff sendB src) = 0 := by
  rw [Device.freed, Finset.card_eq_zero, Finset.filter_eq_empty_iff]
  rintro k - ⟨hk, hh⟩
  have hq : isQuery buff (d.multiUdpBuff k) = true := hk.1
  simp [holds_not_query (of_decide_eq_true hh)] at hq

theorem freed_slot {used : MultiUdpBuff1 → Bool} {i : Input} {k : Fin udpSendMax}
    (h : d.ackOf i = some k) : d.freed used i = (used (d.multiUdpBuff k)).toNat := by
  rw [freed_ack (ackOf_alone h).2, h]

theorem commands_pos {sub : UInt8} :
    0 < d.commands sub ↔ ∃ k, (d.multiUdpBuff k).holds sub := by
  simp [Device.commands, usage_pos]

theorem pendingCall_iff (ht : d.TableOk) : d.pendingCall.isSome ↔ 0 < d.commands call := by
  rw [Device.pendingCall, first_isSome, commands_pos]
  refine exists_congr fun k => ⟨awaits_holds, fun h => ?_⟩
  obtain ⟨hs, hn⟩ := (ht k h.1).2 h.2.1
  simp [MultiUdpBuff1.awaits, isTalk, h.1, hs, hn, h.2.1, h.2.2.1, h.2.2.2]

theorem pendingCallEnd_holds (ht : d.TableOk) {k : Fin udpSendMax}
    (h : d.pendingCallEnd = some k) : (d.multiUdpBuff k).holds callEnd := by
  have ha := first_spec h
  simp only [MultiUdpBuff1.awaits, isTalkOrTrans, Bool.and_eq_true, Bool.or_eq_true, beq_iff_eq,
    decide_eq_true_eq] at ha
  obtain ⟨⟨⟨⟨⟨hv, -⟩, -⟩, h6⟩, h7⟩, h8⟩ := ha
  exact ⟨hv, h6.resolve_right (ht k hv).1, h7, h8⟩

theorem pendingCallEnd_iff (ht : d.TableOk) :
    d.pendingCallEnd.isSome ↔ 0 < d.commands callEnd := by
  rw [commands_pos]
  constructor
  · intro h
    obtain ⟨k, hk⟩ := Option.isSome_iff_exists.mp h
    exact ⟨k, pendingCallEnd_holds ht hk⟩
  · rintro ⟨k, h⟩
    obtain ⟨hs, hn⟩ := (ht k h.1).2 h.2.1
    refine first_isSome.mpr ⟨k, ?_⟩
    simp [MultiUdpBuff1.awaits, isTalkOrTrans, h.1, hs, hn, h.2.1, h.2.2.1, h.2.2.2]

theorem init_order (b : Boot) (k : Fin udpSendMax) :
    ((initParamTask b).dev.multiUdpBuff k).buf 6 = 0 := by
  unfold initParamTask sendFreeArp
  dsimp only
  cases (bootDevice b).freeSlot with
  | none => rfl
  | some j =>
    by_cases hj : k = j
    · subst hj
      simp [arpSlot, bootDevice, emptySlot]
    · simp [hj, bootDevice, emptySlot]

theorem tableOk_init (b : Boot) : (initParamTask b).dev.TableOk := by
  intro k _
  rw [init_order]
  exact ⟨by decide, fun h => absurd h (by decide)⟩

/-- A command that is queued is on the video socket and fresh, unless it is no talk command. -/
theorem commandOf_fresh {i : Input} {f : MultiUdpBuff1 → MultiUdpBuff1} (h : d.commandOf i = some f)
    (hr : d.step i = some r) {k : Fin udpSendMax} (hk : d.freeSlot = some k) :
    (f (d.multiUdpBuff k)).buf 6 ≠ videoTalkTrans ∧ ((f (d.multiUdpBuff k)).buf 6 = videoTalk →
      (f (d.multiUdpBuff k)).mSocket = d.videoSocket ∧
        (f (d.multiUdpBuff k)).sendNum < maxSendNum) := by
  have hfresh : (5 : Int) < maxSendNum := by decide
  have htalk : ¬videoTalk = videoTalkTrans := by decide
  cases i with
  | startCall ip addr uFlag =>
    simp only [Device.commandOf, Option.ite_none_right_eq_some, Option.some.injEq] at h
    obtain ⟨-, rfl⟩ := h
    exact ⟨htalk, fun _ => ⟨rfl, hfresh⟩⟩
  | stopTalk =>
    simp only [Device.commandOf, Option.ite_none_left_eq_some, Option.some.injEq] at h
    obtain ⟨-, rfl⟩ := h
    exact ⟨htalk, fun _ => ⟨rfl, hfresh⟩⟩
  | tick sendB =>
    simp only [Device.commandOf, Option.ite_none_right_eq_some, Option.some.injEq] at h
    obtain ⟨-, rfl⟩ := h
    exact ⟨htalk, fun _ => ⟨rfl, hfresh⟩⟩
  | findIp addr uFlag =>
    cases addr with
    | none => simp [Device.commandOf] at h
    | some addr =>
      simp only [Device.commandOf, Option.ite_none_right_eq_some, Option.some.injEq] at h
      obtain ⟨-, rfl⟩ := h
      exact ⟨(by decide : ¬nsOrder = videoTalkTrans), fun _ => ⟨rfl, hfresh⟩⟩
  | sendInfo data info =>
    cases info with
    | none => simp [Device.commandOf] at h
    | some info =>
      obtain ⟨m, hm, -⟩ := sendInfo_queued hk hr
      have hf := Option.some.inj h
      have hne : ¬sendMessage = videoTalkTrans ∧ ¬sendMessage = videoTalk := by decide
      have h6 : (f (d.multiUdpBuff k)).buf 6 = sendMessage := by
        rw [← hf]
        simp only [hm, Option.getD_some]
        exact messageSlot_order hm
      rw [h6]
      exact ⟨hne.1, fun h => absurd h hne.2⟩
  | _ => simp [Device.commandOf] at h

theorem tableOk_step {i : Input} (hc : d.caller) (ht : d.TableOk) (h : d.step i = some r) :
    r.1.TableOk := by
  have hsock : r.1.videoSocket = d.videoSocket :=
    congrArg (fun x => x.2.2.1) (step_fixed hc h)
  intro k hv
  rw [hsock]
  cases step_table hc h with
  | keep _ _ _ he =>
    rw [he] at hv ⊢
    exact ht k hv
  | @queue f j hf hj he =>
    rw [he] at hv ⊢
    by_cases hk : k = j
    · subst hk
      simp only [update_self]
      exact commandOf_fresh hf h hj
    · rw [update_of_ne hk] at hv ⊢
      exact ht k hv
  | @ack j _ he =>
    rw [he, release_multiUdpBuff] at hv ⊢
    by_cases hk : k = j
    · subst hk
      simp at hv
    · rw [update_of_ne hk] at hv ⊢
      exact ht k hv
  | @scan buff _ _ _ he =>
    rw [he] at hv ⊢
    obtain hs | ⟨-, hs⟩ := scanned_slot buff k
    · rw [hs] at hv ⊢
      exact ht k hv
    · rw [hs] at hv
      simp [clearQuery] at hv

theorem ackOf_live {i : Input} {k : Fin udpSendMax} (h : d.ackOf i = some k) :
    (d.multiUdpBuff k).isValid = true := by
  have hlive {sock : Int} {cmd : UInt8 → Bool} {sub : UInt8}
      (hf : first (MultiUdpBuff1.awaits sock cmd sub) d.multiUdpBuff = some k) :
      (d.multiUdpBuff k).isValid = true := by
    have ha := first_spec hf
    simp only [MultiUdpBuff1.awaits, Bool.and_eq_true] at ha
    exact ha.1.1.1.1.1
  unfold Device.ackOf at h
  split at h
  · exact hlive (Option.ite_none_right_eq_some.mp h).2
  · exact hlive (Option.ite_none_right_eq_some.mp h).2
  · exact hlive (Option.ite_none_right_eq_some.mp h).2
  · exact hlive (Option.ite_none_right_eq_some.mp h).2
  · simp at h

end QsaTalk
