import QsaTalk.HandlerSpecs

/-! `multi_send_thread_func`: the thread that sends the queued commands again and again, and gives
up on those that nobody acknowledged. -/
namespace QsaTalk
open ByteBuffer SlotTable Function

/-- A command goes out when its delay starts anew; those of `ARP_Socket` only count. -/
def MultiUdpBuff1.resent (arpSocket : Int) (m : MultiUdpBuff1) : List Event :=
  if m.sendNum < maxSendNum ∧ m.mSocket ≠ arpSocket ∧ m.sendDelayTime = 0 then [m.transmit] else []

def MultiUdpBuff1.counted (m : MultiUdpBuff1) : MultiUdpBuff1 :=
  if m.sendNum < maxSendNum then
    if m.delayTime ≤ m.sendDelayTime + 100 then
      { m with sendDelayTime := 0, sendNum := m.sendNum + 1 }
    else { m with sendDelayTime := m.sendDelayTime + 100 }
  else m

def expireCommand (i : Fin udpSendMax) (d : Device) : Outcome :=
  let m := d.multiUdpBuff i
  locked (
    if m.mSocket = d.arpSocket then (d.release i, [])
    else if m.buf 6 = videoTalk then
      if m.buf 8 = call then (d.release i, [.currOpt .callFail d.status])
      else if m.buf 8 = callEnd then talkEndClearStatus (d.release i).unwatched
      else (d.release i, [])
    else (d.release i, [.currOpt .ackTimeout d.status]))

def sendSlot (i : Fin udpSendMax) (d : Device) : Outcome :=
  let m := d.multiUdpBuff i
  if m.isValid then
    let r : Outcome := (d.setSlot i m.counted, m.resent d.arpSocket)
    if maxSendNum ≤ m.counted.sendNum then r.andThen (expireCommand i) else r
  else (d, [])

def sendSlots : List (Fin udpSendMax) → Device → Outcome
  | [], d => (d, [])
  | i :: is, d => (sendSlot i d).andThen (sendSlots is)

/-- One pass over the table, the body of `while (HaveDataSend)`. -/
def multiSendPass (d : Device) : Outcome := sendSlots (List.finRange udpSendMax) d

/-! What a turn reports. -/

def MultiUdpBuff1.spent (m : MultiUdpBuff1) : Prop :=
  m.isValid = true ∧ maxSendNum ≤ m.counted.sendNum

instance (m : MultiUdpBuff1) : Decidable m.spent := inferInstanceAs (Decidable (_ ∧ _))

/-- The callback a spent command is given up with, and the Status it leaves. -/
def MultiUdpBuff1.report (arpSocket : Int) (s : CallStatus) (m : MultiUdpBuff1) :
    Option (CbOpt × CallStatus) :=
  if m.mSocket = arpSocket then none
  else if m.buf 6 = videoTalk then
    if m.buf 8 = call then some (.callFail, s)
    else if m.buf 8 = callEnd then some (.talkStop, .null)
    else none
  else some (.ackTimeout, s)

def MultiUdpBuff1.expiry (arpSocket : Int) (s : CallStatus) (m : MultiUdpBuff1) :
    Option (CbOpt × CallStatus) :=
  if m.spent then m.report arpSocket s else none

/-- The callbacks of the slots in turn; each leaves its Status to the next. -/
def expiries (arpSocket : Int) (f : Fin udpSendMax → MultiUdpBuff1) :
    CallStatus → List (Fin udpSendMax) → List (CbOpt × CallStatus)
  | _, [] => []
  | s, i :: is =>
    match (f i).expiry arpSocket s with
    | none => expiries arpSocket f s is
    | some p => p :: expiries arpSocket f p.2 is

def raisedBy (p : CbOpt × CallStatus) : Event := .currOpt p.1 p.2

variable {d : Device} {i : Fin udpSendMax} {m : MultiUdpBuff1}

theorem counted_order (m : MultiUdpBuff1) :
    m.counted.mSocket = m.mSocket ∧ m.counted.buf = m.buf := by
  unfold MultiUdpBuff1.counted
  split
  · split <;> exact ⟨rfl, rfl⟩
  · exact ⟨rfl, rfl⟩

theorem counted_report (arpSocket : Int) (s : CallStatus) :
    m.counted.report arpSocket s = m.report arpSocket s := by
  obtain ⟨hs, hb⟩ := counted_order m
  rw [MultiUdpBuff1.report, MultiUdpBuff1.report, hs, hb]

theorem resent_plain (arpSocket : Int) :
    m.resent arpSocket = [] ∨ ∃ g, m.resent arpSocket = [.send g] := by
  unfold MultiUdpBuff1.resent
  split
  · exact Or.inr ⟨_, rfl⟩
  · exact Or.inl rfl

theorem resent_sends (arpSocket : Int) : ∀ e ∈ m.resent arpSocket, ∃ g, e = .send g := by
  intro e he
  obtain h | ⟨g, h⟩ := resent_plain (m := m) arpSocket
  · simp [h] at he
  · exact ⟨g, by simpa [h] using he⟩

theorem cleared_arpSocket (d : Device) : d.cleared.arpSocket = d.arpSocket := by
  rw [Device.cleared, dropMultiGroup_eq]
  rfl

/-- A spent command is dropped under the lock, with one callback at most, and only a CALLEND
touches the call. -/
theorem expireCommand_spec {p : Option (CbOpt × CallStatus)}
    (hp : (d.multiUdpBuff i).report d.arpSocket d.status = p) :
    (expireCommand i d).2 = .lock :: (p.toList.map raisedBy ++ [.unlock]) ∧
      (expireCommand i d).1.status = (p.map Prod.snd).getD d.status ∧
      (expireCommand i d).1.arpSocket = d.arpSocket ∧
      (expireCommand i d).1.multiUdpBuff = (d.release i).multiUdpBuff := by
  subst hp
  rw [expireCommand, MultiUdpBuff1.report]
  split
  · exact ⟨rfl, rfl, rfl, rfl⟩
  split
  · split
    · exact ⟨rfl, rfl, rfl, rfl⟩
    split
    · exact ⟨rfl, rfl, cleared_arpSocket _, cleared_multiUdpBuff _⟩
    · exact ⟨rfl, rfl, rfl, rfl⟩
  · exact ⟨rfl, rfl, rfl, rfl⟩

theorem sendSlot_invalid (h : (d.multiUdpBuff i).isValid = false) : sendSlot i d = (d, []) := by
  rw [sendSlot, if_neg (by simp [h])]

theorem sendSlot_counts (hv : (d.multiUdpBuff i).isValid = true)
    (hn : ¬maxSendNum ≤ (d.multiUdpBuff i).counted.sendNum) :
    sendSlot i d = (d.setSlot i (d.multiUdpBuff i).counted,
      (d.multiUdpBuff i).resent d.arpSocket) := by
  rw [sendSlot, if_pos hv, if_neg hn]

theorem sendSlot_drops {p : Option (CbOpt × CallStatus)} (hv : (d.multiUdpBuff i).isValid = true)
    (hn : maxSendNum ≤ (d.multiUdpBuff i).counted.sendNum)
    (hp : (d.multiUdpBuff i).report d.arpSocket d.status = p) :
    (sendSlot i d).1.status = (p.map Prod.snd).getD d.status ∧
      (sendSlot i d).1.arpSocket = d.arpSocket ∧
      (sendSlot i d).1.multiUdpBuff = update d.multiUdpBuff i
        { (d.multiUdpBuff i).counted with isValid := false } ∧
      (sendSlot i d).2 = (d.multiUdpBuff i).resent d.arpSocket ++
        .lock :: (p.toList.map raisedBy ++ [.unlock]) := by
  have hself : (d.setSlot i (d.multiUdpBuff i).counted).multiUdpBuff i =
      (d.multiUdpBuff i).counted := update_self _ _ _
  obtain ⟨he, hs, ha, ht⟩ := expireCommand_spec (d := d.setSlot i (d.multiUdpBuff i).counted)
    (i := i) (p := p) (by rw [hself, counted_report]; exact hp)
  rw [sendSlot, if_pos hv, if_pos hn]
  refine ⟨hs, ha, ?_, by rw [andThen_snd, he]⟩
  rw [andThen_fst, ht, release_multiUdpBuff, hself, setSlot_multiUdpBuff, update_idem]

/-- A turn: perhaps a datagram, then, for a spent command, the block that drops it. -/
theorem sendSlot_spec {p : Option (CbOpt × CallStatus)}
    (hp : (d.multiUdpBuff i).expiry d.arpSocket d.status = p) :
    (sendSlot i d).1.status = (p.map Prod.snd).getD d.status ∧
      (sendSlot i d).1.arpSocket = d.arpSocket ∧
      (∀ k, k ≠ i → (sendSlot i d).1.multiUdpBuff k = d.multiUdpBuff k) ∧
      ∃ u v, (sendSlot i d).2 = u ++ v ∧ (∀ e ∈ u, ∃ g, e = .send g) ∧
        (v = [] ∧ p = none ∨ v = .lock :: (p.toList.map raisedBy ++ [.unlock])) := by
  rw [MultiUdpBuff1.expiry] at hp
  cases hv : (d.multiUdpBuff i).isValid with
  | false =>
    rw [if_neg fun h => Bool.false_ne_true (hv.symm.trans h.1)] at hp
    subst hp
    rw [sendSlot_invalid hv]
    exact ⟨rfl, rfl, fun k _ => rfl, [], [], rfl, by simp, Or.inl ⟨rfl, rfl⟩⟩
  | true =>
    by_cases hn : maxSendNum ≤ (d.multiUdpBuff i).counted.sendNum
    · rw [if_pos ⟨hv, hn⟩] at hp
      obtain ⟨hs, ha, ht, he⟩ := sendSlot_drops hv hn hp
      refine ⟨hs, ha, fun k hk => ?_, _, _, he, resent_sends _, Or.inr rfl⟩
      rw [ht, update_of_ne hk]
    · rw [if_neg fun h => hn h.2] at hp
      subst hp
      rw [sendSlot_counts hv hn]
      exact ⟨rfl, rfl, fun k hk => update_of_ne hk _ _, _, [], (List.append_nil _).symm,
        resent_sends _, Or.inl ⟨rfl, rfl⟩⟩

end QsaTalk
