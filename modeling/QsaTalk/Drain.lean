import QsaTalk.Lib.RoundRobin
import QsaTalk.SendThread
import QsaTalk.System

/-! The inner loop of `multi_send_thread_func`: passes over the table until no command is left. The
slots take turns, and each counts for itself. -/
namespace QsaTalk
open ByteBuffer SlotTable Function Loops RoundRobin

def intMax : Int := 2147483647

/-- `SendDelayTime += 100` stays an `int`; beyond, C gives the program no meaning. -/
def MultiUdpBuff1.countable (m : MultiUdpBuff1) : Prop :=
  m.sendNum < maxSendNum → m.sendDelayTime + 100 ≤ intMax

instance (m : MultiUdpBuff1) : Decidable m.countable := inferInstanceAs (Decidable (_ → _))

def slotTurn (i : Fin udpSendMax) (d : Device) : Option Outcome :=
  if (d.multiUdpBuff i).isValid = true → (d.multiUdpBuff i).countable then some (sendSlot i d)
  else none

def haveDataSend (d : Device) : Bool := decide (∃ i, (d.multiUdpBuff i).isValid = true)

abbrev SendTurn := Turn (Fin udpSendMax) Device (List Event)
abbrev Draining := Rounds (Fin udpSendMax) Device (List Event)

def drainPass : Draining → Option Draining :=
  Rounds.next slotTurn haveDataSend (List.finRange udpSendMax)

def woken (d : Device) : Draining := ⟨true, d, []⟩

def Drains (d : Device) (n : Nat) (r : Draining) : Prop :=
  Loop Rounds.go (fun r r' => drainPass r = some r') n (woken d) r

def spoken (ts : List SendTurn) : List Event := ts.flatMap Turn.out

def MultiUdpBuff1.datagram (m : MultiUdpBuff1) : Datagram :=
  ⟨m.mSocket, inetAddr m.remoteHost, m.remotePort, slice m.buf 0 m.nlength⟩

/-- The tables the loop is meant for, with delays that an `int` can be counted up to. -/
structure Drainable (d : Device) : Prop where
  fresh : ∀ i, (d.multiUdpBuff i).isValid = true → (d.multiUdpBuff i).sendDelayTime = 0 ∧
    0 ≤ (d.multiUdpBuff i).sendNum ∧ 0 ≤ (d.multiUdpBuff i).delayTime
  fits : ∀ i, (d.multiUdpBuff i).isValid = true → (d.multiUdpBuff i).sendNum < maxSendNum →
    (d.multiUdpBuff i).delayTime ≤ intMax - intMax % 100

def MultiUdpBuff1.period (m : MultiUdpBuff1) : Nat := max 1 ((m.delayTime + 99) / 100).toNat

def MultiUdpBuff1.passes (m : MultiUdpBuff1) : Nat :=
  if m.isValid then (maxSendNum - m.sendNum).toNat * m.period else 0

def Device.passes (d : Device) : Nat :=
  max 1 (Finset.univ.sup fun i => (d.multiUdpBuff i).passes)

def MultiUdpBuff1.transmissions (arpSocket : Int) (m : MultiUdpBuff1) : Nat :=
  if m.mSocket = arpSocket then 0 else (maxSendNum - m.sendNum).toNat

/-- A turn in which the block that drops a spent command is run, once, with its callback. -/
def ExpiryOf (arpSocket : Int) (m : MultiUdpBuff1) (t : SendTurn) : Prop :=
  ∃ u, (∀ e ∈ u, ∃ g, e = .send g) ∧ t.out =
    u ++ .lock :: (((m.report arpSocket t.pre.status).toList.map raisedBy) ++ [.unlock])

def expiryTurns (ts : List SendTurn) : List SendTurn := ts.filter fun t => decide (.lock ∈ t.out)

structure Settled (arpSocket : Int) (before after : MultiUdpBuff1) (ts : List SendTurn) : Prop where
  invalid : after.isValid = false
  untouched : before.isValid = false → after = before ∧ spoken ts = []
  sent : before.isValid = true →
    sends (spoken ts) = List.replicate (before.transmissions arpSocket) before.datagram
  expired : before.isValid = true → ∃ t, expiryTurns ts = [t] ∧ ExpiryOf arpSocket before t

variable {d : Device} {i : Fin udpSendMax} {m m₀ : MultiUdpBuff1} {arpSocket : Int}
  {ts : List SendTurn}

/-! One turn. -/

/-- Whoever's turn it is, the other slots and the sockets stay as they are. -/
theorem sendSlot_local (i : Fin udpSendMax) (d : Device) : (sendSlot i d).1.arpSocket = d.arpSocket ∧
    ∀ j, j ≠ i → (sendSlot i d).1.multiUdpBuff j = d.multiUdpBuff j :=
  let h := sendSlot_spec (d := d) (i := i) rfl
  ⟨h.2.1, h.2.2.1⟩

/-! One slot's counters. -/

/-- A command that has been counted up to `SendNum` and `SendDelayTime`, with its turns so far. -/
structure Counting (arpSocket : Int) (m₀ m : MultiUdpBuff1) (ts : List SendTurn) : Prop where
  valid : m.isValid = true
  same : m = { m₀ with sendNum := m.sendNum, sendDelayTime := m.sendDelayTime }
  level : m₀.sendNum ≤ m.sendNum ∧ (m.sendNum < maxSendNum ∨ m.sendNum = m₀.sendNum)
  delay : 0 ≤ m.sendDelayTime ∧ m.sendDelayTime % 100 = 0 ∧
    (m.sendDelayTime = 0 ∨ m.sendDelayTime < m₀.delayTime ∧ m.sendNum < maxSendNum)
  sent : sends (spoken ts) = List.replicate (if m₀.mSocket = arpSocket then 0 else
    (m.sendNum - m₀.sendNum).toNat + if m.sendDelayTime = 0 then 0 else 1) m₀.datagram
  unexpired : expiryTurns ts = []

def Progress (arpSocket : Int) (m₀ m : MultiUdpBuff1) (ts : List SendTurn) : Prop :=
  Counting arpSocket m₀ m ts ∨ Settled arpSocket m₀ m ts

def MultiUdpBuff1.left (m : MultiUdpBuff1) : Nat :=
  if m.isValid then
    max 1 ((maxSendNum - m.sendNum).toNat * m.period - (m.sendDelayTime / 100).toNat)
  else 0

theorem spoken_concat (ts : List SendTurn) (t : SendTurn) : spoken (ts ++ [t]) = spoken ts ++ t.out := by
  rw [spoken, List.flatMap_append, List.flatMap_singleton, spoken]

theorem expiryTurns_concat (ts : List SendTurn) (t : SendTurn) :
    expiryTurns (ts ++ [t]) = expiryTurns ts ++ if .lock ∈ t.out then [t] else [] := by
  rw [expiryTurns, List.filter_append, expiryTurns]
  congr 1
  by_cases h : .lock ∈ t.out
  · rw [if_pos h, List.filter_cons_of_pos (by simpa using h), List.filter_nil]
  · rw [if_neg h, List.filter_cons_of_neg (by simpa using h), List.filter_nil]

/-- A turn sends the command when its delay starts anew. -/
theorem Counting.resent (h : Counting arpSocket m₀ m ts) : m.resent arpSocket =
    if m₀.mSocket ≠ arpSocket ∧ m.sendNum < maxSendNum ∧ m.sendDelayTime = 0 then
      [.send m₀.datagram] else [] := by
  rw [MultiUdpBuff1.resent, h.same]
  dsimp only
  by_cases hc : m.sendNum < maxSendNum ∧ m₀.mSocket ≠ arpSocket ∧ m.sendDelayTime = 0
  · rw [if_pos hc, if_pos ⟨hc.2.1, hc.1, hc.2.2⟩]
    rfl
  · rw [if_neg hc, if_neg fun h => hc ⟨h.2.1, h.1, h.2.2⟩]

theorem Counting.left (h : Counting arpSocket m₀ m ts) : m.left =
    max 1 ((maxSendNum - m.sendNum).toNat * m₀.period - (m.sendDelayTime / 100).toNat) := by
  have hp : m.period = m₀.period := by
    rw [MultiUdpBuff1.period, h.same]
    rfl
  rw [MultiUdpBuff1.left, if_pos h.valid, hp]

theorem lock_not_resent : .lock ∉ m.resent arpSocket := by
  obtain h | ⟨g, h⟩ := resent_plain (m := m) arpSocket <;> simp [h]

/-- Behind a turn the command has been sent once on every level it has reached. -/
theorem Counting.sent_next (h : Counting arpSocket m₀ m ts) (hn : m.sendNum < maxSendNum) :
    sends (spoken ts) ++ sends (m.resent arpSocket) = List.replicate
      (if m₀.mSocket = arpSocket then 0 else (m.sendNum - m₀.sendNum).toNat + 1) m₀.datagram := by
  rw [h.sent, h.resent]
  by_cases harp : m₀.mSocket = arpSocket
  · rw [if_pos harp, if_pos harp, if_neg fun hc => hc.1 harp]
    rfl
  · rw [if_neg harp, if_neg harp]
    by_cases hs : m.sendDelayTime = 0
    · rw [if_pos hs, if_pos ⟨harp, hn, hs⟩, List.replicate_succ']
      rfl
    · rw [if_neg hs, if_neg fun hc => hs hc.2.2]
      exact List.append_nil _

theorem counted_low (hn : ¬maxSendNum ≤ m.counted.sendNum) : m.sendNum < maxSendNum := by
  by_contra hno
  rw [MultiUdpBuff1.counted, if_neg hno] at hn
  exact hn (Int.not_lt.mp hno)

/-- A turn that only counts. -/
theorem Counting.counts (h : Counting arpSocket m₀ m ts) (hn : ¬maxSendNum ≤ m.counted.sendNum)
    {t : SendTurn} (ht : t.out = m.resent arpSocket) :
    Counting arpSocket m₀ m.counted (ts ++ [t]) := by
  have hlow := counted_low hn
  have hlevel := h.level
  have hdelay := h.delay
  have hdelayTime : m.delayTime = m₀.delayTime := by rw [h.same]
  have hout : expiryTurns (ts ++ [t]) = [] := by
    rw [expiryTurns_concat, h.unexpired, if_neg (ht ▸ lock_not_resent)]
    rfl
  have hsent : sends (spoken (ts ++ [t])) = List.replicate
      (if m₀.mSocket = arpSocket then 0 else (m.sendNum - m₀.sendNum).toNat + 1) m₀.datagram := by
    rw [spoken_concat, sends_append, ht]
    exact h.sent_next hlow
  rw [MultiUdpBuff1.counted, if_pos hlow] at hn ⊢
  by_cases hstart : m.delayTime ≤ m.sendDelayTime + 100
  · rw [if_pos hstart] at hn ⊢
    refine ⟨h.valid, ?_, ?_, ?_, ?_, hout⟩
    · rw [h.same]
    · dsimp only at hn ⊢
      omega
    · exact ⟨Int.le_refl 0, rfl, Or.inl rfl⟩
    · rw [hsent]
      congr 2
      dsimp only
      rw [if_pos rfl]
      omega
  · rw [if_neg hstart]
    have hpos : m.sendDelayTime + 100 ≠ 0 := by omega
    refine ⟨h.valid, ?_, ?_, ?_, ?_, hout⟩
    · rw [h.same]
    · exact ⟨hlevel.1, Or.inl hlow⟩
    · dsimp only
      omega
    · rw [hsent]
      dsimp only
      rw [if_neg hpos]

/-- The delay grows by one pass, or starts anew on the next level. -/
theorem Counting.left_counted (h : Counting arpSocket m₀ m ts) {us : List SendTurn}
    (h' : Counting arpSocket m₀ m.counted us) (hn : ¬maxSendNum ≤ m.counted.sendNum) :
    m.counted.left ≤ m.left - 1 := by
  have hmax : maxSendNum = 6 := rfl
  have hlow := counted_low hn
  have hdelay := h.delay
  have hdelayTime : m.delayTime = m₀.delayTime := by rw [h.same]
  obtain ⟨k, hk⟩ : ∃ k, (maxSendNum - m.sendNum).toNat = k + 1 :=
    Nat.exists_eq_succ_of_ne_zero (by omega)
  rw [h'.left, h.left, hk, Nat.succ_mul]
  have hperiod : m₀.period = max 1 ((m₀.delayTime + 99) / 100).toNat := rfl
  rw [MultiUdpBuff1.counted, if_pos hlow] at hn ⊢
  by_cases hstart : m.delayTime ≤ m.sendDelayTime + 100
  · rw [if_pos hstart] at hn ⊢
    dsimp only at hn ⊢
    have hk' : (maxSendNum - (m.sendNum + 1)).toNat = k := by omega
    have hmul : m₀.period ≤ k * m₀.period := Nat.le_mul_of_pos_left _ (by omega)
    rw [hk']
    generalize k * m₀.period = q at hmul ⊢
    omega
  · rw [if_neg hstart]
    dsimp only
    rw [hk, Nat.succ_mul]
    generalize k * m₀.period = q
    omega

/-- The turn in which the command is dropped. -/
theorem Counting.drops (h : Counting arpSocket m₀ m ts) (hn : maxSendNum ≤ m.counted.sendNum)
    {m' : MultiUdpBuff1} (hm : m'.isValid = false) {t : SendTurn}
    (ht : t.out = m.resent arpSocket ++
      .lock :: (((m.report arpSocket t.pre.status).toList.map raisedBy) ++ [.unlock])) :
    Settled arpSocket m₀ m' (ts ++ [t]) := by
  have hmax : maxSendNum = 6 := rfl
  have hlevel := h.level
  have hvalid : m₀.isValid = true := by
    rw [← h.valid, h.same]
  have hreport : m.report arpSocket t.pre.status = m₀.report arpSocket t.pre.status := by
    rw [h.same]
    rfl
  have hquiet : sends t.out = sends (m.resent arpSocket) := by
    rw [ht, sends_append]
    cases m.report arpSocket t.pre.status <;> exact List.append_nil _
  refine ⟨hm, fun hno => ?_, fun _ => ?_, fun _ => ⟨t, ?_, m.resent arpSocket, ?_, ?_⟩⟩
  · rw [hvalid] at hno
    exact Bool.noConfusion hno
  · rw [spoken_concat, sends_append, hquiet, MultiUdpBuff1.transmissions]
    by_cases hlow : m.sendNum < maxSendNum
    · rw [h.sent_next hlow]
      congr 2
      rw [MultiUdpBuff1.counted, if_pos hlow] at hn
      split at hn <;> dsimp only at hn <;> omega
    · have hsilent : m.resent arpSocket = [] := if_neg fun hc => hlow hc.1
      rw [h.sent, hsilent, sends_nil, List.append_nil]
      congr 2
      have hdelay := h.delay
      rw [if_pos (by omega)]
      omega
  · rw [expiryTurns_concat, h.unexpired, if_pos (by simp [ht])]
    rfl
  · exact resent_sends arpSocket
  · rw [ht, hreport]

/-- A turn of a slot without a command. -/
theorem Settled.skips (h : Settled arpSocket m₀ m ts) {t : SendTurn} (ht : t.out = []) :
    Settled arpSocket m₀ m (ts ++ [t]) := by
  have hs : spoken (ts ++ [t]) = spoken ts := by
    rw [spoken_concat, ht, List.append_nil]
  have he : expiryTurns (ts ++ [t]) = expiryTurns ts := by
    rw [expiryTurns_concat, ht, if_neg (by simp), List.append_nil]
  exact ⟨h.invalid, hs ▸ h.untouched, hs ▸ h.sent, he ▸ h.expired⟩

theorem Counting.countable (h : Counting arpSocket m₀ m ts)
    (hf : m₀.sendNum < maxSendNum → m₀.delayTime ≤ intMax - intMax % 100) : m.countable := by
  intro hn
  have hlevel := h.level
  have hdelay := h.delay
  have hmax : maxSendNum = 6 := rfl
  have hint : intMax = 2147483647 := rfl
  have hfits := hf (by omega)
  omega

/-- The turns of a table that the loop is meant for. -/
theorem drain_discipline (h : Drainable d) : Discipline slotTurn Device.multiUdpBuff
    (fun e => e.arpSocket = d.arpSocket) (fun i m ts => Progress d.arpSocket (d.multiUdpBuff i) m ts)
    MultiUdpBuff1.left := by
  refine ⟨fun i e ts he hp => ?_⟩
  obtain ⟨harp, hother⟩ := sendSlot_local i e
  cases hv : (e.multiUdpBuff i).isValid with
  | false =>
    have hturn : slotTurn i e = some (e, []) := by
      rw [slotTurn, if_pos (by simp [hv]), sendSlot_invalid hv]
    have hset := hp.resolve_left fun hc => by simp [hc.valid] at hv
    have hzero : (e.multiUdpBuff i).left = 0 := by
      rw [MultiUdpBuff1.left, hv]
      rfl
    exact ⟨e, [], hturn, he, Or.inr (hset.skips rfl), by omega, fun _ _ => rfl⟩
  | true =>
    have hc := hp.resolve_right fun hs => by simp [hs.invalid] at hv
    have hvalid : (d.multiUdpBuff i).isValid = true := by
      rw [← hv, hc.same]
    have hturn : slotTurn i e = some (sendSlot i e) := by
      rw [slotTurn, if_pos fun _ => hc.countable (h.fits i hvalid)]
    refine ⟨(sendSlot i e).1, (sendSlot i e).2, hturn, harp.trans he, ?_⟩
    by_cases hn : maxSendNum ≤ (e.multiUdpBuff i).counted.sendNum
    · obtain ⟨-, -, ht, hout⟩ := sendSlot_drops hv hn rfl
      have hgone : ((sendSlot i e).1.multiUdpBuff i).isValid = false := by
        rw [ht, update_self]
      rw [he] at hout
      refine ⟨Or.inr (hc.drops hn hgone hout), ?_, hother⟩
      rw [MultiUdpBuff1.left, hgone]
      exact Nat.zero_le _
    · have hslot := sendSlot_counts hv hn
      rw [he] at hslot
      have hself : (sendSlot i e).1.multiUdpBuff i = (e.multiUdpBuff i).counted := by
        rw [hslot]
        exact update_self _ _ _
      rw [hself]
      have hcount : Counting d.arpSocket (d.multiUdpBuff i) (e.multiUdpBuff i).counted
          (ts ++ [⟨i, e, (sendSlot i e).2⟩]) := hc.counts hn (by rw [hslot])
      exact ⟨Or.inl hcount, hc.left_counted hcount hn, hother⟩

theorem left_pos (m : MultiUdpBuff1) : 0 < m.left ↔ m.isValid = true := by
  rw [MultiUdpBuff1.left]
  cases m.isValid <;> simp

theorem haveDataSend_iff (d : Device) : haveDataSend d = true ↔ ∃ i, 0 < (d.multiUdpBuff i).left := by
  rw [haveDataSend, decide_eq_true_iff]
  exact exists_congr fun i => (left_pos _).symm

theorem drainable_start (h : Drainable d) (i : Fin udpSendMax) :
    Progress d.arpSocket (d.multiUdpBuff i) (d.multiUdpBuff i) [] := by
  cases hv : (d.multiUdpBuff i).isValid with
  | true =>
    obtain ⟨hs, -, -⟩ := h.fresh i hv
    refine Or.inl ⟨hv, rfl, ⟨Int.le_refl _, Or.inr rfl⟩, ?_, ?_, rfl⟩
    · rw [hs]
      exact ⟨Int.le_refl 0, rfl, Or.inl rfl⟩
    · rw [hs, if_pos rfl, Int.sub_self]
      split <;> rfl
  | false =>
    have hno {P : Prop} (ht : (d.multiUdpBuff i).isValid = true) : P := by simp [hv] at ht
    exact Or.inr ⟨hv, fun _ => ⟨rfl, rfl⟩, hno, hno⟩

/-- The bound of the whole table. -/
theorem left_le_passes (h : Drainable d) :
    max 1 (Finset.univ.sup fun i => (d.multiUdpBuff i).left) ≤ d.passes := by
  refine max_le (le_max_left _ _) (Finset.sup_le fun i _ => ?_)
  have hsup : (d.multiUdpBuff i).passes ≤ Finset.univ.sup fun i => (d.multiUdpBuff i).passes :=
    Finset.le_sup (f := fun i => (d.multiUdpBuff i).passes) (Finset.mem_univ i)
  have hslot : (d.multiUdpBuff i).left ≤ max 1 (d.multiUdpBuff i).passes := by
    cases hv : (d.multiUdpBuff i).isValid with
    | false =>
      rw [MultiUdpBuff1.left, hv]
      exact Nat.zero_le _
    | true =>
      obtain ⟨hs, -, -⟩ := h.fresh i hv
      rw [MultiUdpBuff1.left, MultiUdpBuff1.passes, if_pos hv, if_pos hv, hs]
      exact Nat.le_refl _
  exact hslot.trans (max_le_max_left 1 hsup)

theorem drain_ends (h : Drainable d) : ∃ n r, n ≤ d.passes ∧ Drains d n r ∧
    ∀ i, Settled d.arpSocket (d.multiUdpBuff i) (r.now.multiUdpBuff i) (own i r.log) := by
  obtain ⟨n, r, hn, hloop, -, hr⟩ := (drain_discipline h).rounds (List.nodup_finRange _)
    (List.mem_finRange) haveDataSend_iff rfl (drainable_start h)
  refine ⟨n, r, hn.trans (left_le_passes h), hloop, fun i => ?_⟩
  obtain ⟨hp, hzero⟩ := hr i
  refine hp.resolve_left fun hc => ?_
  have hpos := (left_pos _).mpr hc.valid
  omega

/-- Where no delay overflows, the turns of a pass are those of `multiSendPass`. -/
theorem turnsOf_sendSlots {is : List (Fin udpSendMax)} {e : Device}
    (h : turnsOf slotTurn is d = some (e, ts)) : sendSlots is d = (e, spoken ts) := by
  induction is generalizing d ts with
  | nil =>
    obtain ⟨rfl, rfl⟩ := Prod.mk.inj (Option.some.inj h)
    rfl
  | cons i is ih =>
    rw [turnsOf, slotTurn] at h
    split at h
    · exact absurd h (by simp)
    · rename_i t out hturn
      split at hturn
      · obtain hslot : sendSlot i d = (t, out) := Option.some.inj hturn
        split at h
        · exact absurd h (by simp)
        · rename_i u us hround
          obtain ⟨rfl, rfl⟩ := Prod.mk.inj (Option.some.inj h)
          rw [sendSlots, Outcome.andThen, hslot, ih hround]
          rfl
      · exact absurd hturn (by simp)

theorem drains_unique {n k : Nat} {r u : Draining} (h : Drains d n r) (hu : Drains d k u) :
    k = n ∧ u = r :=
  Loop.functional (fun _ _ _ ht ht' => Option.some.inj (ht.symm.trans ht')) hu h

theorem drains_settled (h : Drainable d) {n : Nat} {r : Draining} (hr : Drains d n r)
    (i : Fin udpSendMax) :
    Settled d.arpSocket (d.multiUdpBuff i) (r.now.multiUdpBuff i) (own i r.log) := by
  obtain ⟨k, u, -, hdrain, hu⟩ := drain_ends h
  obtain ⟨-, rfl⟩ := drains_unique hr hdrain
  exact hu i

/-- The loop comes to an end after so many passes, and in one way only. -/
theorem table_drained (h : Drainable d) : ∃ n r, n ≤ d.passes ∧ Drains d n r ∧
    (∀ k u, Drains d k u → k = n ∧ u = r) ∧
    ∀ i, Settled d.arpSocket (d.multiUdpBuff i) (r.now.multiUdpBuff i) (own i r.log) := by
  obtain ⟨n, r, hn, hdrain, hr⟩ := drain_ends h
  exact ⟨n, r, hn, hdrain, fun k u => drains_unique hdrain, hr⟩

def slot0 : Fin udpSendMax := ⟨0, by decide⟩
def slot7 : Fin udpSendMax := ⟨7, by decide⟩

def sampleTable : Device :=
  let d := (bootDevice sampleBoot).setSlot slot0 { emptySlot with
    isValid := true, sendNum := 4, mSocket := 3, delayTime := 250, nlength := 8 }
  { d.setSlot slot7 { emptySlot with isValid := true, sendNum := 3, mSocket := 5, delayTime := 100 }
    with arpSocket := 5 }

theorem sampleTable_drained : ∃ n r, n ≤ 6 ∧ Drains sampleTable n r ∧
    sends (spoken (own slot0 r.log)) =
      List.replicate 2 ⟨3, inetAddr [], 0, List.replicate 8 0⟩ ∧
    sends (spoken (own slot7 r.log)) = [] := by
  have hd : Drainable sampleTable := ⟨by decide +kernel, by decide +kernel⟩
  obtain ⟨n, r, hn, hloop, -, hr⟩ := table_drained hd
  have hpasses : sampleTable.passes = 6 := by decide +kernel
  exact ⟨n, r, hpasses ▸ hn, hloop, (hr slot0).sent rfl, (hr slot7).sent rfl⟩

def overlong : Device :=
  (bootDevice sampleBoot).setSlot slot0
    { emptySlot with isValid := true, mSocket := 3, delayTime := intMax }

def Overlong (m : MultiUdpBuff1) : Prop :=
  m.isValid = true ∧ m.sendNum = 0 ∧ m.delayTime = intMax ∧ m.sendDelayTime % 100 = 0

theorem overlong_turn {i : Fin udpSendMax} {d e : Device} {out : List Event}
    (h : slotTurn i d = some (e, out)) (ho : Overlong (d.multiUdpBuff i)) :
    Overlong (e.multiUdpBuff i) := by
  obtain ⟨hv, hnum, hdelay, hmod⟩ := ho
  have hint : intMax = 2147483647 := rfl
  have hmax : maxSendNum = 6 := rfl
  have hlow : (d.multiUdpBuff i).sendNum < maxSendNum := by omega
  rw [slotTurn] at h
  split at h
  · rename_i hcount
    have hfit := hcount hv hlow
    have hshort : ¬(d.multiUdpBuff i).delayTime ≤ (d.multiUdpBuff i).sendDelayTime + 100 := by omega
    have hcounted : (d.multiUdpBuff i).counted = { d.multiUdpBuff i with
        sendDelayTime := (d.multiUdpBuff i).sendDelayTime + 100 } := by
      rw [MultiUdpBuff1.counted, if_pos hlow, if_neg hshort]
    have hslot := Option.some.inj h
    rw [sendSlot_counts hv (by rw [hcounted]; dsimp only; omega)] at hslot
    have he : e.multiUdpBuff i = (d.multiUdpBuff i).counted := by
      obtain rfl : d.setSlot i (d.multiUdpBuff i).counted = e := congrArg Prod.fst hslot
      exact update_self _ _ _
    rw [he, hcounted]
    refine ⟨hv, hnum, hdelay, ?_⟩
    dsimp only
    omega
  · exact absurd h (by simp)

/-- The loop never gets to the end of that delay. -/
theorem overlong_undrained : (∀ i, (overlong.multiUdpBuff i).isValid = true →
      (overlong.multiUdpBuff i).sendDelayTime = 0 ∧ 0 ≤ (overlong.multiUdpBuff i).sendNum ∧
      0 ≤ (overlong.multiUdpBuff i).delayTime) ∧ ¬∃ n r, Drains overlong n r := by
  refine ⟨by decide +kernel, ?_⟩
  refine Loop.never (I := fun r => r.go = true ∧ Overlong (r.now.multiUdpBuff slot0)) ?_ (fun r hr => hr.1)
    ?_
  · exact ⟨rfl, rfl, rfl, rfl, rfl⟩
  · rintro r r' ⟨-, ho⟩ hpass
    rw [drainPass, Rounds.next] at hpass
    split at hpass
    · exact absurd hpass (by simp)
    · rename_i e us hround
      have he : Overlong (e.multiUdpBuff slot0) :=
        turnsOf_keeps (fun s t e => overlong_turn)
          (fun j s t e hj hturn => ?_) hround ho
      · obtain rfl := Option.some.inj hpass
        exact ⟨decide_eq_true ⟨slot0, he.1⟩, he⟩
      · rw [slotTurn] at hturn
        split at hturn
        · rw [← (sendSlot_local j s).2 slot0 (Ne.symm hj), Option.some.inj hturn]
        · exact absurd hturn (by simp)

end QsaTalk
