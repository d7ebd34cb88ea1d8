import QsaTalk.Addressing

/-! The operations that put a command into the table: what they do to the other slots, and what
they do when no slot is free. -/
namespace QsaTalk
open ByteBuffer SlotTable Runs Function

inductive Enqueue where
  | startCall (ip : List UInt8) (addr : Buf) (uFlag : Int)
  | stopTalk
  | findIp (addr : Option Buf) (uFlag : Int)
  | sendInfo (data : Buf) (info : Option SendInfo)
  | forceIFrameFunc
  | sendFreeArp

def Enqueue.run (d : Device) : Enqueue → Option Outcome
  | .startCall ip addr uFlag => some (QsaTalk.startCall ip addr uFlag d)
  | .stopTalk => some (QsaTalk.stopTalk d)
  | .findIp addr uFlag => some (QsaTalk.findIp addr uFlag d)
  | .sendInfo data info => QsaTalk.sendInfo data info d
  | .forceIFrameFunc => some (QsaTalk.forceIFrameFunc d)
  | .sendFreeArp => some (QsaTalk.sendFreeArp d)

def Enqueue.fits : Enqueue → Prop
  | .sendInfo _ (some info) => 0 ≤ info.length ∧ 85 + info.length ≤ sizeofBuf
  | _ => True

variable {d e : Device} {r : Outcome} {q : Enqueue} {k : Fin udpSendMax} {m : MultiUdpBuff1}

structure Enqueued (d e : Device) : Prop where
  lowest : ∀ k, e.multiUdpBuff k ≠ d.multiUdpBuff k → d.freeSlot = some k
  fresh : ∀ k, e.multiUdpBuff k ≠ d.multiUdpBuff k → (e.multiUdpBuff k).fresh

theorem enqueued_same (h : e.multiUdpBuff = d.multiUdpBuff) : Enqueued d e :=
  ⟨fun k hk => absurd (congrFun h k) hk, fun k hk => absurd (congrFun h k) hk⟩

theorem enqueued_slot (hf : d.freeSlot = some k) (hm : m.fresh)
    (h : e.multiUdpBuff = update d.multiUdpBuff k m) : Enqueued d e := by
  have hother {j : Fin udpSendMax} (hj : e.multiUdpBuff j ≠ d.multiUdpBuff j) : j = k := by
    by_contra hne
    rw [h, update_of_ne hne] at hj
    exact hj rfl
  refine ⟨fun j hj => ?_, fun j hj => ?_⟩
  · rw [hother hj]
    exact hf
  · rw [hother hj, h, update_self]
    exact hm

/-- A pending command is left as it is. -/
theorem Enqueued.kept (h : Enqueued d e) (hk : (d.multiUdpBuff k).isValid = true) :
    e.multiUdpBuff k = d.multiUdpBuff k := by
  by_contra hne
  have hfree := first_spec (h.lowest k hne)
  rw [hk] at hfree
  exact absurd hfree (by decide)

theorem sendFreeArp_full (hf : d.freeSlot = none) : sendFreeArp d = (d, []) := by
  unfold sendFreeArp
  rw [hf]

theorem sendFreeArp_queued (hf : d.freeSlot = some k) : sendFreeArp d =
    (d.setSlot k (arpSlot d (d.multiUdpBuff k)), [.lock, .unlock, .semPost]) := by
  unfold sendFreeArp
  rw [hf]

theorem sendFreeArp_effect : CommandEffect d (sendFreeArp d) := by
  cases hf : d.freeSlot with
  | none =>
    rw [sendFreeArp_full hf]
    exact .refused
  | some k =>
    rw [sendFreeArp_queued hf]
    exact .queued hf ⟨rfl, (by decide : (3 : Int) < maxSendNum), rfl⟩ (by simp [Event.silent])

theorem CommandEffect.enqueued (h : CommandEffect d r) : Enqueued d r.1 := by
  cases h with
  | refused => exact enqueued_same rfl
  | full hf he => exact enqueued_same rfl
  | queued hf hm he => exact enqueued_slot hf hm rfl

theorem run_effect (h : q.run d = some r) : CommandEffect d r := by
  cases q with
  | sendInfo data info => exact sendInfo_effect h
  | startCall ip addr uFlag =>
    obtain rfl := Option.some.inj h
    exact startCall_effect
  | stopTalk =>
    obtain rfl := Option.some.inj h
    exact stopTalk_effect
  | findIp addr uFlag =>
    obtain rfl := Option.some.inj h
    exact findIp_effect
  | forceIFrameFunc =>
    obtain rfl := Option.some.inj h
    exact forceIFrame_effect
  | sendFreeArp =>
    obtain rfl := Option.some.inj h
    exact sendFreeArp_effect

/-- Every operation is of this kind. -/
theorem run_enqueued (h : q.run d = some r) : Enqueued d r.1 := (run_effect h).enqueued

theorem run_defined (d : Device) (h : q.fits) : ∃ r, q.run d = some r := by
  cases q with
  | sendInfo data info =>
    cases info with
    | none => exact ⟨_, rfl⟩
    | some info =>
      change ∃ r, QsaTalk.sendInfo data (some info) d = some r
      cases hf : d.freeSlot with
      | none => exact ⟨_, sendInfo_full hf⟩
      | some k =>
        obtain ⟨m, hm, -⟩ := messageSlot_eq (d.address info) data (d.multiUdpBuff k) h
        rw [sendInfo_taken hf, hm]
        exact ⟨_, rfl⟩
  | startCall | stopTalk | findIp | forceIFrameFunc | sendFreeArp => exact ⟨_, rfl⟩

/-! Sequences. -/

abbrev Queueing := Transition Device Enqueue (List Event)

def queuedIn (t : Queueing) (k : Fin udpSendMax) : Prop :=
  (t.pre.multiUdpBuff k).isValid = false ∧ (t.post.multiUdpBuff k).isValid = true

/-- No operation disturbs what was pending before it, and no two share a slot. -/
structure Undisturbed (d : Device) (ts : List Queueing) (e : Device) : Prop where
  each : ∀ t ∈ ts, Enqueued t.pre t.post
  kept : ∀ u ∈ states d ts, ∀ k, (u.multiUdpBuff k).isValid = true →
    e.multiUdpBuff k = u.multiUdpBuff k
  apart : ts.Pairwise fun t u => ∀ k, queuedIn t k → ¬queuedIn u k

theorem run_undisturbed {ts : List Queueing} (h : Run Enqueue.run d ts e) : Undisturbed d ts e := by
  induction h with
  | start => exact ⟨by simp, by simp [states], List.Pairwise.nil⟩
  | @step ts s q s' o h hs ih =>
    have hq : Enqueued s s' := run_enqueued hs
    have hkept : ∀ u ∈ states d ts, ∀ k, (u.multiUdpBuff k).isValid = true →
        s'.multiUdpBuff k = u.multiUdpBuff k := by
      intro u hu k hv
      have hsame := ih.kept u hu k hv
      rw [← hsame] at hv ⊢
      exact hq.kept hv
    refine ⟨fun t ht => ?_, fun u hu => ?_, ?_⟩
    · cases List.mem_append.mp ht with
      | inl ht => exact ih.each t ht
      | inr ht =>
        rw [List.mem_singleton.mp ht]
        exact hq
    · rw [states, List.map_append, ← List.cons_append] at hu
      cases List.mem_append.mp hu with
      | inl hu => exact hkept u hu
      | inr hu =>
        rw [List.mem_singleton.mp hu]
        exact fun _ _ => rfl
    · refine List.pairwise_append.mpr ⟨ih.apart, List.pairwise_singleton _ _, fun t ht u hu k htk huk => ?_⟩
      rw [List.mem_singleton.mp hu] at huk
      have hin : t.post ∈ states d ts := List.mem_cons_of_mem d (List.mem_map_of_mem ht)
      have hv := ih.kept t.post hin k htk.2
      have hbusy : (s.multiUdpBuff k).isValid = true := by
        rw [hv]
        exact htk.2
      exact Bool.false_ne_true (huk.1.symm.trans hbusy)

theorem runs_defined (d : Device) {qs : List Enqueue} (h : ∀ q ∈ qs, q.fits) :
    ∃ ts e, Run Enqueue.run d ts e ∧ ts.map Transition.act = qs := by
  induction qs using List.reverseRecOn with
  | nil => exact ⟨[], d, .start, rfl⟩
  | append_singleton qs q ih =>
    obtain ⟨ts, e, hrun, hacts⟩ := ih fun p hp => h p (List.mem_append_left _ hp)
    obtain ⟨r, hr⟩ := run_defined e (h q (by simp))
    exact ⟨_, _, hrun.step hr, by simp [hacts]⟩

/-- Whatever the table, operations one after another take free slots from below and leave the
pending commands alone. -/
theorem commands_undisturbed (d : Device) {qs : List Enqueue} (h : ∀ q ∈ qs, q.fits) :
    ∃ ts e, Run Enqueue.run d ts e ∧ ts.map Transition.act = qs ∧ Undisturbed d ts e := by
  obtain ⟨ts, e, hrun, hacts⟩ := runs_defined d h
  exact ⟨ts, e, hrun, hacts, run_undisturbed hrun⟩

def sampleCommands : List Enqueue :=
  [.findIp (some fun _ => 0x30) 0, .stopTalk, .sendInfo (fun _ => 65) (some sampleInfo),
    .forceIFrameFunc]

theorem sampleCommands_undisturbed : ∃ ts e,
    Run Enqueue.run (initParamTask sampleBoot).dev ts e ∧ ts.map Transition.act = sampleCommands ∧
      Undisturbed (initParamTask sampleBoot).dev ts e :=
  commands_undisturbed _ (by simp [sampleCommands, Enqueue.fits, sampleInfo, sizeofBuf])

/-! A full table. -/

/-- The command would write nothing new into `remote_info`: it is refused before it writes, or the
peer it addresses is the one that stands there. -/
def Enqueue.addressesPeer (d : Device) : Enqueue → Prop
  | .startCall ip addr uFlag => uFlag = 2 → d.status = .null →
    d.remoteInfo.ip 0 = inetAddr ip ∧ d.remoteInfo.denIP = inetAddr ip ∧
      slice (d.remoteInfo.addr 0) 0 20 = roomBytes d.localConfig.address addr
  | .sendInfo _ (some info) => d.remoteInfo.ip 0 = inetAddr info.ip ∧
    slice (d.remoteInfo.addr 0) 0 20 = 'S'.toUInt8 :: slice d.localConfig.address 1 19 ∧
      slice (d.remoteInfo.addr 7) 0 4 = slice info.addr 0 4
  | _ => True

def Enqueue.leaves (d : Device) : Enqueue → Device
  | .startCall ip addr uFlag => if uFlag = 2 ∧ d.status = .null then d.dial ip addr else d
  | .sendInfo _ (some info) => d.address info
  | _ => d

theorem run_full (hf : d.freeSlot = none) (q : Enqueue) :
    ∃ evs, q.run d = some (q.leaves d, evs) ∧ sends evs = [] := by
  cases q with
  | startCall ip addr uFlag =>
    rw [Enqueue.leaves]
    by_cases hq : uFlag = 2 ∧ d.status = .null
    · rw [if_pos hq]
      obtain ⟨rfl, hs⟩ := hq
      exact ⟨[.lock, .unlock], congrArg some (startCall_full hs hf), rfl⟩
    · rw [if_neg hq]
      exact ⟨[], congrArg some (startCall_refused hq), rfl⟩
  | stopTalk =>
    by_cases hs : d.status = .null
    · exact ⟨[], congrArg some (stopTalk_idle hs), rfl⟩
    · exact ⟨[.lock, .unlock], congrArg some (stopTalk_full hs hf), rfl⟩
  | findIp addr uFlag =>
    by_cases hq : addr.isSome ∧ d.status = .null ∧ uFlag = 0
    · obtain ⟨ha, hs, rfl⟩ := hq
      obtain ⟨addr, rfl⟩ := Option.isSome_iff_exists.mp ha
      exact ⟨[.lock, .unlock], congrArg some (findIp_full hs hf), rfl⟩
    · exact ⟨[], congrArg some (findIp_refused hq), rfl⟩
  | sendInfo data info =>
    cases info with
    | none => exact ⟨[], rfl, rfl⟩
    | some info => exact ⟨[], sendInfo_full hf, rfl⟩
  | forceIFrameFunc => exact ⟨[], congrArg some (forceIFrame_full hf), rfl⟩
  | sendFreeArp => exact ⟨[], congrArg some (sendFreeArp_full hf), rfl⟩

theorem eq_iff_slice {a b : Buf} {n : Nat} (h : ∀ k, n ≤ k → a k = b k) :
    a = b ↔ slice a 0 n = slice b 0 n := by
  refine ⟨fun hab => by rw [hab], fun hs => funext fun k => ?_⟩
  by_cases hk : k < n
  · have hget := getElem?_of_slice hs k hk
    rw [getElem?_slice, if_pos hk, Nat.zero_add] at hget
    exact (Option.some.inj hget).symm
  · exact h k (Nat.le_of_not_lt hk)

theorem remote_same_iff {ip : Fin 10 → IP4} {denIP : IP4} {addr : Fin 10 → Buf} :
    { d with remoteInfo := { d.remoteInfo with ip := ip, denIP := denIP, addr := addr } } = d ↔
      ip = d.remoteInfo.ip ∧ denIP = d.remoteInfo.denIP ∧ addr = d.remoteInfo.addr := by
  refine ⟨fun h => ?_, fun ⟨hi, hd, ha⟩ => by rw [hi, hd, ha]⟩
  have hr := congrArg Device.remoteInfo h
  exact ⟨congrArg Remote1.ip hr, congrArg Remote1.denIP hr, congrArg Remote1.addr hr⟩

theorem dial_same_iff (ip : List UInt8) (addr : Buf) : d.dial ip addr = d ↔
    d.remoteInfo.ip 0 = inetAddr ip ∧ d.remoteInfo.denIP = inetAddr ip ∧
      slice (d.remoteInfo.addr 0) 0 20 = roomBytes d.localConfig.address addr := by
  have hbeyond : ∀ k, 20 ≤ k → d.remoteInfo.addr 0 k = roomAddr d (d.remoteInfo.addr 0) addr k := by
    intro k hk
    rw [roomAddr, blit_ge _ _ (by rw [length_slice]; omega), put_ne _ _ (by omega),
      blit_ge _ _ (by rw [length_slice]; omega)]
  have hrow : roomAddr d (d.remoteInfo.addr 0) addr = d.remoteInfo.addr 0 ↔
      slice (d.remoteInfo.addr 0) 0 20 = roomBytes d.localConfig.address addr := by
    rw [eq_comm, eq_iff_slice hbeyond, roomAddr,
      room_patch addr (slice_blit_self _ _ (length_slice _ _ _))]
  rw [Device.dial, remote_same_iff, update_eq_self_iff, update_eq_self_iff, hrow,
    eq_comm (a := d.remoteInfo.ip 0), eq_comm (a := d.remoteInfo.denIP)]

theorem address_same_iff (info : SendInfo) : d.address info = d ↔
    d.remoteInfo.ip 0 = inetAddr info.ip ∧
    slice (d.remoteInfo.addr 0) 0 20 = 'S'.toUInt8 :: slice d.localConfig.address 1 19 ∧
      slice (d.remoteInfo.addr 7) 0 4 = slice info.addr 0 4 := by
  have hbeyond : ∀ k, 20 ≤ k → d.remoteInfo.addr 0 k = put (blit (d.remoteInfo.addr 0) 0
      (slice d.localConfig.address 0 20)) 0 'S'.toUInt8 k := by
    intro k hk
    rw [put_ne _ _ (by omega), blit_ge _ _ (by rw [length_slice]; omega)]
  have hown : slice (blit (d.remoteInfo.addr 0) 0 (slice d.localConfig.address 0 20)) 0 20 =
      slice d.localConfig.address 0 20 := slice_blit_self _ _ (length_slice _ _ _)
  have hrow : put (blit (d.remoteInfo.addr 0) 0 (slice d.localConfig.address 0 20)) 0 'S'.toUInt8 =
      d.remoteInfo.addr 0 ↔
        slice (d.remoteInfo.addr 0) 0 20 = 'S'.toUInt8 :: slice d.localConfig.address 1 19 := by
    rw [eq_comm, eq_iff_slice hbeyond, slice_put_front _ _ 19, slice_within hown (by decide)]
  have hroom : blit (d.remoteInfo.addr 7) 0 (slice info.addr 0 4) = d.remoteInfo.addr 7 ↔
      slice (d.remoteInfo.addr 7) 0 4 = slice info.addr 0 4 := by
    have hbeyond : ∀ k, 4 ≤ k → d.remoteInfo.addr 7 k =
        blit (d.remoteInfo.addr 7) 0 (slice info.addr 0 4) k := by
      intro k hk
      rw [blit_ge _ _ (by rw [length_slice]; omega)]
    rw [eq_comm, eq_iff_slice hbeyond, slice_blit_self _ _ (length_slice _ _ _)]
  have hrows (a b : Buf) : update (update d.remoteInfo.addr 0 a) 7 b = d.remoteInfo.addr ↔
      a = d.remoteInfo.addr 0 ∧ b = d.remoteInfo.addr 7 := by
    constructor
    · intro h
      have h0 := congrFun h 0
      have h7 := congrFun h 7
      rw [update_of_ne (by decide), update_self] at h0
      rw [update_self] at h7
      exact ⟨h0, h7⟩
    · rintro ⟨rfl, rfl⟩
      rw [update_eq_self, update_eq_self]
  rw [Device.address, remote_same_iff, update_eq_self_iff, hrows, hrow, hroom,
    eq_comm (a := d.remoteInfo.ip 0), and_iff_right rfl]

/-- With the table full, a command sends nothing; it changes nothing just when it addresses the
peer that stands in `remote_info`. -/
theorem unqueued_iff (hfull : ∀ k, (d.multiUdpBuff k).isValid = true) (q : Enqueue) :
    (∃ r, q.run d = some r ∧ r.1 = d ∧ sends r.2 = []) ↔ q.addressesPeer d := by
  have hf : d.freeSlot = none := first_eq_none.mpr fun k => by rw [hfull k]; rfl
  obtain ⟨evs, hrun, hsent⟩ := run_full hf q
  have hsame : (∃ r, q.run d = some r ∧ r.1 = d ∧ sends r.2 = []) ↔ q.leaves d = d := by
    rw [hrun]
    simp [hsent]
  rw [hsame]
  cases q with
  | startCall ip addr uFlag =>
    rw [Enqueue.leaves, Enqueue.addressesPeer, ← dial_same_iff]
    by_cases hq : uFlag = 2 ∧ d.status = .null
    · rw [if_pos hq]
      exact ⟨fun h _ _ => h, fun h => h hq.1 hq.2⟩
    · rw [if_neg hq]
      exact iff_of_true rfl fun h2 hs => absurd ⟨h2, hs⟩ hq
  | sendInfo data info =>
    cases info with
    | none => exact iff_of_true rfl trivial
    | some info => exact address_same_iff info
  | stopTalk | findIp | forceIFrameFunc | sendFreeArp => exact iff_of_true rfl trivial

def fullTalker : Device :=
  { sampleTalker with
    multiUdpBuff := fun _ => { emptySlot with isValid := true }
    remoteInfo := { sampleTalker.remoteInfo with ip := fun _ => ⟨192, 168, 10, 5⟩ } }

theorem fullTalker_unqueued :
    ∃ r, Enqueue.stopTalk.run fullTalker = some r ∧ r.1 = fullTalker ∧ sends r.2 = [] :=
  (unqueued_iff (fun _ => rfl) .stopTalk).mpr trivial

/-- A message elsewhere cannot be queued, and redirects the call. -/
theorem peer_redirected : ¬∃ r,
    (Enqueue.sendInfo (fun _ => 65) (some sampleInfo)).run fullTalker = some r ∧ r.1 = fullTalker ∧
      sends r.2 = [] := by
  have hf : fullTalker.freeSlot = none := first_eq_none.mpr fun _ => rfl
  rintro ⟨r, hr, hd, -⟩
  have hrun : sendInfo (fun _ => 65) (some sampleInfo) fullTalker =
      some (fullTalker.address sampleInfo, []) := sendInfo_full hf
  obtain rfl := Option.some.inj (hrun.symm.trans hr)
  have hip : inetAddr sampleInfo.ip = (⟨192, 168, 10, 5⟩ : IP4) :=
    congrArg (fun e : Device => e.remoteInfo.ip 0) hd
  exact absurd hip (by decide)

end QsaTalk
