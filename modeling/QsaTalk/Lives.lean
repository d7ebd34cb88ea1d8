import QsaTalk.Saturation
import QsaTalk.Sessions

/-! The process over all its sessions. `init_param_task` does not empty the command table, so
each start takes one more slot of it for the free-ARP command, which nobody acknowledges. The
lock and the semaphore are assumed to outlive their destruction at the end of the first session,
as before. -/
namespace QsaTalk
open ByteBuffer SlotTable Function Runs

/-- The process with the ARP sockets it has opened; nothing closes them. -/
structure Process where
  sys : System
  arps : List Int

inductive Use where
  | restart (b : Boot)
  | act (a : Action)

/-- `socket()` never hands out the number of a socket that is open, where the step is `none`. -/
def Process.step (p : Process) : Use → Option (Process × List Event)
  | .restart b =>
    if b.videoSocket ∈ p.arps ∨ b.dataSocket ∈ p.arps then none
    else some (⟨p.sys.restart b, b.arpSocket :: p.arps⟩, (sendFreeArp (p.sys.uninit.dev.booted b)).2)
  | .act a =>
    match p.sys.step a with
    | none => none
    | some (s, evs) => some (⟨s, p.arps⟩, evs)

def Process.first (b : Boot) : Process := ⟨initParamTask b, [b.arpSocket]⟩

abbrev Process.slot (p : Process) (k : Fin udpSendMax) : MultiUdpBuff1 := p.sys.dev.multiUdpBuff k

abbrev LifeStep := Transition Process Use (List Event)

abbrev Life (b : Boot) (us : List LifeStep) (p : Process) : Prop :=
  Run Process.step (Process.first b) us p

def MultiUdpBuff1.stranded (m : MultiUdpBuff1) : Bool :=
  m.isValid && m.delayTime == 100 && !decide m.looksAsking

/-- The use is a start whose free-ARP command gets a slot and is stranded in it. -/
def Process.strands (p : Process) : Use → Bool
  | .restart _ =>
    match p.sys.dev.freeSlot with
    | none => false
    | some k => !decide (p.slot k).looksAsking
  | .act _ => false

def strandings (us : List LifeStep) : Nat := (us.map fun t => (t.pre.strands t.act).toNat).sum

def Device.outOfReach (d : Device) (m : MultiUdpBuff1) : Prop :=
  m.buf 6 = 0 ∨ m.mSocket ≠ d.videoSocket ∧ m.mSocket ≠ d.dataSocket

variable {d : Device} {r : Outcome} {b b' : Boot} {p p₁ q : Process} {us vs : List LifeStep}
  {k : Fin udpSendMax} {m : MultiUdpBuff1} {evs : List Event}

theorem stranded_iff : m.stranded = true ↔
    m.isValid = true ∧ m.delayTime = 100 ∧ ¬m.looksAsking := by
  simp [MultiUdpBuff1.stranded, and_assoc]

theorem stranded_live (h : m.stranded = true) : live m = true := (stranded_iff.mp h).1

theorem stranded_invalid (h : m.isValid = false) : m.stranded = false := by
  simp [MultiUdpBuff1.stranded, h]

theorem arpSlot_stranded : (arpSlot d m).stranded = !decide m.looksAsking := rfl

/-! What a step of the device leaves alone. -/

theorem awaits_in_reach {sock : Int} {cmd : UInt8 → Bool} {sub : UInt8}
    (h : m.awaits sock cmd sub = true) (hcmd : cmd 0 = false) : m.mSocket = sock ∧ m.buf 6 ≠ 0 := by
  simp only [MultiUdpBuff1.awaits, Bool.and_eq_true, beq_iff_eq] at h
  obtain ⟨⟨⟨⟨⟨-, hs⟩, -⟩, h6⟩, -⟩, -⟩ := h
  refine ⟨hs, fun h0 => ?_⟩
  rw [h0, hcmd] at h6
  exact Bool.false_ne_true h6

theorem ackOf_in_reach {i : Input} (h : d.ackOf i = some k) :
    ¬d.outOfReach (d.multiUdpBuff k) := by
  have hreach {sock : Int} {cmd : UInt8 → Bool} {sub : UInt8}
      (hsock : sock = d.videoSocket ∨ sock = d.dataSocket) (hcmd : cmd 0 = false)
      (hf : first (MultiUdpBuff1.awaits sock cmd sub) d.multiUdpBuff = some k) :
      ¬d.outOfReach (d.multiUdpBuff k) := by
    obtain ⟨hs, h6⟩ := awaits_in_reach (first_spec hf) hcmd
    rintro (h0 | ⟨hv, hd⟩)
    · exact h6 h0
    · obtain h | h := hsock
      · exact hv (hs.trans h)
      · exact hd (hs.trans h)
  unfold Device.ackOf at h
  split at h
  · exact hreach (Or.inl rfl) (by decide) (Option.ite_none_right_eq_some.mp h).2
  · exact hreach (Or.inl rfl) (by decide) (Option.ite_none_right_eq_some.mp h).2
  · exact hreach (Or.inl rfl) (by decide) (Option.ite_none_right_eq_some.mp h).2
  · exact hreach (Or.inr rfl) (by decide) (Option.ite_none_right_eq_some.mp h).2
  · simp at h

theorem dropped_asks {buff : Buf} (h : d.dropped buff k) : (d.multiUdpBuff k).looksAsking := by
  have hq : isQuery buff (d.multiUdpBuff k) = true := h.1
  simp only [isQuery, Bool.and_eq_true, beq_iff_eq] at hq
  exact ⟨hq.1.1.2, hq.1.2⟩

/-- A stranded slot out of reach is neither taken again nor released. -/
theorem stranded_kept {i : Input} (hc : d.caller) (h : d.step i = some r)
    (hs : (d.multiUdpBuff k).stranded = true) (hfar : d.outOfReach (d.multiUdpBuff k)) :
    r.1.multiUdpBuff k = d.multiUdpBuff k := by
  obtain ⟨hv, -, hq⟩ := stranded_iff.mp hs
  cases step_table hc h with
  | keep _ _ _ ht => rw [ht]
  | @queue f j _ hj ht =>
    rw [ht, update_of_ne]
    rintro rfl
    exact Bool.false_ne_true ((free_slot_invalid hj).symm.trans hv)
  | @ack j ha ht =>
    rw [ht, release_multiUdpBuff, update_of_ne]
    rintro rfl
    exact ackOf_in_reach ha hfar
  | @scan buff _ _ _ ht => rw [ht, scanned_dropped, if_neg fun hd => hq (dropped_asks hd)]

theorem commanded_delay {m' : MultiUdpBuff1} (h : Commanded d m m') : m'.delayTime = directCallTime := by
  cases h with
  | call | callEnd | query => rfl
  | message hm =>
    unfold messageSlot at hm
    split at hm
    · simp at hm
    · obtain rfl := Option.some.inj hm
      rfl

/-- No step strands a command. -/
theorem stranded_old {i : Input} (hc : d.caller) (h : d.step i = some r)
    (hs : (r.1.multiUdpBuff k).stranded = true) : r.1.multiUdpBuff k = d.multiUdpBuff k := by
  have hne : ¬directCallTime = 100 := by decide
  obtain ⟨hv, hd, -⟩ := stranded_iff.mp hs
  cases step_table hc h with
  | keep _ _ _ ht => rw [ht]
  | @queue f j hf hj ht =>
    rw [ht, update_of_ne]
    rintro rfl
    rw [ht, update_self, commanded_delay (commandOf_slot hf h hj)] at hd
    exact hne hd
  | @ack j _ ht =>
    rw [ht, release_multiUdpBuff, update_of_ne]
    rintro rfl
    rw [ht, release_multiUdpBuff, update_self] at hv
    exact Bool.false_ne_true hv
  | @scan buff _ _ _ ht =>
    rw [ht, scanned_dropped, if_neg]
    intro hdrop
    rw [ht, scanned_dropped, if_pos hdrop] at hv
    exact Bool.false_ne_true hv

/-! The sockets of the stranded commands are those of earlier sessions. -/

structure Process.Ok (p : Process) : Prop where
  caller : p.sys.dev.caller
  arp : p.sys.dev.arpSocket ∈ p.arps
  old : ∀ k, (p.slot k).stranded = true → (p.slot k).buf 6 = 0 ∨ (p.slot k).mSocket ∈ p.arps
  far : ∀ k, (p.slot k).stranded = true → p.sys.dev.outOfReach (p.slot k)

theorem restart_sockets (s : System) (b : Boot) : (s.restart b).dev.videoSocket = b.videoSocket ∧
    (s.restart b).dev.dataSocket = b.dataSocket ∧ (s.restart b).dev.arpSocket = b.arpSocket := by
  unfold System.restart System.init sendFreeArp
  dsimp only
  split <;> exact ⟨rfl, rfl, rfl⟩

theorem restart_step (h : p.step (.restart b) = some (q, evs)) :
    (b.videoSocket ∉ p.arps ∧ b.dataSocket ∉ p.arps) ∧
      q = ⟨p.sys.restart b, b.arpSocket :: p.arps⟩ := by
  simp only [Process.step] at h
  split at h
  · simp at h
  · rename_i hno
    simp only [Option.some.injEq, Prod.mk.injEq] at h
    exact ⟨not_or.mp hno, h.1.symm⟩

theorem restart_taken (hv : b.videoSocket ∉ p.arps) (hd : b.dataSocket ∉ p.arps) :
    ∃ evs, p.step (.restart b) = some (⟨p.sys.restart b, b.arpSocket :: p.arps⟩, evs) :=
  ⟨_, if_neg (not_or.mpr ⟨hv, hd⟩)⟩

theorem act_step {a : Action} (h : p.step (.act a) = some (q, evs)) :
    p.sys.step a = some (q.sys, evs) ∧ q.arps = p.arps := by
  simp only [Process.step] at h
  split at h
  · simp at h
  · rename_i s o hs
    simp only [Option.some.injEq, Prod.mk.injEq] at h
    obtain ⟨rfl, rfl⟩ := h
    exact ⟨hs, rfl⟩

theorem ok_first (b : Boot) : (Process.first b).Ok := by
  have h6 (k : Fin udpSendMax) : ((Process.first b).slot k).buf 6 = 0 := init_order b k
  refine ⟨caller_init b, ?_, fun k _ => Or.inl (h6 k), fun k _ => Or.inl (h6 k)⟩
  exact List.mem_singleton_self _

/-- The new sockets are none of the old ARP sockets, which the free-ARP command goes out on too. -/
theorem ok_restart (h : p.Ok) (hs : p.step (.restart b) = some (q, evs)) : q.Ok := by
  obtain ⟨⟨hv, hd⟩, rfl⟩ := restart_step hs
  obtain ⟨hvs, hds, has⟩ := restart_sockets p.sys b
  have hslot (k : Fin udpSendMax) (hk : ((p.sys.restart b).dev.multiUdpBuff k).stranded = true) :
      ((p.sys.restart b).dev.multiUdpBuff k).buf 6 = 0 ∨
        ((p.sys.restart b).dev.multiUdpBuff k).mSocket ∈ p.arps := by
    rw [restart_slot] at hk ⊢
    split
    · exact Or.inr h.arp
    · rename_i hf
      rw [if_neg hf] at hk
      exact h.old k hk
  refine ⟨Or.inl (restart_status _ _), ?_, fun k hk => ?_, fun k hk => ?_⟩
  · exact has ▸ List.mem_cons_self
  · exact (hslot k hk).imp_right (List.mem_cons_of_mem _)
  · obtain h0 | hm := hslot k hk
    · exact Or.inl h0
    · refine Or.inr ⟨fun he => hv ?_, fun he => hd ?_⟩
      · rwa [← hvs, ← he]
      · rwa [← hds, ← he]

theorem ok_act {a : Action} (h : p.Ok) (hs : p.step (.act a) = some (q, evs)) : q.Ok := by
  obtain ⟨hs, harps⟩ := act_step hs
  have hd := device_step hs
  have hfixed := step_fixed h.caller hd
  have hvs : q.sys.dev.videoSocket = p.sys.dev.videoSocket := congrArg (fun x => x.2.2.1) hfixed
  have hds : q.sys.dev.dataSocket = p.sys.dev.dataSocket := congrArg (fun x => x.2.2.2.1) hfixed
  have has : q.sys.dev.arpSocket = p.sys.dev.arpSocket := congrArg (fun x => x.2.2.2.2) hfixed
  have hslot (k : Fin udpSendMax) (hk : (q.slot k).stranded = true) : q.slot k = p.slot k :=
    stranded_old h.caller hd hk
  refine ⟨caller_step _ _ _ _ h.caller hs, ?_, fun k hk => ?_, fun k hk => ?_⟩
  · rw [has, harps]
    exact h.arp
  · have he := hslot k hk
    rw [he] at hk ⊢
    rw [harps]
    exact h.old k hk
  · have he := hslot k hk
    rw [he] at hk ⊢
    rw [Device.outOfReach, hvs, hds]
    exact h.far k hk

theorem ok_step (p : Process) (x : Use) (q : Process) (evs : List Event) (h : p.Ok)
    (hs : p.step x = some (q, evs)) : q.Ok := by
  cases x with
  | restart b => exact ok_restart h hs
  | act a => exact ok_act h hs

theorem life_ok (h : Life b us p) : p.Ok := h.invariant (ok_first b) ok_step

/-- Nothing a process does any more touches a stranded slot. -/
theorem stranded_stays (x : Use) (h : p.Ok) (hs : p.step x = some (q, evs))
    (hk : (p.slot k).stranded = true) : q.slot k = p.slot k := by
  cases x with
  | restart b =>
    obtain ⟨-, rfl⟩ := restart_step hs
    have hv := (stranded_iff.mp hk).1
    refine (restart_slot p.sys b k).trans (if_neg fun hf => ?_)
    exact Bool.false_ne_true ((free_slot_invalid hf).symm.trans hv)
  | act a => exact stranded_kept h.caller (device_step (act_step hs).1) hk (h.far k hk)

theorem stranded_run (h : p.Ok) (hk : (p.slot k).stranded = true) (hq : Run Process.step p vs q) :
    q.slot k = p.slot k := by
  have hinv : q.Ok ∧ q.slot k = p.slot k := by
    refine hq.invariant (J := fun q => q.Ok ∧ q.slot k = p.slot k) ⟨h, rfl⟩ ?_
    intro u x u' evs ⟨hu, he⟩ hs
    exact ⟨ok_step _ _ _ _ hu hs, (stranded_stays x hu hs (he ▸ hk)).trans he⟩
  exact hinv.2

/-! A name reply can free a slot that still looks like a query. -/

theorem replyTo_not_exit (buff : Buf) (m : MultiUdpBuff1) :
    isExit (receive buff (replyTo m)) = false := by
  have h57 : (replyTo m).length = 57 := rfl
  have h0 : receive buff (replyTo m) 0 = 81 := receive_byte buff (by omega) rfl
  rw [isExit, h0]
  rfl

theorem reply_step (p : Process) (m : MultiUdpBuff1) (hv : p.sys.videoRcv = true)
    (hf : p.sys.udpRecvFlag = true) : ∃ q evs,
      p.step (.act (.recvVideo sampleHost (replyTo m) fun _ => 0)) = some (q, evs) ∧
      q.sys.videoRcv = true ∧ q.sys.udpRecvFlag = true ∧
      q.sys.dev.multiUdpBuff = (p.sys.dev.scanned (receive p.sys.videoBuff (replyTo m))).multiUdpBuff := by
  have hs : p.sys.step (.recvVideo sampleHost (replyTo m) fun _ => 0) = _ := step_recvVideo hv
  rw [replyTo_not_exit, hf, udpVideoRcv, replyTo_task] at hs
  refine ⟨_, _, by rw [Process.step, hs], rfl, rfl, ?_⟩
  exact (nsReply_effect _).1

/-- Of the queries a reply answers it takes the first; the reply to the one at `k`, sent again and
again, comes to `k`. -/
theorem asked_cleared (n : Nat) : ∀ p : Process, p.sys.videoRcv = true → p.sys.udpRecvFlag = true →
    (p.slot k).asks = true → usage MultiUdpBuff1.asks p.sys.dev.multiUdpBuff ≤ n →
    ∃ vs q, Run Process.step p vs q ∧ (q.slot k).isValid = false := by
  induction n with
  | zero =>
    intro p _ _ hk hn
    have hpos : 0 < usage MultiUdpBuff1.asks p.sys.dev.multiUdpBuff := usage_pos.mpr ⟨k, hk⟩
    omega
  | succ n ih =>
    intro p hv hf hk hn
    obtain ⟨q, evs, hs, hv', hf', ht⟩ := reply_step p (p.slot k) hv hf
    obtain ⟨hpos, hans⟩ := replyTo_answers p.sys.videoBuff hk
    generalize receive p.sys.videoBuff (replyTo (p.slot k)) = buff at ht hpos hans
    obtain ⟨hquery, hhit⟩ := scan_pending hpos
    by_cases hd : p.sys.dev.dropped buff k
    · refine ⟨_, q, Run.start.step hs, ?_⟩
      rw [Process.slot, ht, scanned_dropped, if_pos hd]
      rfl
    · obtain ⟨j, hj⟩ := Option.isSome_iff_exists.mp (first_isSome.mpr ⟨k, hans⟩)
      have hdrop : p.sys.dev.dropped buff j := swept_of_first (by rw [hhit]; exact hj)
      have hask : (p.slot j).asks = true := hquery ▸ hdrop.1
      have hu : usage MultiUdpBuff1.asks q.sys.dev.multiUdpBuff +
          (Finset.univ.filter fun i => p.sys.dev.dropped buff i ∧ (p.slot i).asks = true).card =
            usage MultiUdpBuff1.asks p.sys.dev.multiUdpBuff := by
        refine usage_drop (p.sys.dev.dropped buff) (fun i hi => ?_) fun i hi => ?_
        · rw [ht, scanned_dropped, if_pos hi]
          rfl
        · rw [ht, scanned_dropped, if_neg hi]
      have hcard : 0 < (Finset.univ.filter fun i =>
          p.sys.dev.dropped buff i ∧ (p.slot i).asks = true).card :=
        Finset.card_pos.mpr ⟨j, Finset.mem_filter.mpr ⟨Finset.mem_univ j, hdrop, hask⟩⟩
      have hkeep : q.slot k = p.slot k := by rw [Process.slot, ht, scanned_dropped, if_neg hd]
      obtain ⟨vs, u, hrun, hend⟩ := ih q hv' hf' (hkeep ▸ hk) (by omega)
      exact ⟨_, u, Run.cons hs hrun, hend⟩

/-- The slot a start takes for its free-ARP command stays with that command for the rest of the
process, unless the command put there before was a name query. -/
theorem slot_lost_iff (h : Life b us p) (hs : p.step (.restart b') = some (p₁, evs))
    (hk : p.sys.dev.freeSlot = some k) :
    (∀ vs q, Run Process.step p₁ vs q → q.slot k = p₁.slot k) ↔ ¬(p.slot k).looksAsking := by
  obtain ⟨-, rfl⟩ := restart_step hs
  have harp : (p.sys.restart b').dev.multiUdpBuff k = arpSlot p.sys.dev (p.slot k) :=
    (restart_slot p.sys b' k).trans (if_pos hk)
  constructor
  · intro hlost hlooks
    have hask : ((p.sys.restart b').dev.multiUdpBuff k).asks = true :=
      (restart_asks k).mpr (Or.inr ⟨hk, hlooks⟩)
    obtain ⟨vs, q, hrun, hend⟩ := asked_cleared (k := k) _ ⟨p.sys.restart b', b'.arpSocket :: p.arps⟩
      rfl rfl hask le_rfl
    rw [hlost vs q hrun] at hend
    exact Bool.false_ne_true (hend.symm.trans (asks_valid hask))
  · intro hlooks vs q hrun
    have hstr : ((p.sys.restart b').dev.multiUdpBuff k).stranded = true := by
      rw [harp, arpSlot_stranded]
      simpa using hlooks
    exact stranded_run (ok_restart (life_ok h) hs) hstr hrun

def laterBoot (n : Nat) : Boot := { sampleBoot with arpSocket := 6 + n }

/-- The second start takes slot 1 for good. -/
theorem second_slot_lost : ∃ p₁ evs,
    (Process.first sampleBoot).step (.restart (laterBoot 0)) = some (p₁, evs) ∧
    ∀ vs q, Run Process.step p₁ vs q → q.slot ⟨1, by decide⟩ = p₁.slot ⟨1, by decide⟩ := by
  have hk : (Process.first sampleBoot).sys.dev.freeSlot = some ⟨1, by decide⟩ := by decide +kernel
  have hlooks : ¬((Process.first sampleBoot).slot ⟨1, by decide⟩).looksAsking := by decide +kernel
  obtain ⟨evs, hs⟩ := restart_taken (p := Process.first sampleBoot) (b := laterBoot 0) (by decide)
    (by decide)
  exact ⟨_, evs, hs, (slot_lost_iff .start hs hk).mpr hlooks⟩

/-! How many there are. -/

theorem first_slots (b : Boot) (k : Fin udpSendMax) :
    (Process.first b).slot k = emptySlot ∨ (Process.first b).slot k = arpSlot (bootDevice b) emptySlot := by
  unfold Process.first initParamTask sendFreeArp
  dsimp only
  cases (bootDevice b).freeSlot with
  | none => exact Or.inl rfl
  | some j =>
    by_cases hj : k = j
    · subst hj
      exact Or.inr (update_self _ _ _)
    · exact Or.inl (update_of_ne hj _ _)

theorem first_stranded (b : Boot) (k : Fin udpSendMax) :
    ((Process.first b).slot k).stranded = live ((Process.first b).slot k) := by
  obtain h | h := first_slots b k <;> rw [h] <;> rfl

theorem strands_full (hf : p.sys.dev.freeSlot = none) : p.strands (.restart b) = false := by
  unfold Process.strands
  rw [hf]

theorem strands_free (hf : p.sys.dev.freeSlot = some k) :
    p.strands (.restart b) = !decide (p.slot k).looksAsking := by
  unfold Process.strands
  rw [hf]

theorem restart_usage (p : Process) (b : Boot) :
    usage MultiUdpBuff1.stranded (p.sys.restart b).dev.multiUdpBuff =
      usage MultiUdpBuff1.stranded p.sys.dev.multiUdpBuff + (p.strands (.restart b)).toNat := by
  cases hf : p.sys.dev.freeSlot with
  | none =>
    rw [strands_full hf]
    refine usage_congr fun i => ?_
    rw [restart_slot, hf, if_neg (by simp)]
  | some k =>
    have htable : (p.sys.restart b).dev.multiUdpBuff =
        update p.sys.dev.multiUdpBuff k (arpSlot p.sys.dev (p.slot k)) := by
      funext i
      rw [restart_slot, hf]
      by_cases hi : k = i
      · subst hi
        rw [if_pos rfl, update_self]
      · rw [if_neg fun h => hi (Option.some.inj h), update_of_ne fun h => hi h.symm]
    have hu := usage_update MultiUdpBuff1.stranded p.sys.dev.multiUdpBuff k
      (arpSlot p.sys.dev (p.slot k))
    rw [stranded_invalid (free_slot_invalid hf), arpSlot_stranded, ← strands_free (b := b) hf] at hu
    rw [htable]
    exact hu

theorem stranded_step (p : Process) (x : Use) (q : Process) (evs : List Event) (h : p.Ok)
    (hs : p.step x = some (q, evs)) : usage MultiUdpBuff1.stranded q.sys.dev.multiUdpBuff =
      usage MultiUdpBuff1.stranded p.sys.dev.multiUdpBuff + (p.strands x).toNat := by
  cases x with
  | restart b =>
    obtain ⟨-, rfl⟩ := restart_step hs
    exact restart_usage p b
  | act a =>
    refine usage_congr fun k => Bool.eq_iff_iff.mpr ⟨fun hk => ?_, fun hk => ?_⟩
    · have he := stranded_old h.caller (device_step (act_step hs).1) hk
      rwa [he] at hk
    · have he : q.sys.dev.multiUdpBuff k = p.sys.dev.multiUdpBuff k := stranded_stays _ h hs hk
      rwa [he]

/-- As many free-ARP commands are stranded as there were starts to strand one. -/
theorem life_stranded (h : Life b us p) :
    usage MultiUdpBuff1.stranded p.sys.dev.multiUdpBuff = strandings us + 1 := by
  have hfirst : usage MultiUdpBuff1.stranded (Process.first b).sys.dev.multiUdpBuff = 1 :=
    (usage_agree (first_stranded b)).trans (init_usage b)
  have hl := h.ledger (fun p => usage MultiUdpBuff1.stranded p.sys.dev.multiUdpBuff)
    (fun t => (t.pre.strands t.act).toNat) (fun _ => 0) (ok_first b) ok_step stranded_step
  rw [hfirst, List.map_const', List.sum_replicate] at hl
  simpa [strandings, Nat.add_comm] using hl

structure Silenced (d : Device) : Prop where
  startCall : ∀ ip addr uFlag, sends (startCall ip addr uFlag d).2 = []
  stopTalk : sends (stopTalk d).2 = []
  findIp : ∀ addr uFlag, sends (findIp addr uFlag d).2 = []

theorem silenced_full (hf : d.freeSlot = none) : Silenced d := by
  refine ⟨fun ip addr uFlag => ?_, ?_, fun addr uFlag => ?_⟩
  · by_cases h : uFlag = 2 ∧ d.status = .null
    · obtain ⟨rfl, hs⟩ := h
      rw [startCall_full hs hf]
      rfl
    · rw [startCall_refused h]
      rfl
  · by_cases hs : d.status = .null
    · rw [stopTalk_idle hs]
      rfl
    · rw [stopTalk_full hs hf]
      rfl
  · by_cases h : addr.isSome ∧ d.status = .null ∧ uFlag = 0
    · obtain ⟨hsome, hs, rfl⟩ := h
      obtain ⟨addr, rfl⟩ := Option.isSome_iff_exists.mp hsome
      rw [findIp_full hs hf]
      rfl
    · rw [findIp_refused h]
      rfl

/-- The starts that strand their command are fewer than the slots, and once there has been one for
each slot but the first, the library is silent for good. -/
theorem starts_exhaust (h : Life b us p) : strandings us < udpSendMax ∧
    (strandings us + 1 = udpSendMax → ∀ vs q, Run Process.step p vs q → Silenced q.sys.dev) := by
  have hlt (ws : List LifeStep) (u : Process) (hu : Life b ws u) : strandings ws < udpSendMax := by
    have hle := usage_le MultiUdpBuff1.stranded u.sys.dev.multiUdpBuff
    rwa [life_stranded hu] at hle
  refine ⟨hlt us p h, fun hfull vs q hq => silenced_full ?_⟩
  have hlife : Life b (us ++ vs) q := h.trans hq
  have hsum : strandings (us ++ vs) = strandings us + strandings vs := by
    simp [strandings]
  have hall : usage MultiUdpBuff1.stranded q.sys.dev.multiUdpBuff = udpSendMax := by
    have hlast := hlt _ _ hlife
    rw [life_stranded hlife]
    omega
  refine first_eq_none.mpr fun k => ?_
  have hk := stranded_live (usage_eq_size.mp hall k)
  simpa [live] using hk

/-- The library started over and over. -/
theorem restarts_pile_up (n : Nat) (hn : n ≤ 49) : ∃ us p, Life sampleBoot us p ∧
    us.map Transition.act = (List.range n).map (fun i => .restart (laterBoot i)) ∧
    strandings us = n ∧ (∀ x ∈ p.arps, 5 ≤ x) ∧
    ∀ k, (p.slot k).buf 6 = 0 ∧ (p.slot k).stranded = live (p.slot k) := by
  have hzero : ¬(0 : UInt8) = nsOrder := by decide
  induction n with
  | zero =>
    refine ⟨[], Process.first sampleBoot, .start, rfl, rfl, ?_, fun k =>
      ⟨init_order sampleBoot k, first_stranded sampleBoot k⟩⟩
    intro x hx
    rw [List.mem_singleton.mp hx]
    decide
  | succ n ih =>
    obtain ⟨us, p, hrun, hact, hsum, harps, hslots⟩ := ih (by omega)
    have hlive : usage live p.sys.dev.multiUdpBuff = n + 1 := by
      rw [← usage_agree fun k => (hslots k).2, life_stranded hrun, hsum]
    have hf : p.sys.dev.freeSlot ≠ none := by
      rw [Ne, freeSlot_none_iff, hlive, udpSendMax]
      omega
    obtain ⟨k, hk⟩ := Option.ne_none_iff_exists'.mp hf
    have hlooks : ¬(p.slot k).looksAsking := fun h => hzero ((hslots k).1.symm.trans h.1)
    have hstrands : p.strands (.restart (laterBoot n)) = true := by
      rw [strands_free hk]
      simpa using hlooks
    have hopen (x : Int) (hx : x < 5) : x ∉ p.arps := fun h => absurd (harps x h) (by omega)
    obtain ⟨evs, hs⟩ := restart_taken (b := laterBoot n) (hopen 3 (by decide)) (hopen 4 (by decide))
    refine ⟨_, _, hrun.step hs, by simp [hact, List.range_succ], ?_, ?_, fun i => ?_⟩
    · rw [strandings, List.map_append, List.sum_append, ← strandings, hsum]
      simp [hstrands]
    · rintro x (_ | ⟨_, hx⟩)
      · simp only [laterBoot]
        omega
      · exact harps x hx
    · dsimp only [Process.slot]
      rw [restart_slot]
      split
      · rename_i hi
        obtain rfl := Option.some.inj (hk.symm.trans hi)
        refine ⟨(hslots k).1, ?_⟩
        rw [arpSlot_stranded, decide_eq_false hlooks]
        rfl
      · exact hslots i

/-- Restarted forty-nine times, the library calls nobody any more. -/
theorem restarts_exhaust : ∃ us p, Life sampleBoot us p ∧
    us.map Transition.act = (List.range 49).map (fun i => .restart (laterBoot i)) ∧
    ∀ vs q, Run Process.step p vs q → Silenced q.sys.dev := by
  obtain ⟨us, p, hrun, hact, hsum, -⟩ := restarts_pile_up 49 le_rfl
  exact ⟨us, p, hrun, hact, (starts_exhaust hrun).2 (by rw [hsum]; rfl)⟩

end QsaTalk
