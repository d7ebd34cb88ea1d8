import QsaTalk.Threaded

/-! The send thread over whole runs, whatever the other threads do between its turns: no command is
forgotten, the thread comes to rest, and each command is sent as often as its counters say. -/
namespace QsaTalk
open ByteBuffer SlotTable Function Runs Loops RoundRobin Worker

structure ThreadExecution (b : Boot) where
  steps : List ThreadStep
  final : Threads
  run : ThreadRun b steps final

def Untaken (i : Fin udpSendMax) (ts : List ThreadStep) : Prop :=
  ∀ t ∈ ts, (t.pre.shared.dev.multiUdpBuff i).isValid = false →
    (t.post.shared.dev.multiUdpBuff i).isValid = false

instance (i : Fin udpSendMax) (ts : List ThreadStep) : Decidable (Untaken i ts) :=
  inferInstanceAs (Decidable (∀ t ∈ ts, _ → _))

def turnsAt (i : Fin udpSendMax) (ts : List ThreadStep) : List SendTurn :=
  ts.filterMap fun t =>
    match t.act with
    | .work => if t.pre.place = .sweep i then some ⟨i, t.pre.shared.dev, t.out⟩ else none
    | _ => none

def ranks (s : System) (i : Fin udpSendMax) : Nat := (s.dev.multiUdpBuff i).rank

variable {b : Boot} {d : Device} {r : Outcome} {s : System} {i : Fin udpSendMax}

theorem initThreads_slot (b : Boot) (i : Fin udpSendMax) :
    ((initThreads b).shared.dev.multiUdpBuff i).paced := by
  have hthree : (0 : Int) ≤ 3 ∧ (3 : Int) < maxSendNum := by decide
  have hempty : ∀ k, ((initUdpSendTask (bootDevice b)).multiUdpBuff k).isValid = false :=
    fun _ => rfl
  have hslot : ((sendFreeArp (initUdpSendTask (bootDevice b))).1.multiUdpBuff i).paced := by
    unfold sendFreeArp
    cases (initUdpSendTask (bootDevice b)).freeSlot with
    | none => exact paced_invalid (hempty i)
    | some j =>
      dsimp only
      rw [setSlot_multiUdpBuff]
      by_cases hij : i = j
      · rw [hij, update_self]
        exact fun _ => ⟨hthree, Or.inl rfl, Or.inl rfl⟩
      · rw [update_of_ne hij]
        exact paced_invalid (hempty i)
  exact hslot

theorem orderly_init (b : Boot) : Orderly (initThreads b).shared := by
  refine ⟨Or.inl ?_, initThreads_slot b⟩
  unfold initThreads sendFreeArp
  dsimp only
  cases (initUdpSendTask (bootDevice b)).freeSlot <;> rfl

theorem attended_init (b : Boot) : Attended multiSendThread (initThreads b) := by
  intro i hi
  left
  unfold initThreads sendFreeArp at hi ⊢
  dsimp only [multiSendThread] at hi ⊢
  cases hf : (initUdpSendTask (bootDevice b)).freeSlot with
  | none =>
    simp only [hf] at hi
    exact Bool.noConfusion hi
  | some j => simp

theorem threads_attended (e : ThreadExecution b) :
    Orderly e.final.shared ∧ Attended multiSendThread e.final :=
  run_attended sendThread_lawful e.run (orderly_init b) (attended_init b)

/-- However the steps interleave, a command in the table has a post on its way to the thread, or the
thread will still come past its slot before it sleeps; its turns are defined, it waits for the
semaphore and for nothing else, and when it waits with no post on its way the table is empty. -/
theorem no_command_forgotten (e : ThreadExecution b) :
    (∀ i, (e.final.shared.dev.multiUdpBuff i).isValid = true →
      0 < e.final.sem + e.final.owed ∨ e.final.place.before i) ∧
    (multiSendThread.work e.final = none ↔ e.final.place = .asleep ∧ e.final.sem = 0) ∧
    (multiSendThread.work e.final = none → e.final.owed = 0 →
      ∀ i, (e.final.shared.dev.multiUdpBuff i).isValid = false) := by
  obtain ⟨hJ, ha⟩ := threads_attended e
  have hblocked := blocked_iff sendThread_lawful hJ
  refine ⟨ha, hblocked, fun hb ho => ?_⟩
  obtain ⟨hp, hs⟩ := hblocked.mp hb
  exact ha.done hp hs ho

/-! Steps that take no command. -/

/-- A step that puts no command into slot `i` leaves it alone or frees it. -/
theorem slot_step {a : Action} {t : System} {evs : List Event} (hJ : Orderly s)
    (h : s.stepQueued a = some (t, evs)) (hn : (s.dev.multiUdpBuff i).isValid = false →
      (t.dev.multiUdpBuff i).isValid = false) :
    t.dev.multiUdpBuff i = s.dev.multiUdpBuff i ∨ (t.dev.multiUdpBuff i).isValid = false := by
  unfold System.stepQueued at h
  split at h
  · simp at h
  · rename_i r hr
    obtain ⟨rfl, rfl⟩ := Prod.mk.inj (Option.some.inj h)
    obtain ⟨evs, hstep⟩ := stepQueued_step hr
    dsimp only at hn ⊢
    cases step_table hJ.caller hstep with
    | keep _ _ _ ht =>
      dsimp only at ht
      rw [ht]
      exact Or.inl rfl
    | @queue f k hf hk ht =>
      dsimp only at ht
      rw [ht] at hn ⊢
      by_cases hik : i = k
      · subst hik
        have hfree : (s.dev.multiUdpBuff i).isValid = false := by simpa using first_spec hk
        exact Or.inr (hn hfree)
      · rw [update_of_ne hik]
        exact Or.inl rfl
    | @ack k _ ht =>
      dsimp only at ht
      rw [ht, release_multiUdpBuff]
      by_cases hik : i = k
      · rw [hik, update_self]
        exact Or.inr rfl
      · rw [update_of_ne hik]
        exact Or.inl rfl
    | @scan buff _ _ _ ht =>
      dsimp only at ht
      rw [ht]
      obtain hs | ⟨-, hs⟩ := scanned_slot (d := s.dev) buff i
      · exact Or.inl hs
      · rw [hs]
        exact Or.inr rfl

theorem quiet_step {a : Action} {t : System} {evs : List Event} (hJ : Orderly s)
    (h : s.stepQueued a = some (t, evs)) (hn : ∀ i, (s.dev.multiUdpBuff i).isValid = false →
      (t.dev.multiUdpBuff i).isValid = false) :
    evs.count .semPost = 0 ∧ ∀ i, ranks t i ≤ ranks s i := by
  refine ⟨?_, fun i => ?_⟩
  · unfold System.stepQueued at h
    split at h
    · simp at h
    · rename_i r hr
      obtain ⟨rfl, rfl⟩ := Prod.mk.inj (Option.some.inj h)
      have hpost : .semPost ∈ r.2 ↔ ∃ i, Takes s.dev r i := stepQueued_posted hJ.caller hr
      refine List.count_eq_zero.mpr fun hm => ?_
      obtain ⟨i, h0, h1⟩ := hpost.mp hm
      have hc : (r.1.multiUdpBuff i).isValid = false := hn i h0
      rw [h1] at hc
      exact Bool.noConfusion hc
  · unfold ranks
    obtain hi | hi := slot_step hJ h (hn i)
    · rw [hi]
    · rw [MultiUdpBuff1.rank, hi]
      exact Nat.zero_le _

/-- The steps the thread takes before it rests: twelve turns for each slot at most, and one look
round the table for every post. -/
def workLeft (s : Threads) : Nat := 13 * (2 * udpSendMax + 1) + (2 * udpSendMax + 2) +
  s.sem * (2 * udpSendMax + 3) + s.owed * (2 * udpSendMax + 4)

/-- While no command is taken, the thread works for a bounded number of steps, whatever the others
do in between, and then the table is empty. -/
theorem thread_rests (e : ThreadExecution b) {us : List ThreadStep} {u : Threads}
    (h : Run multiSendThread.step e.final us u) (hq : ∀ i, Untaken i us) :
    labour us ≤ workLeft e.final ∧ (multiSendThread.work u = none → u.owed = 0 →
      ∀ i, (u.shared.dev.multiUdpBuff i).isValid = false) := by
  obtain ⟨hJ, ha⟩ := threads_attended e
  constructor
  · have hquiet : ∀ t ∈ us, ∀ a, t.act = .other a → Quiet multiSendThread ranks t.pre.shared a := by
      have hstep : ∀ t ∈ us, Orderly t.pre.shared ∧
          multiSendThread.step t.pre t.act = some (t.post, t.out) :=
        h.each (J := fun s => Orderly s.shared) hJ (fun _ _ _ _ => sendThread_lawful.keeps)
          fun _ _ _ _ hs hstep => ⟨hs, hstep⟩
      intro t ht a hact s' evs hs
      obtain ⟨horder, hpost⟩ := hstep t ht
      rw [hact] at hpost
      simp only [Rules.step, hs, Option.some.injEq, Prod.mk.injEq] at hpost
      refine quiet_step horder hs fun i hi => ?_
      have hp := hq i t ht hi
      rw [← hpost.1] at hp
      exact hp
    have hle := labour_le sendThread_lawful h hJ hquiet
    have hpot : potential ranks e.final ≤ workLeft e.final :=
      potential_le (r := 12) fun i => rank_le (hJ.paced i)
    exact Nat.le_trans (Nat.le_trans (Nat.le_add_right _ _) hle) hpot
  · obtain ⟨hJu, hau⟩ := run_attended sendThread_lawful h hJ ha
    intro hb ho
    obtain ⟨hp, hs⟩ := (blocked_iff sendThread_lawful hJu).mp hb
    exact hau.done hp hs ho

def arpDeeds : List (Deed Action) := .post :: List.replicate 207 .work

def threadsStart (b : Boot) : ThreadExecution b := ⟨[], initThreads b, .start⟩

theorem arp_run : ∃ us u, Run multiSendThread.step (initThreads sampleBoot) us u ∧
    us.map Transition.act = arpDeeds ∧ (∀ i, Untaken i us) ∧
    multiSendThread.work u = none ∧ u.owed = 0 := by
  have hrun : (trail multiSendThread.step (initThreads sampleBoot) arpDeeds).isSome = true := by
    decide +kernel
  have hend : ((trail multiSendThread.step (initThreads sampleBoot) arpDeeds).map fun p =>
      decide ((∀ i, Untaken i p.1) ∧ (multiSendThread.work p.2).isNone ∧ p.2.owed = 0)) =
        some true := by
    decide +kernel
  obtain ⟨⟨us, u⟩, hu⟩ := Option.isSome_iff_exists.mp hrun
  rw [hu] at hend
  obtain ⟨hq, hw, ho⟩ := of_decide_eq_true (Option.some.inj hend)
  exact ⟨us, u, run_of_trail hu, trail_acts hu, hq, Option.isNone_iff_eq_none.mp hw, ho⟩

theorem arp_rests : ∃ us u, Run multiSendThread.step (initThreads sampleBoot) us u ∧
    us.map Transition.act = arpDeeds ∧ labour us ≤ workLeft (initThreads sampleBoot) ∧
    ∀ i, (u.shared.dev.multiUdpBuff i).isValid = false := by
  obtain ⟨us, u, h, ha, hq, hw, ho⟩ := arp_run
  obtain ⟨hle, hrest⟩ := thread_rests (threadsStart sampleBoot) h hq
  exact ⟨us, u, h, ha, hle, hrest hw ho⟩

/-! The thread on its own. -/

theorem turns_within :
    Within multiSendThread slotTurn System.dev fun s d => { s with dev := d } := by
  refine ⟨fun i s t e h => ?_, fun _ _ => rfl, fun _ _ _ => rfl, fun _ => rfl⟩
  have hturn : s.turn i = some ({ s with dev := t }, e) := by
    rw [System.turn, h]
    rfl
  exact hturn

/-- When nobody interferes, the thread goes from one wait to the next exactly through the passes of
the loop, and says what the loop says. -/
theorem thread_drains {s : Threads} (hp : s.place = .asleep) (hs : 0 < s.sem) {k : Nat} {r : Draining}
    (h : Drains s.shared.dev k r) : Solo multiSendThread s
      { s with shared := { s.shared with dev := r.now }, sem := s.sem - 1 } (spoken r.log) := by
  have hwake : multiSendThread.work s =
      some ({ s with sem := s.sem - 1, place := .sweep 0 }, []) := by
    simp [Rules.work, hp, Nat.ne_of_gt hs]
  obtain ⟨out, hsolo, hout⟩ := rounds_solo turns_within
    (fun s => by simp [haveDataSend, multiSendThread]) h { s with sem := s.sem - 1 } rfl rfl
  have hall := (Solo.one hwake).trans hsolo
  rw [← hp] at hall
  rw [spoken, hout]
  exact hall

def busyDeeds : List (Deed Action) :=
  [.other (sampleCall sampleHost), .other (.findIp (some fun _ => 0x30) 0), .post, .post, .post]

theorem busy_defined : (trail multiSendThread.step (initThreads sampleBoot) busyDeeds).isSome := by
  decide +kernel

def busyThreads : ThreadExecution sampleBoot where
  steps := ((trail multiSendThread.step (initThreads sampleBoot) busyDeeds).get busy_defined).1
  final := ((trail multiSendThread.step (initThreads sampleBoot) busyDeeds).get busy_defined).2
  run := run_of_trail (Option.some_get busy_defined).symm

theorem two_slots : 1 < udpSendMax := by decide

theorem three_slots : 2 < udpSendMax := by decide

def slot1 : Fin udpSendMax := ⟨1, two_slots⟩
def slot2 : Fin udpSendMax := ⟨2, three_slots⟩

/-- The thread sends the CALL and the query once each, and comes back to `sem_wait` with two
posts to go. The free-ARP command goes out as well: it holds the `ARP_Socket` from before it
was opened. -/
theorem busy_drains : ∃ k r, Drains busyThreads.final.shared.dev k r ∧
    sends (spoken (own slot0 r.log)) =
      List.replicate 3 (busyThreads.final.shared.dev.multiUdpBuff slot0).datagram ∧
    sends (spoken (own slot1 r.log)) = [(busyThreads.final.shared.dev.multiUdpBuff slot1).datagram] ∧
    sends (spoken (own slot2 r.log)) = [(busyThreads.final.shared.dev.multiUdpBuff slot2).datagram] ∧
    Solo multiSendThread busyThreads.final
      { busyThreads.final with
        shared := { busyThreads.final.shared with dev := r.now }, sem := busyThreads.final.sem - 1 }
      (spoken r.log) := by
  have hd : Drainable busyThreads.final.shared.dev := ⟨by decide +kernel, by decide +kernel⟩
  obtain ⟨k, r, -, h, hr⟩ := drain_ends hd
  refine ⟨k, r, h, ?_, ?_, ?_, thread_drains (by decide +kernel) (by decide +kernel) h⟩
  · exact ((hr slot0).sent (by decide +kernel)).trans (by decide +kernel)
  · exact ((hr slot1).sent (by decide +kernel)).trans (by decide +kernel)
  · exact ((hr slot2).sent (by decide +kernel)).trans (by decide +kernel)

/-! One command. -/

/-- What has become of a command that was put into the slot as `m₀`; `ts` are its turns since. -/
inductive Fate (arpSocket : Int) (m₀ m : MultiUdpBuff1) (ts : List SendTurn) : Prop
  | pending (h : Counting arpSocket m₀ m ts)
  | spent (h : Settled arpSocket m₀ m ts)
  | acknowledged {k} (hm : m.isValid = false) (hk : k ≤ m₀.transmissions arpSocket)
      (hs : sends (spoken ts) = List.replicate k m₀.datagram) (he : expiryTurns ts = [])

variable {m m₀ m' : MultiUdpBuff1} {ts : List SendTurn} {arpSocket : Int}

theorem Counting.sent_le (h : Counting arpSocket m₀ m ts) : ∃ k, k ≤ m₀.transmissions arpSocket ∧
    sends (spoken ts) = List.replicate k m₀.datagram := by
  refine ⟨_, ?_, h.sent⟩
  have hlevel := h.level
  have hdelay := h.delay
  have hmax : maxSendNum = 6 := rfl
  rw [MultiUdpBuff1.transmissions]
  split
  · exact Nat.le_refl 0
  · split <;> omega

/-- An acknowledgement ends it, whatever has been sent so far. -/
theorem Fate.released (h : Fate arpSocket m₀ m ts) (hm : m'.isValid = false)
    (hv : m₀.isValid = true) : Fate arpSocket m₀ m' ts := by
  cases h with
  | pending h =>
    obtain ⟨k, hk, hs⟩ := h.sent_le
    exact .acknowledged hm hk hs h.unexpired
  | spent h =>
    exact .spent ⟨hm, fun hno => by simp [hv] at hno, h.sent, h.expired⟩
  | acknowledged _ hk hs he => exact .acknowledged hm hk hs he

/-- One more turn of the slot. -/
theorem Fate.turn (h : Fate d.arpSocket m₀ (d.multiUdpBuff i) ts) :
    Fate d.arpSocket m₀ ((sendSlot i d).1.multiUdpBuff i)
      (ts ++ [⟨i, d, (sendSlot i d).2⟩]) := by
  have hskip (hi : (d.multiUdpBuff i).isValid = false) : sendSlot i d = (d, []) :=
    sendSlot_invalid hi
  cases h with
  | pending h =>
    by_cases hn : maxSendNum ≤ (d.multiUdpBuff i).counted.sendNum
    · obtain ⟨-, -, ht, hout⟩ := sendSlot_drops h.valid hn rfl
      have hgone : ((sendSlot i d).1.multiUdpBuff i).isValid = false := by rw [ht, update_self]
      exact .spent (h.drops hn hgone hout)
    · have hslot := sendSlot_counts h.valid hn
      have hself : (sendSlot i d).1.multiUdpBuff i = (d.multiUdpBuff i).counted := by
        rw [hslot]
        exact update_self _ _ _
      rw [hself]
      exact .pending (h.counts hn (by rw [hslot]))
  | spent h =>
    rw [hskip h.invalid]
    exact .spent (h.skips rfl)
  | @acknowledged k hm hk hs he =>
    rw [hskip hm]
    refine .acknowledged hm hk ?_ ?_
    · rw [spoken_concat, List.append_nil, hs]
    · rw [expiryTurns_concat, he, if_neg (by simp)]
      rfl

theorem turnsAt_concat (i : Fin udpSendMax) (us : List ThreadStep) (t : ThreadStep) :
    turnsAt i (us ++ [t]) = turnsAt i us ++ turnsAt i [t] := by
  rw [turnsAt, List.filterMap_append, turnsAt, turnsAt]

theorem turnsAt_own {t : ThreadStep} (ha : t.act = .work) (hp : t.pre.place = .sweep i) :
    turnsAt i [t] = [⟨i, t.pre.shared.dev, t.out⟩] := by
  simp [turnsAt, ha, hp]

theorem turnsAt_other {t : ThreadStep} (h : t.act = .work → t.pre.place ≠ .sweep i) :
    turnsAt i [t] = [] := by
  rw [turnsAt, List.filterMap_eq_nil_iff]
  intro u hu
  obtain rfl := List.mem_singleton.mp hu
  cases ha : u.act with
  | work => exact if_neg (h ha)
  | other | post => rfl

/-- From one step to the next. -/
theorem fate_step {s s' : Threads} {a : Deed Action} {evs : List Event} (hJ : Orderly s.shared)
    (hs : multiSendThread.step s a = some (s', evs))
    (hn : (s.shared.dev.multiUdpBuff i).isValid = false →
      (s'.shared.dev.multiUdpBuff i).isValid = false) (hv : m₀.isValid = true)
    (h : Fate s.shared.dev.arpSocket m₀ (s.shared.dev.multiUdpBuff i) ts) :
    s'.shared.dev.arpSocket = s.shared.dev.arpSocket ∧
      Fate s.shared.dev.arpSocket m₀ (s'.shared.dev.multiUdpBuff i)
        (ts ++ turnsAt i [⟨s, a, s', evs⟩]) := by
  have hquiet {s' : Threads} {a : Deed Action} (h' : s'.shared = s.shared)
      (hp : a = .work → s.place ≠ .sweep i) : s'.shared.dev.arpSocket = s.shared.dev.arpSocket ∧
        Fate s.shared.dev.arpSocket m₀ (s'.shared.dev.multiUdpBuff i)
          (ts ++ turnsAt i [⟨s, a, s', []⟩]) := by
    rw [turnsAt_other hp, List.append_nil, h']
    exact ⟨rfl, h⟩
  cases step_happens hs with
  | @other a t _ ht =>
    have hstep : s.shared.stepQueued a = some (t, evs) := ht
    refine ⟨?_, ?_⟩
    · unfold System.stepQueued at hstep
      split at hstep
      · simp at hstep
      · rename_i r hr
        obtain ⟨rfl, rfl⟩ := Prod.mk.inj (Option.some.inj hstep)
        obtain ⟨e, he⟩ := stepQueued_step hr
        exact congrArg (fun x => x.2.2.2.2) (step_fixed hJ.caller he)
    · rw [turnsAt_other (by simp), List.append_nil]
      obtain hi | hi := slot_step hJ hstep hn
      · dsimp only
        rw [hi]
        exact h
      · exact h.released hi hv
  | @turn k t _ hp hk ht =>
    obtain ⟨rfl, rfl⟩ := Prod.mk.inj (Option.some.inj ((hJ.turn ⟨k, hk⟩).symm.trans ht))
    obtain ⟨harp, hother⟩ := sendSlot_local ⟨k, hk⟩ s.shared.dev
    refine ⟨harp, ?_⟩
    by_cases hki : i = ⟨k, hk⟩
    · subst hki
      rw [turnsAt_own rfl hp]
      exact h.turn
    · rw [turnsAt_other fun _ => ?_, List.append_nil]
      · dsimp only
        rw [hother i hki]
        exact h
      · dsimp only
        rw [hp]
        exact fun hc => hki (Fin.ext (Place.sweep.inj hc).symm)
  | post => exact hquiet rfl fun hc => absurd hc (by simp)
  | wake hp | again hp | passed hp | sleep hp => exact hquiet rfl fun _ => by simp [hp]
  | swept hp hk =>
    refine hquiet rfl fun _ => ?_
    rw [hp]
    exact fun hc => absurd i.isLt (Nat.not_lt.mpr ((Place.sweep.inj hc) ▸ hk))

/-- In a free slot the thread has nothing to do. -/
theorem silent_turn {s s' : Threads} {a : Deed Action} {evs : List Event} (hJ : Orderly s.shared)
    (hs : multiSendThread.step s a = some (s', evs))
    (hi : (s.shared.dev.multiUdpBuff i).isValid = false) :
    ∀ t ∈ turnsAt i [⟨s, a, s', evs⟩], t.out = [] := by
  intro t ht
  by_cases hown : a = .work ∧ s.place = .sweep i
  swap
  · rw [turnsAt_other fun ha hp => hown ⟨ha, hp⟩] at ht
    exact absurd ht List.not_mem_nil
  obtain ⟨rfl, hp⟩ := hown
  rw [turnsAt_own rfl hp] at ht
  obtain rfl := List.mem_singleton.mp ht
  have hwork : multiSendThread.work s = some (s', evs) := hs
  simp only [Rules.work, hp, i.isLt, dite_true, Fin.eta, multiSendThread, hJ.turn i,
    sendSlot_invalid hi, Option.some.injEq, Prod.mk.injEq] at hwork
  exact hwork.2.symm

/-- From the moment the slot is free, as long as no command is put into it, its turns are silent. -/
theorem released_silent {s u : Threads} {us : List ThreadStep} (h : Run multiSendThread.step s us u)
    (hJ : Orderly s.shared) (hq : Untaken i us) {vs ws : List ThreadStep} {v : Threads}
    (he : us = vs ++ ws) (hv : Run multiSendThread.step s vs v)
    (hi : (v.shared.dev.multiUdpBuff i).isValid = false) :
    (u.shared.dev.multiUdpBuff i).isValid = false ∧ ∀ t ∈ turnsAt i ws, t.out = [] := by
  induction h generalizing ws with
  | start =>
    obtain ⟨rfl, rfl⟩ := List.append_eq_nil_iff.mp he.symm
    rw [Run.functional .start hv]
    exact ⟨hi, fun t ht => absurd ht List.not_mem_nil⟩
  | @step us s' a u evs h hs ih =>
    obtain rfl | ⟨ws, t, rfl⟩ := List.eq_nil_or_concat' ws
    · rw [List.append_nil] at he
      subst he
      rw [(h.step hs).functional hv]
      exact ⟨hi, fun t ht => absurd ht List.not_mem_nil⟩
    · rw [← List.append_assoc] at he
      obtain ⟨hus, hlast⟩ := List.append_inj' he rfl
      obtain rfl := List.singleton_inj.mp hlast
      obtain ⟨hi', hsilent⟩ := ih (fun t ht => hq t (List.mem_append_left _ ht)) hus
      have hJs : Orderly s'.shared :=
        h.invariant (J := fun s => Orderly s.shared) hJ fun _ _ _ _ => sendThread_lawful.keeps
      have htaken := hq ⟨s', a, u, evs⟩ (List.mem_append_right us List.mem_cons_self) hi'
      refine ⟨htaken, fun t ht => ?_⟩
      rw [turnsAt_concat] at ht
      cases List.mem_append.mp ht with
      | inl ht => exact hsilent t ht
      | inr ht => exact silent_turn hJs hs hi' t ht

theorem run_fate {s u : Threads} {us : List ThreadStep} (h : Run multiSendThread.step s us u)
    (hJ : Orderly s.shared) (hv : (s.shared.dev.multiUdpBuff i).isValid = true)
    (hf : (s.shared.dev.multiUdpBuff i).sendDelayTime = 0) (hq : Untaken i us) :
    u.shared.dev.arpSocket = s.shared.dev.arpSocket ∧
      Fate s.shared.dev.arpSocket (s.shared.dev.multiUdpBuff i) (u.shared.dev.multiUdpBuff i)
        (turnsAt i us) := by
  induction h with
  | start =>
    refine ⟨rfl, .pending ⟨hv, rfl, ⟨Int.le_refl _, Or.inr rfl⟩, ?_, ?_, rfl⟩⟩
    · rw [hf]
      exact ⟨Int.le_refl 0, rfl, Or.inl rfl⟩
    · rw [hf, if_pos rfl, Int.sub_self]
      split <;> rfl
  | @step us u a u' evs hr hs ih =>
    obtain ⟨harp, hfate⟩ := ih fun t ht => hq t (List.mem_append_left _ ht)
    have hJu : Orderly u.shared :=
      hr.invariant (J := fun s => Orderly s.shared) hJ fun _ _ _ _ => sendThread_lawful.keeps
    rw [← harp] at hfate ⊢
    rw [turnsAt_concat]
    exact fate_step hJu hs (hq ⟨u, a, u', evs⟩ (by simp)) hv hfate

/-- Whatever steps the other threads take between two turns, a command is sent byte for byte as it
was put into its slot, and no more often than its counters leave room for. The thread gives it up
once, with one callback, when it has been sent that often; once its slot is free it is neither sent
nor given up any more. -/
theorem command_fate (e : ThreadExecution b) {us : List ThreadStep} {u : Threads}
    (h : Run multiSendThread.step e.final us u)
    (hv : (e.final.shared.dev.multiUdpBuff i).isValid = true)
    (hf : (e.final.shared.dev.multiUdpBuff i).sendDelayTime = 0) (hq : Untaken i us) :
    Fate e.final.shared.dev.arpSocket (e.final.shared.dev.multiUdpBuff i)
        (u.shared.dev.multiUdpBuff i) (turnsAt i us) ∧
      ∀ vs ws v, us = vs ++ ws → Run multiSendThread.step e.final vs v →
        (v.shared.dev.multiUdpBuff i).isValid = false → ∀ t ∈ turnsAt i ws, t.out = [] := by
  have hJ := (threads_attended e).1
  exact ⟨(run_fate h hJ hv hf hq).2,
    fun vs ws v he hrun hi => (released_silent h hJ hq he hrun hi).2⟩

def onePass : List (Deed Action) := List.replicate 53 .work
def answeredDeeds : List (Deed Action) :=
  onePass ++ .other (sampleRecv ask callAnswer sampleHost) :: onePass

theorem answered_fate : ∃ us u, Run multiSendThread.step busyThreads.final us u ∧
    us.map Transition.act = answeredDeeds ∧
    Fate busyThreads.final.shared.dev.arpSocket
      (busyThreads.final.shared.dev.multiUdpBuff slot1)
      (u.shared.dev.multiUdpBuff slot1) (turnsAt slot1 us) ∧
    (turnsAt slot1 us).map (fun t => t.out.length) = [1, 0] := by
  have hrun : (trail multiSendThread.step busyThreads.final answeredDeeds).isSome = true := by
    decide +kernel
  have hend : ((trail multiSendThread.step busyThreads.final answeredDeeds).map fun p =>
      decide (Untaken slot1 p.1 ∧ (turnsAt slot1 p.1).map (fun t => t.out.length) = [1, 0])) =
        some true := by
    decide +kernel
  obtain ⟨⟨us, u⟩, hu⟩ := Option.isSome_iff_exists.mp hrun
  rw [hu] at hend
  obtain ⟨hq, hout⟩ := of_decide_eq_true (Option.some.inj hend)
  exact ⟨us, u, run_of_trail hu, trail_acts hu,
    (command_fate busyThreads (run_of_trail hu) (by decide +kernel) (by decide +kernel) hq).1, hout⟩

end QsaTalk
