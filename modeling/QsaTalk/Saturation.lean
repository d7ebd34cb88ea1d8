import QsaTalk.CommandTable

/-! How full the command table gets over a run, and when the next call finds it full. -/
namespace QsaTalk
open ByteBuffer SlotTable Function Runs
variable {d : Device}

def live (m : MultiUdpBuff1) : Bool := m.isValid

/-- The free-ARP command takes a slot at start-up. -/
theorem init_usage (b : Boot) : usage live (initParamTask b).dev.multiUdpBuff = 1 := by
  have hempty : usage live (bootDevice b).multiUdpBuff = 0 := by
    simp [usage, bootDevice, live, emptySlot]
  have hf : (bootDevice b).freeSlot.isSome :=
    first_isSome.mpr ⟨⟨0, by decide⟩, by simp [bootDevice, emptySlot]⟩
  obtain ⟨k, hk⟩ := Option.isSome_iff_exists.mp hf
  have ht : (initParamTask b).dev.multiUdpBuff = update (bootDevice b).multiUdpBuff k
      (arpSlot (bootDevice b) ((bootDevice b).multiUdpBuff k)) := by
    unfold initParamTask sendFreeArp
    dsimp only
    rw [hk]
    rfl
  have hu := usage_update live (bootDevice b).multiUdpBuff k
    (arpSlot (bootDevice b) ((bootDevice b).multiUdpBuff k))
  have hold : live ((bootDevice b).multiUdpBuff k) = false := by simp [live, bootDevice, emptySlot]
  have hnew : live (arpSlot (bootDevice b) ((bootDevice b).multiUdpBuff k)) = true := by
    simp [live, arpSlot]
  rw [hempty, hold, hnew] at hu
  rw [ht]
  exact hu

def queuedCommands (ts : List Step) : Nat :=
  (ts.map fun t => t.pre.dev.queued live (inputOf t)).sum

def releasedCommands (ts : List Step) : Nat :=
  (ts.map fun t => t.pre.dev.freed live (inputOf t)).sum

theorem run_usage {b : Boot} {ts : List Step} {s : System} (h : RunFrom b ts s) :
    usage live s.dev.multiUdpBuff + releasedCommands ts = queuedCommands ts + 1 := by
  have hl := h.ledger (fun s => usage live s.dev.multiUdpBuff)
    (fun t => t.pre.dev.queued live (inputOf t)) (fun t => t.pre.dev.freed live (inputOf t))
    (caller_init b) caller_step
    (fun s a s' o hc hs => step_usage (fun _ hm => hm) hc (device_step hs))
  rw [init_usage, Nat.add_comm 1] at hl
  exact hl

theorem freeSlot_none_iff : d.freeSlot = none ↔ usage live d.multiUdpBuff = udpSendMax := by
  rw [usage_eq_size, Device.freeSlot, first_eq_none]
  simp [live]

def Dials (d : Device) (ip : List UInt8) (addr : Buf) : Prop :=
  ∃ bytes, sends (startCall ip addr 2 d).2 =
      [⟨d.videoSocket, inetAddr ip, remoteVideoPort, bytes⟩] ∧
    bytes.length = 62 ∧ bytes.take 9 = udpPackageHead ++ [videoTalk, ask, call]

theorem callSlot_bytes (m : MultiUdpBuff1) :
    (slice (callSlot d m).buf 0 62).take 9 = udpPackageHead ++ [videoTalk, ask, call] := by
  have hsplit := slice_add (callSlot d m).buf 0 9 53
  have hhead : slice (callSlot d m).buf 0 9 = udpPackageHead ++ [videoTalk, ask, call] := rfl
  rw [hsplit, List.take_left' (length_slice _ _ _), hhead]

theorem dials_iff (h : d.status = .null) (ip : List UInt8) (addr : Buf) :
    Dials d ip addr ↔ d.freeSlot.isSome := by
  cases hf : d.freeSlot with
  | none =>
    rw [Dials, startCall_full h hf]
    simp [Event.sent]
  | some k =>
    refine iff_of_true ?_ rfl
    rw [Dials, startCall_queued h hf]
    refine ⟨slice (callSlot (d.dial ip addr) (d.multiUdpBuff k)).buf 0 62, ?_, length_slice _ _ _,
      callSlot_bytes _⟩
    have hhost : inetAddr (dotted (inetAddr ip)) = inetAddr ip := inetAddr_dotted _
    simp [Event.sent, MultiUdpBuff1.transmit, udpSendBuff, callSlot, hhost, Device.dial]

/-- The commands still in the table are those queued and not released, and the free-ARP one; while
they leave a slot of the fifty, an idle device can call. -/
theorem dials_while_slots_left {b : Boot} (e : Execution b) :
    (∀ u ∈ e.states, u.dev.status = .null → ∀ ip addr, Dials u.dev ip addr) ↔
      ∀ us u, us <+: e.steps → RunFrom b us u → u.dev.status = .null →
        queuedCommands us < releasedCommands us + 49 := by
  rw [Execution.states, ← always_states e.run]
  refine forall₄_congr fun us u _ hu => forall_congr' fun hs => ?_
  have hledger := run_usage hu
  have hle := usage_le live u.dev.multiUdpBuff
  have hroom : u.dev.freeSlot.isSome ↔ queuedCommands us < releasedCommands us + 49 := by
    rw [← Option.ne_none_iff_isSome, Ne, freeSlot_none_iff]
    unfold udpSendMax at *
    omega
  rw [← hroom]
  exact ⟨fun h => (dials_iff hs [] fun _ => 0).mp (h _ _), fun h ip addr => (dials_iff hs ip addr).mpr h⟩

/-- A name nobody answers for. -/
def askName : Action := .findIp (some fun _ => 0x30) 0

/-- Every query goes into the table and stays. -/
theorem queries_pile_up (n : Nat) (hn : n ≤ 49) : ∃ ts s, RunFrom sampleBoot ts s ∧
    ts.map Transition.act = List.replicate n askName ∧ s.dev.status = .null ∧
    usage live s.dev.multiUdpBuff = n + 1 := by
  induction n with
  | zero => exact ⟨[], _, .start, rfl, init_status _, init_usage _⟩
  | succ n ih =>
    obtain ⟨ts, s, hrun, hact, hs, hu⟩ := ih (by omega)
    have hf : s.dev.freeSlot ≠ none := by
      rw [Ne, freeSlot_none_iff, hu]
      unfold udpSendMax
      omega
    obtain ⟨k, hk⟩ := Option.ne_none_iff_exists'.mp hf
    have hstep : s.step askName = some ({ s with dev := (findIp (some fun _ => 0x30) 0 s.dev).1 },
        (findIp (some fun _ => 0x30) 0 s.dev).2) := rfl
    rw [findIp_queued hs hk] at hstep
    refine ⟨_, _, hrun.step hstep, by simp [hact, List.replicate_succ'], hs, ?_⟩
    have hfree : live (s.dev.multiUdpBuff k) = false := by simpa [live] using first_spec hk
    exact (usage_take hfree rfl).trans (by rw [hu])

/-- After forty-nine names nobody answered for, a call on the idle device sends nothing. -/
theorem call_swallowed : ∃ e : Execution sampleBoot,
    e.steps.map Transition.act = List.replicate 49 askName ∧ e.final.dev.status = .null ∧
    ∀ ip addr, sends (startCall ip addr 2 e.final.dev).2 = [] ∧ ¬Dials e.final.dev ip addr := by
  obtain ⟨ts, s, hrun, hact, hs, hu⟩ := queries_pile_up 49 (le_refl _)
  have hf : s.dev.freeSlot = none := freeSlot_none_iff.mpr hu
  refine ⟨⟨ts, s, hrun⟩, hact, hs, fun ip addr => ⟨?_, ?_⟩⟩
  · rw [startCall_full hs hf]
    rfl
  · rw [dials_iff hs, hf]
    simp

end QsaTalk
