import QsaTalk.Callbacks
import QsaTalk.Traffic

/-! `TestDemo/main.c` with the callbacks of `TestDemo/cb_function.c`: one key looks a room up, one
calls it, one hangs up, one sends a film. The program is linked with the library and shares
`UdpRecvFlag` with it. -/
namespace QsaTalk
open ByteBuffer SlotTable Function Runs

def room : List UInt8 := List.replicate 4 50

def gAddr : Buf := ofList room

structure Demo where
  sys : System
  gIp : List UInt8

/-- `strcpy` writes the address one character too long; the copy of `ip` behind it takes
that back. -/
def demoConfig : DevConfig where
  mac := fun _ => 0
  address := ofList ("M0601010000000000000".toList.map Char.toUInt8)
  ip := ofList (dotted ⟨192, 168, 10, 97⟩)

def demoMain (b : Boot) : Demo := ⟨initParamTask { b with config := some demoConfig }, []⟩

/-! The callbacks. -/

/-- `memcmp` looks at four bytes, and `address` is a string of at most four characters. -/
def defaultCbDevip1 (address ip gIp : List UInt8) : List UInt8 :=
  if address.take 4 = room then ip else gIp

def Event.notify (gIp : List UInt8) : Event → List UInt8
  | .devip address ip _ => defaultCbDevip1 address ip gIp
  | _ => gIp

def System.defaultCbOpt1 (s : System) (evs : List Event) : System :=
  if currOpts evs = [] then s else { s with udpRecvFlag := true }

/-- A step of the library with the callbacks in it; a receive loop tests the flag after them. -/
def Demo.library (d : Demo) (a : Action) : Option (Demo × List Event) :=
  match d.sys.dev.step (d.sys.input a) with
  | none => none
  | some r =>
    some (⟨{ (d.sys.defaultCbOpt1 r.2).loops a with dev := r.1 }, r.2.foldl Event.notify d.gIp⟩, r.2)

/-! The keys. -/

inductive Key where
  | A
  | B
  | C
  | other
deriving DecidableEq, Repr

/-- What happens to the program before key Q: a key, a picture that `user_main` hands over once key
P has been pressed, the start of `UdpVideoRcvThreadDemo`, a datagram on one of the two sockets, a
timer round. Which pictures come, and when, is left open. -/
inductive Stimulus where
  | key (ch : Key)
  | picture (c : MediaCall) (frameType : Int)
  | demoThread
  | recvVideo (src : IP4) (dgram : List UInt8) (sendB : Buf)
  | recvData (src : IP4) (dgram : List UInt8)
  | tick (sendB : Buf)

def Stimulus.dials : Stimulus → Bool
  | .key .B => true
  | _ => false

def Demo.action (d : Demo) : Stimulus → Option Action
  | .key .A => some (.findIp (some gAddr) 0)
  | .key .B => some (.startCall d.gIp gAddr 2)
  | .key .C => some .stopTalk
  | .key .other | .demoThread => none
  | .picture c frameType => some (.sendVideo { c with ip := d.gIp } frameType)
  | .recvVideo src dgram sendB => some (.recvVideo src dgram sendB)
  | .recvData src dgram => some (.recvData src dgram)
  | .tick sendB => some (.tick sendB)

/-- The receive thread of the demo sets the flag it shares with the library, and then
only prints. -/
def Demo.udpVideoRcvThreadDemo (d : Demo) : Demo :=
  { d with sys := { d.sys with udpRecvFlag := true } }

def Demo.rest (d : Demo) : Stimulus → Demo
  | .demoThread => d.udpVideoRcvThreadDemo
  | _ => d

def Demo.step (d : Demo) (x : Stimulus) : Option (Demo × List Event) :=
  match d.action x with
  | none => some (d.rest x, [])
  | some a => d.library a

abbrev DemoStep := Transition Demo Stimulus (List Event)

/-! What it is for: calls go where the room was last found. -/

def Device.taken (d : Device) : Input → Option IP4
  | .video .nsReply buff _ _ => if d.asksFor buff then some (ipAt buff 53) else none
  | _ => none

def Demo.found (d : Demo) (x : Stimulus) : Option IP4 :=
  (d.action x).bind fun a => d.sys.dev.taken (d.sys.input a)

def lastFound (ts : List DemoStep) : Option IP4 :=
  ts.foldl (fun o t => (t.pre.found t.act).or o) none

def IsCall (bytes : List UInt8) : Prop :=
  bytes[6]? = some videoTalk ∧ bytes[7]? = some ask ∧ bytes[8]? = some call

instance (bytes : List UInt8) : Decidable (IsCall bytes) := inferInstanceAs (Decidable (_ ∧ _))

def callsTo (evs : List Event) : List IP4 := ((sends evs).filter fun g => IsCall g.bytes).map Datagram.dest

variable {d : Device} {evs : List Event} {b : Boot}

/-! Which datagrams are calls. -/

theorem callsTo_nil (h : ∀ g ∈ sends evs, ¬IsCall g.bytes) : callsTo evs = [] := by
  rw [callsTo, List.filter_eq_nil_iff.mpr fun g hg => by simp [h g hg], List.map_nil]

theorem callsTo_transmit (m : MultiUdpBuff1) : callsTo [.lock, m.transmit, .unlock] =
    if IsCall m.bytes then [inetAddr m.remoteHost] else [] := by
  have hsent : sends [.lock, m.transmit, .unlock] =
      [⟨m.mSocket, inetAddr m.remoteHost, m.remotePort, m.bytes⟩] := rfl
  rw [callsTo, hsent]
  by_cases h : IsCall m.bytes
  · rw [List.filter_cons_of_pos (by simpa using h), if_pos h]
    rfl
  · rw [List.filter_cons_of_neg (by simpa using h), if_neg h]
    rfl

theorem stopTalk_calls : callsTo (stopTalk d).2 = [] := by
  by_cases hn : d.status = .null
  · rw [stopTalk_idle hn]
    rfl
  · cases hf : d.freeSlot with
    | none =>
      rw [stopTalk_full hn hf]
      rfl
    | some i =>
      have hne : ¬IsCall (callEndSlot d (d.multiUdpBuff i)).bytes := by
        rw [callEnd_bytes]
        intro h
        exact absurd h.2.2 (by decide : some callEnd ≠ some call)
      rw [stopTalk_queued hn hf, callsTo_transmit, if_neg hne]

theorem findIp_calls {addr : Buf} : callsTo (findIp (some addr) 0 d).2 = [] := by
  by_cases hn : d.status = .null
  · cases hf : d.freeSlot with
    | none =>
      rw [findIp_full hn hf]
      rfl
    | some i =>
      have hne : ¬IsCall (querySlot d addr (d.multiUdpBuff i)).bytes := by
        rw [query_bytes]
        intro h
        exact absurd h.1 (by decide : some nsOrder ≠ some videoTalk)
      rw [findIp_queued hn hf, callsTo_transmit, if_neg hne]
  · rw [findIp_refused fun h => hn h.2.1]
    rfl

theorem startCall_calls {ip : List UInt8} {addr : Buf} : callsTo (startCall ip addr 2 d).2 =
    if d.status = .null ∧ d.freeSlot.isSome then [inetAddr ip] else [] := by
  by_cases hn : d.status = .null
  · cases hf : d.freeSlot with
    | none =>
      rw [startCall_full hn hf, if_neg fun h => Bool.noConfusion h.2]
      rfl
    | some i =>
      have hcall : IsCall (callSlot (d.dial ip addr) (d.multiUdpBuff i)).bytes := by
        rw [call_bytes]
        exact ⟨rfl, rfl, rfl⟩
      rw [startCall_queued hn hf, callsTo_transmit, if_pos hcall, if_pos ⟨hn, rfl⟩]
      exact congrArg (fun a => [a]) (inetAddr_dotted (inetAddr ip))
  · rw [startCall_refused fun h => hn h.2, if_neg fun h => hn h.1]
    rfl

/-- The packets of a picture are no calls. -/
theorem sendVideo_calls {c : MediaCall} {frameType : Int} {r : Outcome}
    (h : qsaSendVideo c frameType d = some r) : callsTo r.2 = [] := by
  obtain ⟨-, he⟩ | ⟨hs, -⟩ := sendVideo_events h
  · rw [he]
    rfl
  · rw [sendVideo_eq hs] at h
    split at h
    · obtain rfl := Option.some.inj h
      refine callsTo_nil fun g hg hcall => ?_
      obtain ⟨e, he, hsent⟩ := List.mem_filterMap.mp hg
      obtain ⟨g', hg', rfl⟩ := List.mem_map.mp he
      obtain rfl := Option.some.inj hsent
      obtain ⟨j, -, rfl⟩ := List.mem_map.mp hg'
      have h8 := hcall.2.2
      rw [videoPacket_bytes] at h8
      exact absurd h8 (by decide : some callUp ≠ some call)
    · simp at h

/-- The timer ends calls; it places none. -/
theorem tick_calls {sendB : Buf} (hc : d.caller) : callsTo (timerThreadTask sendB d).2 = [] := by
  by_cases hx : d.expires
  · obtain ⟨v, l, -, -, he⟩ := tick_expire sendB hx.1 hx.2.1 hx.2.2
    have hstop : callsTo (stopTalk d).2 = [] := stopTalk_calls
    rw [callsTo] at hstop
    rw [he, callsTo, sends, List.filterMap_append, List.filter_append, List.map_append]
    exact congrArg (· ++ []) hstop
  · obtain ⟨l, -, he⟩ := tick_keep sendB hc hx
    rw [he]
    rfl

/-- Answers are replies. -/
theorem answer_calls {s s' : System} {a : Action} {src : IP4} {dgram : List UInt8} (sendB : Buf)
    (ha : a = .recvVideo src dgram sendB ∨ a = .recvData src dgram)
    (h : s.step a = some (s', evs)) : callsTo evs = [] := by
  obtain hnone | ⟨g, hsent, hg⟩ := answer_contained ha h
  · exact callsTo_nil (by simp [hnone])
  · refine callsTo_nil fun g' hg' => ?_
    obtain rfl := List.mem_singleton.mp (hsent ▸ hg')
    intro hcall
    exact absurd (hg.replies.symm.trans hcall.2.1) (by decide)

/-! Which rooms are asked for. -/

def Queries (t : Fin udpSendMax → MultiUdpBuff1) : Prop :=
  ∀ i, (t i).buf 6 = nsOrder → slice (t i).buf 39 4 = room

theorem querySlot_room (m : MultiUdpBuff1) : slice (querySlot d gAddr m).buf 39 4 = room := rfl

theorem callSlot_order (m : MultiUdpBuff1) : (callSlot d m).buf 6 = videoTalk := rfl

theorem callEndSlot_order (m : MultiUdpBuff1) : (callEndSlot d m).buf 6 = videoTalk := rfl

theorem queries_step {i : Input} {r : Outcome} (hc : d.caller) (h : d.step i = some r)
    (hq : Queries d.multiUdpBuff) (hf : ∀ f, d.commandOf i = some f → ∀ m : MultiUdpBuff1,
      (f m).buf 6 = nsOrder → slice (f m).buf 39 4 = room) : Queries r.1.multiUdpBuff := by
  intro j
  cases step_table hc h with
  | keep _ _ _ ht =>
    rw [ht]
    exact hq j
  | @queue f k hcom _ ht =>
    rw [ht]
    by_cases hj : j = k
    · subst hj
      rw [update_self]
      exact hf f hcom _
    · rw [update_of_ne hj]
      exact hq j
  | @ack k _ ht =>
    rw [ht]
    by_cases hj : j = k
    · subst hj
      have hbuf : ((d.release j).multiUdpBuff j).buf = (d.multiUdpBuff j).buf := by
        simp [Device.release]
      rw [hbuf]
      exact hq j
    · have hslot : (d.release k).multiUdpBuff j = d.multiUdpBuff j := by
        simp [Device.release, hj]
      rw [hslot]
      exact hq j
  | @scan buff _ _ _ ht =>
    rw [ht]
    obtain hslot | ⟨-, hslot⟩ := scanned_slot (d := d) buff j
    · rw [hslot]
      exact hq j
    · rw [hslot]
      exact hq j

/-- A reply that is taken names the room of a query. -/
theorem asksFor_room {buff : Buf} (hq : Queries d.multiUdpBuff) (h : d.asksFor buff) :
    slice buff 40 4 = room := by
  obtain ⟨i, hquery, hmatch⟩ := h
  have horder : (d.multiUdpBuff i).buf 6 = nsOrder := by
    simp [isQuery] at hquery
    exact hquery.1.1.2
  have hsame : ∀ j, 39 ≤ j → j < 43 → buff (j + 1) = (d.multiUdpBuff i).buf j := by
    intro j hj hlt
    have hlen : 11 ≤ nsAddrLen buff := by
      unfold nsAddrLen
      split <;> decide
    have hmem : j ∈ List.range' 32 (nsAddrLen buff) := List.mem_range'_1.mpr (by omega)
    have hbyte := List.all_eq_true.mp hmatch j hmem
    simp [show j ≠ 32 by omega] at hbyte
    exact hbyte.symm
  rw [← hq i horder]
  refine List.map_congr_left fun k hk => ?_
  have hk4 := List.mem_range.mp hk
  rw [show 40 + k = 39 + k + 1 by omega]
  exact hsame (39 + k) (by omega) (by omega)

theorem nsReply_devip {buff : Buf} (h : d.asksFor buff) : (recvNSReplyFunc buff d).2 =
    [.lock, .unlock, .devip (cstr (ofList (slice buff 40 4)) 5) (dotted (ipAt buff 53)) 0] := by
  obtain ⟨addr, ip, hspec⟩ := (nsReply_spec buff).1 h
  unfold recvNSReplyFunc at hspec ⊢
  dsimp only at hspec ⊢
  split at hspec
  · rename_i hok
    rw [if_pos hok]
    rfl
  · simp at hspec

theorem taken_resolves {i : Input} {ip : IP4} (h : d.taken i = some ip) : d.cause i = .resolve := by
  unfold Device.taken at h
  split at h
  · split at h
    · rename_i ha
      exact if_pos ha
    · simp at h
  · simp at h

/-- The application keeps the address of a reply that is taken. -/
theorem notify_taken {i : Input} {r : Outcome} (hc : d.caller) (hq : Queries d.multiUdpBuff)
    (h : d.step i = some r) (gIp : List UInt8) :
    r.2.foldl Event.notify gIp = ((d.taken i).map dotted).getD gIp := by
  by_cases hr : d.cause i = .resolve
  · obtain ⟨buff, sendB, src, rfl, ha⟩ :=
      (cause_iff (c := .resolve) (by decide) (by decide)).mp hr
    obtain rfl := Option.some.inj h
    have htaken : d.taken (.video .nsReply buff sendB src) = some (ipAt buff 53) := if_pos ha
    rw [runVideoTask, nsReply_devip ha, asksFor_room hq ha, htaken]
    rfl
  · have hnone : d.taken i = none := by
      cases ht : d.taken i with
      | none => rfl
      | some ip => exact absurd (taken_resolves ht) hr
    have htells := step_tells hc h
    have hkeep : ∀ e ∈ r.2, ∀ g, e.notify g = g := by
      intro e he g
      cases e with
      | devip addr ip f => exact absurd (devip_resolves htells he) hr
      | _ => rfl
    rw [hnone]
    generalize r.2 = evs at hkeep
    induction evs with
    | nil => rfl
    | cons e evs ih =>
      rw [List.foldl_cons, hkeep e (by simp)]
      exact ih fun e' he' => hkeep e' (List.mem_cons_of_mem _ he')

/-! The running program. -/

structure Demo.Kept (d : Demo) (o : Option IP4) : Prop where
  caller : d.sys.dev.caller
  queries : Queries d.sys.dev.multiUdpBuff
  ip : d.gIp = (o.map dotted).getD []

variable {p p' : Demo} {x : Stimulus} {a : Action} {ts : List DemoStep}

theorem action_queries (h : p.action x = some a) : ∀ f, p.sys.dev.commandOf (p.sys.input a) = some f →
    ∀ m : MultiUdpBuff1, (f m).buf 6 = nsOrder → slice (f m).buf 39 4 = room := by
  have htalk : videoTalk ≠ nsOrder := by decide
  intro f hf m ho
  cases x with
  | key ch =>
    cases ch with
    | A =>
      obtain rfl := Option.some.inj h
      obtain ⟨-, hf⟩ := Option.ite_none_right_eq_some.mp hf
      obtain rfl := Option.some.inj hf
      exact querySlot_room m
    | B =>
      obtain rfl := Option.some.inj h
      obtain ⟨-, hf⟩ := Option.ite_none_right_eq_some.mp hf
      obtain rfl := Option.some.inj hf
      exact absurd ((callSlot_order m).symm.trans ho) htalk
    | C =>
      obtain rfl := Option.some.inj h
      obtain ⟨-, hf⟩ := Option.ite_none_left_eq_some.mp hf
      obtain rfl := Option.some.inj hf
      exact absurd ((callEndSlot_order m).symm.trans ho) htalk
    | other => simp [Demo.action] at h
  | picture c frameType =>
    obtain rfl := Option.some.inj h
    simp [System.input, Device.commandOf] at hf
  | demoThread => simp [Demo.action] at h
  | recvVideo src dgram sendB =>
    obtain rfl := Option.some.inj h
    simp [commandOf_recvVideo] at hf
  | recvData src dgram =>
    obtain rfl := Option.some.inj h
    simp [commandOf_recvData] at hf
  | tick sendB =>
    obtain rfl := Option.some.inj h
    obtain ⟨-, hf⟩ := Option.ite_none_right_eq_some.mp hf
    obtain rfl := Option.some.inj hf
    exact absurd ((callEndSlot_order m).symm.trans ho) htalk

theorem library_step (h : p.library a = some (p', evs)) :
    p.sys.dev.step (p.sys.input a) = some (p'.sys.dev, evs) ∧
      p'.gIp = evs.foldl Event.notify p.gIp := by
  unfold Demo.library at h
  split at h
  · simp at h
  · rename_i r hr
    obtain ⟨rfl, rfl⟩ := Prod.mk.inj (Option.some.inj h)
    exact ⟨hr, rfl⟩

theorem Demo.Kept.step {o : Option IP4} (h : p.Kept o) (hs : p.step x = some (p', evs)) :
    p'.Kept ((p.found x).or o) := by
  unfold Demo.step at hs
  unfold Demo.found
  split at hs
  · rename_i hx
    obtain ⟨rfl, rfl⟩ := Prod.mk.inj (Option.some.inj hs)
    rw [hx]
    cases x <;> exact ⟨h.caller, h.queries, h.ip⟩
  · rename_i a hx
    obtain ⟨hd, hip⟩ := library_step hs
    rw [hx]
    refine ⟨caller_after h.caller (step_callEffect h.caller hd).status,
      queries_step h.caller hd h.queries (action_queries hx), ?_⟩
    rw [hip, notify_taken h.caller h.queries hd, h.ip, Option.bind_some]
    cases p.sys.dev.taken (p.sys.input a) <;> rfl

theorem kept_start : (demoMain b).Kept none := by
  refine ⟨caller_init _, fun i hi => ?_, rfl⟩
  have horder := init_order { b with config := some demoConfig } i
  exact absurd (horder.symm.trans hi) (by decide)

theorem kept_run (h : Run Demo.step (demoMain b) ts p) : p.Kept (lastFound ts) := by
  refine h.history (I := fun ts u => u.Kept (lastFound ts)) kept_start ?_
  intro ts v x w o _ hk hs
  have hlast : lastFound (ts ++ [⟨v, x, w, o⟩]) = (v.found x).or (lastFound ts) := by
    rw [lastFound, List.foldl_append]
    rfl
  rw [hlast]
  exact hk.step hs

theorem kept_address {o : Option IP4} (h : p.Kept o) : inetAddr p.gIp = o.getD IP4.none := by
  rw [h.ip]
  cases o with
  | none => decide
  | some ip => exact inetAddr_dotted ip

theorem library_calls (hc : p.sys.dev.caller) (hx : p.action x = some a)
    (h : p.library a = some (p', evs)) : callsTo evs =
      if x.dials = true ∧ p.sys.dev.status = .null ∧ p.sys.dev.freeSlot.isSome then
        [inetAddr p.gIp] else [] := by
  obtain ⟨hd, -⟩ := library_step h
  have hs : p.sys.step a = some ({ p.sys.loops a with dev := p'.sys.dev }, evs) := by
    rw [System.step, hd]
  cases x with
  | key ch =>
    cases ch with
    | A =>
      obtain rfl := Option.some.inj hx
      have hevs : (findIp (some gAddr) 0 p.sys.dev).2 = evs :=
        congrArg Prod.snd (Option.some.inj hd)
      rw [← hevs]
      exact findIp_calls
    | B =>
      obtain rfl := Option.some.inj hx
      have hevs : (startCall p.gIp gAddr 2 p.sys.dev).2 = evs :=
        congrArg Prod.snd (Option.some.inj hd)
      rw [← hevs, startCall_calls]
      simp [Stimulus.dials]
    | C =>
      obtain rfl := Option.some.inj hx
      have hevs : (stopTalk p.sys.dev).2 = evs := congrArg Prod.snd (Option.some.inj hd)
      rw [← hevs]
      exact stopTalk_calls
    | other => simp [Demo.action] at hx
  | picture c frameType =>
    obtain rfl := Option.some.inj hx
    have hsend : qsaSendVideo { c with ip := p.gIp } frameType p.sys.dev =
      some (p'.sys.dev, evs) := hd
    exact sendVideo_calls hsend
  | demoThread => simp [Demo.action] at hx
  | recvVideo src dgram sendB =>
    obtain rfl := Option.some.inj hx
    exact answer_calls sendB (Or.inl rfl) hs
  | recvData src dgram =>
    obtain rfl := Option.some.inj hx
    exact answer_calls (fun _ => 0) (Or.inr rfl) hs
  | tick sendB =>
    obtain rfl := Option.some.inj hx
    have hevs : (timerThreadTask sendB p.sys.dev).2 = evs := congrArg Prod.snd (Option.some.inj hd)
    rw [← hevs]
    exact tick_calls hc

/-- In every run of the program, whatever it sends and is sent in between: a call is placed by its
key alone, when no call is up and a slot is free, and it goes to the address in the last name reply
the library took, or to 255.255.255.255 before there was one. -/
theorem demo_calls_found (h : Run Demo.step (demoMain b) ts p) (hs : p.step x = some (p', evs)) :
    callsTo evs = if x.dials = true ∧ p.sys.dev.status = .null ∧ p.sys.dev.freeSlot.isSome then
      [(lastFound ts).getD IP4.none] else [] := by
  have hk := kept_run h
  rw [← kept_address hk]
  unfold Demo.step at hs
  split at hs
  · rename_i hx
    obtain ⟨rfl, rfl⟩ := Prod.mk.inj (Option.some.inj hs)
    have hother : x.dials = false := by
      cases x with
      | key ch => cases ch <;> first | rfl | simp [Demo.action] at hx
      | _ => rfl
    rw [hother]
    rfl
  · rename_i a hx
    exact library_calls hk.caller hx hs

/-- The room is looked up and answers, a film is tried too early, and the room is called. -/
def sampleReply (ip : IP4) : List UInt8 :=
  udpPackageHead ++ [nsOrder, reply] ++ List.replicate 24 0 ++ [1] ++ roomBytes demoConfig.address gAddr ++
    ip.bytes ++ [0]

def sampleStimuli : List Stimulus :=
  [.demoThread, .key .A, .recvVideo sampleHost (sampleReply sampleHost) fun _ => 0,
    .picture sampleFrame 5]

theorem sampleStimuli_runs : (trail Demo.step (demoMain sampleBoot) sampleStimuli).isSome := by
  decide +kernel

def lookedUp : List DemoStep × Demo :=
  (trail Demo.step (demoMain sampleBoot) sampleStimuli).get sampleStimuli_runs

theorem found_called : ∃ p' evs, Run Demo.step (demoMain sampleBoot) lookedUp.1 lookedUp.2 ∧
    lookedUp.2.step (.key .B) = some (p', evs) ∧ callsTo evs = [sampleHost] := by
  have hrun : Run Demo.step (demoMain sampleBoot) lookedUp.1 lookedUp.2 :=
    run_of_trail (Option.some_get sampleStimuli_runs).symm
  have hidle : lookedUp.2.sys.dev.status = .null ∧ lookedUp.2.sys.dev.freeSlot.isSome := by
    decide +kernel
  have hfound : lastFound lookedUp.1 = some sampleHost := by decide +kernel
  refine ⟨_, _, hrun, rfl, ?_⟩
  have hcalls := demo_calls_found (x := .key .B) hrun rfl
  rw [if_pos ⟨rfl, hidle⟩, hfound] at hcalls
  exact hcalls

end QsaTalk
