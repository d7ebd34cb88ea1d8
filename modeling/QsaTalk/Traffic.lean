import QsaTalk.Outbound

/-! Any number of devices on one network, with hosts of other make. What a device is sent makes it
send at most one answer, and answers are never answered, so traffic does not feed on itself. -/
namespace QsaTalk
open ByteBuffer SlotTable Function Runs
variable {d : Device} {s s' : System} {src : IP4} {dgram : List UInt8} {sendB : Buf}
  {evs : List Event}

def localDataPort : Int := 8300

/-- NSMULTIADDR, the group all devices join. -/
def nsGroup : IP4 := ⟨238, 9, 9, 1⟩

/-! One datagram. -/

/-- The sender gets back the beginning of its own request, turned into a REPLY. -/
structure Mirrors (src : IP4) (dgram : List UInt8) (g : Datagram) : Prop where
  dest : g.dest = src
  port : g.port = remoteVideoPort
  request : dgram[7]? = some ask
  answer : g.bytes = (dgram.take g.bytes.length).set 7 reply
  length : 57 ≤ g.bytes.length ∧ g.bytes.length ≤ dgram.length

theorem Mirrors.replies {g : Datagram} (h : Mirrors src dgram g) : g.bytes[7]? = some reply := by
  have hlen := h.length
  rw [h.answer, List.getElem?_set_self]
  rw [List.length_take]
  omega

theorem video_answers_sender {t : VideoTask} {buff sendB : Buf} {host : List UInt8} :
    ∀ g ∈ sends (runVideoTask t buff sendB host d).2,
      g.dest = inetAddr host ∧ g.port = remoteVideoPort := by
  have he := video_effect d t buff sendB host
  generalize runVideoTask t buff sendB host d = r at he
  cases he with
  | passive ht =>
    have hp := passive_effect d buff sendB host ht
    generalize runVideoTask t buff sendB host d = r at hp
    cases hp <;> simp [echo, udpSendBuff, Event.sent]
  | _ => simp [echo, udpSendBuff, Event.sent]

theorem echoes_ask {buff : Buf} {t : VideoTask} {n : Nat} (h : d.echoes buff t = some n) :
    buff 7 = ask ∧ 57 ≤ n := by
  cases t with
  | nsReply | call | lineUse | callAnswer | callUpDown => simp [Device.echoes] at h
  | callStart | callConfirm | openLock | callEnd | forceIFrame =>
    simp only [Device.echoes] at h
    split at h
    · rename_i hc
      obtain rfl := Option.some.inj h
      exact ⟨hc.2, by decide⟩
    · simp at h

/-- The first bytes in the receive buffer are the datagram's. -/
theorem slice_receive (buff : Buf) {n : Nat} (hn : n ≤ (received dgram).length) :
    slice (receive buff dgram) 0 n = dgram.take n := by
  have hlen : (received dgram).length ≤ dgram.length := List.length_take_le' _ _
  apply List.ext_getElem
  · rw [length_slice, List.length_take]
    omega
  · intro k hk _
    rw [length_slice] at hk
    rw [getElem_slice, Nat.zero_add, receive_lt buff dgram (by omega), List.getElem_take]
    simp [received]

theorem video_answers {buff : Buf} {t : VideoTask}
    (ht : videoTask (receive buff dgram) (received dgram).length = some t) :
    sends (runVideoTask t (receive buff dgram) sendB (dotted src) d).2 = [] ∨
      ∃ g, sends (runVideoTask t (receive buff dgram) sendB (dotted src) d).2 = [g] ∧
        Mirrors src dgram g := by
  generalize hgs : sends (runVideoTask t (receive buff dgram) sendB (dotted src) d).2 = gs
  have hbytes : gs.map Datagram.bytes = ((d.echoes (receive buff dgram) t).map fun n =>
      (slice (receive buff dgram) 0 n).set 7 reply).toList := hgs ▸ video_sends
  have hdest : ∀ g ∈ gs, g.dest = inetAddr (dotted src) ∧ g.port = remoteVideoPort :=
    hgs ▸ video_answers_sender
  cases he : d.echoes (receive buff dgram) t with
  | none =>
    rw [he] at hbytes
    exact Or.inl (List.map_eq_nil_iff.mp hbytes)
  | some n =>
    rw [he] at hbytes
    obtain ⟨g, rfl, hg⟩ := List.map_eq_singleton_iff.mp hbytes
    obtain ⟨hd, hp⟩ := hdest g (by simp)
    obtain ⟨hask, hn⟩ := echoes_ask he
    have hmin := (videoTask_spec ht).length
    have hle : n ≤ (received dgram).length := (echoes_le he).1.trans hmin
    have hcut : (received dgram).length ≤ dgram.length := List.length_take_le' _ _
    have hecho : g.bytes = (slice (receive buff dgram) 0 n).set 7 reply := hg
    have hgn : g.bytes = (dgram.take n).set 7 reply := by rw [hecho, slice_receive buff hle]
    have hlen : g.bytes.length = n := by
      rw [hgn, List.length_set, List.length_take]
      omega
    refine Or.inr ⟨g, rfl, hd.trans (inetAddr_dotted src), hp, ?_, by rw [hlen]; exact hgn, by omega⟩
    have h7 : 7 < dgram.length := by omega
    rw [List.getElem?_eq_getElem h7, ← hask, receive_lt buff dgram (by omega)]
    simp [received]

theorem openLock_sends (buff : Buf) : sends (recvOpenLockFunc buff d).2 = [] := by
  by_cases h : buff 7 = reply ∧ d.pendingOpenLock.isSome
  · obtain ⟨i, hi⟩ := Option.isSome_iff_exists.mp h.2
    rw [openLock_released h.1 hi]
    rfl
  · rw [openLock_ignored h]
    rfl

/-- Whatever it is sent on either socket, a device in any state sends at most one datagram for it:
to the host it came from, no longer than it was, made of its own bytes, and only for a request. -/
theorem answer_contained {a : Action} (ha : a = .recvVideo src dgram sendB ∨ a = .recvData src dgram)
    (h : s.step a = some (s', evs)) :
    sends evs = [] ∨ ∃ g, sends evs = [g] ∧ Mirrors src dgram g := by
  obtain rfl | rfl := ha
  · by_cases hr : s.videoRcv = true
    · rw [step_recvVideo hr] at h
      obtain ⟨-, rfl⟩ := Prod.mk.inj (Option.some.inj h)
      rw [udpVideoRcv]
      cases ht : videoTask (receive s.videoBuff dgram) (received dgram).length with
      | none => exact Or.inl rfl
      | some t => exact video_answers ht
    · have hd := device_step h
      rw [System.input, if_neg hr] at hd
      obtain ⟨-, rfl⟩ := Prod.mk.inj (Option.some.inj hd)
      exact Or.inl rfl
  · have hd := device_step h
    left
    unfold System.input at hd
    dsimp only at hd
    split at hd
    · have hout := congrArg Prod.snd (Option.some.inj hd)
      dsimp only at hout
      rw [← hout, openLock_sends]
    · obtain ⟨-, rfl⟩ := Prod.mk.inj (Option.some.inj hd)
      rfl

def ringing : System :=
  { initParamTask sampleBoot with dev := setDeviceStatus .calling (initParamTask sampleBoot).dev }

def sampleRequest : List UInt8 := samplePacket ask forceIFrame sampleHost

theorem request_mirrored : ∃ s' evs,
    ringing.step (.recvVideo sampleHost sampleRequest fun _ => 0) = some (s', evs) ∧
    ∃ g, sends evs = [g] ∧ Mirrors sampleHost sampleRequest g := by
  have hstep : (ringing.step (.recvVideo sampleHost sampleRequest fun _ => 0)).isSome = true := by
    decide +kernel
  obtain ⟨⟨s', evs⟩, h⟩ := Option.isSome_iff_exists.mp hstep
  have hsent : ((ringing.step (.recvVideo sampleHost sampleRequest fun _ => 0)).map fun r =>
      decide (sends r.2 = [])) = some false := by
    decide +kernel
  rw [h] at hsent
  have hne : ¬sends evs = [] := of_decide_eq_false (Option.some.inj hsent)
  exact ⟨s', evs, h, (answer_contained (Or.inl rfl) h).resolve_left hne⟩

/-! The network. -/

inductive Port where
  | video
  | data
deriving DecidableEq, Repr

structure Parcel (ι : Type) where
  dest : ι
  port : Port
  src : IP4
  bytes : List UInt8

structure Lan (ι : Type) where
  sys : ι → System
  flight : List (Parcel ι)

/-- A device acts on its own, or a parcel arrives, gets lost, or is put there by another host or by
the network itself. -/
inductive LanAct (ι : Type) where
  | act (x : ι) (a : Action)
  | deliver (k : Nat) (sendB : Buf)
  | lose (k : Nat)
  | inject (p : Parcel ι)

def Action.receives : Action → Bool
  | .recvVideo _ _ _ | .recvData _ _ => true
  | _ => false

variable {ι : Type}

def portOf (ip : IP4) (g : Datagram) : Option Port :=
  if g.dest = ip ∨ g.dest = nsGroup then
    if g.port = localVideoPort then some .video
    else if g.port = localDataPort then some .data
    else none
  else none

structure Site (ι : Type) where
  nodes : List ι
  addr : ι → IP4

variable (site : Site ι)

def Site.route (x : ι) (g : Datagram) : List (Parcel ι) :=
  site.nodes.filterMap fun j => (portOf (site.addr j) g).map fun p => ⟨j, p, site.addr x, g.bytes⟩

def Site.routes (x : ι) (evs : List Event) : List (Parcel ι) := (sends evs).flatMap (site.route x)

def Parcel.arrival (p : Parcel ι) (sendB : Buf) : Action :=
  match p.port with
  | .video => .recvVideo p.src p.bytes sendB
  | .data => .recvData p.src p.bytes

abbrev LanStep (ι : Type) := Transition (Lan ι) (LanAct ι) (List Event)

def Site.reach (ip : IP4) : Nat :=
  site.nodes.countP fun j => (portOf (site.addr j) ⟨0, ip, remoteVideoPort, []⟩).isSome

/-- What a parcel can still cause: its own arrival, and that of the answers to a request. -/
def Site.load (p : Parcel ι) : Nat :=
  1 + if p.bytes[7]? = some ask then site.reach p.src else 0

def Site.loads (ps : List (Parcel ι)) : Nat := (ps.map site.load).sum

/-- What a step brings into the network from outside: the parcels of a device that acts on its own,
and those of other hosts. -/
def Site.brought (t : LanStep ι) : Nat :=
  match t.act with
  | .act x _ => site.loads (site.routes x t.out)
  | .inject p => site.load p
  | _ => 0

def arrived (t : LanStep ι) : Nat :=
  match t.act with
  | .deliver _ _ => 1
  | _ => 0

theorem loads_append (ps qs : List (Parcel ι)) :
    site.loads (ps ++ qs) = site.loads ps + site.loads qs := by
  rw [Site.loads, List.map_append, List.sum_append, Site.loads, Site.loads]

theorem loads_eraseIdx {ps : List (Parcel ι)} {k : Nat} {p : Parcel ι} (h : ps[k]? = some p) :
    site.loads (ps.eraseIdx k) + site.load p = site.loads ps := by
  induction ps generalizing k with
  | nil => simp at h
  | cons q ps ih =>
    cases k with
    | zero =>
      obtain rfl := Option.some.inj h
      simp only [List.eraseIdx_cons_zero, Site.loads, List.map_cons, List.sum_cons]
      omega
    | succ k =>
      have hk := ih (k := k) h
      simp only [List.eraseIdx_cons_succ, Site.loads, List.map_cons, List.sum_cons] at hk ⊢
      omega

theorem loads_lose (ps : List (Parcel ι)) (k : Nat) : site.loads (ps.eraseIdx k) ≤ site.loads ps := by
  cases h : ps[k]? with
  | none =>
    have hk := List.getElem?_eq_none_iff.mp h
    rw [List.eraseIdx_of_length_le hk]
  | some p =>
    have hp := loads_eraseIdx site h
    omega

theorem portOf_congr {ip : IP4} {g g' : Datagram} (hd : g.dest = g'.dest) (hp : g.port = g'.port) :
    portOf ip g = portOf ip g' := by
  rw [portOf, portOf, hd, hp]

/-- The parcels an answer is carried in ask for nothing. -/
theorem answer_loads {x : ι} {g : Datagram} {src : IP4} {dgram : List UInt8}
    (h : Mirrors src dgram g) : site.loads (site.route x g) = site.reach src := by
  have hload : ∀ p ∈ site.route x g, site.load p = 1 := by
    intro p hp
    obtain ⟨j, -, hj⟩ := List.mem_filterMap.mp hp
    obtain ⟨q, -, rfl⟩ := Option.map_eq_some_iff.mp hj
    have hne : ¬some reply = some ask := by decide
    rw [Site.load, if_neg]
    dsimp only
    rw [h.replies]
    exact hne
  have hlen : (site.route x g).length = site.reach src := by
    rw [Site.route, List.length_filterMap_eq_countP, Site.reach]
    refine List.countP_congr fun j _ => ?_
    have hport : portOf (site.addr j) g = portOf (site.addr j) ⟨0, src, remoteVideoPort, []⟩ :=
      portOf_congr h.dest h.port
    rw [Option.isSome_map, hport]
  rw [Site.loads, List.map_congr_left hload, ← hlen, List.map_const', List.sum_replicate]
  exact Nat.mul_one _

theorem arrival_loads {s s' : System} {p : Parcel ι} {sendB : Buf} {evs : List Event}
    (h : s.step (p.arrival sendB) = some (s', evs)) (x : ι) :
    site.loads (site.routes x evs) + 1 ≤ site.load p := by
  have ha : p.arrival sendB = .recvVideo p.src p.bytes sendB ∨
      p.arrival sendB = .recvData p.src p.bytes := by
    unfold Parcel.arrival
    cases p.port with
    | video => exact Or.inl rfl
    | data => exact Or.inr rfl
  obtain hs | ⟨g, hs, hg⟩ := answer_contained ha h
  · rw [Site.routes, hs, Site.load]
    exact Nat.add_le_add_left (Nat.zero_le _) 1 |>.trans' (by simp [Site.loads])
  · rw [Site.routes, hs, List.flatMap_singleton, answer_loads site hg, Site.load, if_pos hg.request]
    omega

variable [DecidableEq ι]

def Site.run (n : Lan ι) (x : ι) (a : Action) (rest : List (Parcel ι)) :
    Option (Lan ι × List Event) :=
  match (n.sys x).step a with
  | none => none
  | some (s, evs) => some (⟨update n.sys x s, rest ++ site.routes x evs⟩, evs)

def Site.step (n : Lan ι) : LanAct ι → Option (Lan ι × List Event)
  | .act x a => if a.receives then none else site.run n x a n.flight
  | .deliver k sendB =>
    match n.flight[k]? with
    | none => none
    | some p => site.run n p.dest (p.arrival sendB) (n.flight.eraseIdx k)
  | .lose k => some (⟨n.sys, n.flight.eraseIdx k⟩, [])
  | .inject p => some (⟨n.sys, n.flight ++ [p]⟩, [])

def samplePeer : IP4 := ⟨192, 168, 10, 98⟩

def samplePair : Site Bool := ⟨[false, true], fun x => if x then samplePeer else sampleHost⟩

def pairActs : List (LanAct Bool) :=
  [.inject ⟨true, .video, sampleHost, sampleRequest⟩, .deliver 0 fun _ => 0, .deliver 0 fun _ => 0]

end QsaTalk
