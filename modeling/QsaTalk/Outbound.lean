import QsaTalk.Emission

/-! Two properties of everything that leaves: that it holds no byte of what memory held before, and
that all VIDEOTALK messages carry the same header. Both are exact. -/
namespace QsaTalk
open ByteBuffer SlotTable Function
variable {d : Device}

/-! Old memory. -/

/-- `qsa_send_audio` in a call that is not a talk yet, a CALLCONFIRM that is due, and
`ForceIFrame_Func` outside a call with a slot to fill. -/
def Emitter.leaks (d : Device) : Emitter → Prop
  | .sendAudio c => d.status ≠ .null ∧ d.status ≠ .talking ∧ c.fits
  | .onlineCheck => (d.status = .called ∨ d.status = .talked) ∧
      d.local1.timer1Num ≤ timerPerSec * 12 ∧ d.local1.timer1Num % (timerPerSec * 2) = 0
  | .forceIFrame => d.freeSlot.isSome ∧ ¬d.active
  | _ => False

def Residue.filled (v : UInt8) : Residue where
  bufs := fun _ _ => v
  out := fun _ => v
  talk := TalkData1.read (fun _ => v) 0
  recv := fun _ => v

theorem byte_eq {pre post post' rest rest' : List UInt8} {v v' : UInt8}
    (h : pre ++ [v] ++ post ++ rest = pre ++ [v'] ++ post' ++ rest') : v = v' := by
  simp only [List.append_assoc] at h
  exact (List.cons.inj (List.append_cancel_left h)).1

theorem filled_ne : (Residue.filled 0).out 8 ≠ (Residue.filled 1).out 8 := by decide

theorem audio_talking {c : MediaCall} (hs : d.status = .talking) : (audioPacket d c).bytes =
    talkBytes d ask callUp ++ (audioHeader d c).tail ++ frame c := by
  have hparties : udpPackageHead ++ [videoTalk] ++ [1] ++ [callUp] ++ (audioHeader d c).bytes =
      talkBytes d ask callUp ++ (audioHeader d c).tail := by
    refine media_bytes ?_ ?_ ?_ ?_ <;> rw [audioHeader, if_pos hs]
    · exact parties_hostAddr c.talk
    · rfl
    · exact parties_assiAddr c.talk
    · rfl
  rw [← hparties, audioPacket, if_pos hs]

theorem audio_seen {c : MediaCall} (hn : d.status ≠ .null) (ht : d.status ≠ .talking)
    (hf : c.fits) : ∃ m m' : Residue,
      (Emitter.sendAudio c).output m d ≠ (Emitter.sendAudio c).output m' d := by
  refine ⟨.filled 0, .filled 1, fun h => ?_⟩
  simp only [Emitter.output, if_neg hn, if_pos hf, Option.some.injEq, Prod.mk.injEq,
    List.cons.injEq, and_true] at h
  rw [audioPacket, audioPacket, if_neg ht, if_neg ht] at h
  exact filled_ne (byte_eq h)

theorem audio_unseen {c : MediaCall} (ht : d.status = .talking) (m m' : Residue) :
    (Emitter.sendAudio c).output m d = (Emitter.sendAudio c).output m' d := by
  have htail : (audioHeader d (c.over m)).tail = (audioHeader d (c.over m')).tail := by
    rw [audioHeader, audioHeader, if_pos ht, if_pos ht]
    rfl
  simp only [Emitter.output, audio_talking ht, htail]
  rfl

theorem video_unseen (c : MediaCall) (frameType : Int) (m m' : Residue) :
    (Emitter.sendVideo c frameType).output m d = (Emitter.sendVideo c frameType).output m' d := by
  have hpackets : (videoPackets d (c.over m) frameType).map Datagram.bytes =
      (videoPackets d (c.over m') frameType).map Datagram.bytes := by
    rw [videoPackets, videoPackets, List.map_map, List.map_map]
    refine List.map_congr_left fun j _ => ?_
    change (packetOf _ _ _ _ j).bytes = (packetOf _ _ _ _ j).bytes
    rw [videoPacket_bytes, videoPacket_bytes]
    rfl
  simp only [Emitter.output, hpackets]

/-- A handler sends back no more than the least length its opcode is accepted with. -/
theorem echoes_le {buff : Buf} {t : VideoTask} {n : Nat} (h : d.echoes buff t = some n) :
    n ≤ t.minLen ∧ t ≠ .callUpDown := by
  cases t with
  | nsReply | call | lineUse | callAnswer | callUpDown => simp [Device.echoes] at h
  | callStart | callConfirm | openLock | callEnd | forceIFrame =>
    simp only [Device.echoes] at h
    split at h
    · obtain rfl := Option.some.inj h
      exact ⟨le_refl _, by simp⟩
    · simp at h

theorem replies_agree {a b : Buf} {n : Nat} (h : Agree (n + 1) a b) (h0 : a n = 0) :
    d.replies a n = d.replies b n := by
  by_cases hn : 8 ≤ n
  · rw [Device.replies, Device.replies, ← videoTask_agree h hn]
    cases hv : videoTask a n with
    | none => rfl
    | some t =>
      have hlen := (videoTask_spec hv).length
      have hecho : d.echoes a t = d.echoes b t := by
        cases t <;> simp only [Device.echoes, h 7 (by omega)]
      rw [Option.bind_some, Option.bind_some, ← hecho]
      cases he : d.echoes a t with
      | none => rfl
      | some k =>
        have hk := (echoes_le he).1
        have hs : slice a 0 k = slice b 0 k := h.slice (by omega)
        exact congrArg (fun l => (([l.set 7 reply], fun _ => none) : Output)) hs
  · have hquiet {c : Buf} (hc : c n = 0) : d.replies c n = nothing := by
      rw [Device.replies]
      cases hv : videoTask c n with
      | none => rfl
      | some t =>
        obtain ⟨rfl, -⟩ := videoTask_short hc (by omega) hv
        rfl
    rw [hquiet h0, hquiet (by rw [← h n (by omega), h0])]

/-- What an operation emits is the same whatever memory held before, unless it is one of the
three that leak. -/
theorem residue_unseen_iff (o : Emitter) (d : Device) :
    (∀ m m' : Residue, o.emits m d = o.emits m' d) ↔ ¬o.leaks d := by
  simp only [emits_output]
  cases o with
  | startCall ip addr uFlag => exact iff_of_true (fun _ _ => rfl) id
  | stopTalk => exact iff_of_true (fun _ _ => rfl) id
  | findIp addr uFlag => cases addr <;> exact iff_of_true (fun _ _ => rfl) id
  | sendInfo data info => cases info <;> exact iff_of_true (fun _ _ => rfl) id
  | sendVideo c frameType => exact iff_of_true (video_unseen c frameType) id
  | reply src dgram =>
    refine iff_of_true (fun m m' => congrArg some ?_) id
    exact replies_agree (receive_agree _ _ _) (receive_length _ _)
  | sendAudio c =>
    by_cases hl : (Emitter.sendAudio c).leaks d
    · obtain ⟨m, m', hne⟩ := audio_seen hl.1 hl.2.1 hl.2.2
      exact iff_of_false (fun h => hne (h m m')) (not_not.mpr hl)
    refine iff_of_true (fun m m' => ?_) hl
    by_cases ht : d.status = .talking
    · exact audio_unseen ht m m'
    by_cases hn : d.status = .null
    · rw [Emitter.output, if_pos hn, Emitter.output, if_pos hn]
    · have hf : ¬c.fits := fun hf => hl ⟨hn, ht, hf⟩
      rw [Emitter.output, if_neg hn, if_neg hf, Emitter.output, if_neg hn, if_neg hf]
  | onlineCheck =>
    by_cases hl : Emitter.onlineCheck.leaks d
    · refine iff_of_false (fun h => ?_) (not_not.mpr hl)
      have hsame := h (.filled 0) (.filled 1)
      obtain ⟨hs, ht, hm⟩ := hl
      simp only [Emitter.output, if_neg (not_lt.mpr ht), if_pos (And.intro hm hs),
        Option.some.injEq, Prod.mk.injEq, List.cons.injEq, and_true] at hsame
      have hlast := List.append_cancel_left hsame
      exact absurd (List.cons.inj hlast).1 (by decide)
    refine iff_of_true (fun m m' => ?_) hl
    by_cases ht : d.local1.timer1Num > timerPerSec * 12
    · simp only [Emitter.output, if_pos ht]
    · have hno : ¬(d.local1.timer1Num % (timerPerSec * 2) = 0 ∧
          (d.status = .called ∨ d.status = .talked)) := fun h => hl ⟨h.2, not_lt.mp ht, h.1⟩
      simp only [Emitter.output, if_neg ht, if_neg hno]
  | forceIFrame =>
    cases hf : d.freeSlot with
    | none =>
      have hl : ¬Emitter.forceIFrame.leaks d := by
        rintro ⟨h, -⟩
        simp [hf] at h
      refine iff_of_true (fun m m' => ?_) hl
      simp only [Emitter.output, queues_full hf]
    | some i =>
      by_cases ha : d.active
      · have hl : ¬Emitter.forceIFrame.leaks d := fun h => h.2 ha
        refine iff_of_true (fun m m' => ?_) hl
        simp only [Emitter.output, if_pos ha]
      · have hl : Emitter.forceIFrame.leaks d := ⟨by rw [hf]; rfl, ha⟩
        refine iff_of_false (fun h => ?_) (not_not.mpr hl)
        have hsame := congrArg (Option.map fun x : Output => x.2 i) (h (.filled 0) (.filled 1))
        simp only [Emitter.output, if_neg ha, queues_taken hf, Option.map_some, if_true,
          Option.some.injEq] at hsame
        simp only [List.append_assoc] at hsame
        have hbyte := List.append_cancel_left hsame
        exact filled_ne (List.cons.inj hbyte).1

/-! A talk that has been answered but not started, with one byte of sound to send. -/

def answeredActions : List Action := [sampleCall sampleHost, sampleRecv ask callAnswer sampleHost]

def answered : Execution sampleBoot := execute sampleBoot answeredActions (by decide +kernel)

def sampleSound : MediaCall where
  data := fun _ => 9
  length := 1
  frameNum := 0
  ip := dotted sampleHost
  nowTime := 0
  out := fun _ => 0
  talk := TalkData1.read (fun _ => 0) 0

theorem answered_calling : answered.final.dev.status = .calling := by decide +kernel

theorem memory_sent : ∃ m m' : Residue,
    (Emitter.sendAudio sampleSound).emits m answered.final.dev ≠
      (Emitter.sendAudio sampleSound).emits m' answered.final.dev := by
  simp only [emits_output]
  exact audio_seen (by simp [answered_calling]) (by simp [answered_calling]) (by decide)

/-! The header. -/

structure TalkHeader (d : Device) (sub : UInt8) (bs : List UInt8) : Prop where
  package : bs.take 6 = udpPackageHead
  kind : bs[6]? = some videoTalk
  sub : bs[8]? = some sub
  address : (bs.drop 9).take 20 = slice d.localConfig.address 0 20
  ip : (bs.drop 29).take 4 = d.locateIp.bytes
  peerAddr : (bs.drop 33).take 20 = slice (d.remoteInfo.addr 0) 0 20
  peerIP : (bs.drop 53).take 4 = (d.remoteInfo.ip 0).bytes

/-- A message that is laid out in this order has the header just when each field is right. -/
theorem talkHeader_iff {k kind s sub : UInt8} {a b c e rest : List UInt8} (ha : a.length = 20)
    (hb : b.length = 4) (hc : c.length = 20) (he : e.length = 4) :
    TalkHeader d sub (udpPackageHead ++ [k] ++ [kind] ++ [s] ++ a ++ b ++ c ++ e ++ rest) ↔
      k = videoTalk ∧ s = sub ∧ a = slice d.localConfig.address 0 20 ∧ b = d.locateIp.bytes ∧
        c = slice (d.remoteInfo.addr 0) 0 20 ∧ e = (d.remoteInfo.ip 0).bytes := by
  have hda {n : Nat} (hn : 20 ≤ n) : a.drop n = [] := List.drop_eq_nil_of_le (by omega)
  have hdb {n : Nat} (hn : 4 ≤ n) : b.drop n = [] := List.drop_eq_nil_of_le (by omega)
  generalize hbs : udpPackageHead ++ [k] ++ [kind] ++ [s] ++ a ++ b ++ c ++ e ++ rest = bs
  have hpackage : bs.take 6 = udpPackageHead := by simp [← hbs, udpPackageHead]
  have hkind : bs[6]? = some k := by simp [← hbs, udpPackageHead]
  have hsub : bs[8]? = some s := by simp [← hbs, udpPackageHead]
  have haddress : (bs.drop 9).take 20 = a := by simp [← hbs, udpPackageHead, ha]
  have hip : (bs.drop 29).take 4 = b := by simp [← hbs, udpPackageHead, ha, hb]
  have hpeerAddr : (bs.drop 33).take 20 = c := by
    simp [← hbs, udpPackageHead, List.drop_append, ha, hb, hc, hda]
  have hpeerIP : (bs.drop 53).take 4 = e := by
    simp [← hbs, udpPackageHead, List.drop_append, ha, hb, hc, he, hda, hdb]
  constructor
  · rintro ⟨-, h6, h8, h9, h29, h33, h53⟩
    exact ⟨Option.some.inj (hkind.symm.trans h6), Option.some.inj (hsub.symm.trans h8),
      haddress.symm.trans h9, hip.symm.trans h29, hpeerAddr.symm.trans h33,
      hpeerIP.symm.trans h53⟩
  · rintro ⟨rfl, rfl, rfl, rfl, rfl, rfl⟩
    exact ⟨hpackage, hkind, hsub, haddress, hip, hpeerAddr, hpeerIP⟩

theorem talkHeader_of {kind sub : UInt8} (rest : List UInt8) :
    TalkHeader d sub (talkBytes d kind sub ++ rest) := by
  refine (talkHeader_iff ?_ (length_ip _) ?_ (length_ip _)).mpr ⟨rfl, rfl, rfl, rfl, rfl, rfl⟩
  · exact length_slice _ _ _
  · exact length_slice _ _ _

def Emitter.sub (d : Device) : Emitter → Option UInt8
  | .startCall _ _ _ => some call
  | .stopTalk => some callEnd
  | .forceIFrame => some QsaTalk.forceIFrame
  | .onlineCheck => some (if d.local1.timer1Num > timerPerSec * 12 then callEnd else callConfirm)
  | .sendAudio _ | .sendVideo _ _ => some callUp
  | _ => none

/-- `qsa_send_audio` in a call that is not a talk yet, and `ForceIFrame_Func` outside a call or
under a configured text that does not start with the address in binary. -/
def Emitter.misframes (d : Device) : Emitter → Prop
  | .sendAudio c => d.status ≠ .null ∧ d.status ≠ .talking ∧ c.fits
  | .forceIFrame => d.freeSlot.isSome ∧
      (¬d.active ∨ slice d.localConfig.ip 0 4 ≠ d.locateIp.bytes)
  | _ => False

def Output.has (x : Output) (bs : List UInt8) : Prop := bs ∈ x.1 ∨ ∃ i, x.2 i = some bs

/-- `start_call` names the peer it dials; the others name the one that stands. -/
def Emitter.parties (d : Device) : Emitter → Device
  | .startCall ip addr uFlag => if uFlag = 2 ∧ d.status = .null then d.dial ip addr else d
  | _ => d

def Device.headed (d : Device) : DevConfig × IP4 × Remote1 := (d.localConfig, d.locateIp, d.remoteInfo)

theorem headed_of_fixed {e : Device} (hf : e.fixed = d.fixed) (hr : e.remoteInfo = d.remoteInfo) :
    e.headed = d.headed := by
  simp only [Device.fixed, Prod.mk.injEq] at hf
  rw [Device.headed, hf.1, hf.2.1, hr, Device.headed]

theorem onlineCheck_headed (sendB : Buf) : (onlineCheckFunc sendB d).1.headed = d.headed := by
  have hstop : (stopTalk d).1.headed = d.headed := headed_of_fixed stopTalk_fixed stopTalk_remoteInfo
  unfold onlineCheckFunc
  dsimp only
  split
  · split
    · split
      · exact hstop
      · rfl
    · rfl
  · split
    · split <;> rfl
    · rfl

theorem run_headed {o : Emitter} {m : Residue} {r : Outcome} {sub : UInt8} (hs : o.sub d = some sub)
    (h : o.run m d = some r) : r.1.headed = (o.parties d).headed := by
  cases o with
  | startCall ip addr uFlag =>
    obtain rfl := Option.some.inj h
    rw [Emitter.parties]
    by_cases hc : uFlag = 2 ∧ d.status = .null
    · rw [if_pos hc]
      obtain ⟨rfl, hn⟩ := hc
      have hdial : ((d.over m).dial ip addr).headed = (d.dial ip addr).headed :=
        Prod.ext rfl (Prod.ext rfl (dial_over m ip addr))
      cases hf : d.freeSlot with
      | none =>
        rw [startCall_full (d := d.over m) hn ((over_freeSlot d m).trans hf)]
        exact hdial
      | some i =>
        rw [startCall_queued (d := d.over m) hn ((over_freeSlot d m).trans hf)]
        exact hdial
    · rw [if_neg hc, startCall_refused (d := d.over m) hc]
      rfl
  | stopTalk =>
    obtain rfl := Option.some.inj h
    exact headed_of_fixed (d := d.over m) stopTalk_fixed stopTalk_remoteInfo
  | forceIFrame =>
    obtain rfl := Option.some.inj h
    cases hf : d.freeSlot with
    | none =>
      rw [forceIFrame_full (d := d.over m) ((over_freeSlot d m).trans hf)]
      rfl
    | some i =>
      rw [forceIFrame_queued (d := d.over m) ((over_freeSlot d m).trans hf)]
      rfl
  | onlineCheck =>
    obtain rfl := Option.some.inj h
    exact onlineCheck_headed (d := d.over m) m.out
  | sendAudio c =>
    rw [(sendAudio_spec h).1]
    rfl
  | sendVideo c frameType =>
    rw [(sendVideo_spec h).1]
    rfl
  | findIp addr uFlag | sendInfo data info | reply src dgram => simp [Emitter.sub] at hs

theorem talkHeader_congr {e : Device} {sub : UInt8} {bs : List UInt8} (h : e.headed = d.headed) :
    TalkHeader e sub bs ↔ TalkHeader d sub bs := by
  simp only [Device.headed, Prod.mk.injEq] at h
  obtain ⟨hc, hl, hr⟩ := h
  constructor
  · rintro ⟨hp, h6, h8, h9, h29, h33, h53⟩
    exact ⟨hp, h6, h8, hc ▸ h9, hl ▸ h29, hr ▸ h33, hr ▸ h53⟩
  · rintro ⟨hp, h6, h8, h9, h29, h33, h53⟩
    exact ⟨hp, h6, h8, hc ▸ h9, hl ▸ h29, hr ▸ h33, hr ▸ h53⟩

def Emitter.frames (o : Emitter) (d : Device) : Prop :=
  ∀ m sub x bs, o.sub d = some sub → o.output m d = some x → x.has bs → TalkHeader (o.parties d) sub bs

theorem nothing_has {bs : List UInt8} : ¬nothing.has bs := by
  simp [nothing, Output.has]

theorem transmits_has {bs bs' : List UInt8} (h : (d.transmits bs).has bs') : bs' = bs := by
  cases hf : d.freeSlot with
  | none =>
    rw [transmits_full hf] at h
    exact absurd h nothing_has
  | some i =>
    rw [transmits_taken hf] at h
    obtain h | ⟨j, hj⟩ := h
    · exact List.mem_singleton.mp h
    · simp only [Option.ite_none_right_eq_some, Option.some.injEq] at hj
      exact hj.2.symm

theorem queues_has {bytes : Fin udpSendMax → List UInt8} {i : Fin udpSendMax} {bs : List UInt8}
    (hf : d.freeSlot = some i) : (d.queues bytes).has bs ↔ bs = bytes i := by
  rw [queues_taken hf]
  constructor
  · rintro (h | ⟨j, hj⟩)
    · simp at h
    · simp only [Option.ite_none_right_eq_some, Option.some.injEq] at hj
      exact hj.2.symm
  · rintro rfl
    exact Or.inr ⟨i, if_pos rfl⟩

theorem video_frames (c : MediaCall) (frameType : Int) : (Emitter.sendVideo c frameType).frames d := by
  intro m sub x bs hs hx hb
  obtain rfl := Option.some.inj hs
  rw [Emitter.output] at hx
  split at hx
  · simp at hx
  split at hx
  · obtain rfl := Option.some.inj hx
    exact absurd hb nothing_has
  split at hx
  · obtain rfl := Option.some.inj hx
    obtain hb | ⟨i, hi⟩ := hb
    · rw [videoPackets, List.map_map, List.mem_map] at hb
      obtain ⟨j, -, rfl⟩ := hb
      change TalkHeader d callUp (packetOf _ _ _ _ j).bytes
      rw [videoPacket_bytes, List.append_assoc]
      exact talkHeader_of _
    · simp at hi
  · simp at hx

theorem audio_frames_iff (c : MediaCall) :
    (Emitter.sendAudio c).frames d ↔ ¬(Emitter.sendAudio c).misframes d := by
  constructor
  · rintro h ⟨hn, ht, hf⟩
    have hx : (Emitter.sendAudio c).output (.filled 0) d =
        some ([(audioPacket d (c.over (.filled 0))).bytes], fun _ => none) := by
      rw [Emitter.output, if_neg hn, if_pos hf]
    have hsub := (h (.filled 0) callUp _ _ rfl hx (Or.inl (List.mem_singleton_self _))).sub
    have h8 : (audioPacket d (c.over (.filled 0))).bytes[8]? = some 0 := by
      rw [audioPacket, if_neg ht]
      simp [udpPackageHead, MediaCall.over, Residue.filled]
    exact absurd (Option.some.inj (h8.symm.trans hsub)) (by decide)
  · intro hm m sub x bs hs hx hb
    obtain rfl := Option.some.inj hs
    rw [Emitter.output] at hx
    split at hx
    · obtain rfl := Option.some.inj hx
      exact absurd hb nothing_has
    rename_i hn
    split at hx
    · rename_i hf
      have ht : d.status = .talking := by
        by_contra ht
        exact hm ⟨hn, ht, hf⟩
      obtain rfl := Option.some.inj hx
      obtain hb | ⟨i, hi⟩ := hb
      · rw [List.mem_singleton.mp hb, audio_talking ht, List.append_assoc]
        exact talkHeader_of _
      · simp at hi
    · simp at hx

theorem forceIFrame_header (v : UInt8) : TalkHeader d forceIFrame (udpPackageHead ++ [v] ++ [ask] ++
    [forceIFrame] ++ slice d.localConfig.address 0 20 ++ slice d.localConfig.ip 0 4 ++
      slice (d.remoteInfo.addr 0) 0 20 ++ (d.remoteInfo.ip 0).bytes) ↔
        v = videoTalk ∧ slice d.localConfig.ip 0 4 = d.locateIp.bytes := by
  rw [← List.append_nil (_ ++ (d.remoteInfo.ip 0).bytes)]
  refine (talkHeader_iff (length_slice _ _ _) (length_slice _ _ _) (length_slice _ _ _)
    (length_ip _)).trans ?_
  simp

theorem forceIFrame_frames_iff :
    Emitter.forceIFrame.frames d ↔ ¬Emitter.forceIFrame.misframes d := by
  cases hf : d.freeSlot with
  | none =>
    refine iff_of_true (fun m sub x bs hs hx hb => ?_) fun h => by simp [Emitter.misframes, hf] at h
    obtain rfl := Option.some.inj hx
    rw [queues_full hf] at hb
    exact absurd hb nothing_has
  | some i =>
    have hfree : d.freeSlot.isSome := by rw [hf]; rfl
    constructor
    · rintro h ⟨-, hwrong⟩
      have hhead := h (.filled 0) forceIFrame _ _ rfl rfl ((queues_has hf).mpr rfl)
      obtain ⟨hk, hip⟩ := (forceIFrame_header _).mp hhead
      obtain ha | hne := hwrong
      · rw [if_neg ha] at hk
        exact absurd hk (by decide : (0 : UInt8) ≠ videoTalk)
      · exact hne hip
    · intro hm m sub x bs hs hx hb
      obtain rfl := Option.some.inj hs
      obtain rfl := Option.some.inj hx
      rw [(queues_has hf).mp hb]
      have ha : d.active := by
        by_contra ha
        exact hm ⟨hfree, Or.inl ha⟩
      have hip : slice d.localConfig.ip 0 4 = d.locateIp.bytes := by
        by_contra hip
        exact hm ⟨hfree, Or.inr hip⟩
      exact (forceIFrame_header _).mpr ⟨if_pos ha, hip⟩

theorem frames_iff (o : Emitter) (d : Device) : o.frames d ↔ ¬o.misframes d := by
  cases o with
  | sendAudio c => exact audio_frames_iff c
  | forceIFrame => exact forceIFrame_frames_iff
  | sendVideo c frameType => exact iff_of_true (video_frames c frameType) id
  | findIp addr uFlag | sendInfo data info | reply src dgram =>
    exact iff_of_true (fun m sub x bs hs => by simp [Emitter.sub] at hs) id
  | startCall ip addr uFlag =>
    refine iff_of_true (fun m sub x bs hs hx hb => ?_) id
    obtain rfl := Option.some.inj hs
    obtain rfl := Option.some.inj hx
    by_cases hc : uFlag = 2 ∧ d.status = .null
    · rw [if_pos hc] at hb
      rw [transmits_has hb, Emitter.parties, if_pos hc, List.append_assoc]
      exact talkHeader_of _
    · rw [if_neg hc] at hb
      exact absurd hb nothing_has
  | stopTalk =>
    refine iff_of_true (fun m sub x bs hs hx hb => ?_) id
    obtain rfl := Option.some.inj hs
    obtain rfl := Option.some.inj hx
    split at hb
    · exact absurd hb nothing_has
    · rw [transmits_has hb, ← List.append_nil (talkBytes d ask callEnd)]
      exact talkHeader_of _
  | onlineCheck =>
    refine iff_of_true (fun m sub x bs hs hx hb => ?_) id
    obtain rfl := Option.some.inj hs
    obtain rfl := Option.some.inj hx
    split at hb
    · rename_i ht
      rw [if_pos ht]
      split at hb
      · rw [transmits_has hb, ← List.append_nil (talkBytes d ask callEnd)]
        exact talkHeader_of _
      · exact absurd hb nothing_has
    rename_i ht
    rw [if_neg ht]
    split at hb
    · obtain hb | ⟨i, hi⟩ := hb
      · rw [List.mem_singleton.mp hb, List.append_assoc]
        exact talkHeader_of _
      · simp at hi
    · exact absurd hb nothing_has

theorem run_frames (o : Emitter) (d : Device) :
    (∀ m r sub bs, o.sub d = some sub → o.run m d = some r → (outgoing d r).has bs →
      TalkHeader r.1 sub bs) ↔ o.frames d := by
  constructor
  · intro h m sub x bs hs hx hb
    rw [← emits_output, Emitter.emits, Option.map_eq_some_iff] at hx
    obtain ⟨r, hr, rfl⟩ := hx
    exact (talkHeader_congr (run_headed hs hr)).mp (h m r sub bs hs hr hb)
  · intro h m r sub bs hs hr hb
    have hx : o.output m d = some (outgoing d r) := by
      rw [← emits_output, Emitter.emits, hr, Option.map_some]
    exact (talkHeader_congr (run_headed hs hr)).mpr (h m sub _ bs hs hx hb)

/-- Every VIDEOTALK message carries the header of its sub-command, unless it is one of two. -/
theorem header_framed_iff (o : Emitter) (d : Device) :
    (∀ m r sub bs, o.sub d = some sub → o.run m d = some r → (outgoing d r).has bs →
      TalkHeader r.1 sub bs) ↔ ¬o.misframes d :=
  (run_frames o d).trans (frames_iff o d)

/-! A call of a device whose configured address is 192.168.10.20. -/

def configuredBoot : Boot :=
  { sampleBoot with
    config := some ⟨fun _ => 0, fun _ => 0, ofList (dotted ⟨192, 168, 10, 20⟩)⟩ }

def configured : Execution configuredBoot := execute configuredBoot answeredActions (by decide +kernel)

theorem text_sent : configured.final.dev.status = .calling ∧
    configured.final.dev.locateIp = ⟨192, 168, 10, 20⟩ ∧
    ¬∀ m r sub bs, Emitter.forceIFrame.sub configured.final.dev = some sub →
      Emitter.forceIFrame.run m configured.final.dev = some r →
        (outgoing configured.final.dev r).has bs → TalkHeader r.1 sub bs := by
  have hfree : configured.final.dev.freeSlot.isSome := by decide +kernel
  have htext : slice configured.final.dev.localConfig.ip 0 4 ≠ configured.final.dev.locateIp.bytes := by
    decide +kernel
  refine ⟨by decide +kernel, by decide +kernel, fun h => ?_⟩
  exact forceIFrame_frames_iff.mp ((run_frames _ _).mp h) ⟨hfree, Or.inr htext⟩

end QsaTalk
