import QsaTalk.HandlerSpecs

/-! What a received datagram is judged by. The receive buffer is reused, so behind the datagram and
its NUL lie bytes of earlier ones; here it is said which datagrams make a device look there. -/
namespace QsaTalk
open ByteBuffer SlotTable Function
variable {d : Device}

/-! Handlers read no further than the least length their opcode is accepted with. -/

def Agree (n : Nat) (a b : Buf) : Prop := ∀ k < n, a k = b k

variable {a b : Buf}

theorem Agree.mono {m n : Nat} (h : Agree n a b) (hm : m ≤ n) : Agree m a b :=
  fun k hk => h k (hk.trans_le hm)

theorem Agree.slice {n : Nat} (h : Agree n a b) {off m : Nat} (hm : off + m ≤ n) :
    slice a off m = slice b off m :=
  slice_congr fun k hk => h (off + k) (by omega)

theorem Agree.ipAt {n : Nat} (h : Agree n a b) {off : Nat} (hm : off + 4 ≤ n) :
    ipAt a off = ipAt b off := by
  simp only [QsaTalk.ipAt, h off (by omega), h (off + 1) (by omega), h (off + 2) (by omega),
    h (off + 3) (by omega)]

theorem echo_agree {m : Nat} (h : Agree m a b) {sendB : Buf} {host : List UInt8} :
    echo d a sendB host m = echo d b sendB host m := by
  rw [echo, h.slice (by omega : 0 + m ≤ m), echo]

theorem isQuery_agree (h : Agree 57 a b) : isQuery a = isQuery b := by
  funext m
  rw [isQuery, h 32 (by decide), isQuery]

theorem isHouse_agree (h : Agree 57 a b) : isHouse a = isHouse b := by
  rw [isHouse, h 33 (by decide), isHouse]

theorem addrMatches_agree (h : Agree 57 a b) {n : Nat} (hn : n ≤ 12) (m : MultiUdpBuff1) :
    addrMatches a n m = addrMatches b n m := by
  rw [Bool.eq_iff_iff]
  simp only [addrMatches, List.all_eq_true, List.mem_range'_1]
  refine forall₂_congr fun j hj => ?_
  rw [h 33 (by decide), h (j + 1) (by omega)]

theorem nsScan_agree (h : Agree 57 a b) (is : List (Fin udpSendMax)) (st : NsScan)
    (hlen : st.addrLen ≤ 12) : nsScan a is st = nsScan b is st := by
  induction is generalizing st with
  | nil => rfl
  | cons i is ih =>
    have hl : (if isHouse b then 11 else st.addrLen) ≤ 12 := by
      split <;> omega
    simp only [nsScan, isQuery_agree h, isHouse_agree h, addrMatches_agree h hl]
    generalize (if isHouse b then 11 else st.addrLen) = n at hl
    have hnext (t : Fin udpSendMax → MultiUdpBuff1) (ok : Bool) :
        nsScan a is ⟨t, ok, n⟩ = nsScan b is ⟨t, ok, n⟩ := ih _ hl
    simp only [hnext, ih st hlen]

theorem nsReply_agree (h : Agree 57 a b) : recvNSReplyFunc a d = recvNSReplyFunc b d := by
  have hr (e : Device) : e.resolved a = e.resolved b := by
    rw [Device.resolved, h.ipAt (by decide), h.slice (by decide), Device.resolved]
  have hscan := nsScan_agree h (List.finRange udpSendMax) ⟨d.multiUdpBuff, false, 12⟩ (le_refl 12)
  simp only [recvNSReplyFunc, hscan, hr]

theorem callStart_agree (h : Agree 57 a b) {sendB : Buf} {host : List UInt8} :
    recvTalkCallStartTask a sendB host d = recvTalkCallStartTask b sendB host d := by
  have hs : d.started a = d.started b := by
    rw [Device.started, h.ipAt (by decide), h.slice (by decide), h 6 (by decide), Device.started]
  rw [recvTalkCallStartTask, recvTalkCallStartTask, h 7 (by decide), hs, echo_agree h]

theorem runVideoTask_agree {t : VideoTask} (ht : t ≠ .callUpDown) (h : Agree t.minLen a b)
    {sendB : Buf} {host : List UInt8} :
    runVideoTask t a sendB host d = runVideoTask t b sendB host d := by
  cases t with
  | callUpDown => exact absurd rfl ht
  | nsReply => exact nsReply_agree h
  | call => rfl
  | lineUse =>
    have h7 := h 7 (by decide)
    simp only [runVideoTask, recvTalkLineUseTask, h7]
  | callAnswer =>
    have h7 := h 7 (by decide)
    simp only [runVideoTask, recvTalkCallAnswerTask, h7]
  | callStart => exact callStart_agree h
  | callConfirm =>
    have h7 := h 7 (by decide)
    have he : echo d a sendB host 61 = echo d b sendB host 61 := echo_agree h
    simp only [runVideoTask, recvTalkCallConfirmTask, h7, he]
  | openLock =>
    have h7 := h 7 (by decide)
    have he : echo d a sendB host 57 = echo d b sendB host 57 := echo_agree h
    simp only [runVideoTask, recvTalkOpenLockTask, h7, he]
  | callEnd =>
    have h7 := h 7 (by decide)
    have he : echo d.unwatched a sendB host 57 = echo d.unwatched b sendB host 57 := echo_agree h
    simp only [runVideoTask, recvTalkCallEndTask, h7, he]
  | forceIFrame =>
    have h7 := h 7 (by decide)
    have he : echo d a sendB host 57 = echo d b sendB host 57 := echo_agree h
    simp only [runVideoTask, recvForceIFrameFunc, h7, he]

/-! The dispatcher reads bytes 6 to 8, and the NUL stops it where the datagram ends before. -/

theorem isPackage_agree (h : Agree 6 a b) : isPackage a ↔ isPackage b :=
  forall_congr' fun i => by rw [h i (by omega)]

theorem isPackage_length {n : Nat} (h0 : a n = 0) (hp : isPackage a) : 6 ≤ n := by
  by_contra hn
  have hb := (hp ⟨n, by omega⟩).symm.trans h0
  have hne : ∀ i : Fin 6, udpPackageHead[i] ≠ 0 := by decide
  exact hne _ hb

theorem videoTask_agree {n : Nat} (h : Agree (n + 1) a b) (hn : 8 ≤ n) :
    videoTask a n = videoTask b n := by
  have hp : isPackage a ↔ isPackage b := isPackage_agree (h.mono (by omega))
  simp only [videoTask, hp, h 6 (by omega), h 7 (by omega), h 8 (by omega)]

/-- A datagram of seven bytes or less reaches at most the audio handler. -/
theorem videoTask_short {n : Nat} {t : VideoTask} (h0 : a n = 0) (hn : n < 8)
    (h : videoTask a n = some t) : t = .callUpDown ∧ n = 7 := by
  obtain ⟨hp, hl, ho, -, -⟩ := videoTask_spec h
  have h6 := isPackage_length h0 hp
  have ht : t = .callUpDown := by
    cases t <;> simp only [VideoTask.minLen] at hl <;> first | rfl | omega
  subst ht
  refine ⟨rfl, ?_⟩
  by_contra hn7
  obtain rfl : n = 6 := by omega
  have htalk := (ho.resolve_left (by simp)).2
  rw [h0] at htalk
  exact absurd htalk (by decide)

/-! A datagram and the buffer it is received into. -/

section Received
variable (buff : Buf) (dgram : List UInt8)

theorem receive_agree (buff' : Buf) :
    Agree ((received dgram).length + 1) (receive buff dgram) (receive buff' dgram) := by
  intro k hk
  by_cases hl : k < (received dgram).length
  · rw [receive_lt _ _ hl, receive_lt _ _ hl]
  · obtain rfl : k = (received dgram).length := by omega
    rw [receive_length, receive_length]

theorem receive_own {k : Nat} (hk : k < (received dgram).length) :
    (received dgram)[k]? = some (receive buff dgram k) := by
  rw [receive_lt _ _ hk]
  exact List.getElem?_eq_getElem hk

theorem receive_of_own {k : Nat} {v : UInt8} (h : (received dgram)[k]? = some v) :
    k < (received dgram).length ∧ receive buff dgram k = v := by
  obtain ⟨hk, hv⟩ := List.getElem?_eq_some_iff.mp h
  exact ⟨hk, (receive_lt buff dgram hk).trans hv⟩

theorem receive_ne_zero {k : Nat} (hk : k ≤ (received dgram).length)
    (h : receive buff dgram k ≠ 0) : k < (received dgram).length := by
  refine lt_of_le_of_ne hk fun he => h ?_
  rw [he, receive_length]

theorem package_iff : isPackage (receive buff dgram) ↔
    (received dgram).take 6 = udpPackageHead := by
  constructor
  · intro hp
    have hn := isPackage_length (receive_length buff dgram) hp
    apply List.ext_getElem
    · rw [List.length_take]
      exact min_eq_left hn
    · intro k hk hk'
      rw [List.length_take] at hk
      rw [List.getElem_take, ← receive_lt buff dgram (by omega)]
      exact hp ⟨k, hk'⟩
  · intro ht i
    have hi : (i : Nat) < udpPackageHead.length := i.isLt
    have hget : ((received dgram).take 6)[(i : Nat)]? = some udpPackageHead[(i : Nat)] := by
      rw [ht]
      exact List.getElem?_eq_getElem hi
    rw [List.getElem?_take, if_pos i.isLt] at hget
    exact (receive_of_own buff dgram hget).2

end Received

theorem exit_length {n : Nat} (h0 : a n = 0) (h : isExit a = true) : 4 ≤ n := by
  by_contra hn
  simp only [isExit, Bool.and_eq_true, beq_iff_eq] at h
  obtain ⟨⟨⟨⟨h1, h2⟩, h3⟩, h4⟩, -⟩ := h
  have hne : 'e'.toUInt8 ≠ 0 ∧ 'x'.toUInt8 ≠ 0 ∧ 'i'.toUInt8 ≠ 0 ∧ 't'.toUInt8 ≠ 0 := by decide
  obtain rfl | rfl | rfl | rfl : n = 0 ∨ n = 1 ∨ n = 2 ∨ n = 3 := by omega
  · exact hne.1 (h1.symm.trans h0)
  · exact hne.2.1 (h2.symm.trans h0)
  · exact hne.2.2.1 (h3.symm.trans h0)
  · exact hne.2.2.2 (h4.symm.trans h0)

theorem exit_agree {n : Nat} (h : Agree (n + 1) a b) (h0 : a n = 0) : isExit a = isExit b := by
  have h0' : b n = 0 := by rw [← h n (by omega), h0]
  by_cases hn : 4 ≤ n
  · simp only [isExit, h 0 (by omega), h 1 (by omega), h 2 (by omega), h 3 (by omega),
      h 4 (by omega)]
  · have ha : isExit a = false := Bool.eq_false_iff.mpr fun he => hn (exit_length h0 he)
    have hb : isExit b = false := Bool.eq_false_iff.mpr fun he => hn (exit_length h0' he)
    rw [ha, hb]

/-! What is seen of a step, and when the datagram alone decides it. -/

def Event.visible : Event → Bool
  | .lock | .unlock | .semPost => false
  | _ => true

/-- Everything of a step but the contents of the two receive buffers. -/
def reaction (r : Option (System × List Event)) :
    Option (Device × Bool × Bool × Bool × List Event) :=
  r.map fun (s, evs) =>
    (s.dev, s.udpRecvFlag, s.videoRcv, s.dataRcv, evs.filter Event.visible)

def System.withVideo (s : System) (b : Buf) : System := { s with videoBuff := b }
def System.withData (s : System) (b : Buf) : System := { s with dataBuff := b }

/-- Neither loop lets old buffer contents into its reaction, and audio that is handed on lies
inside the datagram. -/
structure OwnBytes (s : System) (dgram : List UInt8) : Prop where
  video : ∀ src sendB b b', reaction ((s.withVideo b).step (.recvVideo src dgram sendB)) =
    reaction ((s.withVideo b').step (.recvVideo src dgram sendB))
  audio : ∀ src sendB b s' evs,
    (s.withVideo b).step (.recvVideo src dgram sendB) = some (s', evs) →
      ∀ data n ty, .audioData data n ty ∈ evs →
        77 + n ≤ (received dgram).length ∧ data = ((received dgram).drop 77).take n
  data : ∀ src b b', reaction ((s.withData b).step (.recvData src dgram)) =
    reaction ((s.withData b').step (.recvData src dgram))

def datalen (dgram : List UInt8) : Nat := (read16 (ofList dgram) 73).toNat

def TalkDatagram (dgram : List UInt8) : Prop :=
  dgram.take 6 = udpPackageHead ∧
    (dgram[6]? = some videoTalk ∨ dgram[6]? = some videoTalkTrans)

instance (dgram : List UInt8) : Decidable (TalkDatagram dgram) :=
  inferInstanceAs (Decidable (_ ∧ _))

/-- In a talk the loop takes a talk datagram of seven bytes, or one with CALLUP or CALLDOWN that
ends before byte 61 or is audio and shorter than its `Datalen` says. -/
def TrustsBuffer (s : System) (dgram : List UInt8) : Prop :=
  (s.videoRcv = true ∧ s.dev.status = .talking) ∧ TalkDatagram dgram ∧
  (dgram.length = 7 ∨
    (dgram[8]? = some callUp ∨ dgram[8]? = some callDown) ∧
      (dgram.length < 61 ∨ dgram[61]? = some 1 ∧ dgram.length < 77 + datalen dgram))

instance (s : System) (dgram : List UInt8) : Decidable (TrustsBuffer s dgram) :=
  inferInstanceAs (Decidable (_ ∧ _))

theorem datalen_own {buff : Buf} {dgram : List UInt8} (h : 75 ≤ (received dgram).length) :
    (read16 (receive buff dgram) 73).toNat = datalen (received dgram) := by
  have hb {k : Nat} (hk : k < 75) : receive buff dgram k = ofList (received dgram) k := by
    rw [receive_lt _ _ (by omega), ofList, List.getElem?_eq_getElem (by omega), Option.getD_some]
  rw [datalen, read16, read16, hb (by decide), hb (by decide)]

/-! The data loop. -/

/-- A datagram that ends before its sub-command never releases a command. -/
theorem dataRcv_short {n : Nat} (h0 : a n = 0) (hn : n < 8) :
    (udpDataRcv a d).1 = d ∧ (udpDataRcv a d).2.filter Event.visible = [] := by
  rw [udpDataRcv]
  by_cases ho : isOpenLock a
  swap
  · rw [if_neg ho]
    exact ⟨rfl, rfl⟩
  rw [if_pos ho]
  obtain ⟨hp, hl, -⟩ := ho
  have h6 := isPackage_length h0 hp
  obtain rfl : n = 7 := by
    by_contra hn7
    obtain rfl : n = 6 := by omega
    rw [h0] at hl
    exact absurd hl (by decide)
  have h7 : ¬(a 7 = reply ∧ d.pendingOpenLock.isSome) := by
    rw [h0]
    exact fun hc => absurd hc.1 (by decide)
  rw [openLock_ignored h7]
  exact ⟨rfl, rfl⟩

theorem dataRcv_agree {n : Nat} (h : Agree (n + 1) a b) (hn : 8 ≤ n) :
    udpDataRcv a d = udpDataRcv b d := by
  have ho : isOpenLock a ↔ isOpenLock b := by
    have hp : isPackage a ↔ isPackage b := isPackage_agree (h.mono (by omega))
    rw [isOpenLock, hp, h 6 (by omega), h 8 (by omega), isOpenLock]
  have hrun : recvOpenLockFunc a d = recvOpenLockFunc b d := by
    rw [recvOpenLockFunc, h 7 (by omega), recvOpenLockFunc]
  simp only [udpDataRcv, ho, hrun]

theorem data_reaction {s : System} {dgram : List UInt8} (src : IP4) (b b' : Buf) :
    reaction ((s.withData b).step (.recvData src dgram)) =
      reaction ((s.withData b').step (.recvData src dgram)) := by
  by_cases hr : s.dataRcv = true
  swap
  · simp [reaction, System.step, System.input, System.loops, System.withData, hr, Device.step]
  have hag := receive_agree b dgram b'
  have h0 := receive_length b dgram
  have h0' := receive_length b' dgram
  rw [step_recvData (s := s.withData b) hr, step_recvData (s := s.withData b') hr]
  have hrcv : (udpDataRcv (receive b dgram) s.dev).1 = (udpDataRcv (receive b' dgram) s.dev).1 ∧
      (udpDataRcv (receive b dgram) s.dev).2.filter Event.visible =
        (udpDataRcv (receive b' dgram) s.dev).2.filter Event.visible := by
    by_cases hn : 8 ≤ (received dgram).length
    · rw [dataRcv_agree hag hn]
      exact ⟨rfl, rfl⟩
    · obtain ⟨hd, he⟩ := dataRcv_short (d := s.dev) h0 (by omega)
      obtain ⟨hd', he'⟩ := dataRcv_short (d := s.dev) h0' (by omega)
      exact ⟨hd.trans hd'.symm, he.trans he'.symm⟩
  simp only [reaction, Option.map_some, System.withData, hrcv.1, hrcv.2, exit_agree hag h0]

/-! The video loop. -/

theorem callUpDown_silent (h : d.status ≠ .talking) : recvTalkCallUpDownTask a d = (d, []) :=
  if_neg h

theorem callUpDown_agree {n : Nat} (h : Agree (n + 1) a b) (hn : 61 ≤ n)
    (hown : a 61 = 1 → 77 + (read16 a 73).toNat ≤ n) :
    recvTalkCallUpDownTask a d = recvTalkCallUpDownTask b d := by
  have h61 := h 61 (by omega)
  rw [recvTalkCallUpDownTask, recvTalkCallUpDownTask, ← h61]
  by_cases hf : a 61 = 1
  swap
  · simp only [hf, if_false]
  have hl := hown hf
  have hd : (TalkData1.read a 9).datalen = (TalkData1.read b 9).datalen := by
    change read16 a 73 = read16 b 73
    rw [read16, h 73 (by omega), h 74 (by omega), read16]
  have hs : slice a (9 + sizeofTalkData1) (TalkData1.read a 9).datalen.toNat =
      slice b (9 + sizeofTalkData1) (TalkData1.read a 9).datalen.toNat := by
    have hm : 77 + (TalkData1.read a 9).datalen.toNat ≤ n := hl
    exact h.slice (by rw [sizeofTalkData1]; omega)
  rw [hd] at hs
  simp only [hd, hs]

/-- What the dispatcher and the talk handler find in a datagram that trusts the buffer. -/
theorem trusts_of_upDown {s : System} {buff : Buf} {dgram : List UInt8} (hr : s.videoRcv = true)
    (ht : s.dev.status = .talking)
    (hd : Dispatched (receive buff dgram) (received dgram).length .callUpDown)
    (hb : (received dgram).length ≤ 7 ∨ (received dgram).length < 61 ∨
      receive buff dgram 61 = 1 ∧
        (received dgram).length < 77 + (read16 (receive buff dgram) 73).toNat) :
    TrustsBuffer s (received dgram) := by
  obtain ⟨hp, -, ho, hud, -⟩ := hd
  have h0 := receive_length buff dgram
  have h6 := isPackage_length h0 hp
  have htalk := (ho.resolve_left (by simp)).2
  have hl6 : 6 < (received dgram).length := by
    refine receive_ne_zero buff dgram h6 ?_
    obtain h | h := htalk <;> rw [h] <;> decide
  refine ⟨⟨hr, ht⟩, ⟨(package_iff buff dgram).mp hp, ?_⟩, ?_⟩
  · rw [receive_own buff dgram hl6]
    exact htalk.imp (congrArg some) (congrArg some)
  by_cases h7 : (received dgram).length = 7
  · exact Or.inl h7
  have hl8 : 8 < (received dgram).length := by
    refine receive_ne_zero buff dgram (by omega) ?_
    obtain h | h := hud rfl <;> rw [h] <;> decide
  refine Or.inr ⟨?_, ?_⟩
  · rw [receive_own buff dgram hl8]
    exact (hud rfl).imp (congrArg some) (congrArg some)
  obtain hb | hb | ⟨hf, hb⟩ := hb
  · omega
  · exact Or.inl hb
  by_cases hn : (received dgram).length < 61
  · exact Or.inl hn
  have hl61 : 61 < (received dgram).length :=
    receive_ne_zero buff dgram (by omega) (by rw [hf]; decide)
  refine Or.inr ⟨(receive_own buff dgram hl61).trans (congrArg some hf), ?_⟩
  by_cases h75 : 75 ≤ (received dgram).length
  · rwa [← datalen_own h75]
  · omega

theorem videoRcv_own {s : System} {dgram : List UInt8} (sendB : Buf) (host : List UInt8)
    (hr : s.videoRcv = true) (hown : ¬TrustsBuffer s (received dgram)) (buff buff' : Buf) :
    udpVideoRcv (receive buff dgram) sendB (received dgram).length host s.dev =
      udpVideoRcv (receive buff' dgram) sendB (received dgram).length host s.dev := by
  have hag := receive_agree buff dgram buff'
  by_cases hn : 8 ≤ (received dgram).length
  · rw [udpVideoRcv, udpVideoRcv, ← videoTask_agree hag hn]
    cases hv : videoTask (receive buff dgram) (received dgram).length with
    | none => rfl
    | some t =>
      have hd := videoTask_spec hv
      by_cases ht : t = .callUpDown
      swap
      · exact runVideoTask_agree ht (hag.mono (hd.length.trans (Nat.le_succ _)))
      subst ht
      change recvTalkCallUpDownTask _ _ = recvTalkCallUpDownTask _ _
      by_cases htalk : s.dev.status = .talking
      swap
      · rw [callUpDown_silent htalk, callUpDown_silent htalk]
      by_cases h61 : 61 ≤ (received dgram).length
      · refine callUpDown_agree hag h61 fun hf => ?_
        by_contra hl
        exact hown (trusts_of_upDown hr htalk hd (Or.inr (Or.inr ⟨hf, by omega⟩)))
      · exact absurd (trusts_of_upDown hr htalk hd (Or.inr (Or.inl (by omega)))) hown
  · -- a datagram this short is at most audio, and outside a talk that does nothing
    have hquiet (b : Buf) : udpVideoRcv (receive b dgram) sendB (received dgram).length host
        s.dev = (s.dev, []) := by
      rw [udpVideoRcv]
      cases hv : videoTask (receive b dgram) (received dgram).length with
      | none => rfl
      | some t =>
        obtain ⟨rfl, h7⟩ := videoTask_short (receive_length b dgram) (by omega) hv
        refine callUpDown_silent fun htalk => hown ?_
        exact trusts_of_upDown hr htalk (videoTask_spec hv) (Or.inl (by omega))
    rw [hquiet, hquiet]

/-- Audio is handed on by one handler only. -/
theorem audio_of_task {t : VideoTask} {buff sendB : Buf} {host data : List UInt8} {n : Nat}
    {ty : Int} (h : .audioData data n ty ∈ (runVideoTask t buff sendB host d).2) :
    t = .callUpDown ∧ d.status = .talking ∧ buff 61 = 1 ∧ n = (read16 buff 73).toNat ∧
      data = slice buff 77 n := by
  have he := video_effect d t buff sendB host
  generalize runVideoTask t buff sendB host d = r at he h
  cases he with
  | passive hp =>
    have he := passive_effect d buff sendB host hp
    generalize runVideoTask t buff sendB host d = r at he h
    cases he with
    | played hh =>
      simp only [List.mem_singleton, Event.audioData.injEq] at h
      obtain ⟨rfl, rfl, -⟩ := h
      exact ⟨rfl, hh.1, hh.2, rfl, rfl⟩
    | confirmed | unlocked | forced => simp [echo, udpSendBuff] at h
    | call | heard | unheard | shut | unforced | mute => simp at h
  | started | ended => simp [echo, udpSendBuff] at h
  | resolved | unresolved | busy | swallowed | unused | answered | unanswered | unstarted
  | concluded | stray | noCall => simp at h

theorem audio_inside {s s' : System} {src : IP4} {dgram data : List UInt8} {sendB : Buf}
    {evs : List Event} {n : Nat} {ty : Int} (hown : ¬TrustsBuffer s (received dgram))
    (h : s.step (.recvVideo src dgram sendB) = some (s', evs)) (ha : .audioData data n ty ∈ evs) :
    77 + n ≤ (received dgram).length ∧ data = ((received dgram).drop 77).take n := by
  by_cases hr : s.videoRcv = true
  swap
  · simp only [System.step, System.input, hr, Device.step] at h
    simp only [Bool.false_eq_true, if_false, Option.some.injEq, Prod.mk.injEq] at h
    rw [← h.2] at ha
    simp at ha
  rw [step_recvVideo hr, Option.some.injEq, Prod.mk.injEq] at h
  rw [← h.2, udpVideoRcv] at ha
  cases hv : videoTask (receive s.videoBuff dgram) (received dgram).length with
  | none =>
    rw [hv] at ha
    simp at ha
  | some t =>
    rw [hv] at ha
    obtain ⟨rfl, ht, hf, hn, rfl⟩ := audio_of_task ha
    have hl : 77 + n ≤ (received dgram).length := by
      by_contra hl
      refine hown (trusts_of_upDown hr ht (videoTask_spec hv) (Or.inr (Or.inr ⟨hf, ?_⟩)))
      omega
    refine ⟨hl, List.ext_getElem ?_ fun k hk _ => ?_⟩
    · rw [length_slice, List.length_take, List.length_drop]
      omega
    · rw [length_slice] at hk
      rw [getElem_slice, List.getElem_take, List.getElem_drop, receive_lt _ _ (by omega)]

/-- Old bytes that pass for an audio header wherever the datagram leaves them in place. -/
def staleAudio : Buf := put (fun _ => 1) 8 callUp

/-- A datagram that trusts the buffer makes such a buffer hand on audio it does not hold. -/
theorem trusted_audio {s : System} {dgram : List UInt8} (src : IP4) (sendB : Buf)
    (h : TrustsBuffer s (received dgram)) : ∃ s' evs data n ty,
      (s.withVideo staleAudio).step (.recvVideo src dgram sendB) = some (s', evs) ∧
        .audioData data n ty ∈ evs ∧ (received dgram).length < 77 + n := by
  obtain ⟨⟨hr, ht⟩, ⟨hhead, h6⟩, hb⟩ := h
  have hp := (package_iff staleAudio dgram).mpr hhead
  have hbyte {k : Nat} {v : UInt8} (hk : (received dgram)[k]? = some v) :
      receive staleAudio dgram k = v := (receive_of_own staleAudio dgram hk).2
  have hold {k : Nat} (hk : (received dgram).length < k) :
      receive staleAudio dgram k = staleAudio k := by
    rw [receive, put_ne _ _ (by omega), blit_ge _ _ (by omega)]
  have htalk : receive staleAudio dgram 6 = videoTalk ∨
      receive staleAudio dgram 6 = videoTalkTrans := h6.imp hbyte hbyte
  have hup : receive staleAudio dgram 8 = callUp ∨ receive staleAudio dgram 8 = callDown := by
    obtain h7 | ⟨h8, -⟩ := hb
    · exact Or.inl (hold (by omega))
    · exact h8.imp hbyte hbyte
  have hflag : receive staleAudio dgram 61 = 1 := by
    obtain h7 | ⟨-, hlen | ⟨h61, -⟩⟩ := hb
    · exact hold (by omega)
    · exact hold (by omega)
    · exact hbyte h61
  have hv : videoTask (receive staleAudio dgram) (received dgram).length = some .callUpDown := by
    have hns : receive staleAudio dgram 6 ≠ nsOrder := by
      obtain h | h := htalk <;> rw [h] <;> decide
    rw [videoTask, if_pos hp, if_neg hns, if_pos htalk]
    obtain h | h := hup <;> rw [h] <;> rfl
  have hlen : (received dgram).length < 77 + (read16 (receive staleAudio dgram) 73).toNat := by
    by_cases h77 : (received dgram).length < 77
    · omega
    obtain h7 | ⟨-, hlen | ⟨-, hlen⟩⟩ := hb
    · omega
    · omega
    · rwa [datalen_own (by omega)]
  have hrun : udpVideoRcv (receive staleAudio dgram) sendB (received dgram).length (dotted src)
      s.dev = recvTalkCallUpDownTask (receive staleAudio dgram) s.dev := by
    rw [udpVideoRcv, hv]
    rfl
  have hevs : .audioData (slice (receive staleAudio dgram) 77
        (read16 (receive staleAudio dgram) 73).toNat) (read16 (receive staleAudio dgram) 73).toNat 0 ∈
      (udpVideoRcv (receive staleAudio dgram) sendB (received dgram).length (dotted src) s.dev).2 := by
    rw [hrun, recvTalkCallUpDownTask, if_pos ht, if_pos hflag]
    exact List.mem_singleton.mpr rfl
  exact ⟨_, _, _, _, _, step_recvVideo (s := s.withVideo staleAudio) hr, hevs, hlen⟩

theorem trusting_not_own {s : System} {dgram : List UInt8}
    (h : TrustsBuffer s (received dgram)) : ¬OwnBytes s dgram := by
  intro ho
  obtain ⟨s', evs, data, n, ty, hs, ha, hl⟩ := trusted_audio IP4.zero (fun _ => 0) h
  have hin := (ho.audio _ _ _ _ _ hs data n ty ha).1
  omega

/-- A device goes by the datagram's own bytes exactly when it does not trust the buffer. -/
theorem own_bytes_iff (s : System) (dgram : List UInt8) :
    OwnBytes s dgram ↔ ¬TrustsBuffer s (received dgram) := by
  constructor
  · exact fun ho ht => trusting_not_own ht ho
  · intro hown
    refine ⟨fun src sendB b b' => ?_, fun src sendB b s' evs hs data n ty ha => ?_,
      fun src b b' => data_reaction src b b'⟩
    · by_cases hr : s.videoRcv = true
      · have hag := receive_agree b dgram b'
        rw [step_recvVideo (s := s.withVideo b) hr, step_recvVideo (s := s.withVideo b') hr]
        have hrcv := videoRcv_own sendB (dotted src) hr hown b b'
        simp only [reaction, Option.map_some, System.withVideo, hrcv,
          exit_agree hag (receive_length b dgram)]
      · simp [reaction, System.step, System.input, System.loops, System.withVideo, hr, Device.step]
    · exact audio_inside (s := s.withVideo b) hown hs ha

/-! A talk, and an audio datagram of nine bytes in it. -/

def inTalk : Execution sampleBoot := execute sampleBoot
  [sampleCall sampleHost, sampleRecv ask callAnswer sampleHost,
    sampleRecv ask callStart sampleHost] (by decide +kernel)

theorem inTalk_talking : inTalk.final.videoRcv = true ∧ inTalk.final.dev.status = .talking := by
  decide +kernel

def shortAudio : List UInt8 := udpPackageHead ++ [videoTalk, ask, callUp]

theorem stale_audio_played : ¬OwnBytes inTalk.final shortAudio :=
  trusting_not_own ⟨inTalk_talking, by decide, by decide⟩

end QsaTalk
