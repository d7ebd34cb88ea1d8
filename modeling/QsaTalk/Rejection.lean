import QsaTalk.StaleBytes

/-! Datagrams that are no message of the socket they come in on. Neither loop does anything about
them, but for the text that ends both loops. -/
namespace QsaTalk
open ByteBuffer SlotTable Function
variable {s : System} {dgram : List UInt8}

def videoSubs : List (UInt8 × Nat) :=
  [(call, 62), (lineUse, 57), (callAnswer, 61), (callStart, 57), (callConfirm, 61),
    (remoteOpenLock, 57), (callEnd, 57), (forceIFrame, 57), (callUp, 0), (callDown, 0)]

/-- A message of the video socket, by the bytes of the datagram alone. -/
def VideoMessage (dgram : List UInt8) : Prop :=
  dgram.take 6 = udpPackageHead ∧
    ((dgram[6]? = some nsOrder ∧ dgram[7]? = some reply ∧ 57 ≤ dgram.length) ∨
      ((dgram[6]? = some videoTalk ∨ dgram[6]? = some videoTalkTrans) ∧
        ∃ p ∈ videoSubs, dgram[8]? = some p.1 ∧ p.2 ≤ dgram.length))

instance (dgram : List UInt8) : Decidable (VideoMessage dgram) :=
  inferInstanceAs (Decidable (_ ∧ (_ ∨ _ ∧ ∃ _ ∈ _, _)))

def DataMessage (dgram : List UInt8) : Prop :=
  dgram.take 6 = udpPackageHead ∧ dgram[6]? = some lift ∧ dgram[8]? = some openLock

instance (dgram : List UInt8) : Decidable (DataMessage dgram) :=
  inferInstanceAs (Decidable (_ ∧ _))

/-- "exit", as far as the first NUL. -/
def ExitText (dgram : List UInt8) : Prop := (dgram ++ [0]).take 5 = [101, 120, 105, 116, 0]

instance (dgram : List UInt8) : Decidable (ExitText dgram) := inferInstanceAs (Decidable (_ = _))

/-- What comes in is no message and not the text that ends the loops; during a talk, a VIDEOTALK
datagram of seven bytes, which has no sub-command to tell, is not counted in. -/
def Action.rejected (s : System) : Action → Prop
  | .recvVideo _ dgram _ =>
    ¬VideoMessage (received dgram) ∧ ¬ExitText (received dgram) ∧
      ¬(s.dev.status = .talking ∧ TalkDatagram (received dgram) ∧ (received dgram).length = 7)
  | .recvData _ dgram => ¬DataMessage (received dgram) ∧ ¬ExitText (received dgram)
  | _ => False

/-- Nothing is changed, sent or reported, and a loop that is running goes on. -/
structure Unheeded (s s' : System) (evs : List Event) : Prop where
  dev : s'.dev = s.dev
  flag : s'.udpRecvFlag = s.udpRecvFlag
  quiet : evs.filter Event.visible = []
  goesOn : s.udpRecvFlag = true → s'.videoRcv = s.videoRcv ∧ s'.dataRcv = s.dataRcv

theorem videoTask_sub {buff : Buf} {len : Nat} {t : VideoTask} (h : videoTask buff len = some t)
    (ht : t ≠ .nsReply) : ∃ p ∈ videoSubs, buff 8 = p.1 ∧ p.2 ≤ len := by
  have hsub : ∀ p ∈ talkTasks, (p.1, p.2.minLen) ∈ videoSubs := by decide
  obtain ⟨-, hl, ⟨hn, -⟩ | ⟨-, hm⟩⟩ := videoTask_switch h
  · exact absurd hn ht
  · exact ⟨_, hsub _ hm, rfl, hl⟩

/-- The dispatcher picks a handler for messages only, and for what is too short to tell. -/
theorem videoTask_message {buff : Buf} {t : VideoTask}
    (h : videoTask (receive buff dgram) (received dgram).length = some t) :
    VideoMessage (received dgram) ∨
      (TalkDatagram (received dgram) ∧ (received dgram).length = 7) := by
  have hd := videoTask_spec h
  have hp := (package_iff buff dgram).mp hd.package
  have h6 := isPackage_length (receive_length buff dgram) hd.package
  have hl6 : 6 < (received dgram).length := by
    refine receive_ne_zero buff dgram h6 ?_
    obtain ⟨-, ho, -⟩ | ⟨-, ho | ho⟩ := hd.order <;> rw [ho] <;> decide
  have hown {k : Nat} (hk : k < (received dgram).length) {v : UInt8}
      (hv : receive buff dgram k = v) : (received dgram)[k]? = some v := by
    rw [receive_own buff dgram hk, hv]
  by_cases ht : t = .nsReply
  · subst ht
    obtain ⟨-, h6, h7⟩ := hd.order.resolve_right fun hc => hc.1 rfl
    have hlen : 57 ≤ (received dgram).length := hd.length
    exact Or.inl ⟨hp, Or.inl ⟨hown hl6 h6, hown (by omega) h7, hlen⟩⟩
  · have htalk := (hd.order.resolve_left fun hc => ht hc.1).2
    have h6 : (received dgram)[6]? = some videoTalk ∨ (received dgram)[6]? = some videoTalkTrans :=
      htalk.imp (hown hl6) (hown hl6)
    by_cases h7 : (received dgram).length = 7
    · exact Or.inr ⟨⟨hp, h6⟩, h7⟩
    · obtain ⟨p, hp', h8, hmin⟩ := videoTask_sub h ht
      have hne : ∀ q ∈ videoSubs, q.1 ≠ 0 := by decide
      have hl8 : 8 < (received dgram).length := by
        refine receive_ne_zero buff dgram (by omega) ?_
        rw [h8]
        exact hne p hp'
      exact Or.inl ⟨hp, Or.inr ⟨h6, p, hp', hown hl8 h8, hmin⟩⟩

theorem openLock_message {buff : Buf} (h : isOpenLock (receive buff dgram)) :
    DataMessage (received dgram) ∨ (received dgram).length = 7 := by
  obtain ⟨hpack, ho6, ho8⟩ := h
  have hp := (package_iff buff dgram).mp hpack
  have h6 := isPackage_length (receive_length buff dgram) hpack
  have hl6 : 6 < (received dgram).length := by
    refine receive_ne_zero buff dgram h6 ?_
    rw [ho6]
    decide
  by_cases h7 : (received dgram).length = 7
  · exact Or.inr h7
  · have hl8 : 8 < (received dgram).length := by
      refine receive_ne_zero buff dgram (by omega) ?_
      rw [ho8]
      decide
    refine Or.inl ⟨hp, ?_, ?_⟩
    · rw [receive_own buff dgram hl6, ho6]
    · rw [receive_own buff dgram hl8, ho8]

theorem exit_text {buff : Buf} (h : isExit (receive buff dgram) = true) :
    ExitText (received dgram) := by
  have hn := exit_length (receive_length buff dgram) h
  have hown {k : Nat} (hk : k ≤ (received dgram).length) :
      (received dgram ++ [0])[k]? = some (receive buff dgram k) := by
    obtain hk | rfl := Nat.lt_or_eq_of_le hk
    · rw [List.getElem?_append_left hk, receive_own buff dgram hk]
    · rw [receive_length]
      simp
  have hcut : (received dgram ++ [0]).take 5 = slice (receive buff dgram) 0 5 := by
    apply List.ext_getElem?
    intro k
    rw [List.getElem?_take, getElem?_slice]
    split
    · rw [hown (by omega), Nat.zero_add]
    · rfl
  simp only [isExit, Bool.and_eq_true, beq_iff_eq] at h
  obtain ⟨⟨⟨⟨h0, h1⟩, h2⟩, h3⟩, h4⟩ := h
  rw [ExitText, hcut]
  simp [slice, List.range_succ, h0, h1, h2, h3, h4]
  decide

/-- Seven bytes are enough for CALLUP and CALLDOWN only, which are for a talk. -/
theorem seven_bytes_idle {buff sendB : Buf} {host : List UInt8} {d : Device} {t : VideoTask}
    (hl : t.minLen ≤ 7) (hd : d.status ≠ .talking) :
    runVideoTask t buff sendB host d = (d, []) := by
  cases t with
  | callUpDown => exact if_neg hd
  | _ => exact absurd hl (by decide)

/-- What is rejected gets as far as no handler that does anything. -/
theorem udpVideoRcv_rejected {sendB : Buf} {src : IP4}
    (hr : (Action.recvVideo src dgram sendB).rejected s) :
    udpVideoRcv (receive s.videoBuff dgram) sendB (received dgram).length (dotted src) s.dev =
      (s.dev, []) := by
  obtain ⟨hm, -, h7⟩ := hr
  rw [udpVideoRcv]
  cases hv : videoTask (receive s.videoBuff dgram) (received dgram).length with
  | none => rfl
  | some t =>
    have hseven := (videoTask_message hv).resolve_left hm
    have hl : t.minLen ≤ (received dgram).length := (videoTask_spec hv).length
    rw [hseven.2] at hl
    exact seven_bytes_idle hl fun ht => h7 ⟨ht, hseven⟩

/-- A rejected datagram has no effect, on either socket. -/
theorem rejected_unheeded (s : System) (a : Action) (hr : a.rejected s) :
    ∃ s' evs, s.step a = some (s', evs) ∧ Unheeded s s' evs := by
  cases a with
  | recvVideo src dgram sendB =>
    by_cases hrun : s.videoRcv = true
    · have hexit : isExit (receive s.videoBuff dgram) = false :=
        Bool.eq_false_iff.mpr fun h => hr.2.1 (exit_text h)
      refine ⟨_, _, step_recvVideo hrun, ?_⟩
      rw [udpVideoRcv_rejected hr, hexit]
      exact ⟨rfl, by simp, rfl, fun hf => ⟨by simp [hf, hrun], rfl⟩⟩
    · have hin : s.input (.recvVideo src dgram sendB) = .idle := if_neg hrun
      have hloops : s.loops (.recvVideo src dgram sendB) = s := if_neg hrun
      refine ⟨s, [], ?_, rfl, rfl, rfl, fun _ => ⟨rfl, rfl⟩⟩
      rw [System.step, hin, hloops]
      rfl
  | recvData src dgram =>
    obtain ⟨hm, he⟩ := hr
    by_cases hrun : s.dataRcv = true
    · have hexit : isExit (receive s.dataBuff dgram) = false :=
        Bool.eq_false_iff.mpr fun h => he (exit_text h)
      have hquiet : ∃ evs, udpDataRcv (receive s.dataBuff dgram) s.dev = (s.dev, evs) ∧
          evs.filter Event.visible = [] := by
        by_cases ho : isOpenLock (receive s.dataBuff dgram)
        · -- seven bytes end before the kind, and the NUL there is no reply
          have h7 : receive s.dataBuff dgram 7 = 0 := by
            rw [← (openLock_message ho).resolve_left hm, receive_length]
          have hkind : ¬(receive s.dataBuff dgram 7 = reply ∧ s.dev.pendingOpenLock.isSome) := by
            rw [h7]
            exact fun h => absurd h.1 (by decide)
          exact ⟨_, by rw [udpDataRcv, if_pos ho, openLock_ignored hkind], rfl⟩
        · exact ⟨[], if_neg ho, rfl⟩
      obtain ⟨evs, hrcv, hevs⟩ := hquiet
      refine ⟨_, _, step_recvData hrun, ?_⟩
      rw [hrcv, hexit]
      exact ⟨rfl, by simp, hevs, fun hf => ⟨rfl, by simp [hf, hrun]⟩⟩
    · have hin : s.input (.recvData src dgram) = .idle := if_neg fun h => hrun h.1
      have hloops : s.loops (.recvData src dgram) = s := if_neg hrun
      refine ⟨s, [], ?_, rfl, rfl, rfl, fun _ => ⟨rfl, rfl⟩⟩
      rw [System.step, hin, hloops]
      rfl
  | startCall | stopTalk | findIp | sendInfo | sendAudio | sendVideo | tick => exact absurd hr id

/-! A hang-up of the peer that lacks its last byte, and the text that ends the loops. -/

def shortEnd : Action :=
  .recvVideo sampleHost ((samplePacket ask callEnd sampleHost).take 56) fun _ => 0

theorem shortEnd_unheeded : inTalk.final.dev.status = .talking ∧
    ∃ s' evs, inTalk.final.step shortEnd = some (s', evs) ∧ Unheeded inTalk.final s' evs :=
  ⟨inTalk_talking.2, rejected_unheeded inTalk.final shortEnd
    ⟨by decide +kernel, by decide +kernel, by decide +kernel⟩⟩

def exitBytes : List UInt8 := [101, 120, 105, 116]

theorem exit_heeded : ¬VideoMessage (received exitBytes) ∧
    ∃ s' evs, (initParamTask sampleBoot).step (.recvVideo sampleHost exitBytes fun _ => 0) =
      some (s', evs) ∧ s'.udpRecvFlag = false ∧ s'.videoRcv = false ∧
        ¬Unheeded (initParamTask sampleBoot) s' evs := by
  have hexit : isExit (receive (initParamTask sampleBoot).videoBuff exitBytes) = true := by decide
  refine ⟨by decide, _, _, step_recvVideo rfl, ?_⟩
  rw [hexit]
  refine ⟨rfl, rfl, fun h => ?_⟩
  exact absurd h.flag (by decide)

end QsaTalk
