import QsaTalk.Lib.Loops
import QsaTalk.Messages

/-! `qsa_send_video` with the pauses between its packets, counted in ints. A pause of a non-I frame
counts upwards from 20000 for as long as the count is positive; past the largest int the program has
no meaning. -/
namespace QsaTalk
open ByteBuffer Fragments Loops

/-- `i++` on an int; `none` is an overflow. -/
def succInt (i : Int) : Option Int := if i + 1 < 2 ^ 31 then some (i + 1) else none

def PauseEnds : Prop := Ends (fun i : Int => decide (0 < i)) (fun i k => succInt i = some k) 20000

structure Sending where
  j : Int
  out : Buf
  talk : TalkData1
  events : List Event

def Sending.Round (d : Device) (c : MediaCall) (totalPackage : Int) (s t : Sending) : Prop :=
  ∃ out talk e j, videoPacket d c totalPackage s.j s.out s.talk = some (out, talk, e) ∧
    (talk.dataType = 2 ∨ PauseEnds) ∧ succInt s.j = some j ∧ t = ⟨j, out, talk, s.events ++ [e]⟩

/-- `for (j = 1; j <= TotalPackage; j++)` is left with these datagrams sent. -/
def Sending.Ends (d : Device) (c : MediaCall) (totalPackage : Int) (s : Sending)
    (events : List Event) : Prop :=
  ∃ n t, Loop (fun t : Sending => decide (t.j ≤ totalPackage)) (Sending.Round d c totalPackage) n s t ∧
    t.events = events

def SendVideoReturns (c : MediaCall) (frameType : Int) (d : Device) (r : Outcome) : Prop :=
  0 < c.length + sizeofTalkData1 + 20 ∧
    if d.status = .null then r = (d, [.currOpt .callFail d.status])
    else
      ∃ events, Sending.Ends d c (totalPackages c.length (videoPackLen d.status).toNat)
        ⟨1, put (mediaHead c.out) 8 callUp, videoHeader d c frameType, []⟩ events ∧ r = (d, events)

variable {d : Device} {c : MediaCall} {total : Int} {talk : TalkData1} {out : Buf} {frameType : Int}

/-- The count stays positive until it overflows. -/
theorem pause_endless : ¬PauseEnds := by
  refine Loop.never (I := fun i => 0 < i) (by decide) (fun i hi => decide_eq_true hi) ?_
  intro i k hi hk
  unfold succInt at hk
  split at hk
  · have hk := Option.some.inj hk
    omega
  · simp at hk

theorem videoPacket_dataType {j : Int} {out' : Buf} {talk' : TalkData1} {e : Event}
    (h : videoPacket d c total j out talk = some (out', talk', e)) :
    talk'.dataType = talk.dataType := by
  unfold videoPacket at h
  dsimp only at h
  split at h
  · simp at h
  · simp only [Option.some.injEq, Prod.mk.injEq] at h
    rw [← h.2.1]

/-- With `m` rounds to go, the loop is the one without pauses, if no pause of the second kind comes
up in them. -/
theorem sending_iff {j m : Nat} {sent events : List Event} (hj : (j : Int) + m = total + 1)
    (hmax : total + 1 < 2 ^ 31) : Sending.Ends d c total ⟨j, out, talk, sent⟩ events ↔
      ∃ evs, videoLoop d c total (List.range' j m) out talk = some evs ∧ events = sent ++ evs ∧
        (m = 0 ∨ talk.dataType = 2) := by
  induction m generalizing j out talk sent with
  | zero =>
    have hend : decide ((j : Int) ≤ total) = false := decide_eq_false (by omega)
    constructor
    · rintro ⟨n, t, hl, rfl⟩
      cases hl with
      | done _ => exact ⟨[], rfl, (List.append_nil _).symm, Or.inl rfl⟩
      | turn hc _ _ => exact absurd (hend.symm.trans hc) Bool.false_ne_true
    · rintro ⟨evs, hv, rfl, -⟩
      obtain rfl : [] = evs := Option.some.inj hv
      exact ⟨0, _, .done hend, (List.append_nil _).symm⟩
  | succ m ih =>
    have hgoes : decide ((j : Int) ≤ total) = true := decide_eq_true (by omega)
    have hnext : succInt j = some ((j + 1 : Nat) : Int) := if_pos (by omega)
    have hrest : ((j + 1 : Nat) : Int) + m = total + 1 := by omega
    rw [List.range'_succ]
    constructor
    · rintro ⟨n, t, hl, rfl⟩
      cases hl with
      | done hc => exact absurd (hc.symm.trans hgoes) Bool.false_ne_true
      | turn _ hr hl =>
        obtain ⟨out', talk', e, k, hp, hpause, hk, rfl⟩ := hr
        obtain rfl := Option.some.inj (hk.symm.trans hnext)
        obtain ⟨evs, hv, hevs, -⟩ := (ih hrest).mp ⟨_, t, hl, rfl⟩
        refine ⟨e :: evs, ?_, by rw [hevs]; simp, Or.inr ?_⟩
        · rw [videoLoop, hp]
          dsimp only
          rw [hv]
          rfl
        · rw [← videoPacket_dataType hp]
          exact hpause.resolve_right pause_endless
    · rintro ⟨evs, hv, rfl, hpause⟩
      have htype : talk.dataType = 2 := hpause.resolve_left (Nat.succ_ne_zero m)
      unfold videoLoop at hv
      split at hv
      · simp at hv
      · rename_i out' talk' e hp
        obtain ⟨es, hes, rfl⟩ := Option.map_eq_some_iff.mp hv
        have htype' : talk'.dataType = 2 := (videoPacket_dataType hp).trans htype
        have hevs : sent ++ e :: es = sent ++ [e] ++ es := List.append_cons ..
        obtain ⟨n, t, hl, ht⟩ := (ih hrest).mpr ⟨es, hes, hevs, Or.inr htype'⟩
        exact ⟨n + 1, t, .turn hgoes ⟨out', talk', e, _, hp, Or.inl htype', hnext, rfl⟩ hl,
          ht⟩

theorem packetCount_le (d : Device) (c : MediaCall) :
    2 * packetCount d c ≤ c.length.toNat + 1 := by
  have hp : 2 ≤ pieceLen d.status := by
    unfold pieceLen
    split <;> decide
  cases hm : packetCount d c with
  | zero => omega
  | succ k =>
    have hlt : k * pieceLen d.status < c.length.toNat :=
      (lt_count_iff (pieceLen_bounds d.status).1).mp (by rw [packetCount] at hm; omega)
    have hmul : k * 2 ≤ k * pieceLen d.status := Nat.mul_le_mul_left k hp
    omega

/-- The number of rounds is an int, and there is one unless the frame is empty. -/
theorem rounds_spec (h : 0 < c.length + sizeofTalkData1 + 20) :
    ∃ m : Nat, totalPackages c.length (videoPackLen d.status).toNat = m ∧
      2 * m ≤ c.length.toNat + 2 ∧ (m = 0 ↔ c.length = 0) := by
  obtain ⟨hp, -⟩ := pieceLen_bounds d.status
  by_cases hn : 0 ≤ c.length
  · refine ⟨packetCount d c, ?_, (packetCount_le d c).trans (Nat.le_succ _), ?_⟩
    · rw [videoPackLen_toNat, packetCount, ← totalPackages_eq hp, Int.toNat_of_nonneg hn]
    · have hlt := lt_count_iff (n := c.length.toNat) (k := 0) hp
      rw [packetCount]
      omega
  · refine ⟨1, totalPackages_negative (by rw [sizeofTalkData1] at h; omega) (by omega), by omega, ?_⟩
    omega

/-- Every call that returns is the call without pauses; one of a non-I frame returns only when it
has no packet to pause after. -/
theorem sendVideoReturns_iff (hl : c.length < 2 ^ 31) {r : Outcome} :
    SendVideoReturns c frameType d r ↔ qsaSendVideo c frameType d = some r ∧
      (d.status = .null ∨ c.length = 0 ∨ frameType = 5) := by
  by_cases hv : 0 < c.length + sizeofTalkData1 + 20
  · by_cases hs : d.status = .null
    · simp [SendVideoReturns, qsaSendVideo, hs, hv, not_le.mpr hv, eq_comm]
    · obtain ⟨m, hm, hmax, hzero⟩ := rounds_spec (d := d) hv
      have htype : (videoHeader d c frameType).dataType = 2 ↔ frameType = 5 := by
        unfold videoHeader
        dsimp only
        split <;> simp_all
      have hloop (events : List Event) : Sending.Ends d c m
          ⟨(1 : Nat), put (mediaHead c.out) 8 callUp, videoHeader d c frameType, []⟩ events ↔ _ :=
        sending_iff (by omega : ((1 : Nat) : Int) + m = m + 1) (by omega)
      have hcall : qsaSendVideo c frameType d = (videoLoop d c m (List.range' 1 m)
          (put (mediaHead c.out) 8 callUp) (videoHeader d c frameType)).map fun evs => (d, evs) := by
        rw [qsaSendVideo, if_neg (not_le.mpr hv), if_neg hs]
        dsimp only
        rw [hm, Int.toNat_natCast, videoHeader, hm]
      rw [SendVideoReturns, if_neg hs, and_iff_right hv, hcall, hm, Option.map_eq_some_iff]
      constructor
      · rintro ⟨events, hends, rfl⟩
        obtain ⟨evs, hevs, he, hpause⟩ := (hloop events).mp hends
        rw [hzero, htype] at hpause
        exact ⟨⟨evs, hevs, by rw [he, List.nil_append]⟩, Or.inr hpause⟩
      · rintro ⟨⟨evs, hevs, rfl⟩, hpause⟩
        have hpause := hpause.resolve_left hs
        rw [← hzero, ← htype] at hpause
        exact ⟨evs, (hloop evs).mpr ⟨evs, hevs, rfl, hpause⟩, rfl⟩
  · have hvla : c.length + sizeofTalkData1 + 20 ≤ 0 := not_lt.mp hv
    simp [SendVideoReturns, qsaSendVideo, hv, hvla]

/-- In a call, the packets of a frame all go out and the function returns just for an I frame and
for an empty one. -/
theorem video_returns_iff (hs : d.status ≠ .null) (hl : c.length < 2 ^ 31) (frameType : Int) :
    SendVideoReturns c frameType d (d, (videoPackets d c frameType).map Event.send) ↔
      0 ≤ c.length ∧ (frameType = 5 ∨ c.length = 0) := by
  rw [sendVideoReturns_iff hl, sendVideo_eq hs]
  by_cases hn : 0 ≤ c.length
  · simp [hn, hs, or_comm]
  · simp [hn]

/-- The sample frame as an I frame returns. -/
theorem sampleFrame_returns : SendVideoReturns sampleFrame 5 sampleTalker
    (sampleTalker, (videoPackets sampleTalker sampleFrame 5).map Event.send) :=
  (video_returns_iff (by decide) (by decide) 5).mpr ⟨by decide, Or.inl rfl⟩

/-- The same bytes as a P frame hang the sender in the pause after the first packet. -/
theorem sampleFrame_hangs : ¬∃ r, SendVideoReturns sampleFrame 1 sampleTalker r := by
  rintro ⟨r, h⟩
  obtain ⟨-, hn | hz | hf⟩ := (sendVideoReturns_iff (by decide)).mp h
  · exact absurd hn (by decide)
  · exact absurd hz (by decide)
  · exact absurd hf (by decide)

end QsaTalk
