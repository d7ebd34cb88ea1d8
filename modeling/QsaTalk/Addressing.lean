import QsaTalk.Playback

/-! Messages to a room: the address that goes out with each of them, and how much of a text
arrives. -/
namespace QsaTalk
open ByteBuffer SlotTable Function
variable {d : Device}

/-! The address. -/

/-- The three ways to address a room, and where each puts the address. -/
def Emitter.addresses (room : Buf) : Emitter → Option Nat
  | .startCall _ addr _ => if slice addr 0 4 = slice room 0 4 then some 33 else none
  | .findIp (some addr) _ => if slice addr 0 4 = slice room 0 4 then some 32 else none
  | .sendInfo _ (some info) => if slice info.addr 0 4 = slice room 0 4 then some 28 else none
  | _ => none

def Emitter.reaches (o : Emitter) (room : Buf) (off : Nat) (d : Device) : Prop :=
  ∀ m r, o.run m d = some r →
    (∀ bs, (outgoing d r).has bs → (bs.drop off).take 20 = roomBytes d.localConfig.address room) ∧
      ∀ k, k ≠ 0 → r.1.remoteInfo.addr k = d.remoteInfo.addr k

theorem roomBytes_congr {address addr room : Buf} (h : slice addr 0 4 = slice room 0 4) :
    roomBytes address addr = roomBytes address room := by
  rw [roomBytes, h, roomBytes]

theorem length_roomBytes (address room : Buf) : (roomBytes address room).length = 20 := by
  simp [roomBytes, length_slice]

theorem run_output {o : Emitter} {m : Residue} {r : Outcome} (h : o.run m d = some r) :
    o.output m d = some (outgoing d r) := by
  rw [← emits_output, Emitter.emits, h, Option.map_some]

theorem dial_addr (ip : List UInt8) (addr : Buf) : slice ((d.dial ip addr).remoteInfo.addr 0) 0 20 =
    roomBytes d.localConfig.address addr :=
  room_patch addr (slice_blit_self _ _ (length_slice _ _ _))

theorem startCall_reaches {ip : List UInt8} {addr : Buf} (uFlag : Int) :
    (Emitter.startCall ip addr uFlag).reaches addr 33 d := by
  intro m r h
  have hx := run_output h
  obtain rfl := Option.some.inj h
  refine ⟨fun bs hb => ?_, fun k hk => ?_⟩
  · rw [← Option.some.inj hx] at hb
    split at hb
    · rw [transmits_has hb, List.append_assoc, ← dial_addr ip]
      exact (talkHeader_of _).peerAddr
    · exact absurd hb nothing_has
  · by_cases hc : uFlag = 2 ∧ d.status = .null
    · obtain ⟨rfl, hn⟩ := hc
      have hrow : ((d.over m).dial ip addr).remoteInfo.addr k = d.remoteInfo.addr k :=
        update_of_ne hk _ _
      cases hf : d.freeSlot with
      | none =>
        rw [startCall_full (d := d.over m) hn ((over_freeSlot d m).trans hf)]
        exact hrow
      | some i =>
        rw [startCall_queued (d := d.over m) hn ((over_freeSlot d m).trans hf)]
        exact hrow
    · rw [startCall_refused (d := d.over m) hc]
      rfl

theorem findIp_reaches {addr : Buf} (uFlag : Int) :
    (Emitter.findIp (some addr) uFlag).reaches addr 32 d := by
  intro m r h
  have hx := run_output h
  obtain rfl := Option.some.inj h
  refine ⟨fun bs hb => ?_, fun k hk => ?_⟩
  · rw [← Option.some.inj hx] at hb
    split at hb
    · rw [transmits_has hb]
      exact take_drop_field (by simp [udpPackageHead, length_slice, length_ip])
        (length_roomBytes _ _)
    · exact absurd hb nothing_has
  · by_cases hc : d.status = .null ∧ uFlag = 0
    · obtain ⟨hn, rfl⟩ := hc
      have hrow : ((d.over m).seek addr).remoteInfo.addr k = d.remoteInfo.addr k :=
        update_of_ne hk _ _
      cases hf : d.freeSlot with
      | none =>
        rw [findIp_full (d := d.over m) hn ((over_freeSlot d m).trans hf)]
        rfl
      | some i =>
        rw [findIp_queued (d := d.over m) hn ((over_freeSlot d m).trans hf)]
        exact hrow
    · rw [findIp_refused (d := d.over m) fun h => hc h.2]
      rfl

/-- What `send_info` addresses, it addresses with the name it has just put into row 0. -/
theorem message_address (info : SendInfo) (rest : List UInt8) :
    ((messageBytes d info ++ rest).drop 28).take 20 = slice (d.remoteInfo.addr 0) 0 20 := by
  have hsplit : messageBytes d info ++ rest =
      (udpPackageHead ++ [sendMessage] ++ [ask] ++ slice d.localConfig.address 0 20) ++
        slice (d.remoteInfo.addr 0) 0 20 ++
          (slice d.localConfig.mac 0 6 ++ [.ofInt info.uFlag] ++ slice info.title 0 16 ++ rest) := by
    simp only [messageBytes, List.append_assoc]
  rw [hsplit]
  exact take_drop_field (by simp [udpPackageHead, length_slice]) (length_slice _ _ _)

/-- Row 0 as `send_info` leaves it: the own name with `S` in front, the room number missing. -/
theorem address_row (info : SendInfo) : slice ((d.address info).remoteInfo.addr 0) 0 20 =
    'S'.toUInt8 :: slice d.localConfig.address 1 6 ++ slice d.localConfig.address 7 4 ++
      slice d.localConfig.address 11 9 := by
  have hrow : (d.address info).remoteInfo.addr 0 =
      put (blit (d.remoteInfo.addr 0) 0 (slice d.localConfig.address 0 20)) 0 'S'.toUInt8 := by
    simp [Device.address]
  have hown : slice (blit (d.remoteInfo.addr 0) 0 (slice d.localConfig.address 0 20)) 0 20 =
      slice d.localConfig.address 0 20 := slice_blit_self _ _ (length_slice _ _ _)
  rw [hrow, slice_put_front _ _ 19, slice_within hown (by decide), slice_add _ 1 10 9,
    slice_add _ 1 6 4]
  rfl

theorem address_row_iff (info : SendInfo) :
    slice ((d.address info).remoteInfo.addr 0) 0 20 = roomBytes d.localConfig.address info.addr ↔
      slice d.localConfig.address 7 4 = slice info.addr 0 4 := by
  rw [address_row, roomBytes, List.append_left_inj]
  exact List.append_right_inj _

/-- Every other row but row 7 stays. -/
theorem address_rows_iff (info : SendInfo) :
    (∀ k, k ≠ 0 → (d.address info).remoteInfo.addr k = d.remoteInfo.addr k) ↔
      slice (d.remoteInfo.addr 7) 0 4 = slice info.addr 0 4 := by
  have hrow : (d.address info).remoteInfo.addr 7 =
      blit (d.remoteInfo.addr 7) 0 (slice info.addr 0 4) := by
    simp [Device.address]
  have hfront : slice ((d.address info).remoteInfo.addr 7) 0 4 = slice info.addr 0 4 := by
    rw [hrow]
    exact slice_blit_self _ _ (length_slice _ _ _)
  constructor
  · intro h
    rw [← hfront, h 7 (by decide)]
  · intro h k hk
    by_cases h7 : k = 7
    · subst h7
      rw [hrow, ← h, blit_slice_self]
    · have hskip : (d.address info).remoteInfo.addr k = d.remoteInfo.addr k := by
        simp [Device.address, update_of_ne h7, update_of_ne hk]
      exact hskip

theorem sendInfo_rows {data : Buf} {info : SendInfo} {m : Residue} {r : Outcome}
    (h : (Emitter.sendInfo data (some info)).run m d = some r) :
    r.1.remoteInfo.addr = (d.address info).remoteInfo.addr := by
  change sendInfo data (some info) (d.over m) = some r at h
  cases hf : d.freeSlot with
  | none =>
    rw [sendInfo_full (d := d.over m) ((over_freeSlot d m).trans hf)] at h
    obtain rfl := Option.some.inj h
    rfl
  | some i =>
    obtain ⟨n, -, rfl⟩ := sendInfo_queued (d := d.over m) ((over_freeSlot d m).trans hf) h
    rfl

theorem sendInfo_reaches_iff {data : Buf} {info : SendInfo}
    (hfit : 0 ≤ info.length ∧ 85 + info.length ≤ sizeofBuf) :
    (Emitter.sendInfo data (some info)).reaches info.addr 28 d ↔
      (d.freeSlot = none ∨ slice d.localConfig.address 7 4 = slice info.addr 0 4) ∧
        slice (d.remoteInfo.addr 7) 0 4 = slice info.addr 0 4 := by
  have hout (m : Residue) : (Emitter.sendInfo data (some info)).output m d =
      some (d.queues fun _ => (messageBytes (d.address info) info ++ lengthBytes info.length ++
        slice data 0 info.length.toNat).dropLast) :=
    if_neg fun h => h.2 hfit
  have haddr (bs : List UInt8) (hbs : bs = (messageBytes (d.address info) info ++
      lengthBytes info.length ++ slice data 0 info.length.toNat).dropLast) :
      (bs.drop 28).take 20 = slice ((d.address info).remoteInfo.addr 0) 0 20 := by
    rw [hbs, List.append_assoc, List.dropLast_append_of_ne_nil (by simp [lengthBytes])]
    exact message_address info _
  rw [← address_rows_iff, ← address_row_iff]
  constructor
  · intro h
    have hrun := hout (.filled 0)
    rw [← emits_output, Emitter.emits, Option.map_eq_some_iff] at hrun
    obtain ⟨r, hr, hx⟩ := hrun
    obtain ⟨hsent, hrows⟩ := h _ r hr
    rw [sendInfo_rows hr] at hrows
    refine ⟨?_, hrows⟩
    cases hf : d.freeSlot with
    | none => exact Or.inl rfl
    | some i =>
      have hb := hsent _ (hx ▸ (queues_has hf).mpr rfl)
      exact Or.inr ((haddr _ rfl).symm.trans hb)
  · rintro ⟨hfree, hrows⟩ m r hr
    refine ⟨fun bs hb => ?_, sendInfo_rows hr ▸ hrows⟩
    have hx := run_output hr
    rw [hout, Option.some.injEq] at hx
    rw [← hx] at hb
    cases hf : d.freeSlot with
    | none =>
      rw [queues_full hf] at hb
      exact absurd hb nothing_has
    | some i =>
      rw [hf] at hfree
      rw [haddr bs ((queues_has hf).mp hb)]
      exact hfree.resolve_left (by simp)

theorem sendInfo_unfit {data room : Buf} {info : SendInfo}
    (hfit : ¬(0 ≤ info.length ∧ 85 + info.length ≤ sizeofBuf))
    (hrows : ∀ k, k ≠ 0 → (d.address info).remoteInfo.addr k = d.remoteInfo.addr k) :
    (Emitter.sendInfo data (some info)).reaches room 28 d := by
  intro m r hr
  refine ⟨fun bs hb => ?_, sendInfo_rows hr ▸ hrows⟩
  have hx := run_output hr
  rw [Emitter.output] at hx
  split at hx
  · simp at hx
  · rename_i hf
    have hfull : d.freeSlot = none := by
      rw [Option.eq_none_iff_forall_ne_some]
      exact fun i hi => hf ⟨by rw [hi]; rfl, hfit⟩
    rw [← Option.some.inj hx, queues_full hfull] at hb
    exact absurd hb nothing_has

theorem reaches_congr {o : Emitter} {addr room : Buf} {off : Nat}
    (h : slice addr 0 4 = slice room 0 4) : o.reaches addr off d ↔ o.reaches room off d := by
  rw [Emitter.reaches, roomBytes_congr h, Emitter.reaches]

/-- The three agree on a room, and leave the other peers alone, just when `send_info` has nothing
to write: the room number stands in row 7 already, and it is that of the device itself. -/
theorem rooms_agree_iff (d : Device) (room : Buf) :
    (∀ o off, Emitter.addresses room o = some off → o.reaches room off d) ↔
      (d.freeSlot = none ∨ slice d.localConfig.address 7 4 = slice room 0 4) ∧
        slice (d.remoteInfo.addr 7) 0 4 = slice room 0 4 := by
  constructor
  · intro h
    have hroom := h (.sendInfo (fun _ => 0) (some ⟨[], room, fun _ => 0, 0, 0, 0⟩)) 28 (if_pos rfl)
    exact (sendInfo_reaches_iff (by simp [sizeofBuf])).mp hroom
  · intro h o off ho
    cases o with
    | startCall ip addr uFlag =>
      obtain ⟨hroom, hoff⟩ := Option.ite_none_right_eq_some.mp ho
      rw [← Option.some.inj hoff]
      exact (reaches_congr hroom).mp (startCall_reaches uFlag)
    | findIp addr uFlag =>
      cases addr with
      | none => simp [Emitter.addresses] at ho
      | some addr =>
        obtain ⟨hroom, hoff⟩ := Option.ite_none_right_eq_some.mp ho
        rw [← Option.some.inj hoff]
        exact (reaches_congr hroom).mp (findIp_reaches uFlag)
    | sendInfo data info =>
      cases info with
      | none => simp [Emitter.addresses] at ho
      | some info =>
        obtain ⟨hroom, hoff⟩ := Option.ite_none_right_eq_some.mp ho
        rw [← hroom] at h
        rw [← Option.some.inj hoff]
        refine (reaches_congr hroom).mp ?_
        by_cases hfit : 0 ≤ info.length ∧ 85 + info.length ≤ sizeofBuf
        · exact (sendInfo_reaches_iff hfit).mpr h
        · exact sendInfo_unfit hfit ((address_rows_iff info).mpr h.2)
    | stopTalk | forceIFrame | onlineCheck | sendAudio c | sendVideo c frameType | reply src dgram =>
      simp [Emitter.addresses] at ho

/-- Right after start-up a message to room 1111 already goes to the device's own room. -/
theorem message_misaddressed : ¬∀ o off, Emitter.addresses (fun _ => 0x31) o = some off →
    o.reaches (fun _ => 0x31) off (initParamTask sampleBoot).dev := by
  intro h
  have hroom := h (.sendInfo (fun _ => 0) (some ⟨[], fun _ => 0x31, fun _ => 0, 0, 0, 0⟩)) 28
    (by decide)
  have hrow := ((sendInfo_reaches_iff (by simp [sizeofBuf])).mp hroom).2
  exact absurd hrow (by decide +kernel)

/-! The message. -/

def be16 (bs : List UInt8) (off : Nat) : Nat :=
  2 ^ 8 * (ofList bs off).toNat + (ofList bs (off + 1)).toNat

/-- Both length fields announce `n` bytes, and these are what follows the header. -/
structure ReadsBack (data : Buf) (n : Nat) (bs : List UInt8) : Prop where
  first : be16 bs 73 = n
  second : be16 bs 81 = n
  length : bs.length = 85 + n
  payload : bs.drop 85 = slice data 0 n

theorem be16_length {n : Nat} (h : n < 2 ^ 16) :
    2 ^ 8 * (UInt8.ofInt ((n : Int) / 2 ^ 8)).toNat + (UInt8.ofInt n).toNat = n := by
  have hhi : (UInt8.ofInt ((n : Int) / 2 ^ 8)).toNat = n / 2 ^ 8 := by
    rw [UInt8.ofInt, UInt8.toNat_ofNat']
    omega
  have hlo : (UInt8.ofInt n).toNat = n % 2 ^ 8 := by
    rw [UInt8.ofInt, UInt8.toNat_ofNat']
    omega
  rw [hhi, hlo, Nat.div_add_mod]

theorem message_readsBack (info : SendInfo) (data : Buf) (h0 : 0 ≤ info.length)
    (h : info.length < 2 ^ 16) : ReadsBack data info.length.toNat
      (messageBytes d info ++ lengthBytes info.length ++ slice data 0 info.length.toNat) := by
  have hhead := length_messageBytes d info
  obtain ⟨n, hn⟩ := Int.eq_ofNat_of_zero_le h0
  rw [hn] at h ⊢
  generalize hbs : messageBytes d info ++ lengthBytes n ++ slice data 0 (n : Int).toNat = bs
  have hbyte (k : Nat) : ofList bs (71 + k) =
      ofList (lengthBytes n ++ slice data 0 (n : Int).toNat) k := by
    rw [← hbs, List.append_assoc, ← hhead, ofList_append]
  have hnum := be16_length (by omega : n < 2 ^ 16)
  constructor
  · exact (congrArg₂ (fun a b : UInt8 => 2 ^ 8 * a.toNat + b.toNat) (hbyte 2) (hbyte 3)).trans hnum
  · exact (congrArg₂ (fun a b : UInt8 => 2 ^ 8 * a.toNat + b.toNat) (hbyte 10) (hbyte 11)).trans hnum
  · simp [← hbs, hhead, lengthBytes, length_slice]
    omega
  · rw [← hbs]
    exact List.drop_left' (by simp [hhead, lengthBytes])

theorem ReadsBack.not_dropLast {data : Buf} {n : Nat} {bs : List UInt8} (h : ReadsBack data n bs) :
    ¬ReadsBack data n bs.dropLast := by
  intro h'
  have hlen := h'.length
  rw [List.length_dropLast, h.length] at hlen
  omega

theorem sendInfo_message (data : Buf) {info : SendInfo} {i : Fin udpSendMax}
    (hf : d.freeSlot = some i) (h0 : 0 ≤ info.length) (h : info.length ≤ 1415) :
    ∃ r, sendInfo data (some info) d = some r ∧ (r.1.multiUdpBuff i).isValid = true ∧
      (r.1.multiUdpBuff i).bytes = (messageBytes (d.address info) info ++ lengthBytes info.length ++
        slice data 0 info.length.toNat).dropLast := by
  have hfit : 0 ≤ info.length ∧ 85 + info.length ≤ sizeofBuf :=
    ⟨h0, by rw [sizeofBuf]; omega⟩
  obtain ⟨m, hm, hv, -, -⟩ := messageSlot_eq (d.address info) data (d.multiUdpBuff i) hfit
  refine ⟨_, by rw [sendInfo_taken hf, hm, Option.map_some], ?_, ?_⟩
  · rw [setSlot_multiUdpBuff, update_self, hv]
  · rw [setSlot_multiUdpBuff, update_self, message_bytes hm]

/-- What `send_info` queues is a message that reads back, less its last byte. -/
theorem message_cut {data : Buf} {info : SendInfo} {i : Fin udpSendMax} (h0 : 0 ≤ info.length)
    (h : info.length ≤ 1415) (hf : d.freeSlot = some i) :
    ∃ r bs, sendInfo data (some info) d = some r ∧ (r.1.multiUdpBuff i).isValid = true ∧
      ReadsBack data info.length.toNat bs ∧ (r.1.multiUdpBuff i).bytes = bs.dropLast ∧
      ¬ReadsBack data info.length.toNat (r.1.multiUdpBuff i).bytes := by
  obtain ⟨r, hr, hv, hb⟩ := sendInfo_message data hf h0 h
  have hfull := message_readsBack (d := d.address info) info data h0 (by omega)
  exact ⟨r, _, hr, hv, hfull, hb, hb ▸ hfull.not_dropLast⟩

/-! A message of one byte. -/

def sampleInfo : SendInfo := ⟨dotted sampleHost, fun _ => 0x31, fun _ => 0, 1, 8400, 2⟩

def sampleSlot : Fin udpSendMax := ⟨1, by decide⟩

theorem sampleInfo_free : (initParamTask sampleBoot).dev.freeSlot = some sampleSlot := by
  decide +kernel

theorem sampleInfo_cut : ∃ r bs,
    sendInfo (fun _ => 65) (some sampleInfo) (initParamTask sampleBoot).dev = some r ∧
      (r.1.multiUdpBuff sampleSlot).isValid = true ∧ ReadsBack (fun _ => 65) 1 bs ∧
      (r.1.multiUdpBuff sampleSlot).bytes = bs.dropLast ∧
      ¬ReadsBack (fun _ => 65) 1 (r.1.multiUdpBuff sampleSlot).bytes :=
  message_cut (by decide) (by decide) sampleInfo_free

theorem byte_lost : ¬∀ r, sendInfo (fun _ => 65) (some sampleInfo) (initParamTask sampleBoot).dev =
    some r → ReadsBack (fun _ => 65) 1 (r.1.multiUdpBuff sampleSlot).bytes := by
  intro h
  obtain ⟨r, hr, -, hb⟩ := sendInfo_message (fun _ => 65) sampleInfo_free
    (by decide : 0 ≤ sampleInfo.length) (by decide)
  have hfull := message_readsBack (d := (initParamTask sampleBoot).dev.address sampleInfo)
    sampleInfo (fun _ => 65) (by decide) (by decide)
  have hread := h r hr
  rw [hb] at hread
  exact hfull.not_dropLast hread

end QsaTalk
