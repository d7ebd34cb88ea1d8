import Mathlib.Algebra.BigOperators.Group.List.Basic
import Mathlib.Algebra.Ring.Nat
import Mathlib.Data.List.Basic
import Mathlib.Tactic.Common

/-! Video units in RTP packets: a unit is a payload of its own, or it is cut into fragments that say
where it starts and ends. The receiver puts the payloads, in the order sent, together again; it
knows single units and these fragments, and gives up on aggregates and on the other kinds of
payload. -/
namespace Rtp

/-! The fixed header, in network byte order. -/

def be16 (v : UInt16) : List UInt8 := [UInt8.ofNat (v.toNat / 2 ^ 8), UInt8.ofNat v.toNat]

def be32 (v : UInt32) : List UInt8 :=
  [UInt8.ofNat (v.toNat / 2 ^ 24), UInt8.ofNat (v.toNat / 2 ^ 16), UInt8.ofNat (v.toNat / 2 ^ 8),
    UInt8.ofNat v.toNat]

structure Header where
  marker : Bool
  payloadType : UInt8
  seqNo : UInt16
  timestamp : UInt32
  ssrc : UInt32
deriving DecidableEq, Repr

structure Packet where
  header : Header
  payload : List UInt8
deriving DecidableEq, Repr

/-- Version 2, without padding, extension and contributing sources. -/
def Header.bytes (h : Header) : List UInt8 :=
  [0x80, (if h.marker then 0x80 else 0) ||| h.payloadType] ++ be16 h.seqNo ++ be32 h.timestamp ++
    be32 h.ssrc

def Packet.bytes (p : Packet) : List UInt8 := p.header.bytes ++ p.payload

def parse : List UInt8 → Option Packet
  | v :: m :: s₁ :: s₀ :: t₃ :: t₂ :: t₁ :: t₀ :: c₃ :: c₂ :: c₁ :: c₀ :: payload =>
    if v = 0x80 then
      some ⟨⟨m &&& 0x80 ≠ 0, m &&& 0x7f, UInt16.ofNat (s₁.toNat * 2 ^ 8 + s₀.toNat),
        UInt32.ofNat (t₃.toNat * 2 ^ 24 + t₂.toNat * 2 ^ 16 + t₁.toNat * 2 ^ 8 + t₀.toNat),
        UInt32.ofNat (c₃.toNat * 2 ^ 24 + c₂.toNat * 2 ^ 16 + c₁.toNat * 2 ^ 8 + c₀.toNat)⟩, payload⟩
    else none
  | _ => none

theorem read_be16 (v : UInt16) : UInt16.ofNat ((UInt8.ofNat (v.toNat / 2 ^ 8)).toNat * 2 ^ 8 +
    (UInt8.ofNat v.toNat).toNat) = v := by
  have hv := v.toNat_lt
  apply UInt16.toNat_inj.mp
  rw [UInt16.toNat_ofNat', UInt8.toNat_ofNat', UInt8.toNat_ofNat']
  omega

theorem read_be32 (v : UInt32) : UInt32.ofNat ((UInt8.ofNat (v.toNat / 2 ^ 24)).toNat * 2 ^ 24 +
    (UInt8.ofNat (v.toNat / 2 ^ 16)).toNat * 2 ^ 16 + (UInt8.ofNat (v.toNat / 2 ^ 8)).toNat * 2 ^ 8 +
      (UInt8.ofNat v.toNat).toNat) = v := by
  have hv := v.toNat_lt
  apply UInt32.toNat_inj.mp
  simp only [UInt32.toNat_ofNat', UInt8.toNat_ofNat']
  omega

/-- A property of bytes that holds of all 256 of them. -/
theorem byte_cases {P : UInt8 → Prop} (h : ∀ n : Fin 256, P (UInt8.ofNat n)) (b : UInt8) : P b := by
  have hb := h ⟨b.toNat, b.toNat_lt⟩
  rwa [UInt8.ofNat_toNat] at hb

theorem read_marker (m : Bool) (t : UInt8) (h : t < 0x80) :
    decide (((if m then 0x80 else 0) ||| t) &&& 0x80 ≠ 0) = m ∧
      ((if m then 0x80 else 0) ||| t) &&& 0x7f = t := by
  revert h
  cases m
  · exact byte_cases (P := fun t => t < 0x80 → decide ((0 ||| t) &&& 0x80 ≠ 0) = false ∧
      (0 ||| t) &&& 0x7f = t) (by decide +kernel) t
  · exact byte_cases (P := fun t => t < 0x80 → decide ((0x80 ||| t) &&& 0x80 ≠ 0) = true ∧
      (0x80 ||| t) &&& 0x7f = t) (by decide +kernel) t

theorem parse_bytes {p : Packet} (h : p.header.payloadType < 0x80) : parse p.bytes = some p := by
  obtain ⟨⟨m, t, s, ts, c⟩, payload⟩ := p
  obtain ⟨hm, ht⟩ := read_marker m t h
  simp only [Packet.bytes, Header.bytes, be16, be32, List.cons_append, List.nil_append, parse, if_pos]
  rw [read_be16, read_be32, read_be32, hm, ht]

theorem parse_all {ps : List Packet} (h : ∀ p ∈ ps, p.header.payloadType < 0x80) :
    (ps.map Packet.bytes).mapM parse = some ps := by
  induction ps with
  | nil => rfl
  | cons p ps ih =>
    rw [List.map_cons, List.mapM_cons, parse_bytes (h p (by simp)),
      ih fun q hq => h q (List.mem_cons_of_mem _ hq)]
    rfl

theorem packet_length (p : Packet) : p.bytes.length = 12 + p.payload.length := by
  have hh : p.header.bytes.length = 12 := rfl
  rw [Packet.bytes, List.length_append, hh]

/-! Payloads. -/

/-- The type in the first byte of a unit, a payload or, without the flags, of a fragment header. -/
def kind (b : UInt8) : UInt8 := b &&& 0x1f

def fuA : UInt8 := 28

/-- The payload is a unit; the types above are aggregates and fragments, 0 and the last are free. -/
def Single (b : UInt8) : Prop := 1 ≤ kind b ∧ kind b ≤ 23

instance (b : UInt8) : Decidable (Single b) := inferInstanceAs (Decidable (_ ∧ _))

def fragment (b flags : UInt8) (body : List UInt8) : List UInt8 :=
  (b &&& 0xe0 ||| fuA) :: (flags ||| kind b) :: body

structure Assembly where
  units : List (List UInt8)
  part : Option (List UInt8)

def feedFragment (a : Assembly) (b : UInt8) : List UInt8 → Option Assembly
  | [] => none
  | f :: body =>
    match a.part with
    | none =>
      if f &&& 0xc0 = 0x80 then some ⟨a.units, some ((b &&& 0xe0 ||| kind f) :: body)⟩ else none
    | some u =>
      if f &&& 0xc0 = 0x40 then some ⟨a.units ++ [u ++ body], none⟩
      else if f &&& 0xc0 = 0 then some ⟨a.units, some (u ++ body)⟩
      else none

def feed (a : Assembly) : List UInt8 → Option Assembly
  | [] => none
  | b :: rest =>
    if kind b = fuA then feedFragment a b rest
    else if Single b ∧ a.part.isNone then some ⟨a.units ++ [b :: rest], none⟩
    else none

def feeds : Assembly → List (List UInt8) → Option Assembly
  | a, [] => some a
  | a, p :: ps => (feed a p).bind fun a => feeds a ps

/-- The units in a sequence of payloads, unless it is broken or breaks off in a unit. -/
def unpack (ps : List (List UInt8)) : Option (List (List UInt8)) :=
  (feeds ⟨[], none⟩ ps).bind fun a => if a.part.isNone then some a.units else none

def pack (n : Nat) : List UInt8 → List (List UInt8)
  | [] => []
  | b :: tail =>
    if tail.length + 1 ≤ n then [b :: tail]
    else
      let k := (tail.length + 1) / n
      fragment b 0x80 (tail.take n) ::
        ((List.range' 1 (k - 1)).map fun t => fragment b 0 ((tail.drop (t * n)).take n)) ++
          [fragment b 0x40 (tail.drop (k * n))]

variable {us : List (List UInt8)} {u : List UInt8} {b f : UInt8} {body : List UInt8}
  {ps qs : List (List UInt8)} {a : Assembly}

theorem feeds_append : feeds a (ps ++ qs) = (feeds a ps).bind fun a => feeds a qs := by
  induction ps generalizing a with
  | nil => rfl
  | cons p ps ih =>
    rw [List.cons_append, feeds, feeds]
    cases feed a p with
    | none => rfl
    | some a => exact ih

/-- The bits of a fragment's two headers. -/
theorem fragment_bits (b : UInt8) : kind (b &&& 0xe0 ||| fuA) = fuA ∧
    ∀ flags : UInt8, flags = 0x80 ∨ flags = 0x40 ∨ flags = 0 →
      (flags ||| kind b) &&& 0xc0 = flags ∧
        (b &&& 0xe0 ||| fuA) &&& 0xe0 ||| kind (flags ||| kind b) = b := by
  refine byte_cases (P := fun b => kind (b &&& 0xe0 ||| fuA) = fuA ∧
    ∀ flags : UInt8, flags = 0x80 ∨ flags = 0x40 ∨ flags = 0 →
      (flags ||| kind b) &&& 0xc0 = flags ∧
        (b &&& 0xe0 ||| fuA) &&& 0xe0 ||| kind (flags ||| kind b) = b) (fun n => ⟨?_, ?_⟩) b
  · revert n
    decide +kernel
  · rintro flags (rfl | rfl | rfl) <;> revert n <;> decide +kernel

theorem feed_start : feed ⟨us, none⟩ (fragment b 0x80 body) = some ⟨us, some (b :: body)⟩ := by
  obtain ⟨hk, hf⟩ := fragment_bits b
  obtain ⟨hflags, hb⟩ := hf 0x80 (Or.inl rfl)
  rw [fragment, feed, if_pos hk, feedFragment]
  dsimp only
  rw [if_pos hflags, hb]

theorem feed_middle : feed ⟨us, some u⟩ (fragment b 0 body) = some ⟨us, some (u ++ body)⟩ := by
  obtain ⟨hk, hf⟩ := fragment_bits b
  obtain ⟨hflags, -⟩ := hf 0 (Or.inr (Or.inr rfl))
  have hne : ¬(0 ||| kind b) &&& 0xc0 = 0x40 := by
    rw [hflags]
    decide
  rw [fragment, feed, if_pos hk, feedFragment]
  dsimp only
  rw [if_neg hne, if_pos hflags]

theorem feed_last : feed ⟨us, some u⟩ (fragment b 0x40 body) = some ⟨us ++ [u ++ body], none⟩ := by
  obtain ⟨hk, hf⟩ := fragment_bits b
  obtain ⟨hflags, -⟩ := hf 0x40 (Or.inr (Or.inl rfl))
  rw [fragment, feed, if_pos hk, feedFragment]
  dsimp only
  rw [if_pos hflags]

theorem feeds_middle (bodies : List (List UInt8)) : feeds ⟨us, some u⟩ (bodies.map (fragment b 0)) =
    some ⟨us, some (u ++ bodies.flatten)⟩ := by
  induction bodies generalizing u with
  | nil => simp [feeds]
  | cons body bodies ih =>
    rw [List.map_cons, feeds, feed_middle, Option.bind_some, ih, List.flatten_cons, List.append_assoc]

/-- Consecutive windows of one length, and the rest. -/
theorem windows_flatten (n k : Nat) (xs : List UInt8) :
    xs.take n ++ ((List.range' 1 k).map fun t => (xs.drop (t * n)).take n).flatten =
      xs.take ((k + 1) * n) := by
  induction k with
  | zero => simp
  | succ k ih =>
    rw [List.range'_1_concat, List.map_append, List.flatten_append, ← List.append_assoc, ih,
      List.map_singleton, List.flatten_singleton, Nat.add_comm 1 k, ← List.take_add]
    congr 1
    rw [Nat.succ_mul (k + 1)]

theorem windows_rest {n : Nat} {xs : List UInt8} (hl : n < xs.length + 1) :
    xs.take n ++ ((List.range' 1 ((xs.length + 1) / n - 1)).map fun t =>
      (xs.drop (t * n)).take n).flatten ++ xs.drop ((xs.length + 1) / n * n) = xs := by
  have hk : ((xs.length + 1) / n - 1 + 1) * n = (xs.length + 1) / n * n := by
    by_cases hn : n = 0
    · simp [hn]
    · have hpos : 0 < (xs.length + 1) / n := Nat.div_pos (by omega) (by omega)
      rw [Nat.sub_add_cancel hpos]
  rw [windows_flatten, hk, List.take_append_drop]

theorem pack_length {n : Nat} {p : List UInt8} (hn : 0 < n) (hp : p ∈ pack n u) :
    p.length ≤ n + 2 := by
  cases u with
  | nil => simp [pack] at hp
  | cons b tail =>
    rw [pack] at hp
    split at hp
    · rename_i hl
      rw [List.mem_singleton.mp hp, List.length_cons]
      omega
    · have hrest := Nat.lt_div_mul_add (a := tail.length + 1) hn
      simp only [List.cons_append, List.mem_cons, List.mem_append, List.mem_map, List.not_mem_nil,
        or_false] at hp
      obtain rfl | ⟨t, -, rfl⟩ | rfl := hp
      · exact Nat.add_le_add_right (List.length_take_le _ _) 2
      · exact Nat.add_le_add_right (List.length_take_le _ _) 2
      · simp only [fragment, List.length_cons, List.length_drop]
        omega

theorem Single.whole (h : Single b) : kind b ≠ fuA := by
  intro hk
  have hle := h.2
  rw [hk] at hle
  exact absurd hle (by decide)

/-- The receiver gets the unit back, unless a short one looks like something else. -/
theorem feeds_pack {n : Nat} {tail : List UInt8} (hk : tail.length + 1 ≤ n → Single b) :
    feeds ⟨us, none⟩ (pack n (b :: tail)) = some ⟨us ++ [b :: tail], none⟩ := by
  rw [pack]
  by_cases hs : tail.length + 1 ≤ n
  · rw [if_pos hs, feeds, feed, if_neg (hk hs).whole, if_pos ⟨hk hs, rfl⟩]
    rfl
  · rw [if_neg hs]
    dsimp only
    have hmid := @feeds_middle us (b :: tail.take n) b
      ((List.range' 1 ((tail.length + 1) / n - 1)).map fun t => (tail.drop (t * n)).take n)
    rw [List.map_map, Function.comp_def] at hmid
    rw [feeds_append, feeds, feed_start, Option.bind_some, hmid, Option.bind_some, feeds, feed_last,
      Option.bind_some, feeds, List.cons_append, List.cons_append, windows_rest (by omega)]

theorem unpack_pack {n : Nat} (h : ∀ u ∈ us, u ≠ [] ∧ (u.length ≤ n → Single (u.headD 0))) :
    unpack (us.flatMap (pack n)) = some us := by
  have hall : ∀ vs, feeds ⟨vs, none⟩ (us.flatMap (pack n)) = some ⟨vs ++ us, none⟩ := by
    induction us with
    | nil => simp [feeds]
    | cons u us ih =>
      intro vs
      obtain ⟨hne, hk⟩ := h u (by simp)
      obtain ⟨b, tail, rfl⟩ := List.exists_cons_of_ne_nil hne
      rw [List.flatMap_cons, feeds_append, feeds_pack (b := b) hk, Option.bind_some,
        ih fun v hv => h v (List.mem_cons_of_mem _ hv), List.append_assoc, List.singleton_append]
  rw [unpack, hall]
  rfl

/-! No byte comes from nowhere: the units of a sequence of payloads weigh what the payloads do. -/

def weight : List UInt8 → Nat
  | [] => 0
  | [b] => if kind b = fuA then 0 else 1
  | b :: f :: body =>
    if kind b = fuA then if f &&& 0xc0 = 0x80 then body.length + 1 else body.length
    else body.length + 2

def total (us : List (List UInt8)) : Nat := (us.map List.length).sum

theorem total_append (us vs : List (List UInt8)) : total (us ++ vs) = total us + total vs := by
  simp [total]

def Assembly.size (a : Assembly) : Nat := total a.units + (a.part.getD []).length

theorem weight_whole {rest : List UInt8} (h : kind b ≠ fuA) : weight (b :: rest) = rest.length + 1 := by
  cases rest with
  | nil => exact if_neg h
  | cons f body => exact if_neg h

theorem feedFragment_size {a' : Assembly} {rest : List UInt8} (hk : kind b = fuA)
    (h : feedFragment a b rest = some a') : a'.size = a.size + weight (b :: rest) := by
  obtain ⟨us, part⟩ := a
  cases rest with
  | nil => simp [feedFragment] at h
  | cons f body =>
    rw [weight, if_pos hk]
    cases part with
    | none =>
      simp only [feedFragment] at h
      split at h
      · rename_i hf
        obtain rfl := Option.some.inj h
        rw [if_pos hf]
        simp [Assembly.size]
      · simp at h
    | some u =>
      simp only [feedFragment] at h
      split at h
      · rename_i hf
        obtain rfl := Option.some.inj h
        have hne : ¬f &&& 0xc0 = 0x80 := by
          rw [hf]
          decide
        rw [if_neg hne, Assembly.size, total_append]
        simp [Assembly.size, total, Nat.add_assoc]
      · split at h
        · rename_i hf
          obtain rfl := Option.some.inj h
          have hne : ¬f &&& 0xc0 = 0x80 := by
            rw [hf]
            decide
          rw [if_neg hne]
          simp [Assembly.size, Nat.add_assoc]
        · simp at h

theorem feed_size {a' : Assembly} {p : List UInt8} (h : feed a p = some a') :
    a'.size = a.size + weight p := by
  cases p with
  | nil => simp [feed] at h
  | cons b rest =>
    rw [feed] at h
    split at h
    · rename_i hk
      exact feedFragment_size hk h
    · rename_i hk
      split at h
      · rename_i hp
        obtain rfl := Option.some.inj h
        rw [weight_whole hk, Assembly.size, total_append, Assembly.size,
          Option.isNone_iff_eq_none.mp hp.2]
        simp [total]
      · simp at h

theorem feeds_size {a' : Assembly} (h : feeds a ps = some a') :
    a'.size = a.size + (ps.map weight).sum := by
  induction ps generalizing a with
  | nil =>
    obtain rfl := Option.some.inj h
    simp
  | cons p ps ih =>
    rw [feeds, Option.bind_eq_some_iff] at h
    obtain ⟨a₁, h₁, h₂⟩ := h
    rw [ih h₂, feed_size h₁, List.map_cons, List.sum_cons, Nat.add_assoc]

theorem unpack_weight (h : unpack ps = some us) : total us = (ps.map weight).sum := by
  rw [unpack, Option.bind_eq_some_iff] at h
  obtain ⟨a, ha, h⟩ := h
  have hsize := feeds_size ha
  split at h
  · rename_i hp
    obtain rfl := Option.some.inj h
    rw [Assembly.size, Option.isNone_iff_eq_none.mp hp] at hsize
    simpa [Assembly.size, total] using hsize
  · simp at h

theorem weight_fragment {flags : UInt8} (h : flags = 0x80 ∨ flags = 0x40 ∨ flags = 0) :
    weight (fragment b flags body) = body.length + if flags = 0x80 then 1 else 0 := by
  obtain ⟨hk, hf⟩ := fragment_bits b
  rw [fragment, weight, if_pos hk, (hf flags h).1]
  split <;> rfl

/-- A unit weighs what it is long, but for a short one that looks like a fragment. -/
theorem weight_pack {n : Nat} {tail : List UInt8} :
    if tail.length + 1 ≤ n ∧ kind b = fuA then ((pack n (b :: tail)).map weight).sum < tail.length + 1
    else ((pack n (b :: tail)).map weight).sum = tail.length + 1 := by
  by_cases hs : tail.length + 1 ≤ n
  · rw [pack, if_pos hs]
    by_cases hk : kind b = fuA
    · rw [if_pos ⟨hs, hk⟩]
      cases tail with
      | nil => simp [weight, hk]
      | cons f body =>
        simp only [List.map_cons, List.map_nil, List.sum_cons, List.sum_nil, weight, if_pos hk,
          List.length_cons]
        split <;> omega
    · rw [if_neg fun h => hk h.2]
      simp [weight_whole hk]
  · rw [if_neg fun h => hs h.1, pack, if_neg hs]
    have hlen := congrArg List.length (@windows_rest n tail (by omega))
    have hmid (js : List Nat) (g : Nat → List UInt8) :
        ((js.map fun t => fragment b 0 (g t)).map weight).sum = (js.map g).flatten.length := by
      rw [List.length_flatten, List.map_map, List.map_map]
      congr 1
      refine List.map_congr_left fun t _ => ?_
      rw [Function.comp_apply, weight_fragment (Or.inr (Or.inr rfl)), if_neg (by decide)]
      rfl
    simp only [List.map_cons, List.map_append, List.sum_cons, List.sum_append,
      List.map_nil, List.sum_nil, hmid, weight_fragment (Or.inl rfl),
      weight_fragment (Or.inr (Or.inl rfl)), if_true]
    rw [if_neg (by decide)]
    simp only [List.length_append] at hlen
    omega

theorem weights_le {n : Nat} (hne : ∀ u ∈ us, u ≠ []) :
    ((us.flatMap (pack n)).map weight).sum ≤ total us ∧
      (((us.flatMap (pack n)).map weight).sum = total us →
        ∀ u ∈ us, u.length ≤ n → kind (u.headD 0) ≠ fuA) := by
  induction us with
  | nil => simp [total]
  | cons u us ih =>
    obtain ⟨hle, hok⟩ := ih fun v hv => hne v (List.mem_cons_of_mem _ hv)
    obtain ⟨b, tail, rfl⟩ := List.exists_cons_of_ne_nil (hne u (by simp))
    have hw := @weight_pack b n tail
    have htotal : total ((b :: tail) :: us) = tail.length + 1 + total us := rfl
    rw [List.flatMap_cons, List.map_append, List.sum_append, htotal]
    split at hw
    · exact ⟨by omega, fun he => by omega⟩
    · rename_i hc
      refine ⟨by omega, fun he v hv => ?_⟩
      obtain rfl | hv := List.mem_cons.mp hv
      · exact fun hl hk => hc ⟨hl, hk⟩
      · exact hok (by omega) v hv

/-- A payload the receiver has not given up on is a unit or a fragment. -/
theorem feed_kind {a' : Assembly} {p : List UInt8} (h : feed a p = some a') :
    kind (p.headD 0) = fuA ∨ Single (p.headD 0) := by
  cases p with
  | nil => simp [feed] at h
  | cons b rest =>
    rw [feed] at h
    split at h
    · exact Or.inl ‹_›
    · split at h
      · rename_i hs
        exact Or.inr hs.1
      · simp at h

theorem feeds_kind {a' : Assembly} (h : feeds a ps = some a') :
    ∀ p ∈ ps, kind (p.headD 0) = fuA ∨ Single (p.headD 0) := by
  induction ps generalizing a with
  | nil => simp
  | cons p ps ih =>
    rw [feeds, Option.bind_eq_some_iff] at h
    obtain ⟨a₁, h₁, h₂⟩ := h
    exact List.forall_mem_cons.mpr ⟨feed_kind h₁, ih h₂⟩

theorem unpack_kind (h : unpack ps = some us) :
    ∀ p ∈ ps, kind (p.headD 0) = fuA ∨ Single (p.headD 0) := by
  rw [unpack, Option.bind_eq_some_iff] at h
  obtain ⟨a, ha, -⟩ := h
  exact feeds_kind ha

/-- A receiver who ends up with as many bytes as were packed has misread none of the units. -/
theorem unpack_total {n : Nat} {vs : List (List UInt8)} (hne : ∀ u ∈ us, u ≠ [])
    (h : unpack (us.flatMap (pack n)) = some vs) (hl : total vs = total us) :
    ∀ u ∈ us, u.length ≤ n → Single (u.headD 0) := by
  intro u hu hshort
  have hwhole := (weights_le hne).2 ((unpack_weight h).symm.trans hl) u hu hshort
  obtain ⟨b, tail, rfl⟩ := List.exists_cons_of_ne_nil (hne u hu)
  have hself : b :: tail ∈ us.flatMap (pack n) := by
    refine List.mem_flatMap.mpr ⟨_, hu, ?_⟩
    rw [List.length_cons] at hshort
    rw [pack, if_pos hshort]
    exact List.mem_singleton_self _
  exact (unpack_kind h _ hself).resolve_left hwhole

end Rtp
