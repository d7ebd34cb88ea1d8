import Mathlib.Data.List.Infix
import Mathlib.Tactic.Common

/-! Streams of byte units behind start codes: `00 00 01`, or `00 00 00 01` where a zero stands in
front of it. A unit reaches to the next start code, or to the end of the stream. -/
namespace StartCodes

inductive StartCode where
  | short | long
deriving DecidableEq, Repr

def StartCode.bytes : StartCode → List UInt8
  | .short => [0, 0, 1]
  | .long => [0, 0, 0, 1]

theorem StartCode.bytes_ne_nil (c : StartCode) (xs : List UInt8) : c.bytes ++ xs ≠ [] := by
  cases c <;> simp [StartCode.bytes]

def Clear (xs : List UInt8) : Prop := ¬[0, 0, 1] <:+: xs

instance (xs : List UInt8) : Decidable (Clear xs) :=
  inferInstanceAs (Decidable ¬[0, 0, 1] <:+: xs)

inductive Cut : List UInt8 → List UInt8 → List UInt8 → Prop
  | last {body} (h : Clear body) : Cut body body []
  | next {unit tail} (c : StartCode) (h : Clear (unit ++ c.bytes.dropLast))
      (hz : c = .short → unit.getLast? ≠ some 0) :
      Cut (unit ++ (c.bytes ++ tail)) unit (c.bytes ++ tail)

variable {xs ys zs unit body rest : List UInt8} {b : UInt8} {c : StartCode}

theorem Clear.of_prefix (h : Clear ys) (hp : xs <+: ys) : Clear xs :=
  fun hi => h (hi.trans hp.isInfix)

theorem clear_concat : Clear (xs ++ [b]) ↔ Clear xs ∧ ¬[0, 0, 1] <:+ xs ++ [b] := by
  rw [Clear, Clear, List.infix_concat_iff, not_or, and_comm]

/-- Zeros behind a unit complete no start code. -/
theorem Clear.zeros (h : Clear xs) (n : Nat) : Clear (xs ++ List.replicate n 0) := by
  induction n with
  | zero => simpa using h
  | succ n ih =>
    rw [List.replicate_succ', ← List.append_assoc, clear_concat]
    refine ⟨ih, fun hs => ?_⟩
    have hlast := hs.getLast (by simp)
    simp at hlast

theorem Cut.append (h : Cut body unit rest) : unit ++ rest = body := by
  cases h with
  | last _ => exact List.append_nil _
  | next _ _ _ => rfl

theorem Cut.clear (h : Cut body unit rest) : Clear unit := by
  cases h with
  | last h => exact h
  | next c h _ => exact h.of_prefix (List.prefix_append _ _)

theorem Cut.rest_code (h : Cut body unit rest) : rest = [] ∨ ∃ (c : StartCode) (tail : List UInt8), rest = c.bytes ++ tail := by
  cases h with
  | last _ => exact Or.inl rfl
  | next c _ _ => exact Or.inr ⟨c, _, rfl⟩

/-- The first start code of a list that its last byte completes. -/
theorem Cut.of_suffix (h : Clear xs) (hs : [0, 0, 1] <:+ xs ++ [b]) :
    ∃ unit rest, Cut (xs ++ [b]) unit rest := by
  obtain ⟨us, hus⟩ := hs
  by_cases hz : us.getLast? = some 0
  · obtain ⟨vs, rfl⟩ := List.getLast?_eq_some_iff.mp hz
    have hxs : xs = vs ++ [0, 0, 0] := by
      have hd := congrArg List.dropLast hus
      simpa using hd.symm
    refine ⟨vs, StartCode.long.bytes ++ [], ?_⟩
    rw [← hus]
    have hc : Clear (vs ++ StartCode.long.bytes.dropLast) := by
      simpa [StartCode.bytes, hxs] using h
    simpa [StartCode.bytes] using Cut.next .long hc (by simp)
  · have hxs : xs = us ++ [0, 0] := by
      have hd := congrArg List.dropLast hus
      simpa using hd.symm
    refine ⟨us, StartCode.short.bytes ++ [], ?_⟩
    have hc : Clear (us ++ StartCode.short.bytes.dropLast) := by
      simpa [StartCode.bytes, hxs] using h
    rw [← hus]
    exact Cut.next .short hc fun _ => hz

/-- Every stream has a first unit. -/
theorem Cut.exists (body : List UInt8) : ∃ unit rest, Cut body unit rest := by
  induction body using List.reverseRecOn with
  | nil => exact ⟨[], [], .last (by simp [Clear])⟩
  | append_singleton xs b ih =>
    obtain ⟨unit, rest, h⟩ := ih
    cases h with
    | last h =>
      by_cases hs : [0, 0, 1] <:+ xs ++ [b]
      · exact Cut.of_suffix h hs
      · exact ⟨xs ++ [b], [], .last (clear_concat.mpr ⟨h, hs⟩)⟩
    | next c h hz =>
      rename_i tail
      refine ⟨unit, c.bytes ++ (tail ++ [b]), ?_⟩
      rw [List.append_assoc, List.append_assoc]
      exact .next c h hz

/-- A look back over a run of zeros and a one never reaches behind the one before it. -/
theorem suffix_behind_one {n : Nat} (hx : xs.getLast? = some 1) (hy : ys ≠ []) :
    List.replicate n 0 ++ [1] <:+ xs ++ ys ↔ List.replicate n 0 ++ [1] <:+ ys := by
  refine ⟨fun ⟨us, hus⟩ => ?_, fun h => h.trans (List.suffix_append _ _)⟩
  obtain ⟨vs, rfl, hvs⟩ | ⟨vs, rfl, hvs⟩ := List.append_eq_append_iff.mp hus
  · obtain rfl | ⟨ws, v, rfl⟩ := List.eq_nil_or_concat' vs
    · exact ⟨[], by simpa using hvs⟩
    · obtain ⟨zs, y, rfl⟩ := (List.eq_nil_or_concat' ys).resolve_left hy
      have hv : v = 1 := by simpa using hx
      have hrep : List.replicate n (0 : UInt8) = ws ++ [v] ++ zs := by
        have hd := congrArg List.dropLast hvs
        rwa [← List.append_assoc, List.dropLast_concat, List.dropLast_concat] at hd
      have hmem : v ∈ List.replicate n (0 : UInt8) := by
        rw [hrep]
        simp
      rw [List.eq_of_mem_replicate hmem] at hv
      exact absurd hv (by decide)
  · exact ⟨vs, hvs.symm⟩

/-! Streams put together from units. -/

/-- A unit as an encoder writes it: not empty, no start code inside, no zero at the end. -/
structure CodedUnit where
  code : StartCode
  bytes : List UInt8
  nonempty : bytes ≠ []
  clear : Clear bytes
  ended : bytes.getLast? ≠ some 0

def CodedUnit.coded (u : CodedUnit) : List UInt8 := u.code.bytes ++ u.bytes

def stream (us : List CodedUnit) : List UInt8 := us.flatMap CodedUnit.coded

theorem stream_append (us vs : List CodedUnit) : stream (us ++ vs) = stream us ++ stream vs :=
  List.flatMap_append

theorem stream_concat (us : List CodedUnit) (u : CodedUnit) :
    stream (us ++ [u]) = stream us ++ u.coded := by
  rw [stream_append, stream, stream, List.flatMap_singleton]

theorem stream_cons (u : CodedUnit) (us : List CodedUnit) : stream (u :: us) = u.coded ++ stream us :=
  rfl

theorem stream_cons_ne_nil (u : CodedUnit) (us : List CodedUnit) : stream (u :: us) ≠ [] := by
  rw [stream_cons, CodedUnit.coded, List.append_assoc]
  exact u.code.bytes_ne_nil _

theorem length_stream_le {us vs : List CodedUnit} (h : us <:+: vs) :
    (stream us).length ≤ (stream vs).length := by
  obtain ⟨xs, ys, rfl⟩ := h
  rw [stream_append, stream_append, List.length_append, List.length_append]
  omega

/-- Cutting undoes putting together. -/
theorem cut_stream (u : CodedUnit) (us : List CodedUnit) :
    Cut (u.bytes ++ stream us) u.bytes (stream us) := by
  cases us with
  | nil => simpa [stream] using Cut.last u.clear
  | cons v vs =>
    have hs : stream (v :: vs) = v.code.bytes ++ (v.bytes ++ stream vs) := by
      simp [stream, CodedUnit.coded]
    rw [hs]
    refine .next v.code ?_ fun _ => u.ended
    cases v.code with
    | short => exact u.clear.zeros 2
    | long => exact u.clear.zeros 3

end StartCodes
