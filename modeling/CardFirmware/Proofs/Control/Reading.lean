import CardFirmware.Control.Reassembly

/-! One reading of a whole stream of requests, message after message: what reassembly is measured
against. -/

namespace CardFirmware

namespace Header

theorem read_eq_some {s rest : Bytes} {h : Header} (hread : read s = some (h, rest)) :
    ∃ a b c d, s = h.magic :: h.type :: a :: b :: c :: d :: rest := by
  match s with
  | [] | [_] | [_, _] | [_, _, _] | [_, _, _, _] | [_, _, _, _, _] =>
    simp [read, Bytes.readLe32] at hread
  | _ :: _ :: a :: b :: c :: d :: _ =>
    simp only [read, Bytes.readLe32, Option.map_some, Option.some.injEq, Prod.mk.injEq] at hread
    obtain ⟨rfl, rfl⟩ := hread
    exact ⟨a, b, c, d, rfl⟩

theorem read_append {s rest : Bytes} {h : Header} (hread : read s = some (h, rest)) (more : Bytes) :
    read (s ++ more) = some (h, rest ++ more) := by
  obtain ⟨a, b, c, d, rfl⟩ := read_eq_some hread
  simp only [read, Bytes.readLe32, Option.map_some, Option.some.injEq, Prod.mk.injEq,
    List.cons_append] at hread ⊢
  exact ⟨hread.1, trivial⟩

theorem eq_of_read {s rest : Bytes} {h : Header} (hread : read s = some (h, rest)) :
    s = h.encode ++ rest := by
  cases h with
  | mk magic type length =>
    obtain ⟨a, b, c, d, rfl⟩ := read_eq_some hread
    simp only [read, Bytes.readLe32, Option.map_some, Option.some.injEq, Prod.mk.injEq,
      Header.mk.injEq, true_and, and_true] at hread
    subst hread
    exact congrArg (magic :: type :: ·) (Bytes.eq_of_readLe32 rfl)

theorem exists_eq_encode {s : Bytes} (hs : headerLength ≤ s.length) :
    ∃ (h : Header) (rest : Bytes), s = h.encode ++ rest := by
  match s with
  | [] | [_] | [_, _] | [_, _, _] | [_, _, _, _] | [_, _, _, _, _] => simp [headerLength] at hs
  | _ :: _ :: _ :: _ :: _ :: _ :: rest => exact ⟨_, rest, eq_of_read rfl⟩

theorem length_of_read {s rest : Bytes} {h : Header} (hread : read s = some (h, rest)) :
    s.length = headerLength + rest.length := by
  obtain ⟨a, b, c, d, rfl⟩ := read_eq_some hread
  simp only [List.length_cons, headerLength]
  omega

theorem drop_of_read {s rest : Bytes} {h : Header} (hread : read s = some (h, rest)) :
    s.drop headerLength = rest := by
  obtain ⟨a, b, c, d, rfl⟩ := read_eq_some hread
  rfl

theorem take_of_read {s rest : Bytes} {h : Header} (hread : read s = some (h, rest)) :
    s.take headerLength = h.encode := by
  rw [eq_of_read hread]
  exact List.take_left' h.length_encode

/-- Why a message with such a header is refused: first its mark, then its size. -/
def refusal (h : Header) (max : UInt32) : Option WireError :=
  if h.magic ≠ requestMagic then some (.magic h.magic)
  else if h.payloadLength > max then some (.payloadTooLarge h.payloadLength max)
  else none

theorem refusal_eq_none {h : Header} {max : UInt32} :
    h.refusal max = none ↔ h.magic = requestMagic ∧ h.payloadLength ≤ max := by
  unfold refusal
  split
  · next hmagic => simp [hmagic]
  · next hmagic =>
    split
    · next hlarge => simp [UInt32.not_le.mpr hlarge]
    · next hfits => exact iff_of_true rfl ⟨Decidable.not_not.mp hmagic, UInt32.not_lt.mp hfits⟩

end Header

/-- What a reading leaves over: the bytes of a message that is not complete, its length if its
header is accepted, and how much of a refused payload is still missing. -/
structure Leftover where
  bytes : Bytes
  total : Option Nat
  missing : Nat
  deriving DecidableEq

def readRequests (max : UInt32) (skip : Nat) (s : Bytes) :
    List (Except WireError Request) × Leftover :=
  if s.length < skip then ([], ⟨[], none, skip - s.length⟩)
  else
    match _hread : Header.read (s.drop skip) with
    | none => ([], ⟨s.drop skip, none, 0⟩)
    | some (h, rest) =>
      let size := h.payloadLength.toNat
      match h.refusal max with
      | some e =>
        let (items, left) := readRequests max size rest
        (.error e :: items, left)
      | none =>
        if size ≤ rest.length then
          let (items, left) := readRequests max 0 (rest.drop size)
          (.ok ⟨h.type, rest.take size⟩ :: items, left)
        else ([], ⟨s.drop skip, some (headerLength + size), 0⟩)
termination_by s.length
decreasing_by
  all_goals
    have hlen := Header.length_of_read _hread
    simp only [List.length_drop, headerLength] at hlen ⊢
    omega

section

variable {max : UInt32} {s rest : Bytes} {h : Header}

theorem readRequests_of_length_lt {skip : Nat} (hs : s.length < skip) :
    readRequests max skip s = ([], ⟨[], none, skip - s.length⟩) := by
  rw [readRequests, if_pos hs]

theorem readRequests_of_read_none (hread : Header.read s = none) :
    readRequests max 0 s = ([], ⟨s, none, 0⟩) := by
  rw [readRequests, if_neg (Nat.not_lt_zero _)]
  split
  · rfl
  · next hsome => rw [List.drop_zero, hread] at hsome; cases hsome

theorem readRequests_of_read (hread : Header.read s = some (h, rest)) :
    readRequests max 0 s =
      match h.refusal max with
      | some e =>
        (.error e :: (readRequests max h.payloadLength.toNat rest).1,
          (readRequests max h.payloadLength.toNat rest).2)
      | none =>
        if h.payloadLength.toNat ≤ rest.length then
          (.ok ⟨h.type, rest.take h.payloadLength.toNat⟩ ::
              (readRequests max 0 (rest.drop h.payloadLength.toNat)).1,
            (readRequests max 0 (rest.drop h.payloadLength.toNat)).2)
        else ([], ⟨s, some (headerLength + h.payloadLength.toNat), 0⟩) := by
  rw [readRequests, if_neg (Nat.not_lt_zero _)]
  split
  · next hnone => rw [List.drop_zero, hread] at hnone; cases hnone
  · next hsome =>
    rw [List.drop_zero, hread] at hsome
    cases hsome
    rfl

theorem readRequests_congr {skip skip' : Nat} {s' : Bytes} (hdrop : s.drop skip = s'.drop skip')
    (hmissing : skip - s.length = skip' - s'.length) :
    readRequests max skip s = readRequests max skip' s' := by
  -- either nothing is left to read in both, or both go on with the same bytes
  by_cases hs : s.length < skip
  · rw [readRequests_of_length_lt hs, readRequests_of_length_lt (by omega), hmissing]
  · have hs' : ¬ s'.length < skip' := by omega
    rw [readRequests, readRequests, if_neg hs, if_neg hs', hdrop]

theorem readRequests_skip (skip : Nat) (s more : Bytes) :
    readRequests max skip (s ++ more) =
      readRequests max (skip - s.length) (s.drop skip ++ more) := by
  apply readRequests_congr
  · rcases Nat.le_total skip s.length with hle | hle
    · rw [Nat.sub_eq_zero_of_le hle, List.drop_zero, List.drop_append_of_le_length hle]
    · rw [List.drop_eq_nil_of_le hle, List.nil_append, List.drop_append,
        List.drop_eq_nil_of_le hle, List.nil_append]
  · simp only [List.length_append, List.length_drop]
    omega

end

end CardFirmware
