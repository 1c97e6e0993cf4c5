import CardFirmware.Text.Utf8
import Mathlib.Data.List.Basic

/-! Decoding undoes encoding, and nothing but an encoding is read without a malformed run
(`decodeRuns_eq_map_some`). The forgiving reading gives a text that has no U+FFFD from its encoding
alone (`decodeLossy_eq_iff`). -/

namespace CardFirmware.Text.Utf8

/-- The byte strings that stand for one character, and the number of the character. -/
inductive Spells : Bytes → Nat → Prop
  | one {a : UInt8} : a.toNat < 0x80 → Spells [a] a.toNat
  | two {a b : UInt8} : 0xC2 ≤ a.toNat → a.toNat < 0xE0 → isContinuation b →
      Spells [a, b] ((a.toNat - 0xC0) * 64 + low6 b)
  | three {a b c : UInt8} : 0xE0 ≤ a.toNat → a.toNat < 0xF0 → isSecondOfThree a b →
      isContinuation c → Spells [a, b, c] ((a.toNat - 0xE0) * 4096 + low6 b * 64 + low6 c)
  | four {a b c d : UInt8} : 0xF0 ≤ a.toNat → a.toNat < 0xF5 → isSecondOfFour a b →
      isContinuation c → isContinuation d →
      Spells [a, b, c, d]
        ((a.toNat - 0xF0) * 262144 + low6 b * 4096 + low6 c * 64 + low6 d)

theorem isContinuation_iff {b : UInt8} :
    isContinuation b ↔ 0x80 ≤ b.toNat ∧ b.toNat < 0xC0 := by
  simp [isContinuation]

theorem isSecondOfThree_iff {a b : UInt8} :
    isSecondOfThree a b ↔ 0x80 ≤ b.toNat ∧ b.toNat < 0xC0 ∧
      (a.toNat = 0xE0 → 0xA0 ≤ b.toNat) ∧ (a.toNat = 0xED → b.toNat < 0xA0) := by
  unfold isSecondOfThree isContinuation
  split
  · simp
    omega
  · split
    · simp
      omega
    · simp
      omega

theorem isSecondOfFour_iff {a b : UInt8} :
    isSecondOfFour a b ↔ 0x80 ≤ b.toNat ∧ b.toNat < 0xC0 ∧
      (a.toNat = 0xF0 → 0x90 ≤ b.toNat) ∧ (a.toNat = 0xF4 → b.toNat < 0x90) := by
  unfold isSecondOfFour isContinuation
  split
  · simp
    omega
  · split
    · simp
      omega
    · simp
      omega

theorem Spells.decodeRuns {bs : Bytes} {n : Nat} (h : Spells bs n) (r : Bytes) :
    decodeRuns (bs ++ r) = some (Char.ofNat n) :: decodeRuns r := by
  cases h with
  | one ha =>
    rw [List.singleton_append, decodeRuns.eq_def]
    simp only [ha, if_true]
  | two hmin hmax hb =>
    rw [List.cons_append, List.singleton_append, decodeRuns.eq_def]
    have h₁ : ¬_ < 0x80 := Nat.not_lt.mpr (Nat.le_trans (by decide) hmin)
    simp [h₁, hmin, hmax, hb]
  | three hmin hmax hb hc =>
    rw [List.cons_append, List.cons_append, List.singleton_append, decodeRuns.eq_def]
    have h₁ : ¬_ < 0x80 := Nat.not_lt.mpr (Nat.le_trans (by decide) hmin)
    have h₂ : ¬_ < 0xE0 := Nat.not_lt.mpr hmin
    simp [h₁, h₂, hmin, hmax, hb, hc]
  | four hmin hmax hb hc hd =>
    rw [List.cons_append, List.cons_append, List.cons_append, List.singleton_append,
      decodeRuns.eq_def]
    have h₁ : ¬_ < 0x80 := Nat.not_lt.mpr (Nat.le_trans (by decide) hmin)
    have h₂ : ¬_ < 0xE0 := Nat.not_lt.mpr (Nat.le_trans (by decide) hmin)
    have h₃ : ¬_ < 0xF0 := Nat.not_lt.mpr hmin
    simp [h₁, h₂, h₃, hmin, hmax, hb, hc, hd]

theorem spells_of_decodeRuns {b : Bytes} {c : Char} {later : List (Option Char)}
    (h : decodeRuns b = some c :: later) :
    ∃ bs n r, b = bs ++ r ∧ Spells bs n ∧ c = Char.ofNat n ∧ decodeRuns r = later := by
  rw [decodeRuns.eq_def] at h
  split at h
  · cases h
  next a r =>
  simp only [Bool.and_eq_true, decide_eq_true_eq] at h
  split at h
  · next ha =>
    obtain ⟨hread, hlater⟩ := List.cons.inj h
    exact ⟨[a], _, r, rfl, .one ha, (Option.some.inj hread).symm, hlater⟩
  split at h
  · next ha =>
    split at h
    · cases h
    next b r =>
    split at h
    · next hb =>
      obtain ⟨hread, hlater⟩ := List.cons.inj h
      exact ⟨[a, b], _, r, rfl, .two ha.1 ha.2 hb, (Option.some.inj hread).symm, hlater⟩
    · cases h
  split at h
  · next ha =>
    split at h
    · cases h
    next b r =>
    split at h
    · next hb =>
      split at h
      · cases h
      next c r =>
      split at h
      · next hc =>
        obtain ⟨hread, hlater⟩ := List.cons.inj h
        exact ⟨[a, b, c], _, r, rfl, .three ha.1 ha.2 hb hc, (Option.some.inj hread).symm, hlater⟩
      · cases h
    · cases h
  split at h
  · next ha =>
    split at h
    · cases h
    next b r =>
    split at h
    · next hb =>
      split at h
      · cases h
      next c r =>
      split at h
      · next hc =>
        split at h
        · cases h
        next d r =>
        split at h
        · next hd =>
          obtain ⟨hread, hlater⟩ := List.cons.inj h
          exact ⟨[a, b, c, d], _, r, rfl, .four ha.1 ha.2 hb hc hd, (Option.some.inj hread).symm,
            hlater⟩
        · cases h
      · cases h
    · cases h
  · cases h

theorem toNat_ofNat {n : Nat} (h : n.isValidChar) : (Char.ofNat n).toNat = n := by
  rw [Char.ofNat, dif_pos h]
  rfl

theorem eq_ofNat {a : UInt8} {n : Nat} (h : a.toNat = n) : a = UInt8.ofNat n := by
  rw [← h, UInt8.ofNat_toNat]

theorem Spells.eq_encodeChar {bs : Bytes} {n : Nat} (h : Spells bs n) :
    bs = encodeChar (Char.ofNat n) := by
  suffices hencoded : n.isValidChar ∧ (n.isValidChar → bs = encodeChar (Char.ofNat n)) from
    hencoded.2 hencoded.1
  unfold encodeChar
  simp only
  cases h with
  | @one a ha =>
    refine ⟨.inl (Nat.lt_trans ha (by decide)), fun hvalid => ?_⟩
    rw [toNat_ofNat hvalid, if_pos ha, UInt8.ofNat_toNat]
  | @two a b hmin hmax hb =>
    have hb := isContinuation_iff.mp hb
    unfold low6
    refine ⟨.inl (by omega), fun hvalid => ?_⟩
    rw [toNat_ofNat hvalid, if_neg (by omega), if_pos (by omega)]
    simp only [List.cons.injEq, and_true]
    exact ⟨eq_ofNat (by omega), eq_ofNat (by omega)⟩
  | @three a b c hmin hmax hb hc =>
    have hb := isSecondOfThree_iff.mp hb
    have hc := isContinuation_iff.mp hc
    unfold low6
    refine ⟨?_, fun hvalid => ?_⟩
    · unfold Nat.isValidChar
      omega
    · rw [toNat_ofNat hvalid, if_neg (by omega), if_neg (by omega), if_pos (by omega)]
      simp only [List.cons.injEq, and_true]
      exact ⟨eq_ofNat (by omega), eq_ofNat (by omega), eq_ofNat (by omega)⟩
  | @four a b c d hmin hmax hb hc hd =>
    have hb := isSecondOfFour_iff.mp hb
    have hc := isContinuation_iff.mp hc
    have hd := isContinuation_iff.mp hd
    unfold low6
    refine ⟨.inr (by omega), fun hvalid => ?_⟩
    rw [toNat_ofNat hvalid, if_neg (by omega), if_neg (by omega), if_neg (by omega)]
    simp only [List.cons.injEq, and_true]
    exact ⟨eq_ofNat (by omega), eq_ofNat (by omega), eq_ofNat (by omega), eq_ofNat (by omega)⟩

theorem spells_encodeChar (c : Char) : Spells (encodeChar c) c.toNat := by
  have hvalid : c.toNat < 0xD800 ∨ 0xDFFF < c.toNat ∧ c.toNat < 0x110000 := c.valid
  unfold encodeChar
  generalize c.toNat = n at hvalid
  -- The bytes are named, so that the arithmetic is about numbers only.
  have hbyte (m : Nat) (hm : m < 256) : ∃ b : UInt8, b.toNat = m ∧ UInt8.ofNat m = b :=
    ⟨_, UInt8.toNat_ofNat_of_lt' hm, rfl⟩
  simp only
  split
  · next hn =>
    obtain ⟨a, ha, hlead⟩ := hbyte n (by omega)
    rw [hlead, ← ha]
    exact .one (by omega)
  obtain ⟨z, hz, hlast⟩ := hbyte (0x80 + n % 64) (by omega)
  have hcz : isContinuation z := isContinuation_iff.mpr (by omega)
  split
  · next hn =>
    obtain ⟨a, ha, hlead⟩ := hbyte (0xC0 + n / 64) (by omega)
    have hnumber : (a.toNat - 0xC0) * 64 + low6 z = n := by
      unfold low6
      omega
    rw [hlead, hlast, ← hnumber]
    exact .two (by omega) (by omega) hcz
  obtain ⟨y, hy, hmiddle⟩ := hbyte (0x80 + n / 64 % 64) (by omega)
  split
  · next hn =>
    obtain ⟨a, ha, hlead⟩ := hbyte (0xE0 + n / 4096) (by omega)
    have hnumber : (a.toNat - 0xE0) * 4096 + low6 y * 64 + low6 z = n := by
      unfold low6
      omega
    rw [hlead, hmiddle, hlast, ← hnumber]
    exact .three (by omega) (by omega) (isSecondOfThree_iff.mpr (by omega)) hcz
  · next hn =>
    obtain ⟨a, ha, hlead⟩ := hbyte (0xF0 + n / 262144) (by omega)
    obtain ⟨x, hx, hsecond⟩ := hbyte (0x80 + n / 4096 % 64) (by omega)
    have hnumber :
        (a.toNat - 0xF0) * 262144 + low6 x * 4096 + low6 y * 64 + low6 z = n := by
      unfold low6
      omega
    rw [hlead, hsecond, hmiddle, hlast, ← hnumber]
    exact .four (by omega) (by omega) (isSecondOfFour_iff.mpr (by omega))
      (isContinuation_iff.mpr (by omega)) hcz

theorem decodeRuns_eq_nil {b : Bytes} : decodeRuns b = [] ↔ b = [] := by
  constructor
  · intro h
    rw [decodeRuns.eq_def] at h
    split at h
    · rfl
    · repeat' split at h
      all_goals exact absurd h (List.cons_ne_nil _ _)
  · rintro rfl
    rw [decodeRuns]

theorem decodeRuns_eq_map_some {b : Bytes} {cs : List Char} :
    decodeRuns b = cs.map some ↔ b = cs.flatMap encodeChar := by
  constructor
  · intro h
    induction cs generalizing b with
    | nil => exact decodeRuns_eq_nil.mp h
    | cons c cs ih =>
      obtain ⟨bs, n, r, rfl, hspells, rfl, hlater⟩ := spells_of_decodeRuns h
      rw [ih hlater, List.flatMap_cons, ← hspells.eq_encodeChar]
  · rintro rfl
    induction cs with
    | nil => exact decodeRuns_eq_nil.mpr rfl
    | cons c cs ih =>
      rw [List.flatMap_cons, (spells_encodeChar c).decodeRuns, Char.ofNat_toNat, ih, List.map_cons]

theorem mapM_id_eq_some {runs : List (Option Char)} {cs : List Char} :
    runs.mapM id = some cs ↔ runs = cs.map some := by
  induction runs generalizing cs with
  | nil => cases cs <;> simp
  | cons run runs ih =>
    cases run with
    | none => cases cs <;> simp
    | some c => cases cs <;> simp [Option.bind_eq_some_iff, ih, and_comm]

theorem decode?_eq_some_iff {b : Bytes} {s : String} : decode? b = some s ↔ b = encode s := by
  rw [encode, ← decodeRuns_eq_map_some, decode?, Option.map_eq_some_iff]
  constructor
  · rintro ⟨cs, hcs, rfl⟩
    rw [mapM_id_eq_some.mp hcs, String.toList_ofList]
  · intro h
    exact ⟨s.toList, mapM_id_eq_some.mpr h, String.ofList_toList⟩

theorem decodeLossy_eq_iff {b : Bytes} {s : String} (hs : '\uFFFD' ∉ s.toList) :
    decodeLossy b = s ↔ b = encode s := by
  rw [encode, ← decodeRuns_eq_map_some, decodeLossy]
  constructor
  · rintro rfl
    rw [String.toList_ofList] at hs ⊢
    have hread : ∀ run ∈ decodeRuns b, some (run.getD '\uFFFD') = run := by
      intro run hrun
      cases run with
      | none => exact absurd (List.mem_map_of_mem hrun) hs
      | some c => rfl
    rw [List.map_map]
    exact ((List.map_congr_left hread).trans (List.map_id _)).symm
  · intro h
    rw [h, List.map_map]
    exact (congrArg String.ofList (List.map_id _)).trans String.ofList_toList

end CardFirmware.Text.Utf8
