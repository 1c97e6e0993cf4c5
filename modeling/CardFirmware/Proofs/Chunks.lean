import CardFirmware.Bytes

/-! Byte strings cut into pieces: the pieces put together are the string, none is empty, and piece
`i` is what stands at `i` times their size. -/

namespace CardFirmware.Bytes

theorem chunksOf_go {n : Nat} (hn : 0 < n) {data : Bytes} {f g : Nat} (hf : data.length ≤ f)
    (hg : data.length ≤ g) : chunksOf.go n f data = chunksOf.go n g data := by
  induction f generalizing data g with
  | zero =>
    obtain rfl := List.length_eq_zero_iff.mp (Nat.le_zero.mp hf)
    cases g <;> rfl
  | succ f ih =>
    cases data with
    | nil => cases g <;> rfl
    | cons b rest =>
      obtain ⟨g, rfl⟩ : ∃ k, g = k + 1 := ⟨g - 1, by rw [List.length_cons] at hg; omega⟩
      have hle : ∀ k, (b :: rest).length ≤ k + 1 → ((b :: rest).drop n).length ≤ k := by
        intro k hk
        rw [List.length_drop]
        omega
      simp only [chunksOf.go]
      rw [ih (hle f hf) (hle g hg)]

theorem chunksOf_of_ne_nil {n : Nat} (hn : 0 < n) {data : Bytes} (h : data ≠ []) :
    chunksOf n data = data.take n :: chunksOf n (data.drop n) := by
  cases data with
  | nil => exact absurd rfl h
  | cons b rest =>
    have hle : ((b :: rest).drop n).length ≤ rest.length := by
      rw [List.length_drop, List.length_cons]
      omega
    simp only [chunksOf, List.length_cons, chunksOf.go]
    rw [chunksOf_go hn hle (Nat.le_refl _)]

theorem chunk_induction {motive : Bytes → Prop} {n : Nat} (hn : 0 < n) (nil : motive [])
    (step : ∀ data, data ≠ [] → motive (data.drop n) → motive data) (data : Bytes) :
    motive data := by
  generalize hm : data.length = m
  induction m using Nat.strongRecOn generalizing data with
  | ind m ih =>
    by_cases h : data = []
    · rw [h]
      exact nil
    · have hpos : 0 < data.length := List.length_pos_iff.mpr h
      exact step data h (ih (data.drop n).length (by rw [List.length_drop]; omega) _ rfl)

theorem flatten_chunksOf {n : Nat} (hn : 0 < n) (data : Bytes) :
    (chunksOf n data).flatten = data := by
  induction data using chunk_induction hn with
  | nil => rfl
  | step data h ih =>
    rw [chunksOf_of_ne_nil hn h, List.flatten_cons, ih, List.take_append_drop]

theorem flatten_take_chunksOf {n : Nat} (hn : 0 < n) (data : Bytes) (i : Nat) :
    ((chunksOf n data).take i).flatten = data.take (n * i) := by
  induction data using chunk_induction hn generalizing i with
  | nil =>
    rw [List.take_nil]
    cases i <;> rfl
  | step data h ih =>
    cases i with
    | zero => rfl
    | succ i =>
      rw [chunksOf_of_ne_nil hn h, List.take_succ_cons, List.flatten_cons, ih, Nat.mul_succ,
        Nat.add_comm, List.take_add]

theorem length_of_mem_chunksOf {n : Nat} (hn : 0 < n) {data chunk : Bytes}
    (h : chunk ∈ chunksOf n data) : 1 ≤ chunk.length ∧ chunk.length ≤ n := by
  induction data using chunk_induction hn with
  | nil => exact absurd h List.not_mem_nil
  | step data hne ih =>
    rw [chunksOf_of_ne_nil hn hne] at h
    obtain rfl | h := List.mem_cons.mp h
    · have hpos : 0 < data.length := List.length_pos_iff.mpr hne
      rw [List.length_take]
      omega
    · exact ih h

theorem length_chunksOf {n : Nat} (hn : 0 < n) (data : Bytes) :
    (chunksOf n data).length = (data.length + (n - 1)) / n := by
  induction data using chunk_induction hn with
  | nil =>
    have hzero : (0 + (n - 1)) / n = 0 := Nat.div_eq_of_lt (by omega)
    exact hzero.symm
  | step data h ih =>
    have hpos : 0 < data.length := List.length_pos_iff.mpr h
    rw [chunksOf_of_ne_nil hn h, List.length_cons, ih, List.length_drop]
    rcases Nat.lt_or_ge n data.length with hlong | hshort
    · rw [← Nat.add_div_right _ hn]
      congr 1
      omega
    · -- one piece is the whole string
      rw [Nat.sub_eq_zero_of_le hshort, Nat.div_eq_of_lt (by omega : 0 + (n - 1) < n)]
      exact (Nat.div_eq_of_lt_le (by omega) (by omega)).symm

end CardFirmware.Bytes
