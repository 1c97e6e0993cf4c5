import CardFirmware.Firmware.Directory
import Mathlib.Data.List.Basic

/-! Directories of firmware files. A scan keeps one file for each product and version that a
readable file of the vendor has (`scanned_foldl`). Once they are sorted, the first file of a product
is the newest one, also of a product that the order lacks (`latest?_sort`). -/

namespace CardFirmware

namespace Version

theorem compare_go (as bs : List UInt32) (h : as.length = bs.length) :
    (compare.go as bs = .lt ↔ as < bs) ∧ (compare.go as bs = .gt ↔ bs < as) := by
  induction as generalizing bs with
  | nil =>
    obtain rfl := List.eq_nil_of_length_eq_zero h.symm
    simp [compare.go]
  | cons a as ih =>
    cases bs with
    | nil => cases h
    | cons b bs =>
      have ih := ih bs (Nat.succ.inj h)
      rw [List.cons_lt_cons_iff, List.cons_lt_cons_iff, compare.go, ← ih.1, ← ih.2]
      by_cases hab : a < b
      · have hba : ¬b < a := UInt32.not_lt.mpr (UInt32.le_of_lt hab)
        simp [hab, hba, (UInt32.ne_of_lt hab).symm]
      · by_cases hba : b < a
        · simp [hab, hba, (UInt32.ne_of_lt hba).symm]
        · obtain rfl : a = b := UInt32.le_antisymm (UInt32.not_lt.mp hba) (UInt32.not_lt.mp hab)
          simp

theorem compare_eq_lt {v w : Version} : v.compare w = .lt ↔ v.toList < w.toList :=
  (compare_go v.toList w.toList rfl).1

theorem compare_eq_gt {v w : Version} : v.compare w = .gt ↔ w.toList < v.toList :=
  (compare_go v.toList w.toList rfl).2

end Version

namespace Firmware

section Order

variable {order : List UInt16} {a b c f g : FoundFirmware} {found : List FoundFirmware}
  {pid : UInt16}

theorem precedes_iff : precedes order a b ↔ rank order a.header.pid < rank order b.header.pid ∨
    rank order a.header.pid = rank order b.header.pid ∧
      b.header.version.toList ≤ a.header.version.toList := by
  rw [← List.not_lt, ← Version.compare_eq_gt]
  simp [precedes]

theorem precedes_trans (hab : precedes order a b) (hbc : precedes order b c) :
    precedes order a c := by
  rw [precedes_iff] at *
  obtain hab | ⟨hab, hba⟩ := hab
  · obtain hbc | ⟨hbc, -⟩ := hbc
    · exact .inl (Nat.lt_trans hab hbc)
    · exact .inl (hbc ▸ hab)
  · rw [hab]
    obtain hbc | ⟨hbc, hcb⟩ := hbc
    · exact .inl hbc
    · exact .inr ⟨hbc, List.le_trans hcb hba⟩

theorem precedes_total (order : List UInt16) (a b : FoundFirmware) :
    precedes order a b || precedes order b a := by
  rw [Bool.or_eq_true, precedes_iff, precedes_iff]
  obtain h | h | h := Nat.lt_trichotomy (rank order a.header.pid) (rank order b.header.pid)
  · exact .inl (.inl h)
  · obtain hle | hle := List.le_total b.header.version.toList a.header.version.toList
    · exact .inl (.inr ⟨h, hle⟩)
    · exact .inr (.inr ⟨h.symm, hle⟩)
  · exact .inr (.inl h)

theorem sort_pairwise (order : List UInt16) (found : List FoundFirmware) :
    (sort order found).Pairwise fun a b => precedes order a b := by
  have htrans : ∀ a b c, precedes order a b → precedes order b c → precedes order a c :=
    fun _ _ _ => precedes_trans
  exact List.pairwise_mergeSort htrans (precedes_total order) found

theorem mem_sort : f ∈ sort order found ↔ f ∈ found := List.mem_mergeSort

theorem latest?_eq_none : latest? found pid = none ↔ ∀ f ∈ found, f.header.pid ≠ pid := by
  simp [latest?]

theorem latest?_sort (h : latest? (sort order found) pid = some f) :
    f ∈ found ∧ f.header.pid = pid ∧
      ∀ g ∈ found, g.header.pid = pid → g.header.version.toList ≤ f.header.version.toList := by
  obtain ⟨hpid, before, later, hsplit, hbefore⟩ := List.find?_eq_some_iff_append.mp h
  have hpid : f.header.pid = pid := of_decide_eq_true hpid
  have hsorted := sort_pairwise order found
  rw [hsplit] at hsorted
  have hmem (g : FoundFirmware) : g ∈ before ++ f :: later ↔ g ∈ found := hsplit ▸ mem_sort
  refine ⟨(hmem f).mp (List.mem_append_right _ List.mem_cons_self), hpid, fun g hg hgpid => ?_⟩
  obtain hg | hg := List.mem_append.mp ((hmem g).mpr hg)
  · have hother := hbefore g hg
    simp [hgpid] at hother
  · obtain rfl | hg := List.mem_cons.mp hg
    · exact List.le_refl _
    · have hfg := (List.pairwise_cons.mp (List.pairwise_append.mp hsorted).2.1).1 g hg
      obtain hlt | ⟨-, hle⟩ := precedes_iff.mp hfg
      · rw [hpid, hgpid] at hlt
        exact absurd hlt (Nat.lt_irrefl _)
      · exact hle

end Order

section Scan

variable {t : FileTree} {vendor : UInt16} {paths before : List Path}
  {found : List FoundFirmware}

/-- The files that were found at some paths: one of each product and version that the vendor has
there. -/
structure Scanned (t : FileTree) (vendor : UInt16) (paths : List Path)
    (found : List FoundFirmware) : Prop where
  sound : ∀ f ∈ found, f.path ∈ paths ∧ readHeader t f.path = .ok f.header ∧ f.header.vid = vendor
  complete : ∀ path ∈ paths, ∀ header, readHeader t path = .ok header → header.vid = vendor →
    ∃ f ∈ found, f.header.pid = header.pid ∧ f.header.version = header.version

theorem Scanned.skip {path : Path} (h : Scanned t vendor paths found)
    (hskip : ∀ header, readHeader t path = .ok header → header.vid = vendor →
      ∃ f ∈ found, f.header.pid = header.pid ∧ f.header.version = header.version) :
    Scanned t vendor (paths ++ [path]) found where
  sound f hf := by
    obtain ⟨hpath, hread⟩ := h.sound f hf
    exact ⟨List.mem_append_left _ hpath, hread⟩
  complete path' hpath header hread hvid := by
    obtain hpath | hpath := List.mem_append.mp hpath
    · exact h.complete path' hpath header hread hvid
    · obtain rfl := List.mem_singleton.mp hpath
      exact hskip header hread hvid

theorem Scanned.collect (h : Scanned t vendor paths found) (path : Path) :
    Scanned t vendor (paths ++ [path]) (collect t vendor found path) := by
  unfold Firmware.collect
  split
  · next e he =>
    refine h.skip fun header hread => ?_
    cases he.symm.trans hread
  · next header hheader =>
    split
    · next hskip =>
      refine h.skip fun header' hread hvid => ?_
      cases hheader.symm.trans hread
      obtain hother | hthere := hskip
      · exact absurd hvid hother
      · obtain ⟨f, hf, hsame⟩ := List.any_eq_true.mp hthere
        exact ⟨f, hf, of_decide_eq_true hsame⟩
    · next hnew =>
      constructor
      · intro f hf
        obtain hf | hf := List.mem_append.mp hf
        · obtain ⟨hpath, hread⟩ := h.sound f hf
          exact ⟨List.mem_append_left _ hpath, hread⟩
        · rw [List.mem_singleton.mp hf]
          exact ⟨List.mem_append_right _ List.mem_cons_self, hheader,
            not_not.mp (not_or.mp hnew).1⟩
      · intro path' hpath header' hread hvid
        obtain hpath | hpath := List.mem_append.mp hpath
        · obtain ⟨f, hf, hsame⟩ := h.complete path' hpath header' hread hvid
          exact ⟨f, List.mem_append_left _ hf, hsame⟩
        · rw [List.mem_singleton.mp hpath] at hread
          cases hheader.symm.trans hread
          exact ⟨_, List.mem_append_right _ List.mem_cons_self, rfl, rfl⟩

theorem scanned_foldl (h : Scanned t vendor before found) :
    Scanned t vendor (before ++ paths) (paths.foldl (collect t vendor) found) := by
  induction paths generalizing before found with
  | nil => rwa [List.append_nil]
  | cons path paths ih =>
    rw [List.append_cons]
    exact ih (h.collect path)

theorem scanned (t : FileTree) (vendor : UInt16) (paths : List Path) :
    Scanned t vendor paths (paths.foldl (collect t vendor) []) :=
  scanned_foldl ⟨fun _ h => absurd h List.not_mem_nil, fun _ h => absurd h List.not_mem_nil⟩

end Scan

end Firmware

end CardFirmware
