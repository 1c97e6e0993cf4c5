import CardFirmware.Proofs.Firmware.Header

/-! Files that are cut off. Wherever the encoding of a box or of a section is cut, the readers get
through what is whole and report the shortage in the first field that is not (`cut_off_reported`):
no other check fails before. -/

namespace CardFirmware

open Bytes (be16 be32)

namespace FirmwareFile

variable {α β : Type} {size index : Nat}

/-- The reader takes its value from `whole`, and of every proper part of it, at the end of a file of
`size` bytes, it reports that the file is cut off, and asks for no more than `whole`. -/
structure ReportsCut (size : Nat) (r : Reader α) (whole : Bytes) (a : α) : Prop where
  takes : ∀ rest, Takes r (whole ++ rest) a rest
  refuses : ∀ p : Bytes, p <+: whole → p.length < whole.length → p.length ≤ size →
    ∃ e, Refuses r p e ∧ Shortage size (size - p.length + whole.length) e

theorem reportsCut_pure (a : α) : ReportsCut size (pure a) [] a :=
  ⟨fun _ => rfl, fun _ _ hlt => absurd hlt (Nat.not_lt_zero _)⟩

theorem Measures.reportsCut {r : Reader α} {n : Nat} {whole : Bytes} {a : α}
    (h : Measures size r n) (hlength : whole.length = n)
    (htakes : ∀ rest, Takes r (whole ++ rest) a rest) : ReportsCut size r whole a where
  takes := htakes
  refuses p _ hlt hsize := by
    rw [hlength] at hlt ⊢
    exact h.refuses hsize hlt

theorem ReportsCut.bind {r : Reader α} {f : α → Reader β} {x y : Bytes} {a : α} {c : β}
    (hr : ReportsCut size r x a) (hf : ReportsCut size (f a) y c) :
    ReportsCut size (r >>= f) (x ++ y) c where
  takes rest := by
    rw [List.append_assoc]
    exact takes_bind.mpr ⟨a, y ++ rest, hr.takes _, hf.takes rest⟩
  refuses p hp hlt hsize := by
    rw [List.length_append] at hlt ⊢
    rcases Nat.lt_or_ge p.length x.length with hshort | hlong
    · -- the cut is within the first part
      have hpart : p <+: x :=
        List.prefix_of_prefix_length_le hp (List.prefix_append x y) (Nat.le_of_lt hshort)
      obtain ⟨e, he, hshortage⟩ := hr.refuses p hpart hshort hsize
      exact ⟨e, he.bind f, hshortage.mono (by omega)⟩
    · -- the first part is whole, and the cut is within the second
      obtain ⟨q, rfl⟩ := List.prefix_of_prefix_length_le (List.prefix_append x y) hp hlong
      have hpart : q <+: y := (List.prefix_append_right_inj x).mp hp
      rw [List.length_append] at hlt hsize ⊢
      obtain ⟨e, he, hshortage⟩ := hf.refuses q hpart (by omega) (by omega)
      refine ⟨e, (hr.takes q).bind_refuses he, hshortage.mono ?_⟩
      omega

theorem ReportsCut.andThen {r : Reader α} {f : α → Reader β} {x : Bytes} {a : α} {c : β}
    (hr : ReportsCut size r x a) (hf : ∀ rest, Takes (f a) rest c rest) :
    ReportsCut size (r >>= f) x c := by
  have hnothing : ReportsCut size (f a) [] c :=
    ⟨hf, fun _ _ hlt => absurd hlt (Nat.not_lt_zero _)⟩
  have hboth := hr.bind hnothing
  rwa [List.append_nil] at hboth

theorem take_reportsCut {n : Nat} {data : Bytes} (hn : data.length = n) :
    ReportsCut size (take size n) data data :=
  (measures_take n).reportsCut hn fun _ => takes_take.mpr ⟨rfl, hn⟩

theorem fileKind_reportsCut (kind : FirmwareKind) :
    ReportsCut size (fileKind size) kind.magic kind := by
  refine (take_reportsCut kind.length_magic).andThen fun rest => ?_
  rw [FirmwareKind.ofMagic?_eq_some.mpr rfl]
  exact takes_pure.mpr ⟨rfl, rfl⟩

theorem sectionKind_reportsCut {kind : FirmwareKind} (hkind : kind ≠ .container) :
    ReportsCut size (sectionKind size index) kind.magic kind := by
  refine (take_reportsCut kind.length_magic).andThen fun rest => ?_
  rw [FirmwareKind.ofMagic?_eq_some.mpr rfl]
  cases kind with
  | container => exact absurd rfl hkind
  | app | esp | leapfrog => exact takes_pure.mpr ⟨rfl, rfl⟩

variable {s : FirmwareSection} {ss : List FirmwareSection} {f : FirmwareFile}

theorem sectionHeader_reportsCut (s : FirmwareSection) :
    ReportsCut size (sectionHeader size s.kind) s.bare.fields s.bare :=
  (measures_sectionHeader s.kind).reportsCut s.length_fields_bare fun _ =>
    takes_sectionHeader.mpr ⟨rfl, rfl, rfl, rfl⟩

theorem sectionBody_reportsCut (hs : s.WellFormed) :
    ReportsCut size (sectionBody size s.kind index) s.fields s := by
  have hdigest : Sha256.hash s.data = s.bare.sha256 := hs.sha256_eq.symm
  have hwhole :
      { s.bare with data := s.data, md5 := FirmwareSection.md5For s.kind s.data } = s := by
    have hmd5 : s.md5 = FirmwareSection.md5For s.kind s.data := hs.md5_eq
    rw [← hmd5]
    rfl
  rw [s.fields_bare]
  refine (sectionHeader_reportsCut s).bind ((take_reportsCut hs.length_eq.symm).andThen ?_)
  intro rest
  rw [if_pos hdigest]
  exact takes_pure.mpr ⟨hwhole.symm, rfl⟩

theorem readSections_reportsCut (hss : ∀ s ∈ ss, s.WellFormed) :
    ReportsCut size (readSections size ss.length index) (ss.flatMap FirmwareSection.encode) ss := by
  induction ss generalizing index with
  | nil => exact reportsCut_pure []
  | cons s ss ih =>
    obtain ⟨hs, hothers⟩ := List.forall_mem_cons.mp hss
    rw [List.flatMap_cons, s.encode_eq, List.append_assoc]
    refine (sectionKind_reportsCut hs.kind_ne).bind ((sectionBody_reportsCut hs).bind ?_)
    exact (ih hothers).andThen fun rest => takes_pure.mpr ⟨rfl, rfl⟩

theorem boxHeader_reportsCut (f : FirmwareFile) :
    ReportsCut size (boxHeader size)
      (be16 f.vid ++ be16 f.pid ++ f.version.encode ++ be32 f.numSections)
      { f with sections := [] } :=
  measures_boxHeader.reportsCut (by simp) fun _ => takes_boxHeader.mpr ⟨rfl, rfl⟩

theorem readFile_reportsCut (hf : f.WellFormed) : ReportsCut size (readFile size) f.encode f := by
  have hcount : 1 ≤ f.numSections.toNat ∧ f.numSections.toNat ≤ maxSections := by
    rw [hf.count_eq]
    exact ⟨hf.one_le, hf.le_three⟩
  rw [hf.encode_eq]
  refine (fileKind_reportsCut .container).bind ((boxHeader_reportsCut f).bind ?_)
  rw [if_pos hcount]
  have hsections : ReportsCut size (readSections size f.numSections.toNat 1)
      (f.sections.flatMap FirmwareSection.encode) f.sections := by
    rw [hf.count_eq]
    exact readSections_reportsCut hf.sections
  exact hsections.andThen fun rest => takes_pure.mpr ⟨rfl, rfl⟩

theorem readFile_section_reportsCut (hs : s.WellFormed) :
    ReportsCut size (readFile size) s.encode (ofSection s) := by
  rw [s.encode_eq]
  refine (fileKind_reportsCut s.kind).bind ?_
  split
  · next hkind => exact absurd hkind hs.kind_ne
  · exact (sectionBody_reportsCut hs).andThen fun rest => takes_pure.mpr ⟨rfl, rfl⟩

theorem ReportsCut.decode_error {whole p : Bytes}
    (h : ReportsCut p.length (readFile p.length) whole f) (hp : p <+: whole) (hproper : p ≠ whole) :
    ∃ expected, decode p = .error (.truncated expected p.length) ∧ p.length < expected ∧
      expected ≤ whole.length := by
  have hlt : p.length < whole.length :=
    Nat.lt_of_le_of_ne hp.length_le fun heq => hproper (hp.eq_of_length heq)
  obtain ⟨e, he, expected, rfl, hsize, hlimit⟩ := h.refuses p hp hlt (Nat.le_refl _)
  rw [Nat.sub_self, Nat.zero_add] at hlimit
  exact ⟨expected, decode_eq_error.mpr he, hsize, hlimit⟩

/-- Every proper part of the encoding of a well-formed box, or of a well-formed section, is refused
as cut off. The error has the length of what is there, and a length that is missed by it and that
the whole encoding has. -/
theorem cut_off_reported :
    (∀ f : FirmwareFile, f.WellFormed → ∀ p : Bytes, p <+: f.encode → p ≠ f.encode →
      ∃ expected, decode p = .error (.truncated expected p.length) ∧
        p.length < expected ∧ expected ≤ f.encode.length) ∧
    ∀ s : FirmwareSection, s.WellFormed → ∀ p : Bytes, p <+: s.encode → p ≠ s.encode →
      ∃ expected, decode p = .error (.truncated expected p.length) ∧
        p.length < expected ∧ expected ≤ s.encode.length := by
  constructor
  · intro f hf p hp hproper
    exact (readFile_reportsCut hf).decode_error hp hproper
  · intro s hs p hp hproper
    exact (readFile_section_reportsCut hs).decode_error hp hproper

/-- A box of two sections without the last byte, and one of the sections without its last byte. -/
theorem last_byte_missed :
    let app := FirmwareSection.ofData .app 1 2 ⟨1, 0, 0, 7⟩ [1, 2, 3]
    let esp := FirmwareSection.ofData .esp 1 2 ⟨1, 0, 0, 7⟩ [7, 8, 9]
    let f := ofSections 1 2 ⟨1, 0, 0, 7⟩ [app, esp]
    f.WellFormed ∧ f.encode.take 165 ≠ f.encode ∧
      decode (f.encode.take 165) = .error (.truncated 166 165) ∧
      esp.WellFormed ∧ esp.encode.take 66 ≠ esp.encode ∧
      decode (esp.encode.take 66) = .error (.truncated 67 66) := by
  intro app esp f
  have happ : app.WellFormed := FirmwareSection.wellFormed_ofData (.inl rfl) _ _ _ (by decide)
  have hesp : esp.WellFormed :=
    FirmwareSection.wellFormed_ofData (.inr (.inl rfl)) _ _ _ (by decide)
  have hf : f.WellFormed :=
    wellFormed_ofSections (by decide) (by decide)
      (List.forall_mem_cons.mpr ⟨happ, List.forall_mem_singleton.mpr hesp⟩) _ _ _
  have hlength : (f.encode.take 165).length = 165 := by decide +kernel
  have hproper : f.encode.take 165 ≠ f.encode := by decide +kernel
  have hlength' : (esp.encode.take 66).length = 66 := by decide +kernel
  have hproper' : esp.encode.take 66 ≠ esp.encode := by decide +kernel
  obtain ⟨expected, herror, hmissed, hlimit⟩ :=
    cut_off_reported.1 f hf _ (List.take_prefix 165 _) hproper
  obtain ⟨expected', herror', hmissed', hlimit'⟩ :=
    cut_off_reported.2 esp hesp _ (List.take_prefix 66 _) hproper'
  rw [hlength] at herror hmissed
  rw [hlength'] at herror' hmissed'
  have hbox : f.encode.length = 166 := by decide +kernel
  have hsection : esp.encode.length = 67 := by decide +kernel
  rw [hbox] at hlimit
  rw [hsection] at hlimit'
  obtain rfl : expected = 166 := Nat.le_antisymm hlimit hmissed
  obtain rfl : expected' = 67 := Nat.le_antisymm hlimit' hmissed'
  exact ⟨hf, hproper, herror, hesp, hproper', herror'⟩

end FirmwareFile

end CardFirmware
