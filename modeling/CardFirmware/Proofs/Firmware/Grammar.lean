import CardFirmware.Proofs.Firmware.Reading

/-! The files that are accepted, and what they are read as. A file is accepted if and only if it
starts with the encoding of a well-formed box or of a well-formed section (`decode_grammar`), so
that a box is what its encoding is read as, and nothing else is encoded alike. -/

namespace CardFirmware

open Bytes (be16 be32)

structure FirmwareSection.WellFormed (s : FirmwareSection) : Prop where
  kind_eq : s.kind = .app ∨ s.kind = .esp ∨ s.kind = .leapfrog
  length_eq : s.length.toNat = s.data.length
  sha256_eq : s.sha256 = Sha256.hash s.data
  md5_eq : s.md5 = if s.kind = .esp then some (Md5.hash s.data) else none

structure FirmwareFile.WellFormed (f : FirmwareFile) : Prop where
  one_le : 1 ≤ f.sections.length
  le_three : f.sections.length ≤ 3
  count_eq : f.numSections.toNat = f.sections.length
  sections : ∀ s ∈ f.sections, s.WellFormed

namespace FirmwareSection

variable {s : FirmwareSection}

theorem WellFormed.kind_ne (h : s.WellFormed) : s.kind ≠ .container := by
  rcases h.kind_eq with hk | hk | hk <;> rw [hk] <;> decide

theorem wellFormed_ofData {kind : FirmwareKind}
    (hkind : kind = .app ∨ kind = .esp ∨ kind = .leapfrog) (vid pid : UInt16) (version : Version)
    {data : Bytes} (h : data.length < UInt32.size) :
    (ofData kind vid pid version data).WellFormed :=
  ⟨hkind, UInt32.toNat_ofNat_of_lt' h, rfl, rfl⟩

def fields (s : FirmwareSection) : Bytes :=
  be16 s.vid ++ be16 s.pid ++ s.version.encode ++ be32 s.length ++ s.sha256.bytes ++ s.data

theorem encode_eq (s : FirmwareSection) : s.encode = s.kind.magic ++ s.fields := by
  simp only [encode, fields, List.append_assoc]

end FirmwareSection

namespace FirmwareFile

variable {size index : Nat} {b rest : Bytes} {kind : FirmwareKind}

theorem takes_fileKind : Takes (fileKind size) b kind rest ↔ b = kind.magic ++ rest := by
  unfold fileKind
  rw [takes_bind]
  constructor
  · rintro ⟨magic, mid, htake, h⟩
    obtain ⟨rfl, -⟩ := takes_take.mp htake
    split at h
    · exact absurd h takes_throw
    · next found hfound =>
      obtain ⟨rfl, rfl⟩ := takes_pure.mp h
      rw [FirmwareKind.ofMagic?_eq_some.mp hfound]
  · rintro rfl
    refine ⟨kind.magic, rest, takes_take.mpr ⟨rfl, kind.length_magic⟩, ?_⟩
    rw [FirmwareKind.ofMagic?_eq_some.mpr rfl]
    exact takes_pure.mpr ⟨rfl, rfl⟩

theorem takes_sectionKind :
    Takes (sectionKind size index) b kind rest ↔ kind ≠ .container ∧ b = kind.magic ++ rest := by
  unfold sectionKind
  rw [takes_bind]
  constructor
  · rintro ⟨magic, mid, htake, h⟩
    obtain ⟨rfl, -⟩ := takes_take.mp htake
    split at h
    · exact absurd h takes_throw
    · exact absurd h takes_throw
    · next found hne hfound =>
      obtain ⟨rfl, rfl⟩ := takes_pure.mp h
      exact ⟨hne, by rw [FirmwareKind.ofMagic?_eq_some.mp hfound]⟩
  · rintro ⟨hne, rfl⟩
    refine ⟨kind.magic, rest, takes_take.mpr ⟨rfl, kind.length_magic⟩, ?_⟩
    rw [FirmwareKind.ofMagic?_eq_some.mpr rfl]
    cases kind with
    | container => exact absurd rfl hne
    | app | esp | leapfrog => exact takes_pure.mpr ⟨rfl, rfl⟩

theorem takes_sectionHeader {s : FirmwareSection} :
    Takes (sectionHeader size kind) b s rest ↔ s.kind = kind ∧ s.md5 = none ∧ s.data = [] ∧
      b = s.fields ++ rest := by
  unfold sectionHeader
  simp only [takes_bind, takes_word16, takes_word32, takes_versionField, takes_octets, takes_pure]
  constructor
  · rintro ⟨vid, _, rfl, pid, _, rfl, version, _, rfl, length, _, rfl, sha256, _, rfl, rfl, rfl⟩
    simp [FirmwareSection.fields]
  · obtain ⟨kind', vid, pid, version, length, sha256, md5, data⟩ := s
    rintro ⟨rfl, rfl, rfl, rfl⟩
    simp only [FirmwareSection.fields, List.append_nil, List.append_assoc]
    exact ⟨_, _, rfl, _, _, rfl, _, _, rfl, _, _, rfl, _, _, rfl, rfl, rfl⟩

theorem takes_sectionBody {s : FirmwareSection} (hkind : kind ≠ .container) :
    Takes (sectionBody size kind index) b s rest ↔
      s.kind = kind ∧ s.WellFormed ∧ b = s.fields ++ rest := by
  unfold sectionBody
  rw [takes_bind]
  constructor
  · rintro ⟨header, mid, hheader, himage⟩
    obtain ⟨hk, -, hdata, rfl⟩ := takes_sectionHeader.mp hheader
    obtain ⟨data, mid', htake, hdigest⟩ := takes_bind.mp himage
    obtain ⟨rfl, hlen⟩ := takes_take.mp htake
    split at hdigest
    · next hsha =>
      obtain ⟨rfl, rfl⟩ := takes_pure.mp hdigest
      refine ⟨hk, ⟨?_, hlen.symm, hsha.symm, ?_⟩, ?_⟩
      · cases kind <;> simp_all
      · simp only [FirmwareSection.md5For, hk]
      · simp only [FirmwareSection.fields, hdata, List.append_nil, List.append_assoc]
    · exact absurd hdigest takes_throw
  · rintro ⟨rfl, hs, rfl⟩
    -- the header is the section before its image is known
    let header : FirmwareSection := { s with md5 := none, data := [] }
    refine ⟨header, s.data ++ rest, takes_sectionHeader.mpr ⟨rfl, rfl, rfl, ?_⟩, ?_⟩
    · simp only [FirmwareSection.fields, header, List.append_nil, List.append_assoc]
    · refine takes_bind.mpr ⟨s.data, rest, takes_take.mpr ⟨rfl, hs.length_eq.symm⟩, ?_⟩
      rw [if_pos hs.sha256_eq.symm]
      refine takes_pure.mpr ⟨?_, rfl⟩
      obtain ⟨kind', vid, pid, version, length, sha256, md5, data⟩ := s
      have hmd5 : md5 = FirmwareSection.md5For kind' data := hs.md5_eq
      rw [hmd5]

theorem takes_readSections {n : Nat} {ss : List FirmwareSection} :
    Takes (readSections size n index) b ss rest ↔ ss.length = n ∧ (∀ s ∈ ss, s.WellFormed) ∧
      b = ss.flatMap FirmwareSection.encode ++ rest := by
  induction n generalizing index b rest ss with
  | zero =>
    rw [readSections, takes_pure]
    constructor
    · rintro ⟨rfl, rfl⟩
      simp
    · rintro ⟨hlen, -, rfl⟩
      obtain rfl := List.length_eq_zero_iff.mp hlen
      exact ⟨rfl, rfl⟩
  | succ n ih =>
    rw [readSections, takes_bind]
    constructor
    · rintro ⟨kind, mid, hkind, hfirst⟩
      obtain ⟨hne, rfl⟩ := takes_sectionKind.mp hkind
      obtain ⟨s, mid', hbody, hothers⟩ := takes_bind.mp hfirst
      obtain ⟨rfl, hs, rfl⟩ := (takes_sectionBody hne).mp hbody
      obtain ⟨ss', mid'', hrest, hall⟩ := takes_bind.mp hothers
      obtain ⟨rfl, hss, rfl⟩ := ih.mp hrest
      obtain ⟨rfl, rfl⟩ := takes_pure.mp hall
      refine ⟨rfl, ?_, ?_⟩
      · rintro s' hs'
        rcases List.mem_cons.mp hs' with rfl | hs'
        · exact hs
        · exact hss s' hs'
      · simp only [List.flatMap_cons, FirmwareSection.encode_eq s, List.append_assoc]
    · rintro ⟨hlen, hall, rfl⟩
      obtain ⟨s, ss, rfl⟩ := List.exists_cons_of_length_eq_add_one hlen
      have hs := hall s List.mem_cons_self
      rw [List.flatMap_cons, FirmwareSection.encode_eq s]
      simp only [List.append_assoc]
      refine ⟨s.kind, _, takes_sectionKind.mpr ⟨hs.kind_ne, rfl⟩, takes_bind.mpr ?_⟩
      refine ⟨s, _, (takes_sectionBody hs.kind_ne).mpr ⟨rfl, hs, rfl⟩, takes_bind.mpr ?_⟩
      refine ⟨ss, rest, ih.mpr ⟨?_, fun s' hs' => ?_, rfl⟩, takes_pure.mpr ⟨rfl, rfl⟩⟩
      · exact Nat.succ.inj hlen
      · exact hall s' (List.mem_cons_of_mem s hs')

theorem takes_boxHeader {f : FirmwareFile} :
    Takes (boxHeader size) b f rest ↔ f.sections = [] ∧
      b = be16 f.vid ++ be16 f.pid ++ f.version.encode ++ be32 f.numSections ++ rest := by
  unfold boxHeader
  simp only [takes_bind, takes_word16, takes_word32, takes_versionField, takes_pure]
  constructor
  · rintro ⟨vid, _, rfl, pid, _, rfl, version, _, rfl, count, _, rfl, rfl, rfl⟩
    simp
  · obtain ⟨vid, pid, version, count, sections⟩ := f
    rintro ⟨rfl, rfl⟩
    simp only [List.append_assoc]
    exact ⟨_, _, rfl, _, _, rfl, _, _, rfl, _, _, rfl, rfl, rfl⟩

theorem WellFormed.encode_eq {f : FirmwareFile} (hf : f.WellFormed) :
    f.encode = FirmwareKind.container.magic ++ (be16 f.vid ++ be16 f.pid ++ f.version.encode ++
      be32 f.numSections ++ f.sections.flatMap FirmwareSection.encode) := by
  have hcount : UInt32.ofNat f.sections.length = f.numSections := by
    rw [← hf.count_eq, UInt32.ofNat_toNat]
  simp only [encode, hcount, List.append_assoc]

theorem takes_readFile {f : FirmwareFile} :
    Takes (readFile size) b f rest ↔ (f.WellFormed ∧ b = f.encode ++ rest) ∨
      ∃ s : FirmwareSection, s.WellFormed ∧ f = ofSection s ∧ b = s.encode ++ rest := by
  unfold readFile
  rw [takes_bind]
  constructor
  · rintro ⟨kind, mid, hkind, hcontent⟩
    obtain rfl := takes_fileKind.mp hkind
    split at hcontent
    · obtain ⟨box, mid', hbox, hcounted⟩ := takes_bind.mp hcontent
      obtain ⟨-, rfl⟩ := takes_boxHeader.mp hbox
      split at hcounted
      · next hcount =>
        obtain ⟨ss, mid'', hsections, hfile⟩ := takes_bind.mp hcounted
        obtain ⟨hlen, hall, rfl⟩ := takes_readSections.mp hsections
        obtain ⟨rfl, rfl⟩ := takes_pure.mp hfile
        -- as many sections were read as the header says, and it was not refused
        have hf : WellFormed { box with sections := ss } := by
          refine ⟨?_, ?_, hlen.symm, hall⟩
          · rw [hlen]
            exact hcount.1
          · rw [hlen]
            exact hcount.2
        refine .inl ⟨hf, ?_⟩
        rw [hf.encode_eq]
        simp only [List.append_assoc]
      · exact absurd hcounted takes_throw
    · next hne =>
      obtain ⟨s, mid', hbody, hfile⟩ := takes_bind.mp hcontent
      obtain ⟨rfl, hs, rfl⟩ := (takes_sectionBody hne).mp hbody
      obtain ⟨rfl, rfl⟩ := takes_pure.mp hfile
      refine .inr ⟨s, hs, rfl, ?_⟩
      rw [s.encode_eq, List.append_assoc]
  · rintro (⟨hf, rfl⟩ | ⟨s, hs, rfl, rfl⟩)
    · rw [hf.encode_eq]
      simp only [List.append_assoc]
      refine ⟨.container, _, takes_fileKind.mpr rfl, takes_bind.mpr ?_⟩
      refine ⟨{ f with sections := [] }, f.sections.flatMap FirmwareSection.encode ++ rest,
        takes_boxHeader.mpr ⟨rfl, by simp only [List.append_assoc]⟩, ?_⟩
      have hcount : 1 ≤ f.numSections.toNat ∧ f.numSections.toNat ≤ maxSections := by
        rw [hf.count_eq]
        exact ⟨hf.one_le, hf.le_three⟩
      rw [if_pos hcount]
      refine takes_bind.mpr ⟨f.sections, rest, takes_readSections.mpr ?_,
        takes_pure.mpr ⟨rfl, rfl⟩⟩
      exact ⟨hf.count_eq.symm, hf.sections, rfl⟩
    · rw [s.encode_eq, List.append_assoc]
      refine ⟨s.kind, s.fields ++ rest, takes_fileKind.mpr rfl, ?_⟩
      have hbody : Takes (sectionBody size s.kind 1) (s.fields ++ rest) s rest :=
        (takes_sectionBody hs.kind_ne).mpr ⟨rfl, hs, rfl⟩
      split
      · next hkind => exact absurd hkind hs.kind_ne
      · exact takes_bind.mpr ⟨s, rest, hbody, takes_pure.mpr ⟨rfl, rfl⟩⟩

theorem decode_eq_ok {f : FirmwareFile} :
    decode b = .ok f ↔ ∃ rest, Takes (readFile b.length) b f rest := by
  unfold decode Takes
  cases (readFile b.length).run b with
  | error e =>
    constructor
    · intro h
      cases h
    · rintro ⟨rest, ⟨⟩⟩
  | ok out =>
    obtain ⟨f', rest'⟩ := out
    constructor
    · rintro ⟨⟩
      exact ⟨rest', rfl⟩
    · rintro ⟨rest, ⟨⟩⟩
      rfl

theorem decode_encode_append {f : FirmwareFile} (hf : f.WellFormed) (rest : Bytes) :
    decode (f.encode ++ rest) = .ok f :=
  decode_eq_ok.mpr ⟨rest, takes_readFile.mpr (.inl ⟨hf, rfl⟩)⟩

theorem encode_not_boxed {s : FirmwareSection} (hs : s.WellFormed) (rest : Bytes) :
    ¬FirmwareKind.container.magic <+: s.encode ++ rest := by
  rintro ⟨t, ht⟩
  rw [s.encode_eq, List.append_assoc] at ht
  have hlen : FirmwareKind.container.magic.length = s.kind.magic.length := by
    rw [FirmwareKind.length_magic, FirmwareKind.length_magic]
  obtain ⟨hmagic, -⟩ := List.append_inj ht hlen
  have hkind := FirmwareKind.ofMagic?_eq_some.mpr hmagic
  rw [FirmwareKind.ofMagic?_eq_some.mpr rfl] at hkind
  exact hs.kind_ne (Option.some.inj hkind).symm

theorem wellFormed_ofSections {ss : List FirmwareSection} (hone : 1 ≤ ss.length)
    (hthree : ss.length ≤ 3) (hss : ∀ s ∈ ss, s.WellFormed) (vid pid : UInt16)
    (version : Version) : (ofSections vid pid version ss).WellFormed := by
  have hcount : ss.length < UInt32.size := Nat.lt_of_le_of_lt hthree (by decide)
  exact ⟨hone, hthree, UInt32.toNat_ofNat_of_lt' hcount, hss⟩

theorem wellFormed_ofSection {s : FirmwareSection} (hs : s.WellFormed) :
    (ofSection s).WellFormed := by
  refine ⟨by simp [ofSection], by simp [ofSection], rfl, fun s' hs' => ?_⟩
  rw [List.mem_singleton.mp hs']
  exact hs

theorem wellFormed_of_decode {f : FirmwareFile} (h : decode b = .ok f) : f.WellFormed := by
  obtain ⟨rest, hfile⟩ := decode_eq_ok.mp h
  obtain ⟨hf, -⟩ | ⟨s, hs, rfl, -⟩ := takes_readFile.mp hfile
  · exact hf
  · exact wellFormed_ofSection hs

/-- A file is read as `f` if and only if it starts with the encoding of `f`, which is well-formed,
or with that of a well-formed section of which `f` is made. So what is encoded is read back, what
was read is encoded as it was, and boxes that are encoded alike are one. -/
theorem decode_grammar :
    (∀ (b : Bytes) (f : FirmwareFile), decode b = .ok f ↔
      (∃ rest, f.WellFormed ∧ b = f.encode ++ rest) ∨
        ∃ (s : FirmwareSection) (rest : Bytes), s.WellFormed ∧ f = ofSection s ∧
          b = s.encode ++ rest) ∧
    (∀ f : FirmwareFile, f.WellFormed → decode f.encode = .ok f) ∧
    (∀ (b : Bytes) (f : FirmwareFile), decode b = .ok f → f.WellFormed ∧
      (FirmwareKind.container.magic <+: b → f.encode <+: b) ∧
      (¬FirmwareKind.container.magic <+: b →
        f.sections.flatMap FirmwareSection.encode <+: b)) ∧
    ∀ f f' : FirmwareFile, f.WellFormed → f'.WellFormed → f.encode = f'.encode → f = f' := by
  have hgrammar : ∀ (b : Bytes) (f : FirmwareFile), decode b = .ok f ↔
      (∃ rest, f.WellFormed ∧ b = f.encode ++ rest) ∨
        ∃ (s : FirmwareSection) (rest : Bytes), s.WellFormed ∧ f = ofSection s ∧
          b = s.encode ++ rest := by
    intro b f
    rw [decode_eq_ok]
    constructor
    · rintro ⟨rest, h⟩
      rcases takes_readFile.mp h with hbox | ⟨s, hs⟩
      · exact .inl ⟨rest, hbox⟩
      · exact .inr ⟨s, rest, hs⟩
    · rintro (⟨rest, hbox⟩ | ⟨s, rest, hs⟩)
      · exact ⟨rest, takes_readFile.mpr (.inl hbox)⟩
      · exact ⟨rest, takes_readFile.mpr (.inr ⟨s, hs⟩)⟩
  have hread : ∀ f : FirmwareFile, f.WellFormed → decode f.encode = .ok f := by
    intro f hf
    have h := decode_encode_append hf []
    rwa [List.append_nil] at h
  refine ⟨hgrammar, hread, ?_, ?_⟩
  · intro b f h
    rcases (hgrammar b f).mp h with ⟨rest, hf, rfl⟩ | ⟨s, rest, hs, rfl, rfl⟩
    · -- the encoding of a box starts with the magic of a box
      refine ⟨hf, fun _ => List.prefix_append _ _, fun hbare => absurd ?_ hbare⟩
      rw [hf.encode_eq, List.append_assoc]
      exact List.prefix_append _ _
    · refine ⟨wellFormed_ofSection hs, fun hboxed => ?_, fun _ => ?_⟩
      · exact absurd hboxed (encode_not_boxed hs rest)
      · rw [ofSection, List.flatMap_singleton]
        exact List.prefix_append _ _
  · intro f f' hf hf' he
    have h := hread f hf
    rw [he, hread f' hf'] at h
    exact (Except.ok.inj h).symm

end FirmwareFile

end CardFirmware
