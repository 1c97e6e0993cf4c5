import CardFirmware.Proofs.Firmware.Header

/-! Files with a section whose image is not the one that its digest is of. The sections before it
are read, its image is not accepted, and what follows is not looked at, so that the file is refused
with the number of this section (`damage_pinned`). -/

namespace CardFirmware

open Bytes (be16 be32)

/-- A section as it is stored, with an image of the right length but not of the right digest. -/
structure FirmwareSection.Damaged (s : FirmwareSection) : Prop where
  kind_ne : s.kind ≠ .container
  length_eq : s.length.toNat = s.data.length
  sha256_ne : Sha256.hash s.data ≠ s.sha256

theorem FirmwareSection.WellFormed.damaged {s : FirmwareSection} (hs : s.WellFormed) {data : Bytes}
    {digest : Octets 32} (hlength : data.length = s.data.length)
    (hdigest : Sha256.hash data ≠ digest) :
    ({ s with data, sha256 := digest } : FirmwareSection).Damaged :=
  ⟨hs.kind_ne, hs.length_eq.trans hlength.symm, hdigest⟩

def FirmwareFile.encodeUpTo (f : FirmwareFile) (k : Nat) : Bytes :=
  FirmwareKind.container.magic ++ be16 f.vid ++ be16 f.pid ++ f.version.encode ++
    be32 (UInt32.ofNat f.sections.length) ++ (f.sections.take k).flatMap FirmwareSection.encode

namespace FirmwareFile

variable {size index k n : Nat} {b rest : Bytes} {e : FirmwareError} {f : FirmwareFile}
  {s : FirmwareSection} {earlier : List FirmwareSection}

theorem encode_split (h : f.sections[k]? = some s) :
    f.encode = f.encodeUpTo k ++
      (s.encode ++ (f.sections.drop (k + 1)).flatMap FirmwareSection.encode) := by
  obtain ⟨hk, hs⟩ := List.getElem?_eq_some_iff.mp h
  have hsections : f.sections = f.sections.take k ++ s :: f.sections.drop (k + 1) := by
    rw [← hs, ← List.drop_eq_getElem_cons hk, List.take_append_drop]
  have hflat := congrArg (List.flatMap FirmwareSection.encode) hsections
  rw [List.flatMap_append, List.flatMap_cons] at hflat
  rw [encode, encodeUpTo, hflat, List.append_assoc _ _ (s.encode ++ _)]

theorem refuses_sectionBody (hs : s.Damaged) :
    Refuses (sectionBody size s.kind index) (s.fields ++ rest) (.corrupt index) := by
  have hheader : Takes (sectionHeader size s.kind) (s.bare.fields ++ (s.data ++ rest)) s.bare
      (s.data ++ rest) := takes_sectionHeader.mpr ⟨rfl, rfl, rfl, rfl⟩
  have hdata : Takes (take size s.bare.length.toNat) (s.data ++ rest) s.data rest :=
    takes_take.mpr ⟨rfl, hs.length_eq.symm⟩
  have hdigest : ¬Sha256.hash s.data = s.bare.sha256 := hs.sha256_ne
  rw [s.fields_bare, List.append_assoc]
  refine hheader.bind_refuses (hdata.bind_refuses ?_)
  rw [if_neg hdigest]
  exact refuses_throw.mpr rfl

theorem refuses_readSections (hearlier : ∀ s ∈ earlier, s.WellFormed) (hs : s.Damaged)
    (hn : earlier.length < n) :
    Refuses (readSections size n index)
      (earlier.flatMap FirmwareSection.encode ++ (s.encode ++ rest))
      (.corrupt (index + earlier.length)) := by
  induction earlier generalizing n index with
  | nil =>
    obtain ⟨n, rfl⟩ := Nat.exists_eq_succ_of_ne_zero (Nat.ne_of_gt hn)
    have hkind : Takes (sectionKind size index) (s.kind.magic ++ (s.fields ++ rest)) s.kind
        (s.fields ++ rest) := takes_sectionKind.mpr ⟨hs.kind_ne, rfl⟩
    rw [List.flatMap_nil, List.nil_append, s.encode_eq, List.append_assoc]
    exact hkind.bind_refuses ((refuses_sectionBody hs).bind _)
  | cons first earlier ih =>
    obtain ⟨n, rfl⟩ := Nat.exists_eq_succ_of_ne_zero (Nat.ne_of_gt (Nat.zero_lt_of_lt hn))
    obtain ⟨hfirst, hearlier⟩ := List.forall_mem_cons.mp hearlier
    have hlater : Refuses (readSections size n (index + 1))
        (earlier.flatMap FirmwareSection.encode ++ (s.encode ++ rest))
        (.corrupt (index + 1 + earlier.length)) := ih hearlier (Nat.lt_of_succ_lt_succ hn)
    rw [Nat.add_assoc, Nat.add_comm 1] at hlater
    rw [List.flatMap_cons, first.encode_eq, List.append_assoc, List.append_assoc]
    generalize earlier.flatMap FirmwareSection.encode ++ (s.encode ++ rest) = later at hlater
    have hkind : Takes (sectionKind size index) (first.kind.magic ++ (first.fields ++ later))
        first.kind (first.fields ++ later) := takes_sectionKind.mpr ⟨hfirst.kind_ne, rfl⟩
    have hbody : Takes (sectionBody size first.kind index) (first.fields ++ later) first later :=
      (takes_sectionBody hfirst.kind_ne).mpr ⟨rfl, hfirst, rfl⟩
    exact hkind.bind_refuses (hbody.bind_refuses (hlater.bind _))

theorem refuses_readFile_box (hf : f.WellFormed)
    (h : Refuses (readSections size f.sections.length 1)
      ((f.sections.take k).flatMap FirmwareSection.encode ++ b) e) :
    Refuses (readFile size) (f.encodeUpTo k ++ b) e := by
  have hcount : UInt32.ofNat f.sections.length = f.numSections := by
    rw [← hf.count_eq, UInt32.ofNat_toNat]
  have hnumber : 1 ≤ f.numSections.toNat ∧ f.numSections.toNat ≤ maxSections := by
    rw [hf.count_eq]
    exact ⟨hf.one_le, hf.le_three⟩
  rw [encodeUpTo, hcount, List.append_assoc]
  generalize (f.sections.take k).flatMap FirmwareSection.encode ++ b = sections at h ⊢
  have hheader : Takes (boxHeader size) (be16 f.vid ++ be16 f.pid ++ f.version.encode ++
      be32 f.numSections ++ sections) { f with sections := [] } sections :=
    takes_boxHeader.mpr ⟨rfl, rfl⟩
  simp only [List.append_assoc] at hheader ⊢
  refine Takes.bind_refuses (takes_fileKind.mpr rfl) (hheader.bind_refuses ?_)
  rw [if_pos hnumber, hf.count_eq]
  exact h.bind _

theorem decode_damaged_box (hf : f.WellFormed) (hk : k < f.sections.length) (hs : s.Damaged)
    (rest : Bytes) :
    decode (f.encodeUpTo k ++ (s.encode ++ rest)) = .error (.corrupt (k + 1)) := by
  have hearlier : ∀ s ∈ f.sections.take k, s.WellFormed :=
    fun s hs => hf.sections s (List.mem_of_mem_take hs)
  have hlength : (f.sections.take k).length = k := List.length_take_of_le (Nat.le_of_lt hk)
  have hsections (size : Nat) : Refuses (readSections size f.sections.length 1)
      ((f.sections.take k).flatMap FirmwareSection.encode ++ (s.encode ++ rest))
      (.corrupt (1 + (f.sections.take k).length)) :=
    refuses_readSections hearlier hs (by rwa [hlength])
  rw [hlength, Nat.add_comm] at hsections
  exact decode_eq_error.mpr (refuses_readFile_box hf (hsections _))

theorem decode_damaged_section (hs : s.Damaged) (rest : Bytes) :
    decode (s.encode ++ rest) = .error (.corrupt 1) := by
  rw [decode_eq_error, s.encode_eq, List.append_assoc]
  refine Takes.bind_refuses (takes_fileKind.mpr rfl) ?_
  split
  · next hkind => exact absurd hkind hs.kind_ne
  · exact (refuses_sectionBody hs).bind _

/-- If in a well-formed box an image is replaced by another one of the same length, and its digest
by one that the new image does not have, the box is refused with the number of the section, whatever
follows; and so is a section by itself. The image of a section that was read always has the digest
that was stored for it. -/
theorem damage_pinned :
    (∀ f : FirmwareFile, f.WellFormed → ∀ (k : Nat) (s : FirmwareSection),
      f.sections[k]? = some s →
      (∃ later, f.encode = f.encodeUpTo k ++ (s.encode ++ later)) ∧
      ∀ (data : Bytes) (digest : Octets 32), data.length = s.data.length →
        Sha256.hash data ≠ digest → ∀ rest,
          let damaged := { s with data, sha256 := digest }
          decode (f.encodeUpTo k ++ (damaged.encode ++ rest)) = .error (.corrupt (k + 1))) ∧
    (∀ s : FirmwareSection, s.WellFormed → ∀ (data : Bytes) (digest : Octets 32),
      data.length = s.data.length → Sha256.hash data ≠ digest → ∀ rest,
        let damaged := { s with data, sha256 := digest }
        decode (damaged.encode ++ rest) = .error (.corrupt 1)) ∧
    ∀ (b : Bytes) (f : FirmwareFile), decode b = .ok f →
      ∀ s ∈ f.sections, Sha256.hash s.data = s.sha256 := by
  refine ⟨fun f hf k s hsection => ?_, fun s hs data digest hlength hdigest rest => ?_, ?_⟩
  · obtain ⟨hk, hmem⟩ := List.getElem?_eq_some_iff.mp hsection
    have hs : s.WellFormed := hf.sections s (hmem ▸ List.getElem_mem hk)
    refine ⟨⟨_, encode_split hsection⟩, fun data digest hlength hdigest rest => ?_⟩
    exact decode_damaged_box hf hk (hs.damaged hlength hdigest) rest
  · exact decode_damaged_section (hs.damaged hlength hdigest) rest
  · intro b f hfile s hs
    exact ((wellFormed_of_decode hfile).sections s hs).sha256_eq.symm

/-- The last byte of an image is changed, in the second section of a box and in this section by
itself, and a byte is added. -/
theorem second_image_damaged :
    let app := FirmwareSection.ofData .app 1 2 ⟨1, 0, 0, 7⟩ [1, 2, 3]
    let esp := FirmwareSection.ofData .esp 1 2 ⟨1, 0, 0, 7⟩ [7, 8, 9]
    let f := ofSections 1 2 ⟨1, 0, 0, 7⟩ [app, esp]
    let damaged := { esp with data := [7, 8, 10] }
    f.WellFormed ∧ f.sections[1]? = some esp ∧ Sha256.hash [7, 8, 10] ≠ esp.sha256 ∧
      decode (f.encodeUpTo 1 ++ (damaged.encode ++ [0])) = .error (.corrupt 2) ∧
      esp.WellFormed ∧ decode (damaged.encode ++ [0]) = .error (.corrupt 1) := by
  intro app esp f damaged
  have happ : app.WellFormed := FirmwareSection.wellFormed_ofData (.inl rfl) _ _ _ (by decide)
  have hesp : esp.WellFormed :=
    FirmwareSection.wellFormed_ofData (.inr (.inl rfl)) _ _ _ (by decide)
  have hf : f.WellFormed :=
    wellFormed_ofSections (by decide) (by decide)
      (List.forall_mem_cons.mpr ⟨happ, List.forall_mem_singleton.mpr hesp⟩) _ _ _
  have hsection : f.sections[1]? = some esp := rfl
  have hdigest : Sha256.hash [7, 8, 10] ≠ esp.sha256 := by decide +kernel
  obtain ⟨hbox, hbare, -⟩ := damage_pinned
  exact ⟨hf, hsection, hdigest, (hbox f hf 1 esp hsection).2 [7, 8, 10] esp.sha256 rfl hdigest [0],
    hesp, hbare esp hesp [7, 8, 10] esp.sha256 rfl hdigest [0]⟩

end FirmwareFile

end CardFirmware
