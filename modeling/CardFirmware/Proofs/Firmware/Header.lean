import CardFirmware.Proofs.Firmware.Grammar
import CardFirmware.Proofs.Firmware.Refusals

/-! What the first 64 bytes of a file say of it. They hold the whole header of every file that is
accepted, and what is read from them agrees with the file; a file that is refused for them is
refused for the same reason when it is read in full (`header_read_agrees`). -/

namespace CardFirmware

open Bytes (be16 be32)

@[simp] theorem Version.length_encode (v : Version) : v.encode.length = 16 := rfl

def FirmwareSection.bare (s : FirmwareSection) : FirmwareSection :=
  { s with md5 := none, data := [] }

theorem FirmwareSection.fields_bare (s : FirmwareSection) : s.fields = s.bare.fields ++ s.data := by
  simp only [fields, bare, List.append_nil]

theorem FirmwareSection.length_fields_bare (s : FirmwareSection) : s.bare.fields.length = 56 := by
  simp [fields, bare, s.sha256.length_eq]

namespace FirmwareFile

variable {size : Nat} {b rest : Bytes} {f : FirmwareFile} {e : FirmwareError}

theorem decodeHeader_of_takes (h : Takes (readHeader b.length) b f rest) :
    decodeHeader b = .ok f := by
  unfold Takes at h
  rw [decodeHeader, h]
  rfl

theorem takes_readHeader_box (f : FirmwareFile) :
    Takes (readHeader size) (FirmwareKind.container.magic ++ (be16 f.vid ++ be16 f.pid ++
      f.version.encode ++ be32 f.numSections) ++ rest) { f with sections := [] } rest := by
  unfold readHeader
  rw [List.append_assoc]
  exact takes_bind.mpr ⟨.container, _, takes_fileKind.mpr rfl, takes_boxHeader.mpr ⟨rfl, rfl⟩⟩

theorem takes_readHeader_section {s : FirmwareSection} (hs : s.kind ≠ .container) :
    Takes (readHeader size) (s.kind.magic ++ s.bare.fields ++ rest) (ofSection s.bare) rest := by
  unfold readHeader
  rw [List.append_assoc]
  refine takes_bind.mpr ⟨s.kind, s.bare.fields ++ rest, takes_fileKind.mpr rfl, ?_⟩
  split
  · next hkind => exact absurd hkind hs
  · have hheader : Takes (sectionHeader size s.kind) (s.bare.fields ++ rest) s.bare rest :=
      takes_sectionHeader.mpr ⟨rfl, rfl, rfl, rfl⟩
    exact takes_bind.mpr ⟨s.bare, rest, hheader, takes_pure.mpr ⟨rfl, rfl⟩⟩

theorem encode_boxed (hf : f.WellFormed) (rest : Bytes) :
    FirmwareKind.container.magic <+: f.encode ++ rest := by
  rw [hf.encode_eq, List.append_assoc]
  exact List.prefix_append _ _

theorem decodeHeader_of_decode (h : decode b = .ok f) :
    (FirmwareKind.container.magic <+: b ∧
        decodeHeader (b.take headerMax) = .ok { f with sections := [] }) ∨
      (¬FirmwareKind.container.magic <+: b ∧
        ∃ s, f = ofSection s ∧ decodeHeader (b.take headerMax) = .ok (ofSection s.bare)) := by
  have hshort {start later : Bytes} (hstart : start.length ≤ headerMax) :
      (start ++ later).take headerMax = start ++ later.take (headerMax - start.length) := by
    rw [List.take_append, List.take_of_length_le hstart]
  obtain ⟨rest, hfile⟩ := decode_eq_ok.mp h
  obtain ⟨hf, rfl⟩ | ⟨s, hs, rfl, rfl⟩ := takes_readFile.mp hfile
  · refine .inl ⟨encode_boxed hf rest, ?_⟩
    rw [hf.encode_eq, List.append_assoc, List.append_assoc, ← List.append_assoc, hshort]
    · exact decodeHeader_of_takes (takes_readHeader_box f)
    · simp [FirmwareKind.length_magic, headerMax]
  · refine .inr ⟨encode_not_boxed hs rest, s, rfl, ?_⟩
    rw [s.encode_eq, s.fields_bare, List.append_assoc, List.append_assoc, ← List.append_assoc,
      hshort]
    · exact decodeHeader_of_takes (takes_readHeader_section hs.kind_ne)
    · simp [FirmwareKind.length_magic, s.length_fields_bare, headerMax]

theorem header_agrees (h : decode b = .ok f) :
    ∃ header, decodeHeader (b.take headerMax) = .ok header ∧ header.vid = f.vid ∧
      header.pid = f.pid ∧ header.version = f.version := by
  obtain ⟨-, hheader⟩ | ⟨-, s, rfl, hheader⟩ := decodeHeader_of_decode h
  · exact ⟨_, hheader, rfl, rfl, rfl⟩
  · exact ⟨_, hheader, rfl, rfl, rfl⟩

theorem refuses_readFile (h : Refuses (readHeader size) b e) : Refuses (readFile size) b e := by
  unfold readHeader at h
  unfold readFile
  rw [refuses_bind] at h ⊢
  rcases h with hkind | ⟨kind, mid, hkind, hheader⟩
  · exact .inl hkind
  · refine .inr ⟨kind, mid, hkind, ?_⟩
    split at hheader
    · exact hheader.bind _
    · have hsection : Refuses (sectionHeader size kind) mid e := by
        rcases refuses_bind.mp hheader with hfields | ⟨s, later, -, hpure⟩
        · exact hfields
        · exact absurd hpure refuses_pure
      have hbody : Refuses (sectionBody size kind 1) mid e := hsection.bind _
      exact hbody.bind _

theorem refuses_readHeader (hb : headerMax ≤ b.length) (h : Refuses (readHeader size) b e) :
    Refuses (fileKind size) b e := by
  unfold readHeader at h
  rcases refuses_bind.mp h with hkind | ⟨kind, mid, hkind, hheader⟩
  · exact hkind
  · have hmid : 56 ≤ mid.length := by
      have hlength := congrArg List.length (takes_fileKind.mp hkind)
      rw [List.length_append, kind.length_magic] at hlength
      rw [headerMax] at hb
      omega
    split at hheader
    · exact absurd hheader (measures_boxHeader.not_refuses (Nat.le_trans (by decide) hmid))
    · rcases refuses_bind.mp hheader with hfields | ⟨s, later, -, hpure⟩
      · exact absurd hfields ((measures_sectionHeader kind).not_refuses hmid)
      · exact absurd hpure refuses_pure

/-- The first bytes of a file are read like the file. If the file is accepted, they give its header,
without sections if it is a box and else with the fields of the only section; and what they are
refused for, the file is refused for as well. -/
theorem header_read_agrees (b : Bytes) :
    (∀ f, decode b = .ok f → ∃ header, decodeHeader (b.take headerMax) = .ok header ∧
      header.vid = f.vid ∧ header.pid = f.pid ∧ header.version = f.version ∧
      header.numSections = f.numSections ∧
      (FirmwareKind.container.magic <+: b → header.sections = []) ∧
      (¬FirmwareKind.container.magic <+: b → ∃ s, f.sections = [s] ∧
        header.sections = [{ s with md5 := none, data := [] }])) ∧
    ∀ e, decodeHeader (b.take headerMax) = .error e → decode b = .error e := by
  constructor
  · intro f hfile
    rcases decodeHeader_of_decode hfile with ⟨hboxed, hheader⟩ | ⟨hbare, s, rfl, hheader⟩
    · exact ⟨_, hheader, rfl, rfl, rfl, rfl, fun _ => rfl, fun hbare => absurd hboxed hbare⟩
    · exact ⟨_, hheader, rfl, rfl, rfl, rfl, fun hboxed => absurd hboxed hbare,
        fun _ => ⟨s, rfl, rfl⟩⟩
  · intro e he
    rw [decodeHeader_eq_error] at he
    rw [decode_eq_error]
    rcases Nat.le_total b.length headerMax with hshort | hlong
    · -- the first bytes are the whole file
      rw [List.take_of_length_le hshort] at he
      exact refuses_readFile he
    · have hlength : (b.take headerMax).length = headerMax := List.length_take_of_le hlong
      rw [hlength] at he
      have hkind := refuses_readHeader (Nat.le_of_eq hlength.symm) he
      have height : 8 ≤ headerMax := by decide
      rw [refuses_fileKind (by rwa [hlength]), List.take_take, Nat.min_eq_left height] at hkind
      -- the error names no length, so it does not tell how much of the file was there
      have hfile : Refuses (fileKind b.length) b e :=
        (refuses_fileKind (Nat.le_trans height hlong)).mpr hkind
      exact hfile.bind _

/-- The header of a bare section has neither image nor MD5 digest; cut off within its vendor number
the section is refused either way. -/
theorem section_header_read :
    let esp := FirmwareSection.ofData .esp 1 2 ⟨1, 0, 0, 7⟩ [7, 8, 9]
    let cut := esp.encode.take 9
    decode esp.encode = .ok (ofSection esp) ∧
      decodeHeader (esp.encode.take headerMax) =
        .ok (ofSection { esp with md5 := none, data := [] }) ∧
      decodeHeader (cut.take headerMax) = .error (.truncated 10 9) ∧
      decode cut = .error (.truncated 10 9) := by
  intro esp cut
  have hesp : esp.WellFormed :=
    FirmwareSection.wellFormed_ofData (.inr (.inl rfl)) 1 2 _ (by decide)
  have hfile : decode esp.encode = .ok (ofSection esp) :=
    decode_eq_ok.mpr ⟨[], takes_readFile.mpr (.inr ⟨esp, hesp, rfl, (List.append_nil _).symm⟩)⟩
  have hbare : ¬FirmwareKind.container.magic <+: esp.encode := by
    have h := encode_not_boxed hesp []
    rwa [List.append_nil] at h
  obtain ⟨⟨vid, pid, version, count, sections⟩, hheader, rfl, rfl, rfl, rfl, -, hsections⟩ :=
    (header_read_agrees esp.encode).1 _ hfile
  obtain ⟨s, hs, rfl⟩ := hsections hbare
  obtain rfl : esp = s := (List.cons.inj hs).1
  have hcut : decodeHeader (cut.take headerMax) = .error (.truncated 10 9) := rfl
  exact ⟨hfile, hheader, hcut, (header_read_agrees cut).2 _ hcut⟩

end FirmwareFile

end CardFirmware
