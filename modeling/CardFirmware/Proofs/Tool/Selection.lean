import CardFirmware.Proofs.Firmware.Directory
import CardFirmware.Proofs.Firmware.Header
import CardFirmware.Tool.Selection

/-! Which firmware is selected for a card. Without a file being named it is the newest one that the
directory offers for the product of the card, read in full, and never one that the card runs already
or that is older (`selection_never_downgrades`). -/

namespace CardFirmware

structure Offered (t : FileTree) (directory : Path) (pid : UInt16) (path : Path)
    (header : FirmwareFile) : Prop where
  listed : ∃ names name, t.names directory = .ok names ∧ name ∈ names ∧
    Firmware.isFirmwareName name ∧ path = Path.join directory name
  readable : Firmware.readHeader t path = .ok header
  vid_eq : header.vid = vendorId
  pid_eq : header.pid = pid

namespace Firmware

variable {t : FileTree} {path : Path} {f : FirmwareFile}

theorem readHeader_of_read (h : Firmware.read t path = .ok f) :
    ∃ header, readHeader t path = .ok header ∧ header.vid = f.vid ∧ header.pid = f.pid ∧
      header.version = f.version := by
  unfold Firmware.read at h
  split at h
  · cases h
  · next b hb =>
    obtain ⟨header, hheader, hsame⟩ := FirmwareFile.header_agrees h
    refine ⟨header, ?_, hsame⟩
    rw [readHeader, hb]
    exact hheader

theorem read_intact (h : Firmware.read t path = .ok f) :
    ∀ s ∈ f.sections, Sha256.hash s.data = s.sha256 := by
  unfold Firmware.read at h
  split at h
  · cases h
  · exact fun s hs => ((FirmwareFile.wellFormed_of_decode h).sections s hs).sha256_eq.symm

end Firmware

section Newest

variable {t : FileTree} {directory path : Path} {pid : UInt16} {header : FirmwareFile}

theorem enumerated (t : FileTree) (directory : Path) :
    ∃ found, (enumerateFirmwares t directory).1 = Firmware.sort productOrder found ∧
      (∀ f ∈ found, Offered t directory f.header.pid f.path f.header) ∧
      ∀ pid path header, Offered t directory pid path header →
        ∃ f ∈ found, f.header.pid = pid ∧ f.header.version = header.version := by
  cases hnames : t.names directory with
  | error cause =>
    refine ⟨[], ?_, nofun, fun pid path header h => ?_⟩
    · rw [enumerateFirmwares, Firmware.scan, hnames]
      cases cause <;> simp [Firmware.sort]
    · obtain ⟨names, name, hlisted, -⟩ := h.listed
      cases hnames.symm.trans hlisted
  | ok names =>
    have hscan := Firmware.scanned t vendorId
      ((names.filter Firmware.isFirmwareName).map (Path.join directory))
    refine ⟨_, by rw [enumerateFirmwares, Firmware.scan, hnames], fun f hf => ?_,
      fun pid path header h => ?_⟩
    · obtain ⟨hpath, hread, hvid⟩ := hscan.sound f hf
      obtain ⟨name, hname, hjoin⟩ := List.mem_map.mp hpath
      obtain ⟨hmem, hbin⟩ := List.mem_filter.mp hname
      exact ⟨⟨names, name, hnames, hmem, hbin, hjoin.symm⟩, hread, hvid, rfl⟩
    · obtain ⟨names', name, hlisted, hmem, hbin, rfl⟩ := h.listed
      cases hnames.symm.trans hlisted
      have hpath := List.mem_map_of_mem (f := Path.join directory)
        (List.mem_filter.mpr ⟨hmem, hbin⟩)
      obtain ⟨f, hf, hpid, hversion⟩ := hscan.complete _ hpath header h.readable h.vid_eq
      exact ⟨f, hf, hpid.trans h.pid_eq, hversion⟩

structure Newest (t : FileTree) (directory : Path) (pid : UInt16) (path : Path)
    (header : FirmwareFile) : Prop where
  offered : Offered t directory pid path header
  newest : ∀ path' header', Offered t directory pid path' header' →
    header'.version.toList ≤ header.version.toList

theorem latest?_enumerated {f : FoundFirmware}
    (h : Firmware.latest? (enumerateFirmwares t directory).1 pid = some f) :
    Newest t directory pid f.path f.header := by
  obtain ⟨found, hfound, hsound, hcomplete⟩ := enumerated t directory
  rw [hfound] at h
  obtain ⟨hf, rfl, hnewest⟩ := Firmware.latest?_sort h
  refine ⟨hsound f hf, fun path header hoffered => ?_⟩
  obtain ⟨g, hg, hpid, hversion⟩ := hcomplete _ path header hoffered
  rw [← hversion]
  exact hnewest g hg hpid

theorem latest?_enumerated_none
    (h : Firmware.latest? (enumerateFirmwares t directory).1 pid = none) :
    ¬Offered t directory pid path header := by
  intro hoffered
  obtain ⟨found, hfound, -, hcomplete⟩ := enumerated t directory
  obtain ⟨f, hf, hpid, -⟩ := hcomplete pid path header hoffered
  rw [hfound] at h
  exact Firmware.latest?_eq_none.mp h f (Firmware.mem_sort.mpr hf) hpid

inductive Sought (t : FileTree) (directory : Path) (card : SoundCard) :
    Except ToolError Path → Prop
  | nothing : (∀ path header, ¬Offered t directory card.usbId.pid path header) →
      Sought t directory card (.error (.noFirmware card.product))
  | current {path : Path} {header : FirmwareFile} {running : Version} :
      Newest t directory card.usbId.pid path header → card.appVersion = some running →
      header.version.toList ≤ running.toList →
      Sought t directory card (.error (.upToDate running card.product))
  | newer {path : Path} {header : FirmwareFile} :
      Newest t directory card.usbId.pid path header →
      (∀ running, card.appVersion = some running → running.toList < header.version.toList) →
      Sought t directory card (.ok path)

theorem newestFor_sought (t : FileTree) (directory : Path) (card : SoundCard) :
    Sought t directory card (newestFor card (enumerateFirmwares t directory).1) := by
  unfold newestFor
  split
  · next hnone => exact .nothing fun path header => latest?_enumerated_none hnone
  · next latest hlatest =>
    have hnewest := latest?_enumerated hlatest
    split
    · next running hrunning =>
      split
      · next hlt =>
        refine .newer hnewest fun running' hrunning' => ?_
        cases hrunning.symm.trans hrunning'
        exact Version.compare_eq_lt.mp hlt
      · next hlt =>
        exact .current hnewest hrunning (List.not_lt.mp fun h => hlt (Version.compare_eq_lt.mpr h))
    · next hunknown =>
      refine .newer hnewest fun running hrunning => ?_
      cases hunknown.symm.trans hrunning

end Newest

section Selected

variable {t : FileTree} {card : SoundCard} {found : List FoundFirmware} {directory path : Path}

theorem loaded_eq_ok {s : SelectedFirmware}
    (h : (match Firmware.read t path with
      | .error e => .error (.unloadable e)
      | .ok f =>
        if f.pid = card.usbId.pid then .ok ⟨path, f⟩
        else .error (.differentDevice f.pid card.usbId.pid) : Except ToolError SelectedFirmware) =
      .ok s) :
    s.path = path ∧ Firmware.read t path = .ok s.file ∧ s.file.pid = card.usbId.pid := by
  split at h
  · cases h
  · next f hread =>
    split at h
    · next hpid =>
      cases h
      exact ⟨rfl, hread, hpid⟩
    · cases h

theorem selectFirmware_named {s : SelectedFirmware}
    (h : selectFirmware t card (some path) found = .ok s) :
    s.path = path ∧ Firmware.read t path = .ok s.file ∧ s.file.pid = card.usbId.pid := by
  rw [selectFirmware] at h
  cases hheader : Firmware.readHeader t path with
  | error e =>
    rw [hheader] at h
    cases h
  | ok header =>
    rw [hheader] at h
    exact loaded_eq_ok h

theorem selectFirmware_unnamed {s : SelectedFirmware}
    (h : selectFirmware t card none found = .ok s) :
    newestFor card found = .ok s.path ∧ Firmware.read t s.path = .ok s.file ∧
      s.file.pid = card.usbId.pid := by
  rw [selectFirmware] at h
  cases hnewest : newestFor card found with
  | error e =>
    rw [hnewest] at h
    cases h
  | ok path =>
    rw [hnewest] at h
    obtain ⟨rfl, hread, hpid⟩ := loaded_eq_ok h
    exact ⟨rfl, hread, hpid⟩

theorem selectFirmware_eq_error {e : ToolError} (h : newestFor card found = .error e) :
    selectFirmware t card none found = .error e := by
  rw [selectFirmware, h]
  rfl

theorem selectFirmware_newer {header : FirmwareFile}
    (hoffered : Offered t directory card.usbId.pid path header)
    (h : newestFor card found = .ok path) :
    selectFirmware t card none found = match Firmware.read t path with
      | .ok file => .ok ⟨path, file⟩
      | .error e => .error (.unloadable e) := by
  rw [selectFirmware, h]
  simp only [bind, Except.bind]
  cases hread : Firmware.read t path with
  | error e => rfl
  | ok f =>
    obtain ⟨header', hheader, -, hpid, -⟩ := Firmware.readHeader_of_read hread
    cases hoffered.readable.symm.trans hheader
    exact if_pos (hpid.symm.trans hoffered.pid_eq)

end Selected

/-- Without a file being named, what is selected is a file that the directory offers for the product
of the card, read in full and intact. No file that is offered is newer, and it is newer than what
the card is known to run; nothing is selected if nothing is offered, or nothing newer than that. A
file that is named is selected only if it is for the product of the card. -/
theorem selection_never_downgrades (t : FileTree) (directory : Path) (card : SoundCard) :
    let selected := selectFirmware t card none (enumerateFirmwares t directory).1
    let offered := Offered t directory card.usbId.pid
    (∀ s, selected = .ok s → (∃ header, offered s.path header) ∧
      Firmware.read t s.path = .ok s.file ∧
      (∀ part ∈ s.file.sections, Sha256.hash part.data = part.sha256) ∧
      s.file.vid = 0x1235 ∧ s.file.pid = card.usbId.pid ∧
      (∀ path header, offered path header → header.version.toList ≤ s.file.version.toList) ∧
      ∀ running, card.appVersion = some running → running.toList < s.file.version.toList) ∧
    ((∀ path header, ¬offered path header) → selected = .error (.noFirmware card.product)) ∧
    (∀ running, card.appVersion = some running → (∃ path header, offered path header) →
      (∀ path header, offered path header → header.version.toList ≤ running.toList) →
      selected = .error (.upToDate running card.product)) ∧
    ((∃ path header, offered path header ∧
        ∀ running, card.appVersion = some running → running.toList < header.version.toList) →
      ∃ path header, offered path header ∧
        (∀ path' header', offered path' header' →
          header'.version.toList ≤ header.version.toList) ∧
        selected = match Firmware.read t path with
          | .ok file => .ok ⟨path, file⟩
          | .error e => .error (.unloadable e)) ∧
    ∀ path found s, selectFirmware t card (some path) found = .ok s →
      s.path = path ∧ Firmware.read t path = .ok s.file ∧ s.file.pid = card.usbId.pid := by
  have hsought := newestFor_sought t directory card
  generalize hfound : (enumerateFirmwares t directory).1 = found at hsought
  generalize hnewest : newestFor card found = sought at hsought
  refine ⟨fun s hs => ?_, fun hnone => ?_, fun running hrunning hsome hold => ?_, ?_, ?_⟩
  · obtain ⟨hpath, hread, hpid⟩ := selectFirmware_unnamed hs
    rw [hnewest] at hpath
    subst hpath
    cases hsought with
    | newer hnew hrunning =>
      obtain ⟨header, hheader, hvid, -, hversion⟩ := Firmware.readHeader_of_read hread
      cases hnew.offered.readable.symm.trans hheader
      rw [← hversion]
      have hintact := Firmware.read_intact hread
      exact ⟨⟨_, hnew.offered⟩, hread, hintact, hvid.symm.trans hnew.offered.vid_eq, hpid,
        hnew.newest, hrunning⟩
  · cases hsought with
    | nothing => exact selectFirmware_eq_error hnewest
    | current hnew => exact absurd hnew.offered (hnone _ _)
    | newer hnew => exact absurd hnew.offered (hnone _ _)
  · cases hsought with
    | nothing hnone =>
      obtain ⟨path, header, hoffered⟩ := hsome
      exact absurd hoffered (hnone path header)
    | current hnew hrunning' =>
      cases hrunning.symm.trans hrunning'
      exact selectFirmware_eq_error hnewest
    | newer hnew hlt =>
      exact absurd (hlt running hrunning) (List.not_lt.mpr (hold _ _ hnew.offered))
  · rintro ⟨path, header, hoffered, hlt⟩
    cases hsought with
    | nothing hnone => exact absurd hoffered (hnone path header)
    | current hnew hrunning hle =>
      exact absurd (hlt _ hrunning) (List.not_lt.mpr (List.le_trans (hnew.newest _ _ hoffered) hle))
    | newer hnew hrunning =>
      exact ⟨_, _, hnew.offered, hnew.newest, selectFirmware_newer hnew.offered hnewest⟩
  · exact fun path found s hs => selectFirmware_named hs

end CardFirmware
