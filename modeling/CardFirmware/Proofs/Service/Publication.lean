import CardFirmware.Proofs.Control.Status
import CardFirmware.Proofs.Files.Changes
import CardFirmware.Service.Publication
import CardFirmware.Tool.Discovery

/-! The record of a service as its clients find it. Publishing replaces the record in one step: the
new one is found from then on, and before it or without it every record is found as it was
(`status_publish`). -/

namespace CardFirmware

namespace ServiceStatus

theorem fileName_eq (card : UInt32) :
    fileName card = "fcp-" ++ String.ofList (Nat.toDigits 10 card.toNat) ++ ".json" := by
  rw [← Nat.toString_eq_ofList_toDigits]
  rfl

theorem isDigit_of_mem {card : UInt32} : ∀ c ∈ Nat.toDigits 10 card.toNat, c.isDigit :=
  fun _ hc => Nat.isDigit_of_mem_toDigits (by decide) (by decide) hc

theorem encodeChar_of_isDigit {c : Char} (h : c.isDigit) :
    Text.Utf8.encodeChar c = [UInt8.ofNat c.toNat] ∧ 0x30 ≤ c.toNat ∧ c.toNat ≤ 0x39 := by
  have hbounds : 0x30 ≤ c.toNat ∧ c.toNat ≤ 0x39 := by
    simpa [Char.isDigit, UInt32.le_iff_toNat_le] using h
  have hshort : c.toNat < 0x80 := Nat.lt_of_le_of_lt hbounds.2 (by decide)
  exact ⟨by rw [Text.Utf8.encodeChar, if_pos hshort], hbounds⟩

theorem flatMap_encodeChar {cs : List Char} (h : ∀ c ∈ cs, c.isDigit) :
    cs.flatMap Text.Utf8.encodeChar = cs.map fun c => UInt8.ofNat c.toNat := by
  induction cs with
  | nil => rfl
  | cons c cs ih =>
    obtain ⟨hc, hcs⟩ := List.forall_mem_cons.mp h
    rw [List.flatMap_cons, (encodeChar_of_isDigit hc).1, ih hcs, List.map_cons,
      List.singleton_append]

theorem bytes_fileName (card : UInt32) : (Path.ofText (fileName card)).bytes =
    Text.Utf8.encode "fcp-" ++ (Nat.toDigits 10 card.toNat).map (fun c => UInt8.ofNat c.toNat) ++
      Text.Utf8.encode ".json" := by
  rw [← flatMap_encodeChar isDigit_of_mem]
  simp only [Path.ofText, fileName_eq, Text.Utf8.encode, String.toList_append,
    String.toList_ofList, List.flatMap_append]

theorem length_fileName (card : UInt32) : (Path.ofText (fileName card)).bytes.length ≤ 19 := by
  have hlength : (Nat.toDigits 10 card.toNat).length ≤ 10 := by
    rw [Nat.length_toDigits_le_iff (by decide) (by decide)]
    exact Nat.lt_trans card.toNat_lt (by decide)
  rw [bytes_fileName, List.length_append, List.length_append, List.length_map]
  exact Nat.add_le_add_right (Nat.add_le_add_left hlength 4) 5

theorem not_mem_fileName (card : UInt32) {b : UInt8} (hletter : b ∉ Text.Utf8.encode "fcp-.json")
    (hdigit : b.toNat < 0x30) : b ∉ (Path.ofText (fileName card)).bytes := by
  have hletters : Text.Utf8.encode "fcp-.json" =
      Text.Utf8.encode "fcp-" ++ Text.Utf8.encode ".json" := by decide
  rw [hletters, List.mem_append, not_or] at hletter
  simp only [bytes_fileName, List.mem_append, not_or]
  refine ⟨⟨hletter.1, fun hb => ?_⟩, hletter.2⟩
  obtain ⟨c, hc, rfl⟩ := List.mem_map.mp hb
  obtain ⟨-, hlow, hhigh⟩ := encodeChar_of_isDigit (isDigit_of_mem c hc)
  rw [UInt8.toNat_ofNat_of_lt' (Nat.lt_of_le_of_lt hhigh (by decide))] at hdigit
  exact absurd hdigit (Nat.not_lt.mpr hlow)

theorem isName_append (card : UInt32) {suffix : Path} (hslash : Path.slash ∉ suffix.bytes)
    (hzero : 0 ∉ suffix.bytes) (hshort : suffix.bytes.length ≤ 200) :
    Path.IsName (fileName card ++ suffix) := by
  have hhead : (Path.ofText (fileName card) ++ suffix).bytes.head? = some 0x66 := by
    rw [Path.bytes_append, bytes_fileName]
    rfl
  have hne {p : Path} (hp : p.bytes.head? ≠ some 0x66) :
      Path.ofText (fileName card) ++ suffix ≠ p := by
    rintro rfl
    exact hp hhead
  have hmem {b : UInt8} (hname : b ∉ (Path.ofText (fileName card)).bytes)
      (hsuffix : b ∉ suffix.bytes) : b ∉ (Path.ofText (fileName card) ++ suffix).bytes := by
    rw [Path.bytes_append, List.mem_append, not_or]
    exact ⟨hname, hsuffix⟩
  exact {
    ne_empty := hne (by decide)
    ne_dot := hne (by decide)
    ne_dots := hne (by decide)
    no_slash := hmem (not_mem_fileName card (by decide) (by decide)) hslash
    no_zero := hmem (not_mem_fileName card (by decide) (by decide)) hzero
    short := by
      rw [Path.bytes_append, List.length_append]
      exact Nat.le_trans (Nat.add_le_add (length_fileName card) hshort) (by decide) }

theorem isName_fileName (card : UInt32) : Path.IsName (fileName card) := by
  have h : Path.IsName (fileName card ++ Path.empty) :=
    isName_append card (by decide) (by decide) (by decide)
  have hsame : Path.ofText (fileName card) ++ Path.empty = fileName card :=
    congrArg Path.mk (List.append_nil _)
  rwa [hsame] at h

theorem isName_temporary (card : UInt32) : Path.IsName (fileName card ++ Path.ofText ".tmp") :=
  isName_append card (by decide) (by decide) (by decide)

theorem fileName_ne_temporary (card other : UInt32) :
    Path.ofText (fileName card) ++ Path.ofText ".tmp" ≠ fileName other := by
  intro h
  have hlast (bs ending : Bytes) (hending : ending ≠ []) :
      (bs ++ ending).getLast? = ending.getLast? := List.getLast?_append_of_ne_nil _ hending
  have hends := congrArg (·.bytes.getLast?) h
  simp only [Path.bytes_append, bytes_fileName other,
    hlast _ (Text.Utf8.encode ".json") (by decide),
    hlast _ (Path.ofText ".tmp").bytes (by decide)] at hends
  exact absurd hends (by decide)

theorem temporaryPath_join (directory : Path) (card : UInt32) :
    ∃ parent : Path, temporaryPath (directory.join (fileName card)) =
      parent.join (fileName card ++ Path.ofText ".tmp") := by
  rw [temporaryPath, Path.name?_join (isName_fileName card)]
  exact ⟨_, rfl⟩

variable {t u : FileTree} {s : ServiceStatus} {directory path : Path}

/-- No link stands where a record is written on its way to a path. -/
def Plain (t : FileTree) (path : Path) : Prop :=
  t.resolve true (temporaryPath path) = t.resolve false (temporaryPath path)

/-- No record is a link to where a record is written on its way to a path. -/
def Apart (t : FileTree) (path : Path) : Prop :=
  ∀ directory card destination, t.resolve true (temporaryPath path) = .ok destination →
    t.resolve true (Path.join directory (fileName card)) ≠ .ok destination

/-- The way to a path does not go through what stands at its end. -/
def Direct (t : FileTree) (path : Path) : Prop :=
  (t.discardFile path).resolve false path = t.resolve false path

section Linkless

variable (h : t.root.Linkless)
include h

theorem plain_of_linkless : Plain t path := FileTree.resolve_linkless h _

theorem apart_of_linkless (directory : Path) (card : UInt32) :
    Apart t (directory.join (fileName card)) := by
  intro directory' other destination htemporary hrecord
  obtain ⟨parent, hparent⟩ := temporaryPath_join directory card
  rw [hparent, FileTree.resolve_linkless h] at htemporary
  rw [FileTree.resolve_linkless h] at hrecord
  obtain ⟨place, rfl⟩ := FileTree.resolve_join_name (isName_temporary card) htemporary
  obtain ⟨place', heq⟩ := FileTree.resolve_join_name (isName_fileName other) hrecord
  exact fileName_ne_temporary card other (Destination.name.inj heq).2.1

theorem direct_of_linkless : Direct t path := by
  unfold Direct FileTree.discardFile
  split
  · next u hremove =>
    obtain ⟨place, name, hresolve, hold, hchanged⟩ := FileTree.removeFile_eq_ok hremove
    have hways := hchanged.sameWays (fun e he => ?_) nofun
    · exact (hways.resolve hresolve).trans hresolve.symm
    · have hdirectory := hold e he
      cases e with
      | link target => exact absurd he (h.seen_ne _ target)
      | directory listable children => cases hdirectory
      | file content => rfl
      | closed cause => rfl
  · rfl

end Linkless

def SameRecords (t u : FileTree) : Prop :=
  ∀ directory card, u.shown (Path.join directory (fileName card)) =
    t.shown (Path.join directory (fileName card))

theorem exists_changed {card : UInt32} {content : Bytes}
    (hplain : Plain t (directory.join (fileName card)))
    (h : t.write (temporaryPath (directory.join (fileName card))) content = .ok u) :
    ∃ place, t.resolve true (temporaryPath (directory.join (fileName card))) =
        .ok (.name place (fileName card ++ Path.ofText ".tmp") false) ∧
      (∀ e ∈ t.root.seen (place ++ [fileName card ++ Path.ofText ".tmp"]), e.leadsOn = false) ∧
      t.Changed (place ++ [fileName card ++ Path.ofText ".tmp"]) (some (.file content)) u := by
  obtain ⟨place, name, hresolve, hold, hchanged⟩ := FileTree.write_eq_ok h
  obtain ⟨parent, hparent⟩ := temporaryPath_join directory card
  have hname := isName_temporary card
  have hslash : (temporaryPath (directory.join (fileName card))).endsInSlash = false := by
    rw [hparent, Path.endsInSlash_join hname]
  rw [hslash, Bool.not_false] at hresolve
  obtain ⟨place', heq⟩ := FileTree.resolve_join_name hname (hparent ▸ hplain ▸ hresolve)
  cases heq
  exact ⟨place, hresolve, hold, hchanged⟩

theorem sameRecords_write {card : UInt32} {content : Bytes}
    (hplain : Plain t (directory.join (fileName card)))
    (hapart : Apart t (directory.join (fileName card)))
    (h : t.write (temporaryPath (directory.join (fileName card))) content = .ok u) :
    SameRecords t u := by
  intro directory' other
  obtain ⟨place, hresolve, hold, hchanged⟩ := exists_changed hplain h
  exact hchanged.shown hold (by rintro _ ⟨⟩; rfl) (hapart directory' other _ hresolve)

theorem publish_cases  {result : Except ServerError Unit}
    (h : s.publish t path = (result, u)) :
    (∃ cause, result = .error cause ∧ (u = t ∨ t.write (temporaryPath path) s.render = .ok u)) ∨
    (result = .ok () ∧ ∃ v, t.write (temporaryPath path) s.render = .ok v ∧
      v.rename (temporaryPath path) path = .ok u) := by
  unfold publish at h
  split at h
  · cases h
    exact .inl ⟨_, rfl, .inl rfl⟩
  · next v hwrite =>
    split at h
    · cases h
      exact .inl ⟨_, rfl, .inr hwrite⟩
    · next u' hrename =>
      cases h
      exact .inr ⟨rfl, v, hwrite, hrename⟩

theorem sameRecords_publish {cause : ServerError}
    (hplain : Plain t (directory.join (fileName s.card)))
    (hapart : Apart t (directory.join (fileName s.card)))
    (h : s.publish t (directory.join (fileName s.card)) = (.error cause, u)) :
    SameRecords t u := by
  obtain ⟨_, -, rfl | hwrite⟩ | ⟨hok, -⟩ := publish_cases h
  · exact fun _ _ => rfl
  · exact sameRecords_write hplain hapart hwrite
  · cases hok

theorem shown_publish (hplain : Plain t (directory.join (fileName s.card)))
    (hdirect : Direct t (directory.join (fileName s.card)))
    (h : s.publish t (directory.join (fileName s.card)) = (.ok (), u)) :
    u.shown (directory.join (fileName s.card)) = some (.file s.render) := by
  obtain ⟨_, hcause, -⟩ | ⟨-, v, hwrite, hrename⟩ := publish_cases h
  · cases hcause
  obtain ⟨place, hsource, hold, hwritten⟩ := exists_changed hplain hwrite
  obtain ⟨place', name, place₂, name₂, c, w, hsource', htarget, hshort, hplace₂, hvacant₂, hc,
    herased, hmoved⟩ := FileTree.rename_eq_ok hrename
  have hways := hwritten.sameWays hold (by rintro _ ⟨⟩; rfl)
  -- The way to the written file is the same once it is written, so that this file is moved.
  cases (hways.resolve (hplain ▸ hsource)).symm.trans hsource'
  obtain ⟨_, heq⟩ := FileTree.resolve_join_name (isName_fileName s.card) htarget
  cases heq
  rw [hwritten.seen, Function.update_self] at hc
  cases hc
  -- Without what stood at the path every way leads where it leads in the end.
  have hdiscarded := by
    refine FileTree.discardFile_changed (hways.symm.resolve htarget) hshort ?_ ?_
    · refine hwritten.undo.isPlace ?_ hplace₂
      unfold FileTree.IsVacant
      rw [hwritten.seen, Function.update_self]
      rintro _ ⟨⟩
      rfl
    · exact hwritten.undo.isVacant (fun e he => FileEntry.isDirectory_of_leadsOn (hold e he))
        hvacant₂
  have herasedWays : FileTree.SameWays v w := by
    refine herased.sameWays ?_ nofun
    rw [hwritten.seen, Function.update_self]
    rintro _ ⟨⟩
    rfl
  have hends := (hways.trans herasedWays).changed hdiscarded hmoved nofun (by rintro _ ⟨⟩; rfl)
  have hfollow := by
    refine FileTree.resolve_follow (hdirect.trans (hways.symm.resolve htarget)) fun target => ?_
    rw [Destination.names, hdiscarded.seen, Function.update_self]
    nofun
  rw [FileTree.shown_eq, hends.resolve hfollow]
  simp [Except.toOption, FileTree.shownAt, hshort, hmoved.seen]

end ServiceStatus

namespace Discovery

variable {d : Discovery} {t u : FileTree} {card : UInt32} {s : ServiceStatus} {directory : Path}

def Holds (t : FileTree) (card : UInt32) (directory : Path) (s : ServiceStatus) : Prop :=
  ∃ content, t.readBytes (Path.join directory (ServiceStatus.fileName card)) = .ok content ∧
    ServiceStatus.ofBytes? content = some s ∧ s.card = card

def record? (t : FileTree) (card : UInt32) (directory : Path) : Option ServiceStatus := do
  let b ← (t.readBytes (Path.join directory (ServiceStatus.fileName card))).toOption
  (ServiceStatus.ofBytes? b).filter (·.card = card)

theorem record?_eq_some : record? t card directory = some s ↔ Holds t card directory s := by
  simp only [record?, Holds, Option.bind_eq_bind, Option.bind_eq_some_iff, toOption_eq_some,
    Option.filter_eq_some_iff, decide_eq_true_eq]

theorem record?_eq_none :
    record? t card directory = none ↔ ∀ s, ¬Holds t card directory s := by
  simp only [Option.eq_none_iff_forall_ne_some, ne_eq, record?_eq_some]

theorem status_eq_some : d.status t card = some s ↔
    ∃ before directory after, d.socketDirectories = before ++ directory :: after ∧
      Holds t card directory s ∧ ∀ other ∈ before, ∀ r, ¬Holds t card other r := by
  have hstatus : d.status t card = d.socketDirectories.findSome? (record? t card) := rfl
  simp only [hstatus, List.findSome?_eq_some_iff, record?_eq_some, record?_eq_none]

theorem status_eq_none :
    d.status t card = none ↔ ∀ directory ∈ d.socketDirectories, ∀ s, ¬Holds t card directory s := by
  have hstatus : d.status t card = d.socketDirectories.findSome? (record? t card) := rfl
  simp only [hstatus, List.findSome?_eq_none_iff, record?_eq_none]

theorem status_congr (h : ServiceStatus.SameRecords t u) (card : UInt32) :
    d.status u card = d.status t card := by
  have hholds (directory : Path) (s : ServiceStatus) :
      Holds u card directory s ↔ Holds t card directory s := by
    simp only [Holds, FileTree.readBytes_eq_ok, h directory card]
  have hrecord (directory : Path) : record? u card directory = record? t card directory := by
    refine Option.ext fun s => ?_
    rw [record?_eq_some, record?_eq_some, hholds]
  exact congrArg d.socketDirectories.findSome? (funext hrecord)

theorem holds_publish
    (hplain : ServiceStatus.Plain t (directory.join (ServiceStatus.fileName s.card)))
    (hdirect : ServiceStatus.Direct t (directory.join (ServiceStatus.fileName s.card)))
    (h : s.publish t (directory.join (ServiceStatus.fileName s.card)) = (.ok (), u)) :
    Holds u s.card directory s :=
  ⟨s.render, FileTree.readBytes_eq_ok.mpr (ServiceStatus.shown_publish hplain hdirect h),
    s.ofBytes?_toPretty, rfl⟩

section Run

def runTree (children : List (Path × FileEntry)) : FileTree :=
  ⟨.directory true [("run", .directory true children)], []⟩

def runDiscovery : Discovery := { socketDirectories := ["run"] }

def runStatus : ServiceStatus where
  socketPath := "run/fcp-1.sock"
  card := 1
  vid := vendorId
  pid := 0x821c
  firmwareBuild := 2417
  appVersion := some ⟨2, 0, 2417, 0⟩

theorem alter_runTree (f : List (Path × FileEntry) → List (Path × FileEntry))
    (children : List (Path × FileEntry)) :
    (runTree children).root.alter f ["run"] = (runTree (f children)).root := by
  simp [runTree, FileEntry.alter]

theorem put_runTree (children : List (Path × FileEntry)) (name : Path) (e : FileEntry) :
    (runTree children).put ["run"] name e = runTree (FileEntry.setChild name e children) :=
  congrArg (FileTree.mk · []) (alter_runTree _ children)

theorem erase_runTree (children : List (Path × FileEntry)) (name : Path) :
    (runTree children).erase ["run"] name = runTree (children.filter (·.1 ≠ name)) :=
  congrArg (FileTree.mk · []) (alter_runTree _ children)

theorem write_runTree (e : FileEntry) (content : Bytes) :
    (runTree [("fcp-1.json", e)]).write
        (ServiceStatus.temporaryPath (Path.join "run" (ServiceStatus.fileName 1))) content =
      .ok (runTree [("fcp-1.json", e), ("fcp-1.json.tmp", .file content)]) := by
  have hfile : (runTree [("fcp-1.json", e)]).filePlace
      (ServiceStatus.temporaryPath (Path.join "run" (ServiceStatus.fileName 1))) =
        .ok (["run"], "fcp-1.json.tmp", []) := rfl
  rw [FileTree.write, hfile]
  exact congrArg Except.ok (put_runTree _ _ _)

theorem rename_runTree (old content : Bytes) :
    (runTree [("fcp-1.json", .file old), ("fcp-1.json.tmp", .file content)]).rename
        (ServiceStatus.temporaryPath (Path.join "run" (ServiceStatus.fileName 1)))
        (Path.join "run" (ServiceStatus.fileName 1)) =
      .ok (runTree [("fcp-1.json", .file content)]) := by
  have hmove : ((runTree [("fcp-1.json", .file old), ("fcp-1.json.tmp", .file content)]).erase
      ["run"] "fcp-1.json.tmp").put ["run"] "fcp-1.json" (.file content) =
        runTree [("fcp-1.json", .file content)] := by
    rw [erase_runTree, put_runTree]
    rfl
  exact congrArg Except.ok hmove

theorem publish_runTree (s : ServiceStatus) (old : Bytes) :
    s.publish (runTree [("fcp-1.json", .file old)])
        (Path.join "run" (ServiceStatus.fileName 1)) =
      (.ok (), runTree [("fcp-1.json", .file s.render)]) := by
  unfold ServiceStatus.publish
  simp only [write_runTree, rename_runTree]

theorem publish_blocked (s : ServiceStatus) (below : List (Path × FileEntry)) :
    s.publish (runTree [("fcp-1.json", .directory true below)])
        (Path.join "run" (ServiceStatus.fileName 1)) =
      (.error (.status (Path.join "run" (ServiceStatus.fileName 1)) .isDirectory),
        runTree [("fcp-1.json", .directory true below), ("fcp-1.json.tmp", .file s.render)]) := by
  have hrename (content : Bytes) :
      (runTree [("fcp-1.json", .directory true below), ("fcp-1.json.tmp", .file content)]).rename
          (ServiceStatus.temporaryPath (Path.join "run" (ServiceStatus.fileName 1)))
          (Path.join "run" (ServiceStatus.fileName 1)) = .error .isDirectory := rfl
  unfold ServiceStatus.publish
  simp only [write_runTree, hrename]

theorem linkless_runTree {name : Path} {e : FileEntry} (h : e.Linkless) :
    (runTree [(name, e)]).root.Linkless :=
  FileEntry.linkless_directory (List.forall_mem_singleton.mpr
    (FileEntry.linkless_directory (List.forall_mem_singleton.mpr h)))

/-- The record is written through a link to its own path, and the link is moved there. -/
theorem publish_linked (s : ServiceStatus) :
    s.publish (runTree [("fcp-1.json.tmp", .link "fcp-1.json")])
        (Path.join "run" (ServiceStatus.fileName 1)) =
      (.ok (), runTree [("fcp-1.json", .link "fcp-1.json")]) := by
  have hwrite (content : Bytes) : (runTree [("fcp-1.json.tmp", .link "fcp-1.json")]).write
      (ServiceStatus.temporaryPath (Path.join "run" (ServiceStatus.fileName 1))) content =
        .ok (runTree [("fcp-1.json.tmp", .link "fcp-1.json"), ("fcp-1.json", .file content)]) :=
    congrArg Except.ok (put_runTree _ "fcp-1.json" (.file content))
  have hmove (content : Bytes) : ((runTree [("fcp-1.json.tmp", .link "fcp-1.json"),
      ("fcp-1.json", .file content)]).erase ["run"] "fcp-1.json.tmp").put ["run"] "fcp-1.json"
        (.link "fcp-1.json") = runTree [("fcp-1.json", .link "fcp-1.json")] := by
    rw [erase_runTree, put_runTree]
    rfl
  have hrename (content : Bytes) : (runTree [("fcp-1.json.tmp", .link "fcp-1.json"),
      ("fcp-1.json", .file content)]).rename
        (ServiceStatus.temporaryPath (Path.join "run" (ServiceStatus.fileName 1)))
        (Path.join "run" (ServiceStatus.fileName 1)) =
      .ok (runTree [("fcp-1.json", .link "fcp-1.json")]) := congrArg Except.ok (hmove content)
  unfold ServiceStatus.publish
  simp only [hwrite, hrename]

/-- The record replaces the link that its own path goes through. -/
theorem publish_roundabout (s : ServiceStatus) :
    s.publish (runTree [("fcp-1.json", .link ".")])
        (Path.join "run/fcp-1.json" (ServiceStatus.fileName 1)) =
      (.ok (), runTree [("fcp-1.json", .file s.render)]) := by
  have hwrite (content : Bytes) : (runTree [("fcp-1.json", .link ".")]).write
      (ServiceStatus.temporaryPath (Path.join "run/fcp-1.json" (ServiceStatus.fileName 1)))
        content = .ok (runTree [("fcp-1.json", .link "."), ("fcp-1.json.tmp", .file content)]) :=
    congrArg Except.ok (put_runTree _ "fcp-1.json.tmp" (.file content))
  have hmove (content : Bytes) : ((runTree [("fcp-1.json", .link "."),
      ("fcp-1.json.tmp", .file content)]).erase ["run"] "fcp-1.json.tmp").put ["run"] "fcp-1.json"
        (.file content) = runTree [("fcp-1.json", .file content)] := by
    rw [erase_runTree, put_runTree]
    rfl
  have hrename (content : Bytes) : (runTree [("fcp-1.json", .link "."),
      ("fcp-1.json.tmp", .file content)]).rename
        (ServiceStatus.temporaryPath (Path.join "run/fcp-1.json" (ServiceStatus.fileName 1)))
        (Path.join "run/fcp-1.json" (ServiceStatus.fileName 1)) =
      .ok (runTree [("fcp-1.json", .file content)]) := congrArg Except.ok (hmove content)
  unfold ServiceStatus.publish
  simp only [hwrite, hrename]

/-- The directory of records, by a path that is too long for those of its files. -/
def farDiscovered : Path := .dotted 2045 "run"

theorem list_farDiscovered (children : List (Path × FileEntry)) :
    (runTree children).list farDiscovered = .ok children := by
  refine FileTree.list_eq_ok.mpr ?_
  rw [farDiscovered, FileTree.entry_dotted 2045 rfl (by decide) (by decide) (by decide) (by decide)]
  rfl

theorem status_farDiscovered (content : Bytes) :
    Discovery.status { socketDirectories := [farDiscovered] }
      (runTree [("fcp-1.json", .file content)]) 1 = none := by
  refine status_eq_none.mpr (List.forall_mem_singleton.mpr fun r => ?_)
  rintro ⟨found, hread, -⟩
  have hname : Path.IsName (ServiceStatus.fileName 1) := ServiceStatus.isName_fileName 1
  have hentry := FileTree.list_eq_ok.mp (list_farDiscovered [("fcp-1.json", .file content)])
  have hlookup : [(Path.ofText "fcp-1.json", FileEntry.file content)].lookup
      (Path.ofText (ServiceStatus.fileName 1)) = some (.file content) := rfl
  obtain ⟨hlimit, -⟩ := (FileTree.readBytes_join_eq_ok hentry hname fun target h =>
    nomatch hlookup.symm.trans h).mp hread
  refine FileTree.not_withinLimit_join hname ?_ hlimit
  rw [farDiscovered, Path.length_dotted]
  decide

end Run

end Discovery

end CardFirmware
