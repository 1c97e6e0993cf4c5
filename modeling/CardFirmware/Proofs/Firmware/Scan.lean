import CardFirmware.Proofs.Files.Entries
import CardFirmware.Proofs.Firmware.Directory
import Mathlib.Data.List.Induction

/-! What a scan lists. Of the firmware files in a directory that start with a header for the vendor
it keeps the first one of each product and version, and nothing else in the directory has a part in
it (`scan_keeps_first`). -/

namespace CardFirmware

namespace Firmware

def SameRelease (f g : FoundFirmware) : Prop :=
  f.header.pid = g.header.pid ∧ f.header.version = g.header.version

section Scan

variable {t : FileTree} {vendor : UInt16} {paths : List Path} {found : List FoundFirmware}
  {f : FoundFirmware}

def Heads (t : FileTree) (vendor : UInt16) (f : FoundFirmware) : Prop :=
  readHeader t f.path = .ok f.header ∧ f.header.vid = vendor

theorem mem_collect {path : Path} : f ∈ collect t vendor found path ↔
    f ∈ found ∨ f.path = path ∧ Heads t vendor f ∧ ∀ g ∈ found, ¬SameRelease g f := by
  unfold collect
  split
  · next e he =>
    refine ⟨.inl, fun h => h.elim id ?_⟩
    rintro ⟨rfl, ⟨hread, -⟩, -⟩
    cases he.symm.trans hread
  · next header hheader =>
    split
    · next hskip =>
      refine ⟨.inl, fun h => h.elim id ?_⟩
      rintro ⟨rfl, ⟨hread, hvid⟩, hnew⟩
      cases hheader.symm.trans hread
      obtain hother | hthere := hskip
      · exact absurd hvid hother
      · obtain ⟨g, hg, hsame⟩ := List.any_eq_true.mp hthere
        exact absurd (of_decide_eq_true hsame) (hnew g hg)
    · next hkeep =>
      obtain ⟨hvid, hnew⟩ := not_or.mp hkeep
      rw [List.mem_append, List.mem_singleton]
      refine or_congr_right ⟨?_, ?_⟩
      · rintro rfl
        refine ⟨rfl, ⟨hheader, not_not.mp hvid⟩, fun g hg hsame => hnew ?_⟩
        exact List.any_eq_true.mpr ⟨g, hg, decide_eq_true hsame⟩
      · rintro ⟨rfl, ⟨hread, -⟩, -⟩
        cases hheader.symm.trans hread
        rfl

theorem map_path_collect (path : Path) :
    ((collect t vendor found path).map (·.path)).Sublist (found.map (·.path) ++ [path]) := by
  unfold collect
  split
  · exact List.sublist_append_left _ _
  · split
    · exact List.sublist_append_left _ _
    · rw [List.map_append]
      exact List.Sublist.refl _

theorem map_path_foldl (t : FileTree) (vendor : UInt16) (paths : List Path) :
    ((paths.foldl (collect t vendor) []).map (·.path)).Sublist paths := by
  induction paths using List.reverseRecOn with
  | nil => exact List.Sublist.refl _
  | append_singleton paths path ih =>
    rw [List.foldl_concat]
    exact (map_path_collect path).trans (ih.append (List.Sublist.refl _))

theorem mem_foldl : f ∈ paths.foldl (collect t vendor) [] ↔
    Heads t vendor f ∧ ∃ before after, paths = before ++ f.path :: after ∧
      ∀ g, g.path ∈ before → Heads t vendor g → ¬SameRelease g f := by
  induction paths using List.reverseRecOn with
  | nil => simp
  | append_singleton paths path ih =>
    have hfirst : (∀ g ∈ paths.foldl (collect t vendor) [], ¬SameRelease g f) ↔
        ∀ g, g.path ∈ paths → Heads t vendor g → ¬SameRelease g f := by
      have hscanned := scanned t vendor paths
      constructor
      · intro hnew g hpath hheads hsame
        obtain ⟨g', hg', hpid, hversion⟩ := hscanned.complete _ hpath _ hheads.1 hheads.2
        exact hnew g' hg' ⟨hpid.trans hsame.1, hversion.trans hsame.2⟩
      · intro hnew g hg
        obtain ⟨hpath, hheads⟩ := hscanned.sound g hg
        exact hnew g hpath hheads
    rw [List.foldl_concat, mem_collect, ih, hfirst]
    constructor
    · rintro (⟨hheads, before, after, rfl, hbefore⟩ | ⟨rfl, hheads, hnew⟩)
      · exact ⟨hheads, before, after ++ [path], by simp, hbefore⟩
      · exact ⟨hheads, paths, [], rfl, hnew⟩
    · rintro ⟨hheads, before, after, hsplit, hbefore⟩
      rcases List.eq_nil_or_concat after with rfl | ⟨after, last, rfl⟩
      · obtain ⟨rfl, hpath⟩ := List.append_inj' hsplit rfl
        exact .inr ⟨(List.cons.inj hpath).1.symm, hheads, hbefore⟩
      · rw [List.concat_eq_append, ← List.cons_append, ← List.append_assoc] at hsplit
        obtain ⟨rfl, -⟩ := List.append_inj' hsplit rfl
        exact .inl ⟨hheads, before, after, rfl, hbefore⟩

theorem mem_foldl_of_ascending (h : paths.Pairwise (· < ·)) :
    f ∈ paths.foldl (collect t vendor) [] ↔ (f.path ∈ paths ∧ Heads t vendor f) ∧
      ∀ g, g.path ∈ paths ∧ Heads t vendor g → g.path < f.path → ¬SameRelease g f := by
  rw [mem_foldl]
  constructor
  · rintro ⟨hheads, before, after, rfl, hbefore⟩
    refine ⟨⟨by simp, hheads⟩, fun g hg hlt => hbefore g ?_ hg.2⟩
    obtain hg | hg := List.mem_append.mp hg.1
    · exact hg
    · obtain hsame | hg := List.mem_cons.mp hg
      · exact absurd hlt (hsame ▸ Path.lt_irrefl _)
      · have hgt := (List.pairwise_cons.mp (List.pairwise_append.mp h).2.1).1 _ hg
        exact absurd hgt (Path.lt_asymm hlt)
  · rintro ⟨⟨hpath, hheads⟩, hfirst⟩
    obtain ⟨before, after, rfl⟩ := List.append_of_mem hpath
    refine ⟨hheads, before, after, rfl, fun g hg hgheads => ?_⟩
    have hlt := (List.pairwise_append.mp h).2.2 _ hg _ List.mem_cons_self
    exact hfirst g ⟨List.mem_append_left _ hg, hgheads⟩ hlt

end Scan

section Entries

variable {t : FileTree} {directory : Path} {children : List (Path × FileEntry)}
  {vendor : UInt16} {f : FoundFirmware}

/-- What is read of an entry at a path: all of a regular file, unless the path is too long, and what
a link leads to. -/
def Reads (t : FileTree) (path : Path) : FileEntry → Bytes → Prop
  | .file content, b => FileTree.withinLimit path ∧ content = b
  | .link _, b => t.readBytes path = .ok b
  | _, _ => False

/-- An entry of a directory that a scan can list: it has the name of firmware, and what is read of
it starts with a header for the vendor. -/
structure Presents (t : FileTree) (directory : Path) (vendor : UInt16) (entry : Path × FileEntry)
    (f : FoundFirmware) : Prop where
  isFirmwareName : isFirmwareName entry.1
  path_eq : f.path = directory.join entry.1
  header : ∃ content, Reads t f.path entry.2 content ∧
    FirmwareFile.decodeHeader (content.take 64) = .ok f.header
  vid_eq : f.header.vid = vendor

def PresentsFirst (t : FileTree) (directory : Path) (vendor : UInt16)
    (children : List (Path × FileEntry)) (f : FoundFirmware) : Prop :=
  (∃ entry ∈ children, Presents t directory vendor entry f) ∧
    ∀ entry ∈ children, ∀ g, Presents t directory vendor entry g → g.path < f.path →
      ¬SameRelease g f

theorem readBytes_iff_reads {name : Path} {e : FileEntry} {content : Bytes}
    (hlist : t.list directory = .ok children) (hlisting : FileEntry.Listing children)
    (hmem : (name, e) ∈ children) :
    t.readBytes (directory.join name) = .ok content ↔ Reads t (directory.join name) e content := by
  have hentry := FileTree.list_eq_ok.mp hlist
  have hname := hlisting.isName _ hmem
  have hlookup := hlisting.lookup hmem
  have hread (hlink : ∀ target, e ≠ .link target) :
      t.readBytes (directory.join name) = .ok content ↔
        FileTree.withinLimit (directory.join name) ∧ children.lookup name = some (.file content) :=
    FileTree.readBytes_join_eq_ok hentry hname fun target h =>
      hlink target (Option.some.inj (hlookup.symm.trans h))
  cases e with
  | link target => exact Iff.rfl
  | file content => rw [hread nofun, hlookup, Reads, Option.some_inj, FileEntry.file.injEq]
  | closed cause => simp [hread nofun, hlookup, Reads]
  | directory listable below => simp [hread nofun, hlookup, Reads]

theorem readHeader_eq_ok {path : Path} {header : FirmwareFile} :
    readHeader t path = .ok header ↔ ∃ content, t.readBytes path = .ok content ∧
      FirmwareFile.decodeHeader (content.take 64) = .ok header := by
  unfold readHeader
  cases t.readBytes path <;> simp [FirmwareFile.headerMax]

theorem heads_iff_presents {names : List Path} (hlist : t.list directory = .ok children)
    (hlisting : FileEntry.Listing children)
    (hnames : ∀ name, name ∈ names ↔ ∃ e, (name, e) ∈ children) :
    f.path ∈ (names.filter Firmware.isFirmwareName).map directory.join ∧ Heads t vendor f ↔
      ∃ entry ∈ children, Presents t directory vendor entry f := by
  rw [Heads, readHeader_eq_ok]
  constructor
  · rintro ⟨hpath, ⟨content, hread, hheader⟩, hvid⟩
    obtain ⟨name, hname, hjoin⟩ := List.mem_map.mp hpath
    obtain ⟨hmem, hbin⟩ := List.mem_filter.mp hname
    obtain ⟨e, he⟩ := (hnames name).mp hmem
    rw [← hjoin, readBytes_iff_reads hlist hlisting he, hjoin] at hread
    exact ⟨(name, e), he, hbin, hjoin.symm, ⟨content, hread, hheader⟩, hvid⟩
  · rintro ⟨⟨name, e⟩, he, hbin, hpath, ⟨content, hreads, hheader⟩, hvid⟩
    have hmem : name ∈ names.filter Firmware.isFirmwareName :=
      List.mem_filter.mpr ⟨(hnames name).mpr ⟨e, he⟩, hbin⟩
    refine ⟨hpath ▸ List.mem_map_of_mem hmem, ⟨content, ?_, hheader⟩, hvid⟩
    rw [hpath] at hreads ⊢
    exact (readBytes_iff_reads hlist hlisting he).mpr hreads

theorem scan_eq_ok (hlist : t.list directory = .ok children)
    (hlisting : FileEntry.Listing children) (vendor : UInt16) :
    ∃ found, scan t directory vendor = .ok found ∧
      found.Pairwise (fun f g => f.path < g.path) ∧
      ∀ f, f ∈ found ↔ PresentsFirst t directory vendor children f := by
  obtain ⟨names, hnames, hascending, hmem⟩ := FileTree.names_of_list hlist hlisting
  have hpaths : ((names.filter isFirmwareName).map directory.join).Pairwise (· < ·) := by
    rw [List.pairwise_map]
    refine (hascending.filter _).imp_of_mem fun ha hb hlt => ?_
    obtain ⟨e, he⟩ := (hmem _).mp (List.mem_filter.mp ha).1
    obtain ⟨e', he'⟩ := (hmem _).mp (List.mem_filter.mp hb).1
    exact Path.join_lt_join (hlisting.isName _ he).no_slash (hlisting.isName _ he').no_slash hlt
  refine ⟨_, by rw [scan, hnames], ?_, fun f => ?_⟩
  · exact List.pairwise_map.mp (hpaths.sublist (map_path_foldl t vendor _))
  · rw [mem_foldl_of_ascending hpaths, heads_iff_presents hlist hlisting hmem]
    refine and_congr_right fun _ => ⟨fun h entry hentry g hg => ?_, fun h g hg => ?_⟩
    · exact h g ((heads_iff_presents hlist hlisting hmem).mpr ⟨entry, hentry, hg⟩)
    · obtain ⟨entry, hentry, hpresents⟩ := (heads_iff_presents hlist hlisting hmem).mp hg
      exact h entry hentry g hpresents

/-- A scan of a directory that can be listed lists, in ascending order of paths and each product and
version once, the first of the files with a header for the vendor that has it. Entries that are no
such files do not matter, nor does the order in which the directory lists its entries. Once sorted,
the first file of a product is as new as any of the product that is listed. -/
theorem scan_keeps_first (vendor : UInt16) (hlist : t.list directory = .ok children)
    (hlisting : FileEntry.Listing children) :
    ∃ found, scan t directory vendor = .ok found ∧
      found.Pairwise (fun f g => f.path < g.path) ∧
      found.Pairwise (fun f g => ¬SameRelease f g) ∧
      (∀ f, f ∈ found ↔ PresentsFirst t directory vendor children f) ∧
      (∀ t' children', FileTree.list t' directory = .ok children' →
        FileEntry.Listing children' →
        (∀ entry f, entry ∈ children' ∧ Presents t' directory vendor entry f ↔
          entry ∈ children ∧ Presents t directory vendor entry f) →
        scan t' directory vendor = .ok found) ∧
      ∀ order pid,
        match latest? (sort order found) pid with
        | some f => f ∈ found ∧ f.header.pid = pid ∧
            ∀ g ∈ found, g.header.pid = pid → g.header.version.toList ≤ f.header.version.toList
        | none => ∀ f ∈ found, f.header.pid ≠ pid := by
  obtain ⟨found, hscan, hascending, hmem⟩ := scan_eq_ok hlist hlisting vendor
  refine ⟨found, hscan, hascending, ?_, hmem, fun t' children' hlist' hlisting' hsame => ?_,
    fun order pid => ?_⟩
  · refine hascending.imp_of_mem fun {f g} hf hg hlt => ?_
    obtain ⟨⟨entry, hentry, hpresents⟩, -⟩ := (hmem f).mp hf
    exact ((hmem g).mp hg).2 entry hentry f hpresents hlt
  · obtain ⟨found', hscan', hascending', hmem'⟩ := scan_eq_ok hlist' hlisting' vendor
    rw [hscan', Path.eq_of_ascending FoundFirmware.path hascending' hascending fun f => ?_]
    rw [hmem, hmem']
    refine and_congr (exists_congr fun entry => hsame entry f) (forall_congr' fun entry => ?_)
    constructor
    · intro h hentry g hg
      obtain ⟨hentry', hg'⟩ := (hsame entry g).mpr ⟨hentry, hg⟩
      exact h hentry' g hg'
    · intro h hentry g hg
      obtain ⟨hentry', hg'⟩ := (hsame entry g).mp ⟨hentry, hg⟩
      exact h hentry' g hg'
  · split
    · next f hlatest => exact latest?_sort hlatest
    · next hlatest =>
      exact fun f hf => latest?_eq_none.mp hlatest f (mem_sort.mpr hf)

end Entries

def boxed (vid : UInt16) (build : UInt32) : FirmwareFile :=
  .ofSections vid 0x821d ⟨2, 0, 0, build⟩ []

/-- A directory with two versions for one product, of which the newer one is there twice and by a
link, a file for another vendor, and what is no firmware. -/
def shelf : List (Path × FileEntry) :=
  [("older.bin", .file (boxed 0x1235 7).encode), ("second.bin", .file (boxed 0x1235 9).encode),
    ("newer.bin", .file (boxed 0x1235 9).encode), ("latest.bin", .link "../fw/newer.bin"),
    ("foreign.bin", .file (boxed 1 12).encode), ("junk.bin", .file [1, 2, 3]),
    ("notes.txt", .file (boxed 0x1235 12).encode), ("lost.bin", .link "lost.bin"),
    ("locked.bin", .closed .permissionDenied), ("deep.bin", .directory true []),
    (".bin", .file (boxed 0x1235 12).encode)]

def shelfTree (listable : Bool) (children : List (Path × FileEntry)) : FileTree :=
  ⟨.directory true [("fw", .directory listable children)], []⟩

theorem shelf_scanned :
    (shelfTree true shelf).list "fw" = .ok shelf ∧ FileEntry.Listing shelf ∧
      scan (shelfTree true shelf) "fw" 0x1235 =
        .ok [⟨"fw/latest.bin", boxed 0x1235 9⟩, ⟨"fw/older.bin", boxed 0x1235 7⟩] ∧
      ∀ order, latest? (sort order [⟨"fw/latest.bin", boxed 0x1235 9⟩,
        ⟨"fw/older.bin", boxed 0x1235 7⟩]) 0x821d = some ⟨"fw/latest.bin", boxed 0x1235 9⟩ := by
  have hlist : (shelfTree true shelf).list "fw" = .ok shelf := rfl
  have hlisting : FileEntry.Listing shelf := by decide
  refine ⟨hlist, hlisting, ?_⟩
  obtain ⟨found, hscan, -, -, -, -, hlatest⟩ := scan_keeps_first 0x1235 hlist hlisting
  obtain rfl : found =
      [⟨"fw/latest.bin", boxed 0x1235 9⟩, ⟨"fw/older.bin", boxed 0x1235 7⟩] := by
    obtain ⟨names, hnames, hascending, hmem⟩ := FileTree.names_of_list hlist hlisting
    let sorted : List Path := [".bin", "deep.bin", "foreign.bin", "junk.bin", "latest.bin",
      "locked.bin", "lost.bin", "newer.bin", "notes.txt", "older.bin", "second.bin"]
    have hperm : (shelf.map (·.1)).Perm sorted := by decide
    have hsame (name : Path) := (by simp [hmem] : name ∈ names ↔ name ∈ shelf.map (·.1)).trans
      hperm.mem_iff
    obtain rfl := Path.eq_of_ascending id hascending (by decide) hsame
    rw [scan, hnames] at hscan
    cases hscan
    rfl
  refine ⟨hscan, fun order => ?_⟩
  have hnewest := hlatest order 0x821d
  split at hnewest
  · next f hf =>
    obtain ⟨hmem, -, hall⟩ := hnewest
    rw [hf]
    obtain rfl | hmem := List.mem_cons.mp hmem
    · rfl
    · obtain rfl := List.mem_singleton.mp hmem
      exact absurd (hall _ List.mem_cons_self rfl) (by decide)
  · exact absurd rfl (hnewest _ List.mem_cons_self)

/-- The directory of firmware, by a path that is too long for those of its files. -/
def farShelf : Path := .dotted 2045 "fw"

theorem list_farShelf (children : List (Path × FileEntry)) :
    (shelfTree true children).list farShelf = .ok children := by
  refine FileTree.list_eq_ok.mpr ?_
  rw [farShelf, FileTree.entry_dotted 2045 rfl (by decide) (by decide) (by decide) (by decide)]
  rfl

/-- A directory that exists may not be listed. If it is listed, a file in it need not be found at
its path, and a link may come to be read by an entry that has not the name of firmware. -/
theorem far_shelf_unscanned :
    ((shelfTree false []).entry "fw" = .ok (.directory false []) ∧
      scan (shelfTree false []) "fw" 0x1235 = .error (.io .permissionDenied)) ∧
    ((shelfTree true [("a.bin", .file (boxed 0x1235 7).encode)]).list farShelf =
        .ok [("a.bin", .file (boxed 0x1235 7).encode)] ∧
      FirmwareFile.decodeHeader ((boxed 0x1235 7).encode.take 64) = .ok (boxed 0x1235 7) ∧
      scan (shelfTree true [("a.bin", .file (boxed 0x1235 7).encode)]) farShelf 0x1235 =
        .ok []) ∧
    scan (shelfTree true [("a.bin", .link "data")]) "fw" 0x1235 = .ok [] ∧
    scan (shelfTree true [("a.bin", .link "data"), ("data", .file (boxed 0x1235 7).encode)]) "fw"
      0x1235 = .ok [⟨"fw/a.bin", boxed 0x1235 7⟩] := by
  have hnames (children : List (Path × FileEntry)) : (shelfTree true children).names "fw" =
      .ok ((children.map (·.1)).mergeSort fun a b => decide (a ≤ b)) := rfl
  refine ⟨⟨rfl, rfl⟩, ⟨list_farShelf _, rfl, ?_⟩, ?_, ?_⟩
  case refine_2 | refine_3 =>
    rw [scan, hnames, List.mergeSort_of_pairwise (by decide)]
    rfl
  have hlisting : FileEntry.Listing [("a.bin", .file (boxed 0x1235 7).encode)] := by decide
  obtain ⟨found, hscan, -, hmem⟩ := scan_eq_ok (list_farShelf _) hlisting 0x1235
  have hfound : found = [] := by
    refine List.eq_nil_iff_forall_not_mem.mpr fun f hf => ?_
    obtain ⟨⟨entry, hentry, -, hpath, ⟨content, hreads, -⟩, -⟩, -⟩ := (hmem f).mp hf
    obtain rfl := List.mem_singleton.mp hentry
    refine FileTree.not_withinLimit_join (hlisting.isName _ hentry) ?_ (hpath ▸ hreads.1)
    rw [farShelf, Path.length_dotted]
    decide
  rw [hscan, hfound]

end Firmware

end CardFirmware
