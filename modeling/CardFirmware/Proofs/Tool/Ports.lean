import CardFirmware.Proofs.Files.Entries
import CardFirmware.Tool.Discovery

/-! The search for the directory of a device below that of its bus. Ways down from a directory are
ordered as lists of names, which is the order of a search that looks at a directory before it looks
below it and takes the children of a directory by name. The search ends with the first way that
leads to the number of the device (`findPort_first`). It goes down as far as paths can lead, since
with every level the path gets longer. -/

namespace CardFirmware

namespace FileEntry

variable {e : FileEntry} {name : Path} {listable : Bool} {children : List (Path × FileEntry)}

/-- In every directory of a tree the entries have different names, each of which a path can end
in. -/
def WellNamed (e : FileEntry) : Prop :=
  ∀ names listable children, e.descend names = .ok (.directory listable children) →
    Listing children

theorem WellNamed.listing (h : (directory listable children).WellNamed) : Listing children :=
  h [] listable children rfl

theorem WellNamed.child (h : (directory listable children).WellNamed)
    (hmem : (name, e) ∈ children) : e.WellNamed := by
  intro names l below hdescend
  refine h (name :: names) l below ?_
  rw [descend, FileEntry.child, h.listing.lookup hmem]
  exact hdescend

theorem wellNamed_file (content : Bytes) : (file content).WellNamed := by
  intro names listable children hdescend
  cases names <;> cases hdescend

theorem wellNamed_directory (hlisting : Listing children)
    (h : ∀ entry ∈ children, entry.2.WellNamed) : (directory listable children).WellNamed := by
  intro names l below hdescend
  cases names with
  | nil =>
    cases hdescend
    exact hlisting
  | cons name names =>
    obtain ⟨e, hchild, hbelow⟩ := exists_of_bind hdescend
    obtain ⟨before, after, rfl, -⟩ :=
      List.lookup_eq_some_iff.mp (child_directory_eq_ok.mp hchild)
    exact h (name, e) (by simp) names l below hbelow

theorem WellNamed.descend {c : FileEntry} {names : List Path} (h : e.WellNamed)
    (hdescend : e.descend names = .ok c) : c.WellNamed := by
  intro below listable children hbelow
  refine h (names ++ below) listable children ?_
  rw [descend_append, hdescend]
  exact hbelow

theorem Linkless.descend {c : FileEntry} {names : List Path} (h : e.Linkless)
    (hdescend : e.descend names = .ok c) : c.Linkless := by
  intro below target hbelow
  refine h (names ++ below) target ?_
  rw [descend_append, hdescend]
  exact hbelow

/-- The ways down a tree through children whose names begin with a mark, each with the entries of
the directory that it leads to. All directories on a way but the last one have to be listed. -/
inductive Leads (mark : List Char) :
    FileEntry → List Path → List (Path × FileEntry) → Prop
  | here (listable : Bool) (children : List (Path × FileEntry)) :
      Leads mark (.directory listable children) [] children
  | down {children below : List (Path × FileEntry)} {name : Path} {e : FileEntry}
      {way : List Path} (hmem : (name, e) ∈ children) (hmark : Discovery.isMarked mark name)
      (hway : Leads mark e way below) : Leads mark (.directory true children) (name :: way) below

theorem Leads.isDirectory {mark : List Char} {way : List Path}
    (h : e.Leads mark way children) : e.isDirectory := by
  cases h <;> rfl

end FileEntry

def Path.along (directory : Path) (way : List Path) : Path := way.foldl join directory

namespace FileTree

theorem withinLimit_of_along {mark : List Char} {start : FileEntry} {way : List Path}
    {children : List (Path × FileEntry)} (hleads : start.Leads mark way children)
    (hnamed : start.WellNamed) {path : Path} (hlimit : withinLimit (path.along way)) :
    withinLimit path := by
  induction hleads generalizing path with
  | here => exact hlimit
  | down hmem hmark hway ih =>
    exact withinLimit_of_join (hnamed.listing.isName _ hmem) (ih (hnamed.child hmem) hlimit)

end FileTree

namespace Discovery

variable {t : FileTree} {mark : List Char} {device : UInt32} {path : Path} {start : FileEntry}
  {way : List Path} {listable : Bool} {children : List (Path × FileEntry)}

def HasNumber (children : List (Path × FileEntry)) (device : UInt32) : Prop :=
  ∃ content text, children.lookup ("devnum" : Path) = some (.file content) ∧
    Text.Utf8.decode? content = some text ∧ Text.Numeral.u32? (Text.trim text) = some device

/-- A way leads to a directory that states the number of a device, in a file whose path is not too
long. -/
structure IsPort (mark : List Char) (device : UInt32) (path : Path) (start : FileEntry)
    (way : List Path) (children : List (Path × FileEntry)) : Prop where
  leads : start.Leads mark way children
  states : HasNumber children device
  within : FileTree.withinLimit ((path.along way).join "devnum")

theorem deviceNumber?_eq_some (hentry : t.entry path = .ok (.directory listable children))
    (hlinkless : (FileEntry.directory listable children).Linkless) :
    deviceNumber? t path = some device ↔
      FileTree.withinLimit (path.join "devnum") ∧ HasNumber children device := by
  have hname : Path.IsName "devnum" := by decide
  simp only [deviceNumber?, HasNumber, bind, Option.bind_eq_some_iff, toOption_eq_some,
    FileTree.readText_eq_ok, FileTree.readBytes_join_eq_ok hentry hname (hlinkless.lookup_ne _)]
  constructor
  · rintro ⟨text, ⟨content, ⟨hlimit, hlookup⟩, hdecode⟩, hnumber⟩
    exact ⟨hlimit, content, text, hlookup, hdecode, hnumber⟩
  · rintro ⟨hlimit, content, text, hlookup, hdecode, hnumber⟩
    exact ⟨text, ⟨content, ⟨hlimit, hlookup⟩, hdecode⟩, hnumber⟩

theorem directory_of_deviceNumber? (hempty : path ≠ .empty)
    (h : deviceNumber? t path = some device) :
    ∃ listable children, t.entry path = .ok (.directory listable children) := by
  simp only [deviceNumber?, bind, Option.bind_eq_some_iff, toOption_eq_some,
    FileTree.readText_eq_ok] at h
  obtain ⟨text, ⟨content, hread, -⟩, -⟩ := h
  obtain ⟨e, hentry, -⟩ := exists_of_bind hread
  exact FileTree.directory_of_join hempty (by decide) hentry

theorem branches_of_unlistable
    (hentry : ∀ children, t.entry path ≠ .ok (.directory true children)) :
    branches t mark path = [] := by
  cases hnames : t.names path with
  | error cause => rw [branches, hnames]
  | ok names =>
    obtain ⟨children, hlist, -⟩ := exists_of_bind hnames
    exact absurd (FileTree.list_eq_ok.mp hlist) (hentry children)

theorem branches_eq (hentry : t.entry path = .ok (.directory true children))
    (hnamed : (FileEntry.directory true children).WellNamed)
    (hlinkless : (FileEntry.directory true children).Linkless) :
    ∃ names : List Path, branches t mark path = names.map path.join ∧ names.Pairwise (· < ·) ∧
      ∀ name, name ∈ names ↔ ∃ e, (name, e) ∈ children ∧ isMarked mark name ∧ e.isDirectory ∧
        FileTree.withinLimit (path.join name) := by
  obtain ⟨names, hnames, hascending, hmem⟩ :=
    FileTree.names_of_list (FileTree.list_eq_ok.mpr hentry) hnamed.listing
  refine ⟨names.filter fun name => isMarked mark name ∧ t.isDirectory (path.join name),
    by rw [branches, hnames], hascending.filter _, fun name => ?_⟩
  have hdirectory {e : FileEntry} (he : (name, e) ∈ children) :
      t.isDirectory (path.join name) ↔
        e.isDirectory ∧ FileTree.withinLimit (path.join name) := by
    rw [FileTree.isDirectory, FileTree.entry_join hentry (hnamed.listing.isName _ he)
      (hlinkless.lookup_ne name), hnamed.listing.lookup he]
    by_cases hlimit : FileTree.withinLimit (path.join name) <;> simp [hlimit]
  rw [List.mem_filter, hmem, decide_eq_true_eq]
  constructor
  · rintro ⟨⟨e, he⟩, hmark, hchild⟩
    exact ⟨e, he, hmark, (hdirectory he).mp hchild⟩
  · rintro ⟨e, he, hmark, hchild⟩
    exact ⟨⟨e, he⟩, hmark, (hdirectory he).mpr hchild⟩

inductive Searched (mark : List Char) (device : UInt32) (path : Path) (start : FileEntry) :
    Option Path → Prop
  | found {way : List Path} {children : List (Path × FileEntry)}
      (hport : IsPort mark device path start way children)
      (hfirst : ∀ other below, IsPort mark device path start other below → List.le way other) :
      Searched mark device path start (some (path.along way))
  | absent (hnone : ∀ way children, ¬IsPort mark device path start way children) :
      Searched mark device path start none

theorem Searched.exists_way {port : Path}
    (h : Searched mark device path start (some port)) :
    ∃ way children, port = path.along way ∧ IsPort mark device path start way children ∧
      ∀ other below, IsPort mark device path start other below → List.le way other := by
  cases h with
  | found hport hfirst => exact ⟨_, _, rfl, hport, hfirst⟩

theorem Searched.not_isPort (h : Searched mark device path start none) :
    ¬IsPort mark device path start way children := by
  cases h with
  | absent hnone => exact hnone _ _

theorem IsPort.within_path (hnamed : start.WellNamed)
    (hport : IsPort mark device path start way children) : FileTree.withinLimit path :=
  FileTree.withinLimit_of_along hport.leads hnamed
    (FileTree.withinLimit_of_join (by decide) hport.within)

theorem isPort_directory {below : List (Path × FileEntry)} :
    IsPort mark device path (.directory listable children) way below ↔
      (way = [] ∧ below = children ∧ FileTree.withinLimit (path.join "devnum") ∧
        HasNumber children device) ∨
      ∃ name e rest, way = name :: rest ∧ listable = true ∧ (name, e) ∈ children ∧
        isMarked mark name ∧ IsPort mark device (path.join name) e rest below := by
  constructor
  · rintro ⟨hleads, hstates, hwithin⟩
    cases hleads with
    | here => exact .inl ⟨rfl, rfl, hwithin, hstates⟩
    | down hmem hmark hway => exact .inr ⟨_, _, _, rfl, rfl, hmem, hmark, hway, hstates, hwithin⟩
  · rintro (⟨rfl, rfl, hwithin, hstates⟩ | ⟨name, e, rest, rfl, rfl, hmem, hmark, hport⟩)
    · exact ⟨.here _ _, hstates, hwithin⟩
    · exact ⟨.down hmem hmark hport.leads, hport.states, hport.within⟩

theorem findPort_of_no_directory (hempty : path ≠ .empty)
    (hentry : ∀ listable children, t.entry path ≠ .ok (.directory listable children))
    (levels : Nat) : findPort t mark device levels path = none := by
  cases levels with
  | zero => rfl
  | succ levels =>
    rw [findPort, if_neg, branches_of_unlistable fun children => hentry true children]
    · rfl
    · intro hnumber
      obtain ⟨listable, children, hdirectory⟩ := directory_of_deviceNumber? hempty hnumber
      exact hentry listable children hdirectory

theorem searched_children (hentry : t.entry path = .ok (.directory true children))
    (hnamed : (FileEntry.directory true children).WellNamed)
    (hlinkless : (FileEntry.directory true children).Linkless)
    (hself : ¬(FileTree.withinLimit (path.join "devnum") ∧ HasNumber children device))
    {search : Path → Option Path}
    (hsearch : ∀ name e, (name, e) ∈ children → FileTree.withinLimit (path.join name) →
      Searched mark device (path.join name) e (search (path.join name))) :
    Searched mark device path (.directory true children)
      ((branches t mark path).findSome? search) := by
  obtain ⟨names, hbranches, hascending, hmem⟩ := branches_eq hentry hnamed hlinkless
  rw [hbranches, List.findSome?_map]
  -- A port below a child is one of those that are searched for below it.
  have hbelow {other : List Path} {below : List (Path × FileEntry)}
      (hother : IsPort mark device path (.directory true children) other below) :
      ∃ name e rest, other = name :: rest ∧ (name, e) ∈ children ∧ name ∈ names ∧
        IsPort mark device (path.join name) e rest below ∧
        Searched mark device (path.join name) e (search (path.join name)) := by
    obtain ⟨-, -, hnumber⟩ | ⟨name, e, rest, rfl, -, he, hmark, hport⟩ :=
      isPort_directory.mp hother
    · exact absurd hnumber hself
    · have hlimit := hport.within_path (hnamed.child he)
      exact ⟨name, e, rest, rfl, he,
        (hmem name).mpr ⟨e, he, hmark, hport.leads.isDirectory, hlimit⟩, hport,
        hsearch name e he hlimit⟩
  cases hfound : names.findSome? (search ∘ path.join) with
  | none =>
    refine .absent fun way below hport => ?_
    obtain ⟨name, e, rest, -, he, hname, hchild, hsearched⟩ := hbelow hport
    have hnone : search (path.join name) = none := List.findSome?_eq_none_iff.mp hfound name hname
    exact (hnone ▸ hsearched).not_isPort hchild
  | some port =>
    obtain ⟨before, name, after, rfl, hport, hbefore⟩ := List.findSome?_eq_some_iff.mp hfound
    obtain ⟨e, he, hmark, -, hlimit⟩ := (hmem name).mp (by simp)
    have hsome : search (path.join name) = some port := hport
    obtain ⟨rest, below, rfl, hchild, hfirst⟩ := (hsome ▸ hsearch name e he hlimit).exists_way
    refine .found (isPort_directory.mpr (.inr ⟨name, e, rest, rfl, rfl, he, hmark, hchild⟩))
      fun other below' hother => ?_
    obtain ⟨name', e', rest', rfl, he', hname', hchild', hsearched'⟩ := hbelow hother
    -- Another port is below a later child, or comes later below this one.
    refine List.cons_le_cons_iff.mpr ?_
    obtain hmem' | hmem' := List.mem_append.mp hname'
    · have hnone : search (path.join name') = none := hbefore name' hmem'
      exact absurd hchild' (hnone ▸ hsearched').not_isPort
    obtain rfl | hmem' := List.mem_cons.mp hmem'
    · cases (hnamed.listing.lookup he).symm.trans (hnamed.listing.lookup he')
      exact .inr ⟨rfl, hfirst _ _ hchild'⟩
    · exact .inl ((List.pairwise_cons.mp (List.pairwise_append.mp hascending).2.1).1 name' hmem')

theorem findPort_first (levels : Nat) (hlevels : FileTree.pathMax < path.bytes.length + levels)
    (hentry : t.entry path = .ok start) (hnamed : start.WellNamed) (hlinkless : start.Linkless)
    (hempty : path ≠ .empty) :
    Searched mark device path start (findPort t mark device levels path) := by
  induction levels generalizing path start with
  | zero =>
    refine .absent fun way children hport => ?_
    have hlimit := hport.within_path hnamed
    rw [FileTree.withinLimit, decide_eq_true_eq] at hlimit
    omega
  | succ levels ih =>
    cases start with
    | directory listable children =>
      rw [findPort]
      split
      · next hnumber =>
        rw [deviceNumber?_eq_some hentry hlinkless] at hnumber
        exact .found (isPort_directory.mpr (.inl ⟨rfl, rfl, hnumber⟩)) fun other _ _ =>
          List.nil_le other
      next hnumber =>
      rw [deviceNumber?_eq_some hentry hlinkless] at hnumber
      cases listable with
      | false =>
        rw [branches_of_unlistable (by simp [hentry])]
        refine .absent fun way below hport => ?_
        obtain ⟨-, -, hself⟩ | ⟨_, _, _, -, hlistable, -⟩ := isPort_directory.mp hport
        · exact hnumber hself
        · cases hlistable
      | true =>
        refine searched_children hentry hnamed hlinkless hnumber fun name e he hlimit => ?_
        have hname : Path.IsName name := hnamed.listing.isName _ he
        have hlonger : path.bytes.length < (path.join name).bytes.length :=
          Path.length_lt_join hname
        have hchild : t.entry (path.join name) = .ok e := by
          rw [FileTree.entry_join hentry hname (hlinkless.lookup_ne name),
            hnamed.listing.lookup he, if_pos hlimit]
        have hlinkless' : e.Linkless := hlinkless.child (hnamed.listing.lookup he)
        refine ih (by omega) hchild (hnamed.child he) hlinkless' ?_
        intro h
        rw [h] at hlonger
        cases hlonger
    | file content =>
      rw [findPort_of_no_directory hempty (by simp [hentry])]
      exact .absent fun way children hport => by cases hport.leads
    | closed cause =>
      rw [findPort_of_no_directory hempty (by simp [hentry])]
      exact .absent fun way children hport => by cases hport.leads
    | link target =>
      rw [findPort_of_no_directory hempty (by simp [hentry])]
      exact .absent fun way children hport => by cases hport.leads

end Discovery

end CardFirmware
