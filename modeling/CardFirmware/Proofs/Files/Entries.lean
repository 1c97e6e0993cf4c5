import CardFirmware.Proofs.Files.Walks
import Mathlib.Data.List.Nodup

/-! What stands in a directory, by the paths of its entries. A path that is made of a directory and
a name leads to the entry of that name, however the directory is reached (`entry_join`). -/

namespace CardFirmware

namespace FileEntry

variable {e : FileEntry} {name : Path} {listable : Bool} {children : List (Path × FileEntry)}

def Linkless (e : FileEntry) : Prop := ∀ names target, e.descend names ≠ .ok (link target)

theorem linkless_file (content : Bytes) : (file content).Linkless := by
  intro names target h
  cases names <;> cases h

theorem linkless_directory (h : ∀ entry ∈ children, entry.2.Linkless) :
    (directory listable children).Linkless := by
  intro names target hdescend
  cases names with
  | nil => cases hdescend
  | cons name rest =>
    obtain ⟨e, hchild, hrest⟩ := exists_of_bind hdescend
    obtain ⟨before, after, rfl, -⟩ :=
      List.lookup_eq_some_iff.mp (child_directory_eq_ok.mp hchild)
    exact h (name, e) (by simp) rest target hrest

theorem Linkless.child (h : (directory listable children).Linkless)
    (hlookup : children.lookup name = some e) : e.Linkless := by
  intro names target hdescend
  refine h (name :: names) target ?_
  rw [descend, child_directory_eq_ok.mpr hlookup]
  exact hdescend

theorem Linkless.lookup_ne (h : (directory listable children).Linkless) (name target : Path) :
    children.lookup name ≠ some (link target) :=
  fun hlookup => h.child hlookup [] target rfl

/-- The entries of a directory as any system of files keeps them: under different names, each of
which a path can end in. -/
structure Listing (children : List (Path × FileEntry)) : Prop where
  distinct : (children.map (·.1)).Nodup
  isName : ∀ entry ∈ children, Path.IsName entry.1

instance (children : List (Path × FileEntry)) : Decidable (Listing children) :=
  decidable_of_iff ((children.map (·.1)).Nodup ∧ ∀ entry ∈ children, Path.IsName entry.1)
    ⟨fun h => ⟨h.1, h.2⟩, fun h => ⟨h.distinct, h.isName⟩⟩

theorem Listing.lookup (h : Listing children) (hmem : (name, e) ∈ children) :
    children.lookup name = some e := by
  obtain ⟨before, after, hsplit⟩ := List.append_of_mem hmem
  refine List.lookup_eq_some_iff.mpr ⟨before, after, hsplit, fun entry hentry => ?_⟩
  have hdistinct := h.distinct
  rw [hsplit, List.map_append, List.nodup_append] at hdistinct
  rw [bne_iff_ne]
  exact (hdistinct.2.2 entry.1 (List.mem_map_of_mem hentry) name (by simp)).symm

end FileEntry

namespace FileTree

variable {t : FileTree} {directory name : Path} {children : List (Path × FileEntry)}
  {listable : Bool}

theorem withinLimit_of_join (hname : Path.IsName name)
    (hlimit : withinLimit (directory.join name)) : withinLimit directory := by
  rw [withinLimit, decide_eq_true_eq] at hlimit ⊢
  exact Nat.le_trans (Nat.le_of_lt (Path.length_lt_join hname)) hlimit

theorem not_withinLimit_join (hname : Path.IsName name)
    (hlong : pathMax < directory.bytes.length + name.bytes.length) :
    ¬withinLimit (directory.join name) := by
  rw [withinLimit, decide_eq_true_eq, Nat.not_le]
  exact Nat.lt_of_lt_of_le hlong (Path.length_le_join hname)

theorem resolve_join (hentry : t.entry directory = .ok (.directory listable children))
    (hname : Path.IsName name) :
    ∃ links trail, Trail.Stands t.root trail ∧
      trail.directory t.root = .directory listable children ∧
      ∀ follow, t.resolve follow (directory.join name) =
        if withinLimit (directory.join name) then t.walk follow links false trail [name]
        else .error .nameTooLong := by
  obtain ⟨place, hlocate, hdescend⟩ := exists_of_bind hentry
  obtain ⟨destination, hresolve, hsettle⟩ := exists_of_bind hlocate
  obtain ⟨hzero, -, hempty, hwalk⟩ := resolve_eq_ok.mp hresolve
  have hstart : Trail.Stands t.root [] := trivial
  obtain ⟨links, trail, hstands, hdirectory, hwalks⟩ :=
    walk_append hstart hwalk hsettle hdescend
  refine ⟨links, trail, hstands, hdirectory, fun follow => ?_⟩
  have hzero' : 0 ∉ (directory.join name).bytes := by
    rw [Path.join_eq hname.no_slash]
    exact Path.no_zero_front hzero hname
  have hempty' : directory.join name ≠ .empty := by
    intro h
    have hlength : directory.bytes.length < (directory.join name).bytes.length :=
      Path.length_lt_join hname
    rw [h] at hlength
    cases hlength
  have habsolute : (directory.join name).isAbsolute = directory.isAbsolute := by
    rw [Path.join_eq hname.no_slash, Path.isAbsolute_front hempty]
  rw [resolve, if_neg (by simpa using hzero')]
  by_cases hlimit : withinLimit (directory.join name)
  · rw [if_neg (by simpa using hlimit), if_neg hempty', if_pos hlimit, Path.endsInSlash_join hname,
      habsolute, Path.steps_join hname, ← List.append_assoc, hwalks]
  · rw [if_pos (by simpa using hlimit), if_neg hlimit]

theorem resolve_join_name {destination : Destination} (hname : Path.IsName name)
    (h : t.resolve false (directory.join name) = .ok destination) :
    ∃ place, destination = .name place name false := by
  obtain ⟨-, -, -, hwalk⟩ := resolve_eq_ok.mp h
  rw [Path.endsInSlash_join hname, Path.steps_join hname, ← List.append_assoc] at hwalk
  exact walk_concat hname hwalk

theorem directory_of_join {e : FileEntry} (hempty : directory ≠ .empty) (hname : Path.IsName name)
    (h : t.entry (directory.join name) = .ok e) :
    ∃ listable children, t.entry directory = .ok (.directory listable children) := by
  obtain ⟨place, hlocate, -⟩ := exists_of_bind h
  obtain ⟨destination, hresolve, hsettle⟩ := exists_of_bind hlocate
  obtain ⟨hzero, hlimit, -, hwalk⟩ := resolve_eq_ok.mp hresolve
  have habsolute : (directory.join name).isAbsolute = directory.isAbsolute := by
    rw [Path.join_eq hname.no_slash, Path.isAbsolute_front hempty]
  rw [habsolute, Path.steps_join hname, ← List.append_assoc] at hwalk
  have hstart : Trail.Stands t.root [] := trivial
  obtain ⟨before, place', listable, children, hbefore, hplace, hdescend⟩ :=
    walk_before hname hstart hwalk hsettle directory.endsInSlash
  have hzero' : 0 ∉ directory.bytes := fun h => hzero (Path.mem_join hname h)
  have hresolve' : t.resolve true directory = .ok before :=
    resolve_eq_ok.mpr ⟨hzero', withinLimit_of_join hname hlimit, hempty, hbefore⟩
  refine ⟨listable, children, ?_⟩
  simp only [entry, locate, hresolve', bind, Except.bind, hplace]
  exact hdescend

theorem list_eq_ok :
    t.list directory = .ok children ↔ t.entry directory = .ok (.directory true children) := by
  unfold list
  cases t.entry directory with
  | error cause => simp [bind, Except.bind]
  | ok e =>
    cases e with
    | directory listable children => cases listable <;> simp [bind, Except.bind]
    | file content => simp [bind, Except.bind]
    | closed cause => simp [bind, Except.bind]
    | link target => simp [bind, Except.bind]

theorem entry_join (hentry : t.entry directory = .ok (.directory listable children))
    (hname : Path.IsName name) (hlink : ∀ target, children.lookup name ≠ some (.link target)) :
    t.entry (directory.join name) =
      if withinLimit (directory.join name) then
        match children.lookup name with
        | some e => .ok e
        | none => .error .notFound
      else .error .nameTooLong := by
  obtain ⟨links, trail, hstands, hdirectory, hresolve⟩ := resolve_join hentry hname
  have hoccupant : (trail.directory t.root).occupant name = .ok (children.lookup name) := by
    rw [hdirectory, FileEntry.occupant_directory hname.short]
  have hwalk : t.walk true links false trail [name] = .ok (.name trail.names name false) := by
    refine walk_eq_ok.mpr (.inl (congrArg Except.ok (finish_name hname fun _ target h => ?_)))
    rw [hoccupant] at h
    exact hlink target (Except.ok.inj h)
  have hsettle : t.occupant trail.names name = .ok (children.lookup name) := by
    rw [occupant, hstands.descend]
    exact hoccupant
  have hdescend : t.root.descend (trail.names ++ [name]) =
      (FileEntry.directory listable children).child name >>= (·.descend []) := by
    rw [FileEntry.descend_append, hstands.descend, hdirectory]
    rfl
  unfold entry locate
  rw [hresolve]
  split
  · rw [hwalk]
    simp only [bind, Except.bind, settle, hsettle]
    cases hlookup : children.lookup name with
    | none => rfl
    | some e =>
      simp only [Bool.false_eq_true, false_and, if_false, pure, Except.pure, hdescend,
        FileEntry.child_directory_eq_ok.mpr hlookup]
      rfl
  · rfl

theorem readBytes_join_eq_ok {content : Bytes}
    (hentry : t.entry directory = .ok (.directory listable children)) (hname : Path.IsName name)
    (hlink : ∀ target, children.lookup name ≠ some (.link target)) :
    t.readBytes (directory.join name) = .ok content ↔
      withinLimit (directory.join name) ∧ children.lookup name = some (.file content) := by
  unfold readBytes
  rw [entry_join hentry hname hlink]
  split
  · next hlimit =>
    cases hlookup : children.lookup name with
    | none => simp [bind, Except.bind]
    | some e =>
      cases e with
      | file content => simp [bind, Except.bind, hlimit]
      | closed cause => simp [bind, Except.bind]
      | link target => exact absurd hlookup (hlink target)
      | directory listable children => cases listable <;> simp [bind, Except.bind]
  · next hlimit => simp [bind, Except.bind, hlimit]

theorem readText_eq_ok {path : Path} {text : String} : t.readText path = .ok text ↔
    ∃ content, t.readBytes path = .ok content ∧ Text.Utf8.decode? content = some text := by
  unfold readText
  cases t.readBytes path with
  | error cause => simp [bind, Except.bind]
  | ok content =>
    simp only [bind, Except.bind, Except.ok.injEq, exists_eq_left']
    cases Text.Utf8.decode? content <;> simp

theorem names_of_list (hlist : t.list directory = .ok children)
    (hlisting : FileEntry.Listing children) :
    ∃ names, t.names directory = .ok names ∧ names.Pairwise (· < ·) ∧
      ∀ name, name ∈ names ↔ ∃ e, (name, e) ∈ children := by
  refine ⟨(children.map (·.1)).mergeSort fun a b => decide (a ≤ b), ?_, ?_, fun name => ?_⟩
  · rw [names, hlist]
    rfl
  · have htrans (a b c : Path) (hab : decide (a ≤ b)) (hbc : decide (b ≤ c)) : decide (a ≤ c) :=
      decide_eq_true (Path.le_trans (of_decide_eq_true hab) (of_decide_eq_true hbc))
    have htotal (a b : Path) : decide (a ≤ b) || decide (b ≤ a) := by
      simpa using Path.le_total a b
    have hsorted := List.pairwise_mergeSort htrans htotal (children.map (·.1))
    have hperm := List.mergeSort_perm (children.map (·.1)) fun a b => decide (a ≤ b)
    have hdistinct := hperm.nodup_iff.mpr hlisting.distinct
    refine (hsorted.and hdistinct).imp fun h => Path.not_le.mp fun hle => ?_
    exact h.2 (Path.le_antisymm (of_decide_eq_true h.1) hle)
  · simp

theorem entry_dotted {path : Path} (n : Nat) (hhere : t.here = []) (hempty : path ≠ .empty)
    (habsolute : path.isAbsolute = false) (hsteps : path.steps ≠ [])
    (hlimit : 2 * n + path.bytes.length ≤ pathMax) : t.entry (.dotted n path) = t.entry path := by
  have hlong : withinLimit (.dotted n path) := by
    rw [withinLimit, Path.length_dotted, decide_eq_true_eq]
    exact hlimit
  have hshort : withinLimit path := by
    rw [withinLimit, decide_eq_true_eq]
    exact Nat.le_trans (Nat.le_add_left _ _) hlimit
  have hresolve : t.resolve true (.dotted n path) = t.resolve true path := by
    simp only [resolve, List.contains_iff_mem, Path.zero_mem_dotted, hlong, hshort, hempty,
      Path.dotted_ne_empty n hempty, Path.endsInSlash_dotted n hempty, habsolute,
      Path.isAbsolute_dotted n habsolute, hhere, Path.steps_dotted, Bool.false_eq_true,
      if_false, List.nil_append, walk_dotted n hsteps]
  simp only [entry, locate, hresolve]

end FileTree

end CardFirmware
