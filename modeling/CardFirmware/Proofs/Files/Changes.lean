import CardFirmware.Proofs.Files.Ways
import Mathlib.Logic.Function.Basic

/-! What a change of one file leaves as it was. A tree is seen by the entries that lists of names
lead to; writing and moving files changes what one or two lists lead to (`write_eq_ok`,
`rename_eq_ok`). A change of a file shows at the paths that lead to it only (`Changed.shown`). -/

namespace CardFirmware

namespace FileEntry

variable {e c : FileEntry} {children children' : List (Path × FileEntry)} {listable : Bool}
  {name : Path} {place : List Path} {found : Option FileEntry}

theorem lookup_entry (m n : Path) (e : FileEntry) (rest : List (Path × FileEntry)) :
    ((m, e) :: rest).lookup n = if n = m then some e else rest.lookup n := by
  rw [List.lookup_cons]
  by_cases h : n = m
  · simp [h]
  · rw [beq_false_of_ne h, if_neg h]

theorem lookup_setChild (n : Path) :
    (setChild name c children).lookup n = if n = name then some c else children.lookup n := by
  induction children with
  | nil => rw [setChild, lookup_entry]
  | cons entry rest ih =>
    obtain ⟨m, e⟩ := entry
    rw [setChild]
    split
    · next hm =>
      rw [lookup_entry, lookup_entry, hm]
      by_cases hn : n = name <;> simp [hn]
    · next hm =>
      rw [lookup_entry, lookup_entry, ih]
      by_cases hn : n = m
      · simp [hn, hm]
      · simp [hn]

theorem lookup_filter (n : Path) :
    (children.filter (·.1 ≠ name)).lookup n = if n = name then none else children.lookup n := by
  induction children with
  | nil => simp
  | cons entry rest ih =>
    obtain ⟨m, e⟩ := entry
    by_cases hm : m = name
    · rw [List.filter_cons_of_neg (by simp [hm]), ih, lookup_entry, hm]
      by_cases hn : n = name <;> simp [hn]
    · rw [List.filter_cons_of_pos (by simp [hm]), lookup_entry, lookup_entry, ih]
      by_cases hn : n = m
      · simp [hn, hm]
      · simp [hn]

theorem lookup_map (f : FileEntry → FileEntry) (n : Path) :
    (children.map fun (m, e) => if m = name then (m, f e) else (m, e)).lookup n =
      (children.lookup n).map fun e => if n = name then f e else e := by
  induction children with
  | nil => rfl
  | cons entry rest ih =>
    obtain ⟨m, e⟩ := entry
    have hentry : (if m = name then (m, f e) else (m, e)) = (m, if m = name then f e else e) := by
      split <;> rfl
    rw [List.map_cons]
    simp only [hentry, lookup_entry, ih]
    by_cases hn : n = m <;> simp [hn]

theorem seen_alter {f : List (Path × FileEntry) → List (Path × FileEntry)}
    (h : e.descend place = .ok (directory listable children)) (names : List Path) :
    (e.alter f place).seen names =
      if place <+: names then (directory listable (f children)).seen (names.drop place.length)
      else e.seen names := by
  induction place generalizing e names with
  | nil =>
    cases h
    simp [alter]
  | cons p ps ih =>
    obtain ⟨c, hchild, hc⟩ := exists_of_bind h
    cases e with
    | file content => cases hchild
    | closed cause => cases hchild
    | link target => cases hchild
    | directory l cs =>
      have hlookup := child_directory_eq_ok.mp hchild
      rw [alter]
      cases names with
      | nil => rfl
      | cons n rest =>
        rw [seen_cons, seen_cons, lookup_map]
        by_cases hn : n = p
        · subst hn
          simp [hlookup, ih hc]
        · simp [hn, Ne.symm hn]

theorem seen_update
    (hlookup : ∀ n, children'.lookup n = if n = name then found else children.lookup n)
    (hold : ∀ c ∈ children.lookup name, c.isDirectory = false)
    (hnew : ∀ c ∈ found, c.isDirectory = false) :
    (directory listable children').seen =
      Function.update (directory listable children).seen [name] found := by
  funext names
  cases names with
  | nil => rfl
  | cons n rest =>
    rw [seen_cons, hlookup]
    by_cases hn : n = name
    · subst hn
      rw [if_pos rfl]
      cases rest with
      | nil =>
        rw [Function.update_self]
        cases found with
        | none => rfl
        | some c => exact congrArg some (bare_of_not_directory (hnew c rfl))
      | cons m rest =>
        rw [Function.update_of_ne (by simp), seen_cons]
        -- Nothing is seen below a name that no directory stands under, before and after.
        have hnone {o : Option FileEntry} (ho : ∀ c ∈ o, c.isDirectory = false) :
            (o.bind fun c => c.seen (m :: rest)) = none :=
          Option.bind_eq_none_iff.mpr fun c hc => seen_cons_of_not_directory (ho c hc) m rest
        rw [hnone hold, hnone hnew]
    · rw [if_neg hn, Function.update_of_ne (by simp [hn]), seen_cons]

theorem seen_alter_update {f : List (Path × FileEntry) → List (Path × FileEntry)}
    (hplace : e.descend place = .ok (directory listable children))
    (hlookup : ∀ n, (f children).lookup n = if n = name then found else children.lookup n)
    (hold : ∀ c ∈ children.lookup name, c.isDirectory = false)
    (hnew : ∀ c ∈ found, c.isDirectory = false) :
    (e.alter f place).seen = Function.update e.seen (place ++ [name]) found := by
  funext names
  rw [seen_alter hplace, seen_update hlookup hold hnew]
  split
  · next hprefix =>
    obtain ⟨rest, rfl⟩ := hprefix
    rw [List.drop_left]
    by_cases hrest : rest = [name]
    · rw [hrest, Function.update_self, Function.update_self]
    · rw [Function.update_of_ne hrest, Function.update_of_ne (by simp [hrest]),
        seen_append hplace]
  · next hprefix =>
    rw [Function.update_of_ne]
    rintro rfl
    exact hprefix (List.prefix_append place [name])

end FileEntry

namespace FileTree

variable {t u : FileTree} {place : List Path} {name : Path} {found : Option FileEntry}

structure Changed (t : FileTree) (names : List Path) (found : Option FileEntry) (u : FileTree) :
    Prop where
  here : u.here = t.here
  seen : u.root.seen = Function.update t.root.seen names found

section Changed

variable {t' u' : FileTree} {names : List Path} {found' : Option FileEntry}

theorem Changed.refl (t : FileTree) (names : List Path) :
    Changed t names (t.root.seen names) t :=
  ⟨rfl, (Function.update_eq_self names t.root.seen).symm⟩

theorem Changed.undo (h : Changed t names found u) : Changed u names (t.root.seen names) t := by
  refine ⟨h.here.symm, ?_⟩
  rw [h.seen, Function.update_idem, Function.update_eq_self]

theorem SameWays.changed (h : SameWays t u) (ht : Changed t names found t')
    (hu : Changed u names found' u') (hfound : ∀ e ∈ found, e.leadsOn = false)
    (hfound' : ∀ e ∈ found', e.leadsOn = false) : SameWays t' u' := by
  refine ⟨ht.here.trans (h.here.trans hu.here.symm), fun other e he => ?_⟩
  rw [ht.seen, hu.seen]
  by_cases hother : other = names
  · subst hother
    rw [Function.update_self, Function.update_self]
    refine iff_of_false (fun h => ?_) fun h => ?_
    · exact Bool.noConfusion (he.symm.trans (hfound e h))
    · exact Bool.noConfusion (he.symm.trans (hfound' e h))
  · rw [Function.update_of_ne hother, Function.update_of_ne hother]
    exact h.seen other e he

theorem Changed.sameWays (h : Changed t names found u)
    (hold : ∀ e ∈ t.root.seen names, e.leadsOn = false)
    (hnew : ∀ e ∈ found, e.leadsOn = false) : SameWays t u :=
  SameWays.changed ⟨rfl, fun _ _ _ => Iff.rfl⟩ (.refl t names) h hold hnew

def IsPlace (t : FileTree) (place : List Path) : Prop :=
  ∃ e ∈ t.root.seen place, e.isDirectory

def IsVacant (t : FileTree) (names : List Path) : Prop :=
  ∀ e ∈ t.root.seen names, e.isDirectory = false

theorem Changed.isPlace (h : Changed t names found u) (hold : t.IsVacant names)
    (hplace : t.IsPlace place) : u.IsPlace place := by
  obtain ⟨e, he, hdirectory⟩ := hplace
  refine ⟨e, ?_, hdirectory⟩
  rw [h.seen, Function.update_of_ne]
  · exact he
  · rintro rfl
    exact Bool.noConfusion (hdirectory.symm.trans (hold e he))

theorem Changed.isVacant {other : List Path} (h : Changed t names found u)
    (hfound : ∀ e ∈ found, e.isDirectory = false) (hother : t.IsVacant other) :
    u.IsVacant other := by
  unfold IsVacant
  rw [h.seen]
  by_cases hsame : other = names
  · rw [hsame, Function.update_self]
    exact hfound
  · rw [Function.update_of_ne hsame]
    exact hother

theorem isPlace_iff :
    t.IsPlace place ↔
      ∃ listable children, t.root.descend place = .ok (.directory listable children) := by
  constructor
  · rintro ⟨_, he, hdirectory⟩
    obtain ⟨e, hdescend, rfl⟩ := FileEntry.seen_eq_some.mp he
    rw [FileEntry.isDirectory_bare] at hdirectory
    obtain ⟨listable, children, rfl⟩ := FileEntry.isDirectory_eq_true.mp hdirectory
    exact ⟨listable, children, hdescend⟩
  · rintro ⟨listable, children, hdescend⟩
    exact ⟨_, FileEntry.seen_eq_some.mpr ⟨_, hdescend, rfl⟩, rfl⟩

theorem changed_alter {f : List (Path × FileEntry) → List (Path × FileEntry)}
    (hlookup : ∀ children n, (f children).lookup n = if n = name then found else children.lookup n)
    (hplace : t.IsPlace place) (hold : t.IsVacant (place ++ [name]))
    (hnew : ∀ c ∈ found, c.isDirectory = false) :
    Changed t (place ++ [name]) found { t with root := t.root.alter f place } := by
  obtain ⟨listable, children, hdescend⟩ := isPlace_iff.mp hplace
  refine ⟨rfl, FileEntry.seen_alter_update hdescend (hlookup children) (fun c hc => ?_) hnew⟩
  unfold IsVacant at hold
  rw [FileEntry.seen_append hdescend, FileEntry.seen_cons, Option.mem_def.mp hc] at hold
  rw [← FileEntry.isDirectory_bare]
  exact hold c.bare rfl

theorem changed_put {c : FileEntry} (hplace : t.IsPlace place)
    (hold : t.IsVacant (place ++ [name])) (hc : c.isDirectory = false) :
    Changed t (place ++ [name]) (some c) (t.put place name c) :=
  changed_alter (fun _ => FileEntry.lookup_setChild) hplace hold (by rintro _ ⟨⟩; exact hc)

theorem changed_erase (hplace : t.IsPlace place) (hold : t.IsVacant (place ++ [name])) :
    Changed t (place ++ [name]) none (t.erase place name) :=
  changed_alter (fun _ => FileEntry.lookup_filter) hplace hold nofun

theorem occupant_seen (h : t.occupant place name = .ok found) :
    name.bytes.length ≤ FileEntry.nameMax ∧ t.IsPlace place ∧
      t.root.seen (place ++ [name]) = found.map FileEntry.bare := by
  obtain ⟨e, hdescend, h⟩ := exists_of_bind h
  obtain ⟨hshort, listable, children, rfl, rfl⟩ := FileEntry.occupant_eq_ok h
  refine ⟨hshort, isPlace_iff.mpr ⟨listable, children, hdescend⟩, ?_⟩
  rw [FileEntry.seen_append hdescend, FileEntry.seen_cons]
  cases children.lookup name <;> rfl

theorem exists_occupant (hshort : name.bytes.length ≤ FileEntry.nameMax)
    (hplace : t.IsPlace place) :
    ∃ found, t.occupant place name = .ok found := by
  obtain ⟨listable, children, hdescend⟩ := isPlace_iff.mp hplace
  refine ⟨children.lookup name, ?_⟩
  rw [occupant, hdescend]
  exact FileEntry.occupant_directory hshort

theorem isVacant_of_occupant (h : t.occupant place name = .ok found)
    (hfound : ∀ c ∈ found, c.isDirectory = false) : t.IsVacant (place ++ [name]) := by
  intro e he
  rw [(occupant_seen h).2.2] at he
  obtain ⟨c, rfl, rfl⟩ := Option.map_eq_some_iff.mp he
  rw [FileEntry.isDirectory_bare]
  exact hfound c rfl

theorem removeFile_eq_ok {path : Path} (h : t.removeFile path = .ok u) :
    ∃ place name, t.resolve false path = .ok (.name place name false) ∧
      t.IsVacant (place ++ [name]) ∧ Changed t (place ++ [name]) none u := by
  obtain ⟨destination, hresolve, h⟩ := exists_of_bind h
  match destination, h with
  | .name place name slashed, h =>
    obtain ⟨found, hoccupant, h⟩ := exists_of_bind h
    have hvacant (hfound : ∀ c ∈ found, c.isDirectory = false) :=
      isVacant_of_occupant hoccupant hfound
    obtain ⟨-, hplace, -⟩ := occupant_seen hoccupant
    split at h
    · cases h
    · cases h
    next e hne =>
    split at h
    · cases h
    next hslashed =>
    cases h
    have hold : t.IsVacant (place ++ [name]) := by
      refine hvacant ?_
      rintro _ ⟨⟩
      refine Bool.eq_false_iff.mpr fun hdirectory => ?_
      obtain ⟨listable, children, rfl⟩ := FileEntry.isDirectory_eq_true.mp hdirectory
      exact hne listable children rfl
    exact ⟨place, name, by simpa [hslashed] using hresolve, hold, changed_erase hplace hold⟩

theorem filePlace_eq_ok {path : Path} {content : Bytes}
    (h : t.filePlace path = .ok (place, name, content)) :
    t.resolve (!path.endsInSlash) path = .ok (.name place name false) ∧ t.IsPlace place ∧
      ∀ e ∈ t.root.seen (place ++ [name]), e.leadsOn = false := by
  obtain ⟨destination, hresolve, h⟩ := exists_of_bind h
  match destination, h with
  | .name place name false, h =>
    obtain ⟨found, hoccupant, h⟩ := exists_of_bind h
    obtain ⟨-, hplace, hseen⟩ := occupant_seen hoccupant
    match found, h with
    | none, h =>
      cases h
      exact ⟨hresolve, hplace, by simp [hseen]⟩
    | some (.file old), h =>
      cases h
      exact ⟨hresolve, hplace, by simp [hseen, FileEntry.bare, FileEntry.leadsOn]⟩

theorem write_eq_ok {path : Path} {content : Bytes} (h : t.write path content = .ok u) :
    ∃ place name, t.resolve (!path.endsInSlash) path = .ok (.name place name false) ∧
      (∀ e ∈ t.root.seen (place ++ [name]), e.leadsOn = false) ∧
      Changed t (place ++ [name]) (some (.file content)) u := by
  obtain ⟨⟨place, name, old⟩, hfile, h⟩ := exists_of_bind h
  cases h
  obtain ⟨hresolve, hplace, hold⟩ := filePlace_eq_ok hfile
  have hvacant : t.IsVacant (place ++ [name]) := fun e he =>
    FileEntry.isDirectory_of_leadsOn (hold e he)
  exact ⟨place, name, hresolve, hold, changed_put hplace hvacant rfl⟩

theorem rename_eq_ok {source target : Path} (h : t.rename source target = .ok u) :
    ∃ place name place₂ name₂ c t₁, t.resolve false source = .ok (.name place name false) ∧
      t.resolve false target = .ok (.name place₂ name₂ false) ∧
      name₂.bytes.length ≤ FileEntry.nameMax ∧ t.IsPlace place₂ ∧
      t.IsVacant (place₂ ++ [name₂]) ∧ t.root.seen (place ++ [name]) = some c ∧
      Changed t (place ++ [name]) none t₁ ∧ Changed t₁ (place₂ ++ [name₂]) (some c) u := by
  obtain ⟨destination, hsource, h⟩ := exists_of_bind h
  obtain ⟨destination₂, htarget, h⟩ := exists_of_bind h
  match destination, destination₂, h with
  | .name place name slashed, .name place₂ name₂ slashed₂, h =>
    obtain ⟨found, hoccupant, h⟩ := exists_of_bind h
    obtain ⟨-, hplace, hseen⟩ := occupant_seen hoccupant
    split at h
    · cases h
    · cases h
    next e hne =>
    have he : e.isDirectory = false := by
      rw [Bool.eq_false_iff]
      intro hdirectory
      obtain ⟨listable, children, rfl⟩ := FileEntry.isDirectory_eq_true.mp hdirectory
      exact hne listable children rfl
    rw [Option.map_some, FileEntry.bare_of_not_directory he] at hseen
    obtain ⟨old, hoccupant₂, hmove⟩ := exists_of_bind h
    obtain ⟨hshort, hplace₂, -⟩ := occupant_seen hoccupant₂
    split at hmove
    · cases hmove
    next hslashes =>
    obtain ⟨rfl, rfl⟩ : slashed = false ∧ slashed₂ = false := by simpa using hslashes
    split at hmove
    · cases hmove
    next hne₂ =>
    cases hmove
    have hvacant₂ : t.IsVacant (place₂ ++ [name₂]) := by
      refine isVacant_of_occupant hoccupant₂ fun c hc => Bool.eq_false_iff.mpr fun hdirectory => ?_
      obtain ⟨listable, children, rfl⟩ := FileEntry.isDirectory_eq_true.mp hdirectory
      exact hne₂ listable children hc
    have hvacant : t.IsVacant (place ++ [name]) := by
      unfold IsVacant
      rw [hseen]
      rintro _ ⟨⟩
      exact he
    have herase := changed_erase hplace hvacant
    -- The target was looked at first, but taking the file away changes no directory.
    have hput := changed_put (herase.isPlace hvacant hplace₂) (herase.isVacant nofun hvacant₂) he
    exact ⟨place, name, place₂, name₂, e, _, hsource, htarget, hshort, hplace₂, hvacant₂, hseen,
      herase, hput⟩

theorem discardFile_changed {path : Path}
    (hresolve : t.resolve false path = .ok (.name place name false))
    (hshort : name.bytes.length ≤ FileEntry.nameMax) (hplace : t.IsPlace place)
    (hold : t.IsVacant (place ++ [name])) :
    Changed t (place ++ [name]) none (t.discardFile path) := by
  obtain ⟨found, hoccupant⟩ := exists_occupant hshort hplace
  obtain ⟨-, -, hseen⟩ := occupant_seen hoccupant
  unfold discardFile removeFile
  simp only [hresolve, hoccupant, bind, Except.bind]
  cases found with
  | none =>
    have hrefl := Changed.refl t (place ++ [name])
    rw [hseen] at hrefl
    exact hrefl
  | some e =>
    have herase := changed_erase hplace hold
    cases e with
    | directory listable children =>
      cases hold _ hseen
    | file content => exact herase
    | closed cause => exact herase
    | link target => exact herase

end Changed

section Shown

variable {path : Path}

/-- What stands at a path, without what stands below it. -/
def shown (t : FileTree) (path : Path) : Option FileEntry :=
  (t.entry path).toOption.map FileEntry.bare

def shownAt (t : FileTree) : Destination → Option FileEntry
  | .dots place => t.root.seen place
  | .name place last slashed =>
    if last.bytes.length ≤ FileEntry.nameMax then
      (t.root.seen (place ++ [last])).filter fun e => !slashed || e.isDirectory
    else none

theorem readBytes_eq_ok {content : Bytes} :
    t.readBytes path = .ok content ↔ t.shown path = some (.file content) := by
  unfold readBytes shown
  cases t.entry path with
  | error cause => simp [bind, Except.bind, Except.toOption]
  | ok e =>
    cases e with
    | directory listable children =>
      cases listable <;> simp [bind, Except.bind, Except.toOption, FileEntry.bare]
    | file content => simp [bind, Except.bind, Except.toOption, FileEntry.bare]
    | closed cause => simp [bind, Except.bind, Except.toOption, FileEntry.bare]
    | link target => simp [bind, Except.bind, Except.toOption, FileEntry.bare]

theorem settle_name_shown (place : List Path) (last : Path) (slashed : Bool) :
    (t.settle (.name place last slashed) >>= t.root.descend).toOption.map FileEntry.bare =
      t.shownAt (.name place last slashed) := by
  refine Option.ext fun c => ?_
  simp only [Option.map_eq_some_iff, toOption_eq_some, shownAt]
  constructor
  · rintro ⟨e, h, rfl⟩
    obtain ⟨names, hsettle, hdescend⟩ := exists_of_bind h
    obtain ⟨found, hoccupant, hsettle⟩ := exists_of_bind hsettle
    obtain ⟨hshort, -, hseen⟩ := occupant_seen hoccupant
    cases found with
    | none => cases hsettle
    | some e' =>
      simp only at hsettle
      split at hsettle
      · cases hsettle
      next hslashed =>
      cases hsettle
      have he := FileEntry.seen_eq_some.mpr ⟨e, hdescend, rfl⟩
      have hbare : e.bare = e'.bare := Option.some.inj (he.symm.trans hseen)
      rw [if_pos hshort, he, hbare, Option.filter_some, if_pos]
      rw [FileEntry.isDirectory_bare]
      cases slashed <;> simp_all
  · split
    · next hshort =>
      intro h
      obtain ⟨hseen, hslashed⟩ := Option.filter_eq_some_iff.mp h
      obtain ⟨e, hdescend, rfl⟩ := FileEntry.seen_eq_some.mp hseen
      refine ⟨e, ?_, rfl⟩
      have hsplit := hdescend
      rw [FileEntry.descend_append] at hsplit
      obtain ⟨d, hplace, hlast⟩ := exists_of_bind hsplit
      obtain ⟨c, hchild, hc⟩ := exists_of_bind hlast
      cases hc
      have hoccupant : t.occupant place last = .ok (some e) := by
        rw [occupant, hplace]
        exact FileEntry.occupant_eq_some.mpr ⟨hshort, hchild⟩
      rw [settle, hoccupant]
      simp only [bind, Except.bind]
      rw [if_neg (by cases slashed <;> simp_all)]
      exact hdescend
    · intro h
      cases h

theorem shown_eq : t.shown path = (t.resolve true path).toOption.bind t.shownAt := by
  unfold shown entry locate
  cases t.resolve true path with
  | error cause => rfl
  | ok destination =>
    cases destination with
    | dots place => rfl
    | name place last slashed => exact settle_name_shown place last slashed

theorem Changed.shown (h : Changed t (place ++ [name]) found u)
    (hold : ∀ e ∈ t.root.seen (place ++ [name]), e.leadsOn = false)
    (hnew : ∀ e ∈ found, e.leadsOn = false)
    (hother : t.resolve true path ≠ .ok (.name place name false)) :
    u.shown path = t.shown path := by
  have hresolve : (u.resolve true path).toOption = (t.resolve true path).toOption := by
    refine Option.ext fun destination => ?_
    rw [toOption_eq_some, toOption_eq_some, resolve_congr (h.sameWays hold hnew)]
  rw [shown_eq, shown_eq, hresolve]
  refine Option.bind_congr fun destination hdestination => ?_
  rw [toOption_eq_some] at hdestination
  have hseen {names : List Path} (hne : names ≠ place ++ [name]) :
      u.root.seen names = t.root.seen names := by
    rw [h.seen, Function.update_of_ne hne]
  cases destination with
  | dots place' =>
    refine hseen ?_
    rintro rfl
    obtain ⟨-, -, -, hwalk⟩ := resolve_eq_ok.mp hdestination
    have hstart : Trail.Stands t.root [] := trivial
    obtain ⟨trail, hstands, hnames⟩ := walk_dots hstart hwalk
    have hdirectory := hstands.isDirectory (by rintro rfl; simp [Trail.names] at hnames)
    have he := FileEntry.seen_eq_some.mpr ⟨_, hnames ▸ hstands.descend, rfl⟩
    have hno := FileEntry.isDirectory_of_leadsOn (hold _ he)
    rw [FileEntry.isDirectory_bare, hdirectory] at hno
    cases hno
  | name place' last slashed =>
    rw [shownAt, shownAt]
    by_cases hsame : place' ++ [last] = place ++ [name]
    · obtain ⟨rfl, hlast⟩ := List.append_inj' hsame rfl
      cases hlast
      cases slashed with
      | false => exact absurd hdestination hother
      | true =>
        -- With a slash only a directory would show.
        have hnone {o : Option FileEntry} (ho : ∀ e ∈ o, e.leadsOn = false) :
            (o.filter fun e => !true || e.isDirectory) = none := by
          refine Option.filter_eq_none_iff.mpr fun e he => ?_
          simp [FileEntry.isDirectory_of_leadsOn (ho e he)]
        rw [hnone hold, h.seen, Function.update_self, hnone hnew]
    · rw [hseen hsame]

end Shown

end FileTree

end CardFirmware