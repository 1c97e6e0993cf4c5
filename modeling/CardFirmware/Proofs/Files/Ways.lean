import CardFirmware.Proofs.Files.Entries

/-! Where paths lead in two trees. A path is followed through directories and links only, so that it
leads to the same place in trees in which the same lists of names lead to them (`resolve_congr`).
Following links or not makes no difference at the end of a path where there is none
(`resolve_follow`). -/

namespace CardFirmware

namespace FileEntry

def bare : FileEntry → FileEntry
  | directory listable _ => directory listable []
  | e => e

def leadsOn : FileEntry → Bool
  | directory .. | link _ => true
  | _ => false

def seen (e : FileEntry) (names : List Path) : Option FileEntry :=
  (e.descend names).toOption.map bare

variable {e c : FileEntry} {children : List (Path × FileEntry)} {listable : Bool}

theorem isDirectory_eq_true :
    e.isDirectory ↔ ∃ listable children, e = directory listable children := by
  cases e <;> simp [isDirectory]

theorem isDirectory_of_leadsOn (h : e.leadsOn = false) : e.isDirectory = false := by
  cases e <;> simp_all [leadsOn, isDirectory]

@[simp] theorem isDirectory_bare : e.bare.isDirectory = e.isDirectory := by
  cases e <;> rfl

@[simp] theorem leadsOn_bare : e.bare.leadsOn = e.leadsOn := by
  cases e <;> rfl

theorem bare_eq_directory :
    e.bare = directory listable [] ↔ ∃ children, e = directory listable children := by
  cases e <;> simp [bare]

theorem bare_of_not_directory (h : e.isDirectory = false) : e.bare = e := by
  cases e <;> first | rfl | cases h

theorem bare_eq_link {target : Path} : e.bare = link target ↔ e = link target := by
  cases e <;> simp [bare]

theorem seen_eq_some {names : List Path} :
    e.seen names = some c ↔ ∃ found, e.descend names = .ok found ∧ found.bare = c := by
  simp only [seen, Option.map_eq_some_iff, toOption_eq_some]

theorem seen_append {names rest : List Path} (h : e.descend names = .ok c) :
    e.seen (names ++ rest) = c.seen rest := by
  rw [seen, descend_append, h]
  rfl

theorem seen_cons (n : Path) (rest : List Path) :
    (directory listable children).seen (n :: rest) =
      (children.lookup n).bind (·.seen rest) := by
  rw [seen, descend, child]
  cases children.lookup n <;> rfl

theorem seen_cons_of_not_directory (h : e.isDirectory = false) (n : Path) (rest : List Path) :
    e.seen (n :: rest) = none := by
  cases e <;> first | rfl | cases h

theorem Linkless.seen_ne (h : e.Linkless) (names : List Path) (target : Path) :
    e.seen names ≠ some (link target) := by
  intro hseen
  obtain ⟨found, hdescend, hbare⟩ := seen_eq_some.mp hseen
  obtain rfl := bare_eq_link.mp hbare
  exact h names target hdescend

end FileEntry

namespace Trail

theorem names_up (trail : Trail) : trail.up.names = trail.names.dropLast := by
  cases trail with
  | nil => rfl
  | cons entry above =>
    obtain ⟨name, e⟩ := entry
    rw [names_cons, List.dropLast_concat]
    rfl

structure Alike (root root' : FileEntry) (a b : Trail) : Prop where
  left : a.Stands root
  right : b.Stands root'
  names : a.names = b.names

theorem Alike.up {root root' : FileEntry} {a b : Trail} (h : Alike root root' a b) :
    Alike root root' a.up b.up :=
  ⟨h.left.up, h.right.up, by rw [a.names_up, b.names_up, h.names]⟩

theorem Alike.base {root root' : FileEntry} {a b : Trail} (h : Alike root root' a b)
    (target : Path) :
    Alike root root' (if target.isAbsolute then [] else a)
      (if target.isAbsolute then [] else b) := by
  split
  · exact ⟨trivial, trivial, rfl⟩
  · exact h

end Trail

def Destination.names : Destination → List Path
  | .dots place => place
  | .name place last _ => place ++ [last]

inductive Reached.Alike (root root' : FileEntry) : Reached → Reached → Prop
  | directory {a b : Trail} (h : Trail.Alike root root' a b) :
      Alike root root' (.directory a) (.directory b)
  | link (target : Path) : Alike root root' (.link target) (.link target)

inductive Advance.Alike (root root' : FileEntry) : Advance → Advance → Prop
  | arrived (destination : Destination) :
      Alike root root' (.arrived destination) (.arrived destination)
  | link {a b : Trail} (h : Trail.Alike root root' a b) (target : Path) (rest : List Path) :
      Alike root root' (.link a target rest) (.link b target rest)

namespace FileTree

variable {t u : FileTree} {name : Path}

/-- Trees in which the same lists of names lead to directories, and the same ones to links. -/
structure SameWays (t u : FileTree) : Prop where
  here : t.here = u.here
  seen : ∀ names e, e.leadsOn → (t.root.seen names = some e ↔ u.root.seen names = some e)

theorem SameWays.symm (h : SameWays t u) : SameWays u t :=
  ⟨h.here.symm, fun names e he => (h.seen names e he).symm⟩

theorem SameWays.trans {v : FileTree} (h : SameWays t u) (h' : SameWays u v) : SameWays t v :=
  ⟨h.here.trans h'.here, fun names e he => (h.seen names e he).trans (h'.seen names e he)⟩

variable {a b : Trail}

theorem SameWays.occupant (h : SameWays t u) (hab : Trail.Alike t.root u.root a b) {e : FileEntry}
    (he : e.leadsOn) (hoccupant : (a.directory t.root).occupant name = .ok (some e)) :
    ∃ e', (b.directory u.root).occupant name = .ok (some e') ∧ e'.bare = e.bare := by
  obtain ⟨hshort, hchild⟩ := FileEntry.occupant_eq_some.mp hoccupant
  rw [← hab.left.descend_concat] at hchild
  have hseen := FileEntry.seen_eq_some.mpr ⟨e, hchild, rfl⟩
  rw [h.seen _ _ (by rwa [FileEntry.leadsOn_bare]), hab.names] at hseen
  obtain ⟨e', hdescend, hbare⟩ := FileEntry.seen_eq_some.mp hseen
  rw [hab.right.descend_concat] at hdescend
  exact ⟨e', FileEntry.occupant_eq_some.mpr ⟨hshort, hdescend⟩, hbare⟩

theorem SameWays.occupant_link (h : SameWays t u) (hab : Trail.Alike t.root u.root a b)
    {target : Path} (hoccupant : (a.directory t.root).occupant name = .ok (some (.link target))) :
    (b.directory u.root).occupant name = .ok (some (.link target)) := by
  obtain ⟨e, he, hbare⟩ := h.occupant hab rfl hoccupant
  obtain rfl := FileEntry.bare_eq_link.mp hbare
  exact he

theorem SameWays.enter (h : SameWays t u) (hab : Trail.Alike t.root u.root a b) {step : Path}
    {reached : Reached} (henter : t.enter a step = .ok reached) :
    ∃ reached', u.enter b step = .ok reached' ∧ Reached.Alike t.root u.root reached reached' := by
  cases enter_eq_ok.mp henter with
  | dot => exact ⟨.directory b, enter_eq_ok.mpr .dot, .directory hab⟩
  | dots => exact ⟨.directory b.up, enter_eq_ok.mpr .dots, .directory hab.up⟩
  | directory hdot hdots hoccupant =>
    obtain ⟨e, he, hbare⟩ := h.occupant hab rfl hoccupant
    obtain ⟨children, rfl⟩ := FileEntry.bare_eq_directory.mp hbare
    have henter' := enter_eq_ok.mpr (.directory hdot hdots he)
    refine ⟨_, henter', .directory ⟨enter_stands henter hab.left,
      enter_stands henter' hab.right, ?_⟩⟩
    rw [Trail.names_cons, Trail.names_cons, hab.names]
  | link hdot hdots hoccupant =>
    exact ⟨_, enter_eq_ok.mpr (.link hdot hdots (h.occupant_link hab hoccupant)), .link _⟩

theorem SameWays.finish (h : SameWays t u) (hab : Trail.Alike t.root u.root a b)
    (follow slashed : Bool) (last : Path) :
    Advance.Alike t.root u.root (t.finish follow slashed a last)
      (u.finish follow slashed b last) := by
  generalize hfinish : t.finish follow slashed a last = advanced
  cases finish_eq.mp hfinish with
  | dot =>
    rw [finish_eq.mpr .dot, hab.names]
    exact .arrived _
  | dots =>
    rw [finish_eq.mpr .dots, hab.up.names]
    exact .arrived _
  | link hdot hdots hfollow hoccupant =>
    rw [finish_eq.mpr (.link hdot hdots hfollow (h.occupant_link hab hoccupant))]
    exact .link hab _ []
  | name hdot hdots hend =>
    have hend' (hfollow : follow = true) (target : Path)
        (hoccupant : (b.directory u.root).occupant last = .ok (some (.link target))) : False :=
      hend hfollow target
        (h.symm.occupant_link ⟨hab.right, hab.left, hab.names.symm⟩ hoccupant)
    rw [finish_eq.mpr (.name hdot hdots hend'), hab.names]
    exact .arrived _

theorem SameWays.advance (h : SameWays t u) (hab : Trail.Alike t.root u.root a b)
    {follow slashed : Bool} {steps : List Path} {advanced : Advance}
    (hadvance : t.advance follow slashed a steps = .ok advanced) :
    ∃ advanced', u.advance follow slashed b steps = .ok advanced' ∧
      Advance.Alike t.root u.root advanced advanced' := by
  induction steps generalizing a b with
  | nil =>
    cases hadvance
    exact ⟨.arrived (.dots b.names), rfl, hab.names ▸ .arrived _⟩
  | cons step rest ih =>
    cases rest with
    | nil =>
      cases hadvance
      exact ⟨_, rfl, h.finish hab follow slashed step⟩
    | cons next rest =>
      rw [advance_cons (List.cons_ne_nil next rest)] at hadvance ⊢
      obtain ⟨reached, henter, hadvance⟩ := exists_of_bind hadvance
      obtain ⟨reached', henter', halike⟩ := h.enter hab henter
      rw [henter']
      cases halike with
      | directory hab' => exact ih hab' hadvance
      | link target =>
        cases hadvance
        exact ⟨_, rfl, .link hab target _⟩

/-- Two ways along the same names may pass different files. -/
theorem SameWays.walk (h : SameWays t u) (hab : Trail.Alike t.root u.root a b) {follow : Bool}
    {links : Nat} {slashed : Bool} {steps : List Path} {destination : Destination}
    (hwalk : t.walk follow links slashed a steps = .ok destination) :
    u.walk follow links slashed b steps = .ok destination := by
  induction links using Nat.strongRecOn generalizing a b slashed steps with
  | _ links ih =>
    obtain hadvance | ⟨fewer, trail, target, rest, rfl, hadvance, hwalk⟩ := walk_eq_ok.mp hwalk
    all_goals
      obtain ⟨advanced, hadvance', halike⟩ := h.advance hab hadvance
      cases halike
    · exact walk_eq_ok.mpr (.inl hadvance')
    · next trail' hab' =>
      have hrest := ih fewer fewer.lt_succ_self (hab'.base target) hwalk
      exact walk_eq_ok.mpr (.inr ⟨fewer, trail', target, rest, rfl, hadvance', hrest⟩)

theorem SameWays.resolve (h : SameWays t u) {follow : Bool} {path : Path}
    {destination : Destination} (hresolve : t.resolve follow path = .ok destination) :
    u.resolve follow path = .ok destination := by
  obtain ⟨hzero, hlimit, hempty, hwalk⟩ := resolve_eq_ok.mp hresolve
  rw [h.here] at hwalk
  have hstart : Trail.Alike t.root u.root [] [] := ⟨trivial, trivial, rfl⟩
  exact resolve_eq_ok.mpr ⟨hzero, hlimit, hempty, h.walk hstart hwalk⟩

theorem resolve_congr (h : SameWays t u) {follow : Bool} {path : Path} {destination : Destination} :
    t.resolve follow path = .ok destination ↔ u.resolve follow path = .ok destination :=
  ⟨h.resolve, h.symm.resolve⟩

theorem finish_follow {slashed : Bool} {last : Path} (hstands : a.Stands t.root)
    (h : ∀ destination, t.finish false slashed a last = .arrived destination →
      ∀ target, t.root.seen destination.names ≠ some (.link target)) :
    t.finish true slashed a last = t.finish false slashed a last := by
  generalize hfinish : t.finish false slashed a last = advanced at h ⊢
  cases finish_eq.mp hfinish with
  | dot => exact finish_eq.mpr .dot
  | dots => exact finish_eq.mpr .dots
  | link hdot hdots hfollow => cases hfollow
  | name hdot hdots _ =>
    refine finish_eq.mpr (.name hdot hdots fun _ target hoccupant => ?_)
    have hchild := FileEntry.child_of_occupant hoccupant
    rw [← hstands.descend_concat] at hchild
    exact h _ rfl target (FileEntry.seen_eq_some.mpr ⟨_, hchild, rfl⟩)

theorem advance_follow {slashed : Bool} {steps : List Path} {advanced : Advance}
    (hstands : a.Stands t.root) (hadvance : t.advance false slashed a steps = .ok advanced)
    (h : ∀ destination, advanced = .arrived destination →
      ∀ target, t.root.seen destination.names ≠ some (.link target)) :
    t.advance true slashed a steps = .ok advanced := by
  induction steps generalizing a with
  | nil => exact hadvance
  | cons step rest ih =>
    cases rest with
    | nil =>
      have hfinish := Except.ok.inj hadvance
      refine congrArg Except.ok ((finish_follow hstands fun destination hd => ?_).trans hfinish)
      exact h destination (hfinish.symm.trans hd)
    | cons next rest =>
      rw [advance_cons (List.cons_ne_nil next rest)] at hadvance ⊢
      obtain ⟨reached, henter, hadvance⟩ := exists_of_bind hadvance
      rw [henter]
      cases reached with
      | directory trail => exact ih (enter_stands henter hstands) hadvance
      | link target => exact hadvance

theorem walk_follow {links : Nat} {slashed : Bool} {steps : List Path} {destination : Destination}
    (hstands : a.Stands t.root) (hwalk : t.walk false links slashed a steps = .ok destination)
    (h : ∀ target, t.root.seen destination.names ≠ some (.link target)) :
    t.walk true links slashed a steps = .ok destination := by
  induction links using Nat.strongRecOn generalizing a slashed steps with
  | _ links ih =>
    obtain hadvance | ⟨fewer, trail, target, rest, rfl, hadvance, hwalk⟩ := walk_eq_ok.mp hwalk
    · refine walk_eq_ok.mpr (.inl (advance_follow hstands hadvance ?_))
      rintro _ ⟨⟩
      exact h
    · have hadvance' := advance_follow hstands hadvance nofun
      have hbase : Trail.Stands t.root (if target.isAbsolute then [] else trail) :=
        stands_base (advance_stands hadvance hstands)
      have hrest := ih fewer fewer.lt_succ_self hbase hwalk
      exact walk_eq_ok.mpr (.inr ⟨fewer, trail, target, rest, rfl, hadvance', hrest⟩)

theorem resolve_follow {path : Path} {destination : Destination}
    (hresolve : t.resolve false path = .ok destination)
    (h : ∀ target, t.root.seen destination.names ≠ some (.link target)) :
    t.resolve true path = .ok destination := by
  obtain ⟨hzero, hlimit, hempty, hwalk⟩ := resolve_eq_ok.mp hresolve
  have hstart : Trail.Stands t.root [] := trivial
  exact resolve_eq_ok.mpr ⟨hzero, hlimit, hempty, walk_follow hstart hwalk h⟩

theorem resolve_linkless (h : t.root.Linkless) (path : Path) :
    t.resolve true path = t.resolve false path := by
  have hadvance {trail : Trail} (slashed : Bool) (steps : List Path)
      (hstands : trail.Stands t.root) :
      t.advance true slashed trail steps = t.advance false slashed trail steps := by
    induction steps generalizing trail with
    | nil => rfl
    | cons step rest ih =>
      cases rest with
      | nil => exact congrArg Except.ok (finish_follow hstands fun _ _ => h.seen_ne _)
      | cons next rest =>
        rw [advance_cons (List.cons_ne_nil next rest), advance_cons (List.cons_ne_nil next rest)]
        cases henter : t.enter trail step with
        | error cause => rfl
        | ok reached =>
          cases reached with
          | directory trail' => exact ih (enter_stands henter hstands)
          | link target => rfl
  have hwalk {trail : Trail} (links : Nat) (slashed : Bool) (steps : List Path)
      (hstands : trail.Stands t.root) :
      t.walk true links slashed trail steps = t.walk false links slashed trail steps := by
    induction links generalizing trail slashed steps with
    | zero => rw [FileTree.walk, FileTree.walk, hadvance slashed steps hstands]
    | succ links ih =>
      rw [FileTree.walk, FileTree.walk, hadvance slashed steps hstands]
      cases hadvanced : t.advance false slashed trail steps with
      | error cause => rfl
      | ok advanced =>
        cases advanced with
        | arrived destination => rfl
        | link trail' target rest =>
          exact ih _ _ (stands_base (advance_stands hadvanced hstands))
  have hstart : Trail.Stands t.root [] := trivial
  unfold resolve
  rw [hwalk _ _ _ hstart]

end FileTree

end CardFirmware
