import CardFirmware.Proofs.Files.Paths

/-! Where paths lead. Each step leads to the directory itself, to the one above it, to one that
stands in it, or to a link (`enter_eq_ok`); the last one may lead to a name (`finish_eq`). Steps are
taken to the end or up to the first link, whose own steps are taken next (`walk_eq_ok`). -/

namespace CardFirmware

theorem exists_of_bind {α β : Type} {x : Except IoError α} {f : α → Except IoError β} {b : β}
    (h : x >>= f = .ok b) : ∃ a, x = .ok a ∧ f a = .ok b := by
  cases x with
  | error cause => cases h
  | ok a => exact ⟨a, rfl, h⟩

theorem toOption_eq_some {α : Type} {x : Except IoError α} {a : α} :
    x.toOption = some a ↔ x = .ok a := by
  cases x <;> simp [Except.toOption]

namespace FileEntry

variable {e c : FileEntry} {name : Path} {listable : Bool} {children : List (Path × FileEntry)}
  {found : Option FileEntry}

theorem descend_append (e : FileEntry) (names rest : List Path) :
    e.descend (names ++ rest) = e.descend names >>= (·.descend rest) := by
  induction names generalizing e with
  | nil => rfl
  | cons name names ih =>
    rw [List.cons_append, descend, descend]
    cases e.child name with
    | error cause => rfl
    | ok c => exact ih c

theorem child_directory_eq_ok :
    (directory listable children).child name = .ok c ↔ children.lookup name = some c := by
  rw [child]
  cases children.lookup name <;> simp

theorem child_of_occupant (h : e.occupant name = .ok (some c)) : e.child name = .ok c := by
  unfold occupant at h
  split at h
  · cases h
  · split at h
    · next c' hchild =>
      cases h
      exact hchild
    · cases h
    · cases h

theorem occupant_directory (h : name.bytes.length ≤ nameMax) :
    (directory listable children).occupant name = .ok (children.lookup name) := by
  rw [occupant, if_neg (Nat.not_lt.mpr h), child]
  cases children.lookup name <;> rfl

theorem occupant_eq_some :
    e.occupant name = .ok (some c) ↔ name.bytes.length ≤ nameMax ∧ e.child name = .ok c := by
  constructor
  · intro h
    refine ⟨?_, child_of_occupant h⟩
    by_contra hlong
    rw [occupant, if_pos (Nat.not_le.mp hlong)] at h
    cases h
  · rintro ⟨hshort, hchild⟩
    rw [occupant, if_neg (Nat.not_lt.mpr hshort), hchild]

theorem occupant_eq_ok (h : e.occupant name = .ok found) :
    name.bytes.length ≤ nameMax ∧
      ∃ listable children, e = directory listable children ∧ children.lookup name = found := by
  by_cases hlong : nameMax < name.bytes.length
  · rw [occupant, if_pos hlong] at h
    cases h
  · refine ⟨Nat.not_lt.mp hlong, ?_⟩
    rw [occupant, if_neg hlong] at h
    cases e with
    | file content => cases h
    | closed cause => cases h
    | link target => cases h
    | directory listable children =>
      refine ⟨listable, children, rfl, ?_⟩
      rw [child] at h
      cases hlookup : children.lookup name <;> rw [hlookup] at h <;> cases h <;> rfl

end FileEntry

namespace Trail

def Stands (root : FileEntry) : Trail → Prop
  | [] => True
  | (name, e) :: above =>
    ((directory above root).child name = .ok e ∧ e.isDirectory) ∧ Stands root above

theorem names_cons (name : Path) (e : FileEntry) (above : Trail) :
    names ((name, e) :: above) = names above ++ [name] := by
  simp [names]

theorem Stands.descend {root : FileEntry} {trail : Trail} (h : Stands root trail) :
    root.descend trail.names = .ok (trail.directory root) := by
  induction trail with
  | nil => rfl
  | cons entry above ih =>
    obtain ⟨name, e⟩ := entry
    rw [names_cons, FileEntry.descend_append, ih h.2]
    simp only [bind, Except.bind, FileEntry.descend, h.1.1]
    rfl

theorem Stands.descend_concat {root : FileEntry} {trail : Trail} (h : Stands root trail)
    (name : Path) : root.descend (trail.names ++ [name]) = (trail.directory root).child name := by
  rw [FileEntry.descend_append, h.descend]
  simp only [bind, Except.bind, FileEntry.descend]
  cases (trail.directory root).child name <;> rfl

theorem Stands.up {root : FileEntry} {trail : Trail} (h : Stands root trail) :
    Stands root trail.up := by
  cases trail with
  | nil => exact h
  | cons entry above => exact h.2

theorem Stands.isDirectory {root : FileEntry} {trail : Trail} (h : Stands root trail)
    (hne : trail ≠ []) : (trail.directory root).isDirectory := by
  cases trail with
  | nil => exact absurd rfl hne
  | cons entry above => exact h.1.2

end Trail

def Advance.Stands (root : FileEntry) : Advance → Prop
  | .arrived (.dots place) => ∃ trail, Trail.Stands root trail ∧ trail.names = place
  | .arrived (.name ..) => True
  | .link trail _ _ => trail.Stands root

namespace FileTree

variable {t : FileTree} {trail : Trail} {step name : Path} {steps : List Path}
  {children : List (Path × FileEntry)} {listable slashed : Bool}

/-- Where a step leads that is not the last one: dots to the directory itself or to the one above
it, a name to a directory or to a link. -/
inductive Enters (t : FileTree) (trail : Trail) : Path → Reached → Prop
  | dot : Enters t trail .dot (.directory trail)
  | dots : Enters t trail .dots (.directory trail.up)
  | directory {step : Path} {listable : Bool} {children : List (Path × FileEntry)}
      (hdot : step ≠ .dot) (hdots : step ≠ .dots)
      (h : (trail.directory t.root).occupant step = .ok (some (.directory listable children))) :
      Enters t trail step (.directory ((step, .directory listable children) :: trail))
  | link {step target : Path} (hdot : step ≠ .dot) (hdots : step ≠ .dots)
      (h : (trail.directory t.root).occupant step = .ok (some (.link target))) :
      Enters t trail step (.link target)

theorem enter_eq_ok {reached : Reached} :
    t.enter trail step = .ok reached ↔ Enters t trail step reached := by
  constructor
  · intro h
    unfold enter at h
    split at h
    · next hdot =>
      cases h
      exact hdot ▸ .dot
    next hdot =>
    split at h
    · next hdots =>
      cases h
      exact hdots ▸ .dots
    next hdots =>
    obtain ⟨found, hoccupant, h⟩ := exists_of_bind h
    match found, h with
    | some (.directory listable children), h =>
      cases h
      exact .directory hdot hdots hoccupant
    | some (.link target), h =>
      cases h
      exact .link hdot hdots hoccupant
  · intro h
    cases h with
    | dot => rfl
    | dots => rfl
    | directory hdot hdots h =>
      rw [enter, if_neg hdot, if_neg hdots, h]
      rfl
    | link hdot hdots h =>
      rw [enter, if_neg hdot, if_neg hdots, h]
      rfl

/-- Where the last step leads. A name that is not followed need not be there. -/
inductive Finishes (t : FileTree) (follow slashed : Bool) (trail : Trail) : Path → Advance → Prop
  | dot : Finishes t follow slashed trail .dot (.arrived (.dots trail.names))
  | dots : Finishes t follow slashed trail .dots (.arrived (.dots trail.up.names))
  | link {last target : Path} (hdot : last ≠ .dot) (hdots : last ≠ .dots) (hfollow : follow = true)
      (h : (trail.directory t.root).occupant last = .ok (some (.link target))) :
      Finishes t follow slashed trail last (.link trail target [])
  | name {last : Path} (hdot : last ≠ .dot) (hdots : last ≠ .dots)
      (h : follow = true →
        ∀ target, (trail.directory t.root).occupant last ≠ .ok (some (.link target))) :
      Finishes t follow slashed trail last (.arrived (.name trail.names last slashed))

theorem finish_eq {follow : Bool} {last : Path} {advanced : Advance} :
    t.finish follow slashed trail last = advanced ↔
      Finishes t follow slashed trail last advanced := by
  constructor
  · rintro rfl
    unfold finish
    split
    · next hdot => exact hdot ▸ .dot
    next hdot =>
    split
    · next hdots => exact hdots ▸ .dots
    next hdots =>
    split
    · next target hoccupant => exact .link hdot hdots rfl hoccupant
    · next hnone => exact .name hdot hdots fun hfollow target h => hnone target hfollow h
  · intro h
    cases h with
    | dot => rfl
    | dots => rfl
    | link hdot hdots hfollow h =>
      subst hfollow
      rw [finish, if_neg hdot, if_neg hdots]
      simp only [h]
    | name hdot hdots h =>
      unfold finish
      rw [if_neg hdot, if_neg hdots]
      split
      · next target hoccupant => exact absurd hoccupant (h rfl target)
      · rfl

theorem finish_name {follow : Bool} (hname : Path.IsName name)
    (h : follow = true →
      ∀ target, (trail.directory t.root).occupant name ≠ .ok (some (.link target))) :
    t.finish follow slashed trail name = .arrived (.name trail.names name slashed) :=
  finish_eq.mpr (.name hname.ne_dot hname.ne_dots h)

theorem enter_stands {trail' : Trail} (h : t.enter trail step = .ok (.directory trail'))
    (hstands : trail.Stands t.root) : trail'.Stands t.root := by
  cases enter_eq_ok.mp h with
  | dot => exact hstands
  | dots => exact hstands.up
  | directory hdot hdots hoccupant =>
    exact ⟨⟨FileEntry.child_of_occupant hoccupant, rfl⟩, hstands⟩

theorem finish_stands {follow : Bool} (last : Path) (hstands : trail.Stands t.root) :
    (t.finish follow slashed trail last).Stands t.root := by
  generalize hfinish : t.finish follow slashed trail last = advanced
  cases finish_eq.mp hfinish with
  | dot => exact ⟨trail, hstands, rfl⟩
  | dots => exact ⟨trail.up, hstands.up, rfl⟩
  | link => exact hstands
  | name => trivial

theorem advance_cons {follow : Bool} (h : steps ≠ []) :
    t.advance follow slashed trail (step :: steps) =
      t.enter trail step >>= fun
        | .directory trail => t.advance follow slashed trail steps
        | .link target => .ok (.link trail target steps) := by
  rw [advance]
  · rfl
  · exact h

theorem settle_name {place : List Path} (hstands : trail.Stands t.root)
    (h : t.settle (.name trail.names name slashed) = .ok place) :
    ∃ e, (trail.directory t.root).occupant name = .ok (some e) ∧ place = trail.names ++ [name] := by
  obtain ⟨found, hoccupant, h⟩ := exists_of_bind h
  rw [occupant, hstands.descend] at hoccupant
  match found, h with
  | some e, h =>
    refine ⟨e, hoccupant, ?_⟩
    simp only at h
    split at h
    · cases h
    · cases h
      rfl

theorem enter_of_arrived {last : Path} {destination : Destination} {place : List Path}
    (hstands : trail.Stands t.root)
    (hfinish : t.finish true slashed trail last = .arrived destination)
    (hsettle : t.settle destination = .ok place)
    (hdescend : t.root.descend place = .ok (.directory listable children)) :
    ∃ trail', t.enter trail last = .ok (.directory trail') ∧
      trail'.directory t.root = .directory listable children := by
  cases finish_eq.mp hfinish with
  | dot =>
    cases hsettle
    rw [hstands.descend] at hdescend
    exact ⟨trail, enter_eq_ok.mpr .dot, Except.ok.inj hdescend⟩
  | dots =>
    cases hsettle
    rw [hstands.up.descend] at hdescend
    exact ⟨trail.up, enter_eq_ok.mpr .dots, Except.ok.inj hdescend⟩
  | name hdot hdots h =>
    obtain ⟨e, hoccupant, rfl⟩ := settle_name hstands hsettle
    rw [hstands.descend_concat, FileEntry.child_of_occupant hoccupant] at hdescend
    cases hdescend
    exact ⟨_, enter_eq_ok.mpr (.directory hdot hdots hoccupant), rfl⟩

theorem enter_of_link {last target : Path} {trail' : Trail} {rest : List Path}
    (h : t.finish true slashed trail last = .link trail' target rest) :
    t.enter trail last = .ok (.link target) ∧ trail' = trail ∧ rest = [] := by
  cases finish_eq.mp h with
  | link hdot hdots hfollow hoccupant =>
    exact ⟨enter_eq_ok.mpr (.link hdot hdots hoccupant), rfl, rfl⟩

theorem advance_of_arrived {destination : Destination} {place : List Path}
    (hstands : trail.Stands t.root)
    (hadvance : t.advance true slashed trail steps = .ok (.arrived destination))
    (hsettle : t.settle destination = .ok place)
    (hdescend : t.root.descend place = .ok (.directory listable children)) :
    ∃ trail', trail'.Stands t.root ∧ trail'.directory t.root = .directory listable children ∧
      ∀ name follow slashed, t.advance follow slashed trail (steps ++ [name]) =
        t.advance follow slashed trail' [name] := by
  induction steps generalizing trail with
  | nil =>
    cases hadvance
    cases hsettle
    rw [hstands.descend] at hdescend
    exact ⟨trail, hstands, Except.ok.inj hdescend, fun _ _ _ => rfl⟩
  | cons step rest ih =>
    cases rest with
    | nil =>
      obtain ⟨trail', henter, hdirectory⟩ :=
        enter_of_arrived hstands (Except.ok.inj hadvance) hsettle hdescend
      refine ⟨trail', enter_stands henter hstands, hdirectory, fun name follow slashed => ?_⟩
      rw [List.singleton_append, advance_cons (List.cons_ne_nil _ _), henter]
      rfl
    | cons next rest =>
      rw [advance_cons (List.cons_ne_nil next rest)] at hadvance
      obtain ⟨reached, henter, hadvance⟩ := exists_of_bind hadvance
      match reached, hadvance with
      | .directory trail', hadvance =>
        obtain ⟨trail'', hstands', hdirectory, hname⟩ := ih (enter_stands henter hstands) hadvance
        refine ⟨trail'', hstands', hdirectory, fun name follow slashed => ?_⟩
        rw [List.cons_append, advance_cons (by simp), henter]
        exact hname name follow slashed

theorem advance_of_link {target : Path} {trail' : Trail} {rest : List Path}
    (hstands : trail.Stands t.root)
    (hadvance : t.advance true slashed trail steps = .ok (.link trail' target rest)) :
    trail'.Stands t.root ∧ ∀ name follow slashed,
      t.advance follow slashed trail (steps ++ [name]) =
        .ok (.link trail' target (rest ++ [name])) := by
  induction steps generalizing trail with
  | nil => cases hadvance
  | cons step steps ih =>
    cases steps with
    | nil =>
      obtain ⟨henter, rfl, rfl⟩ := enter_of_link (Except.ok.inj hadvance)
      refine ⟨hstands, fun name follow slashed => ?_⟩
      rw [List.singleton_append, advance_cons (List.cons_ne_nil _ _), henter]
      rfl
    | cons next steps =>
      rw [advance_cons (List.cons_ne_nil next steps)] at hadvance
      obtain ⟨reached, henter, hadvance⟩ := exists_of_bind hadvance
      have hcons (name : Path) (follow slashed : Bool) : t.advance follow slashed trail
          (step :: next :: steps ++ [name]) = t.enter trail step >>= fun
            | .directory trail => t.advance follow slashed trail (next :: steps ++ [name])
            | .link target => .ok (.link trail target (next :: steps ++ [name])) :=
        advance_cons (by simp)
      match reached, hadvance with
      | .directory trail₁, hadvance =>
        obtain ⟨hstands', hname⟩ := ih (enter_stands henter hstands) hadvance
        refine ⟨hstands', fun name follow slashed => ?_⟩
        rw [hcons, henter]
        exact hname name follow slashed
      | .link target₁, hadvance =>
        cases hadvance
        refine ⟨hstands, fun name follow slashed => ?_⟩
        rw [hcons, henter]
        rfl

theorem advance_stands {follow : Bool} {advanced : Advance}
    (hadvance : t.advance follow slashed trail steps = .ok advanced)
    (hstands : trail.Stands t.root) : advanced.Stands t.root := by
  induction steps generalizing trail with
  | nil =>
    cases hadvance
    exact ⟨trail, hstands, rfl⟩
  | cons step steps ih =>
    cases steps with
    | nil =>
      cases hadvance
      exact finish_stands step hstands
    | cons next steps =>
      rw [advance_cons (List.cons_ne_nil next steps)] at hadvance
      obtain ⟨reached, henter, hadvance⟩ := exists_of_bind hadvance
      cases reached with
      | directory trail₁ => exact ih hadvance (enter_stands henter hstands)
      | link target₁ =>
        cases hadvance
        exact hstands

theorem walk_link {follow : Bool} {links : Nat} {trail' : Trail} {target : Path}
    {rest : List Path} (h : t.advance follow slashed trail steps = .ok (.link trail' target rest)) :
    t.walk follow (links + 1) slashed trail steps =
      t.walk follow links (slashed || rest.isEmpty && target.endsInSlash)
        (if target.isAbsolute then [] else trail') (target.steps ++ rest) := by
  rw [walk, h]
  rfl

theorem walk_eq_ok {follow : Bool} {links : Nat} {destination : Destination} :
    t.walk follow links slashed trail steps = .ok destination ↔
      t.advance follow slashed trail steps = .ok (.arrived destination) ∨
      ∃ fewer trail' target rest, links = fewer + 1 ∧
        t.advance follow slashed trail steps = .ok (.link trail' target rest) ∧
        t.walk follow fewer (slashed || rest.isEmpty && target.endsInSlash)
          (if target.isAbsolute then [] else trail') (target.steps ++ rest) = .ok destination := by
  constructor
  · intro h
    cases links with
    | zero =>
      obtain ⟨advanced, hadvance, h⟩ := exists_of_bind h
      cases advanced with
      | arrived destination' =>
        cases h
        exact .inl hadvance
      | link trail' target rest => cases h
    | succ fewer =>
      obtain ⟨advanced, hadvance, h⟩ := exists_of_bind h
      cases advanced with
      | arrived destination' =>
        cases h
        exact .inl hadvance
      | link trail' target rest => exact .inr ⟨fewer, trail', target, rest, rfl, hadvance, h⟩
  · rintro (h | ⟨fewer, trail', target, rest, rfl, hadvance, h⟩)
    · cases links <;> rw [walk, h] <;> rfl
    · rw [walk_link hadvance, h]

theorem stands_base {trail : Trail} {target : Path} (h : trail.Stands t.root) :
    Trail.Stands t.root (if target.isAbsolute then [] else trail) := by
  split
  · trivial
  · exact h

theorem walk_dots {follow : Bool} {links : Nat} {place : List Path} (hstands : trail.Stands t.root)
    (hwalk : t.walk follow links slashed trail steps = .ok (.dots place)) :
    ∃ trail', Trail.Stands t.root trail' ∧ trail'.names = place := by
  -- On the links that may still be passed: each starts a walk anew, with one fewer.
  induction links using Nat.strongRecOn generalizing slashed trail steps with
  | _ links ih =>
    obtain hadvance | ⟨fewer, trail', target, rest, rfl, hadvance, hwalk⟩ := walk_eq_ok.mp hwalk
    · exact advance_stands hadvance hstands
    · exact ih fewer fewer.lt_succ_self (stands_base (advance_stands hadvance hstands)) hwalk

theorem walk_append {links : Nat} {destination : Destination} {place : List Path}
    (hstands : trail.Stands t.root)
    (hwalk : t.walk true links slashed trail steps = .ok destination)
    (hsettle : t.settle destination = .ok place)
    (hdescend : t.root.descend place = .ok (.directory listable children)) :
    ∃ links' trail', trail'.Stands t.root ∧ trail'.directory t.root = .directory listable children ∧
      ∀ name follow slashed, t.walk follow links slashed trail (steps ++ [name]) =
        t.walk follow links' slashed trail' [name] := by
  induction links using Nat.strongRecOn generalizing slashed trail steps with
  | _ links ih =>
    obtain hadvance | ⟨fewer, trail₁, target, rest, rfl, hadvance, hwalk⟩ := walk_eq_ok.mp hwalk
    · obtain ⟨trail', hstands', hdirectory, hname⟩ :=
        advance_of_arrived hstands hadvance hsettle hdescend
      refine ⟨links, trail', hstands', hdirectory, fun name follow slashed => ?_⟩
      cases links <;> rw [walk, walk, hname]
    · obtain ⟨hstands₁, hlink⟩ := advance_of_link hstands hadvance
      obtain ⟨links', trail', hstands', hdirectory, hname⟩ :=
        ih fewer fewer.lt_succ_self (stands_base hstands₁) hwalk
      refine ⟨links', trail', hstands', hdirectory, fun name follow slashed => ?_⟩
      have hmore : (rest ++ [name]).isEmpty = false := by simp
      rw [walk_link (hlink name follow slashed), hmore, Bool.false_and, Bool.or_false,
        ← List.append_assoc, hname]

theorem finish_of_enter_directory {trail' : Trail} (hstands : trail.Stands t.root)
    (h : t.enter trail step = .ok (.directory trail')) :
    ∃ destination, t.finish true slashed trail step = .arrived destination ∧
      t.settle destination = .ok trail'.names := by
  cases enter_eq_ok.mp h with
  | dot => exact ⟨_, finish_eq.mpr .dot, rfl⟩
  | dots => exact ⟨_, finish_eq.mpr .dots, rfl⟩
  | directory hdot hdots hoccupant =>
    refine ⟨.name trail.names step slashed,
      finish_eq.mpr (.name hdot hdots fun _ target htarget => ?_), ?_⟩
    · cases hoccupant.symm.trans htarget
    · rw [settle, occupant, hstands.descend, Trail.names_cons]
      simp only [bind, Except.bind, hoccupant]
      exact if_neg (by simp [FileEntry.isDirectory])

theorem finish_of_enter_link {target : Path} (h : t.enter trail step = .ok (.link target)) :
    t.finish true slashed trail step = .link trail target [] := by
  cases enter_eq_ok.mp h with
  | link hdot hdots hoccupant => exact finish_eq.mpr (.link hdot hdots rfl hoccupant)

theorem advance_before {advanced : Advance} (hstands : trail.Stands t.root)
    (h : t.advance true slashed trail (steps ++ [name]) = .ok advanced) (slashed' : Bool) :
    (∃ trail' destination, trail'.Stands t.root ∧ advanced = t.finish true slashed trail' name ∧
      t.advance true slashed' trail steps = .ok (.arrived destination) ∧
        t.settle destination = .ok trail'.names) ∨
    ∃ trail' target rest, advanced = .link trail' target (rest ++ [name]) ∧
      t.advance true slashed' trail steps = .ok (.link trail' target rest) := by
  induction steps generalizing trail with
  | nil =>
    cases h
    exact .inl ⟨trail, .dots trail.names, hstands, rfl, rfl, rfl⟩
  | cons step rest ih =>
    rw [List.cons_append, advance_cons (by simp)] at h
    obtain ⟨reached, henter, h⟩ := exists_of_bind h
    cases rest with
    | nil =>
      cases reached with
      | directory trail' =>
        cases h
        obtain ⟨destination, hfinish, hsettle⟩ := finish_of_enter_directory hstands henter
        exact .inl ⟨trail', destination, enter_stands henter hstands, rfl,
          congrArg Except.ok hfinish, hsettle⟩
      | link target =>
        cases h
        exact .inr ⟨trail, target, [], rfl, congrArg Except.ok (finish_of_enter_link henter)⟩
    | cons next rest =>
      rw [advance_cons (List.cons_ne_nil next rest), henter]
      cases reached with
      | directory trail' => exact ih (enter_stands henter hstands) h
      | link target =>
        cases h
        exact .inr ⟨trail, target, next :: rest, rfl, rfl⟩

theorem directory_of_finish {advanced : Advance} (hname : Path.IsName name)
    (hstands : trail.Stands t.root) (h : advanced = t.finish true slashed trail name)
    (hsettles : ∀ destination, advanced = .arrived destination →
      ∃ place, t.settle destination = .ok place) :
    ∃ listable children, trail.directory t.root = .directory listable children := by
  by_cases hlink : ∃ target, (trail.directory t.root).occupant name = .ok (some (.link target))
  · obtain ⟨target, hoccupant⟩ := hlink
    obtain ⟨-, listable, children, hdirectory, -⟩ := FileEntry.occupant_eq_ok hoccupant
    exact ⟨listable, children, hdirectory⟩
  · have harrived : t.finish true slashed trail name = .arrived (.name trail.names name slashed) :=
      finish_name hname fun _ target ht => hlink ⟨target, ht⟩
    obtain ⟨place, hsettle⟩ := hsettles _ (h.trans harrived)
    obtain ⟨e, hoccupant, -⟩ := settle_name hstands hsettle
    obtain ⟨-, listable, children, hdirectory, -⟩ := FileEntry.occupant_eq_ok hoccupant
    exact ⟨listable, children, hdirectory⟩

theorem walk_before {links : Nat} {destination : Destination} {place : List Path}
    (hname : Path.IsName name) (hstands : trail.Stands t.root)
    (hwalk : t.walk true links slashed trail (steps ++ [name]) = .ok destination)
    (hsettle : t.settle destination = .ok place) (slashed' : Bool) :
    ∃ destination' place' listable children,
      t.walk true links slashed' trail steps = .ok destination' ∧
      t.settle destination' = .ok place' ∧
      t.root.descend place' = .ok (.directory listable children) := by
  induction links using Nat.strongRecOn generalizing slashed slashed' trail steps with
  | _ links ih =>
    have hadvanced : ∃ advanced, t.advance true slashed trail (steps ++ [name]) = .ok advanced ∧
        ∀ d, advanced = .arrived d → d = destination := by
      obtain hadvance | ⟨_, _, _, _, -, hadvance, -⟩ := walk_eq_ok.mp hwalk
      · exact ⟨_, hadvance, fun d hd => (Advance.arrived.inj hd).symm⟩
      · exact ⟨_, hadvance, nofun⟩
    obtain ⟨advanced, hadvance, hend⟩ := hadvanced
    obtain ⟨trail', before, hstands', hfinish, hbefore, hplace⟩ |
        ⟨trail', target, rest, rfl, hbefore⟩ := advance_before hstands hadvance slashed'
    · obtain ⟨listable, children, hdirectory⟩ := directory_of_finish hname hstands' hfinish
        fun d hd => ⟨place, hend d hd ▸ hsettle⟩
      exact ⟨before, trail'.names, listable, children, walk_eq_ok.mpr (.inl hbefore), hplace,
        hdirectory ▸ hstands'.descend⟩
    · obtain hadvance' | ⟨fewer, _, _, _, rfl, hadvance', hwalk⟩ := walk_eq_ok.mp hwalk
      · cases hadvance.symm.trans hadvance'
      · cases hadvance.symm.trans hadvance'
        rw [← List.append_assoc] at hwalk
        have hbase : Trail.Stands t.root (if target.isAbsolute then [] else trail') :=
          stands_base (advance_stands hbefore hstands)
        obtain ⟨before, place', listable, children, hrest, hfound⟩ :=
          ih fewer fewer.lt_succ_self hbase hwalk (slashed' || rest.isEmpty && target.endsInSlash)
        exact ⟨before, place', listable, children,
          walk_eq_ok.mpr (.inr ⟨fewer, trail', target, rest, rfl, hbefore, hrest⟩), hfound⟩

theorem advance_concat {advanced : Advance} (hname : Path.IsName name)
    (h : t.advance false slashed trail (steps ++ [name]) = .ok advanced) :
    (∃ place, advanced = .arrived (.name place name slashed)) ∨
      ∃ trail' target rest, advanced = .link trail' target (rest ++ [name]) := by
  induction steps generalizing trail with
  | nil =>
    cases h
    exact .inl ⟨trail.names, finish_name hname nofun⟩
  | cons step steps ih =>
    rw [List.cons_append, advance_cons (by simp)] at h
    obtain ⟨reached, henter, h⟩ := exists_of_bind h
    cases reached with
    | directory trail' => exact ih h
    | link target =>
      cases h
      exact .inr ⟨trail, target, steps, rfl⟩

theorem walk_concat {links : Nat} {destination : Destination} (hname : Path.IsName name)
    (h : t.walk false links slashed trail (steps ++ [name]) = .ok destination) :
    ∃ place, destination = .name place name slashed := by
  induction links using Nat.strongRecOn generalizing trail steps with
  | _ links ih =>
    obtain hadvance | ⟨fewer, trail', target, rest, rfl, hadvance, hwalk⟩ := walk_eq_ok.mp h
    · obtain ⟨place, hplace⟩ | ⟨_, _, _, hlink⟩ := advance_concat hname hadvance
      · cases hplace
        exact ⟨place, rfl⟩
      · cases hlink
    · obtain ⟨_, hplace⟩ | ⟨_, _, before, hlink⟩ := advance_concat hname hadvance
      · cases hplace
      · cases hlink
        have hmore : (before ++ [name]).isEmpty = false := by simp
        rw [hmore, Bool.false_and, Bool.or_false, ← List.append_assoc] at hwalk
        exact ih fewer fewer.lt_succ_self hwalk

theorem walk_dotted {follow : Bool} {links : Nat} (n : Nat) (h : steps ≠ []) :
    t.walk follow links slashed trail (List.replicate n .dot ++ steps) =
      t.walk follow links slashed trail steps := by
  have hadvance : t.advance follow slashed trail (List.replicate n .dot ++ steps) =
      t.advance follow slashed trail steps := by
    induction n with
    | zero => rfl
    | succ n ih =>
      rw [List.replicate_succ, List.cons_append, advance_cons (by simp [h]), ← ih, enter,
        if_pos rfl]
      rfl
  cases links <;> rw [walk, walk, hadvance]

theorem resolve_eq_ok {follow : Bool} {path : Path} {destination : Destination} :
    t.resolve follow path = .ok destination ↔
      0 ∉ path.bytes ∧ withinLimit path ∧ path ≠ .empty ∧
        t.walk follow linkMax path.endsInSlash []
          ((if path.isAbsolute then [] else t.here) ++ path.steps) = .ok destination := by
  unfold resolve
  by_cases hzero : 0 ∈ path.bytes
  · simp [hzero]
  by_cases hlimit : withinLimit path
  · by_cases hempty : path = .empty
    · rw [if_neg (by simpa using hzero), if_neg (by simpa using hlimit), if_pos hempty]
      simp [hempty]
    · simp [hzero, hlimit, hempty]
  · simp [hzero, hlimit]

end FileTree

end CardFirmware
