import CardFirmware.Files.Tree
import CardFirmware.Proofs.Text.Utf8

/-! Paths that are made of a directory and a name. Such a path has the steps of the directory and
then the name (`steps_join`), and comes before another one of the same directory if its name does
(`join_lt_join`). -/

namespace CardFirmware

namespace Path

variable {p q r : Path}

@[simp] theorem bytes_append : (p ++ q).bytes = p.bytes ++ q.bytes := rfl

theorem eq_empty_iff : p = empty ↔ p.bytes = [] := by
  cases p
  simp [empty]

theorem lt_irrefl (p : Path) : ¬p < p := List.lt_irrefl p.bytes

theorem lt_asymm (h : p < q) : ¬q < p := List.lt_asymm h

theorem not_le : ¬p ≤ q ↔ q < p := Classical.not_not

theorem le_total (p q : Path) : p ≤ q ∨ q ≤ p := List.le_total p.bytes q.bytes

theorem le_trans (h : p ≤ q) (h' : q ≤ r) : p ≤ r := List.le_trans h h'

theorem le_antisymm (h : p ≤ q) (h' : q ≤ p) : p = q := by
  cases p
  cases q
  exact congrArg mk (List.le_antisymm h h')

instance : Std.Asymm fun p q : Path => p < q := ⟨fun _ _ => lt_asymm⟩

instance : Std.Trichotomous fun p q : Path => p < q := ⟨fun _ _ h h' => le_antisymm h' h⟩

theorem eq_of_ascending {α : Type} (path : α → Path) {as bs : List α}
    (has : as.Pairwise fun a b => path a < path b) (hbs : bs.Pairwise fun a b => path a < path b)
    (hmem : ∀ a, a ∈ as ↔ a ∈ bs) : as = bs := by
  have hne {a b : α} (hlt : path a < path b) : a ≠ b := by
    rintro rfl
    exact lt_irrefl _ hlt
  have hperm := (List.perm_ext_iff_of_nodup (has.imp hne) (hbs.imp hne)).mpr hmem
  refine hperm.eq_of_pairwise (fun a b _ _ hab hba => ?_) has hbs
  exact absurd hab (lt_asymm hba)

structure IsName (name : Path) : Prop where
  ne_empty : name ≠ empty
  ne_dot : name ≠ dot
  ne_dots : name ≠ dots
  no_slash : slash ∉ name.bytes
  no_zero : 0 ∉ name.bytes
  short : name.bytes.length ≤ FileEntry.nameMax

instance (name : Path) : Decidable (IsName name) :=
  decidable_of_iff (name ≠ empty ∧ name ≠ dot ∧ name ≠ dots ∧ slash ∉ name.bytes ∧
      0 ∉ name.bytes ∧ name.bytes.length ≤ FileEntry.nameMax)
    ⟨fun ⟨h₁, h₂, h₃, h₄, h₅, h₆⟩ => ⟨h₁, h₂, h₃, h₄, h₅, h₆⟩,
      fun ⟨h₁, h₂, h₃, h₄, h₅, h₆⟩ => ⟨h₁, h₂, h₃, h₄, h₅, h₆⟩⟩

variable {directory name a b : Path}

def front (directory : Path) : Path :=
  if directory = empty then empty
  else if endsInSlash directory then directory else directory ++ ⟨[slash]⟩

theorem join_eq (h : slash ∉ name.bytes) : join directory name = front directory ++ name := by
  have habsolute : isAbsolute name = false := by
    rw [isAbsolute, beq_eq_false_iff_ne]
    exact fun hhead => h (List.mem_of_mem_head? hhead)
  unfold join front
  by_cases hempty : directory = empty
  · rw [if_pos (.inr hempty), if_pos hempty]
    rfl
  · by_cases hslash : endsInSlash directory
    · simp [habsolute, hempty, hslash]
    · simp only [habsolute, hempty, hslash, if_false, Bool.false_eq_true, or_self]
      exact congrArg mk (by simp)

theorem join_lt_join (ha : slash ∉ a.bytes) (hb : slash ∉ b.bytes) (h : a < b) :
    join directory a < join directory b := by
  rw [join_eq ha, join_eq hb]
  exact List.append_left_lt h

theorem splitBytes_ne_nil (bs : Bytes) : splitBytes bs ≠ [] := by
  cases bs with
  | nil => simp [splitBytes]
  | cons b bs =>
    rw [splitBytes]
    split
    · simp
    · split <;> simp

theorem splitBytes_append_slash (bs cs : Bytes) :
    splitBytes (bs ++ slash :: cs) = splitBytes bs ++ splitBytes cs := by
  induction bs with
  | nil => simp [splitBytes]
  | cons b bs ih =>
    rw [List.cons_append, splitBytes, splitBytes, ih]
    split
    · rfl
    · cases hparts : splitBytes bs with
      | nil => exact absurd hparts (splitBytes_ne_nil bs)
      | cons part parts => rfl

theorem splitBytes_of_not_mem {bs : Bytes} (h : slash ∉ bs) : splitBytes bs = [bs] := by
  induction bs with
  | nil => rfl
  | cons b bs ih =>
    obtain ⟨hb, hbs⟩ := not_or.mp (List.mem_cons.not.mp h)
    rw [splitBytes, if_neg (Ne.symm hb), ih hbs]

theorem split_append_slash {before after : Bytes} (h : p.bytes = before ++ slash :: after) :
    split p = (splitBytes before).map mk ++ (splitBytes after).map mk := by
  rw [split, h, splitBytes_append_slash, List.map_append]

theorem split_of_not_mem (h : slash ∉ name.bytes) : split name = [name] := by
  rw [split, splitBytes_of_not_mem h]
  rfl

theorem split_front (hdirectory : directory ≠ empty) (hname : IsName name) :
    ∃ parts, split (front directory ++ name) = parts ++ [name] ∧
      parts.filter (· ≠ empty) = steps directory := by
  have hlast : (splitBytes name.bytes).map mk = [name] := split_of_not_mem hname.no_slash
  rw [front, if_neg hdirectory]
  split
  · next hslash =>
    obtain ⟨before, hbefore⟩ := List.getLast?_eq_some_iff.mp (eq_of_beq hslash)
    have hpath : (directory ++ name).bytes = before ++ slash :: name.bytes := by
      rw [bytes_append, hbefore, List.append_assoc]
      rfl
    have hempty : (splitBytes []).map mk = [empty] := rfl
    refine ⟨(splitBytes before).map mk, by rw [split_append_slash hpath, hlast], ?_⟩
    rw [steps, split_append_slash hbefore, hempty, List.filter_append]
    simp
  · have hpath : (directory ++ ⟨[slash]⟩ ++ name).bytes =
        directory.bytes ++ slash :: name.bytes := by
      simp
    exact ⟨split directory, by rw [split_append_slash hpath, hlast, split], rfl⟩

theorem split_join (directory : Path) (hname : IsName name) :
    ∃ parts, split (join directory name) = parts ++ [name] ∧
      parts.filter (· ≠ empty) = steps directory := by
  rw [join_eq hname.no_slash]
  by_cases hempty : directory = empty
  · subst hempty
    exact ⟨[], split_of_not_mem hname.no_slash, rfl⟩
  · exact split_front hempty hname

theorem steps_join (hname : IsName name) :
    steps (join directory name) = steps directory ++ [name] := by
  obtain ⟨parts, hsplit, hparts⟩ := split_join directory hname
  have hkept : [name].filter (· ≠ empty) = [name] := by simp [hname.ne_empty]
  rw [steps, hsplit, List.filter_append, hparts, hkept]

theorem name?_join (hname : IsName name) : name? (join directory name) = some name := by
  obtain ⟨parts, hparts, -⟩ := split_join directory hname
  have hlast : (stages (join directory name)).head?.bind (·.getLast?) = some name := by
    rw [stages, hparts]
    cases parts with
    | nil => rfl
    | cons first rest =>
      have hkept : ¬(name = empty ∨ name = dot) := not_or.mpr ⟨hname.ne_empty, hname.ne_dot⟩
      have hreverse : (rest ++ [name]).reverse = name :: rest.reverse := by simp
      change ((leading (rest ++ [name]).reverse).map (first :: ·)).head?.bind (·.getLast?) = _
      rw [hreverse, leading, if_neg hkept, ← hreverse, List.reverse_reverse]
      exact List.getLast?_concat (l := first :: rest)
  rw [name?, hlast, Option.filter_some, if_pos]
  simp [hname.ne_empty, hname.ne_dot, hname.ne_dots]

theorem isAbsolute_front (hdirectory : directory ≠ empty) :
    isAbsolute (front directory ++ name) = isAbsolute directory := by
  have hne : directory.bytes ≠ [] := fun h => hdirectory (eq_empty_iff.mpr h)
  have hhead (rest : Bytes) : (directory.bytes ++ rest).head? = directory.bytes.head? :=
    List.head?_append_of_ne_nil _ hne
  rw [front, if_neg hdirectory, isAbsolute, isAbsolute]
  split
  · rw [bytes_append, hhead]
  · rw [bytes_append, bytes_append, List.append_assoc, hhead]

theorem endsInSlash_join (hname : IsName name) : endsInSlash (join directory name) = false := by
  have hne : name.bytes ≠ [] := fun h => hname.ne_empty (eq_empty_iff.mpr h)
  rw [join_eq hname.no_slash, endsInSlash, beq_eq_false_iff_ne, bytes_append,
    List.getLast?_append_of_ne_nil _ hne]
  exact fun hlast => hname.no_slash (List.mem_of_mem_getLast? hlast)

theorem no_zero_front (hdirectory : 0 ∉ directory.bytes) (hname : IsName name) :
    0 ∉ (front directory ++ name).bytes := by
  rw [bytes_append, List.mem_append, not_or]
  refine ⟨?_, hname.no_zero⟩
  unfold front
  split
  · simp [empty]
  · split
    · exact hdirectory
    · rw [bytes_append, List.mem_append, not_or]
      exact ⟨hdirectory, by decide⟩

theorem join_ne_empty (h : name ≠ empty) : join directory name ≠ empty := by
  unfold join
  split
  · exact h
  · split
    · rw [Ne, eq_empty_iff, bytes_append]
      exact List.append_ne_nil_of_right_ne_nil _ fun h' => h (eq_empty_iff.mpr h')
    · simp [empty]

theorem mem_join {b : UInt8} (hname : IsName name) (h : b ∈ directory.bytes) :
    b ∈ (join directory name).bytes := by
  rw [join_eq hname.no_slash, bytes_append]
  refine List.mem_append_left _ ?_
  unfold front
  split
  · next hempty => exact hempty ▸ h
  · split
    · exact h
    · exact List.mem_append_left _ h

theorem length_le_join (hname : IsName name) :
    directory.bytes.length + name.bytes.length ≤ (join directory name).bytes.length := by
  have hfront : directory.bytes.length ≤ (front directory).bytes.length := by
    unfold front
    split
    · next hempty => simp [hempty]
    · split <;> simp
  rw [join_eq hname.no_slash, bytes_append, List.length_append]
  exact Nat.add_le_add_right hfront _

theorem length_join (hname : IsName name) (hempty : directory ≠ empty)
    (hslash : endsInSlash directory = false) :
    (join directory name).bytes.length = directory.bytes.length + 1 + name.bytes.length := by
  rw [join_eq hname.no_slash, front, if_neg hempty, hslash, if_neg Bool.false_ne_true, bytes_append,
    bytes_append, List.length_append, List.length_append]
  rfl

theorem length_lt_join (hname : IsName name) :
    directory.bytes.length < (join directory name).bytes.length := by
  have hpos : 0 < name.bytes.length :=
    List.length_pos_of_ne_nil fun h => hname.ne_empty (eq_empty_iff.mpr h)
  exact Nat.lt_of_lt_of_le (Nat.lt_add_of_pos_right hpos) (length_le_join hname)

section Dotted

def dotted : Nat → Path → Path
  | 0, p => p
  | n + 1, p => ⟨0x2E :: slash :: (dotted n p).bytes⟩

theorem length_dotted (n : Nat) (p : Path) :
    (dotted n p).bytes.length = 2 * n + p.bytes.length := by
  induction n with
  | zero => rw [dotted, Nat.mul_zero, Nat.zero_add]
  | succ n ih =>
    rw [dotted, List.length_cons, List.length_cons, ih]
    omega

theorem dotted_ne_empty (n : Nat) (h : p ≠ empty) : dotted n p ≠ empty := by
  cases n with
  | zero => exact h
  | succ n => simp [dotted, empty]

theorem zero_mem_dotted (n : Nat) : 0 ∈ (dotted n p).bytes ↔ 0 ∈ p.bytes := by
  induction n with
  | zero => rfl
  | succ n ih => simp [dotted, slash, ih]

theorem isAbsolute_dotted (n : Nat) (h : p.isAbsolute = false) :
    (dotted n p).isAbsolute = false := by
  cases n with
  | zero => exact h
  | succ n => rfl

theorem endsInSlash_dotted (n : Nat) (h : p ≠ empty) :
    (dotted n p).endsInSlash = p.endsInSlash := by
  induction n with
  | zero => rfl
  | succ n ih =>
    have hne : (dotted n p).bytes ≠ [] := fun h' => dotted_ne_empty n h (eq_empty_iff.mpr h')
    rw [← ih, dotted, endsInSlash, endsInSlash, ← List.singleton_append (l := slash :: _),
      List.append_cons, List.getLast?_append_of_ne_nil _ hne]

theorem steps_dotted (n : Nat) (p : Path) :
    (dotted n p).steps = List.replicate n dot ++ p.steps := by
  induction n with
  | zero => rfl
  | succ n ih =>
    have hsplit : split (dotted (n + 1) p) = dot :: split (dotted n p) := by
      simp [dotted, split, splitBytes, slash, dot]
    have hdot : dot ≠ empty := by decide
    rw [steps, hsplit, List.filter_cons_of_pos (by simpa using hdot), List.replicate_succ,
      List.cons_append, ← ih, steps]

end Dotted

end Path

end CardFirmware
