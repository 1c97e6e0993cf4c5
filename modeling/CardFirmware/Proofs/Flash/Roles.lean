import CardFirmware.Device.Simulator
import CardFirmware.Proofs.Device.Reports
import CardFirmware.Proofs.Flash.Directory
import CardFirmware.Proofs.Text.Utf8

/-! Discovery gives each role the last segment that has its name. A device is asked for its flash
memory and then for one segment after the other; what it says then (`told`, `listed`) decides the
directory that is found, or the first fault that is (`discovery_maps_roles`). -/

namespace CardFirmware

namespace SegmentRole

theorem segmentName_injective {role role' : SegmentRole}
    (h : role.segmentName = role'.segmentName) : role = role' := by
  cases role <;> cases role' <;> first | rfl | exact absurd h (by decide)

theorem ofName?_eq_some {name : String} {role : SegmentRole} :
    ofName? name = some role ↔ name = role.segmentName := by
  constructor
  · intro h
    have hname := List.find?_some h
    exact (of_decide_eq_true hname).symm
  · rintro rfl
    cases role <;> rfl

theorem decodeLossy_eq_segmentName {b : Bytes} {role : SegmentRole} :
    Text.Utf8.decodeLossy b = role.segmentName ↔ b = Text.Utf8.encode role.segmentName :=
  Text.Utf8.decodeLossy_eq_iff (by cases role <;> decide)

end SegmentRole

namespace FlashDirectory

structure Listed where
  size : UInt32
  name : Bytes

def Listed.ofReply (c : Command) (reply : Except TransportError Bytes) :
    Except TransportError Listed := do
  let b ← Device.checkedReply c reply
  let _ ← (Reply.segmentInfo b).mapError TransportError.wire
  return ⟨b.le32At 0, ((b.drop 8).take 15).takeWhile (· != 0)⟩

section Table

-- What comes of asking for segment 0, 1 and so on.
variable (table : Nat → Except TransportError Listed)

def Complete (n : Nat) : Prop := ∀ i < n, ∃ x, table i = .ok x

def Absent (n : Nat) (role : SegmentRole) : Prop :=
  ∀ i x, i < n → table i = .ok x → x.name ≠ Text.Utf8.encode role.segmentName

structure Last (n : Nat) (role : SegmentRole) (i : Nat) (x : Listed) : Prop where
  lt : i < n
  listed : table i = .ok x
  named : x.name = Text.Utf8.encode role.segmentName
  last : ∀ j y, i < j → j < n → table j = .ok y → y.name ≠ Text.Utf8.encode role.segmentName

inductive Keeps (n : Nat) (role : SegmentRole) : Option Segment → Prop
  | none : Absent table n role → Keeps n role none
  | some {i : Nat} {x : Listed} :
      Last table n role i x → Keeps n role (some ⟨UInt32.ofNat i, x.size⟩)

structure Counted (info : Except TransportError Reply.FlashInfo) (f : Reply.FlashInfo) : Prop where
  told : info = .ok f
  one_le : 1 ≤ f.count.toNat
  le_max : f.count.toNat ≤ 15

def Assigned (n : Nat) (role : SegmentRole) : Prop := ∃ i x, i ≠ 0 ∧ Last table n role i x

/-- The first thing that is wrong with what a device said, and how many segments it was asked for
until then. -/
inductive Fault (info : Except TransportError Reply.FlashInfo) : Nat → DirectoryError → Prop
  | unreadable {e : TransportError} : info = .error e → Fault info 0 (.transport e)
  | miscounted {f : Reply.FlashInfo} : info = .ok f →
      ¬(1 ≤ f.count.toNat ∧ f.count.toNat ≤ 15) → Fault info 0 (.segmentCount f.count)
  | unlisted {f : Reply.FlashInfo} {i : Nat} {e : TransportError} : Counted info f →
      i < f.count.toNat → Complete table i → table i = .error e →
      Fault info (i + 1) (.transport e)
  | missing {f : Reply.FlashInfo} {role : SegmentRole} {before later : List SegmentRole} :
      Counted info f → Complete table f.count.toNat → SegmentRole.all = before ++ role :: later →
      (∀ r ∈ before, Assigned table f.count.toNat r) → Absent table f.count.toNat role →
      Fault info f.count.toNat (.missingSegment role)
  | reserved {f : Reply.FlashInfo} {role : SegmentRole} {before later : List SegmentRole}
      {x : Listed} :
      Counted info f → Complete table f.count.toNat → SegmentRole.all = before ++ role :: later →
      (∀ r ∈ before, Assigned table f.count.toNat r) → Last table f.count.toNat role 0 x →
      Fault info f.count.toNat (.reservedIndex role)

/-- The directory is what a device described: each role has the last segment with its name, which
is not the first one of the device. -/
structure Described (info : Except TransportError Reply.FlashInfo) (f : Reply.FlashInfo)
    (d : FlashDirectory) : Prop extends Counted info f where
  complete : Complete table f.count.toNat
  flashSize_eq : d.flashSize = f.size
  segment_eq (role : SegmentRole) : ∃ i x, i ≠ 0 ∧ Last table f.count.toNat role i x ∧
    d.segment role = ⟨UInt32.ofNat i, x.size⟩

variable {table} {n i j : Nat} {role : SegmentRole} {x y : Listed}

theorem Last.unique (h : Last table n role i x) (h' : Last table n role j y) : i = j ∧ x = y := by
  obtain hij | rfl | hij := Nat.lt_trichotomy i j
  · exact absurd h'.named (h.last j y hij h'.lt h'.listed)
  · exact ⟨rfl, Except.ok.inj (h.listed.symm.trans h'.listed)⟩
  · exact absurd h.named (h'.last i x hij h.lt h.listed)

theorem Described.unique {info : Except TransportError Reply.FlashInfo} {f f' : Reply.FlashInfo}
    {d d' : FlashDirectory} (h : Described table info f d) (h' : Described table info f' d') :
    d = d' := by
  obtain rfl := Except.ok.inj (h.told.symm.trans h'.told)
  have hsegment (role : SegmentRole) : d.segment role = d'.segment role := by
    obtain ⟨i, x, -, hlast, hs⟩ := h.segment_eq role
    obtain ⟨i', x', -, hlast', hs'⟩ := h'.segment_eq role
    obtain ⟨rfl, rfl⟩ := hlast.unique hlast'
    rw [hs, hs']
  cases d
  cases d'
  simp only [FlashDirectory.mk.injEq]
  exact ⟨h.flashSize_eq.trans h'.flashSize_eq.symm, hsegment .upgrade, hsegment .settings,
    hsegment .disk, hsegment .env⟩

theorem Fault.not_described {info : Except TransportError Reply.FlashInfo} {k : Nat}
    {e : DirectoryError} {f : Reply.FlashInfo} {d : FlashDirectory}
    (h : Fault table info k e) : ¬Described table info f d := by
  intro hd
  cases h with
  | unreadable he => cases hd.told.symm.trans he
  | miscounted hf hcount =>
    cases hd.told.symm.trans hf
    exact hcount ⟨hd.one_le, hd.le_max⟩
  | unlisted hf hi _ he =>
    cases hd.told.symm.trans hf.told
    obtain ⟨x, hx⟩ := hd.complete _ hi
    cases hx.symm.trans he
  | @missing _ role _ _ hf _ _ _ habsent =>
    cases hd.told.symm.trans hf.told
    obtain ⟨i, x, -, hlast, -⟩ := hd.segment_eq role
    exact habsent i x hlast.lt hlast.listed hlast.named
  | @reserved _ role _ _ _ hf _ _ _ hfirst =>
    cases hd.told.symm.trans hf.told
    obtain ⟨i, x, hi, hlast, -⟩ := hd.segment_eq role
    exact hi (hlast.unique hfirst).1

theorem record_apply (found : Found) (index : UInt32) (info : Reply.SegmentInfo)
    (role : SegmentRole) :
    found.record index info role =
      if info.name = role.segmentName then some ⟨index, info.size⟩ else found role := by
  unfold Found.record
  cases hname : SegmentRole.ofName? info.name with
  | none =>
    refine (if_neg fun h => ?_).symm
    rw [SegmentRole.ofName?_eq_some.mpr h] at hname
    cases hname
  | some role' =>
    rw [SegmentRole.ofName?_eq_some.mp hname]
    exact if_congr ⟨fun h => h ▸ rfl, fun h => (SegmentRole.segmentName_injective h).symm⟩ rfl rfl

theorem Keeps.record {found : Found} {info : Reply.SegmentInfo}
    (h : Keeps table n role (found role)) (hx : table n = .ok x) (hsize : info.size = x.size)
    (hname : info.name = Text.Utf8.decodeLossy x.name) :
    Keeps table (n + 1) role (found.record (UInt32.ofNat n) info role) := by
  rw [record_apply, hname, hsize]
  split
  · next hnamed =>
    refine .some ⟨Nat.lt_succ_self n, hx, SegmentRole.decodeLossy_eq_segmentName.mp hnamed, ?_⟩
    intro j y hnj hjn
    omega
  · next hnamed =>
    have hother (j : Nat) (y : Listed) (hj : j = n) (hy : table j = .ok y) :
        y.name ≠ Text.Utf8.encode role.segmentName := by
      rintro hy'
      subst hj
      cases hx.symm.trans hy
      exact hnamed (SegmentRole.decodeLossy_eq_segmentName.mpr hy')
    cases hkept : found role with
    | none =>
      rw [hkept] at h
      cases h with
      | none habsent =>
        refine .none fun j y hj hy => ?_
        obtain hj | hj := Nat.lt_succ_iff_lt_or_eq.mp hj
        · exact habsent j y hj hy
        · exact hother j y hj hy
    | some s =>
      rw [hkept] at h
      cases h with
      | some hlast =>
        refine .some ⟨Nat.lt_succ_of_lt hlast.lt, hlast.listed, hlast.named, ?_⟩
        intro j y hij hj hy
        obtain hj | hj := Nat.lt_succ_iff_lt_or_eq.mp hj
        · exact hlast.last j y hij hj hy
        · exact hother j y hj hy

theorem required_eq_error {found : Found} {e : DirectoryError} (h : Keeps table n role (found role))
    (hn : n ≤ 15) (he : required found role = .error e) :
    (e = .missingSegment role ∧ Absent table n role) ∨
      e = .reservedIndex role ∧ ∃ x, Last table n role 0 x := by
  unfold required at he
  cases hkept : found role with
  | none =>
    rw [hkept] at he h
    cases he
    cases h with
    | none habsent => exact .inl ⟨rfl, habsent⟩
  | some s =>
    rw [hkept] at he h
    cases h with
    | @some i x hlast =>
      simp only at he
      split at he
      · next hzero =>
        cases he
        have hi : (UInt32.ofNat i).toNat = i :=
          UInt32.toNat_ofNat_of_lt' (Nat.lt_of_lt_of_le hlast.lt (Nat.le_trans hn (by decide)))
        rw [hzero] at hi
        obtain rfl : 0 = i := hi
        exact .inr ⟨rfl, x, hlast⟩
      · cases he

theorem required_kept {found : Found} {s : Segment} (h : Keeps table n role (found role))
    (hs : required found role = .ok s) :
    ∃ i x, i ≠ 0 ∧ Last table n role i x ∧ s = ⟨UInt32.ofNat i, x.size⟩ := by
  obtain ⟨hkept, hne⟩ := required_eq_ok hs
  rw [hkept] at h
  cases h with
  | @some i x hlast =>
    refine ⟨i, x, ?_, hlast, rfl⟩
    rintro rfl
    exact hne rfl

theorem ofFound_eq_error {flashSize : UInt32} {found : Found} {e : DirectoryError}
    (h : ofFound flashSize found = .error e) :
    ∃ before role later, SegmentRole.all = before ++ role :: later ∧
      (∀ r ∈ before, ∃ s, required found r = .ok s) ∧ required found role = .error e := by
  unfold ofFound at h
  cases hu : required found .upgrade with
  | error e' =>
    rw [hu] at h
    cases h
    exact ⟨[], .upgrade, _, rfl, nofun, hu⟩
  | ok u =>
  cases hs : required found .settings with
  | error e' =>
    rw [hu, hs] at h
    cases h
    exact ⟨[.upgrade], .settings, _, rfl, by simp [hu], hs⟩
  | ok s =>
  cases hd : required found .disk with
  | error e' =>
    rw [hu, hs, hd] at h
    cases h
    exact ⟨[.upgrade, .settings], .disk, _, rfl, by simp [hu, hs], hd⟩
  | ok d =>
  cases he : required found .env with
  | error e' =>
    rw [hu, hs, hd, he] at h
    cases h
    exact ⟨[.upgrade, .settings, .disk], .env, [], rfl, by simp [hu, hs, hd], he⟩
  | ok v =>
    rw [hu, hs, hd, he] at h
    cases h

theorem ofFound_flashSize {flashSize : UInt32} {found : Found} {d : FlashDirectory}
    (h : ofFound flashSize found = .ok d) : d.flashSize = flashSize := by
  simp only [ofFound, bind, Except.bind, pure, Except.pure] at h
  repeat' split at h
  all_goals cases h
  rfl

theorem ofFound_cases {info : Except TransportError Reply.FlashInfo} {f : Reply.FlashInfo}
    {found : Found} (hcounted : Counted info f) (hall : Complete table f.count.toNat)
    (hkept : ∀ role, Keeps table f.count.toNat role (found role)) :
    (∃ e, Fault table info f.count.toNat e ∧ ofFound f.size found = .error e) ∨
      ∃ d, Described table info f d ∧ ofFound f.size found = .ok d := by
  cases hof : ofFound f.size found with
  | error e =>
    obtain ⟨before, role, later, hroles, hbefore, he⟩ := ofFound_eq_error hof
    have hassigned : ∀ r ∈ before, Assigned table f.count.toNat r := by
      intro r hr
      obtain ⟨s, hs⟩ := hbefore r hr
      obtain ⟨i, x, hi, hlast, -⟩ := required_kept (hkept r) hs
      exact ⟨i, x, hi, hlast⟩
    obtain ⟨rfl, habsent⟩ | ⟨rfl, x, hlast⟩ := required_eq_error (hkept role) hcounted.le_max he
    · exact .inl ⟨_, .missing hcounted hall hroles hassigned habsent, rfl⟩
    · exact .inl ⟨_, .reserved hcounted hall hroles hassigned hlast, rfl⟩
  | ok d =>
    exact .inr ⟨d, ⟨hcounted, hall, ofFound_flashSize hof,
      fun role => required_kept (hkept role) (ofFound_eq_ok hof role)⟩, rfl⟩

end Table

section Device

variable {σ : Type} (t : Transport σ) (device : σ)

def ask (i : Nat) : Command := .flashSegmentInfo (UInt32.ofNat i)

def asked : Nat → σ
  | 0 => (t.transact Command.flashInfo.call device).2
  | n + 1 => (t.transact (ask n).call (asked n)).2

def told : Except TransportError Reply.FlashInfo :=
  Device.answer .flashInfo Reply.flashInfo (t.transact Command.flashInfo.call device).1

def listed (i : Nat) : Except TransportError Listed :=
  Listed.ofReply (ask i) (t.transact (ask i).call (asked t device i)).1

end Device

section Survey

variable {σ : Type} {t : Transport σ} {device last : σ} {es : List Event}

theorem segmentInfo_eq {b : Bytes} {info : Reply.SegmentInfo}
    (h : Reply.segmentInfo b = .ok info) :
    info = ⟨b.le32At 0, b.le32At 4, Text.Utf8.decodeLossy (Reply.segmentName b)⟩ := by
  simp only [Reply.segmentInfo, bind, Except.bind, pure, Except.pure] at h
  split at h
  · cases h
  · split at h
    · cases h
    · exact (Except.ok.inj h).symm

theorem answer_segmentInfo (c : Command) (reply : Except TransportError Bytes) :
    (∃ e, Device.answer c Reply.segmentInfo reply = .error e ∧ Listed.ofReply c reply = .error e) ∨
      ∃ info x, Device.answer c Reply.segmentInfo reply = .ok info ∧
        Listed.ofReply c reply = .ok x ∧ info.size = x.size ∧ x.size.toNat ≤ flashSizeMax ∧
        info.name = Text.Utf8.decodeLossy x.name := by
  unfold Device.answer Listed.ofReply
  cases Device.checkedReply c reply with
  | error e => exact .inl ⟨e, rfl, rfl⟩
  | ok b =>
    cases hinfo : Reply.segmentInfo b with
    | error e =>
      refine .inl ⟨.wire e, ?_, ?_⟩
      · simp only [Except.bind, hinfo]
        rfl
      · simp only [Except.bind, bind, hinfo]
        rfl
    | ok info =>
      have hsize := segmentInfo_size_le hinfo
      have heq := segmentInfo_eq hinfo
      refine .inr ⟨info, ⟨b.le32At 0, Reply.segmentName b⟩, ?_, ?_, congrArg (·.size) heq, ?_,
        congrArg (·.name) heq⟩
      · simp only [Except.bind, hinfo]
        rfl
      · simp only [Except.bind, bind, hinfo]
        rfl
      · rwa [heq] at hsize

theorem survey_lists {found : Found} {n index : Nat} {r : Except DirectoryError Found}
    (hkept : ∀ role, Keeps (listed t device) index role (found role))
    (hcomplete : Complete (listed t device) index)
    (h : (survey found n index).Runs es r) (hg : t.Gives (asked t device index) es last) :
    (∃ k e, k < n ∧ Complete (listed t device) (index + k) ∧
        listed t device (index + k) = .error e ∧ r = .error (.transport e) ∧
        es.filterMap Event.command? = (List.range' index (k + 1)).map ask) ∨
      ∃ found', Complete (listed t device) (index + n) ∧
        (∀ role, Keeps (listed t device) (index + n) role (found' role)) ∧ r = .ok found' ∧
        es.filterMap Event.command? = (List.range' index n).map ask := by
  induction n generalizing found index es with
  | zero =>
    obtain ⟨rfl, rfl⟩ := Procedure.runs_pure.mp h
    exact .inr ⟨found, hcomplete, hkept, rfl, rfl⟩
  | succ n ih =>
    obtain ⟨reply, hcall⟩ := Device.runs_call (Device.runs_query_answer rfl) h
    obtain ⟨e, hfail, rfl, rfl⟩ | ⟨info, rest, hinfo, rfl, hrest⟩ := hcall
    · obtain ⟨rfl, -⟩ := hg.sent_inv
      obtain ⟨e', he', hlisted⟩ | ⟨info, x, hinfo, -⟩ := answer_segmentInfo (ask index) _
      · cases hfail.symm.trans he'
        exact .inl ⟨0, e, Nat.succ_pos n, hcomplete, hlisted, rfl, rfl⟩
      · cases hfail.symm.trans hinfo
    · obtain ⟨rfl, hlater⟩ := hg.sent_inv
      obtain ⟨e', he', hlisted⟩ | ⟨info', x, hinfo', hlisted, hsize, -, hname⟩ :=
        answer_segmentInfo (ask index) (t.transact (ask index).call (asked t device index)).1
      · cases hinfo.symm.trans he'
      · cases hinfo.symm.trans hinfo'
        have hkept' (role : SegmentRole) := (hkept role).record hlisted hsize hname
        have hcomplete' : Complete (listed t device) (index + 1) := by
          intro i hi
          obtain hi | rfl := Nat.lt_succ_iff_lt_or_eq.mp hi
          · exact hcomplete i hi
          · exact ⟨x, hlisted⟩
        obtain ⟨k, e, hk, hall, he, rfl, hcommands⟩ | ⟨found', hall, hfound, rfl, hcommands⟩ :=
          ih hkept' hcomplete' hrest hlater
        · rw [Nat.add_assoc, Nat.add_comm 1 k] at hall he
          exact .inl ⟨k + 1, e, Nat.succ_lt_succ hk, hall, he, rfl,
            congrArg (ask index :: ·) hcommands⟩
        · rw [Nat.add_assoc, Nat.add_comm 1 n] at hall hfound
          exact .inr ⟨found', hall, hfound, rfl, congrArg (ask index :: ·) hcommands⟩

theorem listed_size_le {i : Nat} {x : Listed} (h : listed t device i = .ok x) :
    x.size.toNat ≤ flashSizeMax := by
  obtain ⟨e, -, hlisted⟩ | ⟨info, x', -, hlisted, -, hsize, -⟩ := answer_segmentInfo (ask i) _
  · cases h.symm.trans hlisted
  · cases h.symm.trans hlisted
    exact hsize

theorem discover_cases {r : Except DirectoryError FlashDirectory} (h : discover.Runs es r)
    (hg : t.Gives device es last) :
    (∃ k e, Fault (listed t device) (told t device) k e ∧ r = .error e ∧
        es.filterMap Event.command? = .flashInfo :: (List.range k).map ask) ∨
      ∃ f d, Described (listed t device) (told t device) f d ∧ r = .ok d ∧
        es.filterMap Event.command? = .flashInfo :: (List.range f.count.toNat).map ask := by
  obtain ⟨reply, hcall⟩ := Device.runs_call (Device.runs_query_answer rfl) h
  obtain ⟨e, hfail, rfl, rfl⟩ | ⟨f, rest, hinfo, rfl, hrest⟩ := hcall
  · obtain ⟨rfl, -⟩ := hg.sent_inv
    exact .inl ⟨0, _, .unreadable hfail, rfl, rfl⟩
  · obtain ⟨rfl, hlater⟩ := hg.sent_inv
    have hinfo : told t device = .ok f := hinfo
    split at hrest
    · next hcount =>
      have hcounted : Counted (told t device) f := ⟨hinfo, hcount.1, hcount.2⟩
      have hnone (role : SegmentRole) : Keeps (listed t device) 0 role (Found.none role) :=
        .none fun i x hi => absurd hi (Nat.not_lt_zero i)
      have hstart : Complete (listed t device) 0 := fun i hi => absurd hi (Nat.not_lt_zero i)
      obtain ⟨e, hsurvey, rfl⟩ | ⟨found, es₁, es₂, rfl, hsurvey, hassign⟩ :=
        Procedure.runs_bind.mp hrest
      · obtain ⟨k, e', hk, hall, he, hr, hcommands⟩ | ⟨found, -, -, hr, -⟩ :=
          survey_lists hnone hstart hsurvey hlater
        · cases hr
          rw [Nat.zero_add] at hall he
          refine .inl ⟨k + 1, _, .unlisted hcounted hk hall he, rfl, ?_⟩
          rw [List.range_eq_range']
          exact congrArg (Command.flashInfo :: ·) hcommands
        · cases hr
      · obtain ⟨rfl, rfl⟩ := Procedure.runs_ofExcept.mp hassign
        rw [List.append_nil] at hlater ⊢
        obtain ⟨k, e', -, -, -, hr, -⟩ | ⟨found', hall, hkept, hr, hcommands⟩ :=
          survey_lists hnone hstart hsurvey hlater
        · cases hr
        · cases hr
          rw [Nat.zero_add] at hall hkept
          rw [← List.range_eq_range'] at hcommands
          have hcommands := congrArg (Command.flashInfo :: ·) hcommands
          obtain ⟨e, hfault, hof⟩ | ⟨d, hdescribed, hof⟩ := ofFound_cases hcounted hall hkept
          · exact .inl ⟨_, e, hfault, hof, hcommands⟩
          · exact .inr ⟨f, d, hdescribed, hof, hcommands⟩
    · next hcount =>
      obtain ⟨rfl, rfl⟩ := Procedure.runs_throw.mp hrest
      exact .inl ⟨0, _, .miscounted hinfo hcount, rfl, rfl⟩

end Survey

/-- Discovery succeeds exactly if the device lists 1 to 15 segments and the last segment with the
name of a role is, for each of the four, not the first one of the device. The directory then has
these segments, which are different ones, with the sizes reported for them. Otherwise discovery
fails with the first fault and asks for no further segment. -/
theorem discovery_maps_roles {σ : Type} (t : Transport σ) (device : σ) :
    let (result, link) := discover.perform t device
    (∀ d, result = .ok d ↔ ∃ f, told t device = .ok f ∧ 1 ≤ f.count.toNat ∧ f.count.toNat ≤ 15 ∧
      (∀ i < f.count.toNat, ∃ x, listed t device i = .ok x) ∧ d.flashSize = f.size ∧
      ∀ role, ∃ i x, i ≠ 0 ∧ Last (listed t device) f.count.toNat role i x ∧
        d.segment role = ⟨UInt32.ofNat i, x.size⟩) ∧
    (∀ d f, result = .ok d → told t device = .ok f →
      (∀ role, 1 ≤ (d.segment role).index.toNat ∧
        (d.segment role).index.toNat < f.count.toNat ∧
        (d.segment role).size.toNat ≤ 16 * 1024 * 1024) ∧
      (∀ role role', (d.segment role).index = (d.segment role').index → role = role') ∧
      link.commands = .flashInfo ::
        (List.range f.count.toNat).map fun i => .flashSegmentInfo (UInt32.ofNat i)) ∧
    ∀ e, result = .error e → ∃ n, Fault (listed t device) (told t device) n e ∧
      link.commands = .flashInfo ::
        (List.range n).map fun i => .flashSegmentInfo (UInt32.ofNat i) := by
  have hruns := discover.runs_perform t device
  have hgives := discover.gives_perform t device
  generalize discover.perform t device = out at hruns hgives
  obtain ⟨result, link⟩ := out
  change discover.Runs link.events.reverse result at hruns
  have hcases := discover_cases hruns hgives
  rw [← Link.commands_eq] at hcases
  refine ⟨fun d => ⟨?_, ?_⟩, ?_, ?_⟩
  · rintro rfl
    obtain ⟨k, e, -, hr, -⟩ | ⟨f, d', h, hr, -⟩ := hcases
    · cases hr
    · cases hr
      exact ⟨f, h.told, h.one_le, h.le_max, h.complete, h.flashSize_eq, h.segment_eq⟩
  · rintro ⟨f, htold, hmin, hmax, hall, hsize, hsegment⟩
    have h : Described (listed t device) (told t device) f d :=
      ⟨⟨htold, hmin, hmax⟩, hall, hsize, hsegment⟩
    obtain ⟨k, e, hfault, -, -⟩ | ⟨f', d', h', rfl, -⟩ := hcases
    · exact absurd h hfault.not_described
    · rw [h'.unique h]
  · rintro d f rfl htold
    obtain ⟨k, e, -, hr, -⟩ | ⟨f', d', h, hr, hcommands⟩ := hcases
    · cases hr
    · cases hr
      cases htold.symm.trans h.told
      refine ⟨fun role => ?_, (discover_separate hruns).injective, hcommands⟩
      obtain ⟨i, x, hi, hlast, hsegment⟩ := h.segment_eq role
      have hmax := h.le_max
      have hlt := hlast.lt
      have hindex : (UInt32.ofNat i).toNat = i :=
        UInt32.toNat_ofNat_of_lt' (Nat.lt_of_lt_of_le (Nat.lt_of_lt_of_le hlt hmax) (by decide))
      rw [hsegment, hindex]
      exact ⟨Nat.pos_of_ne_zero hi, hlt, listed_size_le hlast.listed⟩
  · rintro e rfl
    obtain ⟨k, e', hfault, hr, hcommands⟩ | ⟨f, d, -, hr, -⟩ := hcases
    · cases hr
      exact ⟨k, hfault, hcommands⟩
    · cases hr

/-- A role takes its last segment, also where the first of the device has its name, too. -/
example :
    let names := ["App_Upgrade", "App_Settings", "App_Disk", "App_Env", "App_Settings",
      "App_Upgrade"]
    let device : Simulator := { segments := names.map fun name => { name, size := 0x1000 } }
    ((discover.perform Simulator.transport device).1.toOption.map fun d =>
      SegmentRole.all.map fun role => (d.segment role).index) = some [5, 4, 2, 3] := by
  decide +kernel

end FlashDirectory

end CardFirmware
