import CardFirmware.Flash.Directory
import CardFirmware.Proofs.Device.Runs

/-! Which commands discovery sends, and what it guarantees of the directory it finds: the four
segments are different ones among those that the device has, no larger than a segment may be, and
none of them is the first of the device. -/

namespace CardFirmware

def Command.ReadsDirectory : Command → Prop
  | .flashInfo | .flashSegmentInfo _ => True
  | _ => False

namespace FlashDirectory

structure Separate (d : FlashDirectory) : Prop where
  ne_zero (role : SegmentRole) : (d.segment role).index ≠ 0
  injective (role role' : SegmentRole) :
    (d.segment role).index = (d.segment role').index → role = role'

namespace Found

structure Below (found : Found) (n : Nat) : Prop where
  lt (role : SegmentRole) (s : Segment) : found role = some s → s.index.toNat < n
  size_le (role : SegmentRole) (s : Segment) : found role = some s → s.size.toNat ≤ flashSizeMax
  injective (role role' : SegmentRole) (s s' : Segment) :
    found role = some s → found role' = some s' → s.index = s'.index → role = role'

theorem below_none (n : Nat) : Below Found.none n :=
  ⟨fun _ _ h => (Option.some_ne_none _ h.symm).elim,
    fun _ _ h => (Option.some_ne_none _ h.symm).elim,
    fun _ _ _ _ h => (Option.some_ne_none _ h.symm).elim⟩

theorem Below.mono {found : Found} {n m : Nat} (h : found.Below n) (hnm : n ≤ m) :
    found.Below m :=
  ⟨fun role s hs => Nat.lt_of_lt_of_le (h.lt role s hs) hnm, h.size_le, h.injective⟩

theorem Below.record {found : Found} {n : Nat} (h : found.Below n) (hn : n < UInt32.size)
    {info : Reply.SegmentInfo} (hinfo : info.size.toNat ≤ flashSizeMax) :
    (found.record (UInt32.ofNat n) info).Below (n + 1) := by
  have hindex : (UInt32.ofNat n).toNat = n := UInt32.toNat_ofNat_of_lt' hn
  unfold Found.record
  split
  · next new hnew =>
    -- what was recorded so far lies below `n`, so the new segment is none of it
    have hold : ∀ role s, found role = some s → s.index ≠ UInt32.ofNat n := by
      intro role s hs he
      have hlt := h.lt role s hs
      rw [he, hindex] at hlt
      exact Nat.lt_irrefl n hlt
    constructor
    · intro role s hs
      split at hs
      · cases hs
        rw [hindex]
        exact Nat.lt_succ_self n
      · exact Nat.lt_succ_of_lt (h.lt role s hs)
    · intro role s hs
      split at hs
      · cases hs
        exact hinfo
      · exact h.size_le role s hs
    · intro role role' s s' hs hs' he
      split at hs <;> split at hs'
      · rename_i hr hr'
        rw [hr, hr']
      · cases hs
        exact absurd he.symm (hold role' s' hs')
      · cases hs'
        exact absurd he (hold role s hs)
      · exact h.injective role role' s s' hs hs' he
  · exact h.mono (Nat.le_succ n)

end Found

variable {es : List Event}

theorem segmentInfo_size_le {b : Bytes} {info : Reply.SegmentInfo}
    (h : Reply.segmentInfo b = .ok info) : info.size.toNat ≤ flashSizeMax := by
  simp only [Reply.segmentInfo, Command.checkSize, bind, Except.bind, pure, Except.pure] at h
  split at h
  · cases h
  · split at h
    · cases h
    · next hsize =>
      cases h
      split at hsize
      · assumption
      · cases hsize

theorem survey_below {n index : Nat} {found result : Found} (h : found.Below index)
    (hindex : index + n ≤ UInt32.size) (hr : (survey found n index).Runs es (.ok result)) :
    result.Below (index + n) := by
  induction n generalizing found index es with
  | zero =>
    obtain ⟨-, hr⟩ := Procedure.runs_pure.mp hr
    cases hr
    exact h
  | succ n ih =>
    obtain ⟨e, -, hr⟩ | ⟨info, es₁, es₂, -, hinfo, hr⟩ := Procedure.runs_bind.mp hr
    · cases hr
    · obtain ⟨r, hquery, hok⟩ := Procedure.runs_orFail.mp hinfo
      cases r with
      | error e => cases hok
      | ok info' =>
        cases hok
        obtain ⟨b, -, -, hb⟩ := Device.runs_query_ok hquery
        have hrest := ih (h.record (by omega) (segmentInfo_size_le hb)) (by omega) hr
        rwa [Nat.add_assoc, Nat.add_comm 1 n] at hrest

theorem required_eq_ok {found : Found} {role : SegmentRole} {s : Segment}
    (h : required found role = .ok s) : found role = some s ∧ s.index ≠ 0 := by
  unfold required at h
  split at h
  · cases h
  · next s' hs =>
    split at h
    · cases h
    · next hne =>
      cases h
      exact ⟨hs, hne⟩

theorem ofFound_eq_ok {flashSize : UInt32} {found : Found} {d : FlashDirectory}
    (h : ofFound flashSize found = .ok d) (role : SegmentRole) :
    required found role = .ok (d.segment role) := by
  unfold ofFound at h
  cases hu : required found .upgrade with
  | error e => rw [hu] at h; cases h
  | ok upgrade =>
    cases hs : required found .settings with
    | error e => rw [hu, hs] at h; cases h
    | ok settings =>
      cases hd : required found .disk with
      | error e => rw [hu, hs, hd] at h; cases h
      | ok disk =>
        cases he : required found .env with
        | error e => rw [hu, hs, hd, he] at h; cases h
        | ok env =>
          rw [hu, hs, hd, he] at h
          cases h
          cases role <;> assumption

theorem discover_found {d : FlashDirectory} (h : discover.Runs es (.ok d)) :
    ∃ b info rest, ∃ found : Found,
      es = .sent .flashInfo (.ok b) :: rest ∧ Reply.flashInfo b = .ok info ∧
        info.count.toNat ≤ segmentCountMax ∧ found.Below info.count.toNat ∧
        ∀ role, found role = some (d.segment role) ∧ (d.segment role).index ≠ 0 := by
  obtain ⟨e, -, he⟩ | ⟨info, es₁, es₂, rfl, hinfo, hrest⟩ := Procedure.runs_bind.mp h
  · cases he
  · obtain ⟨r, hquery, hok⟩ := Procedure.runs_orFail.mp hinfo
    cases r with
    | error e => cases hok
    | ok info' =>
      cases hok
      obtain ⟨b, rfl, -, hb⟩ := Device.runs_query_ok hquery
      split at hrest
      · next hcount =>
        have hmax : info.count.toNat ≤ 15 := hcount.2
        obtain ⟨e, -, he⟩ | ⟨found, es₃, es₄, rfl, hs, hlast⟩ := Procedure.runs_bind.mp hrest
        · cases he
        · obtain ⟨-, hfinish⟩ := Procedure.runs_ofExcept.mp hlast
          have hbound : 0 + info.count.toNat ≤ UInt32.size := by
            rw [Nat.zero_add, UInt32.size]
            omega
          have hfound := survey_below (Found.below_none 0) hbound hs
          rw [Nat.zero_add] at hfound
          exact ⟨b, info, _, found, rfl, hb, hcount.2, hfound,
            fun role => required_eq_ok (ofFound_eq_ok hfinish.symm role)⟩
      · cases (Procedure.runs_throw.mp hrest).2

theorem discover_separate {d : FlashDirectory} (h : discover.Runs es (.ok d)) : d.Separate := by
  obtain ⟨b, info, rest, found, -, -, -, hfound, hsegment⟩ := discover_found h
  exact ⟨fun role => (hsegment role).2, fun role role' =>
    hfound.injective role role' _ _ (hsegment role).1 (hsegment role').1⟩

theorem survey_sends (found : Found) (n index : Nat) :
    (survey found n index).Sends Command.ReadsDirectory := by
  induction n generalizing found index with
  | zero => exact Procedure.sends_pure found
  | succ n ih => exact (Device.sends_query trivial).orFail.bind fun info => ih _ _

theorem discover_sends : discover.Sends Command.ReadsDirectory := by
  refine (Device.sends_query trivial).orFail.bind fun info => ?_
  split
  · exact (survey_sends _ _ _).bind fun found => Procedure.sends_ofExcept _
  · exact Procedure.sends_throw _

end FlashDirectory

end CardFirmware
