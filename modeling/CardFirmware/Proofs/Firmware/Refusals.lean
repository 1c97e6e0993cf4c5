import CardFirmware.Proofs.Firmware.Reading

/-! How the readers of a firmware file fail. A reader of fields takes a known number of bytes, and
where these are not there it reports that the file is cut off (`Measures`). -/

namespace CardFirmware

namespace FirmwareFile

variable {α β : Type} {size : Nat} {b rest : Bytes} {e : FirmwareError}

def Refuses (r : Reader α) (b : Bytes) (e : FirmwareError) : Prop := r.run b = .error e

@[simp] theorem refuses_pure {a : α} : ¬Refuses (pure a) b e := by
  intro h
  cases h

@[simp] theorem refuses_throw {e' : FirmwareError} :
    Refuses (throw e' : Reader α) b e ↔ e = e' := by
  constructor
  · intro h
    cases h
    rfl
  · rintro rfl
    rfl

theorem Takes.not_refuses {r : Reader α} {a : α} (h : Takes r b a rest) : ¬Refuses r b e := by
  intro hrefuses
  cases h.symm.trans hrefuses

theorem refuses_bind {r : Reader α} {f : α → Reader β} :
    Refuses (r >>= f) b e ↔
      Refuses r b e ∨ ∃ a mid, Takes r b a mid ∧ Refuses (f a) mid e := by
  unfold Refuses Takes
  rw [StateT.run_bind]
  cases hr : r.run b with
  | error e' =>
    constructor
    · intro h
      cases h
      exact .inl rfl
    · rintro (⟨⟨⟩⟩ | ⟨a, mid, ⟨⟩, -⟩)
      rfl
  | ok out =>
    obtain ⟨a, mid⟩ := out
    constructor
    · intro h
      exact .inr ⟨a, mid, rfl, h⟩
    · rintro (⟨⟨⟩⟩ | ⟨a', mid', ⟨⟩, h⟩)
      exact h

theorem Refuses.bind {r : Reader α} (h : Refuses r b e) (f : α → Reader β) :
    Refuses (r >>= f) b e :=
  refuses_bind.mpr (.inl h)

theorem Takes.bind_refuses {r : Reader α} {f : α → Reader β} {a : α} (h : Takes r b a rest)
    (hf : Refuses (f a) rest e) : Refuses (r >>= f) b e :=
  refuses_bind.mpr (.inr ⟨a, rest, h, hf⟩)

theorem map_fst_eq_error {x : Except FirmwareError (α × Bytes)} :
    x.map (·.1) = .error e ↔ x = .error e := by
  cases x with
  | error e' => exact ⟨fun h => congrArg Except.error (Except.error.inj h), congrArg _⟩
  | ok out => exact ⟨nofun, nofun⟩

theorem decode_eq_error : decode b = .error e ↔ Refuses (readFile b.length) b e :=
  map_fst_eq_error

theorem decodeHeader_eq_error :
    decodeHeader b = .error e ↔ Refuses (readHeader b.length) b e :=
  map_fst_eq_error

/-- A file of `size` bytes is reported to be cut off: it should have had more of them, but not more
than `limit`. -/
def Shortage (size limit : Nat) (e : FirmwareError) : Prop :=
  ∃ expected, e = .truncated expected size ∧ size < expected ∧ expected ≤ limit

theorem Shortage.mono {limit limit' : Nat} (h : Shortage size limit e) (hle : limit ≤ limit') :
    Shortage size limit' e := by
  obtain ⟨expected, he, hsize, hlimit⟩ := h
  exact ⟨expected, he, hsize, Nat.le_trans hlimit hle⟩

/-- Of what is left of a file of `size` bytes, the reader takes `n` bytes whatever they are, and if
there are not so many it reports that the file is cut off. -/
structure Measures (size : Nat) (r : Reader α) (n : Nat) : Prop where
  takes : ∀ {b : Bytes}, n ≤ b.length → ∃ a, Takes r b a (b.drop n)
  refuses : ∀ {b : Bytes}, b.length ≤ size → b.length < n →
    ∃ e, Refuses r b e ∧ Shortage size (size - b.length + n) e

theorem measures_pure (a : α) : Measures size (pure a) 0 :=
  ⟨fun _ => ⟨a, rfl⟩, fun _ hn => absurd hn (Nat.not_lt_zero _)⟩

theorem Measures.bind {r : Reader α} {f : α → Reader β} {m n : Nat} (hr : Measures size r m)
    (hf : ∀ a, Measures size (f a) n) : Measures size (r >>= f) (m + n) where
  takes {b} hb := by
    obtain ⟨a, ha⟩ := hr.takes (b := b) (by omega)
    have hrest : n ≤ (b.drop m).length := by
      rw [List.length_drop]
      omega
    obtain ⟨x, hx⟩ := (hf a).takes hrest
    rw [List.drop_drop] at hx
    exact ⟨x, takes_bind.mpr ⟨a, b.drop m, ha, hx⟩⟩
  refuses {b} hsize hb := by
    rcases Nat.lt_or_ge b.length m with hshort | hlong
    · obtain ⟨e, he, hshortage⟩ := hr.refuses hsize hshort
      exact ⟨e, he.bind f, hshortage.mono (by omega)⟩
    · -- what the first reader takes moves the end no further away
      obtain ⟨a, ha⟩ := hr.takes hlong
      have hlength : (b.drop m).length = b.length - m := List.length_drop
      obtain ⟨e, he, hshortage⟩ :=
        (hf a).refuses (b := b.drop m) (by omega) (by omega)
      refine ⟨e, ha.bind_refuses he, hshortage.mono ?_⟩
      omega

theorem measures_take (n : Nat) : Measures size (take size n) n where
  takes {b} hb := ⟨b.take n, takes_take.mpr
    ⟨(List.take_append_drop n b).symm, List.length_take_of_le hb⟩⟩
  refuses {b} hsize hb := by
    have hnone : ¬n ≤ b.length := Nat.not_le.mpr hb
    refine ⟨.truncated (size - b.length + n) size, if_neg hnone, _, rfl, ?_, Nat.le_refl _⟩
    omega

theorem measures_octets (n : Nat) : Measures size (octets size n) n where
  takes {b} hb := ⟨⟨b.take n, List.length_take_of_le hb⟩,
    takes_octets.mpr (List.take_append_drop n b).symm⟩
  refuses {b} hsize hb := by
    have hnone : Octets.split n b = none := dif_neg (Nat.not_le.mpr hb)
    refine ⟨.truncated (size - b.length + n) size, ?_, _, rfl, ?_, Nat.le_refl _⟩
    · change octets size n b = _
      rw [octets, hnone]
    · omega

theorem measures_word16 : Measures size (word16 size) 2 := by
  refine (measures_take 2).bind (n := 0) fun data => ?_
  split
  · exact measures_pure _
  · exact measures_pure _

theorem measures_word32 : Measures size (word32 size) 4 := by
  refine (measures_take 4).bind (n := 0) fun data => ?_
  split
  · exact measures_pure _
  · exact measures_pure _

theorem measures_versionField : Measures size (versionField size) 16 :=
  measures_word32.bind fun _ => measures_word32.bind fun _ => measures_word32.bind fun _ =>
    measures_word32.bind fun _ => measures_pure _

theorem measures_sectionHeader (kind : FirmwareKind) :
    Measures size (sectionHeader size kind) 56 :=
  measures_word16.bind fun _ => measures_word16.bind fun _ => measures_versionField.bind fun _ =>
    measures_word32.bind fun _ => (measures_octets 32).bind fun _ => measures_pure _

theorem measures_boxHeader : Measures size (boxHeader size) 24 :=
  measures_word16.bind fun _ => measures_word16.bind fun _ => measures_versionField.bind fun _ =>
    measures_word32.bind fun _ => measures_pure _

theorem Measures.not_refuses {r : Reader α} {n : Nat} (h : Measures size r n)
    (hb : n ≤ b.length) : ¬Refuses r b e := by
  obtain ⟨a, ha⟩ := h.takes hb
  exact ha.not_refuses

theorem refuses_fileKind (hb : 8 ≤ b.length) : Refuses (fileKind size) b e ↔
    FirmwareKind.ofMagic? (b.take 8) = none ∧ e = invalidKind 0 (b.take 8) := by
  have htake : Takes (take size 8) b (b.take 8) (b.drop 8) :=
    takes_take.mpr ⟨(List.take_append_drop 8 b).symm, List.length_take_of_le hb⟩
  unfold fileKind
  rw [refuses_bind]
  constructor
  · rintro (hshort | ⟨magic, mid, hmagic, hkind⟩)
    · exact absurd hshort htake.not_refuses
    · obtain ⟨rfl, rfl⟩ := Prod.mk.inj (Except.ok.inj (hmagic.symm.trans htake))
      split at hkind
      · next hnone => exact ⟨hnone, refuses_throw.mp hkind⟩
      · exact absurd hkind refuses_pure
  · rintro ⟨hnone, rfl⟩
    refine .inr ⟨b.take 8, b.drop 8, htake, ?_⟩
    rw [hnone]
    exact refuses_throw.mpr rfl

end FirmwareFile

end CardFirmware
