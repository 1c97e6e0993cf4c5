import CardFirmware.Esp.Config
import Mathlib.Algebra.Ring.Int.Defs
import Mathlib.Algebra.Ring.Nat

/-! What a device map must hold for an update of the coprocessor to be configured. Thirteen integers
decide it (`Entries`): codes and words must be in range as they stand, offsets once they are added
(`ofDevmap_decided`). The sums are taken before they are checked, and so there are offsets that stop
the program where an error is due (`distant_offsets_stop`). -/

namespace CardFirmware

def Json.HoldsAt (map : Json) (path : List String) (i : Int) : Prop :=
  map.path? path = some (.int i) ∧ -2 ^ 63 ≤ i ∧ i < 2 ^ 63

theorem Json.HoldsAt.exists_toInt {map : Json} {path : List String} {i : Int}
    (h : map.HoldsAt path i) : ∃ v : Int64, v.toInt = i :=
  ⟨Int64.ofInt i, Int64.toInt_ofInt_of_le h.2.1 h.2.2⟩

namespace EspConfig

structure Entries where
  off : Int
  dfu : Int
  normal : Int
  clear : Int
  nextBlock : Int
  finish : Int
  error : Int
  change : Int
  base : Int
  state : Int
  notify : Int
  bootMode : Int
  event : Int

namespace Entries

structure In (e : Entries) (map : Json) : Prop where
  off : map.HoldsAt ["enums", "eSuperState", "enumerators", "eSuperOff"] e.off
  dfu : map.HoldsAt ["enums", "eSuperState", "enumerators", "eSuperDFU"] e.dfu
  normal : map.HoldsAt ["enums", "eSuperState", "enumerators", "eSuperNormal"] e.normal
  clear : map.HoldsAt ["enums", "eDFU_NOTIFICATION", "enumerators", "eClear"] e.clear
  nextBlock : map.HoldsAt ["enums", "eDFU_NOTIFICATION", "enumerators", "eNextblock"] e.nextBlock
  finish : map.HoldsAt ["enums", "eDFU_NOTIFICATION", "enumerators", "eFinish"] e.finish
  error : map.HoldsAt ["enums", "eDFU_NOTIFICATION", "enumerators", "eError"] e.error
  change : map.HoldsAt
    ["enums", "eDEV_FCP_NOTIFY_MESSAGE_TYPE", "enumerators", "FCP_NOTIFY_DFU_CHANGE"] e.change
  base : map.HoldsAt ["structs", "APP_SPACE", "members", "espSpace", "offset"] e.base
  state : map.HoldsAt ["structs", "ESP_SPACE", "members", "SuperState", "offset"] e.state
  notify : map.HoldsAt ["structs", "ESP_SPACE", "members", "DFU_NOTIFY", "offset"] e.notify
  bootMode : map.HoldsAt ["structs", "APP_SPACE", "members", "ESPBootMode", "offset"] e.bootMode
  event : map.HoldsAt ["structs", "APP_SPACE", "members", "ESPBootMode", "notify-device"] e.event

/-- The configuration holds the entries, and the sums of the offsets. An entry that is out of range
for its field is in no configuration. -/
structure Make (e : Entries) (c : EspConfig) : Prop where
  off : e.off = c.states.off.toNat
  dfu : e.dfu = c.states.dfu.toNat
  normal : e.normal = c.states.normal.toNat
  clear : e.clear = c.notifications.clear.toNat
  nextBlock : e.nextBlock = c.notifications.nextBlock.toNat
  finish : e.finish = c.notifications.finish.toNat
  error : e.error = c.notifications.error.toNat
  stateOffset : e.base + e.state = c.stateOffset.toNat
  bootModeOffset : e.bootMode = c.bootModeOffset.toNat
  notifyOffset : e.base + e.notify = c.notifyOffset.toNat
  changeMask : e.change = c.changeMask.toNat
  bootModeEvent : e.event = c.bootModeEvent.toNat

def IsCode (i : Int) : Prop := 0 ≤ i ∧ i < 2 ^ 8

def IsWord (i : Int) : Prop := 0 ≤ i ∧ i < 2 ^ 32

def Fits (i : Int) : Prop := -2 ^ 63 ≤ i ∧ i < 2 ^ 63

def Coded (e : Entries) : Prop :=
  ∀ code ∈ [e.off, e.dfu, e.normal, e.clear, e.nextBlock, e.finish, e.error], IsCode code

/-- One of the sums does not fit. The second one is taken only if all that is checked before it is
in range. -/
def Overflows (e : Entries) : Prop :=
  ¬Fits (e.base + e.state) ∨
    IsWord (e.base + e.state) ∧ IsWord e.bootMode ∧ ¬Fits (e.base + e.notify)

theorem isCode_iff {i : Int} : IsCode i ↔ ∃ code : UInt8, i = code.toNat := by
  constructor
  · rintro ⟨hlow, hhigh⟩
    refine ⟨UInt8.ofNat i.toNat, ?_⟩
    rw [UInt8.toNat_ofNat_of_lt' (by rw [UInt8.size]; omega), Int.toNat_of_nonneg hlow]
  · rintro ⟨code, rfl⟩
    have hcode := code.toNat_lt
    exact ⟨by omega, by omega⟩

theorem isWord_iff {i : Int} : IsWord i ↔ ∃ w : UInt32, i = w.toNat := by
  constructor
  · rintro ⟨hlow, hhigh⟩
    refine ⟨UInt32.ofNat i.toNat, ?_⟩
    rw [UInt32.toNat_ofNat_of_lt' (by rw [UInt32.size]; omega), Int.toNat_of_nonneg hlow]
  · rintro ⟨w, rfl⟩
    have hw := w.toNat_lt
    exact ⟨by omega, by omega⟩

end Entries

section Lookup

variable {map : Json} {path : List String}

theorem bind_eq_ok {ε α β : Type} {x : Except ε α} {f : α → Except ε β} {b : β} :
    x >>= f = .ok b ↔ ∃ a, x = .ok a ∧ f a = .ok b := by
  cases x <;> simp [bind, Except.bind]

theorem bind_eq_error {ε α β : Type} {x : Except ε α} {f : α → Except ε β} {fault : ε} :
    x >>= f = .error fault ↔ x = .error fault ∨ ∃ a, x = .ok a ∧ f a = .error fault := by
  cases x <;> simp [bind, Except.bind]

theorem integerAt_eq_ok {v : Int64} :
    integerAt map path = .ok v ↔ map.HoldsAt path v.toInt := by
  unfold integerAt Json.HoldsAt
  split
  · next h => simp [h]
  · next i h =>
    have hmin : Int64.minValue.toInt = -2 ^ 63 := rfl
    have hmax : Int64.maxValue.toInt = 2 ^ 63 - 1 := rfl
    have hlow := v.le_toInt
    have hhigh := v.toInt_lt
    rw [h, hmin, hmax]
    split
    · next hi =>
      have hv : (Int64.ofInt i).toInt = i := Int64.toInt_ofInt_of_le hi.1 (by omega)
      simp only [Except.ok.injEq, Option.some.injEq, Json.int.injEq]
      constructor
      · rintro rfl
        exact ⟨hv.symm, hlow, hhigh⟩
      · rintro ⟨rfl, -⟩
        exact Int64.toInt_inj.mp hv
    · next hi =>
      simp only [reduceCtorEq, Option.some.injEq, Json.int.injEq, false_iff]
      rintro ⟨rfl, -⟩
      exact hi ⟨hlow, by omega⟩
  · next v' hint h =>
    rw [h]
    simp only [reduceCtorEq, Option.some.injEq, false_iff]
    rintro ⟨rfl, -⟩
    exact hint _ rfl

theorem enumerator_eq_ok {family name : String} {code : UInt8} :
    enumerator map family name = .ok code ↔
      map.HoldsAt ["enums", family, "enumerators", name] code.toNat := by
  have hcode := code.toNat_lt
  simp only [enumerator, bind_eq_ok, integerAt_eq_ok]
  constructor
  · rintro ⟨v, hv, h⟩
    split at h
    · next hrange =>
      cases h
      rwa [UInt8.toNat_ofNat_of_lt' (by have := hrange.2; omega), Int.toNat_of_nonneg hrange.1]
    · cases h
  · intro h
    obtain ⟨v, hv⟩ := h.exists_toInt
    rw [← hv] at h
    refine ⟨v, h, ?_⟩
    have hrange : 0 ≤ v.toInt ∧ v.toInt < UInt8.size := ⟨by omega, by rw [hv]; exact_mod_cast hcode⟩
    rw [if_pos hrange, hv, Int.toNat_natCast, UInt8.ofNat_toNat]
    rfl

theorem word_eq_ok {name : String} {v : Int64} {w : UInt32} :
    word name v = .ok w ↔ v.toInt = w.toNat := by
  have hw := w.toNat_lt
  unfold word
  split
  · next hrange =>
    rw [Except.ok.injEq, ← UInt32.toNat_inj, UInt32.toNat_ofNat_of_lt' (by have := hrange.2; omega)]
    omega
  · next hrange =>
    simp only [reduceCtorEq, false_iff]
    intro hv
    exact hrange ⟨by omega, by rw [hv]; exact_mod_cast hw⟩

theorem offset_eq_ok {base register sum : Int64} :
    offset base register = .ok sum ↔ base.toInt + register.toInt = sum.toInt := by
  have hmin : Int64.minValue.toInt = -2 ^ 63 := rfl
  have hmax : Int64.maxValue.toInt = 2 ^ 63 - 1 := rfl
  have hlow := sum.le_toInt
  have hhigh := sum.toInt_lt
  simp only [offset, hmin, hmax]
  split
  · next hfits =>
    have hsum : (base + register).toInt = base.toInt + register.toInt := by
      rw [Int64.toInt_add, Int.bmod_def]
      omega
    rw [Except.ok.injEq, ← Int64.toInt_inj, hsum]
  · next hfits =>
    simp only [reduceCtorEq, false_iff]
    omega

theorem offset_eq_error {base register : Int64} {fault : ConfigFault} :
    offset base register = .error fault ↔
      fault = .overflow ∧ ¬Entries.Fits (base.toInt + register.toInt) := by
  have hmin : Int64.minValue.toInt = -2 ^ 63 := rfl
  have hmax : Int64.maxValue.toInt = 2 ^ 63 - 1 := rfl
  simp only [offset, hmin, hmax, Entries.Fits]
  split
  · next hfits =>
    simp only [reduceCtorEq, false_iff, not_and]
    omega
  · next hfits =>
    rw [Except.error.injEq, eq_comm]
    exact (and_iff_left (by omega)).symm

theorem integerAt_ne_overflow : integerAt map path ≠ .error .overflow := by
  unfold integerAt
  split
  · simp
  · split <;> simp
  · simp

theorem enumerator_ne_overflow {family name : String} :
    enumerator map family name ≠ .error .overflow := by
  unfold enumerator
  rw [ne_eq, bind_eq_error]
  rintro (h | ⟨v, -, h⟩)
  · exact integerAt_ne_overflow h
  · split at h <;> cases h

theorem word_ne_overflow {name : String} {v : Int64} : word name v ≠ .error .overflow := by
  unfold word
  split <;> simp

theorem toInt_word (w : UInt32) : (Int64.ofInt w.toNat).toInt = w.toNat := by
  have hw := w.toNat_lt
  exact Int64.toInt_ofInt_of_le (by omega) (by omega)

end Lookup

theorem ofDevmap_eq_ok {map : Json} {c : EspConfig} :
    ofDevmap map = .ok c ↔ ∃ e : Entries, e.In map ∧ e.Make c := by
  simp only [ofDevmap, bind_eq_ok, integerAt_eq_ok, enumerator_eq_ok, word_eq_ok, offset_eq_ok]
  constructor
  · rintro ⟨off, hoff, dfu, hdfu, normal, hnormal, clear, hclear, nextBlock, hnextBlock, finish,
      hfinish, error, herror, change, hchange, base, hbase, state, hstate, notify, hnotify,
      bootMode, hbootMode, event, hevent, stateSum, hstateSum, stateOffset, hstateOffset,
      bootModeOffset, hbootModeOffset, notifySum, hnotifySum, notifyOffset, hnotifyOffset,
      changeMask, hchangeMask, bootModeEvent, hbootModeEvent, ⟨⟩⟩
    exact ⟨⟨off.toNat, dfu.toNat, normal.toNat, clear.toNat, nextBlock.toNat, finish.toNat,
        error.toNat, change.toInt, base.toInt, state.toInt, notify.toInt, bootMode.toInt,
        event.toInt⟩,
      ⟨hoff, hdfu, hnormal, hclear, hnextBlock, hfinish, herror, hchange, hbase, hstate, hnotify,
        hbootMode, hevent⟩,
      ⟨rfl, rfl, rfl, rfl, rfl, rfl, rfl, hstateSum.trans hstateOffset, hbootModeOffset,
        hnotifySum.trans hnotifyOffset, hchangeMask, hbootModeEvent⟩⟩
  · rintro ⟨e, hin, hmake⟩
    obtain ⟨change, hchange⟩ := hin.change.exists_toInt
    obtain ⟨base, hbase⟩ := hin.base.exists_toInt
    obtain ⟨state, hstate⟩ := hin.state.exists_toInt
    obtain ⟨notify, hnotify⟩ := hin.notify.exists_toInt
    obtain ⟨bootMode, hbootMode⟩ := hin.bootMode.exists_toInt
    obtain ⟨event, hevent⟩ := hin.event.exists_toInt
    refine ⟨c.states.off, hmake.off ▸ hin.off, c.states.dfu, hmake.dfu ▸ hin.dfu,
      c.states.normal, hmake.normal ▸ hin.normal, c.notifications.clear, hmake.clear ▸ hin.clear,
      c.notifications.nextBlock, hmake.nextBlock ▸ hin.nextBlock, c.notifications.finish,
      hmake.finish ▸ hin.finish, c.notifications.error, hmake.error ▸ hin.error,
      change, hchange ▸ hin.change, base, hbase ▸ hin.base, state, hstate ▸ hin.state,
      notify, hnotify ▸ hin.notify, bootMode, hbootMode ▸ hin.bootMode, event,
      hevent ▸ hin.event, Int64.ofInt c.stateOffset.toNat, ?_, c.stateOffset, toInt_word _,
      c.bootModeOffset, ?_, Int64.ofInt c.notifyOffset.toNat, ?_, c.notifyOffset, toInt_word _,
      c.changeMask, ?_, c.bootModeEvent, ?_, rfl⟩
    · rw [hbase, hstate, toInt_word]
      exact hmake.stateOffset
    · rw [hbootMode]
      exact hmake.bootModeOffset
    · rw [hbase, hnotify, toInt_word]
      exact hmake.notifyOffset
    · rw [hchange]
      exact hmake.changeMask
    · rw [hevent]
      exact hmake.bootModeEvent

theorem ofDevmap_eq_overflow {map : Json} :
    ofDevmap map = .error .overflow ↔ ∃ e : Entries, e.In map ∧ e.Coded ∧ e.Overflows := by
  simp only [ofDevmap, bind_eq_error, integerAt_ne_overflow, enumerator_ne_overflow,
    word_ne_overflow, offset_eq_error, integerAt_eq_ok, enumerator_eq_ok, offset_eq_ok, word_eq_ok,
    false_or, true_and, pure, Except.pure, reduceCtorEq, and_false, exists_false, or_false]
  constructor
  · rintro ⟨off, hoff, dfu, hdfu, normal, hnormal, clear, hclear, nextBlock, hnextBlock, finish,
      hfinish, error, herror, change, hchange, base, hbase, state, hstate, notify, hnotify,
      bootMode, hbootMode, event, hevent, hover⟩
    refine ⟨⟨off.toNat, dfu.toNat, normal.toNat, clear.toNat, nextBlock.toNat, finish.toNat,
        error.toNat, change.toInt, base.toInt, state.toInt, notify.toInt, bootMode.toInt,
        event.toInt⟩,
      ⟨hoff, hdfu, hnormal, hclear, hnextBlock, hfinish, herror, hchange, hbase, hstate, hnotify,
        hbootMode, hevent⟩, ?_, hover.imp_right ?_⟩
    · have hcode (code : UInt8) : Entries.IsCode code.toNat := Entries.isCode_iff.mpr ⟨code, rfl⟩
      simp [Entries.Coded, hcode]
    · rintro ⟨sum, hsum, w, hw, b, hb, hnot⟩
      exact ⟨Entries.isWord_iff.mpr ⟨w, hsum.trans hw⟩, Entries.isWord_iff.mpr ⟨b, hb⟩, hnot⟩
  · rintro ⟨e, hin, hcoded, hover⟩
    have hcode (code : Int) (hmem : code ∈ [e.off, e.dfu, e.normal, e.clear, e.nextBlock, e.finish,
        e.error]) : ∃ c : UInt8, code = c.toNat := Entries.isCode_iff.mp (hcoded code hmem)
    obtain ⟨off, hoff⟩ := hcode e.off (by simp)
    obtain ⟨dfu, hdfu⟩ := hcode e.dfu (by simp)
    obtain ⟨normal, hnormal⟩ := hcode e.normal (by simp)
    obtain ⟨clear, hclear⟩ := hcode e.clear (by simp)
    obtain ⟨nextBlock, hnextBlock⟩ := hcode e.nextBlock (by simp)
    obtain ⟨finish, hfinish⟩ := hcode e.finish (by simp)
    obtain ⟨error, herror⟩ := hcode e.error (by simp)
    obtain ⟨change, hchange⟩ := hin.change.exists_toInt
    obtain ⟨base, hbase⟩ := hin.base.exists_toInt
    obtain ⟨state, hstate⟩ := hin.state.exists_toInt
    obtain ⟨notify, hnotify⟩ := hin.notify.exists_toInt
    obtain ⟨bootMode, hbootMode⟩ := hin.bootMode.exists_toInt
    obtain ⟨event, hevent⟩ := hin.event.exists_toInt
    refine ⟨off, hoff ▸ hin.off, dfu, hdfu ▸ hin.dfu, normal, hnormal ▸ hin.normal, clear,
      hclear ▸ hin.clear, nextBlock, hnextBlock ▸ hin.nextBlock, finish, hfinish ▸ hin.finish,
      error, herror ▸ hin.error, change, hchange ▸ hin.change, base, hbase ▸ hin.base, state,
      hstate ▸ hin.state, notify, hnotify ▸ hin.notify, bootMode, hbootMode ▸ hin.bootMode, event,
      hevent ▸ hin.event, ?_⟩
    rw [hbase, hstate, hbootMode, hnotify]
    refine hover.imp_right ?_
    rintro ⟨hsum, hboot, hnot⟩
    obtain ⟨w, hw⟩ := Entries.isWord_iff.mp hsum
    obtain ⟨b, hb⟩ := Entries.isWord_iff.mp hboot
    exact ⟨Int64.ofInt w.toNat, hw.trans (toInt_word w).symm, w, toInt_word w, b, hb, hnot⟩

/-- A device map has a configuration just if all thirteen entries are integers there, the codes and
words among them in range, and the sums of the offsets too; these are then what the configuration
holds. Otherwise there is a problem to report, unless a sum does not fit before it is checked. -/
theorem ofDevmap_decided (map : Json) :
    (∀ c, ofDevmap map = .ok c ↔ ∃ e : Entries, e.In map ∧ e.Make c) ∧
    (ofDevmap map = .error .overflow ↔ ∃ e : Entries, e.In map ∧ e.Coded ∧ e.Overflows) ∧
    ((¬∃ (e : Entries) (c : EspConfig), e.In map ∧ e.Make c) →
      (¬∃ e : Entries, e.In map ∧ e.Coded ∧ e.Overflows) →
      ∃ problem, ofDevmap map = .error (.problem problem)) := by
  refine ⟨fun c => ofDevmap_eq_ok, ofDevmap_eq_overflow, fun hnone hfits => ?_⟩
  cases hmap : ofDevmap map with
  | ok c =>
    obtain ⟨e, he⟩ := ofDevmap_eq_ok.mp hmap
    exact absurd ⟨e, c, he⟩ hnone
  | error fault =>
    cases fault with
    | problem p => exact ⟨p, rfl⟩
    | overflow => exact absurd (ofDevmap_eq_overflow.mp hmap) hfits

def mapWith (base state notify : Int) : Json :=
  .object [
    ("enums", .object [
      ("eSuperState", .object [("enumerators", .object
        [("eSuperOff", .int 1), ("eSuperDFU", .int 2), ("eSuperNormal", .int 3)])]),
      ("eDFU_NOTIFICATION", .object [("enumerators", .object
        [("eClear", .int 0), ("eNextblock", .int 1), ("eFinish", .int 2), ("eError", .int 3)])]),
      ("eDEV_FCP_NOTIFY_MESSAGE_TYPE", .object [("enumerators", .object
        [("FCP_NOTIFY_DFU_CHANGE", .int 4194304)])])]),
    ("structs", .object [
      ("APP_SPACE", .object [("members", .object
        [("espSpace", .object [("offset", .int base)]),
          ("ESPBootMode", .object [("offset", .int 64), ("notify-device", .int 17)])])]),
      ("ESP_SPACE", .object [("members", .object
        [("SuperState", .object [("offset", .int state)]),
          ("DFU_NOTIFY", .object [("offset", .int notify)])])])])]

/-- Two offsets of -2⁶³ add up to -2⁶⁴. No configuration has such a register, and instead of a
problem being reported the program stops. -/
theorem distant_offsets_stop :
    let map := mapWith (-2 ^ 63) (-2 ^ 63) (-2 ^ 63 + 4)
    ofDevmap map = .error .overflow ∧ (¬∃ (e : Entries) (c : EspConfig), e.In map ∧ e.Make c) ∧
      ¬∃ problem, ofDevmap map = .error (.problem problem) := by
  intro map
  have hmap : ofDevmap map = .error .overflow := rfl
  refine ⟨hmap, ?_, ?_⟩
  · rintro ⟨e, c, he⟩
    cases hmap.symm.trans (ofDevmap_eq_ok.mpr ⟨e, he⟩)
  · rintro ⟨problem, hproblem⟩
    cases hmap.symm.trans hproblem

end EspConfig

end CardFirmware
