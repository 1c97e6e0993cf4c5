import CardFirmware.Esp.Update

/-! What the history of a transfer shows: blocks, starts, writes and reads of a register, and the
part since the last block. A wait adds to a history only events in which none of these but the
register waited for can be seen. Histories have their latest event first. -/

namespace CardFirmware

namespace Event

def block? : Event → Option Bytes
  | .sent (.espDfuWrite block) _ => some block
  | _ => none

def start? : Event → Option (UInt32 × Octets 16)
  | .sent (.espDfuStart length md5) _ => some (length, md5)
  | _ => none

def written? (register : UInt32) : Event → Option Int32
  | .sent (.dataWrite offset _ value) _ => if offset = register then some value else none
  | _ => none

def read? (register : UInt32) : Event → Option (Except TransportError Bytes)
  | .sent (.dataRead offset _) reply => if offset = register then some reply else none
  | _ => none

end Event

namespace Esp

def reading (register : UInt32) (v : UInt8) : Event := .sent (.dataRead register .one) (.ok [v])

def codeValue (v : UInt8) : Int32 := v.toUInt32.toInt32

def switchTo (config : EspConfig) (mode : UInt8) : Command :=
  .dataWrite config.bootModeOffset .one (codeValue mode)

def seen {α : Type} (view : Event → Option α) (past : List Event) : List α :=
  past.reverse.filterMap view

def lastRead (register : UInt32) (past : List Event) : Option (Except TransportError Bytes) :=
  past.findSome? (Event.read? register)

def sinceBlock (past : List Event) : List Event := past.takeWhile fun e => e.block?.isNone

section Views

variable {α : Type} {view : Event → Option α} {e : Event} {past : List Event}

theorem seen_nil : seen view [] = [] := rfl

theorem seen_cons : seen view (e :: past) = seen view past ++ (view e).toList := by
  unfold seen
  rw [List.reverse_cons, List.filterMap_append]
  cases h : view e <;> simp [h]

theorem seen_cons_none (h : view e = none) : seen view (e :: past) = seen view past := by
  rw [seen_cons, h, Option.toList_none, List.append_nil]

theorem seen_cons_some {a : α} (h : view e = some a) :
    seen view (e :: past) = seen view past ++ [a] := by
  rw [seen_cons, h, Option.toList_some]

theorem lastRead_cons {register : UInt32} :
    lastRead register (e :: past) = (e.read? register).or (lastRead register past) := by
  unfold lastRead
  rw [List.findSome?_cons]
  cases e.read? register <;> rfl

theorem sinceBlock_cons_none (h : e.block? = none) :
    sinceBlock (e :: past) = e :: sinceBlock past := by
  simp [sinceBlock, h]

theorem sinceBlock_cons_some {block : Bytes} (h : e.block? = some block) :
    sinceBlock (e :: past) = [] := by
  simp [sinceBlock, h]

end Views

section Reads

variable {config : EspConfig} {register : UInt32} {v : UInt8}

theorem read?_reading : (reading register v).read? register = some (.ok [v]) := if_pos rfl

theorem block?_reading : (reading register v).block? = none := rfl

theorem block?_espDfuWrite {block : Bytes} {reply : Except TransportError Bytes} :
    (Event.sent (.espDfuWrite block) reply).block? = some block := rfl

theorem written?_reading {offset : UInt32} : (reading register v).written? offset = none := rfl

theorem written?_switchTo {mode : UInt8} {reply : Except TransportError Bytes} :
    (Event.sent (switchTo config mode) reply).written? config.bootModeOffset =
      some (codeValue mode) := if_pos rfl

end Reads

variable (config : EspConfig) (register : UInt32)

/-- What may happen while a register is waited for: notifications and reports, reads of that
register, and clearing the notification code. -/
def Idle : Event → Prop
  | .sent (.dataRead offset _) _ => offset = register
  | .sent (.dataWrite offset _ _) _ => offset = config.notifyOffset
  | .sent (.dataNotify _) _ | .heard _ | .reported _ | .ticked => True
  | .sent _ _ => False

inductive Waits (past : List Event) : List Event → Prop where
  | refl : Waits past past
  | next {e : Event} {now : List Event} :
      Idle config register e → Waits past now → Waits past (e :: now)

variable {config register} {past now : List Event} {e : Event}

theorem Idle.block?_eq (h : Idle config register e) : e.block? = none := by
  cases e with
  | sent c reply => cases c <;> first | rfl | exact h.elim
  | heard | reported | ticked => rfl

theorem Idle.start?_eq (h : Idle config register e) : e.start? = none := by
  cases e with
  | sent c reply => cases c <;> first | rfl | exact h.elim
  | heard | reported | ticked => rfl

theorem Idle.written?_eq (h : Idle config register e) {offset : UInt32}
    (hoffset : offset ≠ config.notifyOffset) : e.written? offset = none := by
  cases e with
  | sent c reply =>
    cases c with
    | dataWrite _ _ _ => exact if_neg fun heq => hoffset (heq.symm.trans h)
    | _ => rfl
  | heard | reported | ticked => rfl

theorem Idle.read?_eq (h : Idle config register e) {offset : UInt32} (hoffset : offset ≠ register) :
    e.read? offset = none := by
  cases e with
  | sent c reply =>
    cases c with
    | dataRead _ _ => exact if_neg fun heq => hoffset (heq.symm.trans h)
    | _ => rfl
  | heard | reported | ticked => rfl

namespace Waits

theorem trans {middle : List Event} (h : Waits config register past middle)
    (h' : Waits config register middle now) : Waits config register past now := by
  induction h' with
  | refl => exact h
  | next he _ ih => exact .next he ih

theorem suffix (h : Waits config register past now) : past <:+ now := by
  induction h with
  | refl => exact List.suffix_rfl
  | next _ _ ih => exact ih.trans (List.suffix_cons _ _)

theorem seen_eq {α : Type} {view : Event → Option α} (h : Waits config register past now)
    (hview : ∀ e, Idle config register e → view e = none) : seen view now = seen view past := by
  induction h with
  | refl => rfl
  | next he _ ih => rw [seen_cons_none (hview _ he), ih]

theorem starts_eq (h : Waits config register past now) :
    seen Event.start? now = seen Event.start? past := h.seen_eq fun _ he => he.start?_eq

theorem blocks_eq (h : Waits config register past now) :
    seen Event.block? now = seen Event.block? past := h.seen_eq fun _ he => he.block?_eq

theorem writes_eq {offset : UInt32} (h : Waits config register past now)
    (hoffset : offset ≠ config.notifyOffset) :
    seen (Event.written? offset) now = seen (Event.written? offset) past :=
  h.seen_eq fun _ he => he.written?_eq hoffset

theorem lastRead_eq {offset : UInt32} (h : Waits config register past now)
    (hoffset : offset ≠ register) : lastRead offset now = lastRead offset past := by
  induction h with
  | refl => rfl
  | next he _ ih => rw [lastRead_cons, he.read?_eq hoffset, ih, Option.none_or]

theorem since (h : Waits config register past now) :
    Waits config register (sinceBlock past) (sinceBlock now) := by
  induction h with
  | refl => exact .refl
  | next he _ ih =>
    rw [sinceBlock_cons_none he.block?_eq]
    exact .next he ih

end Waits

end Esp

end CardFirmware
