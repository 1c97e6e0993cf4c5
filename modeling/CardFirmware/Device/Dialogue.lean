import CardFirmware.Device.Command
import CardFirmware.Device.Error

/-! What a service says to its device, as data. A dialogue lists the calls of a procedure and
goes on with whatever comes back, so that one definition runs against every transport and its
calls can be reasoned about without naming a device. -/

namespace CardFirmware

structure Call where
  opcode : Opcode
  request : Bytes
  responseLength : Nat
  deriving DecidableEq

def Command.call (c : Command) : Call := ⟨c.opcode, c.request, c.responseLength⟩

/-- A device with states `σ`: how it answers a call, what a read of its notifications gives, and
whether such a read is announced. `none` means that nothing arrived in time. -/
structure Transport (σ : Type) where
  transact : Call → σ → Except TransportError Bytes × σ
  readNotification : σ → Except TransportError (Option UInt32) × σ
  announces : σ → Bool

inductive Event where
  | sent (command : Command) (reply : Except TransportError Bytes)
  | heard (reply : Except TransportError (Option UInt32))
  | reported (percent : Nat)
  | ticked

inductive Dialogue (α : Type) where
  | done (a : α)
  | send (command : Command) (next : Except TransportError Bytes → Dialogue α)
  | listen (next : Except TransportError (Option UInt32) → Dialogue α)
  | report (percent : Nat) (next : Dialogue α)
  | tick (next : Dialogue α)

namespace Dialogue

variable {α β σ : Type}

def bind : Dialogue α → (α → Dialogue β) → Dialogue β
  | done a, f => f a
  | send c next, f => send c fun r => (next r).bind f
  | listen next, f => listen fun r => (next r).bind f
  | report p next, f => report p (next.bind f)
  | tick next, f => tick (next.bind f)

instance : Monad Dialogue where
  pure := done
  bind := bind

theorem bind_done (d : Dialogue α) : d.bind done = d := by
  induction d with
  | done a => rfl
  | send c next ih => exact congrArg (send c) (funext ih)
  | listen next ih => exact congrArg listen (funext ih)
  | report p next ih => exact congrArg (report p) ih
  | tick next ih => exact congrArg tick ih

theorem bind_assoc {γ : Type} (d : Dialogue α) (f : α → Dialogue β) (g : β → Dialogue γ) :
    (d.bind f).bind g = d.bind fun a => (f a).bind g := by
  induction d with
  | done a => rfl
  | send c next ih => exact congrArg (send c) (funext ih)
  | listen next ih => exact congrArg listen (funext ih)
  | report p next ih => exact congrArg (report p) ih
  | tick next ih => exact congrArg tick ih

instance : LawfulMonad Dialogue :=
  LawfulMonad.mk' Dialogue bind_done (fun _ _ => rfl) bind_assoc

end Dialogue

/-- A device in the middle of a dialogue, with what happened so far, the latest event first. -/
structure Link (σ : Type) where
  device : σ
  events : List Event

namespace Link

variable {σ : Type}

def record (e : Event) (l : Link σ) : Link σ := { l with events := e :: l.events }

def reports (l : Link σ) : List Nat :=
  l.events.reverse.filterMap fun
    | .reported p => some p
    | _ => none

def ticks (l : Link σ) : Nat :=
  l.events.countP fun
    | .ticked => true
    | _ => false

def commands (l : Link σ) : List Command :=
  l.events.reverse.filterMap fun
    | .sent c _ => some c
    | _ => none

end Link

def Dialogue.run {α σ : Type} (t : Transport σ) : Dialogue α → Link σ → α × Link σ
  | .done a, l => (a, l)
  | .send c next, l =>
    let (reply, device) := t.transact c.call l.device
    (next reply).run t ⟨device, .sent c reply :: l.events⟩
  | .listen next, l =>
    let (reply, device) := t.readNotification l.device
    (next reply).run t ⟨device, .heard reply :: l.events⟩
  | .report p next, l => next.run t (l.record (.reported p))
  | .tick next, l => next.run t (l.record .ticked)

theorem Dialogue.run_bind {α β σ : Type} (t : Transport σ) (d : Dialogue α) (f : α → Dialogue β)
    (l : Link σ) :
    (d.bind f).run t l = (f (d.run t l).1).run t (d.run t l).2 := by
  induction d generalizing l with
  | done a => rfl
  | send c next ih => exact ih _ _
  | listen next ih => exact ih _ _
  | report p next ih => exact ih _
  | tick next ih => exact ih _

abbrev Procedure (ε α : Type) := ExceptT ε Dialogue α

namespace Procedure

variable {ε ε' α : Type}

def ofExcept (r : Except ε α) : Procedure ε α := ExceptT.mk (pure r)

def orFail (p : Procedure ε α) (f : ε → ε') : Procedure ε' α := ExceptT.adapt f p

def outcome (p : Procedure ε α) : Dialogue (Except ε α) := ExceptT.run p

def perform {σ : Type} (t : Transport σ) (p : Procedure ε α) (device : σ) :
    Except ε α × Link σ :=
  p.outcome.run t ⟨device, []⟩

def report (percent : Nat) : Procedure ε Unit :=
  ExceptT.mk (.report percent (.done (.ok ())))

def tick : Procedure ε Unit := ExceptT.mk (.tick (.done (.ok ())))

end Procedure

end CardFirmware
