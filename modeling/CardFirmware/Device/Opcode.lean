/-! Operation codes of device commands: a category above twelve bits of sub-operation, below a
reserved byte. -/

namespace CardFirmware

inductive Category where
  | init
  | meter
  | mix
  | mux
  | flash
  | sync
  | espDfu
  | data
  deriving DecidableEq

namespace Category

def all : List Category := [init, meter, mix, mux, flash, sync, espDfu, data]

def number : Category → Nat
  | init => 0
  | meter => 1
  | mix => 2
  | mux => 3
  | flash => 4
  | sync => 6
  | espDfu => 9
  | data => 0x800

def ofNumber? (n : Nat) : Option Category := all.find? (·.number = n)

def name : Category → String
  | init => "Init"
  | meter => "Meter"
  | mix => "Mix"
  | mux => "Mux"
  | flash => "Flash"
  | sync => "Sync"
  | espDfu => "EspDfu"
  | data => "Data"

end Category

structure Opcode where
  raw : UInt32
  deriving DecidableEq

namespace Opcode

def compose (category : Category) (operation : Nat) : Opcode :=
  ⟨UInt32.ofNat (category.number * 4096 + operation % 4096)⟩

def operation (o : Opcode) : Nat := o.raw.toNat % 4096

def categoryNumber (o : Opcode) : Nat := o.raw.toNat / 4096 % 4096

def reserved (o : Opcode) : Nat := o.raw.toNat / 16777216

def category? (o : Opcode) : Option Category := Category.ofNumber? o.categoryNumber

def opening : Opcode × Opcode := (compose .init 0, compose .init 2)

theorem operation_compose (category : Category) (operation : Nat) :
    (compose category operation).operation = operation % 4096 := by
  cases category <;> simp [compose, Opcode.operation, Category.number] <;> omega

theorem category?_compose (category : Category) (operation : Nat) :
    (compose category operation).category? = some category := by
  have h : (compose category operation).categoryNumber = category.number := by
    cases category <;> simp [compose, categoryNumber, Category.number] <;> omega
  rw [category?, h]
  cases category <;> rfl

end Opcode

end CardFirmware
