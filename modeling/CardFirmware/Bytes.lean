/-! Byte strings, fixed-width fields in both byte orders, and blocks of a known size.
A field is written by a function on its value and read back by one that returns the rest. -/

namespace CardFirmware

abbrev Bytes := List UInt8

namespace Bytes

def le16 (v : UInt16) : Bytes := [UInt8.ofNat v.toNat, UInt8.ofNat (v.toNat / 256)]

def le32 (v : UInt32) : Bytes :=
  [UInt8.ofNat v.toNat, UInt8.ofNat (v.toNat / 256), UInt8.ofNat (v.toNat / 65536),
    UInt8.ofNat (v.toNat / 16777216)]

def be16 (v : UInt16) : Bytes := (le16 v).reverse

def be32 (v : UInt32) : Bytes := (le32 v).reverse

def readLe16 : Bytes → Option (UInt16 × Bytes)
  | a :: b :: rest => some (UInt16.ofNat (a.toNat + 256 * b.toNat), rest)
  | _ => none

def readLe32 : Bytes → Option (UInt32 × Bytes)
  | a :: b :: c :: d :: rest =>
    some (UInt32.ofNat (a.toNat + 256 * b.toNat + 65536 * c.toNat + 16777216 * d.toNat), rest)
  | _ => none

/-- Whether there are at least `n` bytes, found out without going past them. -/
def hasAtLeast : Nat → Bytes → Bool
  | 0, _ => true
  | _ + 1, [] => false
  | n + 1, _ :: rest => hasAtLeast n rest

def chunksOf (n : Nat) (data : Bytes) : List Bytes :=
  go data.length data
where
  go : Nat → Bytes → List Bytes
    | 0, _ => []
    | _ + 1, [] => []
    | fuel + 1, data => data.take n :: go fuel (data.drop n)

theorem readLe16_le16 (v : UInt16) (rest : Bytes) :
    readLe16 (le16 v ++ rest) = some (v, rest) := by
  have h := v.toNat_lt
  simp only [le16, List.cons_append, List.nil_append, readLe16, Option.some.injEq,
    Prod.mk.injEq, and_true]
  apply UInt16.toNat_inj.mp
  simp only [UInt16.toNat_ofNat', UInt8.toNat_ofNat']
  omega

theorem readLe32_le32 (v : UInt32) (rest : Bytes) :
    readLe32 (le32 v ++ rest) = some (v, rest) := by
  have h := v.toNat_lt
  simp only [le32, List.cons_append, List.nil_append, readLe32, Option.some.injEq,
    Prod.mk.injEq, and_true]
  apply UInt32.toNat_inj.mp
  simp only [UInt32.toNat_ofNat', UInt8.toNat_ofNat']
  omega

theorem ofNat_of_mod {x : UInt8} {m : Nat} (h : m % 256 = x.toNat) : UInt8.ofNat m = x := by
  apply UInt8.toNat_inj.mp
  rw [UInt8.toNat_ofNat', h]

theorem eq_of_readLe16 {b rest : Bytes} {v : UInt16} (h : readLe16 b = some (v, rest)) :
    b = le16 v ++ rest := by
  match b, h with
  | x :: y :: _, rfl =>
    have hx := x.toNat_lt
    have hy := y.toNat_lt
    have hv : (UInt16.ofNat (x.toNat + 256 * y.toNat)).toNat = x.toNat + 256 * y.toNat :=
      UInt16.toNat_ofNat_of_lt' (by rw [UInt16.size]; omega)
    rw [le16, hv, ofNat_of_mod (x := x) (by omega), ofNat_of_mod (x := y) (by omega)]
    rfl

theorem eq_of_readLe32 {b rest : Bytes} {v : UInt32} (h : readLe32 b = some (v, rest)) :
    b = le32 v ++ rest := by
  match b, h with
  | w :: x :: y :: z :: _, rfl =>
    have hw := w.toNat_lt
    have hx := x.toNat_lt
    have hy := y.toNat_lt
    have hz := z.toNat_lt
    generalize hn : w.toNat + 256 * x.toNat + 65536 * y.toNat + 16777216 * z.toNat = n
    have hv : (UInt32.ofNat n).toNat = n :=
      UInt32.toNat_ofNat_of_lt' (by rw [UInt32.size]; omega)
    rw [le32, hv, ofNat_of_mod (x := w) (by omega), ofNat_of_mod (x := x) (by omega),
      ofNat_of_mod (x := y) (by omega), ofNat_of_mod (x := z) (by omega)]
    rfl

theorem hasAtLeast_iff (n : Nat) (b : Bytes) : b.hasAtLeast n ↔ n ≤ b.length := by
  induction n generalizing b with
  | zero => simp [hasAtLeast]
  | succ n ih => cases b <;> simp [hasAtLeast, ih]

@[simp] theorem length_le16 (v : UInt16) : (le16 v).length = 2 := rfl

@[simp] theorem length_le32 (v : UInt32) : (le32 v).length = 4 := rfl

@[simp] theorem length_be16 (v : UInt16) : (be16 v).length = 2 := rfl

@[simp] theorem length_be32 (v : UInt32) : (be32 v).length = 4 := rfl

end Bytes

structure Octets (n : Nat) where
  bytes : Bytes
  length_eq : bytes.length = n
  deriving DecidableEq

namespace Octets

def zero (n : Nat) : Octets n := ⟨List.replicate n 0, List.length_replicate⟩

def split (n : Nat) (b : Bytes) : Option (Octets n × Bytes) :=
  if h : n ≤ b.length then
    some (⟨b.take n, by simp [List.length_take, Nat.min_eq_left h]⟩, b.drop n)
  else none

def ofBytes (n : Nat) (b : Bytes) : Option (Octets n) :=
  if h : b.length = n then some ⟨b, h⟩ else none

theorem split_append {n : Nat} (o : Octets n) (rest : Bytes) :
    split n (o.bytes ++ rest) = some (o, rest) := by
  obtain ⟨b, h⟩ := o
  subst h
  simp [split]

end Octets

end CardFirmware
