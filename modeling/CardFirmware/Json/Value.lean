import CardFirmware.Json.Syntax

/-! JSON values. A document has a value if its strings are well formed, its numbers are within
range and it is nested less than 128 deep; of two members with one key the later one counts. -/

namespace CardFirmware

/-- A JSON value. Whole numbers from the least 64-bit signed to the greatest 64-bit unsigned are
exact; every other number keeps its written form. -/
inductive Json where
  | null
  | bool (b : Bool)
  | int (n : Int)
  | real (n : Json.Numeral)
  | string (s : String)
  | array (items : List Json)
  | object (members : List (String × Json))

namespace Json

namespace Numeral

def ofDigits (ds : List Nat) : Nat := ds.foldl (fun n d => n * 10 + d) 0

/-- The size of an exponent, cut off where no number has enough digits to make up for it. -/
def exponentSize (ds : List Nat) : Nat := ds.foldl (fun n d => min (n * 10 + d) UInt32.size) 0

/-- The number as an integer, if it is written as one that 64 bits hold, which takes twenty digits
at most. A negative zero is no integer. -/
def int? (n : Numeral) : Option Int :=
  if n.fraction.isEmpty ∧ n.exponent.isNone ∧ n.whole.length ≤ 20 then
    let m := ofDigits n.whole
    if n.negative then
      if 0 < m ∧ m ≤ 1 <<< 63 then some (-(m : Int)) else none
    else if m < UInt64.size then some m else none
  else none

/-- Rounds to 53 significant bits, ties to even. -/
def roundToDouble (n : Nat) : Nat :=
  if n < 1 <<< 53 then n
  else
    let shift := n.log2 - 52
    let q := n >>> shift
    let r := n - q <<< shift
    let half := 1 <<< (shift - 1)
    (if r > half ∨ (r = half ∧ q % 2 = 1) then q + 1 else q) <<< shift

/-- The significand kept of a run of digits: as many as 64 bits hold. The count tells how many
digits were kept. -/
def significand : Nat → Nat → List Nat → Nat × Nat
  | m, kept, [] => (m, kept)
  | m, kept, d :: ds =>
    if m * 10 + d < UInt64.size then significand (m * 10 + d) (kept + 1) ds else (m, kept)

def inRange (n : Numeral) : Bool :=
  let (m, kept) := significand 0 0 n.whole
  let (m, after) := significand m 0 n.fraction
  let written : Int := match n.exponent with
    | some (negative, ds) => if negative then -(exponentSize ds : Int) else exponentSize ds
    | none => 0
  let e := written + n.whole.length - kept - after
  m = 0 || e < 0 ||
    (e ≤ 308 && roundToDouble (roundToDouble m * roundToDouble (Nat.pow 10 e.toNat)) < 1 <<< 1024)

end Numeral

def insertMember (key : String) (v : Json) : List (String × Json) → List (String × Json)
  | [] => [(key, v)]
  | (k, w) :: rest => if k = key then (key, v) :: rest else (k, w) :: insertMember key v rest

mutual

def ofSyntax (depth : Nat) : Syntax → Option Json
  | .null => some .null
  | .bool b => some (.bool b)
  | .number n => match n.int? with
    | some i => some (.int i)
    | none => if n.inRange then some (.real n) else none
  | .string pieces => (textOfPieces pieces).map .string
  | .array items => if depth ≤ 1 then none else (ofItems (depth - 1) items).map .array
  | .object members =>
    if depth ≤ 1 then none else (ofMembers (depth - 1) [] members).map .object

def ofItems (depth : Nat) : List Syntax → Option (List Json)
  | [] => some []
  | x :: xs => do
    let v ← ofSyntax depth x
    let vs ← ofItems depth xs
    some (v :: vs)

def ofMembers (depth : Nat) (seen : List (String × Json)) :
    List (List Piece × Syntax) → Option (List (String × Json))
  | [] => some seen
  | (key, x) :: rest => do
    let k ← textOfPieces key
    let v ← ofSyntax depth x
    ofMembers depth (insertMember k v seen) rest

end

def ofBytes? (b : Bytes) : Option Json := (document b).bind (ofSyntax 128)

def ofString? (s : String) : Option Json := ofBytes? (Text.Utf8.encode s)

def member? (key : String) : Json → Option Json
  | .object members => members.lookup key
  | _ => none

def path? (keys : List String) (v : Json) : Option Json :=
  keys.foldlM (fun v k => v.member? k) v

end Json

end CardFirmware
