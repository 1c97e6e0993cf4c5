import CardFirmware.Text.Utf8

/-! JSON documents as written: numbers keep their digits and strings their escapes, so that what
a reader accepts beyond the grammar is decided by the reader. -/

namespace CardFirmware.Json

inductive Piece where
  | byte (b : UInt8)
  | unit (u : Nat)
  deriving DecidableEq

structure Numeral where
  negative : Bool
  whole : List Nat
  fraction : List Nat
  exponent : Option (Bool × List Nat)
  deriving DecidableEq

inductive Syntax where
  | null
  | bool (b : Bool)
  | number (n : Numeral)
  | string (pieces : List Piece)
  | array (items : List Syntax)
  | object (members : List (List Piece × Syntax))

def isBlank (b : UInt8) : Bool := b == 32 || b == 10 || b == 13 || b == 9

def skipBlank (b : Bytes) : Bytes := b.dropWhile isBlank

def isDigit (b : UInt8) : Bool := 48 ≤ b.toNat && b.toNat ≤ 57

def readDigits (b : Bytes) : List Nat × Bytes :=
  ((b.takeWhile isDigit).map (·.toNat - 48), b.dropWhile isDigit)

def readExponent : Bytes → Option (Option (Bool × List Nat) × Bytes)
  | m :: rest =>
    if m == 101 || m == 69 then
      let (negative, rest) := match rest with
        | s :: r => if s == 45 then (true, r) else if s == 43 then (false, r) else (false, rest)
        | [] => (false, [])
      match readDigits rest with
      | ([], _) => none
      | (ds, rest) => some (some (negative, ds), rest)
    else some (none, m :: rest)
  | [] => some (none, [])

def readFraction : Bytes → Option (List Nat × Bytes)
  | p :: rest =>
    if p == 46 then
      match readDigits rest with
      | ([], _) => none
      | r => some r
    else some ([], p :: rest)
  | [] => some ([], [])

def readNumeral (negative : Bool) (b : Bytes) : Option (Numeral × Bytes) :=
  match readDigits b with
  | ([], _) => none
  | (0 :: _ :: _, _) => none
  | (whole, rest) => do
    let (fraction, rest) ← readFraction rest
    let (exponent, rest) ← readExponent rest
    some (⟨negative, whole, fraction, exponent⟩, rest)

def hexValue (b : UInt8) : Option Nat :=
  let n := b.toNat
  if 48 ≤ n ∧ n ≤ 57 then some (n - 48)
  else if 97 ≤ n ∧ n ≤ 102 then some (n - 87)
  else if 65 ≤ n ∧ n ≤ 70 then some (n - 55)
  else none

def hexUnit (a b c d : UInt8) : Option Nat := do
  some ((← hexValue a) * 4096 + (← hexValue b) * 256 + (← hexValue c) * 16 + (← hexValue d))

def shortEscape (b : UInt8) : Option UInt8 :=
  if b == 34 || b == 92 || b == 47 then some b
  else if b == 98 then some 8
  else if b == 102 then some 12
  else if b == 110 then some 10
  else if b == 114 then some 13
  else if b == 116 then some 9
  else none

def readString : Bytes → Option (List Piece × Bytes)
  | [] => none
  | q :: rest =>
    if q == 34 then some ([], rest)
    else if q == 92 then
      match rest with
      | [] => none
      | e :: rest =>
        if e == 117 then
          match rest with
          | a :: b :: c :: d :: rest => do
            let u ← hexUnit a b c d
            let (pieces, rest) ← readString rest
            some (.unit u :: pieces, rest)
          | _ => none
        else do
          let v ← shortEscape e
          let (pieces, rest) ← readString rest
          some (.byte v :: pieces, rest)
    else if q < 32 then none
    else do
      let (pieces, rest) ← readString rest
      some (.byte q :: pieces, rest)

def readKeyword : List UInt8 → Bytes → Option Bytes
  | [], b => some b
  | k :: ks, c :: b => if k == c then readKeyword ks b else none
  | _ :: _, [] => none

mutual

/-- Reads one value after optional blanks. The fuel bounds the number of nested calls. -/
def readValue : Nat → Bytes → Option (Syntax × Bytes)
  | 0, _ => none
  | fuel + 1, b =>
    match skipBlank b with
    | [] => none
    | c :: rest =>
      if c == 110 then (readKeyword [117, 108, 108] rest).map (.null, ·)
      else if c == 116 then (readKeyword [114, 117, 101] rest).map (.bool true, ·)
      else if c == 102 then (readKeyword [97, 108, 115, 101] rest).map (.bool false, ·)
      else if c == 45 then (readNumeral true rest).map fun (n, r) => (.number n, r)
      else if isDigit c then (readNumeral false (c :: rest)).map fun (n, r) => (.number n, r)
      else if c == 34 then (readString rest).map fun (s, r) => (.string s, r)
      else if c == 91 then
        match skipBlank rest with
        | d :: rest₁ =>
          if d == 93 then some (.array [], rest₁)
          else (readElements fuel (d :: rest₁)).map fun (xs, r) => (.array xs, r)
        | [] => none
      else if c == 123 then
        match skipBlank rest with
        | d :: rest₁ =>
          if d == 125 then some (.object [], rest₁)
          else (readMembers fuel (d :: rest₁)).map fun (ms, r) => (.object ms, r)
        | [] => none
      else none

def readElements : Nat → Bytes → Option (List Syntax × Bytes)
  | 0, _ => none
  | fuel + 1, b => do
    let (v, rest) ← readValue fuel b
    match skipBlank rest with
    | c :: rest =>
      if c == 93 then some ([v], rest)
      else if c == 44 then do
        let (vs, rest) ← readElements fuel rest
        some (v :: vs, rest)
      else none
    | [] => none

def readMembers : Nat → Bytes → Option (List (List Piece × Syntax) × Bytes)
  | 0, _ => none
  | fuel + 1, b =>
    match skipBlank b with
    | q :: rest =>
      if q == 34 then do
        let (key, rest) ← readString rest
        match skipBlank rest with
        | c :: rest =>
          if c == 58 then do
            let (v, rest) ← readValue fuel rest
            match skipBlank rest with
            | c :: rest =>
              if c == 125 then some ([(key, v)], rest)
              else if c == 44 then do
                let (ms, rest) ← readMembers fuel rest
                some ((key, v) :: ms, rest)
              else none
            | [] => none
          else none
        | [] => none
      else none
    | [] => none

end

def document (b : Bytes) : Option Syntax :=
  match readValue (2 * b.length + 2) b with
  | some (v, rest) => if (skipBlank rest).isEmpty then some v else none
  | none => none

/-- Joins the pieces of a string into UTF-8: a high surrogate must be followed at once by a low
one, and no other surrogate may occur. -/
def utf8OfPieces : List Piece → Option Bytes
  | [] => some []
  | .byte b :: rest => (utf8OfPieces rest).map (b :: ·)
  | .unit u :: rest =>
    if 0xD800 ≤ u ∧ u < 0xDC00 then
      match rest with
      | .unit v :: rest =>
        if 0xDC00 ≤ v ∧ v < 0xE000 then
          (utf8OfPieces rest).map
            (Text.Utf8.encodeChar (Char.ofNat (0x10000 + (u - 0xD800) * 1024 + (v - 0xDC00))) ++ ·)
        else none
      | _ => none
    else if 0xDC00 ≤ u ∧ u < 0xE000 then none
    else (utf8OfPieces rest).map (Text.Utf8.encodeChar (Char.ofNat u) ++ ·)

def textOfPieces (pieces : List Piece) : Option String :=
  (utf8OfPieces pieces).bind Text.Utf8.decode?

end CardFirmware.Json
