import CardFirmware.Bytes

/-! UTF-8 over byte strings. Decoding yields one entry a character and one empty entry for each
maximal malformed run, from which both the strict and the forgiving reading are taken. -/

namespace CardFirmware.Text.Utf8

def encodeChar (c : Char) : Bytes :=
  let n := c.toNat
  if n < 0x80 then [UInt8.ofNat n]
  else if n < 0x800 then [UInt8.ofNat (0xC0 + n / 64), UInt8.ofNat (0x80 + n % 64)]
  else if n < 0x10000 then
    [UInt8.ofNat (0xE0 + n / 4096), UInt8.ofNat (0x80 + n / 64 % 64),
      UInt8.ofNat (0x80 + n % 64)]
  else
    [UInt8.ofNat (0xF0 + n / 262144), UInt8.ofNat (0x80 + n / 4096 % 64),
      UInt8.ofNat (0x80 + n / 64 % 64), UInt8.ofNat (0x80 + n % 64)]

def encode (s : String) : Bytes := s.toList.flatMap encodeChar

def isContinuation (b : UInt8) : Bool := 0x80 ≤ b.toNat && b.toNat < 0xC0

/-- The bytes that may follow the first byte of a three-byte character: neither an overlong form
nor a surrogate. -/
def isSecondOfThree (lead b : UInt8) : Bool :=
  if lead.toNat = 0xE0 then 0xA0 ≤ b.toNat && b.toNat < 0xC0
  else if lead.toNat = 0xED then 0x80 ≤ b.toNat && b.toNat < 0xA0
  else isContinuation b

/-- The bytes that may follow the first byte of a four-byte character: neither an overlong form
nor a number beyond the last code point. -/
def isSecondOfFour (lead b : UInt8) : Bool :=
  if lead.toNat = 0xF0 then 0x90 ≤ b.toNat && b.toNat < 0xC0
  else if lead.toNat = 0xF4 then 0x80 ≤ b.toNat && b.toNat < 0x90
  else isContinuation b

def low6 (b : UInt8) : Nat := b.toNat - 0x80

/-- The characters of a byte string in order, `none` standing for a malformed run. -/
def decodeRuns : Bytes → List (Option Char)
  | [] => []
  | a :: r =>
    if a.toNat < 0x80 then some (Char.ofNat a.toNat) :: decodeRuns r
    else if 0xC2 ≤ a.toNat && a.toNat < 0xE0 then
      match r with
      | [] => [none]
      | b :: r₁ =>
        if isContinuation b then
          some (Char.ofNat ((a.toNat - 0xC0) * 64 + low6 b)) :: decodeRuns r₁
        else none :: decodeRuns (b :: r₁)
    else if 0xE0 ≤ a.toNat && a.toNat < 0xF0 then
      match r with
      | [] => [none]
      | b :: r₁ =>
        if isSecondOfThree a b then
          match r₁ with
          | [] => [none]
          | c :: r₂ =>
            if isContinuation c then
              some (Char.ofNat ((a.toNat - 0xE0) * 4096 + low6 b * 64 + low6 c)) :: decodeRuns r₂
            else none :: decodeRuns (c :: r₂)
        else none :: decodeRuns (b :: r₁)
    else if 0xF0 ≤ a.toNat && a.toNat < 0xF5 then
      match r with
      | [] => [none]
      | b :: r₁ =>
        if isSecondOfFour a b then
          match r₁ with
          | [] => [none]
          | c :: r₂ =>
            if isContinuation c then
              match r₂ with
              | [] => [none]
              | d :: r₃ =>
                if isContinuation d then
                  some (Char.ofNat ((a.toNat - 0xF0) * 262144 + low6 b * 4096 + low6 c * 64
                    + low6 d)) :: decodeRuns r₃
                else none :: decodeRuns (d :: r₃)
            else none :: decodeRuns (c :: r₂)
        else none :: decodeRuns (b :: r₁)
    else none :: decodeRuns r

def decode? (b : Bytes) : Option String :=
  ((decodeRuns b).mapM id).map String.ofList

def decodeLossy (b : Bytes) : String :=
  String.ofList ((decodeRuns b).map (·.getD '\uFFFD'))

end CardFirmware.Text.Utf8
