/-! White space of Unicode texts: trimming and splitting into words. -/

namespace CardFirmware.Text

/-- The characters with the property White_Space. -/
def isBlank (c : Char) : Bool :=
  let n := c.toNat
  (0x09 ≤ n && n ≤ 0x0D) || n == 0x20 || n == 0x85 || n == 0xA0 || n == 0x1680 ||
    (0x2000 ≤ n && n ≤ 0x200A) || n == 0x2028 || n == 0x2029 || n == 0x202F || n == 0x205F ||
    n == 0x3000

def trimChars (cs : List Char) : List Char :=
  ((cs.dropWhile isBlank).reverse.dropWhile isBlank).reverse

def trim (s : String) : String := String.ofList (trimChars s.toList)

def firstWord? (s : String) : Option String :=
  match s.toList.dropWhile isBlank with
  | [] => none
  | cs => some (String.ofList (cs.takeWhile fun c => !isBlank c))

def splitOnce? (c : Char) (s : String) : Option (String × String) :=
  let cs := s.toList
  match cs.dropWhile (· != c) with
  | [] => none
  | _ :: rest => some (String.ofList (cs.takeWhile (· != c)), String.ofList rest)

end CardFirmware.Text
