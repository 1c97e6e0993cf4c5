import CardFirmware.Text.Utf8

/-! Paths and names of files. They are strings of bytes, of which a text has those of its encoding.
A path is the parts between its slashes. A part that is empty or a single dot adds nothing, unless
it comes first: there it stands for the root or for the working directory. -/

namespace CardFirmware

/-- A path, or a single name of one. -/
structure Path where
  bytes : Bytes
  deriving DecidableEq

namespace Path

def ofText (s : String) : Path := ⟨Text.Utf8.encode s⟩

instance : Coe String Path := ⟨ofText⟩

def text? (p : Path) : Option String := Text.Utf8.decode? p.bytes

def display (p : Path) : String := Text.Utf8.decodeLossy p.bytes

instance : Append Path := ⟨fun p q => ⟨p.bytes ++ q.bytes⟩⟩

instance : LT Path := ⟨fun p q => List.lt p.bytes q.bytes⟩

instance : LE Path := ⟨fun p q => ¬q < p⟩

instance (p q : Path) : Decidable (p < q) := List.decidableLT p.bytes q.bytes

instance (p q : Path) : Decidable (p ≤ q) := inferInstanceAs (Decidable ¬q < p)

def slash : UInt8 := 0x2F

def empty : Path := ⟨[]⟩

def dot : Path := ⟨[0x2E]⟩

def dots : Path := ⟨[0x2E, 0x2E]⟩

def splitBytes : Bytes → List Bytes
  | [] => [[]]
  | b :: bs =>
    if b = slash then [] :: splitBytes bs
    else
      match splitBytes bs with
      | part :: parts => (b :: part) :: parts
      | [] => [[b]]

def split (path : Path) : List Path := (splitBytes path.bytes).map Path.mk

def isAbsolute (path : Path) : Bool := path.bytes.head? == some slash

def endsInSlash (path : Path) : Bool := path.bytes.getLast? == some slash

def steps (path : Path) : List Path := (split path).filter (· ≠ empty)

/-- Puts parts together. A single empty part is the root. -/
def ofParts (parts : List Path) : Path :=
  if parts = [empty] then ⟨[slash]⟩ else ⟨[slash].intercalate (parts.map (·.bytes))⟩

/-- For parts given from the last one on: the leading parts up to each one that adds something, the
longest such list first and the empty list last. -/
def leading : List Path → List (List Path)
  | [] => [[]]
  | part :: before =>
    if part = empty ∨ part = dot then leading before
    else (part :: before).reverse :: leading before

/-- The parts of a path up to its last name, then those of the directory above, and so on up to the
first part alone. -/
def stages (path : Path) : List (List Path) :=
  match split path with
  | [] => []
  | first :: rest => (leading rest.reverse).map (first :: ·)

/-- The directory above a path, which is empty for a single name. There is none above the root and
above the empty path. -/
def parent? (path : Path) : Option Path :=
  match stages path with
  | _ :: above :: _ => some (ofParts above)
  | [[⟨[]⟩]] | [] => none
  | [_] => some empty

def name? (path : Path) : Option Path :=
  ((stages path).head?.bind (·.getLast?)).filter fun name =>
    name ≠ empty ∧ name ≠ dot ∧ name ≠ dots

def ancestors (path : Path) : List Path :=
  path :: ((stages path).tail.filter (· ≠ [empty])).map ofParts

def join (directory file : Path) : Path :=
  if isAbsolute file ∨ directory = empty then file
  else if endsInSlash directory then directory ++ file
  else ⟨directory.bytes ++ slash :: file.bytes⟩

/-- A file of another name in the same directory. A path without a name counts as the directory. -/
def sibling (path file : Path) : Path :=
  join (if (name? path).isSome then (parent? path).getD empty else path) file

end Path

end CardFirmware
