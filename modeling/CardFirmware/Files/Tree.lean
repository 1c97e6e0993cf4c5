import CardFirmware.Files.Error

/-! A tree of files, as a program sees it from its working directory. Every operation takes a path
and fails for the cause that an operating system reports first. A path is followed up to its first
link, which the target of the link then takes the place of. Left out are further names of one file,
and pipes and devices, for which a reader has to wait. -/

namespace CardFirmware

/-- What a name in a directory stands for. What is closed cannot be opened, for a cause: a socket,
or a file that must not be read. The entries of a directory may have to be known by name, without
being listed. -/
inductive FileEntry where
  | file (content : Bytes)
  | closed (cause : IoError)
  | link (target : Path)
  | directory (listable : Bool) (children : List (Path × FileEntry))

namespace FileEntry

@[match_pattern]
def socket : FileEntry := closed .noSuchDevice

def isDirectory : FileEntry → Bool
  | directory .. => true
  | _ => false

def child (e : FileEntry) (name : Path) : Except IoError FileEntry :=
  match e with
  | directory _ children =>
    match children.lookup name with
    | some c => .ok c
    | none => .error .notFound
  | _ => .error .notDirectory

def nameMax : Nat := 255

def occupant (e : FileEntry) (name : Path) : Except IoError (Option FileEntry) :=
  if nameMax < name.bytes.length then .error .nameTooLong
  else
    match e.child name with
    | .ok c => .ok (some c)
    | .error .notFound => .ok none
    | .error cause => .error cause

def descend (e : FileEntry) : List Path → Except IoError FileEntry
  | [] => .ok e
  | name :: rest => do (← e.child name).descend rest

def setChild (name : Path) (c : FileEntry) : List (Path × FileEntry) → List (Path × FileEntry)
  | [] => [(name, c)]
  | (n, e) :: rest => if n = name then (name, c) :: rest else (n, e) :: setChild name c rest

def alter (f : List (Path × FileEntry) → List (Path × FileEntry)) :
    List Path → FileEntry → FileEntry
  | [], directory listable children => directory listable (f children)
  | name :: rest, directory listable children =>
    directory listable
      (children.map fun (n, e) => if n = name then (n, e.alter f rest) else (n, e))
  | _, e => e
termination_by names => names

end FileEntry

/-- The way to a directory: the directories from it up to the root, each with its name. The root has
none and is left out, so that the way to the root is empty. -/
abbrev Trail := List (Path × FileEntry)

namespace Trail

def names (trail : Trail) : List Path := (trail.map (·.1)).reverse

/-- The way to the directory above. The root is above itself. -/
def up (trail : Trail) : Trail := trail.tail

def directory (trail : Trail) (root : FileEntry) : FileEntry := (trail.head?.map (·.2)).getD root

end Trail

structure FileTree where
  root : FileEntry
  here : List Path

/-- Where a path leads: to a directory that it follows dots to, or to a name in a directory. A slash
after the name asks for a directory of that name. -/
inductive Destination where
  | dots (place : List Path)
  | name (place : List Path) (name : Path) (slashed : Bool)

inductive Reached where
  | directory (trail : Trail)
  | link (target : Path)

/-- How far a path leads without passing a link: to its end, or to a link after which there are more
steps to take. -/
inductive Advance where
  | arrived (destination : Destination)
  | link (trail : Trail) (target : Path) (rest : List Path)

namespace FileTree

/-- Nothing but a working directory. It and the directory above it are called by no name, so that
paths reach them by dots alone: no step of a path is empty. -/
def empty : FileTree :=
  ⟨.directory true [(.empty, .directory true [(.empty, .directory true [])])], [.empty, .empty]⟩

def pathMax : Nat := 4095

def linkMax : Nat := 40

def withinLimit (path : Path) : Bool := path.bytes.length ≤ pathMax

def put (t : FileTree) (place : List Path) (name : Path) (e : FileEntry) : FileTree :=
  { t with root := t.root.alter (FileEntry.setChild name e) place }

def erase (t : FileTree) (place : List Path) (name : Path) : FileTree :=
  { t with root := t.root.alter (·.filter (·.1 ≠ name)) place }

def occupant (t : FileTree) (place : List Path) (name : Path) :
    Except IoError (Option FileEntry) := do
  (← t.root.descend place).occupant name

def enter (t : FileTree) (trail : Trail) (step : Path) : Except IoError Reached := do
  if step = .dot then return .directory trail
  else if step = .dots then return .directory trail.up
  else
    match ← (trail.directory t.root).occupant step with
    | some (.directory listable children) =>
      return .directory ((step, .directory listable children) :: trail)
    | some (.link target) => return .link target
    | some _ => throw .notDirectory
    | none => throw .notFound

/-- Takes the last step. It need not lead to anything, and passes a link only if links are to be
followed. -/
def finish (t : FileTree) (follow slashed : Bool) (trail : Trail) (last : Path) : Advance :=
  if last = .dot then .arrived (.dots trail.names)
  else if last = .dots then .arrived (.dots trail.up.names)
  else
    match follow, (trail.directory t.root).occupant last with
    | true, .ok (some (.link target)) => .link trail target []
    | _, _ => .arrived (.name trail.names last slashed)

def advance (t : FileTree) (follow slashed : Bool) :
    Trail → List Path → Except IoError Advance
  | trail, [] => .ok (.arrived (.dots trail.names))
  | trail, [last] => .ok (t.finish follow slashed trail last)
  | trail, step :: rest => do
    match ← t.enter trail step with
    | .directory trail => t.advance follow slashed trail rest
    | .link target => return .link trail target rest

def walk (t : FileTree) (follow : Bool) :
    Nat → Bool → Trail → List Path → Except IoError Destination
  | 0, slashed, trail, steps => do
    match ← t.advance follow slashed trail steps with
    | .arrived destination => return destination
    | .link .. => throw .tooManyLinks
  | links + 1, slashed, trail, steps => do
    match ← t.advance follow slashed trail steps with
    | .arrived destination => return destination
    | .link trail target rest =>
      t.walk follow links (slashed || rest.isEmpty && target.endsInSlash)
        (if target.isAbsolute then [] else trail) (target.steps ++ rest)

def resolve (t : FileTree) (follow : Bool) (path : Path) : Except IoError Destination :=
  if path.bytes.contains 0 then .error .zeroInPath
  else if !withinLimit path then .error .nameTooLong
  else if path = .empty then .error .notFound
  else
    t.walk follow linkMax path.endsInSlash []
      ((if path.isAbsolute then [] else t.here) ++ path.steps)

def settle (t : FileTree) : Destination → Except IoError (List Path)
  | .dots place => .ok place
  | .name place name slashed => do
    match ← t.occupant place name with
    | none => throw .notFound
    | some e => if slashed ∧ !e.isDirectory then throw .notDirectory else return place ++ [name]

def locate (t : FileTree) (path : Path) : Except IoError (List Path) := do
  t.settle (← t.resolve true path)

def entry (t : FileTree) (path : Path) : Except IoError FileEntry := do
  t.root.descend (← t.locate path)

def isDirectory (t : FileTree) (path : Path) : Bool :=
  match t.entry path with
  | .ok e => e.isDirectory
  | .error _ => false

def readBytes (t : FileTree) (path : Path) : Except IoError Bytes := do
  match ← t.entry path with
  | .file content => .ok content
  | .closed cause => .error cause
  | .link _ => .error .tooManyLinks
  | .directory true _ => .error .isDirectory
  | .directory false _ => .error .permissionDenied

def readText (t : FileTree) (path : Path) : Except IoError String := do
  match Text.Utf8.decode? (← t.readBytes path) with
  | some s => .ok s
  | none => .error .invalidUtf8

/-- The place of a regular file that is there or can be created. A slash after the name is refused
before a link of that name is followed. -/
def filePlace (t : FileTree) (path : Path) : Except IoError (List Path × Path × Bytes) := do
  match ← t.resolve (!path.endsInSlash) path with
  | .dots _ | .name _ _ true => throw .isDirectory
  | .name place name false =>
    match ← t.occupant place name with
    | some (.directory ..) => throw .isDirectory
    | some (.closed cause) => throw cause
    | some (.link _) => throw .tooManyLinks
    | some (.file content) => return (place, name, content)
    | none => return (place, name, [])

def write (t : FileTree) (path : Path) (content : Bytes) : Except IoError FileTree := do
  let (place, name, _) ← t.filePlace path
  return t.put place name (.file content)

def touch (t : FileTree) (path : Path) : Except IoError FileTree := do
  let (place, name, content) ← t.filePlace path
  return t.put place name (.file content)

def create (t : FileTree) (path : Path) (e : FileEntry) : Except IoError FileTree := do
  match ← t.resolve false path with
  | .dots _ => throw .fileExists
  | .name place name slashed =>
    match ← t.occupant place name with
    | some _ => throw .fileExists
    | none => if slashed ∧ !e.isDirectory then throw .notFound else return t.put place name e

/-- Moves a file over whatever file stands at the target; a link is moved and replaced itself.
Directories are neither moved nor replaced. -/
def rename (t : FileTree) (source target : Path) : Except IoError FileTree := do
  match ← t.resolve false source, ← t.resolve false target with
  | .name place name slashed, .name place₂ name₂ slashed₂ =>
    match ← t.occupant place name with
    | none => throw .notFound
    | some (.directory ..) => throw .isDirectory
    | some e =>
      let old ← t.occupant place₂ name₂
      if slashed ∨ slashed₂ then throw .notDirectory
      else
        match old with
        | some (.directory ..) => throw .isDirectory
        | _ => return (t.erase place name).put place₂ name₂ e
  | _, _ => throw .busy

def removeFile (t : FileTree) (path : Path) : Except IoError FileTree := do
  match ← t.resolve false path with
  | .dots _ => throw .isDirectory
  | .name place name slashed =>
    match ← t.occupant place name with
    | none => throw .notFound
    | some (.directory ..) => throw .isDirectory
    | some _ => if slashed then throw .notDirectory else return t.erase place name

def discardFile (t : FileTree) (path : Path) : FileTree :=
  match t.removeFile path with
  | .ok t => t
  | .error _ => t

def list (t : FileTree) (path : Path) : Except IoError (List (Path × FileEntry)) := do
  match ← t.entry path with
  | .directory true children => .ok children
  | .directory false _ => .error .permissionDenied
  | _ => .error .notDirectory

def names (t : FileTree) (path : Path) : Except IoError (List Path) := do
  let children ← t.list path
  return (children.map (·.1)).mergeSort fun a b => decide (a ≤ b)

/-- Creates directories in turn, each unless it is there already. After a failure those created
before it remain. -/
def createEach (t : FileTree) : List Path → Except IoError Unit × FileTree
  | [] => (.ok (), t)
  | path :: rest =>
    match t.create path (.directory true []) with
    | .ok t => t.createEach rest
    | .error .fileExists =>
      if t.isDirectory path then t.createEach rest else (.error .fileExists, t)
    | .error cause => (.error cause, t)

/-- Goes up to the first directory that is there or can be created, and then creates those below
it, which are given in the order of their creation. -/
def createFrom (t : FileTree) (below : List Path) : List Path → Except IoError Unit × FileTree
  | [] => t.createEach below
  | path :: above =>
    match t.create path (.directory true []) with
    | .ok t => t.createEach below
    | .error .notFound => t.createFrom (path :: below) above
    | .error .fileExists =>
      if t.isDirectory path then t.createEach below else (.error .fileExists, t)
    | .error cause => (.error cause, t)

def createDirectories (t : FileTree) (path : Path) : Except IoError Unit × FileTree :=
  if path.parent?.isNone then (.ok (), t) else t.createFrom [] path.ancestors

def prepare (t : FileTree) (path : Path) : FileTree :=
  (t.createDirectories (path.parent?.getD .empty)).2

end FileTree

end CardFirmware
