import CardFirmware.Text.Numeral

/-! Command lines. Words are read from left to right, and the first one that is wrong, or that asks
for help or the version, decides. -/

namespace CardFirmware.CommandLine

inductive ValueKind where
  | number
  | path
  deriving DecidableEq

structure OptionRule where
  long : String
  short : Option Char := none
  kind : ValueKind

/-- The words that a program or one of its commands takes. A command may be given by its name or by
a letter. -/
structure Grammar where
  options : List OptionRule := []
  hasVersion : Bool := false
  commands : List (String × Option Char) := []
  positional : Option ValueKind := none

inductive Halt where
  | help
  | version
  | rejected
  deriving DecidableEq

structure Reading where
  values : List (String × String) := []
  positional : Option String := none
  deriving DecidableEq

def number? (s : String) : Option UInt32 :=
  match s.toList with
  | '-' :: r => if Text.Numeral.digits? 10 r = some 0 then some 0 else none
  | _ => Text.Numeral.u32? s

def ValueKind.accepts (k : ValueKind) (s : String) : Bool :=
  match k with
  | .number => (number? s).isSome
  | .path => s ≠ ""

def Reading.set (r : Reading) (o : OptionRule) (value : String) : Except Halt Reading :=
  if o.kind.accepts value ∧ (r.values.lookup o.long).isNone then
    .ok { r with values := (o.long, value) :: r.values }
  else .error .rejected

inductive Step where
  | done (r : Reading)
  | awaitValue (r : Reading) (o : OptionRule)
  | command (r : Reading) (name : String) (letters : List Char)

def longOption (g : Grammar) (r : Reading) (name : String) (value : Option String) :
    Except Halt Step :=
  match g.options.find? (·.long = name), value with
  | some o, some v => do return .done (← r.set o v)
  | some o, none => .ok (.awaitValue r o)
  | none, some _ => .error .rejected
  | none, none =>
    if name = "help" then .error .help
    else if name = "version" ∧ g.hasVersion then .error .version
    else .error .rejected

/-- Letters after one dash. What follows the letter of an option is its value. -/
def letterOptions (g : Grammar) (r : Reading) : List Char → Except Halt Step
  | [] => .ok (.done r)
  | c :: rest =>
    match g.options.find? (·.short = some c) with
    | some o =>
      match rest with
      | [] => .ok (.awaitValue r o)
      | '=' :: v => do return .done (← r.set o (String.ofList v))
      | v => do return .done (← r.set o (String.ofList v))
    | none =>
      if c = 'h' then .error .help
      else if c = 'V' ∧ g.hasVersion then .error .version
      else
        match g.commands.find? (·.2 = some c) with
        | some (name, _) => .ok (.command r name rest)
        | none => .error .rejected

def positionalWord (g : Grammar) (r : Reading) (word : String) : Except Halt Reading :=
  match g.positional, r.positional with
  | some k, none => if k.accepts word then .ok { r with positional := some word }
    else .error .rejected
  | _, _ => .error .rejected

def splitLong (cs : List Char) : String × Option String :=
  (String.ofList (cs.takeWhile (· ≠ '=')),
    match cs.dropWhile (· ≠ '=') with
    | [] => none
    | _ :: v => some (String.ofList v))

/-- A command, the letters that follow its own in the same word, and the words for it. -/
structure CommandCall where
  name : String
  letters : List Char := []
  words : List String
  deriving DecidableEq

def read (g : Grammar) : Reading → List String → Except Halt (Reading × Option CommandCall)
  | r, [] => .ok (r, none)
  | r, word :: words =>
    match word.toList with
    | ['-', '-'] => do
      let r ← words.foldlM (positionalWord g) r
      return (r, none)
    | '-' :: '-' :: cs =>
      let (name, value) := splitLong cs
      match longOption g r name value with
      | .error h => .error h
      | .ok step => resume g words step
    | '-' :: c :: cs =>
      match letterOptions g r (c :: cs) with
      | .error h => .error h
      | .ok step => resume g words step
    | _ =>
      match g.commands.find? (·.1 = word) with
      | some (name, _) => .ok (r, some { name, words })
      | none => do read g (← positionalWord g r word) words
where
  /-- Goes on after an option; the value of one that awaits it may not look like an option. -/
  resume (g : Grammar) : List String → Step → Except Halt (Reading × Option CommandCall)
    | words, .done r => read g r words
    | words, .command r name letters => .ok (r, some { name, letters, words })
    | [], .awaitValue _ _ => .error .rejected
    | v :: words, .awaitValue r o =>
      match v.toList with
      | '-' :: _ :: _ => .error .rejected
      | _ => do read g (← r.set o v) words

def CommandCall.read (c : CommandCall) (g : Grammar) :
    Except Halt (Reading × Option CommandCall) := do
  CommandLine.read.resume g c.words (← letterOptions g {} c.letters)

end CardFirmware.CommandLine
