set_option autoImplicit false

/-! # Arguments and reports

How the words of a command line are read. A word that begins with two hyphens is an option
by its name, one that begins with a single hyphen is a cluster of options by their
letters, and every other word is an operand, a lone hyphen included. The value of an option
follows an equals sign or is the next word, which must not look like an option; after a
letter it may also follow directly. No option is given twice. After a word of just two
hyphens all words are operands. `--help` and `-h` are known everywhere and end the reading
at once.
-/

namespace Lookout.Program

/-- Why a command line is not carried out. -/
inductive Stop
  | misused
  | help
  deriving Repr, DecidableEq

/-- An option. -/
structure Rule where
  name : String
  letter : Option Char := none
  takesValue : Bool := true
  /-- Whether a value will do. -/
  accepts : String → Bool := fun _ => true

/-- What a command line may hold. -/
structure Grammar where
  rules : List Rule := []
  /-- How many operands there are. -/
  operands : Nat := 0
  /-- Whether the first operand is the name of a command with arguments of its own. -/
  nested : Bool := false

/-- What was read from a command line. -/
structure Reading where
  /-- The options, each with its value; one that takes none has the empty text. -/
  given : List (String × String) := []
  operands : List String := []
  /-- The words from the name of a command on. -/
  rest : List String := []

namespace Reading

/-- The value of an option. -/
def value? (r : Reading) (name : String) : Option String := r.given.lookup name

/-- Whether an option was given. -/
def has (r : Reading) (name : String) : Bool := (r.value? name).isSome

/-- An option with its value is given, unless it was before or the value will not do. -/
def give (r : Reading) (rule : Rule) (value : String) : Except Stop Reading :=
  if r.has rule.name || !rule.accepts value then .error .misused
  else .ok { r with given := (rule.name, value) :: r.given }

end Reading

/-- What was read, and the option whose value is the next word. -/
abbrev Step := Except Stop (Reading × Option Rule)

/-- Reads a word after its two hyphens. -/
def readName (rules : List Rule) (r : Reading) (word : List Char) : Step :=
  let name := String.ofList (word.takeWhile (· ≠ '='))
  let attached := (word.dropWhile (· ≠ '=')).tail?.map String.ofList
  match rules.find? fun rule => rule.name = name, attached with
  | none, none => .error (if name = "help" then .help else .misused)
  | none, some _ => .error .misused
  | some rule, none =>
    if rule.takesValue then .ok (r, some rule) else (·, none) <$> r.give rule ""
  | some rule, some value =>
    if rule.takesValue then (·, none) <$> r.give rule value else .error .misused

/-- Reads a word after its single hyphen. -/
def readLetters (rules : List Rule) (r : Reading) : List Char → Step
  | [] => .ok (r, none)
  | c :: rest =>
    match rules.find? fun rule => rule.letter = some c with
    | none => .error (if c = 'h' then .help else .misused)
    | some rule =>
      if rule.takesValue then
        match rest with
        | [] => .ok (r, some rule)
        | '=' :: value => (·, none) <$> r.give rule (String.ofList value)
        | value => (·, none) <$> r.give rule (String.ofList value)
      else
        match r.give rule "" with
        | .error e => .error e
        | .ok r => readLetters rules r rest

/-- Whether a word can be taken for a value or an operand. -/
def isPlainWord (word : String) : Bool :=
  match word.toList with
  | '-' :: _ :: _ => false
  | _ => true

/-- One more operand is read, unless there are enough. -/
def readOperand (g : Grammar) (r : Reading) (word : String) : Except Stop Reading :=
  if r.operands.length < g.operands then .ok { r with operands := r.operands ++ [word] }
  else .error .misused

/-- Reads the words of a command line, the first of them for an option that waits for its
value, if one does. -/
def readWords (g : Grammar) : Reading × Option Rule → List String → Except Stop Reading
  | (r, none), [] => if g.nested || r.operands.length < g.operands then .error .misused else .ok r
  | (_, some _), [] => .error .misused
  | (r, some rule), word :: rest =>
    if isPlainWord word then
      match r.give rule word with
      | .error e => .error e
      | .ok r => readWords g (r, none) rest
    else .error .misused
  | (r, none), word :: rest =>
    match word.toList with
    | ['-', '-'] =>
      if g.nested then .error .misused
      else
        match rest.foldlM (readOperand g) r with
        | .error e => .error e
        | .ok r => if r.operands.length < g.operands then .error .misused else .ok r
    | '-' :: '-' :: name =>
      match readName g.rules r name with
      | .error e => .error e
      | .ok step => readWords g step rest
    | '-' :: c :: letters =>
      match readLetters g.rules r (c :: letters) with
      | .error e => .error e
      | .ok step => readWords g step rest
    | _ =>
      if g.nested then .ok { r with rest := word :: rest }
      else
        match readOperand g r word with
        | .error e => .error e
        | .ok r => readWords g (r, none) rest

/-- Reads a command line. -/
def Grammar.read (g : Grammar) (words : List String) : Except Stop Reading :=
  readWords g ({}, none) words

/-- The greatest number an option takes. -/
def maxNumber : Nat := 18446744073709551615

/-- The number a word gives: digits, perhaps after a plus sign. -/
def number? (word : String) : Option Nat :=
  let digits := match word.toList with
    | '+' :: digits => digits
    | digits => digits
  let n := digits.foldl (fun n c => n * 10 + (c.toNat - '0'.toNat)) 0
  if !digits.isEmpty && digits.all Char.isDigit && n ≤ maxNumber then some n else none

example : number? "+007" = some 7 := by decide +kernel

example : number? "18446744073709551616" = none := by decide +kernel

/-! ## Reports

What a program leaves behind when it ends: its exit code and the lines it wrote.
-/

/-- The end of a program. -/
structure Report where
  exit : Nat := 0
  out : List String := []
  err : List String := []
  deriving Repr, DecidableEq

namespace Report

/-- A program that ends with an error, given by the text that describes it. -/
def failed (error : String) : Report := { exit := 1, err := ["Error: " ++ error] }

/-- A program whose command line is not carried out. -/
def stopped (usage : List String) : Stop → Report
  | .misused => { exit := 2, err := usage }
  | .help => { out := usage }

/-- A program that wrote something before. -/
def after (r : Report) (out err : List String) : Report :=
  { r with out := out ++ r.out, err := err ++ r.err }

end Report

end Lookout.Program
