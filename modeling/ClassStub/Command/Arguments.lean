import ClassStub.Path

/-!
# Command lines

A command line names a command, its inputs and its options. The path of the configuration file may be given in
front of the command or behind it, where it counts more; all other options come behind the command. An option is
given at most once on its side of the command, its value follows it or is joined to it by an equals sign, and no
value and no input is empty. After `--` everything is an input.
-/

namespace ClassStub.Command

/-- What the program is asked to do. -/
inductive Task where
  /-- Make stubs of the classes in inputs. -/
  | stub (inputs : List Path) (out : Option Path) (json : Bool)
  /-- Describe the class in one file. -/
  | describe (file : Path) (json : Bool)
  deriving DecidableEq, Repr

/-- A task with the configuration file to use. -/
structure Invocation where
  config : Option Path
  task : Task
  deriving DecidableEq, Repr

/-- Why a command line leads to no task. -/
inductive Stop where
  /-- It is not well formed. -/
  | misuse
  /-- It asks for help. -/
  | help
  /-- It asks for the version. -/
  | version
  deriving DecidableEq, Repr

/-- What a word of a command line looks like. -/
inductive Word where
  /-- `--`. -/
  | separator
  /-- An option with a name, and the value that is joined to it. -/
  | long (name : String) (value : Option String)
  /-- A hyphen and letters. -/
  | short (letters : List Char)
  | plain (text : String)
  deriving DecidableEq, Repr

/-- An option with or without a value joined to it. -/
def Word.ofLong (cs : List Char) : Word :=
  let name := String.ofList (cs.takeWhile (· ≠ '='))
  match cs.dropWhile (· ≠ '=') with
  | [] => long name none
  | _ :: value => long name (some (String.ofList value))

/-- The look of a word; a lone hyphen is plain. -/
def Word.of (text : String) : Word :=
  match text.toList with
  | ['-', '-'] => separator
  | '-' :: '-' :: rest => ofLong rest
  | '-' :: c :: rest => short (c :: rest)
  | _ => plain text

/-- A value of an option or an input: it is not empty. -/
def filled (text : String) : Except Stop String :=
  if text = "" then .error .misuse else .ok text

/-- A word that can be the value of the option in front of it. -/
def valueWord (text : String) : Except Stop String :=
  match Word.of text with
  | .plain text => filled text
  | _ => .error .misuse

/-- The value of an option: joined to it, or the next word; with what follows. -/
def takeValue (joined : Option String) (rest : List String) : Except Stop (String × List String) :=
  match joined, rest with
  | some value, rest => do return (← filled value, rest)
  | none, value :: rest => do return (← valueWord value, rest)
  | none, [] => .error .misuse

/-- Sets an option that was not set before. -/
def setOnce (old : Option Path) (value : String) : Except Stop (Option Path) :=
  if old.isSome then .error .misuse else .ok (some ⟨value⟩)

/-- What short options in front of the command ask for. -/
def shortStop (letters : List Char) : Stop :=
  match letters.head? with
  | some 'h' => .help
  | _ => .misuse

/-- What a command accepts. -/
structure Form where
  hasOut : Bool
  /-- The greatest number of inputs, if there is one. -/
  maxInputs : Option Nat
  deriving DecidableEq, Repr

/-- What stands behind a command. -/
structure Operands where
  config : Option Path := none
  out : Option Path := none
  json : Bool := false
  inputs : List Path := []
  deriving DecidableEq, Repr

/-- Adds an input. -/
def Operands.addInput (form : Form) (o : Operands) (text : String) : Except Stop Operands := do
  let text ← filled text
  match form.maxInputs with
  | some limit => if o.inputs.length < limit then pure () else throw .misuse
  | none => pure ()
  return { o with inputs := o.inputs ++ [⟨text⟩] }

/-- Sets the option for JSON, which takes no value. -/
def Operands.setJson (o : Operands) (joined : Option String) : Except Stop Operands :=
  if o.json || joined.isSome then .error .misuse else .ok { o with json := true }

/-- Reads an option with a value, and gives what follows it. -/
def Operands.setValue (form : Form) (o : Operands) (name : String) (joined : Option String) (rest : List String) :
    Except Stop (Operands × List String) := do
  if name = "config" then
    let (value, rest) ← takeValue joined rest
    return ({ o with config := ← setOnce o.config value }, rest)
  else if name = "out" ∧ form.hasOut then
    let (value, rest) ← takeValue joined rest
    return ({ o with out := ← setOnce o.out value }, rest)
  else if name = "help" ∧ joined = none then throw .help
  else throw .misuse

/-- Reads what stands behind a command. Each step takes a word at least, so as much `fuel` as words is enough. -/
def readOperands (form : Form) : (fuel : Nat) → List String → Operands → Except Stop Operands
  | _, [], o => .ok o
  | 0, _ :: _, _ => .error .misuse
  | fuel + 1, word :: rest, o =>
    match Word.of word with
    | .separator => rest.foldlM (Operands.addInput form) o
    | .plain text => do readOperands form fuel rest (← o.addInput form text)
    | .short letters => .error (shortStop letters)
    | .long "json" joined => do readOperands form fuel rest (← o.setJson joined)
    | .long name joined => do
      let (o, rest) ← o.setValue form name joined rest
      readOperands form fuel rest o

/-- The form of the command that makes stubs. -/
def stubForm : Form := { hasOut := true, maxInputs := none }

/-- The form of the command that describes a class. -/
def describeForm : Form := { hasOut := false, maxInputs := some 1 }

/-- The task of making stubs; it needs an input. -/
def stubTask (o : Operands) : Except Stop Task :=
  if o.inputs = [] then .error .misuse else .ok (.stub o.inputs o.out o.json)

/-- The task of describing a class; it needs an input. -/
def describeTask (o : Operands) : Except Stop Task :=
  match o.inputs with
  | file :: _ => .ok (.describe file o.json)
  | [] => .error .misuse

/-- The invocation of a command with what stands behind it. -/
def invoke (config : Option Path) (form : Form) (task : Operands → Except Stop Task) (rest : List String) :
    Except Stop Invocation := do
  let o ← readOperands form rest.length rest {}
  return { config := o.config.or config, task := ← task o }

/-- The names of the commands. -/
def commandNames : List String := ["stub", "describe", "help"]

/-- Reads a command and what stands behind it. -/
def readCommand (config : Option Path) (name : String) (rest : List String) : Except Stop Invocation :=
  match name with
  | "stub" => invoke config stubForm stubTask rest
  | "describe" => invoke config describeForm describeTask rest
  | "help" =>
    match rest with
    | [] => .error .help
    | [topic] => .error (if commandNames.contains topic then .help else .misuse)
    | _ => .error .misuse
  | _ => .error .misuse

/-- Reads what stands in front of the command, then the command. -/
def readFront : (fuel : Nat) → Option Path → List String → Except Stop Invocation
  | _, _, [] => .error .misuse
  | 0, _, _ => .error .misuse
  | fuel + 1, config, word :: rest =>
    match Word.of word with
    | .separator => .error .misuse
    | .plain name => readCommand config name rest
    | .short letters => .error (if letters.head? = some 'V' then .version else shortStop letters)
    | .long "config" joined => do
      let (value, rest) ← takeValue joined rest
      readFront fuel (← setOnce config value) rest
    | .long "version" none => .error .version
    | .long "help" none => .error .help
    | .long _ _ => .error .misuse

/-- What a command line asks for. -/
def Invocation.parse (args : List String) : Except Stop Invocation :=
  readFront args.length none args

end ClassStub.Command
