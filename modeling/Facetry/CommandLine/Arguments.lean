/-
# Arguments of a command

A command has operands, which are given in order, and switches, which can be
given anywhere before a lone `--`. A switch is written as `-k` or `--class`; its
value is the next argument or follows in the same one, as in `-kV`, `-k=V` and
`--class=V`. The letters of several switches can be written together, and only
the last of them can take a value. No switch is given twice.

Key definitions: `Form`, `Given`, `Form.read`.
-/
namespace Facetry.CommandLine

/-- An operand of a command; a path must not be empty. -/
structure Operand where
  name : String
  about : String
  isPath : Bool

/-- What a switch takes: nothing, a text, or a path, which must not be empty. -/
inductive Switch.Value
  | nothing
  | text
  | path
  deriving DecidableEq, Repr

/-- A switch of a command. -/
structure Switch where
  letter : Char
  name : String
  about : String
  value : Switch.Value

/-- What can be given to a command. -/
structure Form where
  name : String
  shortName : Option String
  about : String
  operands : List Operand
  switches : List Switch

/-- What was given to a command: operands in order, and switches by name with their values. -/
structure Given where
  operands : List String
  switches : List (String × String)

namespace Given

/-- Nothing. -/
def empty : Given := ⟨[], []⟩

/-- The value of a switch, if it was given. -/
def value? (g : Given) (name : String) : Option String := g.switches.lookup name

/-- Whether a switch was given. -/
def has (g : Given) (name : String) : Bool := (g.value? name).isSome

/-- One more operand, if the form has a place for it. -/
def addOperand (f : Form) (g : Given) (text : String) : Option Given :=
  match f.operands[g.operands.length]? with
  | some o =>
    if o.isPath && text.isEmpty then none else some { g with operands := g.operands ++ [text] }
  | none => none

/-- One more switch, if it was not given before. -/
def addSwitch (g : Given) (s : Switch) (value : String) : Option Given :=
  if g.has s.name || (s.value == .path && value.isEmpty) then none
  else some { g with switches := g.switches ++ [(s.name, value)] }

end Given

/-- An argument by its form alone. -/
inductive Word
  | operand (text : String)
  | named (name : String) (value : Option String)
  | letters (cs : List Char)
  | separator
  deriving DecidableEq, Repr

/-- The form of an argument. A lone `-` is an operand. -/
def Word.ofText (text : String) : Word :=
  match text.toList with
  | ['-', '-'] => separator
  | '-' :: '-' :: cs =>
    named (String.ofList (cs.takeWhile (· != '=')))
      (match cs.dropWhile (· != '=') with
        | [] => none
        | _ :: value => some (String.ofList value))
  | '-' :: c :: cs => letters (c :: cs)
  | _ => operand text

/-- What an argument leads to. -/
inductive Step
  | next (g : Given)
  | awaits (s : Switch) (g : Given)
  | help

/-- What the arguments of a command lead to. -/
inductive Reading
  | given (g : Given)
  | help

namespace Form

/-- What a switch that is written by name leads to. -/
def readNamed (f : Form) (name : String) (value : Option String) (g : Given) : Option Step :=
  if name = "help" then if value.isNone then some .help else none
  else do
    let s ← f.switches.find? (·.name == name)
    match s.value, value with
    | .nothing, none => (g.addSwitch s "").map .next
    | .nothing, some _ => none
    | _, some value => (g.addSwitch s value).map .next
    | _, none => some (.awaits s g)

/-- What letters lead to. -/
def readLetters (f : Form) : List Char → Given → Option Step
  | [], g => some (.next g)
  | c :: cs, g =>
    if c = 'h' then some .help
    else do
      let s ← f.switches.find? (·.letter == c)
      match s.value, cs with
      | .nothing, cs => readLetters f cs (← g.addSwitch s "")
      | _, [] => some (.awaits s g)
      | _, '=' :: value => (g.addSwitch s (String.ofList value)).map .next
      | _, value => (g.addSwitch s (String.ofList value)).map .next

/-- What an argument leads to, unless it is the separator. -/
def readWord (f : Form) (g : Given) : Word → Option Step
  | .operand text => (g.addOperand f text).map .next
  | .named name value => f.readNamed name value g
  | .letters cs => f.readLetters cs g
  | .separator => some (.next g)

/-- What the arguments lead to after what is given already. -/
def readFrom (f : Form) : List String → Given → Option Reading
  | [], g => if g.operands.length = f.operands.length then some (.given g) else none
  | argument :: rest, g =>
    if Word.ofText argument = .separator then do
      readFrom f [] (← rest.foldlM (Given.addOperand f) g)
    else
      match f.readWord g (Word.ofText argument), rest with
      | none, _ => none
      | some .help, _ => some .help
      | some (.next g), rest => readFrom f rest g
      | some (.awaits _ _), [] => none
      | some (.awaits s g), value :: rest =>
        match Word.ofText value with
        | .operand value => do readFrom f rest (← g.addSwitch s value)
        | _ => none
termination_by arguments => arguments.length

/-- What the arguments lead to; none if they do not have the form. -/
def read (f : Form) (arguments : List String) : Option Reading := f.readFrom arguments .empty

end Form
end Facetry.CommandLine
