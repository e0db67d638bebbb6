import TapeC.Host.Utility.Quote

/-!
# Options of system programs

How the programs of the system read their arguments. Options are letters after a dash, which may be
joined, or words after two dashes, which may be cut short as long as it is clear which one is
meant. They may stand between the operands, up to a lone `--`. An argument that is no option ends
the reading of options for some programs.
-/

namespace TapeC

/-- Whether an option takes a value. -/
inductive Value where
  | absent
  | required
  | possible
deriving DecidableEq

/-- The options of a program, each known by a character. -/
structure OptionTable where
  letters : List (Char × Value)
  /-- the words, the value that they take, and the option that they stand for -/
  words : List (String × Value × Char)
  /-- options may stand after operands -/
  mixes : Bool

/-- An option with its value. -/
structure Choice where
  option : Char
  value : Option (List Char)

/-- Arguments that were read: the options, the operands, and the complaint, if any, that ended the
reading. -/
structure Chosen where
  choices : List Choice
  operands : List (List Char)
  fault : Option (List Char)

namespace Chosen

def withChoice (c : Chosen) (option : Char) (value : Option (List Char)) : Chosen :=
  { c with choices := c.choices ++ [⟨option, value⟩] }

def withOperand (c : Chosen) (operand : List Char) : Chosen :=
  { c with operands := c.operands ++ [operand] }

def withFault (c : Chosen) (text : String) : Chosen := { c with fault := some text.toList }

end Chosen

namespace OptionTable

/-- What a complaint cites, as it stands. -/
def shown (cs : List Char) : String := String.ofList cs

/-- The words that a word may stand for. -/
def candidates (t : OptionTable) (word : List Char) : List (String × Value × Char) :=
  match t.words.find? (·.1.toList = word) with
  | some w => [w]
  | none => t.words.filter fun w => word.isPrefixOf w.1.toList

/-- The candidates are all the same option. -/
def agree : List (String × Value × Char) → Bool
  | [] => false
  | w :: ws => ws.all (·.2 = w.2)

/-- Reads an option that is a word, with what follows it. -/
def readWord (t : OptionTable) (word : List Char) (rest : List (List Char)) (done : Chosen) :
    Chosen × List (List Char) :=
  let name := word.takeWhile (· ≠ '=')
  let value := if word.contains '=' then some (word.drop (name.length + 1)) else none
  let found := t.candidates name
  match found with
  | [] => (done.withFault ("unrecognized option '--" ++ shown word ++ "'"), [])
  | (full, takes, option) :: _ =>
    if !agree found then
      let names := found.map fun w => " '--" ++ w.1 ++ "'"
      (done.withFault ("option '--" ++ shown word ++ "' is ambiguous; possibilities:"
        ++ String.join names), [])
    else
      match takes, value, rest with
      | .absent, some _, _ =>
        (done.withFault ("option '--" ++ full ++ "' doesn't allow an argument"), [])
      | .required, none, [] =>
        (done.withFault ("option '--" ++ full ++ "' requires an argument"), [])
      | .required, none, v :: rest => (done.withChoice option (some v), rest)
      | _, value, rest => (done.withChoice option value, rest)

/-- Reads option letters, with the arguments after them. -/
def readLetters (t : OptionTable) (rest : List (List Char)) (done : Chosen) :
    List Char → Chosen × List (List Char)
  | [] => (done, rest)
  | c :: cs =>
    match t.letters.lookup c, cs, rest with
    | none, _, _ => (done.withFault ("invalid option -- '" ++ shown [c] ++ "'"), [])
    | some .required, [], [] =>
      (done.withFault ("option requires an argument -- '" ++ shown [c] ++ "'"), [])
    | some .required, [], v :: rest => (done.withChoice c (some v), rest)
    | some .required, _ :: _, rest => (done.withChoice c (some cs), rest)
    | some _, cs, rest => t.readLetters rest (done.withChoice c none) cs

/-- Reads arguments, of which there are fewer than `n`. -/
def readUpTo (t : OptionTable) : Nat → Chosen → List (List Char) → Chosen
  | 0, done, _ | _, done, [] => done
  | n + 1, done, arg :: rest =>
    if done.fault.isSome then done
    else
      match arg with
      | ['-', '-'] => { done with operands := done.operands ++ rest }
      | '-' :: '-' :: word =>
        let (done, rest) := t.readWord word rest done
        t.readUpTo n done rest
      | '-' :: c :: cs =>
        let (done, rest) := t.readLetters rest done (c :: cs)
        t.readUpTo n done rest
      | operand =>
        if t.mixes then t.readUpTo n (done.withOperand operand) rest
        else { done with operands := done.operands ++ operand :: rest }

/-- Reads the arguments of a program. -/
def read (t : OptionTable) (args : List (List Char)) : Chosen :=
  t.readUpTo (args.length + 1) ⟨[], [], none⟩ args

end OptionTable

end TapeC
