import TapeC.Host.Script.Builtin.Letters

/-!
# Conditions

`test` and `[` evaluate conditions on texts, numbers and files. With three arguments or four, the
one in the second place decides how they are read; otherwise conditions are joined with `-o`,
`-a`, `!` and parentheses, from the loosest to the tightest.
-/

namespace TapeC.Script.Condition

inductive Symbol where
  | unary (name : String)
  | binary (name : String)
  | negation
  | both
  | either
  | openParen
  | closeParen
  | operand
  | nothing
deriving DecidableEq

def unaryNames : List String :=
  ["-r", "-w", "-x", "-e", "-f", "-d", "-c", "-b", "-p", "-u", "-g", "-k", "-s", "-t", "-z", "-n",
    "-h", "-O", "-G", "-L", "-S"]

def binaryNames : List String :=
  ["=", "!=", "<", ">", "-eq", "-ne", "-ge", "-gt", "-le", "-lt", "-nt", "-ot", "-ef"]

/-- The symbol that an argument is by itself. -/
def symbol? (arg : List Char) : Option Symbol :=
  let name := String.ofList arg
  if unaryNames.contains name then some (.unary name)
  else if binaryNames.contains name then some (.binary name)
  else
    match name with
    | "!" => some .negation
    | "-a" => some .both
    | "-o" => some .either
    | "(" => some .openParen
    | ")" => some .closeParen
    | _ => none

/-- The argument is a binary operator. -/
def isBinary (arg : List Char) : Bool :=
  match symbol? arg with
  | some (.binary _) => true
  | _ => false

/-- An operator of one operand is an operand itself at the end, and before a binary operator that
is not the last argument. -/
def standsAlone : List (List Char) → Bool
  | [] => true
  | [_] => false
  | next :: _ :: _ => isBinary next

/-- The symbol that arguments begin with. -/
def first : List (List Char) → Symbol
  | [] => .nothing
  | arg :: rest =>
    match symbol? arg with
    | none => .operand
    | some (.unary name) => if standsAlone rest then .operand else .unary name
    | some .openParen => if rest.isEmpty then .operand else .openParen
    | some s => s

/-! ## Files -/

/-- What lies at a path, with the size of a file. -/
def nodeAt (s : Shell) (path : List Char) : Option Node :=
  let t := s.kernel.treeFrom s.process.directory
  match t.resolve ⟨Octets.ofChars path⟩ with
  | .error _ => none
  | .ok place => t.node? place

/-- A device of the machine lies at a path. -/
def isDevice (s : Shell) (path : List Char) : Bool :=
  let p : Path := ⟨Octets.ofChars path⟩
  let place := Tree.placeFrom (if p.isAbsolute then [] else s.process.directory) p.names
  match s.kernel.device? s.process.descriptors place with
  | some (.ok .nothing) | some (.ok .zeros) | some (.ok .full) => true
  | _ => false

/-- The condition of one operand, other than on texts. -/
def holdsOf (s : Shell) (name : String) (path : List Char) : Bool :=
  if isDevice s path then ["-e", "-r", "-w", "-c", "-O", "-G"].contains name
  else
    match nodeAt s path with
    | none => false
    | some node =>
      match name, node with
      | "-e", _ | "-r", _ | "-w", _ | "-O", _ | "-G", _ => true
      | "-d", .directory | "-x", .directory | "-s", .directory => true
      | "-x", .file _ executable => executable
      | "-x", .utility _ | "-s", .utility _ => true
      | "-f", .file _ _ | "-f", .utility _ => true
      | "-s", .file content _ => !content.isEmpty
      | _, _ => false

/-! ## Evaluating -/

/-- The condition of two operands. -/
def holdsBetween (s : Shell) (a : List Char) (name : String) (b : List Char) : Work Bool := do
  match name with
  | "=" => return a = b
  | "!=" => return a ≠ b
  | "<" => return a < b
  | ">" => return b < a
  | "-nt" | "-ot" => return false
  | "-ef" =>
    let t := s.kernel.treeFrom s.process.directory
    let place? (path : List Char) : Option Place :=
      if (nodeAt s path).isNone then none else (t.resolve ⟨Octets.ofChars path⟩).toOption
    return (place? a).isSome && place? a = place? b
  | name =>
    let m ← Work.wholeNumber a
    let n ← Work.wholeNumber b
    match name with
    | "-eq" => return m = n
    | "-ne" => return m ≠ n
    | "-ge" => return m ≥ n
    | "-gt" => return m > n
    | "-le" => return m ≤ n
    | _ => return m < n

/-- What an operator misses. -/
def complain {α : Type} (operator : String) (text : String) : Work α :=
  Work.fail (if operator.isEmpty then text else operator ++ ": " ++ text).toList

/-- How tightly the parts of a condition are joined. -/
inductive Level where
  | disjunction
  | conjunction
  | negation
  | primary

/-- Evaluates a condition on operands that begins with a known symbol. The arguments that are left
begin with the last one of the condition. -/
def primary (s : Shell) (inner : Symbol → List (List Char) → Work (Bool × List (List Char)))
    (symbol : Symbol) (args : List (List Char)) : Work (Bool × List (List Char)) := do
  match symbol, args with
  | .nothing, args => return (false, args)
  | .openParen, args =>
    if first args.tail = .closeParen then return (false, args.tail)
    let (value, rest) ← inner (first args.tail) args.tail
    if first rest.tail ≠ .closeParen then complain "" "closing paren expected"
    return (value, rest.tail)
  | .unary name, args =>
    match args.tail with
    | [] => complain name "argument expected"
    | operand :: rest =>
      let value ← match name with
        | "-z" => pure operand.isEmpty
        | "-n" => pure (!operand.isEmpty)
        | "-t" => do
          discard (Work.wholeNumber operand)
          pure false
        | name => pure (holdsOf s name operand)
      return (value, operand :: rest)
  | _, a :: rest =>
    match first rest, rest with
    | .binary name, _ :: b :: rest => return (← holdsBetween s a name b, b :: rest)
    | .binary name, _ => complain name "argument expected"
    | _, _ => return (!a.isEmpty, args)
  | _, [] => return (false, [])

/-- Evaluates a condition whose parts stand in each other no deeper than `n`. -/
def evaluate (s : Shell) :
    Nat → Level → Symbol → List (List Char) → Work (Bool × List (List Char))
  | 0, _, _, args => return (false, args)
  | n + 1, .disjunction, symbol, args => do
    let (a, rest) ← evaluate s n .conjunction symbol args
    if first rest.tail ≠ .either then return (a, rest)
    let rest := rest.drop 2
    let (b, rest) ← evaluate s n .disjunction (first rest) rest
    return (a || b, rest)
  | n + 1, .conjunction, symbol, args => do
    let (a, rest) ← evaluate s n .negation symbol args
    if first rest.tail ≠ .both then return (a, rest)
    let rest := rest.drop 2
    let (b, rest) ← evaluate s n .conjunction (first rest) rest
    return (a && b, rest)
  | n + 1, .negation, symbol, args => do
    if symbol ≠ .negation then evaluate s n .primary symbol args
    else
      let rest := args.tail
      let (a, rest) ← evaluate s n .negation (first rest) (if rest.isEmpty then args else rest)
      return (!a, rest)
  | n + 1, .primary, symbol, args => primary s (evaluate s n .disjunction) symbol args

/-- Evaluates a whole condition that begins with a symbol. -/
def evaluateAll (symbol : Symbol) (args : List (List Char)) : Work Bool := do
  let (value, rest) ← evaluate (← get) (4 * args.length + 8) .disjunction symbol args
  match rest with
  | a :: _ :: _ => complain (String.ofList a) "unexpected operator"
  | _ => return value

/-- Evaluates arguments, of which no more than `n` say that the opposite of the rest holds. -/
def holds : Nat → List (List Char) → Work Bool
  | 0, _ | _, [] => return false
  | n + 1, args => do
    let byLength : Work Bool :=
      match args with
      | [a, b, c] =>
        if a = ['('] && c = [')'] then evaluateAll (first [b]) [b]
        else if a = ['!'] then do return !(← holds n [b, c])
        else evaluateAll (first args) args
      | [a, b, c, d] =>
        if a = ['('] && d = [')'] then evaluateAll (first [b, c]) [b, c]
        else if a = ['!'] then do return !(← holds n [b, c, d])
        else evaluateAll (first args) args
      | args => evaluateAll (first args) args
    match args with
    | [_, operator, _] => if isBinary operator then evaluateAll .operand args else byLength
    | _ => byLength

def test : BuiltinRun := fun _ name args _ => do
  let args ←
    if name ≠ ['['] then pure args
    else if args.getLast? = some [']'] then pure args.dropLast
    else Work.fail "missing ]".toList
  return if ← holds (args.length + 1) args then 0 else 1

end TapeC.Script.Condition
