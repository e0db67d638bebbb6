import TapeC.Host.Script.Syntax
import TapeC.Text.Directive

/-!
# Arithmetic in scripts

Expressions on numbers of 64 bits with the operators of C, from assignment down to signs. What
stands behind `&&`, `||` or `?` and is not asked for is read but not evaluated.
-/

namespace TapeC.Script.Arithmetic

inductive Symbol where
  | number (n : Int)
  | name (cs : List Char)
  | sign (s : String)
deriving DecidableEq, Inhabited

/-- A number cut to 64 bits. -/
def wrap (n : Int) : Int := Int.bmod n (Nat.pow 2 64)

/-- The operators, the longer ones first. -/
def signs : List String :=
  ["<<=", ">>=", "<<", ">>", "<=", ">=", "==", "!=", "&&", "||", "+=", "-=", "*=", "/=", "%=", "&=",
    "|=", "^=", "=", "<", ">", "+", "-", "*", "/", "%", "&", "|", "^", "!", "~", "?", ":", "(", ")"]

/-- The symbols of a text of no more than `n` characters. What is none ends them. -/
def symbolsUpTo : Nat → List Char → List Symbol
  | 0, _ | _, [] => []
  | n + 1, c :: cs =>
    if c = ' ' || c = '\t' || c = '\n' then symbolsUpTo n cs
    else if c.isDigit then
      let w := Text.WholeNumber.read (c :: cs)
      .number w.signed.1 :: symbolsUpTo n w.rest
    else if isNameStart c then
      let name := (c :: cs).takeWhile isNamePart
      .name name :: symbolsUpTo n ((c :: cs).drop name.length)
    else
      match signs.find? fun s => s.toList.isPrefixOf (c :: cs) with
      | some s => .sign s :: symbolsUpTo n ((c :: cs).drop s.length)
      | none => [.sign "?bad"]

/-- The levels of expressions, the loosest first. -/
inductive Level where
  | assignment
  | condition
  | disjunction
  | conjunction
  /-- operators that bind more tightly than a rank -/
  | binary (rank : Nat)
  | primary

/-- How tightly a binary operator binds; less is tighter. -/
def rank? : String → Option Nat
  | "*" | "/" | "%" => some 0
  | "+" | "-" => some 1
  | "<<" | ">>" => some 2
  | "<" | "<=" | ">" | ">=" => some 3
  | "==" | "!=" => some 4
  | "&" => some 5
  | "^" => some 6
  | "|" => some 7
  | _ => none

/-- More than the rank of any operator. -/
def anyRank : Nat := 8

/-- Why an expression has no value. -/
inductive Fault where
  | malformed (reason : String)
  | noNumber (text : List Char)

/-- What is left of an expression, and the values that were assigned in it, the latest first. -/
structure State where
  rest : List Symbol
  assigned : List (List Char × Int)

abbrev Evaluation := StateT State (Except Fault)

def fail {α : Type} (reason : String) : Evaluation α := throw (.malformed reason)

def truth (b : Bool) : Int := if b then 1 else 0

/-- The two numbers as words, combined bit by bit. -/
def bitwise (f : BitVec 64 → BitVec 64 → BitVec 64) (a b : Int) : Int :=
  (f (BitVec.ofInt 64 a) (BitVec.ofInt 64 b)).toInt

/-- The value of a binary operation. -/
def operate (sign : String) (a b : Int) : Evaluation Int := do
  match sign with
  | "*" => return wrap (a * b)
  | "/" => if b = 0 then fail "division by zero" else return wrap (a.tdiv b)
  | "%" => if b = 0 then fail "division by zero" else return a.tmod b
  | "+" => return wrap (a + b)
  | "-" => return wrap (a - b)
  | "<<" => return bitwise (fun x y => x <<< (y.toNat % 64)) a b
  | ">>" => return (BitVec.ofInt 64 a).sshiftRight ((BitVec.ofInt 64 b).toNat % 64) |>.toInt
  | "<" => return truth (a < b)
  | "<=" => return truth (a ≤ b)
  | ">" => return truth (a > b)
  | ">=" => return truth (a ≥ b)
  | "==" => return truth (a = b)
  | "!=" => return truth (a ≠ b)
  | "&" => return bitwise (· &&& ·) a b
  | "^" => return bitwise (· ^^^ ·) a b
  | _ => return bitwise (· ||| ·) a b

/-- The number that a text is. An empty one is zero. -/
def valueOf (text : List Char) : Except Fault Int :=
  let w := Text.WholeNumber.read text
  let blank (c : Char) : Bool := c = ' ' || '\t' ≤ c && c ≤ '\r'
  if w.signed.2 || !(w.rest.dropWhile blank).isEmpty then .error (.noNumber text)
  else .ok w.signed.1

/-- The value of a variable. -/
def lookup (vars : List Char → List Char) (name : List Char) : Evaluation Int := do
  match (← get).assigned.lookup name with
  | some n => return n
  | none => valueOf (vars name)

def next? : Evaluation (Option String) := do
  match (← get).rest with
  | .sign s :: _ => return some s
  | _ => return none

def skip : Evaluation Unit := modify fun s => { s with rest := s.rest.tail }

/-- The operation that an assignment does before it assigns, if the sign is one of an
assignment. -/
def assignmentSign? (s : String) : Option (Option String) :=
  if s = "=" then some none
  else if ["<<=", ">>=", "+=", "-=", "*=", "/=", "%=", "&=", "|=", "^="].contains s then
    some (some (String.ofList s.toList.dropLast))
  else none

/-- Evaluates an expression of a level, whose parts stand in each other no deeper than `n`. An
expression that is not asked for changes nothing. -/
def evaluate (vars : List Char → List Char) : Nat → Level → Bool → Evaluation Int
  | 0, _, _ => fail "expecting primary"
  | n + 1, .assignment, asked => do
    match (← get).rest with
    | .name x :: .sign s :: rest =>
      match assignmentSign? s with
      | none => evaluate vars n .condition asked
      | some operation =>
        modify fun st => { st with rest }
        let value ← evaluate vars n .assignment asked
        if !asked then return value
        let value ← match operation with
          | none => pure value
          | some op => operate op (← lookup vars x) value
        modify fun st => { st with assigned := (x, value) :: st.assigned }
        return value
    | _ => evaluate vars n .condition asked
  | n + 1, .condition, asked => do
    let a ← evaluate vars n .disjunction asked
    if (← next?) ≠ some "?" then return a
    skip
    let b ← evaluate vars n .assignment (asked && a ≠ 0)
    if (← next?) ≠ some ":" then fail "expecting ':'"
    skip
    let c ← evaluate vars n .condition (asked && a = 0)
    return if a ≠ 0 then b else c
  | n + 1, .disjunction, asked => do
    let a ← evaluate vars n .conjunction asked
    if (← next?) ≠ some "||" then return a
    skip
    let b ← evaluate vars n .disjunction (asked && a = 0)
    return truth (a ≠ 0 || b ≠ 0)
  | n + 1, .conjunction, asked => do
    let a ← evaluate vars n (.binary anyRank) asked
    if (← next?) ≠ some "&&" then return a
    skip
    let b ← evaluate vars n .conjunction (asked && a ≠ 0)
    return truth (a ≠ 0 && b ≠ 0)
  | n + 1, .binary rank, asked => do
    let a ← evaluate vars n .primary asked
    goOn (fun rank => evaluate vars n (.binary rank) asked) rank asked (n + 1) a
  | n + 1, .primary, asked => do
    match (← get).rest with
    | .number k :: rest =>
      modify fun st => { st with rest }
      return k
    | .name x :: rest =>
      modify fun st => { st with rest }
      if asked then lookup vars x else return 0
    | .sign "(" :: rest =>
      modify fun st => { st with rest }
      let value ← evaluate vars n .assignment asked
      if (← next?) ≠ some ")" then fail "expecting ')'"
      skip
      return value
    | .sign "+" :: rest =>
      modify fun st => { st with rest }
      evaluate vars n .primary asked
    | .sign "-" :: rest =>
      modify fun st => { st with rest }
      return wrap (-(← evaluate vars n .primary asked))
    | .sign "!" :: rest =>
      modify fun st => { st with rest }
      return truth ((← evaluate vars n .primary asked) = 0)
    | .sign "~" :: rest =>
      modify fun st => { st with rest }
      return -(← evaluate vars n .primary asked) - 1
    | _ => fail "expecting primary"
where
  /-- Goes on with operators of lower rank, no more than `k`, after a first operand. -/
  goOn (operand : Nat → Evaluation Int) (rank : Nat) (asked : Bool) : Nat → Int → Evaluation Int
    | 0, a => return a
    | k + 1, a => do
      match ← next? with
      | none => return a
      | some s =>
        match rank? s with
        | none => return a
        | some r =>
          if rank ≤ r then return a
          skip
          let b ← operand r
          let a ← if asked then operate s a b else pure b
          goOn operand rank asked k a

/-- The value of an expression, and the values that it assigns, the first one first. -/
def value (vars : List Char → List Char) (text : List Char) :
    Except Fault (Int × List (List Char × Int)) := do
  let symbols := symbolsUpTo text.length text
  let (n, s) ← (evaluate vars (8 * symbols.length + 16) .assignment true).run ⟨symbols, []⟩
  if s.rest.isEmpty then return (n, s.assigned.reverse)
  else throw (.malformed "expecting EOF")

end TapeC.Script.Arithmetic
