import TapeC.Host.Script.Reader

/-!
# Reading commands

Tokens are put together to commands by the grammar of the shell. `Grammar.ofDepth` ties the reading
of commands and of words together: commands may stand in words, down to some depth. A script is
read line by line, and a line may go on as long as a command in it is not complete.
-/

namespace TapeC.Script

namespace Reading

/-- Notes the word of a redirection. -/
def finishRedirection (start : RedirectionStart) (w : Word) (quoted : Bool) :
    Reading Redirection := do
  match start with
  | .file stream kind => return .file stream kind w
  | .copy stream => return .copy stream w
  | .document stream stripsTabs =>
    let r ← get
    let owed : Owed := ⟨r.nextDocument, w.bareText, stripsTabs, quoted⟩
    set { r with owed := r.owed ++ [owed], nextDocument := r.nextDocument + 1 }
    return .document stream owed.number

/-- Reads the word of the redirection whose sign was read last. -/
def readTarget (g : Grammar) : Reading Redirection := do
  let start := (← get).redirection
  if let .document .. := start then check { Checks.none with endMark := true }
  if (← token g) ≠ .word then unexpected none
  let r ← get
  finishRedirection start r.word r.quoted

/-- Reads redirections, no more than `n`, and pushes back the token after them. -/
def readRedirections (g : Grammar) : Nat → List Redirection → Reading (List Redirection)
  | 0, done => return done.reverse
  | n + 1, done => do
    if (← token g) = .redirection then
      let r ← readTarget g
      readRedirections g n (r :: done)
    else
      pushBack
      return done.reverse

/-- How many characters are left, which bounds how many tokens are. -/
def left : Reading Nat := do return (← get).rest.length + 2

/-! ## Simple commands -/

/-- A simple command while it is being read, with its lists in reverse. -/
structure Simple where
  assignments : List Word
  words : List Word
  redirections : List Redirection

/-- Names of commands that no function can have. -/
def reservedNames : List String :=
  [".", ":", "break", "continue", "eval", "exec", "exit", "export", "local", "readonly", "return",
    "set", "shift", "times", "trap", "unset"]

/-- Reads the body of a function after the parenthesis that follows its name. -/
def readFunction (g : Grammar) (name : Word) : Reading Command := do
  expect g .closeParen
  match name.text? with
  | some text =>
    if isName text && !reservedNames.contains (String.ofList text) then
      check .command
      let line := (← get).line
      return .function text line (← g.command)
    else fail "Bad function name".toList
  | none => fail "Bad function name".toList

/-- Reads the words, assignments and redirections of a simple command, of no more than `n`
tokens. -/
def readSimple (g : Grammar) (line : Nat) : Nat → Simple → Reading Command
  | 0, s => return .simple line s.assignments.reverse s.words.reverse s.redirections.reverse
  | n + 1, s => do
    check { Checks.none with aliases := s.words.isEmpty }
    match ← token g with
    | .word =>
      let w := (← get).word
      if s.words.isEmpty && w.isAssignment then
        readSimple g line n { s with assignments := w :: s.assignments }
      else readSimple g line n { s with words := w :: s.words }
    | .redirection =>
      let r ← readTarget g
      readSimple g line n { s with redirections := r :: s.redirections }
    | t =>
      match t, s with
      | .openParen, ⟨[], [name], []⟩ => readFunction g name
      | _, _ =>
        pushBack
        return .simple line s.assignments.reverse s.words.reverse s.redirections.reverse

/-! ## Compound commands -/

/-- Reads the branches of a choice after its condition, no more than `n`. -/
def readChoice (g : Grammar) : Nat → Reading Command
  | 0 => unexpected none
  | n + 1 => do
    let test ← g.list false
    expect g .thenWord
    let body ← g.list false
    match ← token g with
    | .elifWord => return .choice test body (some (← readChoice g n))
    | .elseWord => return .choice test body (← g.list false)
    | _ =>
      pushBack
      return .choice test body none

/-- Reads words up to another token, no more than `n`. -/
def readWords (g : Grammar) : Nat → List Word → Reading (List Word)
  | 0, done => return done.reverse
  | n + 1, done => do
    if (← token g) = .word then
      let w := (← get).word
      readWords g n (w :: done)
    else return done.reverse

/-- Reads a loop over words after its keyword. -/
def readEach (g : Grammar) (line : Nat) : Reading Command := do
  let t ← token g
  let r ← get
  let name := r.word.text?.getD []
  if t ≠ .word || r.quoted || !isName name then fail "Bad for loop variable".toList
  check .command
  let words ←
    if (← token g) = .inWord then do
      let words ← readWords g (← left) []
      let t := (← get).token
      if t ≠ .newline && t ≠ .semicolon then unexpected none
      pure words
    else do
      if (← get).token ≠ .semicolon then pushBack
      pure [allArguments]
  check .command
  expect g .doWord
  return .each line name words (← g.list false)

/-- Reads the patterns of a branch, no more than `n`, the first of which was read. -/
def readPatterns (g : Grammar) : Nat → List Word → Reading (List Word)
  | 0, done => return done.reverse
  | n + 1, done => do
    let w := (← get).word
    if (← token g) = .pipe then
      discard (token g)
      readPatterns g n (w :: done)
    else return (w :: done).reverse

/-- What is looked at where a branch may begin. -/
def branchChecks : Checks := ⟨false, true, true, false⟩

/-- Reads the branches of a selection, no more than `n`. -/
def readBranches (g : Grammar) :
    Nat → List (List Word × Option Command) → Reading (List (List Word × Option Command))
  | 0, done => return done.reverse
  | n + 1, done => do
    check branchChecks
    if (← token g) = .esacWord then return done.reverse
    if (← get).token = .openParen then discard (token g)
    let patterns ← readPatterns g (← left) []
    if (← get).token ≠ .closeParen then unexpected (some .closeParen)
    let body ← g.list true
    let done := (patterns, body) :: done
    check branchChecks
    match ← token g with
    | .esacWord => return done.reverse
    | .endOfBranch => readBranches g n done
    | _ => unexpected (some .endOfBranch)

/-- Reads a selection after its keyword. -/
def readSelect (g : Grammar) (line : Nat) : Reading Command := do
  expect g .word
  let subject := (← get).word
  check .command
  expect g .inWord
  return .select line subject (← readBranches g (← left) [])

/-- A compound command with redirections. -/
def redirect (line : Nat) (c : Command) (rs : List Redirection) : Command :=
  match rs, c with
  | [], c => c
  | rs, .subshell line body _ => .subshell line body rs
  | rs, c => .redirected line c rs

/-- A list of commands as one, which does nothing if it is empty. -/
def grouped (c : Option Command) : Command := c.getD (.sequence [])

/-- Reads a command. -/
def readCommand (g : Grammar) : Reading Command := do
  let line := (← get).line
  match ← token g with
  | .word | .redirection =>
    pushBack
    readSimple g (← get).line (← left) ⟨[], [], []⟩
  | t =>
    let c ← match t with
      | .ifWord => do
        let c ← readChoice g (← left)
        expect g .fiWord
        pure c
      | .whileWord | .untilWord => do
        let test ← g.list false
        expect g .doWord
        let body ← g.list false
        expect g .doneWord
        pure (.loop (t = .untilWord) test body)
      | .forWord => do
        let c ← readEach g line
        expect g .doneWord
        pure c
      | .caseWord => readSelect g line
      | .openParen => do
        let body ← g.list false
        expect g .closeParen
        pure (.subshell line body [])
      | .openBrace => do
        let body ← g.list false
        expect g .closeBrace
        pure (grouped body)
      | _ => unexpected none
    check .sameLine
    return redirect line c (← readRedirections g (← left) [])

/-! ## Lists -/

/-- Reads the commands of a pipeline after the first one, no more than `n`. -/
def readPipeline (g : Grammar) : Nat → List Command → Reading (List Command)
  | 0, done => return done.reverse
  | n + 1, done => do
    if (← token g) = .pipe then
      check .command
      let c ← readCommand g
      readPipeline g n (c :: done)
    else
      pushBack
      return done.reverse

/-- Reads a pipeline, which may be negated. -/
def pipeline (g : Grammar) : Reading Command := do
  let negated := (← token g) = .bang
  if negated then check .sameLine else pushBack
  let first ← readCommand g
  let cs ← readPipeline g (← left) [first]
  let c := match cs with
    | [c] => c
    | cs => .pipeline false cs
  return if negated then .negation c else c

/-- Reads on after a pipeline as long as it is joined with others, no more than `n`. -/
def readJoined (g : Grammar) : Nat → Command → Reading Command
  | 0, c => return c
  | n + 1, c => do
    match ← token g with
    | .both =>
      check .command
      let d ← pipeline g
      readJoined g n (.andThen c d)
    | .either =>
      check .command
      let d ← pipeline g
      readJoined g n (.orElse c d)
    | _ =>
      pushBack
      return c

/-- A command that is not waited for. -/
def inBackground : Command → Command
  | .pipeline _ cs => .pipeline true cs
  | .redirected line body rs => .background line body rs
  | c => .background 0 c []

/-- Several commands as one. -/
def sequence : List Command → Option Command
  | [] => none
  | [c] => some c
  | cs => some (.sequence cs)

/-- Commands that were read, and whether the script ended before the first one. -/
structure Commands where
  command : Option Command
  ended : Bool

/-- Reads commands, no more than `n`, those before them being given in reverse. They go on up to the
end of the line if `oneLine`, and else up to a token that ends them, which may come first if
`mayBeEmpty`. -/
def readList (g : Grammar) (oneLine mayBeEmpty : Bool) :
    Nat → List Command → Reading Commands
  | 0, done => return ⟨sequence done.reverse, false⟩
  | n + 1, done => do
    check { Checks.command with newlines := !oneLine }
    let t ← token g
    if t = .newline then
      readDocuments g
      return ⟨sequence done.reverse, false⟩
    if t = .endOfScript then
      readDocuments g
      discard (found .endOfScript)
      pushBack
      return ⟨sequence done.reverse, done.isEmpty && oneLine⟩
    pushBack
    if !oneLine && (mayBeEmpty || !done.isEmpty) && t.endsList then
      return ⟨sequence done.reverse, false⟩
    let c ← readJoined g (← left) (← pipeline g)
    match ← token g with
    | .background => readList g oneLine mayBeEmpty n (inBackground c :: done)
    | .semicolon => readList g oneLine mayBeEmpty n (c :: done)
    | .newline =>
      pushBack
      readList g oneLine mayBeEmpty n (c :: done)
    | .endOfScript =>
      readDocuments g
      discard (found .endOfScript)
      pushBack
      return ⟨sequence (c :: done).reverse, false⟩
    | _ =>
      if oneLine then unexpected none
      pushBack
      return ⟨sequence (c :: done).reverse, false⟩

end Reading

/-- How deep commands may stand in each other. -/
def maxDepth : Nat := 400

/-- The grammar of commands that stand in each other down to a depth. -/
def Grammar.ofDepth : Nat → Grammar
  | 0 =>
    let fail := Reading.fail "out of memory".toList
    ⟨fail, fun _ => Reading.fail "out of memory".toList, Reading.fail "out of memory".toList⟩
  | n + 1 =>
    let g := Grammar.ofDepth n
    let list (mayBeEmpty : Bool) : Reading (Option Command) := do
      let cs ← Reading.readList g false mayBeEmpty (← Reading.left) []
      return cs.command
    ⟨Reading.readCommand g, list, do
      let c ← list true
      Reading.expect g .closeParen
      return c⟩

/-- What the next line of a script is. -/
inductive Line where
  | endOfScript
  | commands (c : Option Command)

/-- Reads the next line, with all lines that its commands go on in. -/
def Reader.readLine (r : Reader) : Except Fault (Line × Reader) := do
  let g := Grammar.ofDepth maxDepth
  let read : Reading Reading.Commands := do
    modify fun r => { r with pushedBack := false, checks := .none, owed := [] }
    Reading.readList g true false (← Reading.left) []
  let (cs, r) ← read.run r
  return (if cs.ended then .endOfScript else .commands cs.command, r)

end TapeC.Script
