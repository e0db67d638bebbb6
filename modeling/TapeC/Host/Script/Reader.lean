import TapeC.Host.Script.Syntax

/-!
# Reading scripts

A script is read token by token, and a token character by character. `Reader` is where the reading
is: what is left of the script, the number of the line, the last token, and the texts that the
script still owes to its redirections. The reading of words and of commands needs each other,
since a command may stand in a word; `Grammar` stands for the reading of commands where words are
read.
-/

namespace TapeC.Script

inductive Token where
  | endOfScript | newline | semicolon | background | both | either | pipe | openParen | closeParen
  | endOfBranch | redirection | word
  | bang | caseWord | doWord | doneWord | elifWord | elseWord | esacWord | fiWord | forWord
  | ifWord | inWord | thenWord | untilWord | whileWord | openBrace | closeBrace
deriving DecidableEq, Inhabited

namespace Token

/-- How a complaint names a token. -/
def name : Token → String
  | endOfScript => "end of file"
  | newline => "newline"
  | redirection => "redirection"
  | word => "word"
  | semicolon => "\";\""
  | background => "\"&\""
  | both => "\"&&\""
  | either => "\"||\""
  | pipe => "\"|\""
  | openParen => "\"(\""
  | closeParen => "\")\""
  | endOfBranch => "\";;\""
  | bang => "\"!\""
  | caseWord => "\"case\""
  | doWord => "\"do\""
  | doneWord => "\"done\""
  | elifWord => "\"elif\""
  | elseWord => "\"else\""
  | esacWord => "\"esac\""
  | fiWord => "\"fi\""
  | forWord => "\"for\""
  | ifWord => "\"if\""
  | inWord => "\"in\""
  | thenWord => "\"then\""
  | untilWord => "\"until\""
  | whileWord => "\"while\""
  | openBrace => "\"\x7b\""
  | closeBrace => "\"\x7d\""

/-- The words that are tokens of their own where a command may begin. -/
def keywords : List (String × Token) :=
  [("!", bang), ("case", caseWord), ("do", doWord), ("done", doneWord), ("elif", elifWord),
    ("else", elseWord), ("esac", esacWord), ("fi", fiWord), ("for", forWord), ("if", ifWord),
    ("in", inWord), ("then", thenWord), ("until", untilWord), ("while", whileWord),
    ("\x7b", openBrace), ("\x7d", closeBrace)]

def ofKeyword? (cs : List Char) : Option Token :=
  (keywords.find? (·.1.toList = cs)).map (·.2)

/-- A list of commands ends before the token. -/
def endsList : Token → Bool
  | endOfScript | closeParen | endOfBranch | doWord | doneWord | elifWord | elseWord | esacWord
  | fiWord | thenWord | closeBrace => true
  | _ => false

end Token

/-- What is wrong with a script, and in which line. -/
structure Fault where
  line : Nat
  text : List Char

/-- What is looked at when the next token is read. -/
structure Checks where
  /-- aliases are replaced -/
  aliases : Bool
  keywords : Bool
  /-- line ends are passed over -/
  newlines : Bool
  /-- the word is the one that ends a text in the script -/
  endMark : Bool

namespace Checks

def none : Checks := ⟨false, false, false, false⟩

/-- The checks where a command may begin. -/
def command : Checks := ⟨true, true, true, false⟩

/-- The checks after a command. -/
def sameLine : Checks := ⟨true, true, false, false⟩

end Checks

/-- A redirection before its word is read. -/
inductive RedirectionStart where
  | file (stream : Nat) (kind : FileUse)
  | copy (stream : Nat)
  | document (stream : Nat) (stripsTabs : Bool)

/-- A text that a script still owes. -/
structure Owed where
  number : Nat
  endMark : List Char
  stripsTabs : Bool
  /-- nothing is put in for its parameters -/
  literal : Bool

/-- An alias whose text is being read. -/
structure AliasInUse where
  name : List Char
  /-- how much of the script comes after the text -/
  left : Nat
  /-- the text ends in a blank, and so what comes after it may be an alias too -/
  endsInBlank : Bool

structure Reader where
  rest : List Char
  line : Nat
  checks : Checks
  /-- the last token is read once more -/
  pushedBack : Bool
  token : Token
  /-- the word of the last token, and whether there are quotes in it -/
  word : Word
  quoted : Bool
  redirection : RedirectionStart
  owed : List Owed
  documents : List (Nat × Word)
  nextDocument : Nat
  aliases : List (List Char × List Char)
  /-- the aliases that are being read -/
  inUse : List AliasInUse

namespace Reader

/-- A reader at the beginning of a text. -/
def ofText (cs : List Char) (aliases : List (List Char × List Char)) (nextDocument : Nat) :
    Reader where
  rest := cs.filter (· ≠ '\x00')
  line := 1
  checks := .none
  pushedBack := false
  token := .newline
  word := []
  quoted := false
  redirection := .copy 0
  owed := []
  documents := []
  nextDocument := nextDocument
  aliases := aliases
  inUse := []

/-- The script has been read to its end. -/
def atEnd (r : Reader) : Bool := r.pushedBack && r.token = .endOfScript

end Reader

/-- Reading on. -/
abbrev Reading := StateT Reader (Except Fault)

/-- The reading of commands, down to some depth. -/
structure Grammar where
  command : Reading Command
  /-- commands up to a token that ends them, which may come first or not -/
  list : (mayBeEmpty : Bool) → Reading (Option Command)
  /-- commands up to a closing parenthesis, and the parenthesis -/
  enclosed : Reading (Option Command)

namespace Reading

def fail {α : Type} (text : List Char) : Reading α := do
  throw ⟨(← get).line, "Syntax error: ".toList ++ text⟩

/-- The last token is not one that may stand there. -/
def unexpected {α : Type} (wanted : Option Token) : Reading α := do
  let expecting := match wanted with
    | none => ""
    | some t => " (expecting " ++ t.name ++ ")"
  fail ((← get).token.name ++ " unexpected" ++ expecting).toList

/-! ## Characters -/

def nextLine : Reading Unit := modify fun r => { r with line := r.line + 1 }

/-- The next character, or none at the end. -/
def next : Reading (Option Char) := do
  let r ← get
  match r.rest with
  | [] => return none
  | c :: rest =>
    set { r with rest := rest }
    return some c

/-- Passes over line ends after a backslash, of which there are no more than `n`. -/
def joinLines : Nat → Reader → Reader
  | 0, r => r
  | n + 1, r =>
    match r.rest with
    | '\\' :: '\n' :: rest => joinLines n { r with rest, line := r.line + 1 }
    | _ => r

/-- The next character of lines that are joined by backslashes at their ends. -/
def nextJoined : Reading (Option Char) := do
  modify fun r => match r.rest with
    | '\\' :: '\n' :: _ => joinLines r.rest.length r
    | _ => r
  next

/-- Takes a character back. -/
def unread (c : Option Char) : Reading Unit := do
  if let some c := c then modify fun r => { r with rest := c :: r.rest }

/-- Takes a joined character if it is the given one. -/
def accept (c : Char) : Reading Bool := do
  let d ← nextJoined
  if d = some c then return true
  unread d
  return false

/-! ## Words -/

/-- What kind of text is being read. -/
inductive Style where
  | base | single | double | arithmetic
deriving DecidableEq

/-- A text inside a word, with the parameters that are open in it. -/
structure Frame where
  style : Style
  doubleQuoted : Bool
  /-- how many parameters are open -/
  depth : Nat
  /-- how many of them stand in double quotes -/
  quotedDepth : Nat
  /-- the text is that of one parameter -/
  ofParameter : Bool
  /-- quotes are open inside a parameter -/
  innerQuoted : Bool
  parens : Nat

def Frame.ofStyle (style : Style) (doubleQuoted : Bool) : Frame :=
  ⟨style, doubleQuoted, 0, 0, false, false, 0⟩

/-- A word while it is being read, with its marks in reverse. -/
structure Draft where
  marks : List Mark
  frame : Frame
  outer : List Frame
  quoted : Bool
  /-- the word is a text that goes on up to a line; whether tabs are stripped -/
  document : Option (List Char × Bool)

namespace Draft

def add (d : Draft) (m : Mark) : Draft := { d with marks := m :: d.marks }

def push (d : Draft) (f : Frame) : Draft := { d with frame := f, outer := d.frame :: d.outer }

def pop (d : Draft) : Draft :=
  match d.outer with
  | f :: fs => { d with frame := f, outer := fs }
  | [] => d

/-- Quotes begin or end. Texts that go on up to a line have none. -/
def addQuote (d : Draft) : Draft := if d.document.isSome then d else d.add .quote

/-- Double quotes begin or end. -/
def addDoubleQuote (d : Draft) : Draft :=
  if d.frame.depth > 0 then { d.addQuote with frame.innerQuoted := !d.frame.innerQuoted }
  else d.addQuote

/-- Opens quotes of a style. -/
def openQuotes (d : Draft) (style : Style) : Draft :=
  if style = .double then
    { d with frame.style := .double, frame.doubleQuoted := true }.addDoubleQuote
  else { d with frame.style := style }.addQuote

/-- Closes quotes with a character, unless it belongs to the text. -/
def closeQuotes (d : Draft) (c : Char) : Draft :=
  if d.document.isSome && d.frame.depth = 0 then d.add (.char c)
  else
    let d := if d.frame.quotedDepth = 0 then
        { d with frame.style := .base, frame.doubleQuoted := false }
      else d
    let d := { d with quoted := true }
    if c = '"' then d.addDoubleQuote else d.addQuote

/-- Ends a parameter, if one is open. -/
def closeParameter (d : Draft) : Draft :=
  if d.frame.innerQuoted || d.frame.depth = 0 then d.add (.char '\x7d')
  else
    let depth := d.frame.depth - 1
    let d := { d with frame.depth := depth }
    let d := if depth = 0 && d.frame.ofParameter then d.pop
      else { d with frame.quotedDepth := d.frame.quotedDepth - 1 }
    d.add .parameterEnd

end Draft

/-- A text in a script ends with the line that begins here; the tabs at the beginning of the line
are passed over if the text is to be without them. -/
def checkEnd (d : Draft) (c : Option Char) : Reading (Option Char) := do
  match d.document with
  | none => return c
  | some (mark, stripsTabs) =>
    unread c
    if stripsTabs then modify fun r => { r with rest := r.rest.dropWhile (· = '\t') }
    let r ← get
    let after := r.rest.drop mark.length
    if mark.isPrefixOf r.rest && (after.isEmpty || after.head? = some '\n') then
      set { r with rest := after.tail, line := r.line + 1 }
      return none
    next

/-- Reads a character after a backslash. -/
def readBackslash (d : Draft) : Reading Draft := do
  match ← next with
  | none => return d.add (.escaped '\\')
  | some c =>
    let keeps := d.frame.doubleQuoted && c ≠ '\\' && c ≠ '\x60' && c ≠ '$'
      && (c ≠ '"' || d.document.isSome && d.frame.depth = 0)
      && (c ≠ '\x7d' || d.frame.depth = 0)
    let d := if keeps then d.add (.escaped '\\') else d
    return { d.add (.escaped c) with quoted := true }

/-- The text up to the next backquote, of which no more than `n` characters are read. -/
def readBackquoted (d : Draft) : Nat → List Char → Reading (List Char)
  | 0, done => return done.reverse
  | n + 1, done => do
    match ← nextJoined with
    | some '\x60' => return done.reverse
    | some '\\' =>
      match ← next with
      | none => return ('\\' :: done).reverse
      | some c =>
        let special := c = '\\' || c = '\x60' || c = '$' || d.frame.doubleQuoted && c = '"'
        readBackquoted d n (if special then c :: done else c :: '\\' :: done)
    | none => fail "EOF in backquote substitution".toList
    | some c =>
      if c = '\n' then nextLine
      readBackquoted d n (c :: done)

/-- Reads a command between backquotes. It is a script of its own, with lines from one on. -/
def readOldCommand (g : Grammar) (d : Draft) : Reading Draft := do
  let text ← readBackquoted d ((← get).rest.length + 1) []
  let outer ← get
  let inUse := outer.inUse.filter (·.left ≤ outer.rest.length)
  modify fun r =>
    { r with
      rest := text, line := 1, owed := [], pushedBack := false
      inUse := inUse.map fun a => { a with left := 0 } }
  let body ← g.list true
  modify fun r =>
    { r with
      rest := outer.rest, line := outer.line, owed := outer.owed, pushedBack := false
      inUse }
  return d.add (.command body)

/-- What belongs to a parameter in braces after its name. -/
def readForm : Reading (Form × Bool × Bool) := do
  let colon ← accept ':'
  let c ← nextJoined
  match colon, c with
  | false, some '%' => return (.cutEnd (← accept '%'), false, true)
  | false, some '#' => return (.cutStart (← accept '#'), false, true)
  | _, some '\x7d' => return (.value, colon, false)
  | _, some '-' => return (.orElse, colon, false)
  | _, some '+' => return (.ifSet, colon, false)
  | _, some '?' => return (.orFail, colon, false)
  | _, some '=' => return (.orAssign, colon, false)
  | _, _ => return (.bad, colon, false)

/-- Characters that are names of parameters by themselves. -/
def isSpecial (c : Char) : Bool := "!#$*-?@".toList.contains c || c.isDigit

/-- Joined characters as long as they are wanted, no more than `n`, and the first other one. -/
def takeJoined (wanted : Char → Bool) : Nat → List Char → Reading (List Char × Option Char)
  | 0, done => return (done.reverse, none)
  | n + 1, done => do
    match ← nextJoined with
    | some c => if wanted c then takeJoined wanted n (c :: done) else return (done.reverse, some c)
    | none => return (done.reverse, none)

/-- Reads the name of a parameter that begins with a character: the name, the form if it is known
already, and the character after it. -/
def readName (braces : Bool) (c : Char) : Reading (List Char × Option Form × Option Char) := do
  let n := (← get).rest.length + 1
  let long (c : Char) (lettersOnly : Bool) : Reading (List Char × Option Char) :=
    if isNameStart c then takeJoined isNamePart n [c]
    else if lettersOnly then takeJoined Char.isDigit n [c]
    else do return ([c], ← nextJoined)
  if isNameStart c || c.isDigit then
    let (name, after) ← long c braces
    return (name, none, after)
  else if c = '\x7d' then return ([], some .bad, some c)
  else
    let d ← nextJoined
    if braces && c = '#' && d.any (fun d => d = '_' || d.isAlphanum) then
      let (name, after) ← long (d.getD '_') true
      return (name, some (if after = some '\x7d' then .length else .bad), after)
    else if braces && c = '#' then
      let e ← nextJoined
      if d = some '\x7d' || e ≠ some '\x7d' then
        unread e
        return (['#'], none, d)
      else if d.any isSpecial then return (d.toList, some .length, e)
      else return ([], some .bad, e)
    else if isSpecial c then return ([c], none, d)
    else return ([], some .bad, d)

/-- Reads a parameter after its dollar sign, from its first character or brace on. -/
def readParameter (d : Draft) (c : Char) : Reading Draft := do
  let braces := c = '\x7b'
  let first ← if braces then nextJoined else pure (some c)
  let (name, known, after) ← match first with
    | none => pure ([], some Form.bad, none)
    | some c => readName braces c
  unread after
  if !braces then return d.add (.parameter name .value false)
  let (form, orEmpty, cuts) ← match known with
    | some form => pure (form, false, false)
    | none => readForm
  let d := d.add (.parameter name form orEmpty)
  if form = .value && !orEmpty then return d
  let style := if cuts then .base else d.frame.style
  let style := if style = .arithmetic then .double else style
  let d := if style ≠ d.frame.style || d.frame.innerQuoted then
      d.push { Frame.ofStyle style (style ≠ .base) with ofParameter := true }
    else d
  return { d with
    frame.depth := d.frame.depth + 1
    frame.quotedDepth := d.frame.quotedDepth + if d.frame.doubleQuoted then 1 else 0 }

/-- Reads what follows a dollar sign. -/
def readDollar (g : Grammar) (d : Draft) : Reading Draft := do
  match ← nextJoined with
  | none => return d.add (.char '$')
  | some c =>
    if (← get).checks.endMark || !(c = '(' || c = '\x7b' || isNameStart c || isSpecial c) then
      unread (some c)
      return d.add (.char '$')
    else if c ≠ '(' then readParameter d c
    else if ← accept '(' then
      return (d.add .expression).push (.ofStyle .arithmetic true)
    else
      let owed := (← get).owed
      modify fun r => { r with owed := [] }
      let body ← g.enclosed
      modify fun r => { r with owed }
      return d.add (.command body)

/-- Reads a closing parenthesis in an expression. -/
def readCloseParen (d : Draft) : Reading Draft := do
  if d.frame.parens > 0 then
    return { d.add (.char ')') with frame.parens := d.frame.parens - 1 }
  else if ← accept ')' then return (d.add .expressionEnd).pop
  else return d.add (.char ')')

/-- Characters that end a word. -/
def endsWord (c : Char) : Bool := "<>();&| \t".toList.contains c

/-- What a character of a word does. -/
inductive Role where
  | text | lineEnd | backslash | singleQuote | doubleQuote | closingQuote | dollar | closingBrace
  | openParen | closeParen | backquote | wordEnd
deriving DecidableEq

/-- What a character does in a text of a style. -/
def role (style : Style) (c : Char) : Role :=
  match style, c with
  | _, '\n' => .lineEnd
  | .single, '\'' => .closingQuote
  | .single, _ => .text
  | _, '\\' => .backslash
  | _, '$' => .dollar
  | _, '\x60' => .backquote
  | _, '\x7d' => .closingBrace
  | .base, '\'' => .singleQuote
  | .base, '"' => .doubleQuote
  | .base, c => if endsWord c then .wordEnd else .text
  | .double, '"' => .closingQuote
  | .arithmetic, '(' => .openParen
  | .arithmetic, ')' => .closeParen
  | _, _ => .text

/-- Reads a character of a word, of which the end is not reached. -/
def readChar (g : Grammar) (d : Draft) (c : Char) : Reading Draft := do
  match role d.frame.style c with
  | .text | .lineEnd | .wordEnd => return d.add (.char c)
  | .backslash => readBackslash d
  | .singleQuote => return d.openQuotes .single
  | .doubleQuote => return d.openQuotes .double
  | .closingQuote => return d.closeQuotes c
  | .dollar => readDollar g d
  | .closingBrace => return d.closeParameter
  | .openParen => return { d.add (.char c) with frame.parens := d.frame.parens + 1 }
  | .closeParen => readCloseParen d
  | .backquote =>
    if (← get).checks.endMark then return { d.add (.char c) with quoted := true }
    else readOldCommand g d

/-- The next character of a word. Lines are joined except in single quotes. -/
def nextOf (d : Draft) : Reading (Option Char) :=
  if d.frame.style = .single then next else nextJoined

/-- Reads a word that goes on with a character, of no more than `n` characters: the word, and the
character after it. -/
def readMarks (g : Grammar) : Nat → Draft → Option Char → Reading (Draft × Option Char)
  | 0, d, c => return (d, c)
  | _ + 1, d, none => return (d, none)
  | n + 1, d, some c => do
    let inBase := d.frame.style = .base && d.frame.depth = 0
    match role d.frame.style c with
    | .lineEnd =>
      if inBase then return (d, some c)
      nextLine
      let d := d.add (.char c)
      readMarks g n d (← checkEnd d (← next))
    | .wordEnd =>
      if inBase then return (d, some c)
      let d := d.add (.char c)
      readMarks g n d (← nextOf d)
    | _ =>
      let d ← readChar g d c
      readMarks g n d (← nextOf d)

/-- Complains of what is left open at the end of a word. -/
def checkClosed (d : Draft) : Reading Unit := do
  if d.frame.style = .arithmetic then fail "Missing '))'".toList
  else if d.frame.style ≠ .base && d.document.isNone then
    fail "Unterminated quoted string".toList
  else if d.frame.depth ≠ 0 then fail "Missing '\x7d'".toList

/-- Reads the sign of a redirection of a stream. -/
def readRedirection (stream : Option Nat) (output : Bool) : Reading RedirectionStart := do
  if output then
    let stream := stream.getD 1
    if ← accept '>' then return .file stream .append
    else if ← accept '|' then return .file stream .overwrite
    else if ← accept '&' then return .copy stream
    else return .file stream .write
  else
    let stream := stream.getD 0
    if ← accept '<' then return .document stream (← accept '-')
    else if ← accept '&' then return .copy stream
    else if ← accept '>' then return .file stream .update
    else return .file stream .read

/-- Reads a word or a redirection that begins with a character. -/
def readWord (g : Grammar) (c : Option Char) : Reading Token := do
  let (d, c) ← readMarks g ((← get).rest.length + 2) ⟨[], .ofStyle .base false, [], false, none⟩ c
  checkClosed d
  let stream : Option (Option Nat) := match d.marks with
    | [] => some none
    | [.char e] => if e.isDigit then some (some (e.toNat - '0'.toNat)) else none
    | _ => none
  match stream with
  | some stream =>
    if (c = some '>' || c = some '<') && !d.quoted then
      let start ← readRedirection stream (c = some '>')
      modify fun r => { r with token := .redirection, redirection := start }
      return .redirection
  | none => pure ()
  unread c
  modify fun r => { r with token := .word, word := d.marks.reverse, quoted := d.quoted }
  return .word

/-- Reads a text that the script owes. -/
def readDocument (g : Grammar) (o : Owed) : Reading Unit := do
  let style := if o.literal then Style.single else .double
  let d : Draft := ⟨[], .ofStyle style (!o.literal), [], false, some (o.endMark, o.stripsTabs)⟩
  let n := (← get).rest.length + 2
  let first ← if o.literal then next else nextJoined
  let (d, _) ← readMarks g n d (← checkEnd d first)
  checkClosed d
  modify fun r => { r with documents := (o.number, d.marks.reverse) :: r.documents }

/-- Reads the texts that the script owes at the end of a line. -/
def readDocuments (g : Grammar) : Reading Unit := do
  let owed := (← get).owed
  modify fun r => { r with owed := [], pushedBack := if owed.isEmpty then r.pushedBack else false }
  owed.forM (readDocument g)

/-! ## Tokens -/

/-- The aliases whose text has been read, and something after it, are free again. -/
def leaveAliases : Reading Unit := do
  let r ← get
  if !r.inUse.isEmpty then
    let left := r.rest.length
    set { r with inUse := r.inUse.filter (·.left ≤ left) }

/-- Looks for an alias in the next word if blanks at the end of another alias were passed over
since the rest had this length. -/
def leaveBlanks (before : Nat) : Reading Unit := do
  let r ← get
  let left := r.rest.length
  if r.inUse.any fun a => a.endsInBlank && a.left < before && left < a.left then
    set { r with checks := { r.checks with aliases := true } }

def found (t : Token) : Reading Token := do
  modify fun r => { r with token := t }
  return t

/-- Passes over blanks and comments, of no more than `n` characters, and gives the next
character. -/
def skipBlanks : Nat → Reading (Option Char)
  | 0 => return none
  | n + 1 => do
    match ← nextJoined with
    | some ' ' | some '\t' => skipBlanks n
    | some '#' =>
      modify fun r => { r with rest := r.rest.dropWhile (· ≠ '\n') }
      skipBlanks n
    | c => return c

/-- The next token, or the last one if it was pushed back; keywords and aliases are words. -/
def rawToken (g : Grammar) : Reading Token := do
  let r ← get
  if r.pushedBack then
    set { r with pushedBack := false }
    return r.token
  let next ← skipBlanks (r.rest.length + 1)
  if !r.inUse.isEmpty then leaveBlanks r.rest.length
  match next with
  | none => found .endOfScript
  | some '\n' =>
    nextLine
    found .newline
  | some '&' => found (if ← accept '&' then .both else .background)
  | some '|' => found (if ← accept '|' then .either else .pipe)
  | some ';' => found (if ← accept ';' then .endOfBranch else .semicolon)
  | some '(' => found .openParen
  | some ')' => found .closeParen
  | c => readWord g c

/-- Passes over line ends, no more than `n`. -/
def skipNewlines (g : Grammar) : Nat → Token → Reading Token
  | 0, t => return t
  | n + 1, t => do
    if t ≠ .newline then return t
    readDocuments g
    modify fun r => { r with checks := .none }
    skipNewlines g n (← rawToken g)

/-- Puts the text of an alias in the place of its name. -/
def replaceAlias (name value : List Char) : Reading Unit := do
  modify fun r =>
    { r with
      inUse := ⟨name, r.rest.length, value.getLast?.any fun c => c = ' ' || c = '\t'⟩ :: r.inUse
      rest := value ++ r.rest }

/-- The next token. No more than `n` aliases are replaced on the way to it. -/
def tokenWith (g : Grammar) (checks : Checks) : Nat → Reading Token
  | 0 => rawToken g
  | n + 1 => do
    let t ← rawToken g
    let t ← if checks.newlines then skipNewlines g ((← get).rest.length + 1) t else pure t
    let more := (← get).checks
    let keywords := checks.keywords || more.keywords
    let aliases := checks.aliases || more.aliases
    modify fun r => { r with checks := .none }
    let r ← get
    if t ≠ .word || r.quoted then return t
    match r.word.text? with
    | none => return t
    | some text =>
      match if keywords then Token.ofKeyword? text else none with
      | some t => found t
      | none =>
        if !aliases || r.aliases.isEmpty then return t
        leaveAliases
        match r.aliases.lookup text with
        | none => return t
        | some value =>
          if (← get).inUse.any (·.name = text) then return t
          replaceAlias text value
          tokenWith g { checks with keywords, aliases } n

/-- The next token, as it counts where it stands. -/
def token (g : Grammar) : Reading Token := do tokenWith g (← get).checks 1000

def pushBack : Reading Unit := modify fun r => { r with pushedBack := true }

def check (checks : Checks) : Reading Unit := modify fun r => { r with checks }

/-- Reads a token that has to be there. -/
def expect (g : Grammar) (t : Token) : Reading Unit := do
  if (← token g) ≠ t then unexpected (some t)

end Reading

end TapeC.Script
