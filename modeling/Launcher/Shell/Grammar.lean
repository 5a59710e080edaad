import Launcher.Shell.Source
/-!
How a script is read: one line of commands at a time, so that what stands before a mistake is still
carried out. Words are read together with the scripts inside of them. -/
namespace Launcher.Shell.Reader

/-- Where pieces are read, which decides what quotes them and what ends them. -/
inductive Setting where
  | bare
  | double
  /-- Between braces; quotes toggle `inner` where everything is quoted anyway. -/
  | braced (quoted inner : Bool)
  /-- Inside of so many parentheses of an expression. -/
  | expression (depth : Nat)
  | document

def Setting.endError : Setting → Option SyntaxError
  | .bare => none
  | .document => none
  | .double => some .unterminatedQuote
  | .braced true _ => some .unterminatedQuote
  | .braced false _ => some .missingBrace
  | .expression _ => some .missingParentheses

/-- Whether a backslash before the character stands for the character alone. -/
def Setting.escapes (s : Setting) (c : Char) : Bool :=
  if c = '$' ∨ c = '\x60' ∨ c = '\\' then true
  else
    match s with
    | .document => false
    | .braced _ _ => c == '\x22' || c == '\x7d'
    | _ => c == '\x22'

/-- The text between backquotes. A backslash before a backslash, a dollar sign or a backquote is
left out. -/
def backquotedText (quoted : Bool) : Nat → Bytes → Reader Bytes
  | 0, _ => fail .exhausted
  | fuel + 1, held => do
    match ← peek with
    | none => fail .endInBackquotes
    | some '\x60' =>
      drop
      return held.reverse
    | some '\\' =>
      drop
      match ← peekRaw with
      | none => fail .endInBackquotes
      | some c =>
        drop
        if c = '\\' ∨ c = '\x60' ∨ c = '$' ∨ (quoted ∧ c = '\x22') then
          backquotedText quoted fuel (c :: held)
        else backquotedText quoted fuel (c :: '\\' :: held)
    | some c =>
      drop
      backquotedText quoted fuel (c :: held)

/-- Whether the same sign comes once more. -/
def twice (c : Char) : Reader Bool := do
  drop
  accept c

/-- The operator of a redirection, of which the first sign has been looked at. -/
def redirectionOperator (first : Char) : Reader String := do
  drop
  if first = '>' then
    if ← accept '>' then return ">>"
    else if ← accept '&' then return ">&"
    else if ← accept '|' then return ">|"
    else return ">"
  else if ← accept '<' then
    if ← accept '-' then return "<<-" else return "<<"
  else if ← accept '&' then return "<&"
  else if ← accept '>' then return "<>"
  else return "<"

def unexpected (t : Token) (expected : Option String) : Reader α :=
  fail (.unexpected t.describe expected)

/-- The name between braces, and whether its length is asked for. -/
def bracedName : Reader (Bytes × Bool) := do
  match ← peek with
  | some '#' =>
    drop
    match ← peek with
    | some '\x7d' => return (['#'], false)
    | some c =>
      if isNameStart c then return (← name, true)
      else if c.isDigit then return (← takeWhile Char.isDigit (← remaining) [], true)
      else if isSpecial c then
        let s ← get
        if s.rest.drop 1 |>.head? |> (· == some '\x7d') then
          drop
          return ([c], true)
        else return (['#'], false)
      else return (['#'], false)
    | none => return (['#'], false)
  | some c =>
    if isNameStart c then return (← name, false)
    else if c.isDigit then return (← takeWhile Char.isDigit (← remaining) [], false)
    else if isSpecial c then
      drop
      return ([c], false)
    else return ([], false)
  | none => return ([], false)

def remedy? : Char → Option Remedy
  | '-' => some .replaced
  | '=' => some .assigned
  | '?' => some .refused
  | '+' => some .reversed
  | _ => none

mutual

/-- Pieces up to the end of the setting; those before come in reverse. -/
def pieces (fuel : Nat) (setting : Setting) (held : List Piece) : Reader Word :=
  match fuel with
  | 0 => fail .exhausted
  | fuel + 1 => do
    match ← peek with
    | none =>
      match setting.endError with
      | none => return held.reverse
      | some e => fail e
    | some c =>
      match setting with
      | .bare =>
        if isDelimiter c then return held.reverse
        else bareCharacter fuel setting held c
      | .braced false _ =>
        if c = '\x7d' then
          drop
          return held.reverse
        else bareCharacter fuel setting held c
      | .braced true inner =>
        if c = '\x7d' ∧ !inner then
          drop
          return held.reverse
        else if c = '\x22' then
          drop
          pieces fuel (.braced true (!inner)) held
        else quotedCharacter fuel setting held c
      | .double =>
        if c = '\x22' then
          drop
          return held.reverse
        else quotedCharacter fuel setting held c
      | .document => quotedCharacter fuel setting held c
      | .expression depth =>
        if c = '(' then
          drop
          pieces fuel (.expression (depth + 1)) (addChar c true held)
        else if c = ')' then
          drop
          if depth > 0 then pieces fuel (.expression (depth - 1)) (addChar c true held)
          else if ← accept ')' then return held.reverse
          else pieces fuel setting (addChar c true held)
        else if c = '\x22' then
          drop
          pieces fuel setting (addChar c true held)
        else quotedCharacter fuel setting held c

/-- Goes on with a character that nothing quotes. -/
def bareCharacter (fuel : Nat) (setting : Setting) (held : List Piece) (c : Char) : Reader Word :=
  match fuel with
  | 0 => fail .exhausted
  | fuel + 1 =>
    match c with
    | '\x27' => do
      drop
      let inside ← takeUntil '\x27' .unterminatedQuote
      pieces fuel setting (.text inside true :: held)
    | '\x22' => do
      drop
      let s ← get
      if s.rest.take 3 = ['$', '@', '\x22'] then
        set { s with rest := s.rest.drop 3 }
        pieces fuel setting (.parameter ['@'] .value true :: held)
      else
        let inside ← pieces fuel .double []
        pieces fuel setting (inside.reverse ++ .text [] true :: held)
    | '\\' => do
      drop
      match ← peekRaw with
      | none => pieces fuel setting (addChar '\\' true held)
      | some c =>
        drop
        pieces fuel setting (addChar c true held)
    | '$' => do
      drop
      let piece ← dollar fuel false
      pieces fuel setting (piece :: held)
    | '\x60' => do
      let piece ← backquoted fuel false
      pieces fuel setting (piece :: held)
    | c => do
      drop
      pieces fuel setting (addChar c false held)

/-- Goes on with a character between double quotes. -/
def quotedCharacter (fuel : Nat) (setting : Setting) (held : List Piece) (c : Char) : Reader Word :=
  match fuel with
  | 0 => fail .exhausted
  | fuel + 1 =>
    match c with
    | '\\' => do
      drop
      match ← peekRaw with
      | none => pieces fuel setting (addChar '\\' true held)
      | some c =>
        drop
        if setting.escapes c then pieces fuel setting (addChar c true held)
        else pieces fuel setting (addChar c true (addChar '\\' true held))
    | '$' => do
      drop
      let piece ← dollar fuel true
      pieces fuel setting (piece :: held)
    | '\x60' => do
      let piece ← backquoted fuel true
      pieces fuel setting (piece :: held)
    | c => do
      drop
      pieces fuel setting (addChar c true held)

/-- The piece after a dollar sign. -/
def dollar (fuel : Nat) (quoted : Bool) : Reader Piece :=
  match fuel with
  | 0 => fail .exhausted
  | fuel + 1 => do
    match ← peek with
    | some '(' =>
      drop
      if ← accept '(' then return .arithmetic (← pieces fuel (.expression 0) []) quoted
      else
        let outer := (← get).announced
        modify fun s => { s with announced := [] }
        let script ← list fuel true
        expectOperator fuel ")"
        modify fun s => { s with announced := outer }
        return .output script quoted
    | some '\x7b' =>
      drop
      braced fuel quoted
    | some c =>
      if isNameStart c then return .parameter (← name) .value quoted
      else if isSpecial c ∨ c.isDigit then
        drop
        return .parameter [c] .value quoted
      else return .text ['$'] quoted
    | none => return .text ['$'] quoted

/-- A parameter after the opening brace. -/
def braced (fuel : Nat) (quoted : Bool) : Reader Piece :=
  match fuel with
  | 0 => fail .exhausted
  | fuel + 1 => do
    let (name, length) ← bracedName
    let malformed : Reader Piece := do
      let _ ← pieces fuel (.braced quoted false) []
      return .parameter name .malformed quoted
    if name.isEmpty then malformed
    else if length then
      if ← accept '\x7d' then return .parameter name .length quoted else malformed
    else
      match ← peek with
      | some '\x7d' =>
        drop
        return .parameter name .value quoted
      | some c =>
        if c = '%' ∨ c = '#' then
          drop
          let longest ← accept c
          let pattern ← pieces fuel (.braced false false) []
          return .parameter name (.trimmed (c == '%') longest pattern) quoted
        else
          let forEmpty := c == ':'
          if forEmpty then drop
          match ← peek with
          | some '\x7d' =>
            drop
            return .parameter name .value quoted
          | some c =>
            match remedy? c with
            | some kind =>
              drop
              let word ← pieces fuel (.braced quoted false) []
              return .parameter name (.remedy kind forEmpty word) quoted
            | none => malformed
          | none => malformed
      | none => malformed

/-- A script between backquotes, which is read once its text is known. -/
def backquoted (fuel : Nat) (quoted : Bool) : Reader Piece :=
  match fuel with
  | 0 => fail .exhausted
  | fuel + 1 => do
    drop
    let line := (← get).line
    let text ← backquotedText quoted (← remaining) []
    let s ← get
    match (list fuel true).run { s with rest := text, line, ahead := none, announced := [] } with
    | .error e => throw e
    | .ok (script, t) =>
      set { s with documents := t.documents, nextDocument := t.nextDocument }
      return .output script quoted

/-- Reads the texts of the documents that were announced on the line before. -/
def readDocuments (fuel : Nat) (announced : List Announced) : Reader Unit :=
  match fuel, announced with
  | 0, _ => fail .exhausted
  | _, [] => modify fun s => { s with announced := [] }
  | fuel + 1, d :: rest => do
    let s ← get
    let (text, after) := cutDocument d (s.rest.length + 1) false s.rest
    let passed := s.rest.length - after.length
    set { s with rest := after, line := s.line + (s.rest.take passed).countP (· == '\n') }
    let word ←
      if d.literal then pure [.text text true]
      else
        let here ← get
        let inside := { here with rest := text, ahead := none, announced := [] }
        match (pieces fuel .document []).run inside with
        | .error e => throw e
        | .ok (word, t) =>
          set { here with documents := t.documents, nextDocument := t.nextDocument }
          pure word
    modify fun s => { s with documents := (d.number, word) :: s.documents }
    readDocuments fuel rest

def readToken (fuel : Nat) : Reader Token :=
  match fuel with
  | 0 => fail .exhausted
  | fuel + 1 => do
    match ← peek with
    | none => return .endOfText
    | some c =>
      match c with
      | ' ' | '\t' =>
        drop
        readToken fuel
      | '#' =>
        modify fun s => { s with rest := s.rest.dropWhile (· != '\n') }
        readToken fuel
      | '\n' =>
        drop
        readDocuments fuel (← get).announced
        return .newline
      | '&' => return .operator (if ← twice c then "&&" else "&")
      | '|' => return .operator (if ← twice c then "||" else "|")
      | ';' => return .operator (if ← twice c then ";;" else ";")
      | '(' =>
        drop
        return .operator "("
      | ')' =>
        drop
        return .operator ")"
      | '<' => return .redirection none (← redirectionOperator c)
      | '>' => return .redirection none (← redirectionOperator c)
      | _ =>
        let word ← pieces fuel .bare []
        let next ← peek
        match bareText? word, next with
        | some [d], some '<' =>
          if d.isDigit then
            return .redirection (some (d.toNat - '0'.toNat)) (← redirectionOperator '<')
          else return .word word
        | some [d], some '>' =>
          if d.isDigit then
            return .redirection (some (d.toNat - '0'.toNat)) (← redirectionOperator '>')
          else return .word word
        | _, _ => return .word word

/-- The next token, which stays. -/
def peekToken (fuel : Nat) : Reader Token :=
  match fuel with
  | 0 => fail .exhausted
  | fuel + 1 => do
    match (← get).ahead with
    | some t => return t
    | none =>
      let t ← readToken fuel
      modify fun s => { s with ahead := some t }
      return t

def takeToken (fuel : Nat) : Reader Token :=
  match fuel with
  | 0 => fail .exhausted
  | fuel + 1 => do
    let t ← peekToken fuel
    modify fun s => { s with ahead := none }
    return t

/-- The next token where a command may begin: a text may stand for its first word, but not within
itself. -/
def peekCommand (fuel : Nat) : Reader Token :=
  match fuel with
  | 0 => fail .exhausted
  | fuel + 1 => do
    let t ← peekToken fuel
    let s ← get
    match t.alias? s.aliases with
    | none => return t
    | some (name, text) =>
      let inside := s.replacing.filter fun r => decide (r.left ≤ s.rest.length)
      if inside.any fun r => r.name == name then return t
      else
        let goesOn := text.getLast?.any isBlankChar
        set { s with
          rest := text ++ s.rest
          ahead := none
          replacing := ⟨name, s.rest.length, goesOn⟩ :: inside }
        peekCommand fuel

/-- The next token after the first word of a command. It is looked at like the first one if it
follows a text that says so. -/
def peekArgument (fuel : Nat) : Reader Token :=
  match fuel with
  | 0 => fail .exhausted
  | fuel + 1 => do
    let before := (← get).rest.length
    let t ← peekToken fuel
    let s ← get
    let follows (r : Replacing) : Bool :=
      r.goesOn && decide (r.left ≤ before) && decide (s.rest.length < r.left)
    if s.replacing.any follows then peekCommand fuel else return t

def skipNewlines (fuel : Nat) : Reader Unit :=
  match fuel with
  | 0 => fail .exhausted
  | fuel + 1 => do
    match ← peekToken fuel with
    | .newline =>
      modify fun s => { s with ahead := none }
      skipNewlines fuel
    | _ => pure ()

def expectOperator (fuel : Nat) (text : String) : Reader Unit :=
  match fuel with
  | 0 => fail .exhausted
  | fuel + 1 => do
    match ← takeToken fuel with
    | .operator t => if t = text then pure () else unexpected (.operator t) (Token.quote text)
    | t => unexpected t (Token.quote text)

def expectKeyword (fuel : Nat) (text : String) : Reader Unit :=
  match fuel with
  | 0 => fail .exhausted
  | fuel + 1 => do
    let t ← takeToken fuel
    if t.keyword? = some text then pure () else unexpected t (Token.quote text)

/-- Whether the operator comes next; it is left behind then. -/
def acceptOperator (fuel : Nat) (text : String) : Reader Bool :=
  match fuel with
  | 0 => fail .exhausted
  | fuel + 1 => do
    match ← peekToken fuel with
    | .operator t =>
      if t = text then
        modify fun s => { s with ahead := none }
        return true
      else return false
    | _ => return false

/-- Whether the keyword comes next; it is left behind then. -/
def acceptKeyword (fuel : Nat) (text : String) : Reader Bool :=
  match fuel with
  | 0 => fail .exhausted
  | fuel + 1 => do
    if (← peekToken fuel).keyword? = some text then
      modify fun s => { s with ahead := none }
      return true
    else return false

def expectWord (fuel : Nat) : Reader Word :=
  match fuel with
  | 0 => fail .exhausted
  | fuel + 1 => do
    match ← takeToken fuel with
    | .word w => return w
    | t => unexpected t none

/-- Commands up to a token that ends them. -/
def list (fuel : Nat) (mayBeEmpty : Bool) : Reader Script :=
  match fuel with
  | 0 => fail .exhausted
  | fuel + 1 => do
    skipNewlines fuel
    let t ← peekToken fuel
    if t matches .endOfText then return .empty
    else if mayBeEmpty && t.endsList then return .empty
    else
      let line := (← get).line
      let first ← conditions fuel
      match ← peekToken fuel with
      | .newline =>
        let _ ← takeToken fuel
        return first.andThen (← list fuel true)
      | .operator ";" =>
        let _ ← takeToken fuel
        return first.andThen (← list fuel true)
      | .operator "&" =>
        let _ ← takeToken fuel
        return (first.behind line).andThen (← list fuel true)
      | _ => return first

/-- Commands up to the end of their line. -/
def commandLine (fuel : Nat) : Reader Script :=
  match fuel with
  | 0 => fail .exhausted
  | fuel + 1 => do
    let line := (← get).line
    let first ← conditions fuel
    let goOn (first : Script) : Reader Script := do
      match ← peekToken fuel with
      | .newline =>
        let _ ← takeToken fuel
        return first
      | .endOfText => return first
      | _ => return first.andThen (← commandLine fuel)
    match ← peekToken fuel with
    | .newline =>
      let _ ← takeToken fuel
      return first
    | .endOfText => return first
    | .operator ";" =>
      let _ ← takeToken fuel
      goOn first
    | .operator "&" =>
      let _ ← takeToken fuel
      goOn (first.behind line)
    | t => unexpected t none

def conditions (fuel : Nat) : Reader Script :=
  match fuel with
  | 0 => fail .exhausted
  | fuel + 1 => do
    let first ← pipeline fuel
    moreConditions fuel first

def moreConditions (fuel : Nat) (first : Script) : Reader Script :=
  match fuel with
  | 0 => fail .exhausted
  | fuel + 1 => do
    if ← acceptOperator fuel "&&" then
      skipNewlines fuel
      moreConditions fuel (.both first (← pipeline fuel))
    else if ← acceptOperator fuel "||" then
      skipNewlines fuel
      moreConditions fuel (.either first (← pipeline fuel))
    else return first

def pipeline (fuel : Nat) : Reader Script :=
  match fuel with
  | 0 => fail .exhausted
  | fuel + 1 => do
    let isNegated ← acceptKeyword fuel "!"
    let first ← command fuel
    let parts ← pipelineParts fuel [first]
    let whole := match parts with
      | [one] => one
      | parts => .pipeline parts false
    return if isNegated then .negated whole else whole

def pipelineParts (fuel : Nat) (held : List Script) : Reader (List Script) :=
  match fuel with
  | 0 => fail .exhausted
  | fuel + 1 => do
    if ← acceptOperator fuel "|" then
      skipNewlines fuel
      pipelineParts fuel ((← command fuel) :: held)
    else return held.reverse

def command (fuel : Nat) : Reader Script :=
  match fuel with
  | 0 => fail .exhausted
  | fuel + 1 => do
    let t ← peekCommand fuel
    let line := (← get).line
    match t with
    | .operator "(" =>
      let _ ← takeToken fuel
      let body ← list fuel false
      expectOperator fuel ")"
      return .subshell line body (← redirections fuel [])
    | .redirection _ _ => simple fuel line [] [] []
    | .word _ =>
      match t.keyword? with
      | none => simple fuel line [] [] []
      | some keyword =>
        let _ ← takeToken fuel
        let compound (s : Script) : Reader Script := do
          match ← redirections fuel [] with
          | [] => return s
          | rs => return .redirected line s rs
        match keyword with
        | "if" => compound (← branches fuel)
        | "while" => compound (← loop fuel false)
        | "until" => compound (← loop fuel true)
        | "for" => compound (← each fuel line)
        | "case" => compound (← choice fuel line)
        | "\x7b" =>
          let body ← list fuel false
          expectKeyword fuel "\x7d"
          compound body
        | _ => unexpected t none
    | t => unexpected t none

/-- A redirection after its operator. -/
def redirection (fuel : Nat) (stream : Option Nat) (operator : String) : Reader Redirection :=
  match fuel with
  | 0 => fail .exhausted
  | fuel + 1 => do
    match operator with
    | "<<" => return .document (stream.getD 0) (← announce false)
    | "<<-" => return .document (stream.getD 0) (← announce true)
    | _ =>
      let word ← expectWord fuel
      match operator with
      | "<" => return .file (stream.getD 0) .input word
      | "<>" => return .file (stream.getD 0) .both word
      | "<&" => return .file (stream.getD 0) .duplicate word
      | ">&" => return .file (stream.getD 1) .duplicate word
      | ">>" => return .file (stream.getD 1) .append word
      | ">|" => return .file (stream.getD 1) .replace word
      | _ => return .file (stream.getD 1) .output word

def redirections (fuel : Nat) (held : List Redirection) : Reader (List Redirection) :=
  match fuel with
  | 0 => fail .exhausted
  | fuel + 1 => do
    match ← peekToken fuel with
    | .redirection stream operator =>
      let _ ← takeToken fuel
      redirections fuel ((← redirection fuel stream operator) :: held)
    | _ => return held.reverse

/-- Assignments, words and redirections up to the next operator, or the definition of a function.
What has been read comes in reverse. -/
def simple (fuel line : Nat) (assignments : List (Bytes × Word)) (words : List Word)
    (redirected : List Redirection) : Reader Script :=
  match fuel with
  | 0 => fail .exhausted
  | fuel + 1 => do
    let finished : Script :=
      .command line assignments.reverse words.reverse redirected.reverse
    match ← if words.isEmpty then peekCommand fuel else peekArgument fuel with
    | .word w =>
      let _ ← takeToken fuel
      match words.isEmpty, assignment? w with
      | true, some a => simple fuel line (a :: assignments) words redirected
      | _, _ => simple fuel line assignments (w :: words) redirected
    | .redirection stream operator =>
      let _ ← takeToken fuel
      let r ← redirection fuel stream operator
      simple fuel line assignments words (r :: redirected)
    | .operator "(" =>
      match words, assignments, redirected with
      | [w], [], [] =>
        let _ ← takeToken fuel
        expectOperator fuel ")"
        let name := (bareText? w).getD []
        if !isName name ∨ specialCommands.contains (String.ofList name) then fail .badFunctionName
        else
          skipNewlines fuel
          return .define name (← command fuel)
      | _, _, _ => return finished
    | _ => return finished

/-- A conditional after its first word. -/
def branches (fuel : Nat) : Reader Script :=
  match fuel with
  | 0 => fail .exhausted
  | fuel + 1 => do
    let test ← list fuel false
    expectKeyword fuel "then"
    let yes ← list fuel false
    if ← acceptKeyword fuel "elif" then return .conditional test yes (← branches fuel)
    else if ← acceptKeyword fuel "else" then
      let no ← list fuel false
      expectKeyword fuel "fi"
      return .conditional test yes no
    else
      expectKeyword fuel "fi"
      return .conditional test yes .empty

def loop (fuel : Nat) (untilTrue : Bool) : Reader Script :=
  match fuel with
  | 0 => fail .exhausted
  | fuel + 1 => do
    let test ← list fuel false
    return .loop untilTrue test (← loopBody fuel)

def loopBody (fuel : Nat) : Reader Script :=
  match fuel with
  | 0 => fail .exhausted
  | fuel + 1 => do
    expectKeyword fuel "do"
    let body ← list fuel false
    expectKeyword fuel "done"
    return body

def each (fuel line : Nat) : Reader Script :=
  match fuel with
  | 0 => fail .exhausted
  | fuel + 1 => do
    match ← takeToken fuel with
    | .word w =>
      let name := (bareText? w).getD []
      if !isName name then fail .badLoopName
      else
        skipNewlines fuel
        if ← acceptKeyword fuel "in" then
          let words ← plainWords fuel []
          match ← takeToken fuel with
          | .newline => pure ()
          | .operator ";" => pure ()
          | t => unexpected t none
          skipNewlines fuel
          return .each line name words (← loopBody fuel)
        else
          let _ ← acceptOperator fuel ";"
          skipNewlines fuel
          return .each line name [[.parameter ['@'] .value true]] (← loopBody fuel)
    | _ => fail .badLoopName

def plainWords (fuel : Nat) (held : List Word) : Reader (List Word) :=
  match fuel with
  | 0 => fail .exhausted
  | fuel + 1 => do
    match ← peekToken fuel with
    | .word w =>
      let _ ← takeToken fuel
      plainWords fuel (w :: held)
    | _ => return held.reverse

def choice (fuel line : Nat) : Reader Script :=
  match fuel with
  | 0 => fail .exhausted
  | fuel + 1 => do
    let word ← expectWord fuel
    skipNewlines fuel
    expectKeyword fuel "in"
    return .choice line word (← choiceBranches fuel [])

def choiceBranches (fuel : Nat) (held : List (List Word × Script)) :
    Reader (List (List Word × Script)) :=
  match fuel with
  | 0 => fail .exhausted
  | fuel + 1 => do
    skipNewlines fuel
    if ← acceptKeyword fuel "esac" then return held.reverse
    else
      let _ ← acceptOperator fuel "("
      let first ← expectWord fuel
      let patterns ← alternatives fuel [first]
      expectOperator fuel ")"
      let body ← list fuel true
      skipNewlines fuel
      let held := (patterns, body) :: held
      if ← acceptKeyword fuel "esac" then return held.reverse
      else
        expectOperator fuel ";;"
        choiceBranches fuel held

def alternatives (fuel : Nat) (held : List Word) : Reader (List Word) :=
  match fuel with
  | 0 => fail .exhausted
  | fuel + 1 => do
    if ← acceptOperator fuel "|" then alternatives fuel ((← expectWord fuel) :: held)
    else return held.reverse

end

/-- What the beginning of a text holds. -/
inductive Reading where
  | nothing
  /-- A script that ends with its line, or with the text. -/
  | script (s : Script) (isLast : Bool) (rest : Source)
  | problem (p : Problem)

/-- Each nesting of a construct takes fewer calls than this for every character. -/
def fuelFor (s : Source) : Nat := 32 * (s.rest.length + 16)

/-- Reads one line of commands; lines without any are empty scripts. -/
def next (s : Source) : Reading :=
  let fuel := fuelFor s
  let line : Reader (Option Script) := do
    match ← peekToken fuel with
    | .endOfText => return none
    | .newline =>
      let _ ← takeToken fuel
      return some .empty
    | _ => return some (← commandLine fuel)
  match line.run s with
  | .error p => .problem p
  | .ok (none, _) => .nothing
  | .ok (some script, rest) => .script script (rest.ahead matches some .endOfText) rest

end Launcher.Shell.Reader

namespace Launcher.Shell

/-- A text that has not been read yet; documents are numbered from the given number. -/
def Source.ofText (text : Bytes) (line nextDocument : Nat) : Source where
  rest := text
  line := line
  ahead := none
  announced := []
  documents := []
  nextDocument := nextDocument
  aliases := []
  replacing := []

end Launcher.Shell
