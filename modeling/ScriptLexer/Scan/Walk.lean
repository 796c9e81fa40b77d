import ScriptLexer.Cursor.Basic
import ScriptLexer.Scan.Basic

/-!
# Walks of a cursor

A walk leads a cursor through a source, from the first character to the place
behind the last one, and reads the tokens on the way. The reader of a token
finds the cursor on the first character of the token and leaves it on the last
one.

Each thing that is done is a step of the walk, with the place of the cursor
when it was done. So the steps tell whether the cursor stayed in its text. A
walk gives up where a slice does not exist, and where a loop has tested its
condition more often than it was allowed to.

The functions named below are those of the scanner. The specification describes
the cursor in section 4.1, the choice of a reader in 4.2, the readers of literals,
numbers and words in 4.3 to 4.5, the outer loop in 4.6, and the reports in 10.4.
-/

namespace ScriptLexer

open ScriptLexer.Unicode

/-- Why a walk ends before the end of its source. -/
inductive Halt where
  /-- The literal opened at `offset` is not closed. -/
  | unclosed (offset : Nat)
  /-- The source does not have a slice that was asked for. -/
  | noSlice
  /-- A loop has used up its tests. -/
  | interrupted
deriving DecidableEq, Repr

/-- What is done in a walk. -/
inductive Act where
  /-- The loop over the source starts again. -/
  | turn
  /-- The cursor looks at the character behind its place. -/
  | peek
  /-- The cursor moves forward. -/
  | advance
  /-- The characters between two indices are taken. -/
  | slice (start stop : Nat)
  /-- A token has been read. Its reader found the cursor at `start`. -/
  | finish (start : Nat) (token : Token)
  /-- The reader that found the cursor at `start` has given up. -/
  | fail (start : Nat) (halt : Halt)
  /-- An event is reported. -/
  | report (event : Event)
deriving DecidableEq, Repr

/-- What was done, and where the cursor stood then. -/
structure Step where
  position : Nat
  act : Act
deriving DecidableEq, Repr

/-- A cursor on its way, with the steps so far, the latest first. -/
structure Walk where
  cursor : Cursor
  steps : List Step
deriving DecidableEq, Repr

namespace Walk

/-- The start of a walk through a text. -/
def ofString (text : String) : Walk := ⟨.ofString text, []⟩

/-- The walk after one more step, which leaves the cursor where it is. -/
def note (w : Walk) (act : Act) : Walk := { w with steps := ⟨w.cursor.position, act⟩ :: w.steps }

/-- The walk after the cursor has moved forward. -/
def advance (w : Walk) : Walk := { w.note .advance with cursor := w.cursor.advance }

end Walk

/-- Something to be done in a walk, which may end it. -/
abbrev Walker := EStateM Halt Walk

namespace Walker

/-! ## Single steps -/

/-- The cursor, to look at it without a step. -/
def cursor : Walker Cursor := return (← get).cursor

def note (act : Act) : Walker Unit := modify (·.note act)

def advance : Walker Unit := modify Walk.advance

def peek : Walker Char := do
  note .peek
  return (← cursor).peek

def slice (start stop : Nat) : Walker String := do
  note (.slice start stop)
  match (← cursor).slice? start stop with
  | some text => return text
  | none => throw .noSlice

/-! ## Loops

The number says how often a loop may test its condition. -/

/-- Moves forward as long as the next character has the property: the loops of `scan_number` and
    `scan_identifier`. -/
def advanceWhile (p : Char → Bool) : Nat → Walker Unit
  | 0 => throw .interrupted
  | fuel + 1 => do
    if p (← peek) then
      advance
      advanceWhile p fuel

/-- Moves forward to the next quote: the loop of `scan_string`. The literal was opened at
    `start`. Section 4.3 asks to fail as soon as the source ends. -/
def advanceToQuote (start : Nat) : Nat → Walker Unit
  | 0 => throw .interrupted
  | fuel + 1 => do
    advance
    if (← cursor).atEnd then
      note (.report (.unterminatedString start))
      throw (.unclosed start)
    else if (← cursor).current? = some '"' then
      return ()
    else
      advanceToQuote start fuel

/-! ## One reader for each lead -/

/-- Reads an arithmetic operator (`scan_arithmetic`, section 4.2). -/
def arithmetic (doubled : Kind) (c : Char) : Walker Token := do
  let next ← peek
  if next = c then
    advance
    return .ofChars doubled [c, c]
  else if next = '=' then
    advance
    return .ofChars .compoundOp [c, '=']
  else
    return .ofChars .binaryOp [c]

/-- Reads a token that an equals sign turns into another one (`scan_with_equals`, section 4.2). -/
def comparison (joined bare : Kind) (c : Char) : Walker Token := do
  if (← peek) = '=' then
    advance
    return .ofChars joined [c, '=']
  else
    return .ofChars bare [c]

/-- Reads a string literal (`scan_string`, section 4.3). -/
def literal : Walker Token := do
  let start := (← cursor).position
  advanceToQuote start (← cursor).text.size
  return ⟨.string, ← slice (start + 1) (← cursor).position⟩

/-- Reads a number (`scan_number`, section 4.4). -/
def number : Walker Token := do
  let start := (← cursor).position
  advanceWhile isDigit (← cursor).text.size
  return ⟨.number, ← slice start ((← cursor).position + 1)⟩

/-- Reads a word, first its letters and then what else belongs to it (`scan_identifier`,
    section 4.5). -/
def word : Walker Token := do
  let start := (← cursor).position
  advanceWhile isLetter (← cursor).text.size
  advanceWhile isWord (← cursor).text.size
  let lexeme ← slice start ((← cursor).position + 1)
  return ⟨Token.wordKind lexeme, lexeme⟩

/-! ## Any token, and all of them -/

/-- Reads the token at the cursor (`next_token`, section 4.2). -/
def read : Walker Token := do
  match (← cursor).current? with
  | none => return .endOfInput
  | some c =>
    match Lead.of c with
    | .mark kind => return .ofChars kind [c]
    | .arithmetic doubled => arithmetic doubled c
    | .comparison joined bare => comparison joined bare c
    | .quote => literal
    | .digit => number
    | .letter => word

/-- Reads the token at the cursor and notes how that ended. -/
def token : Walker Token := fun w =>
  match read w with
  | .ok t w' => .ok t (w'.note (.finish w.cursor.position t))
  | .error halt w' => .error halt (w'.note (.fail w.cursor.position halt))

/-- Reports an unrecognized token at the place of the cursor (section 10.4). -/
def report (t : Token) : Walker Unit := do
  if t.kind = .unrecognized then
    note (.report (.unrecognized t.lexeme (← cursor).position))

/-- Reads what is left of the source, behind `count` tokens: the loop of `tokenize`
    (section 4.6). A space is left out. -/
def tokens : Nat → Nat → Walker (List Token)
  | 0, _ => throw .interrupted
  | fuel + 1, count => do
    note .turn
    match (← cursor).current? with
    | none =>
      note (.report (.finished (← cursor).text.size (count + 1)))
      return [.endOfInput]
    | some c =>
      if isBlank c then
        advance
        tokens fuel count
      else
        let t ← token
        if t.kind = .space then
          advance
          tokens fuel count
        else
          report t
          advance
          return t :: (← tokens fuel (count + 1))

end Walker

/-- The walk through a source, with the stream of its tokens unless it ends early. The
    loop over the source may test once for each character, and once more at the end. -/
def walk (source : String) : EStateM.Result Halt Walk (List Token) :=
  Walker.tokens (source.length + 1) 0 (.ofString source)

end ScriptLexer
