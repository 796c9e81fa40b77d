/-!
# Why a scan fails

There is one cause: a string literal that is not closed. All else that a source
may hold becomes a token (specification, sections 7 and 10.3).
-/

namespace ScriptLexer

/-- The cause of a failed scan (`KiteError`, section 10.3). -/
inductive ScanError where
  /-- A string literal without its closing quote. `offset` is the index of the opening
      quote among the characters of the source. -/
  | unterminatedString (offset : Nat)
deriving DecidableEq, Repr

namespace ScanError

/-- The index of the character at which the cause lies. -/
def offset : ScanError → Nat
  | unterminatedString offset => offset

/-- The family of errors to which the cause belongs (`kind`). -/
def category : ScanError → String
  | unterminatedString _ => "Lexer Error"

/-- The cause alone, without its place (`message`). -/
def detail : ScanError → String
  | unterminatedString _ => "unterminated string literal"

/-- The cause with its family and its place. -/
def message (e : ScanError) : String :=
  e.category ++ ": " ++ e.detail ++ " starting at offset " ++ e.offset.repr

end ScanError

end ScriptLexer
