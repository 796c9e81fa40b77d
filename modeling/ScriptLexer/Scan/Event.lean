import ScriptLexer.Scan.Error

/-!
# Events of a scan

A scan reports what it meets while it runs: each unrecognized character at the
trace level, and the way it ends at the debug level (specification, section 10.4).
-/

namespace ScriptLexer

/-- How detailed a report has to be to show an event. -/
inductive Level where
  | trace
  | debug
deriving DecidableEq, Repr

/-- The name under which a report shows the level. -/
def Level.name : Level → String
  | trace => "TRACE"
  | debug => "DEBUG"

/-- Something that a scan reports. -/
inductive Event where
  /-- A character that starts no token, with its index in the source. -/
  | unrecognized (lexeme : String) (offset : Nat)
  /-- The scan gives up: the literal opened at `offset` is not closed. -/
  | unterminatedString (offset : Nat)
  /-- The scan is complete. It has read `chars` characters, and its stream holds
      `tokens` tokens with the sentinel. -/
  | finished (chars tokens : Nat)
deriving DecidableEq, Repr

namespace Event

def level : Event → Level
  | unrecognized _ _ => .trace
  | unterminatedString _ => .debug
  | finished _ _ => .debug

/-- What the event says, apart from its data. -/
def message : Event → String
  | unrecognized _ _ => "unrecognized character"
  | unterminatedString offset => (ScanError.unterminatedString offset).detail
  | finished _ _ => "tokenized source"

end Event

end ScriptLexer
