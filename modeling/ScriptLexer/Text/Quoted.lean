import ScriptLexer.Text.Hexadecimal
import ScriptLexer.Unicode.Unprintable

/-!
# Quoted text

Quoted text stands between two double quotes and fits on one line. Each
character is written on its own, whatever its neighbours are, in one of three
ways: as itself, as a backslash and a letter, or as a backslash, `u` and its
code point in braces. An apostrophe is written as itself. The specification asks
for a lexeme "in double quotes, escaped" (section 10.6).

Results:

* `escaped_cons`, `escaped_append`: the body of quoted text is the concatenation
  of its characters' escapes.
-/

namespace ScriptLexer.Text

open ScriptLexer.Unicode

/-! ## One character -/

/-- The written form of a character in quoted text. -/
inductive Escape where
  /-- The character itself. -/
  | plain (c : Char)
  /-- A backslash and a letter. -/
  | short (letter : Char)
  /-- A backslash, `u`, and the code point in braces. -/
  | codePoint (point : Nat)
deriving DecidableEq, Repr

namespace Escape

/-- The form of a character: six have a short form, those that do not print go by
    their code point, and all others stand for themselves. -/
def of (c : Char) : Escape :=
  match c with
  | '\x00' => short '0'
  | '\t' => short 't'
  | '\n' => short 'n'
  | '\r' => short 'r'
  | '"' => short '"'
  | '\\' => short '\\'
  | c => if isUnprintable c then codePoint c.toNat else plain c

/-- The characters of a form. A code point is written in lowercase hexadecimal
    digits without leading zeros. -/
def chars : Escape → List Char
  | plain c => [c]
  | short letter => ['\\', letter]
  | codePoint point => '\\' :: 'u' :: '{' :: (Hexadecimal.digits point ++ ['}'])

/-- The name of the form, whatever the character. -/
def label : Escape → String
  | plain _ => "plain"
  | short _ => "backslash"
  | codePoint _ => "unicode"

end Escape

/-! ## A whole text -/

/-- The escapes of a text, one after the other. -/
def escaped (cs : List Char) : List Char := cs.flatMap fun c => (Escape.of c).chars

@[simp] theorem escaped_nil : escaped [] = [] := rfl

@[simp] theorem escaped_cons (c : Char) (cs : List Char) :
    escaped (c :: cs) = (Escape.of c).chars ++ escaped cs := List.flatMap_cons

@[simp] theorem escaped_append (cs ds : List Char) :
    escaped (cs ++ ds) = escaped cs ++ escaped ds := List.flatMap_append

/-- The text between double quotes, with its characters escaped. -/
def quoted (text : String) : String := .ofList ('"' :: (escaped text.toList ++ ['"']))

theorem toList_quoted (text : String) :
    (quoted text).toList = '"' :: (escaped text.toList ++ ['"']) := String.toList_ofList

end ScriptLexer.Text
