import ScriptLexer.Text.Quoted
import ScriptLexer.Token.Kind

/-!
# Tokens

A token is a kind and the text it was read from, the lexeme. The lexeme of a
string literal is the text between its quotes; of every other token it is all
that the token occupies in the source (specification, section 3).

Results:

* `source_of_ne_string`, `source_of_string`: what a token occupies in a source.
-/

namespace ScriptLexer

/-- A kind with the text it was read from. -/
structure Token where
  kind : Kind
  lexeme : String
deriving DecidableEq, Repr

namespace Token

/-- The sentinel that closes a stream. -/
def endOfInput : Token := ⟨.endOfInput, ""⟩

/-- Whether the token is of the sentinel's kind, whatever its lexeme. -/
def isEndOfInput (t : Token) : Bool := t.kind == .endOfInput

/-- The token of the given kind whose lexeme consists of the given characters. -/
def ofChars (kind : Kind) (cs : List Char) : Token := ⟨kind, .ofList cs⟩

@[simp] theorem kind_ofChars (kind : Kind) (cs : List Char) : (ofChars kind cs).kind = kind := rfl

@[simp] theorem toList_lexeme_ofChars (kind : Kind) (cs : List Char) :
    (ofChars kind cs).lexeme.toList = cs := String.toList_ofList

theorem ofChars_toList_lexeme (t : Token) : ofChars t.kind t.lexeme.toList = t := by
  rw [ofChars, String.ofList_toList]

/-! ## The place in a source -/

/-- The characters that the token occupies in a source: its lexeme, with the two
    quotes around it for a string literal. -/
def source (t : Token) : List Char :=
  if t.kind = .string then '"' :: (t.lexeme.toList ++ ['"']) else t.lexeme.toList

theorem source_of_ne_string {t : Token} (h : t.kind ≠ .string) : t.source = t.lexeme.toList :=
  if_neg h

theorem source_of_string {t : Token} (h : t.kind = .string) :
    t.source = '"' :: (t.lexeme.toList ++ ['"']) := if_pos h

theorem source_string (cs : List Char) :
    (ofChars .string cs).source = '"' :: (cs ++ ['"']) := by
  rw [source_of_string (kind_ofChars _ _), toList_lexeme_ofChars]

theorem source_ofChars {kind : Kind} {cs : List Char} (h : kind ≠ .string) :
    (ofChars kind cs).source = cs := by
  rw [source_of_ne_string h, toList_lexeme_ofChars]

/-! ## Written forms -/

/-- The token's text: its lexeme in quotes, so that every character can be read off
    the page (specification, section 10.6). -/
def text (t : Token) : String := Text.quoted t.lexeme

/-- The token as a record of its two parts. -/
def record (t : Token) : String :=
  let kind :=
    match t.kind with
    | .keyword word => "Keyword(" ++ word.name ++ ")"
    | kind => kind.name
  "Token \x7b token_type: " ++ kind ++ ", lexeme: " ++ t.text ++ " \x7d"

end Token

end ScriptLexer
