import ScriptLexer.Text.Field
import ScriptLexer.Token.Basic

/-!
# Listings

A listing shows a stream of tokens with one line for each: the name of the kind
in a column of sixteen characters, a space, and the token's text. This is the
debug dump of section 10.6 of the specification.

**Deviations from the specification.** Section 6 calls the name left-padded; it
stands at the left of its column, with the padding behind it, as section 10.6
says. Section 10.8 says that the dump reports positions; a line shows none.

Results:

* `listingChars_append`: the listing of two streams in a row is one listing
  after the other.
-/

namespace ScriptLexer

namespace Token

/-- The column of the kinds' names (section 10.6). -/
def nameColumn : Text.Field := .column 16

/-- The line of a token in a listing, with the line feed that ends it (`TokenDump`, one token). -/
def line (t : Token) : List Char :=
  (nameColumn.write t.kind.name).toList ++ ' ' :: (t.text.toList ++ ['\n'])

/-- The lines of the tokens, one after the other. -/
def listingChars (ts : List Token) : List Char := ts.flatMap line

@[simp] theorem listingChars_nil : listingChars [] = [] := rfl

@[simp] theorem listingChars_cons (t : Token) (ts : List Token) :
    listingChars (t :: ts) = t.line ++ listingChars ts := List.flatMap_cons

@[simp] theorem listingChars_append (ts us : List Token) :
    listingChars (ts ++ us) = listingChars ts ++ listingChars us := List.flatMap_append

/-- The listing of a stream of tokens (`dump`). -/
def listing (ts : List Token) : String := .ofList (listingChars ts)

end Token

end ScriptLexer
