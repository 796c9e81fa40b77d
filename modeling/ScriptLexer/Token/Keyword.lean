/-!
# Reserved words

The sixteen words that a script cannot use as names. A word is reserved only in
its exact spelling: all letters are lowercase, and a longer word that contains
it is a name. They are the keyword table of section 10.2 of the specification.

Results:

* `ofSpelling?_eq_some_iff`: looking up a word finds a keyword exactly when the
  word is its spelling.
* `ofSpelling?_eq_none_iff`: it finds none exactly when the word is nobody's
  spelling.
-/

namespace ScriptLexer

/-- A reserved word. -/
inductive Keyword where
  | letKw
  | constKw
  | fnKw
  | returnKw
  | ifKw
  | elseKw
  | whileKw
  | echoKw
  | skipKw
  | haltKw
  | trueKw
  | falseKw
  | undefKw
  | andKw
  | orKw
  | notKw
deriving DecidableEq, Repr

namespace Keyword

/-- Every keyword once, in the order in which they are listed (`ALL`). -/
def all : List Keyword :=
  [letKw, constKw, fnKw, returnKw, ifKw, elseKw, whileKw, echoKw, skipKw, haltKw, trueKw,
    falseKw, undefKw, andKw, orKw, notKw]

/-- The word itself, as a script spells it. -/
def spelling : Keyword → String
  | letKw => "let"
  | constKw => "const"
  | fnKw => "fn"
  | returnKw => "return"
  | ifKw => "if"
  | elseKw => "else"
  | whileKw => "while"
  | echoKw => "echo"
  | skipKw => "skip"
  | haltKw => "halt"
  | trueKw => "true"
  | falseKw => "false"
  | undefKw => "undef"
  | andKw => "and"
  | orKw => "or"
  | notKw => "not"

/-- The name under which listings and reports show the keyword. -/
def name : Keyword → String
  | letKw => "Let"
  | constKw => "Const"
  | fnKw => "Fn"
  | returnKw => "Return"
  | ifKw => "If"
  | elseKw => "Else"
  | whileKw => "While"
  | echoKw => "Echo"
  | skipKw => "Skip"
  | haltKw => "Halt"
  | trueKw => "True"
  | falseKw => "False"
  | undefKw => "Undef"
  | andKw => "And"
  | orKw => "Or"
  | notKw => "Not"

/-- The keyword that a word spells (`lookup`). -/
def ofSpelling? (word : String) : Option Keyword := all.find? fun k => k.spelling == word

/-! ## Lookup inverts the spelling -/

theorem mem_all (k : Keyword) : k ∈ all := by cases k <;> decide

theorem spelling_injective {j k : Keyword} (h : j.spelling = k.spelling) : j = k := by
  revert h
  cases j <;> cases k <;> decide

theorem ofSpelling?_eq_some_iff {word : String} {k : Keyword} :
    ofSpelling? word = some k ↔ word = k.spelling := by
  constructor
  · intro h
    have hk := List.find?_some h
    exact (eq_of_beq hk).symm
  · rintro rfl
    rcases h : ofSpelling? k.spelling with _ | j
    · exact absurd (beq_self_eq_true k.spelling) (List.find?_eq_none.mp h k (mem_all k))
    · have hj := List.find?_some h
      rw [spelling_injective (eq_of_beq hj)]

theorem ofSpelling?_spelling (k : Keyword) : ofSpelling? k.spelling = some k :=
  ofSpelling?_eq_some_iff.mpr rfl

theorem ofSpelling?_eq_none_iff {word : String} :
    ofSpelling? word = none ↔ ∀ k : Keyword, word ≠ k.spelling := by
  constructor
  · rintro h k rfl
    rw [ofSpelling?_spelling] at h
    exact Option.some_ne_none k h
  · intro h
    rcases hw : ofSpelling? word with _ | k
    · rfl
    · exact absurd (ofSpelling?_eq_some_iff.mp hw) (h k)

end Keyword

end ScriptLexer
