import ScriptLexer.Token.Keyword

/-!
# Kinds of tokens

What a token is, apart from the text it was read from. `space` belongs to the
vocabulary of kinds although no scan produces it; `endOfInput` closes every
stream, and `unrecognized` marks a character that starts no other token. The
vocabulary is that of section 6 of the specification (`TokenType`).

Results:

* `ofName?_eq_some_iff`: the kinds have different names, and a name is found
  exactly when it belongs to a kind.
-/

namespace ScriptLexer

/-- The kind of a token. -/
inductive Kind where
  | leftParen
  | rightParen
  | leftBrace
  | rightBrace
  | comma
  | semicolon
  /-- `+ - * ** / % & | ^`. -/
  | binaryOp
  /-- `+= -= *=`. -/
  | compoundOp
  /-- The doubled plus `++`. -/
  | increment
  /-- The doubled minus, two hyphens. -/
  | decrement
  | notEqual
  | lessThan
  | lessOrEqual
  | greaterThan
  | greaterOrEqual
  | equality
  | assignment
  /-- A string literal. -/
  | string
  | number
  | identifier
  | space
  | endOfInput
  | unrecognized
  /-- A reserved word. -/
  | keyword (word : Keyword)
deriving DecidableEq, Repr

namespace Kind

/-- The name under which listings and reports show the kind. A reserved word goes by
    its own name (specification, section 10.6). -/
def name : Kind → String
  | leftParen => "LeftParen"
  | rightParen => "RightParen"
  | leftBrace => "LeftBrace"
  | rightBrace => "RightBrace"
  | comma => "Comma"
  | semicolon => "SemiColon"
  | binaryOp => "BinaryOp"
  | compoundOp => "CompoundBinOp"
  | increment => "Inc"
  | decrement => "Dec"
  | notEqual => "NotEqual"
  | lessThan => "LessThan"
  | lessOrEqual => "LessThanEq"
  | greaterThan => "GreaterThan"
  | greaterOrEqual => "GreaterThanEq"
  | equality => "Equality"
  | assignment => "Assignment"
  | string => "String"
  | number => "Number"
  | identifier => "Identifier"
  | space => "Space"
  | endOfInput => "EndOfInput"
  | unrecognized => "Unrecognized"
  | keyword word => word.name

/-- Every kind once; the reserved words come last, in their own order. -/
def all : List Kind :=
  [leftParen, rightParen, leftBrace, rightBrace, comma, semicolon, binaryOp, compoundOp, increment,
    decrement, notEqual, lessThan, lessOrEqual, greaterThan, greaterOrEqual, equality, assignment,
    string, number, identifier, space, endOfInput, unrecognized] ++ Keyword.all.map keyword

/-- The kind with the given name. -/
def ofName? (name : String) : Option Kind := all.find? fun k => k.name == name

/-- The reserved word that the kind stands for, if it is one. -/
def word? : Kind → Option Keyword
  | keyword word => some word
  | _ => none

/-! ## Names -/

theorem mem_all (k : Kind) : k ∈ all := by
  rcases k with _ | _ | _ | _ | _ | _ | _ | _ | _ | _ | _ | _ | _ | _ | _ | _ | _ | _ | _ | _ | _ |
    _ | _ | word
  case keyword =>
    exact List.mem_append_right _ (List.mem_map_of_mem (Keyword.mem_all word))
  all_goals exact List.mem_append_left _ (by decide)

/-- No two kinds have the same name. -/
theorem name_injective {j k : Kind} (h : j.name = k.name) : j = k := by
  have hall : (all.all fun j => all.all fun k => j.name != k.name || j == k) = true := by
    decide +kernel
  have hjk := List.all_eq_true.mp (List.all_eq_true.mp hall j (mem_all j)) k (mem_all k)
  rw [Bool.or_eq_true, bne_iff_ne, beq_iff_eq] at hjk
  exact hjk.resolve_left (not_not_intro h)

theorem ofName?_eq_some_iff {name : String} {k : Kind} : ofName? name = some k ↔ name = k.name := by
  constructor
  · intro h
    have hk := List.find?_some h
    exact (eq_of_beq hk).symm
  · rintro rfl
    rcases h : ofName? k.name with _ | j
    · exact absurd (beq_self_eq_true k.name) (List.find?_eq_none.mp h k (mem_all k))
    · have hj := List.find?_some h
      rw [name_injective (eq_of_beq hj)]

end Kind

end ScriptLexer
