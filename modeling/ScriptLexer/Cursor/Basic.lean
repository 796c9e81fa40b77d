/-!
# Cursors

A cursor is a place in a text. It looks at the character there and at the next
one, and it moves forward only. It may leave the text: behind the last
character it finds nothing, however far it goes.

The operations are those of the cursor in section 4.1 of the specification, and
`slice`, which takes characters by their indices.

**Deviation from the specification.** Section 4.1 promises that no operation
fails. A slice that starts behind the end of the text, or behind its own stop,
does not exist (`slice?_eq_none_iff`).

Results:

* `atEnd_iff`, `current?_eq_none_iff`: a cursor is at the end exactly when
  there is no character at its place.
* `peek_eq`: looking ahead sees what the next place holds.
* `advanceBy_zero`, `advanceBy_succ`: a move by a count is so many single moves.
* `current?_eq_head?`, `peek_of_rest`, `rest_advance`: what a cursor sees and
  does, told by the characters that are left before it.
* `slice?_eq_none_iff`: the slices that a text does not have.
-/

namespace ScriptLexer

/-- A place in a text (`Cursor`, section 4.1). -/
structure Cursor where
  /-- The characters of the whole text. -/
  text : Array Char
  /-- The number of characters before the place, the ones missing behind the end of
      the text included. -/
  position : Nat
deriving DecidableEq, Repr

namespace Cursor

/-- The cursor at the start of a text. -/
def ofString (text : String) : Cursor := ⟨text.toList.toArray, 0⟩

/-- The character at the place, if the text goes so far (`current_char`). -/
def current? (c : Cursor) : Option Char := c.text[c.position]?

/-- What a look ahead sees where the text has no character (`EOF_CHAR`, the sentinel character of
    section 4.1). -/
def endMark : Char := '\x00'

/-- The character behind the current one, or the end mark (`peek`). -/
def peek (c : Cursor) : Char := c.text[c.position + 1]?.getD endMark

/-- Whether the text has no character at the place (`is_eof`). -/
def atEnd (c : Cursor) : Bool := decide (c.text.size ≤ c.position)

/-- The cursor one place further (`advance`). -/
def advance (c : Cursor) : Cursor := { c with position := c.position + 1 }

/-- The cursor `count` places further. -/
def advanceBy (c : Cursor) (count : Nat) : Cursor := { c with position := c.position + count }

/-- The characters from the index `start` up to the index `stop`, which is not included
    and counts as the end of the text if it lies behind it (`slice`). There are none if the
    start lies behind the stop; the place of the cursor plays no part. -/
def slice? (c : Cursor) (start stop : Nat) : Option String :=
  if start ≤ min stop c.text.size then
    some (.ofList (c.text.extract start (min stop c.text.size)).toList)
  else none

/-! ## What a cursor sees -/

@[simp] theorem text_advanceBy (c : Cursor) (count : Nat) : (c.advanceBy count).text = c.text := rfl

@[simp] theorem position_advanceBy (c : Cursor) (count : Nat) :
    (c.advanceBy count).position = c.position + count := rfl

theorem advanceBy_zero (c : Cursor) : c.advanceBy 0 = c := rfl

theorem advanceBy_succ (c : Cursor) (count : Nat) :
    c.advanceBy (count + 1) = (c.advanceBy count).advance := rfl

theorem atEnd_iff {c : Cursor} : c.atEnd = true ↔ c.text.size ≤ c.position := decide_eq_true_iff

theorem current?_eq_none_iff {c : Cursor} : c.current? = none ↔ c.text.size ≤ c.position :=
  Array.getElem?_eq_none_iff

theorem peek_eq (c : Cursor) : c.peek = c.advance.current?.getD endMark := rfl

/-- The characters from the place of the cursor on. -/
def rest (c : Cursor) : List Char := c.text.toList.drop c.position

theorem current?_eq_head? (c : Cursor) : c.current? = c.rest.head? := by
  rw [current?, rest, List.head?_drop, Array.getElem?_toList]

theorem length_rest (c : Cursor) : c.rest.length = c.text.size - c.position := by
  rw [rest, List.length_drop, Array.length_toList]

theorem rest_advance {c : Cursor} {d : Char} {after : List Char} (h : c.rest = d :: after) :
    c.advance.rest = after := by
  have hdrop : c.advance.rest = c.rest.drop 1 := (List.drop_drop (l := c.text.toList)).symm
  rw [hdrop, h, List.drop_one, List.tail_cons]

theorem peek_of_rest {c : Cursor} {d : Char} {after : List Char} (h : c.rest = d :: after) :
    c.peek = after.head?.getD endMark := by
  rw [peek_eq, current?_eq_head?, rest_advance h]

theorem slice?_of_le {c : Cursor} {start stop : Nat} (h : start ≤ stop) (hs : stop ≤ c.text.size) :
    c.slice? start stop = some (.ofList ((c.text.toList.drop start).take (stop - start))) := by
  rw [slice?, Nat.min_eq_left hs, if_pos h, Array.toList_extract, List.extract_eq_take_drop]

theorem slice?_eq_none_iff {c : Cursor} {start stop : Nat} :
    c.slice? start stop = none ↔ min stop c.text.size < start := by
  rw [slice?]
  split
  · next h => exact ⟨fun hn => absurd hn (Option.some_ne_none _), fun hl => by omega⟩
  · next h => exact ⟨fun _ => by omega, fun _ => rfl⟩

end Cursor

end ScriptLexer
