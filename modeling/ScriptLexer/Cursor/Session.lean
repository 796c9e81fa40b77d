import ScriptLexer.Cursor.Basic

/-!
# Sessions with a cursor

A session holds a cursor and a stack of saved cursors. It answers a sequence of
requests: some look at the text, one moves the cursor, one saves it, and one
goes back to the cursor that was saved last. All that can be done is done by the
operations of section 4.1 of the specification, on a cursor that is a value
(section 9), so a copy of it is a saved cursor.

Results:

* `run_append`: a session that answers requests one after the other may stop in
  between.
-/

namespace ScriptLexer

/-- What a session is asked. -/
inductive Request where
  /-- The character at the cursor. -/
  | current
  /-- The character behind it. -/
  | peek
  /-- Whether the text is at its end. -/
  | atEnd
  /-- The place of the cursor. -/
  | position
  /-- To move forward by so many characters. -/
  | advance (count : Nat)
  /-- The characters between two indices. -/
  | slice (start stop : Nat)
  /-- To save the cursor. -/
  | save
  /-- To go back to the cursor saved last. Nothing happens if there is none. -/
  | restore
deriving DecidableEq, Repr

/-- All that a cursor sees at its place. -/
structure Outlook where
  position : Nat
  current : Option Char
  next : Char
  atEnd : Bool
deriving DecidableEq, Repr

/-- What the cursor sees. -/
def Cursor.outlook (c : Cursor) : Outlook := ⟨c.position, c.current?, c.peek, c.atEnd⟩

/-- The answer to a request. -/
inductive Reply where
  | char? (c : Option Char)
  | char (c : Char)
  | flag (b : Bool)
  | number (n : Nat)
  | text (s : String)
  /-- The text has no such slice. -/
  | noSlice
  | outlook (o : Outlook)
deriving DecidableEq, Repr

/-- A cursor with the cursors saved before, the last one first. -/
structure Session where
  cursor : Cursor
  saved : List Cursor
deriving DecidableEq, Repr

namespace Session

/-- The session at the start of a text. -/
def ofString (text : String) : Session := ⟨.ofString text, []⟩

/-- What a request leaves behind. -/
def next (s : Session) : Request → Session
  | .advance count => { s with cursor := s.cursor.advanceBy count }
  | .save => { s with saved := s.cursor :: s.saved }
  | .restore =>
    match s.saved with
    | [] => s
    | cursor :: saved => ⟨cursor, saved⟩
  | _ => s

/-- The answer to a request. One that moves the cursor is answered with what the cursor
    sees then, and a save with the number of saved cursors. -/
def reply (s : Session) (r : Request) : Reply :=
  match r with
  | .current => .char? s.cursor.current?
  | .peek => .char s.cursor.peek
  | .atEnd => .flag s.cursor.atEnd
  | .position => .number s.cursor.position
  | .advance _ => .outlook (s.next r).cursor.outlook
  | .slice start stop =>
    match s.cursor.slice? start stop with
    | some text => .text text
    | none => .noSlice
  | .save => .number (s.next r).saved.length
  | .restore => .outlook (s.next r).cursor.outlook

/-- The session after a sequence of requests. -/
def run (s : Session) (rs : List Request) : Session := rs.foldl next s

/-- The answers to a sequence of requests. -/
def replies (s : Session) : List Request → List Reply
  | [] => []
  | r :: rs => s.reply r :: (s.next r).replies rs

@[simp] theorem run_nil (s : Session) : s.run [] = s := rfl

@[simp] theorem run_cons (s : Session) (r : Request) (rs : List Request) :
    s.run (r :: rs) = (s.next r).run rs := rfl

theorem next_restore_of_nil {s : Session} (h : s.saved = []) : s.next .restore = s := by
  rw [next, h]

theorem next_restore_of_cons {s : Session} {c : Cursor} {saved : List Cursor}
    (h : s.saved = c :: saved) : s.next .restore = ⟨c, saved⟩ := by
  rw [next, h]

theorem run_append (s : Session) (rs qs : List Request) : s.run (rs ++ qs) = (s.run rs).run qs :=
  List.foldl_append

end Session

end ScriptLexer
