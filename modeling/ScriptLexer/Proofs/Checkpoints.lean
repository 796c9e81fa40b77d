import Mathlib.Data.List.Infix
import ScriptLexer.Cursor.Session

/-!
# Checkpoints

A cursor that has been saved is a checkpoint: a session may go on from it later,
however far it has gone in the meantime. Requests change neither the text nor a
saved cursor. So each cursor of a session is an index into the one text, and the
index alone decides what it sees.

Results:

* `Session.Within.run`: a session keeps to its text, and the requests bound how
  far its cursors go.
* `Session.cursor_next_of_ne`: the requests that change the cursor.
* `Session.run_above`: requests that go back to no cursor but those saved on the
  way leave the older ones as they are.
* `Session.run_save_restore`: a save, balanced requests and a restore undo each other.
* `session_indexes_text`: the cursors of a session are indices into its text.
-/

namespace ScriptLexer

namespace Request

/-- How many places forward a request moves the cursor. -/
def stride : Request → Nat
  | .advance count => count
  | _ => 0

/-- How many places forward all requests together move the cursor. -/
def strides : List Request → Nat
  | [] => 0
  | r :: rs => r.stride + strides rs

/-- Requests that go back as often as they save, and at no time more often than they
    have saved by then. -/
structure Balanced (rs : List Request) : Prop where
  total : rs.count .restore = rs.count .save
  fronts : ∀ front, front <+: rs → front.count .restore ≤ front.count .save

instance : DecidablePred Balanced := fun rs =>
  decidable_of_iff
    (rs.count .restore = rs.count .save ∧
      ∀ front ∈ rs.inits, front.count .restore ≤ front.count .save)
    (by
      simp only [List.mem_inits]
      exact ⟨fun h => ⟨h.1, h.2⟩, fun h => ⟨h.total, h.fronts⟩⟩)

end Request

/-- What a text shows at an index. -/
def Outlook.ofIndex (cs : List Char) (i : Nat) : Outlook :=
  ⟨i, cs[i]?, cs[i + 1]?.getD Cursor.endMark, decide (cs.length ≤ i)⟩

namespace Cursor

variable {c : Cursor} {cs : List Char}

theorem outlook_eq (h : c.text = cs.toArray) : c.outlook = .ofIndex cs c.position := by
  simp only [outlook, Outlook.ofIndex, current?, peek, atEnd, h, List.getElem?_toArray,
    List.size_toArray]

/-- A slice is a part of the text; the place of the cursor plays no part. -/
theorem slice?_eq (h : c.text = cs.toArray) (start stop : Nat) :
    c.slice? start stop =
      if start ≤ min stop cs.length then some (.ofList (cs.extract start stop)) else none := by
  have hpart : cs.extract start (min stop cs.length) = cs.extract start stop := by
    simp only [List.extract_eq_take_drop, List.take_eq_take_iff, List.length_drop]
    omega
  rw [slice?, h, List.size_toArray, List.extract_toArray, hpart]

end Cursor

namespace Session

/-! ## One text -/

/-- All cursors of a session are in one text, and none of them stands more than `bound` places
    behind its start. -/
def Within (s : Session) (text : Array Char) (bound : Nat) : Prop :=
  ∀ c ∈ s.cursor :: s.saved, c.text = text ∧ c.position ≤ bound

variable {s : Session} {text : Array Char} {bound : Nat}

theorem Within.mono (h : s.Within text bound) {bound' : Nat} (hb : bound ≤ bound') :
    s.Within text bound' :=
  fun c hc => ⟨(h c hc).1, (h c hc).2.trans hb⟩

/-- A request changes no text, and it moves the cursor by its stride at most. -/
theorem Within.next (h : s.Within text bound) (r : Request) :
    (s.next r).Within text (bound + r.stride) := by
  have hstay : s.Within text (bound + r.stride) := h.mono (Nat.le_add_right _ _)
  obtain ⟨hcursor, hsaved⟩ := List.forall_mem_cons.mp hstay
  cases r with
  | advance count =>
    have hplace := (h s.cursor List.mem_cons_self).2
    exact List.forall_mem_cons.mpr ⟨⟨hcursor.1, Nat.add_le_add_right hplace count⟩, hsaved⟩
  | save => exact List.forall_mem_cons.mpr ⟨hcursor, hstay⟩
  | restore =>
    cases hs : s.saved with
    | nil => rwa [next_restore_of_nil hs]
    | cons c saved => rwa [next_restore_of_cons hs, Within, ← hs]
  | current | peek | atEnd | position | slice => exact hstay

theorem Within.run (h : s.Within text bound) (rs : List Request) :
    (s.run rs).Within text (bound + Request.strides rs) := by
  induction rs generalizing s bound with
  | nil => exact h
  | cons r rs ih =>
    rw [Request.strides, ← Nat.add_assoc]
    exact ih (h.next r)

theorem within_ofString (source : String) : (ofString source).Within source.toList.toArray 0 :=
  List.forall_mem_singleton.mpr ⟨rfl, Nat.le_refl 0⟩

/-! ## Going back -/

/-- Only two kinds of requests change the cursor: it moves forward, or the cursor saved last takes
    its place. -/
theorem cursor_next_of_ne {r : Request} (h : (s.next r).cursor ≠ s.cursor) :
    (∃ count, r = .advance count ∧ (s.next r).cursor = s.cursor.advanceBy count) ∨
      (r = .restore ∧ s.saved.head? = some (s.next r).cursor) := by
  cases r with
  | advance count => exact .inl ⟨count, rfl, rfl⟩
  | restore =>
    refine .inr ⟨rfl, ?_⟩
    cases hsaved : s.saved with
    | nil => exact absurd (congrArg cursor (next_restore_of_nil hsaved)) h
    | cons c saved => rw [next_restore_of_cons hsaved, List.head?_cons]
  | current | peek | atEnd | position | slice | save => exact absurd rfl h

/-- A request leaves the cursors below alone if it goes back to none of them. -/
theorem next_above {r : Request} (c : Cursor) {above : List Cursor} (below : List Cursor)
    (h : r = .restore → above ≠ []) :
    ∃ c' above', (Session.mk c (above ++ below)).next r = ⟨c', above' ++ below⟩ ∧
      above'.length + [r].count .restore = above.length + [r].count .save := by
  cases r with
  | advance count => exact ⟨c.advanceBy count, above, rfl, rfl⟩
  | save => exact ⟨c, c :: above, rfl, rfl⟩
  | restore =>
    obtain ⟨d, above, rfl⟩ := List.exists_cons_of_ne_nil (h rfl)
    exact ⟨d, above, rfl, rfl⟩
  | current | peek | atEnd | position | slice => exact ⟨c, above, rfl, rfl⟩

/-- Requests leave the cursors below alone if they go back only to cursors above them, or to those
    that they save themselves. -/
theorem run_above {rs : List Request} (c : Cursor) (above below : List Cursor)
    (h : ∀ front, front <+: rs → front.count .restore ≤ front.count .save + above.length) :
    ∃ c' above', (Session.mk c (above ++ below)).run rs = ⟨c', above' ++ below⟩ ∧
      above'.length + rs.count .restore = above.length + rs.count .save := by
  -- Induction on the requests: what stands above grows and shrinks on the way.
  induction rs generalizing c above with
  | nil => exact ⟨c, above, rfl, rfl⟩
  | cons r rs ih =>
    have hfirst : r = .restore → above ≠ [] := by
      rintro rfl rfl
      exact absurd (h [.restore] (List.prefix_append [.restore] rs)) (by decide)
    obtain ⟨c₁, above₁, hnext, hlen₁⟩ := next_above c below hfirst
    have hrest : ∀ front, front <+: rs →
        front.count .restore ≤ front.count .save + above₁.length := by
      intro front hfront
      have hfront := h (r :: front) (List.cons_prefix_cons.mpr ⟨rfl, hfront⟩)
      rw [← List.singleton_append, List.count_append, List.count_append] at hfront
      omega
    obtain ⟨c', above', hrun, hlen⟩ := ih c₁ above₁ hrest
    refine ⟨c', above', by rw [run_cons, hnext, hrun], ?_⟩
    rw [← List.singleton_append, List.count_append, List.count_append]
    omega

/-- A session that saves its cursor and goes back after balanced requests is the same as before. -/
theorem run_save_restore (s : Session) {qs : List Request} (h : Request.Balanced qs) :
    s.run (.save :: (qs ++ [.restore])) = s := by
  obtain ⟨c, above, hrun, hlen⟩ := run_above s.cursor [] (s.cursor :: s.saved) h.fronts
  obtain rfl : above = [] := by
    have htotal := h.total
    rw [List.length_nil] at hlen
    exact List.eq_nil_of_length_eq_zero (by omega)
  calc s.run (.save :: (qs ++ [.restore]))
      = ((Session.mk s.cursor (s.cursor :: s.saved)).run qs).next .restore := by
        rw [run_cons, run_append]; rfl
    _ = (Session.mk c (s.cursor :: s.saved)).next .restore := congrArg (Session.next · _) hrun
    _ = s := rfl

end Session

/-- **A cursor with checkpoints is an index into its text.** Take a session that has been asked to
    move forward by fewer than `2 ^ 64 - 1` places in all. Its cursor and the saved ones are in the
    text that it started with, and a word of 64 bits holds the index behind each of them. Only two
    kinds of requests change the cursor: it moves forward, or it is replaced by the one saved last.
    A save, balanced requests and a restore leave the session as it was, however far the requests
    go. What the cursor sees is what the text shows at its index: it is at the end exactly if there
    is no character, and looking ahead it sees what it would find one place further. A slice has
    to do with the text alone, it fails exactly if its start lies behind its stop or behind the
    end of the text, and the session goes on from where it was. -/
theorem session_indexes_text (source : String) (rs : List Request)
    (hroom : Request.strides rs < UInt64.size - 1) :
    ∃ s, (Session.ofString source).run rs = s ∧
      (∀ c ∈ s.cursor :: s.saved,
        c.text = source.toList.toArray ∧ c.position + 1 < UInt64.size) ∧
      (∀ r, (s.next r).cursor ≠ s.cursor →
        (∃ count, r = .advance count ∧ (s.next r).cursor = s.cursor.advanceBy count) ∨
        (r = .restore ∧ s.saved.head? = some (s.next r).cursor)) ∧
      (∀ qs, Request.Balanced qs → s.run (.save :: (qs ++ [.restore])) = s) ∧
      s.cursor.outlook = .ofIndex source.toList s.cursor.position ∧
      (s.cursor.atEnd = true ↔ source.length ≤ s.cursor.position) ∧
      (s.cursor.current? = none ↔ source.length ≤ s.cursor.position) ∧
      s.cursor.peek = (s.next (.advance 1)).cursor.current?.getD '\x00' ∧
      ∀ i j,
        s.cursor.slice? i j =
          (if i ≤ min j source.length then some (.ofList (source.toList.extract i j)) else none) ∧
        (s.cursor.slice? i j = none ↔ min j source.length < i) ∧
        s.next (.slice i j) = s := by
  obtain ⟨s, hs⟩ : ∃ s, (Session.ofString source).run rs = s := ⟨_, rfl⟩
  have hwithin := (Session.within_ofString source).run rs
  rw [hs] at hwithin
  have htext := (hwithin s.cursor List.mem_cons_self).1
  have hsize : s.cursor.text.size = source.length := by
    rw [htext, List.size_toArray, String.length_toList]
  refine ⟨s, hs, fun c hc => ⟨(hwithin c hc).1, ?_⟩, fun r => Session.cursor_next_of_ne,
    fun qs => s.run_save_restore, Cursor.outlook_eq htext, ?_, ?_, rfl, fun i j => ⟨?_, ?_, rfl⟩⟩
  · have hplace := (hwithin c hc).2
    omega
  · rw [Cursor.atEnd_iff, hsize]
  · rw [Cursor.current?_eq_none_iff, hsize]
  · rw [Cursor.slice?_eq htext, String.length_toList]
  · rw [Cursor.slice?_eq_none_iff, hsize]

/-- From the second character of `aé` a session goes far behind the end, saves there, and comes
    back to the one and to the other place. -/
theorem session_indexes_text_of_two :
    Request.strides [.advance 1, .save, .advance 7] < UInt64.size - 1 ∧
    Request.Balanced [.advance 9, .save, .slice 3 9, .restore, .peek] ∧
    ∃ s, (Session.ofString "aé").run [.advance 1, .save, .advance 7] = s ∧
      s.cursor.text = "aé".toList.toArray ∧ s.cursor.position + 1 < UInt64.size ∧
      (s.next .restore).cursor ≠ s.cursor ∧ s.saved.head? = some (s.next .restore).cursor ∧
      s.run (.save :: ([.advance 9, .save, .slice 3 9, .restore, .peek] ++ [.restore])) = s ∧
      s.cursor.slice? 1 9 = some "é" ∧ s.cursor.slice? 3 9 = none := by
  have hroom : Request.strides [.advance 1, .save, .advance 7] < UInt64.size - 1 := by decide
  have hbalanced : Request.Balanced [.advance 9, .save, .slice 3 9, .restore, .peek] := by decide
  obtain ⟨s, hs, hcursors, hnext, hback, -, -, -, -, hslice⟩ :=
    session_indexes_text "aé" [.advance 1, .save, .advance 7] hroom
  obtain ⟨htext, hplace⟩ := hcursors s.cursor List.mem_cons_self
  have hmoved : (s.next .restore).cursor ≠ s.cursor := by
    rw [← hs]
    decide +kernel
  have hsaved : s.saved.head? = some (s.next .restore).cursor := by
    rcases hnext .restore hmoved with ⟨count, hadvance, -⟩ | ⟨-, hsaved⟩
    · nomatch hadvance
    · exact hsaved
  refine ⟨hroom, hbalanced, s, hs, htext, hplace, hmoved, hsaved, hback _ hbalanced, ?_, ?_⟩
  · rw [(hslice 1 9).1]
    decide +kernel
  · rw [(hslice 3 9).2.1]
    decide +kernel

end ScriptLexer
