import ScriptLexer.Scan.Sound
import ScriptLexer.Token.Boundary

/-!
# The course of a walk

A walk through a source finds and reports what a scan of the source does. On
its way it takes sound steps only, and no loop is cut short.

Results:

* `Walker.read_eq_some`, `Walker.read_eq_none`: a reader finds the first token
  of what is left, and moves the cursor by one character less than the token has.
* `Scan.ToldBy`: the landmarks of a walk tell of a scan.
* `Walker.turn_end`, `Walker.turn_blank`, `Walker.turn_unclosed`, `Walker.turn_token`:
  one turn of the loop over the source, at each thing that it may meet.
* `Walker.tokens_eq`: from any place, a walk ends as the scan of what is left
  of the source does, and its landmarks tell of that scan.
* `walk_eq`: so does a walk through a whole source.
-/

namespace ScriptLexer

open ScriptLexer.Unicode

/-! ## Loops -/

namespace Walker

theorem bind_ok {α β : Type} {x : Walker α} {f : α → Walker β} {w w' : Walk} {a : α}
    (h : x w = .ok a w') : (x >>= f) w = f a w' := by
  rw [show (x >>= f) w = EStateM.bind x f w from rfl, EStateM.bind, h]

theorem bind_error {α β : Type} {x : Walker α} {f : α → Walker β} {w w' : Walk} {halt : Halt}
    (h : x w = .error halt w') : (x >>= f) w = .error halt w' := by
  rw [show (x >>= f) w = EStateM.bind x f w from rfl, EStateM.bind, h]

theorem peek_eq (w : Walk) : peek w = .ok w.cursor.peek (w.note .peek) := rfl

theorem advance_eq (w : Walk) : advance w = .ok () w.advance := rfl

theorem cursor_eq (w : Walk) : cursor w = .ok w.cursor w := rfl

theorem note_eq (act : Act) (w : Walk) : note act w = .ok () (w.note act) := rfl

theorem slice_eq {w : Walk} {start stop : Nat} (h : start ≤ stop)
    (hs : stop ≤ w.cursor.text.size) :
    slice start stop w =
      .ok (.ofList ((w.cursor.text.toList.drop start).take (stop - start)))
        (w.note (.slice start stop)) := by
  have hc : (w.note (.slice start stop)).cursor.slice? start stop = _ := Cursor.slice?_of_le h hs
  rw [slice, bind_ok (note_eq _ _), bind_ok (cursor_eq _), hc]
  rfl

theorem advanceWhile_eq {p : Char → Bool} (hp : p Cursor.endMark = false) (fuel : Nat) {w : Walk}
    {c : Char} {after : List Char} (hw : w.cursor.rest = c :: after)
    (hf : (after.takeWhile p).length < fuel) :
    ∃ w', advanceWhile p fuel w = .ok () w' ∧
      w.Extends (after.takeWhile p).length [] w' := by
  induction fuel generalizing w c after with
  | zero => exact absurd hf (Nat.not_lt_zero _)
  | succ fuel ih =>
    have hsize := Walk.lt_size_of_rest hw
    have hpeek : w.Extends 0 [] (w.note .peek) := Walk.extends_note .peek rfl (by
      change w.cursor.position < _
      omega)
    rw [advanceWhile, bind_ok (peek_eq w), Cursor.peek_of_rest hw]
    rcases after with _ | ⟨d, after⟩
    · refine ⟨w.note .peek, ?_, hpeek⟩
      rw [List.head?_nil, Option.getD_none, if_neg (Bool.eq_false_iff.mp hp)]
      rfl
    · rw [List.head?_cons, Option.getD_some]
      rcases hd : p d with _ | _
      · refine ⟨w.note .peek, ?_, ?_⟩
        · rw [if_neg Bool.false_ne_true]
          rfl
        · rw [List.takeWhile_cons_of_neg (Bool.eq_false_iff.mp hd)]
          exact hpeek
      · rw [List.takeWhile_cons_of_pos hd, List.length_cons] at hf ⊢
        have hadv : (w.note .peek).Extends 1 [] (w.note .peek).advance :=
          Walk.extends_advance (by change w.cursor.position < w.cursor.text.size; omega)
        obtain ⟨w', hrun, hext⟩ :=
          ih (w := (w.note .peek).advance) (Cursor.rest_advance hw) (Nat.lt_of_succ_lt_succ hf)
        refine ⟨w', ?_, ?_⟩
        · rw [if_pos rfl, bind_ok (advance_eq _), hrun]
        · have := (hpeek.trans hadv).trans hext
          rwa [Nat.zero_add, Nat.add_comm 1] at this

theorem advanceToQuote_closed (start fuel : Nat) {w : Walk} {c : Char} {body after : List Char}
    (hw : w.cursor.rest = c :: (body ++ '"' :: after)) (hno : '"' ∉ body)
    (hf : body.length < fuel) :
    ∃ w', advanceToQuote start fuel w = .ok () w' ∧ w.Extends (body.length + 1) [] w' := by
  induction fuel generalizing w c body with
  | zero => exact absurd hf (Nat.not_lt_zero _)
  | succ fuel ih =>
    have hsize := Walk.lt_size_of_rest hw
    have hadv : w.Extends 1 [] w.advance := Walk.extends_advance (by omega)
    have hrest : w.advance.cursor.rest = body ++ '"' :: after := Cursor.rest_advance hw
    have hcur : w.advance.cursor.current? = (body ++ '"' :: after).head? := by
      rw [Cursor.current?_eq_head?, hrest]
    have hend : ¬ w.advance.cursor.atEnd = true := by
      rw [Cursor.atEnd_iff, ← Cursor.current?_eq_none_iff, hcur, List.head?_eq_none_iff]
      exact List.append_ne_nil_of_right_ne_nil _ (List.cons_ne_nil _ _)
    rw [advanceToQuote, bind_ok (advance_eq w), bind_ok (cursor_eq _), if_neg hend,
      bind_ok (cursor_eq _), hcur]
    rcases body with _ | ⟨d, body⟩
    · exact ⟨w.advance, rfl, hadv⟩
    · have hd : d ≠ '"' := fun h => hno (h ▸ List.mem_cons_self)
      obtain ⟨w', hrun, hext⟩ := ih (w := w.advance) hrest
        (fun h => hno (List.mem_cons_of_mem _ h)) (Nat.lt_of_succ_lt_succ hf)
      refine ⟨w', ?_, ?_⟩
      · rw [List.cons_append, List.head?_cons, if_neg fun h => hd (Option.some.inj h), hrun]
      · have := hadv.trans hext
        rwa [Nat.add_comm 1] at this

theorem advanceToQuote_unclosed (start fuel : Nat) {w : Walk} {c : Char} {rest : List Char}
    (hw : w.cursor.rest = c :: rest) (hno : '"' ∉ rest) (hf : rest.length < fuel) :
    ∃ w', advanceToQuote start fuel w = .error (.unclosed start) w' ∧
      w.Extends (rest.length + 1)
        [⟨w.cursor.text.size, .report (.unterminatedString start)⟩] w' := by
  induction fuel generalizing w c rest with
  | zero => exact absurd hf (Nat.not_lt_zero _)
  | succ fuel ih =>
    have hsize := Walk.lt_size_of_rest hw
    have hadv : w.Extends 1 [] w.advance := Walk.extends_advance (by omega)
    have hrest : w.advance.cursor.rest = rest := Cursor.rest_advance hw
    have hcur : w.advance.cursor.current? = rest.head? := by
      rw [Cursor.current?_eq_head?, hrest]
    rw [advanceToQuote, bind_ok (advance_eq w), bind_ok (cursor_eq _)]
    rcases rest with _ | ⟨d, rest⟩
    · have hend : w.advance.cursor.atEnd = true := by
        rw [Cursor.atEnd_iff, ← Cursor.current?_eq_none_iff, hcur, List.head?_nil]
      rw [if_pos hend, bind_ok (note_eq _ _)]
      have hplace : w.advance.cursor.position = w.cursor.text.size := hsize
      have hreport := Walk.extends_note (w := w.advance) (.report (.unterminatedString start)) rfl
        (Nat.le_of_eq hplace)
      rw [hplace] at hreport
      exact ⟨_, rfl, hadv.trans hreport⟩
    · have hend : ¬ w.advance.cursor.atEnd = true := by
        rw [Cursor.atEnd_iff, ← Cursor.current?_eq_none_iff, hcur, List.head?_cons]
        exact Option.some_ne_none _
      have hd : d ≠ '"' := fun h => hno (h ▸ List.mem_cons_self)
      obtain ⟨w', hrun, hext⟩ := ih (w := w.advance) hrest
        (fun h => hno (List.mem_cons_of_mem _ h)) (Nat.lt_of_succ_lt_succ hf)
      refine ⟨w', ?_, ?_⟩
      · rw [if_neg hend, bind_ok (cursor_eq _), hcur, List.head?_cons,
          if_neg fun h => hd (Option.some.inj h), hrun]
      · have := hadv.trans hext
        rwa [Nat.add_comm 1] at this

/-! ## Readers

A reader finds the token that starts at the cursor, and moves the cursor by one
character less than the token has. -/

theorem extends_peek {w : Walk} {c : Char} {rest : List Char} (hw : w.cursor.rest = c :: rest) :
    w.Extends 0 [] (w.note .peek) :=
  Walk.extends_note .peek rfl (by
    have := Walk.lt_size_of_rest hw
    change w.cursor.position < w.cursor.text.size
    omega)

theorem extends_peek_advance {w : Walk} {c d : Char} {rest : List Char}
    (hw : w.cursor.rest = c :: d :: rest) : w.Extends 1 [] (w.note .peek).advance := by
  have hsize := Walk.lt_size_of_rest hw
  rw [List.length_cons] at hsize
  exact (extends_peek hw).trans (Walk.extends_advance (by
    change w.cursor.position < w.cursor.text.size
    omega))

theorem arithmetic_eq {w : Walk} {c : Char} {rest : List Char} (doubled : Kind)
    (hw : w.cursor.rest = c :: rest) (hc : c ≠ Cursor.endMark) :
    ∃ w', arithmetic doubled c w = .ok (Token.arithmetic doubled c rest).1 w' ∧
      w.Extends (rest.length - (Token.arithmetic doubled c rest).2.length) [] w' := by
  rw [arithmetic, bind_ok (peek_eq w), Cursor.peek_of_rest hw]
  rcases rest with _ | ⟨d, rest⟩
  · rw [List.head?_nil, Option.getD_none, if_neg hc.symm, if_neg (by decide)]
    exact ⟨_, rfl, extends_peek hw⟩
  · have hone : (d :: rest).length - rest.length = 1 := Nat.add_sub_cancel_left ..
    rw [List.head?_cons, Option.getD_some, Token.arithmetic]
    split
    · exact ⟨_, rfl, hone.symm ▸ extends_peek_advance hw⟩
    · split
      · exact ⟨_, rfl, hone.symm ▸ extends_peek_advance hw⟩
      · exact ⟨_, rfl, (Nat.sub_self (d :: rest).length).symm ▸ extends_peek hw⟩

theorem comparison_eq {w : Walk} {c : Char} {rest : List Char} (joined bare : Kind)
    (hw : w.cursor.rest = c :: rest) :
    ∃ w', comparison joined bare c w = .ok (Token.comparison joined bare c rest).1 w' ∧
      w.Extends (rest.length - (Token.comparison joined bare c rest).2.length) [] w' := by
  rw [comparison, bind_ok (peek_eq w), Cursor.peek_of_rest hw]
  rcases rest with _ | ⟨d, rest⟩
  · rw [List.head?_nil, Option.getD_none, if_neg (by decide)]
    exact ⟨_, rfl, extends_peek hw⟩
  · have hone : (d :: rest).length - rest.length = 1 := Nat.add_sub_cancel_left ..
    rw [List.head?_cons, Option.getD_some, Token.comparison]
    split
    · exact ⟨_, rfl, hone.symm ▸ extends_peek_advance hw⟩
    · exact ⟨_, rfl, (Nat.sub_self (d :: rest).length).symm ▸ extends_peek hw⟩

/-- The slice from where a walk was to where it has come to, the last character included. -/
theorem slice_of_extends {w w' : Walk} {count : Nat} {c : Char} {rest : List Char}
    (hw : w.cursor.rest = c :: rest) (h : w.Extends count [] w') (hc : count ≤ rest.length) :
    ∃ w'', slice w.cursor.position (w'.cursor.position + 1) w' =
        .ok (.ofList (c :: rest.take count)) w'' ∧ w.Extends count [] w'' := by
  have hsize := Walk.lt_size_of_rest hw
  have hlo : w.cursor.position ≤ w'.cursor.position + 1 := by
    rw [h.position]
    omega
  have hhi : w'.cursor.position + 1 ≤ w'.cursor.text.size := by
    rw [h.position, h.text]
    omega
  refine ⟨_, ?_, h.trans (Walk.extends_note (.slice _ _) rfl ⟨hlo, hhi⟩)⟩
  have hlen : w'.cursor.position + 1 - w.cursor.position = count + 1 := by
    rw [h.position]
    omega
  have hdrop : w'.cursor.text.toList.drop w.cursor.position = c :: rest := by
    rw [h.text, ← hw, Cursor.rest]
  rw [slice_eq hlo hhi, hdrop, hlen, List.take_succ_cons]

theorem take_length_takeWhile (p : Char → Bool) (cs : List Char) :
    cs.take (cs.takeWhile p).length = cs.takeWhile p :=
  (List.prefix_iff_eq_take.mp (List.takeWhile_prefix p)).symm

theorem length_sub_length_dropWhile (p : Char → Bool) (cs : List Char) :
    cs.length - (cs.dropWhile p).length = (cs.takeWhile p).length := by
  have := congrArg List.length (List.takeWhile_append_dropWhile (p := p) (l := cs))
  rw [List.length_append] at this
  omega

theorem number_eq {w : Walk} {c : Char} {rest : List Char} (hw : w.cursor.rest = c :: rest) :
    ∃ w', number w = .ok (Token.number c rest).1 w' ∧
      w.Extends (rest.length - (Token.number c rest).2.length) [] w' := by
  have hsize := Walk.lt_size_of_rest hw
  have hle := (List.takeWhile_sublist isDigit (l := rest)).length_le
  obtain ⟨w', hrun, hext⟩ := advanceWhile_eq (p := isDigit) (by decide +kernel)
    w.cursor.text.size hw (by omega)
  obtain ⟨w'', hslice, hext'⟩ := slice_of_extends hw hext hle
  refine ⟨w'', ?_, ?_⟩
  · rw [number, bind_ok (cursor_eq w), bind_ok (cursor_eq w), bind_ok hrun, bind_ok (cursor_eq w'),
      bind_ok hslice, take_length_takeWhile]
    rfl
  · rw [Token.number, length_sub_length_dropWhile]
    exact hext'

theorem drop_length_takeWhile (p : Char → Bool) (cs : List Char) :
    cs.drop (cs.takeWhile p).length = cs.dropWhile p := by
  have h : (cs.takeWhile p ++ cs.dropWhile p).drop (cs.takeWhile p).length = cs.dropWhile p :=
    List.drop_left
  rwa [List.takeWhile_append_dropWhile] at h

/-- The last of the characters that were dropped leads what is left. -/
theorem exists_drop_cons (c : Char) {cs : List Char} {count : Nat} (h : count ≤ cs.length) :
    ∃ d, (c :: cs).drop count = d :: cs.drop count := by
  induction count generalizing c cs with
  | zero => exact ⟨c, rfl⟩
  | succ count ih =>
    rcases cs with _ | ⟨d, cs⟩
    · exact absurd h (Nat.not_succ_le_zero _)
    · exact ih d (Nat.le_of_succ_le_succ h)

/-- The word characters in a row are letters and then the word characters behind them. -/
theorem length_takeWhile_isWord (cs : List Char) :
    (cs.takeWhile isLetter).length + ((cs.dropWhile isLetter).takeWhile isWord).length =
      (cs.takeWhile isWord).length := by
  have hin : ∀ c ∈ cs.takeWhile isLetter, isWord c = true := fun c hc =>
    isWord_of_isLetter (Token.mem_takeWhile hc)
  conv => rhs; rw [← List.takeWhile_append_dropWhile (p := isLetter) (l := cs),
    List.takeWhile_append_of_pos hin, List.length_append]

theorem word_eq {w : Walk} {c : Char} {rest : List Char} (hw : w.cursor.rest = c :: rest) :
    ∃ w', word w = .ok (Token.word c rest).1 w' ∧
      w.Extends (rest.length - (Token.word c rest).2.length) [] w' := by
  have hsize := Walk.lt_size_of_rest hw
  have hle := (List.takeWhile_sublist isWord (l := rest)).length_le
  have hsum := length_takeWhile_isWord rest
  obtain ⟨w', hrun, hext⟩ := advanceWhile_eq (p := isLetter) (by decide +kernel)
    w.cursor.text.size hw (by omega)
  obtain ⟨d, hrest⟩ : ∃ d, w'.cursor.rest = d :: rest.dropWhile isLetter := by
    rw [hext.rest, hw, ← drop_length_takeWhile]
    exact exists_drop_cons c (List.takeWhile_sublist isLetter).length_le
  obtain ⟨w'', hrun', hext'⟩ := advanceWhile_eq (p := isWord) (by decide +kernel)
    w'.cursor.text.size hrest (by rw [hext.text]; omega)
  have hboth := hext.trans hext'
  rw [hsum] at hboth
  obtain ⟨w₃, hslice, hext''⟩ := slice_of_extends hw hboth hle
  refine ⟨w₃, ?_, ?_⟩
  · rw [word, bind_ok (cursor_eq w), bind_ok (cursor_eq w), bind_ok hrun, bind_ok (cursor_eq w'),
      bind_ok hrun', bind_ok (cursor_eq w''), bind_ok hslice, take_length_takeWhile]
    rfl
  · rw [Token.word, length_sub_length_dropWhile]
    exact hext''

theorem literal_closed {w : Walk} {c : Char} {body after : List Char}
    (hw : w.cursor.rest = c :: (body ++ '"' :: after)) (hno : '"' ∉ body) :
    ∃ w', literal w = .ok (.ofChars .string body) w' ∧ w.Extends (body.length + 1) [] w' := by
  have hsize := Walk.lt_size_of_rest hw
  rw [List.length_append, List.length_cons] at hsize
  obtain ⟨w', hrun, hext⟩ :=
    advanceToQuote_closed w.cursor.position w.cursor.text.size hw hno (by omega)
  have hlo : w.cursor.position + 1 ≤ w'.cursor.position := by
    rw [hext.position]
    omega
  have hhi : w'.cursor.position ≤ w'.cursor.text.size := by
    rw [hext.position, hext.text]
    omega
  have hlen : w'.cursor.position - (w.cursor.position + 1) = body.length := by
    rw [hext.position]
    omega
  have hdrop : w'.cursor.text.toList.drop (w.cursor.position + 1) = body ++ '"' :: after := by
    rw [hext.text, ← List.drop_drop, ← Cursor.rest, hw, List.drop_one, List.tail_cons]
  refine ⟨_, ?_, hext.trans (Walk.extends_note (.slice _ _) rfl ⟨hlo, hhi⟩)⟩
  rw [literal, bind_ok (cursor_eq w), bind_ok (cursor_eq w), bind_ok hrun, bind_ok (cursor_eq w'),
    bind_ok (slice_eq hlo hhi), hdrop, hlen, List.take_left' rfl]
  rfl

theorem literal_unclosed {w : Walk} {c : Char} {rest : List Char} (hw : w.cursor.rest = c :: rest)
    (hno : '"' ∉ rest) :
    ∃ w', literal w = .error (.unclosed w.cursor.position) w' ∧
      w.Extends (rest.length + 1)
        [⟨w.cursor.text.size, .report (.unterminatedString w.cursor.position)⟩] w' := by
  have hsize := Walk.lt_size_of_rest hw
  obtain ⟨w', hrun, hext⟩ :=
    advanceToQuote_unclosed w.cursor.position w.cursor.text.size hw hno (by omega)
  exact ⟨w', by rw [literal, bind_ok (cursor_eq w), bind_ok (cursor_eq w), bind_error hrun], hext⟩

/-! ## Any token -/

theorem read_eq_some {w : Walk} {c : Char} {rest after : List Char} {t : Token}
    (hw : w.cursor.rest = c :: rest) (h : Token.first? c rest = some (t, after)) :
    ∃ w', read w = .ok t w' ∧ w.Extends (rest.length - after.length) [] w' := by
  have hcur : w.cursor.current? = some c := by
    rw [Cursor.current?_eq_head?, hw, List.head?_cons]
  rw [read, bind_ok (cursor_eq w), hcur]
  rw [Token.first?] at h
  split at h
  · next kind hc =>
    obtain ⟨rfl, rfl⟩ := Prod.mk.inj (Option.some.inj h)
    simp only [hc]
    refine ⟨w, rfl, ?_⟩
    rw [Nat.sub_self]
    exact .refl w
  · next doubled hc =>
    simp only [hc]
    have hne : c ≠ Cursor.endMark := by
      rcases Token.arithmetic_cases hc with ⟨rfl, _⟩ | ⟨rfl, _⟩ | ⟨rfl, _⟩ <;> decide
    have := arithmetic_eq doubled hw hne
    rwa [Option.some.inj h] at this
  · next joined bare hc =>
    simp only [hc]
    have := comparison_eq joined bare hw
    rwa [Option.some.inj h] at this
  · next hc =>
    simp only [hc]
    obtain ⟨body, hno, rfl, rfl⟩ := Token.literal?_eq_some_iff.mp h
    obtain ⟨w', hrun, hext⟩ := literal_closed hw hno
    refine ⟨w', hrun, ?_⟩
    have hlen : (body ++ '"' :: after).length - after.length = body.length + 1 := by
      rw [List.length_append, List.length_cons]
      omega
    rwa [hlen]
  · next hc =>
    simp only [hc]
    have := number_eq hw
    rwa [Option.some.inj h] at this
  · next hc =>
    simp only [hc]
    have := word_eq hw
    rwa [Option.some.inj h] at this

theorem read_eq_none {w : Walk} {c : Char} {rest : List Char} (hw : w.cursor.rest = c :: rest)
    (h : Token.first? c rest = none) :
    ∃ w', read w = .error (.unclosed w.cursor.position) w' ∧
      w.Extends (rest.length + 1)
        [⟨w.cursor.text.size, .report (.unterminatedString w.cursor.position)⟩] w' := by
  obtain ⟨rfl, hno⟩ := Token.first?_eq_none_iff.mp h
  have hcur : w.cursor.current? = some '"' := by
    rw [Cursor.current?_eq_head?, hw, List.head?_cons]
  have hlead : Lead.of '"' = .quote := Lead.of_eq_quote_iff.mpr rfl
  rw [read, bind_ok (cursor_eq w), hcur]
  simp only [hlead]
  exact literal_unclosed hw hno

/-- The character under the cursor, seen as a character of the text. -/
theorem start_of_rest {w : Walk} {c : Char} {rest : List Char} (hw : w.cursor.rest = c :: rest)
    (hb : isBlank c = false) :
    w.cursor.text[w.cursor.position]?.any (!isBlank ·) = true := by
  have hcur : w.cursor.text[w.cursor.position]? = some c := by
    have := Cursor.current?_eq_head? w.cursor
    rwa [hw, List.head?_cons] at this
  rw [hcur, Option.any_some, hb, Bool.not_false]

/-- A reader that has found a token leaves the cursor on its last character. -/
theorem sound_finish {w w' : Walk} {c : Char} {rest after : List Char} {t : Token}
    (hb : isBlank c = false) (hw : w.cursor.rest = c :: rest)
    (h : Token.first? c rest = some (t, after))
    (hext : w.Extends (rest.length - after.length) [] w') :
    (⟨w'.cursor.position, .finish w.cursor.position t⟩ : Step).Sound w'.cursor.text := by
  have hsize := Walk.lt_size_of_rest hw
  have hlen := Token.length_source_of_first? h
  have hform := (Token.first?_wellFormed hb h).1
  refine ⟨?_, ?_, ?_, hform.kind_ne_space, hform.kind_ne_endOfInput, ?_⟩
  · change w.cursor.position ≤ w'.cursor.position
    rw [hext.position]
    omega
  · change w'.cursor.position < w'.cursor.text.size
    rw [hext.position, hext.text]
    omega
  · change (w'.cursor.text.toList.take (w'.cursor.position + 1)).drop w.cursor.position = t.source
    have hcount : w'.cursor.position + 1 - w.cursor.position = t.source.length := by
      rw [hext.position]
      omega
    rw [List.drop_take, hcount, hext.text, ← Cursor.rest, hw, ← Token.first?_source h,
      List.take_left' rfl]
  · rw [hext.text]
    exact start_of_rest hw hb

theorem token_eq_some {w : Walk} {c : Char} {rest after : List Char} {t : Token}
    (hb : isBlank c = false) (hw : w.cursor.rest = c :: rest)
    (h : Token.first? c rest = some (t, after)) :
    ∃ w', token w = .ok t w' ∧
      w.Extends (rest.length - after.length)
        [⟨w.cursor.position + (rest.length - after.length), .finish w.cursor.position t⟩] w' := by
  obtain ⟨w', hrun, hext⟩ := read_eq_some hw h
  have hfinish := Walk.extends_note (.finish w.cursor.position t) rfl (sound_finish hb hw h hext)
  rw [hext.position] at hfinish
  exact ⟨_, by rw [token, hrun], hext.trans hfinish⟩

theorem token_eq_none {w : Walk} {c : Char} {rest : List Char} (hb : isBlank c = false)
    (hw : w.cursor.rest = c :: rest) (h : Token.first? c rest = none) :
    ∃ w', token w = .error (.unclosed w.cursor.position) w' ∧
      w.Extends (rest.length + 1)
        [⟨w.cursor.text.size, .fail w.cursor.position (.unclosed w.cursor.position)⟩,
          ⟨w.cursor.text.size, .report (.unterminatedString w.cursor.position)⟩] w' := by
  obtain ⟨w', hrun, hext⟩ := read_eq_none hw h
  have hsize := Walk.lt_size_of_rest hw
  have hplace : w'.cursor.position = w.cursor.text.size := by
    rw [hext.position]
    omega
  have hstart : w'.cursor.text[w.cursor.position]?.any (!isBlank ·) = true := by
    rw [hext.text]
    exact start_of_rest hw hb
  have hfail := Walk.extends_note (w := w') (.fail w.cursor.position (.unclosed w.cursor.position))
    rfl ⟨rfl, hplace.trans (congrArg Array.size hext.text).symm, hstart⟩
  rw [hplace] at hfail
  exact ⟨_, by rw [token, hrun], hext.trans hfail⟩

end Walker

/-! ## What the landmarks tell -/

namespace Scan

/-- The readings of a walk that finds what a scan finds, the earliest first: one for each token,
    and one for the literal that is not closed. -/
def readings (s : Scan) : List Reading :=
  s.tokens.map (fun l => ⟨l.offset, .ok l.token⟩) ++
    (s.unclosed.map fun offset => ⟨offset, .error (.unclosed offset)⟩).toList

/-- The landmarks, the latest first, tell of a scan of what stands between the places `start` and
    `stop`: its events, its tokens with their places, and how it ends. The loop starts at `start`,
    and for the last time at `stop` or at the literal that is not closed. -/
structure ToldBy (s : Scan) (start stop : Nat) (landmarks : List Step) : Prop where
  events : landmarks.filterMap (·.act.event?) = s.events.reverse
  readings : landmarks.filterMap (·.act.reading?) = s.readings.reverse
  turns : Walk.Ascends start (s.unclosed.getD stop) (landmarks.filterMap Step.turn?)

theorem toldBy_nil (stop count : Nat) :
    (ofChars stop count []).ToldBy stop stop
      [⟨stop, .report (.finished stop (count + 1))⟩, ⟨stop, .turn⟩] := by
  rw [ofChars_nil]
  exact ⟨rfl, rfl, Walk.ascends_singleton stop⟩

theorem toldBy_unclosed {c : Char} {rest : List Char} (hb : isBlank c = false)
    (h : Token.first? c rest = none) (start stop count : Nat) :
    (ofChars start count (c :: rest)).ToldBy start stop
      [⟨stop, .fail start (.unclosed start)⟩, ⟨stop, .report (.unterminatedString start)⟩,
        ⟨start, .turn⟩] := by
  rw [ofChars_unclosed hb h]
  exact ⟨rfl, rfl, Walk.ascends_singleton start⟩

variable {s : Scan} {start next stop : Nat} {landmarks : List Step}

/-- A turn at a blank, in front of others. -/
theorem ToldBy.blank (h : s.ToldBy next stop landmarks) (hlt : start < next) :
    s.ToldBy start stop (landmarks ++ [⟨start, .turn⟩]) where
  events := by
    rw [List.filterMap_append, h.events]
    exact List.append_nil _
  readings := by
    rw [List.filterMap_append, h.readings]
    exact List.append_nil _
  turns := by
    rw [List.filterMap_append]
    exact h.turns.concat hlt

theorem readings_cons (found : Located) (s : Scan) :
    (s.cons found).readings = ⟨found.offset, .ok found.token⟩ :: s.readings := rfl

/-- The report of a token that has been read up to the place `last`. -/
def reports (last : Nat) (t : Token) : List Step :=
  if t.kind = .unrecognized then [⟨last, .report (.unrecognized t.lexeme last)⟩] else []

theorem filterMap_reading?_reports (last : Nat) (t : Token) :
    (reports last t).filterMap (·.act.reading?) = [] := by
  unfold reports
  split <;> rfl

theorem filterMap_turn?_reports (last : Nat) (t : Token) :
    (reports last t).filterMap Step.turn? = [] := by
  unfold reports
  split <;> rfl

/-- A turn at a token, in front of others. An unrecognized token is read where it starts. -/
theorem ToldBy.token (h : s.ToldBy next stop landmarks) (hlt : start < next) {t : Token}
    {last : Nat} (hlast : t.kind = .unrecognized → last = start) :
    (s.cons ⟨start, t⟩).ToldBy start stop
      (landmarks ++ (reports last t ++ [⟨last, .finish start t⟩, ⟨start, .turn⟩])) where
  events := by
    rw [List.filterMap_append, List.filterMap_append, h.events, reports, cons]
    by_cases hk : t.kind = .unrecognized
    · rw [if_pos hk, if_pos hk, hlast hk, List.reverse_cons]
      rfl
    · rw [if_neg hk, if_neg hk]
      exact List.append_nil _
  readings := by
    rw [List.filterMap_append, List.filterMap_append, h.readings, filterMap_reading?_reports,
      readings_cons, List.reverse_cons]
    rfl
  turns := by
    rw [List.filterMap_append, List.filterMap_append, filterMap_turn?_reports]
    exact h.turns.concat hlt

end Scan

namespace Walker

/-! ## The turns of the loop

In a turn the loop meets the end of the source, a blank, a literal that is not closed, or a
token. There is one lemma for each. -/

theorem report_eq (t : Token) {w : Walk} (hin : w.cursor.position ≤ w.cursor.text.size) :
    ∃ w', report t w = .ok () w' ∧ w.Extends 0 (Scan.reports w.cursor.position t) w' := by
  rw [report, Scan.reports]
  split
  · rw [bind_ok (cursor_eq w), note_eq]
    exact ⟨_, rfl, Walk.extends_note (.report _) rfl hin⟩
  · exact ⟨w, rfl, .refl w⟩

theorem turn_end (fuel count : Nat) {w : Walk} (hw : w.cursor.rest = [])
    (hend : w.cursor.position = w.cursor.text.size) :
    ∃ w', tokens (fuel + 1) count w = .ok [Token.endOfInput] w' ∧
      w.Extends 0 [⟨w.cursor.text.size, .report (.finished w.cursor.text.size (count + 1))⟩,
        ⟨w.cursor.text.size, .turn⟩] w' := by
  have hcur : (w.note .turn).cursor.current? = none := by
    change w.cursor.current? = none
    rw [Cursor.current?_eq_head?, hw, List.head?_nil]
  have hturn := Walk.extends_note (w := w) .turn rfl (Nat.le_of_eq hend)
  have hreport := Walk.extends_note (w := w.note .turn)
    (.report (.finished w.cursor.text.size (count + 1))) rfl (Nat.le_of_eq hend)
  rw [hend] at hturn
  rw [show (w.note .turn).cursor.position = w.cursor.text.size from hend] at hreport
  refine ⟨_, ?_, hturn.trans hreport⟩
  rw [tokens, bind_ok (note_eq _ _), bind_ok (cursor_eq _), hcur]
  rfl

section Turns

variable {w : Walk} {c : Char} {rest : List Char} (hw : w.cursor.rest = c :: rest)
include hw

theorem extends_turn : w.Extends 0 [⟨w.cursor.position, .turn⟩] (w.note .turn) :=
  Walk.extends_note .turn rfl (by
    have := Walk.lt_size_of_rest hw
    change w.cursor.position ≤ w.cursor.text.size
    omega)

theorem current?_turn : (w.note .turn).cursor.current? = some c := by
  change w.cursor.current? = some c
  rw [Cursor.current?_eq_head?, hw, List.head?_cons]

theorem turn_blank (fuel count : Nat) (hb : isBlank c = true) :
    ∃ w', tokens (fuel + 1) count w = tokens fuel count w' ∧
      w.Extends 1 [⟨w.cursor.position, .turn⟩] w' ∧ w'.cursor.rest = rest := by
  have hsize := Walk.lt_size_of_rest hw
  have hadv : (w.note .turn).Extends 1 [] (w.note .turn).advance :=
    Walk.extends_advance (by
      change w.cursor.position < w.cursor.text.size
      omega)
  refine ⟨_, ?_, (extends_turn hw).trans hadv, Cursor.rest_advance hw⟩
  rw [tokens, bind_ok (note_eq _ _), bind_ok (cursor_eq _), current?_turn hw]
  simp only
  rw [if_pos hb, bind_ok (advance_eq _)]

theorem turn_unclosed (fuel count : Nat) (hb : isBlank c = false)
    (h : Token.first? c rest = none) :
    ∃ w', tokens (fuel + 1) count w = .error (.unclosed w.cursor.position) w' ∧
      w.Extends (rest.length + 1)
        [⟨w.cursor.text.size, .fail w.cursor.position (.unclosed w.cursor.position)⟩,
          ⟨w.cursor.text.size, .report (.unterminatedString w.cursor.position)⟩,
          ⟨w.cursor.position, .turn⟩] w' := by
  obtain ⟨w', hrun, hext⟩ := token_eq_none (w := w.note .turn) hb hw h
  refine ⟨w', ?_, ((extends_turn hw).trans hext).cast (Nat.zero_add _)⟩
  rw [tokens, bind_ok (note_eq _ _), bind_ok (cursor_eq _), current?_turn hw]
  simp only
  rw [if_neg (Bool.eq_false_iff.mp hb), bind_error hrun]
  rfl

theorem turn_token (fuel count : Nat) (hb : isBlank c = false) {t : Token} {after : List Char}
    (h : Token.first? c rest = some (t, after)) :
    ∃ w', tokens (fuel + 1) count w =
        (tokens fuel (count + 1) >>= fun ts => (pure (t :: ts) : Walker (List Token))) w' ∧
      w.Extends t.source.length
        (Scan.reports (w.cursor.position + (rest.length - after.length)) t ++
          [⟨w.cursor.position + (rest.length - after.length), .finish w.cursor.position t⟩,
            ⟨w.cursor.position, .turn⟩]) w' ∧
      w'.cursor.rest = after := by
  have hsize := Walk.lt_size_of_rest hw
  have hlen := Token.length_source_of_first? h
  have hform := (Token.first?_wellFormed hb h).1
  obtain ⟨w₁, hrun₁, hext₁⟩ := token_eq_some (w := w.note .turn) hb hw h
  have hplace₁ : w₁.cursor.position = w.cursor.position + (rest.length - after.length) :=
    hext₁.position
  have htext₁ : w₁.cursor.text = w.cursor.text := hext₁.text
  have hin₁ : w₁.cursor.position < w₁.cursor.text.size := by
    rw [hplace₁, htext₁]
    omega
  obtain ⟨w₂, hrun₂, hext₂⟩ := report_eq t (Nat.le_of_lt hin₁)
  rw [hplace₁] at hext₂
  have hadv : w₂.Extends 1 [] w₂.advance := Walk.extends_advance (by
    rw [hext₂.position, hext₂.text]
    exact hin₁)
  have hgone := ((((extends_turn hw).trans hext₁).trans hext₂).trans hadv).cast
    (n := t.source.length) (by omega)
  refine ⟨w₂.advance, ?_, hgone, ?_⟩
  · rw [tokens, bind_ok (note_eq _ _), bind_ok (cursor_eq _), current?_turn hw]
    simp only
    rw [if_neg (Bool.eq_false_iff.mp hb), bind_ok hrun₁, if_neg hform.kind_ne_space, bind_ok hrun₂,
      bind_ok (advance_eq _)]
  · rw [hgone.rest, hw, ← Token.first?_source h, List.drop_left' rfl]

end Turns

/-! ## All tokens -/

/-- How a walk ends whose course is that of the scan. -/
def ending (s : Scan) (w : Walk) : EStateM.Result Halt Walk (List Token) :=
  match s.unclosed with
  | none => .ok (s.tokens.map Located.token ++ [Token.endOfInput]) w
  | some offset => .error (.unclosed offset) w

theorem bind_ending_cons {x : Walker (List Token)} {s : Scan} {w w' : Walk}
    (found : Located) (h : x w = ending s w') :
    (x >>= fun ts => (pure (found.token :: ts) : Walker (List Token))) w =
      ending (s.cons found) w' := by
  rcases hs : s.unclosed with _ | offset
  · have hx : x w = .ok (s.tokens.map Located.token ++ [Token.endOfInput]) w' := by
      rw [h, ending, hs]
    rw [bind_ok hx, ending, show (s.cons found).unclosed = none from hs]
    rfl
  · have hx : x w = .error (.unclosed offset) w' := by
      rw [h, ending, hs]
    rw [bind_error hx, ending, show (s.cons found).unclosed = some offset from hs]

/-- A walk reads what is left of its source as a scan does, and its landmarks tell what the scan
    finds. -/
theorem tokens_eq (fuel count : Nat) {w : Walk} (hin : w.cursor.position ≤ w.cursor.text.size)
    (hf : w.cursor.rest.length < fuel) :
    ∃ w' landmarks,
      tokens fuel count w = ending (Scan.ofChars w.cursor.position count w.cursor.rest) w' ∧
      w.Extends w.cursor.rest.length landmarks w' ∧
      (Scan.ofChars w.cursor.position count w.cursor.rest).ToldBy w.cursor.position
        w.cursor.text.size landmarks := by
  -- Induction on the tests that are left. Each turn leads on to the induction hypothesis, or ends
  -- the walk.
  induction fuel generalizing count w with
  | zero => exact absurd hf (Nat.not_lt_zero _)
  | succ fuel ih =>
    rcases hw : w.cursor.rest with _ | ⟨c, rest⟩
    · have hend : w.cursor.position = w.cursor.text.size := by
        have := w.cursor.length_rest
        rw [hw, List.length_nil] at this
        omega
      obtain ⟨w', hrun, hext⟩ := turn_end fuel count hw hend
      rw [hend]
      refine ⟨w', _, ?_, hext, Scan.toldBy_nil _ _⟩
      rw [hrun, Scan.ofChars_nil]
      rfl
    · have hsize := Walk.lt_size_of_rest hw
      rw [hw, List.length_cons] at hf
      rcases hb : isBlank c with _ | _
      · rcases ht : Token.first? c rest with _ | ⟨t, after⟩
        · obtain ⟨w', hrun, hext⟩ := turn_unclosed hw fuel count hb ht
          refine ⟨w', _, ?_, hext, Scan.toldBy_unclosed hb ht _ _ _⟩
          rw [hrun, Scan.ofChars_unclosed hb ht]
          rfl
        · obtain ⟨w₁, hrun₁, hext₁, hrest⟩ := turn_token hw fuel count hb ht
          have hform := (Token.first?_wellFormed hb ht).1
          have hlen := Token.length_source_of_first? ht
          have hle := Token.length_after_le ht
          obtain ⟨w', landmarks, hrun, hext, htold⟩ := ih (count + 1) (w := w₁)
            (by rw [hext₁.position, hext₁.text]; omega) (by rw [hrest]; omega)
          rw [hext₁.position, hrest] at hrun htold
          rw [hext₁.text] at htold
          rw [hrest] at hext
          rw [Scan.ofChars_token hb ht]
          refine ⟨w', _, hrun₁.trans (bind_ending_cons ⟨w.cursor.position, t⟩ hrun),
            (hext₁.trans hext).cast (by rw [List.length_cons]; omega),
            htold.token (by omega) fun hk => ?_⟩
          have hone := hform.length_source_of_unrecognized hk
          omega
      · obtain ⟨w₁, hrun₁, hext₁, hrest⟩ := turn_blank hw fuel count hb
        obtain ⟨w', landmarks, hrun, hext, htold⟩ := ih count (w := w₁)
          (by rw [hext₁.position, hext₁.text]; omega) (by rw [hrest]; omega)
        rw [hext₁.position, hrest] at hrun htold
        rw [hext₁.text] at htold
        rw [hrest] at hext
        rw [Scan.ofChars_blank hb]
        exact ⟨w', _, hrun₁.trans hrun, (hext₁.trans hext).cast (Nat.add_comm _ _),
          htold.blank (Nat.lt_succ_self _)⟩

end Walker

/-- A walk through a source ends as the scan of the source does, behind its last character. It
    reports what the scan reports, reads what the scan finds, and takes sound steps only. Its loop
    starts at the first character, and for the last time behind the last one or at the literal that
    is not closed. -/
theorem walk_eq (source : String) :
    ∃ w, walk source = Walker.ending (Scan.of source) w ∧
      w.events = (events source).reverse ∧ w.Sound ∧
      w.cursor = ⟨source.toList.toArray, source.length⟩ ∧
      w.readings = (Scan.of source).readings.reverse ∧
      Walk.Ascends 0 ((Scan.of source).unclosed.getD source.length) w.turns := by
  have hlen : source.toList.length = source.length := String.length_toList
  obtain ⟨w, landmarks, hrun, hext, htold⟩ := Walker.tokens_eq (source.length + 1) 0
    (w := .ofString source) (Nat.zero_le _) (by
      change source.toList.length < _
      rw [hlen]
      exact Nat.lt_succ_self _)
  have hlandmarks : w.landmarks = landmarks := hext.landmarks_eq.trans (List.append_nil _)
  have hposition : w.cursor.position = source.length := by
    rw [hext.position, ← hlen]
    exact Nat.zero_add _
  refine ⟨w, hrun, ?_, hext.sound (Walk.sound_ofString source), ?_, ?_, ?_⟩
  · rw [w.events_eq, hlandmarks]
    exact htold.events
  · rw [← hposition, ← show w.cursor.text = source.toList.toArray from hext.text]
  · rw [w.readings_eq, hlandmarks]
    exact htold.readings
  · rw [w.turns_eq, hlandmarks, ← hlen]
    exact htold.turns

end ScriptLexer
