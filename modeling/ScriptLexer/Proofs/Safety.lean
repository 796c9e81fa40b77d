import ScriptLexer.Scan.Course

/-!
# Safe walks

The operations of a cursor check nothing. A cursor may leave its text, and a
slice may not exist. A walk keeps to the text by itself: the reader of a token
leaves the cursor on the last character of the token, and the loop over the
source steps past it.

Results:

* `Walker.ending_of`, `Scan.getD_unclosed_of`: how a walk ends and where its loop
  starts for the last time, told by the stream.
* `walk_safe`: what holds of each step of a walk and of the turns of its loop, and
  that no turn, move or reading is missing among the steps.
-/

namespace ScriptLexer

open ScriptLexer.Unicode

/-- A walk ends with the stream of its source, or with the literal that is not closed. -/
theorem Walker.ending_of (source : String) (w : Walk) :
    Walker.ending (Scan.of source) w =
      match tokenize source with
      | .ok ts => .ok ts w
      | .error e => .error (.unclosed e.offset) w := by
  unfold Walker.ending tokenize Scan.result
  cases (Scan.of source).unclosed <;> rfl

/-- The last turn of the loop over a source is behind the last character, or at the literal that is
    not closed. -/
theorem Scan.getD_unclosed_of (source : String) :
    (Scan.of source).unclosed.getD source.length =
      match tokenize source with
      | .ok _ => source.length
      | .error e => e.offset := by
  unfold tokenize Scan.result
  cases (Scan.of source).unclosed <;> rfl

/-- **A walk is safe, and it moves forward.** A walk through a source of `n` characters always
    comes to an end: it finds the stream, or the literal that is not closed, and then the cursor
    stands behind the last character. On the way the cursor never goes back and never leaves
    the text. It looks ahead and moves only from a place with a character, and takes only slices
    that the text has (`Step.Sound`). The reader of a token is called at a character that is not
    blank. It finds neither a space nor the sentinel, and leaves the cursor on the last of the
    characters that the token occupies; if it fails, it names the place where it was called and
    leaves the cursor at `n`. Each turn of the loop over the source starts further on than the
    one before.

    The steps are all there. The first turn starts at 0, and the last one at `n`, or at the
    literal that is not closed. The cursor moves from each of the places `0, …, n - 1` once, in
    this order. The readings are the tokens of the scan in the order of the source, each with the
    place where it starts, and behind them the literal that is not closed, if there is one. -/
theorem walk_safe (source : String) :
    ∃ w : Walk,
      walk source =
        (match tokenize source with
        | .ok ts => .ok ts w
        | .error e => .error (.unclosed e.offset) w) ∧
      w.cursor = ⟨source.toList.toArray, source.length⟩ ∧
      (∀ s ∈ w.steps, s.position ≤ source.length ∧ s.Sound source.toList.toArray) ∧
      (w.steps.Pairwise fun later earlier => earlier.position ≤ later.position) ∧
      w.turns.Pairwise (· > ·) ∧
      w.turns.getLast? = some 0 ∧
      w.turns.head? =
        some (match tokenize source with
          | .ok _ => source.length
          | .error e => e.offset) ∧
      w.moves.reverse = List.range source.length ∧
      w.readings.reverse = (Scan.of source).readings := by
  obtain ⟨w, hrun, -, hsound, hcursor, hreadings, hturns⟩ := walk_eq source
  refine ⟨w, hrun.trans (Walker.ending_of source w), hcursor, fun s hs => ?_, hsound.order,
    hturns.pairwise, hturns.getLast?_eq, ?_, ?_, ?_⟩
  · have hpassed := hsound.passed s hs
    have hstep := hsound.steps s hs
    rw [hcursor] at hpassed hstep
    exact ⟨hpassed, hstep⟩
  · rw [hturns.head?_eq, Scan.getD_unclosed_of]
  · rw [hsound.moves_eq, hcursor, List.reverse_reverse]
  · rw [hreadings, List.reverse_reverse]

end ScriptLexer
