import ScriptLexer.Unicode.Blank
import ScriptLexer.Unicode.DecimalDigit
import ScriptLexer.Unicode.Letter

/-!
# Word characters

A word character is one that an identifier may hold after its first letter
(specification, section 4.5). The three tables below it do not overlap, so a
character has at most one of the properties blank, digit and letter, and no
blank is a word character.

Results:

* `isDigit_of_isLetter`: a letter is no digit.
* `isWord_of_isBlank`: a blank is no word character.
-/

namespace ScriptLexer.Unicode

/-- A letter, a decimal digit or `_`. -/
def isWord (c : Char) : Bool := isLetter c || isDigit c || c == '_'

theorem isWord_of_isLetter {c : Char} (h : isLetter c = true) : isWord c = true := by
  rw [isWord, h, Bool.true_or, Bool.true_or]

theorem isWord_of_isDigit {c : Char} (h : isDigit c = true) : isWord c = true := by
  rw [isWord, h, Bool.or_true, Bool.true_or]

/-! ## The tables do not overlap -/

theorem isDigit_of_isLetter {c : Char} (h : isLetter c = true) : isDigit c = false := by
  have hno := CodeSet.not_mem_of_disjoint (s := letters) (t := decimalDigits) (by decide +kernel)
    (CodeSet.contains_iff_mem.mp h)
  rw [← CodeSet.contains_iff_mem] at hno
  exact Bool.eq_false_iff.mpr hno

theorem isLetter_of_isDigit {c : Char} (h : isDigit c = true) : isLetter c = false := by
  rcases hl : isLetter c with _ | _
  · rfl
  · rw [isDigit_of_isLetter hl] at h
    exact absurd h Bool.false_ne_true

theorem isLetter_of_isBlank {c : Char} (h : isBlank c = true) : isLetter c = false := by
  have hno := CodeSet.not_mem_of_disjoint (s := blanks) (t := letters) (by decide +kernel)
    (CodeSet.contains_iff_mem.mp h)
  rw [← CodeSet.contains_iff_mem] at hno
  exact Bool.eq_false_iff.mpr hno

theorem isDigit_of_isBlank {c : Char} (h : isBlank c = true) : isDigit c = false := by
  have hno := CodeSet.not_mem_of_disjoint (s := blanks) (t := decimalDigits) (by decide +kernel)
    (CodeSet.contains_iff_mem.mp h)
  rw [← CodeSet.contains_iff_mem] at hno
  exact Bool.eq_false_iff.mpr hno

theorem isBlank_of_isLetter {c : Char} (h : isLetter c = true) : isBlank c = false := by
  rcases hb : isBlank c with _ | _
  · rfl
  · rw [isLetter_of_isBlank hb] at h
    exact absurd h Bool.false_ne_true

theorem isBlank_of_isDigit {c : Char} (h : isDigit c = true) : isBlank c = false := by
  rcases hb : isBlank c with _ | _
  · rfl
  · rw [isDigit_of_isBlank hb] at h
    exact absurd h Bool.false_ne_true

theorem isWord_of_isBlank {c : Char} (h : isBlank c = true) : isWord c = false := by
  have hne : (c == '_') = false := by
    rw [beq_eq_false_iff_ne]
    rintro rfl
    exact absurd h (by decide +kernel)
  rw [isWord, isLetter_of_isBlank h, isDigit_of_isBlank h, hne, Bool.or_false, Bool.or_false]

end ScriptLexer.Unicode
