import Mathlib.Data.List.Induction
import ScriptLexer.Proofs.Cuts
import ScriptLexer.Proofs.RoundTrip

/-!
# Blanks outside of literals

An index of a text lies outside of literals if the number of quotes in front of
it is even. Blanks there only keep tokens apart, so any blanks do as well as
any others: a run of them may be replaced by another run, and the blanks at the
two ends of a text may come and go. Blanks inside of literals are characters
like all others.

Results:

* `Spacing.exists_maximal`: every text, taken apart at its blanks outside of literals.
* `Spacing.exists_layouts`: the layouts of two texts that differ in these blanks only.
* `Layout.exists_located_of_odd`: where a scan finds a blank inside of a literal again.
* `tokenize_respace`: the stream of a text after its blanks have been replaced.
-/

namespace ScriptLexer

open ScriptLexer.Unicode

/-! ## Spacings -/

/-- Some characters of a text, with the blanks in front of them. -/
structure Stretch where
  gap : List Char
  body : List Char

namespace Stretch

/-- The characters of some stretches in a row. -/
def text (rs : List Stretch) : List Char := rs.flatMap fun r => r.gap ++ r.body

@[simp] theorem text_nil : text [] = [] := rfl

@[simp] theorem text_cons (r : Stretch) (rs : List Stretch) :
    text (r :: rs) = r.gap ++ r.body ++ text rs :=
  List.flatMap_cons

@[simp] theorem text_append (rs qs : List Stretch) : text (rs ++ qs) = text rs ++ text qs :=
  List.flatMap_append

/-- The body has characters, and each blank among them stands inside of a literal: the number of
    quotes in front of it in the body is odd. In front of the body, there is an even number. -/
def Solid (r : Stretch) : Prop :=
  r.body ≠ [] ∧ ∀ before c after, r.body = before ++ c :: after → isBlank c = true →
    before.count '"' % 2 = 1

/-- A stretch stays solid with one more character, unless this is a blank outside of literals. -/
theorem Solid.extend {r : Stretch} {c : Char} (h : r.Solid)
    (hc : isBlank c = true → r.body.count '"' % 2 = 1) :
    Solid { r with body := r.body ++ [c] } := by
  refine ⟨List.append_ne_nil_of_left_ne_nil h.1 _, fun before d after heq hd => ?_⟩
  dsimp only at heq
  rcases List.eq_nil_or_concat after with rfl | ⟨after, e, rfl⟩
  · obtain ⟨rfl, hdc⟩ := List.append_inj' heq rfl
    obtain rfl := List.singleton_inj.mp hdc
    exact hc hd
  · rw [List.concat_eq_append, ← List.cons_append, ← List.append_assoc] at heq
    exact h.2 before d after (List.append_inj' heq rfl).1 hd

theorem solid_singleton (gap : List Char) {c : Char} (hc : isBlank c = false) :
    Solid ⟨gap, [c]⟩ := by
  refine ⟨List.cons_ne_nil _ _, fun before d after heq hd => ?_⟩
  have hmem : d ∈ [c] := by
    rw [show [c] = before ++ d :: after from heq]
    exact List.mem_append_right _ List.mem_cons_self
  rw [List.mem_singleton.mp hmem, hc] at hd
  exact absurd hd Bool.false_ne_true

/-- By how much the gaps of `rs` in front of the index `k` change in length if the gaps of `qs`
    stand in their place. -/
def drift (k : Int) : List Stretch → List Stretch → Int
  | r :: rs, q :: qs =>
    (if r.gap.length ≤ k then (q.gap.length : Int) - r.gap.length else 0) +
      drift (k - (r.gap.length + r.body.length)) rs qs
  | _, _ => 0

@[simp] theorem drift_nil (k : Int) (qs : List Stretch) : drift k [] qs = 0 := by
  cases qs <;> rfl

/-- The gap of the first stretch lies in front of all that stands behind it. -/
theorem drift_cons (n : Nat) (r q : Stretch) (rs qs : List Stretch) :
    drift (r.gap.length + n : Nat) (r :: rs) (q :: qs) =
      q.gap.length - r.gap.length + drift (n - r.body.length) rs qs := by
  have hle : (r.gap.length : Int) ≤ (r.gap.length + n : Nat) := by omega
  have hbehind : ((r.gap.length + n : Nat) : Int) - (r.gap.length + r.body.length) =
      n - r.body.length := by omega
  rw [drift, if_pos hle, hbehind]

end Stretch

/-- A text taken apart at blanks outside of literals. -/
structure Spacing where
  stretches : List Stretch
  /-- The blanks behind the last stretch. -/
  tail : List Char
  blank : ∀ r ∈ stretches, ∀ c ∈ r.gap, isBlank c = true
  blank_tail : ∀ c ∈ tail, isBlank c = true
  /-- Only at its start, a text may go without blanks. -/
  gap_ne_nil : ∀ r ∈ stretches.tail, r.gap ≠ []
  /-- All gaps lie outside of literals. -/
  outside : ∀ i < stretches.length, (Stretch.text (stretches.take i)).count '"' % 2 = 0
  outside_tail : tail ≠ [] → (Stretch.text stretches).count '"' % 2 = 0

namespace Spacing

variable {r : Stretch} {rs : List Stretch}

/-- The characters of a text. -/
def text (a : Spacing) : List Char := Stretch.text a.stretches ++ a.tail

/-- What a text consists of besides its gaps. -/
def bodies (a : Spacing) : List (List Char) := a.stretches.map Stretch.body

/-- All blanks outside of literals stand in the gaps, so the gaps are the maximal runs of these
    blanks. -/
def Maximal (a : Spacing) : Prop := ∀ r ∈ a.stretches, r.Solid

/-! ## Every text has a spacing -/

/-- All quotes of a stretch stand in its body. -/
theorem count_quote_cons (a : Spacing) (hr : r ∈ a.stretches) (qs : List Stretch) :
    (Stretch.text (r :: qs)).count '"' = r.body.count '"' + (Stretch.text qs).count '"' := by
  rw [Stretch.text_cons, List.count_append, List.count_append, count_quote_of_blank (a.blank r hr),
    Nat.zero_add]

/-- The spacing with one more blank at the end. -/
def addBlank (a : Spacing) (c : Char) (hc : isBlank c = true)
    (heven : (Stretch.text a.stretches).count '"' % 2 = 0) : Spacing :=
  { a with
    tail := a.tail ++ [c]
    blank_tail := List.forall_mem_append.mpr ⟨a.blank_tail, List.forall_mem_singleton.mpr hc⟩
    outside_tail := fun _ => heven }

theorem gap_ne_nil_concat (a : Spacing) (h : a.stretches ≠ [] → r.gap ≠ []) :
    ∀ q ∈ (a.stretches ++ [r]).tail, q.gap ≠ [] := by
  have hgap := a.gap_ne_nil
  cases hrs : a.stretches with
  | nil => exact List.forall_mem_nil _
  | cons q qs =>
    rw [hrs] at hgap
    exact List.forall_mem_append.mpr
      ⟨hgap, List.forall_mem_singleton.mpr (h (by rw [hrs]; exact List.cons_ne_nil q qs))⟩

theorem outside_concat (a : Spacing) (r : Stretch)
    (heven : (Stretch.text a.stretches).count '"' % 2 = 0) :
    ∀ i < (a.stretches ++ [r]).length,
      (Stretch.text ((a.stretches ++ [r]).take i)).count '"' % 2 = 0 := by
  intro i hi
  rw [List.length_append, List.length_singleton] at hi
  rw [List.take_append_of_le_length (by omega)]
  rcases Nat.lt_or_ge i a.stretches.length with hlt | hge
  · exact a.outside i hlt
  · rwa [List.take_of_length_le hge]

/-- The spacing that has one more stretch in place of the blanks at the end. -/
def concat (a : Spacing) (r : Stretch) (hblank : ∀ c ∈ r.gap, isBlank c = true)
    (hgap : a.stretches ≠ [] → r.gap ≠ [])
    (heven : (Stretch.text a.stretches).count '"' % 2 = 0) : Spacing where
  stretches := a.stretches ++ [r]
  tail := []
  blank := List.forall_mem_append.mpr ⟨a.blank, List.forall_mem_singleton.mpr hblank⟩
  blank_tail := blank_nil
  gap_ne_nil := a.gap_ne_nil_concat hgap
  outside := a.outside_concat r heven
  outside_tail := fun hne => absurd rfl hne

section last

variable (a : Spacing) (h : a.stretches = rs ++ [r])
include h

theorem last_mem : r ∈ a.stretches := by
  rw [h]
  exact List.mem_append_right _ List.mem_cons_self

theorem count_quote_front : (Stretch.text rs).count '"' % 2 = 0 := by
  have heven := a.outside rs.length (by rw [h, List.length_append]; exact Nat.lt_succ_self _)
  rwa [h, List.take_left' rfl] at heven

/-- But for an even number, the quotes of all stretches are those of the last body. -/
theorem count_quote_last :
    (Stretch.text a.stretches).count '"' % 2 = r.body.count '"' % 2 := by
  have hfront := a.count_quote_front h
  have hlast := a.count_quote_cons (a.last_mem h) []
  rw [Stretch.text_nil, List.count_nil] at hlast
  rw [h, Stretch.text_append, List.count_append]
  omega

theorem gap_ne_nil_last (hrs : rs ≠ []) : r.gap ≠ [] := by
  apply a.gap_ne_nil
  rw [h, List.tail_append_of_ne_nil hrs]
  exact List.mem_append_right _ List.mem_cons_self

end last

/-- The spacing of what stands in front of the last stretch. -/
def front (a : Spacing) (h : a.stretches = rs ++ [r]) : Spacing where
  stretches := rs
  tail := []
  blank := fun q hq => a.blank q (by rw [h]; exact List.mem_append_left _ hq)
  blank_tail := blank_nil
  gap_ne_nil := by
    intro q hq
    apply a.gap_ne_nil
    rw [h, List.tail_append_of_ne_nil (List.ne_nil_of_mem (List.mem_of_mem_tail hq))]
    exact List.mem_append_left _ hq
  outside := by
    intro i hi
    have heven := a.outside i (by rw [h, List.length_append]; exact Nat.lt_succ_of_lt hi)
    rwa [h, List.take_append_of_le_length (Nat.le_of_lt hi)] at heven
  outside_tail := fun hne => absurd rfl hne

/-- Every text can be taken apart at all its blanks outside of literals. -/
theorem exists_maximal (cs : List Char) : ∃ a : Spacing, a.text = cs ∧ a.Maximal := by
  -- The induction adds the last character of the text: quotes are counted from the start.
  induction cs using List.reverseRecOn with
  | nil => exact ⟨⟨[], [], by simp, by simp, by simp, by simp, by simp⟩, rfl, by simp [Maximal]⟩
  | append_singleton cs c ih =>
    obtain ⟨a, rfl, hmax⟩ := ih
    by_cases hgap : isBlank c = true ∧ (Stretch.text a.stretches).count '"' % 2 = 0
    · exact ⟨a.addBlank c hgap.1 hgap.2, (List.append_assoc ..).symm, hmax⟩
    have hodd : isBlank c = true → (Stretch.text a.stretches).count '"' % 2 = 1 := by
      intro hc
      have hne : ¬ (Stretch.text a.stretches).count '"' % 2 = 0 := fun heven => hgap ⟨hc, heven⟩
      omega
    by_cases hnew : a.stretches = [] ∨ a.tail ≠ []
    · -- The character stands behind a gap, or first of all.
      have heven : (Stretch.text a.stretches).count '"' % 2 = 0 := by
        rcases hnew with hnil | htail
        · rw [hnil]
          rfl
        · exact a.outside_tail htail
      have hc : isBlank c = false := by
        by_contra hc
        have := hodd (by simpa using hc)
        omega
      have hsolid := Stretch.solid_singleton a.tail hc
      refine ⟨a.concat ⟨a.tail, [c]⟩ a.blank_tail (fun hne => hnew.resolve_left hne) heven, ?_,
        List.forall_mem_append.mpr ⟨hmax, List.forall_mem_singleton.mpr hsolid⟩⟩
      simp [text, concat]
    · -- The character belongs to the last stretch.
      rw [not_or, not_not] at hnew
      obtain ⟨rs, r, hrs⟩ := (List.eq_nil_or_concat a.stretches).resolve_left hnew.1
      rw [List.concat_eq_append] at hrs
      rw [Maximal, hrs, List.forall_mem_append] at hmax
      have hr : r.Solid := hmax.2 r List.mem_cons_self
      have hlast : rs ≠ [] → r.gap ≠ [] := a.gap_ne_nil_last hrs
      rw [a.count_quote_last hrs] at hodd
      refine ⟨(a.front hrs).concat { r with body := r.body ++ [c] } (a.blank r (a.last_mem hrs)) hlast
        (a.count_quote_front hrs), ?_,
        List.forall_mem_append.mpr ⟨hmax.1, List.forall_mem_singleton.mpr (hr.extend hodd)⟩⟩
      simp [text, concat, front, hrs, hnew.2]

/-! ## What stands behind the first stretch -/

section first

variable (a : Spacing) (h : a.stretches = r :: rs)
include h

theorem first_mem : r ∈ a.stretches := by
  rw [h]
  exact List.mem_cons_self

/-- The quotes of the first stretch come in pairs if another one stands behind it. -/
theorem count_quote_first (hrs : rs ≠ []) : r.body.count '"' % 2 = 0 := by
  have hpos := List.length_pos_of_ne_nil hrs
  have heven := a.outside 1 (by rw [h, List.length_cons]; omega)
  have hfirst := a.count_quote_cons (a.first_mem h) []
  rw [h, List.take_succ_cons, List.take_zero, hfirst, Stretch.text_nil, List.count_nil] at heven
  exact heven

/-- So do they if blanks stand behind the last stretch. -/
theorem count_quote_first_of_tail (htail : a.tail ≠ []) : r.body.count '"' % 2 = 0 := by
  by_cases hrs : rs = []
  · have heven := a.outside_tail htail
    rw [h, hrs, a.count_quote_cons (a.first_mem h), Stretch.text_nil, List.count_nil] at heven
    exact heven
  · exact a.count_quote_first h hrs

/-- Nothing stands behind a first stretch with a quote too many. -/
theorem eq_nil_of_count_quote (hodd : ¬ r.body.count '"' % 2 = 0) : rs = [] ∧ a.tail = [] := by
  constructor
  · by_contra hrs
    exact hodd (a.count_quote_first h hrs)
  · by_contra htail
    exact hodd (a.count_quote_first_of_tail h htail)

end first

/-- The spacing of what stands behind the first stretch. -/
def rest (a : Spacing) (h : a.stretches = r :: rs) : Spacing where
  stretches := rs
  tail := a.tail
  blank := fun q hq => a.blank q (by rw [h]; exact List.mem_cons_of_mem r hq)
  blank_tail := a.blank_tail
  gap_ne_nil := fun q hq => a.gap_ne_nil q (by rw [h]; exact List.mem_of_mem_tail hq)
  outside := by
    intro i hi
    have heven := a.outside (i + 1) (by rw [h, List.length_cons]; omega)
    have hfirst := a.count_quote_first h (List.ne_nil_of_length_pos (by omega))
    rw [h, List.take_succ_cons, a.count_quote_cons (a.first_mem h)] at heven
    omega
  outside_tail := by
    intro htail
    have heven := a.outside_tail htail
    have hfirst := a.count_quote_first_of_tail h htail
    rw [h, a.count_quote_cons (a.first_mem h)] at heven
    omega

theorem text_eq (a : Spacing) (h : a.stretches = r :: rs) :
    a.text = r.gap ++ (r.body ++ (a.rest h).text) := by
  simp [text, rest, h]

/-- Behind the first stretch stands a blank, or nothing at all. -/
theorem isBlank_of_head?_rest (a : Spacing) (h : a.stretches = r :: rs) {d : Char}
    (hd : (a.rest h).text.head? = some d) : isBlank d = true := by
  cases hrs : rs with
  | nil =>
    subst hrs
    exact a.blank_tail d (List.mem_of_head? hd)
  | cons q qs =>
    subst hrs
    have hgap : q.gap ≠ [] := a.gap_ne_nil q (by rw [h]; exact List.mem_cons_self)
    refine a.blank q (by rw [h]; simp) d (List.mem_of_head? ?_)
    simpa [text, rest, List.head?_append_of_ne_nil _ hgap] using hd

end Spacing

/-! ## Layouts of stretches -/

/-- Tokens that stay apart do so in front of a blank as well. -/
theorem Piece.Apart.of_isBlank {ps : List Piece} {after after' : List Char} (h : Apart ps after)
    (hblank : ∀ d, after'.head? = some d → isBlank d = true) : Apart ps after' := by
  induction ps with
  | nil => trivial
  | cons p ps ih =>
    obtain ⟨hend, hrest⟩ := h
    refine ⟨?_, ih hrest⟩
    rw [Token.endsBefore_iff] at hend ⊢
    intro d hd
    rw [List.head?_append] at hend hd
    cases htext : (text ps).head? with
    | none =>
      rw [htext, Option.none_or] at hd
      exact p.token.joins_of_isBlank (hblank d hd)
    | some c =>
      rw [htext, Option.some_or] at hend hd
      exact hend d hd

namespace Layout

theorem stop_indent (l : Layout) (gap : List Char) (h : ∀ c ∈ gap, isBlank c = true) :
    (l.indent gap h).stop = gap.length + l.stop := by
  have hstop := stop_add_length_chars (literal_indent l gap h)
  rw [chars_indent, List.length_append] at hstop
  omega

/-- The pieces of a layout stay apart in front of its last blanks and any other ones. -/
theorem apart_of_isBlank {l : Layout} {cs : List Char}
    (hcs : ∀ d, cs.head? = some d → isBlank d = true) : Piece.Apart l.pieces (l.gap ++ cs) := by
  refine l.apart_gap.of_isBlank fun d hd => ?_
  cases hgap : l.gap with
  | nil =>
    rw [hgap] at hd
    exact hcs d hd
  | cons c gap =>
    rw [hgap] at hd
    obtain rfl : c = d := Option.some.inj hd
    exact l.blank c (by rw [hgap]; exact List.mem_cons_self)

end Layout

namespace Spacing

/-- Two texts that differ in their gaps only have layouts with the same tokens and the same
    unclosed literal. The literal starts where the lengths of the gaps put it. -/
theorem exists_layouts (a b : Spacing) (h : a.bodies = b.bodies) :
    ∃ l m : Layout, l.chars = a.text ∧ m.chars = b.text ∧ m.literal = l.literal ∧
      m.tokens = l.tokens ∧
      (l.literal ≠ none →
        (m.stop : Int) = l.stop + Stretch.drift l.stop a.stretches b.stretches) := by
  induction hrs : a.stretches generalizing a b with
  | nil =>
    have hqs : b.stretches = [] := by simpa [bodies, hrs] using h.symm
    refine ⟨.ofGap a.tail a.blank_tail, .ofGap b.tail b.blank_tail, ?_, ?_, rfl, rfl, absurd rfl⟩
    · simp [text, hrs]
    · simp [text, hqs]
  | cons r rs ih =>
    obtain ⟨q, qs, hqs, hbody, hbodies⟩ :
        ∃ q qs, b.stretches = q :: qs ∧ r.body = q.body ∧
          rs.map Stretch.body = qs.map Stretch.body := by
      rw [bodies, bodies, hrs, List.map_cons] at h
      obtain ⟨q, qs, hqs, hbody, hbodies⟩ := List.map_eq_cons_iff.mp h.symm
      exact ⟨q, qs, hqs, hbody.symm, hbodies.symm⟩
    rw [a.text_eq hrs, b.text_eq hqs, hqs, ← hbody]
    have hgap := a.blank r (a.first_mem hrs)
    have hgap' := b.blank q (b.first_mem hqs)
    obtain ⟨n, hn⟩ := Layout.exists_chars_eq r.body
    by_cases hnone : n.literal = none
    · obtain ⟨l, m, hl, hm, hliteral, htokens, hstop⟩ := ih (a.rest hrs) (b.rest hqs) hbodies rfl
      have hapart : Piece.Apart n.pieces (n.gap ++ l.chars) := by
        rw [hl]
        exact Layout.apart_of_isBlank fun d hd => a.isBlank_of_head?_rest hrs hd
      have hapart' : Piece.Apart n.pieces (n.gap ++ m.chars) := by
        rw [hm]
        exact Layout.apart_of_isBlank fun d hd => b.isBlank_of_head?_rest hqs hd
      refine ⟨(n.append l hapart).indent r.gap hgap, (n.append m hapart').indent q.gap hgap',
        ?_, ?_, ?_, ?_, ?_⟩
      · rw [Layout.chars_indent, Layout.chars_append hapart hnone, hn, hl]
      · rw [Layout.chars_indent, Layout.chars_append hapart' hnone, hn, hm]
      · simpa using hliteral
      · simpa using htokens
      · simp only [Layout.literal_indent, Layout.literal_append, Layout.stop_indent,
          Layout.stop_append hapart hnone, Layout.stop_append hapart' hnone, hn]
        intro hsome
        have hrest : (m.stop : Int) = l.stop + Stretch.drift l.stop rs qs := hstop hsome
        have hdrift : ((r.body.length + l.stop : Nat) : Int) - r.body.length = l.stop := by omega
        rw [Stretch.drift_cons, hdrift]
        omega
    · -- An open literal takes in all that is left of the text, so there are no more gaps.
      have hodd : ¬ r.body.count '"' % 2 = 0 := by
        rwa [← hn, ← n.literal_eq_none_iff]
      obtain ⟨rfl, htail⟩ := a.eq_nil_of_count_quote hrs hodd
      obtain ⟨rfl, htail'⟩ := b.eq_nil_of_count_quote hqs (hbody ▸ hodd)
      refine ⟨n.indent r.gap hgap, n.indent q.gap hgap', ?_, ?_, ?_, ?_, ?_⟩
      · simp [text, rest, htail, hn]
      · simp [text, rest, htail', hn]
      · rw [Layout.literal_indent, Layout.literal_indent]
      · rw [Layout.tokens_indent, Layout.tokens_indent]
      · intro _
        rw [Layout.stop_indent, Layout.stop_indent, Stretch.drift_cons, Stretch.drift_nil]
        omega

end Spacing

/-! ## Blanks in literals -/

/-- A character of two texts in a row stands in the first or in the second one, with a part of the
    first one or with all of it in front. -/
theorem getElem?_append_cases {cs ds : List Char} {i : Nat} {c : Char}
    (h : (cs ++ ds)[i]? = some c) :
    cs[i]? = some c ∧ (cs ++ ds).take i = cs.take i ∨
      cs.length ≤ i ∧ ds[i - cs.length]? = some c ∧
        (cs ++ ds).take i = cs ++ ds.take (i - cs.length) := by
  rcases Nat.lt_or_ge i cs.length with hlt | hge
  · rw [List.getElem?_append_left hlt] at h
    exact Or.inl ⟨h, List.take_append_of_le_length (Nat.le_of_lt hlt)⟩
  · rw [List.getElem?_append_right hge] at h
    exact Or.inr ⟨hge, h, by rw [List.take_append, List.take_of_length_le hge]⟩

/-- A character behind an odd number of quotes of a piece stands in a literal. -/
theorem Piece.lexeme_of_odd {p : Piece} {i : Nat} {c : Char} (hi : p.chars[i]? = some c)
    (hc : c ≠ '"') (hodd : (p.chars.take i).count '"' % 2 = 1) :
    p.token.kind = .string ∧
      ∃ j, i = p.gap.length + 1 + j ∧ p.token.lexeme.toList[j]? = some c := by
  have hgap : (p.gap.take i).count '"' = 0 :=
    count_quote_of_blank fun d hd => p.blank d (List.mem_of_mem_take hd)
  rw [chars, List.take_append, List.count_append, hgap, Nat.zero_add] at hodd
  have hk : p.token.kind = .string := by
    by_contra hk
    have hno : '"' ∉ p.token.source.take (i - p.gap.length) := fun hmem =>
      p.wellFormed.quote_not_mem_source hk (List.mem_of_mem_take hmem)
    rw [List.count_eq_zero.mpr hno] at hodd
    omega
  refine ⟨hk, ?_⟩
  have hsource := Token.source_of_string hk
  -- The first quote of the literal stands in front of the character.
  obtain ⟨j, hj⟩ : ∃ j, i = p.gap.length + 1 + j := by
    refine ⟨i - (p.gap.length + 1), ?_⟩
    by_contra hlt
    rw [show i - p.gap.length = 0 by omega, List.take_zero, List.count_nil] at hodd
    omega
  refine ⟨j, hj, ?_⟩
  rw [chars, hsource, hj, List.getElem?_append_right (by omega),
    show p.gap.length + 1 + j - p.gap.length = j + 1 by omega, List.getElem?_cons_succ] at hi
  rcases Nat.lt_or_ge j p.token.lexeme.toList.length with hlt | hge
  · rwa [List.getElem?_append_left hlt] at hi
  · rw [List.getElem?_append_right hge] at hi
    have hmem := List.mem_of_getElem? hi
    exact absurd (List.mem_singleton.mp hmem) hc

theorem Piece.exists_located_of_odd {ps : List Piece} {i : Nat} {c : Char} (offset : Nat)
    (hi : (text ps)[i]? = some c) (hc : c ≠ '"') (hodd : ((text ps).take i).count '"' % 2 = 1) :
    ∃ l ∈ located offset ps, l.token.kind = .string ∧
      ∃ j, offset + i = l.offset + 1 + j ∧ l.token.lexeme.toList[j]? = some c := by
  induction ps generalizing offset i with
  | nil => simp at hi
  | cons p ps ih =>
    rw [text_cons] at hi hodd
    rcases getElem?_append_cases hi with ⟨hi, htake⟩ | ⟨hge, hi, htake⟩
    · rw [htake] at hodd
      obtain ⟨hk, j, rfl, hlexeme⟩ := p.lexeme_of_odd hi hc hodd
      refine ⟨_, List.mem_cons_self, hk, j, ?_, hlexeme⟩
      dsimp only
      omega
    · rw [htake, List.count_append] at hodd
      have heven := p.count_quote_chars
      obtain ⟨l, hl, hk, j, hj, hlexeme⟩ := ih (offset + p.chars.length) hi (by omega)
      exact ⟨l, List.mem_cons_of_mem _ hl, hk, j, by omega, hlexeme⟩

namespace Layout

/-- A character behind an odd number of quotes stands in a literal: in the lexeme of a token, or
    behind the quote that is not closed. -/
theorem exists_located_of_odd {n : Layout} {i : Nat} {c : Char} (hi : n.chars[i]? = some c)
    (hc : c ≠ '"') (hodd : (n.chars.take i).count '"' % 2 = 1) :
    (∃ l ∈ Piece.located 0 n.pieces, l.token.kind = .string ∧
      ∃ j, i = l.offset + 1 + j ∧ l.token.lexeme.toList[j]? = some c) ∨
    n.literal ≠ none ∧ n.stop < i := by
  rcases getElem?_append_cases hi with ⟨hi, htake⟩ | ⟨hge, -, htake⟩
  · rw [chars, htake] at hodd
    obtain ⟨l, hl, hk, j, hj, hlexeme⟩ := Piece.exists_located_of_odd 0 hi hc hodd
    exact Or.inl ⟨l, hl, hk, j, by omega, hlexeme⟩
  · have htext := Piece.count_quote_text n.pieces
    rw [chars, htake, List.count_append] at hodd
    have hstop : n.stop < i := by
      by_contra hle
      have hfront : (n.gap.take (i - (Piece.text n.pieces).length)).count '"' = 0 :=
        count_quote_of_blank fun d hd => n.blank d (List.mem_of_mem_take hd)
      unfold stop at hle
      rw [List.take_append_of_le_length (by omega), hfront] at hodd
      omega
    refine Or.inr ⟨fun hnone => ?_, hstop⟩
    have hlen := n.length_chars
    rw [rest_of_none hnone, List.length_nil] at hlen
    rw [List.getElem?_eq_none (by omega)] at hi
    exact absurd hi (Option.some_ne_none c).symm

end Layout

/-- **Blanks outside of literals may be replaced.** A text is taken apart at its blanks outside of
    literals, which can be done at all of them. Other blanks are put in their place: at least one
    for each run between two bodies, and any number in front of the first body and, if the number
    of quotes is even, behind the last one. The stream, if there is one, stays the same. If a
    literal is not closed, it starts with the same text as before, at an index that is shifted by
    what the runs in front of it have become longer or shorter. A blank inside of a literal is
    found again where it stands in the text, in the lexeme of a token, unless the literal is the
    one that is not closed. -/
theorem tokenize_respace (source : String) :
    (∃ a : Spacing, a.text = source.toList ∧ a.Maximal) ∧
    (∀ a b : Spacing, a.text = source.toList → a.bodies = b.bodies →
      (∀ ts, tokenize source = .ok ts → tokenize (.ofList b.text) = .ok ts) ∧
      ∀ k, tokenize source = .error (.unterminatedString k) →
        ∃ k', tokenize (.ofList b.text) = .error (.unterminatedString k') ∧
          (k' : Int) = k + Stretch.drift k a.stretches b.stretches ∧
          b.text.drop k' = source.toList.drop k) ∧
    ∀ i c, source.toList[i]? = some c → isBlank c = true →
      (source.toList.take i).count '"' % 2 = 1 →
      (∃ l ∈ (Scan.of source).tokens, l.token.kind = .string ∧
        ∃ j, i = l.offset + 1 + j ∧ l.token.lexeme.toList[j]? = some c) ∨
      ∃ k < i, tokenize source = .error (.unterminatedString k) := by
  refine ⟨Spacing.exists_maximal _, fun a b ha hbodies => ?_, fun i c hi hblank hodd => ?_⟩
  · obtain ⟨l, m, hl, hm, hliteral, htokens, hstop⟩ := a.exists_layouts b hbodies
    rw [Layout.tokenize_eq (hl.trans ha), Layout.tokenize_eq (hm.trans String.toList_ofList.symm)]
    constructor
    · intro ts hts
      obtain ⟨hnone, rfl⟩ := Layout.result_eq_ok_iff.mp hts
      rw [Layout.result_eq_ok_iff, hliteral, htokens]
      exact ⟨hnone, rfl⟩
    · intro k hk
      obtain ⟨hsome, hk⟩ := Layout.result_eq_error_iff.mp hk
      obtain rfl := ScanError.unterminatedString.inj hk
      refine ⟨m.stop, ?_, hstop hsome, ?_⟩
      · rw [Layout.result_eq_error_iff, hliteral]
        exact ⟨hsome, rfl⟩
      · rw [← hm, ← ha, ← hl, m.drop_stop_eq_rest, l.drop_stop_eq_rest, Layout.rest_congr hliteral]
  · obtain ⟨n, hn⟩ := Layout.exists_chars_eq source.toList
    have hc : c ≠ '"' := by
      rintro rfl
      exact absurd hblank (by decide +kernel)
    rw [← hn] at hi hodd
    rw [Layout.tokenize_eq hn, Layout.tokens_of hn]
    rcases Layout.exists_located_of_odd hi hc hodd with hfound | ⟨hsome, hlt⟩
    · exact Or.inl hfound
    · exact Or.inr ⟨n.stop, hlt, Layout.result_eq_error_iff.mpr ⟨hsome, rfl⟩⟩

/-- In `x =`, a tab and then `"a b"` with a blank behind it, other blanks are put in front of `x`,
    `=` and the literal, and the last one is removed. The blank of the literal is found again at the
    second place of its lexeme. In `x "y z`, one blank more stands in front of `x` and in front of
    the quote, and the quote is found two places further on. -/
theorem tokenize_respace_assignment :
    tokenize " x\n\n=\u3000\"a b\"" = .ok [Token.ofChars .identifier ['x'],
      Token.ofChars .assignment ['='], Token.ofChars .string ['a', ' ', 'b'], Token.endOfInput] ∧
    (∃ l ∈ (Scan.of "x =\t\"a b\" ").tokens, l.token.kind = .string ∧
      ∃ j, 6 = l.offset + 1 + j ∧ l.token.lexeme.toList[j]? = some ' ') ∧
    tokenize "\tx  \"y z" = .error (.unterminatedString 4) := by
  have hstream : tokenize "x =\t\"a b\" " = .ok [Token.ofChars .identifier ['x'],
      Token.ofChars .assignment ['='], Token.ofChars .string ['a', ' ', 'b'],
      Token.endOfInput] := by decide +kernel
  have hopen : tokenize "x \"y z" = .error (.unterminatedString 2) := by decide +kernel
  have hspace : isBlank ' ' = true := by decide +kernel
  have htab : isBlank '\t' = true := by decide +kernel
  have hline : isBlank '\n' = true := by decide +kernel
  have hwide : isBlank '\u3000' = true := by decide +kernel
  let literal : List Char := ['"', 'a', ' ', 'b', '"']
  let a : Spacing := ⟨[⟨[], ['x']⟩, ⟨[' '], ['=']⟩, ⟨['\t'], literal⟩], [' '],
    by simp [hspace, htab], by simp [hspace], by decide, by decide, by decide⟩
  let b : Spacing := ⟨[⟨[' '], ['x']⟩, ⟨['\n', '\n'], ['=']⟩, ⟨['\u3000'], literal⟩], [],
    by simp [hspace, hline, hwide], by simp, by decide, by decide, by decide⟩
  let c : Spacing := ⟨[⟨[], ['x']⟩, ⟨[' '], ['"', 'y', ' ', 'z']⟩], [],
    by simp [hspace], by simp, by decide, by decide, by decide⟩
  let d : Spacing := ⟨[⟨['\t'], ['x']⟩, ⟨[' ', ' '], ['"', 'y', ' ', 'z']⟩], [],
    by simp [hspace, htab], by simp, by decide, by decide, by decide⟩
  refine ⟨?_, ?_, ?_⟩
  · exact ((tokenize_respace "x =\t\"a b\" ").2.1 a b rfl rfl).1 _ hstream
  · rcases (tokenize_respace "x =\t\"a b\" ").2.2 6 ' ' (by decide) hspace (by decide) with
      hfound | ⟨k, -, hk⟩
    · exact hfound
    · rw [hstream] at hk
      contradiction
  · obtain ⟨k', hfail, hk', -⟩ :=
      ((tokenize_respace "x \"y z").2.1 c d rfl rfl).2 2 hopen
    have hdrift : Stretch.drift 2 c.stretches d.stretches = 2 := rfl
    have hfour : k' = 4 := by
      have := hk'.trans (congrArg (2 + ·) hdrift)
      omega
    rw [← hfour]
    exact hfail

end ScriptLexer
