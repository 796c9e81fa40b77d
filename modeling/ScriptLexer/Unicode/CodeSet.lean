/-!
# Sets of code points

A property of characters given by a table is a list of ranges of code points.
The list is kept in ascending order, and a balanced search tree over it answers
whether a character belongs in a number of steps logarithmic in its length.

Results:

* `RangeTree.toList_ofList`: the tree over a list holds exactly that list.
* `RangeTree.meets_iff`: on ascending ranges the search finds a range exactly
  when one of the tree's ranges meets it.
* `CodeSet.contains_iff_mem`: the same for a set, as membership.
* `CodeSet.not_mem_of_disjoint`: sets with no overlapping ranges share no
  character.
-/

namespace ScriptLexer.Unicode

/-! ## Ranges -/

/-- The code points from `first` to `last`, both included. -/
structure CodeRange where
  first : Nat
  last : Nat
deriving DecidableEq, Repr

/-- `r.Holds n`: the code point `n` lies in the range `r`. -/
def CodeRange.Holds (r : CodeRange) (n : Nat) : Prop := r.first ≤ n ∧ n ≤ r.last

instance (r : CodeRange) (n : Nat) : Decidable (r.Holds n) :=
  inferInstanceAs (Decidable (r.first ≤ n ∧ n ≤ r.last))

/-- `r.Meets s`: neither range ends before the other one starts. -/
def CodeRange.Meets (r s : CodeRange) : Prop := r.first ≤ s.last ∧ s.first ≤ r.last

theorem CodeRange.Holds.meets {r s : CodeRange} {n : Nat} (hr : r.Holds n) (hs : s.Holds n) :
    r.Meets s :=
  ⟨Nat.le_trans hr.1 hs.2, Nat.le_trans hs.1 hr.2⟩

/-- No range is empty, all start at `low` or above, and each ends before the next
    one starts. -/
def ascendingFrom (low : Nat) : List CodeRange → Bool
  | [] => true
  | r :: rest => decide (low ≤ r.first) && decide (r.first ≤ r.last) &&
      ascendingFrom (r.last + 1) rest

theorem ascendingFrom_cons {low : Nat} {r : CodeRange} {rest : List CodeRange} :
    ascendingFrom low (r :: rest) = true ↔
      low ≤ r.first ∧ r.first ≤ r.last ∧ ascendingFrom (r.last + 1) rest = true := by
  rw [ascendingFrom, Bool.and_eq_true, Bool.and_eq_true, decide_eq_true_eq, decide_eq_true_eq,
    and_assoc]

/-- Every range of an ascending list starts at the lower bound or above. -/
theorem le_first_of_ascendingFrom {low : Nat} {rs : List CodeRange}
    (h : ascendingFrom low rs = true) : ∀ r ∈ rs, low ≤ r.first := by
  induction rs generalizing low with
  | nil => exact fun r hr => absurd hr List.not_mem_nil
  | cons q rest ih =>
    obtain ⟨h1, h2, h3⟩ := ascendingFrom_cons.mp h
    intro r hr
    rcases List.mem_cons.mp hr with rfl | hr
    · exact h1
    · have := ih h3 r hr
      omega

/-- An ascending list splits at any of its ranges: what stands before ends below
    it, and what follows starts above it. -/
theorem ascendingFrom_append_cons {low : Nat} {before after : List CodeRange} {r : CodeRange}
    (h : ascendingFrom low (before ++ r :: after) = true) :
    ascendingFrom low before = true ∧ (∀ q ∈ before, q.last < r.first) ∧
      r.first ≤ r.last ∧ ascendingFrom (r.last + 1) after = true := by
  induction before generalizing low with
  | nil =>
    obtain ⟨_, h2, h3⟩ := ascendingFrom_cons.mp h
    exact ⟨rfl, fun _ hq => absurd hq List.not_mem_nil, h2, h3⟩
  | cons q rest ih =>
    obtain ⟨h1, h2, h3⟩ := ascendingFrom_cons.mp h
    obtain ⟨i1, i2, i3, i4⟩ := ih h3
    refine ⟨ascendingFrom_cons.mpr ⟨h1, h2, i1⟩, ?_, i3, i4⟩
    intro p hp
    rcases List.mem_cons.mp hp with rfl | hp
    · have := le_first_of_ascendingFrom h3 r (List.mem_append_right _ List.mem_cons_self)
      omega
    · exact i2 p hp

/-! ## The search tree -/

/-- A binary tree with a range at each node. -/
inductive RangeTree where
  | leaf
  | node (left : RangeTree) (range : CodeRange) (right : RangeTree)

namespace RangeTree

/-- The ranges from left to right. -/
def toList : RangeTree → List CodeRange
  | leaf => []
  | node left range right => left.toList ++ range :: right.toList

/-- Moves the first ranges of a list into a tree of at most the given height, and
    gives the tree and the ranges left over. -/
def grow : Nat → List CodeRange → RangeTree × List CodeRange
  | 0, rs => (leaf, rs)
  | height + 1, rs =>
    match grow height rs with
    | (left, []) => (left, [])
    | (left, range :: rest) =>
      (node left range (grow height rest).1, (grow height rest).2)

/-- The tree over a list of ranges, of the least height that has room for all of
    them. -/
def ofList (rs : List CodeRange) : RangeTree := (grow (rs.length.log2 + 1) rs).1

/-- Whether a range of the tree meets `r`: left of a node lie the smaller code
    points, right of it the larger ones. -/
def meets : RangeTree → CodeRange → Bool
  | leaf, _ => false
  | node left range right, r =>
    if r.last < range.first then left.meets r
    else if range.last < r.first then right.meets r
    else true

theorem toList_grow (height : Nat) (rs : List CodeRange) :
    (grow height rs).1.toList ++ (grow height rs).2 = rs := by
  induction height generalizing rs with
  | zero => rfl
  | succ height ih =>
    have h := ih rs
    rw [grow]
    split
    · next left heq => rw [heq] at h; exact h
    · next left range rest heq =>
      rw [heq] at h
      rw [toList, List.append_assoc, List.cons_append, ih rest, h]

/-- A tree of height `h` has room for `2 ^ h - 1` ranges. -/
theorem length_grow (height : Nat) (rs : List CodeRange) :
    (grow height rs).2.length = rs.length - (Nat.pow 2 height - 1) := by
  induction height generalizing rs with
  | zero => rfl
  | succ height ih =>
    have h := ih rs
    have hpow : Nat.pow 2 (height + 1) = Nat.pow 2 height * 2 := rfl
    have hpos : 0 < Nat.pow 2 height := Nat.two_pow_pos height
    rw [grow]
    split
    · next left heq =>
      rw [heq] at h
      simp only [List.length_nil] at h ⊢
      omega
    · next left range rest heq =>
      rw [heq] at h
      simp only [List.length_cons] at h
      rw [ih rest]
      omega

@[simp] theorem toList_ofList (rs : List CodeRange) : (ofList rs).toList = rs := by
  have h := toList_grow (rs.length.log2 + 1) rs
  have hlen := length_grow (rs.length.log2 + 1) rs
  have hlt : rs.length < Nat.pow 2 (rs.length.log2 + 1) := Nat.lt_log2_self
  have hnil : (grow (rs.length.log2 + 1) rs).2 = [] := by
    apply List.eq_nil_of_length_eq_zero
    omega
  rw [hnil, List.append_nil] at h
  exact h

theorem meets_iff {t : RangeTree} {low : Nat} (h : ascendingFrom low t.toList = true)
    (r : CodeRange) : t.meets r = true ↔ ∃ q ∈ t.toList, q.Meets r := by
  induction t generalizing low with
  | leaf =>
    refine ⟨fun h => absurd h Bool.false_ne_true, ?_⟩
    rintro ⟨q, hq, _⟩
    exact absurd hq List.not_mem_nil
  | node left range right ihl ihr =>
    obtain ⟨h1, h2, h3, h4⟩ := ascendingFrom_append_cons h
    have above := le_first_of_ascendingFrom h4
    rw [meets]
    split
    · next hlt =>
      rw [ihl h1]
      constructor
      · rintro ⟨q, hq, hr⟩
        exact ⟨q, List.mem_append_left _ hq, hr⟩
      · rintro ⟨q, hq, hr⟩
        rcases List.mem_append.mp hq with hq | hq
        · exact ⟨q, hq, hr⟩
        · obtain ⟨hr, _⟩ := hr
          rcases List.mem_cons.mp hq with rfl | hq
          · omega
          · have := above q hq
            omega
    · split
      · next hge hgt =>
        rw [ihr h4]
        constructor
        · rintro ⟨q, hq, hr⟩
          exact ⟨q, List.mem_append_right _ (List.mem_cons_of_mem _ hq), hr⟩
        · rintro ⟨q, hq, hr⟩
          have hlow := hr.2
          rcases List.mem_append.mp hq with hq | hq
          · have := h2 q hq
            omega
          · rcases List.mem_cons.mp hq with rfl | hq
            · omega
            · exact ⟨q, hq, hr⟩
      · next hge hle =>
        refine ⟨fun _ => ⟨range, List.mem_append_right _ List.mem_cons_self, ?_⟩, fun _ => rfl⟩
        exact ⟨by omega, by omega⟩

end RangeTree

/-! ## Sets -/

/-- A set of characters, as a search tree over ascending ranges of code points. -/
structure CodeSet where
  tree : RangeTree
  ascending : ascendingFrom 0 tree.toList = true

namespace CodeSet

/-- The set of the characters that one of the given ranges holds. -/
def ofRanges (rs : List CodeRange) (h : ascendingFrom 0 rs = true) : CodeSet :=
  ⟨.ofList rs, by rw [RangeTree.toList_ofList]; exact h⟩

/-- The ranges of a set in ascending order. -/
def ranges (s : CodeSet) : List CodeRange := s.tree.toList

/-- Whether the set has the character `c`. -/
def contains (s : CodeSet) (c : Char) : Bool := s.tree.meets ⟨c.toNat, c.toNat⟩

/-- A character belongs to a set when one of the set's ranges holds its code point. -/
instance : Membership Char CodeSet := ⟨fun s c => ∃ r ∈ s.ranges, r.Holds c.toNat⟩

theorem contains_iff_mem {s : CodeSet} {c : Char} : s.contains c = true ↔ c ∈ s :=
  RangeTree.meets_iff s.ascending ⟨c.toNat, c.toNat⟩

/-- Whether no range of one set meets a range of the other. -/
def disjoint (s t : CodeSet) : Bool := s.ranges.all fun r => !t.tree.meets r

theorem not_mem_of_disjoint {s t : CodeSet} {c : Char} (h : s.disjoint t = true) (hs : c ∈ s) :
    c ∉ t := by
  obtain ⟨r, hr, hrc⟩ := hs
  rintro ⟨q, hq, hqc⟩
  have hno := List.all_eq_true.mp h r hr
  rw [(RangeTree.meets_iff t.ascending r).mpr ⟨q, hq, hqc.meets hrc⟩] at hno
  exact absurd hno Bool.false_ne_true

end CodeSet

end ScriptLexer.Unicode
