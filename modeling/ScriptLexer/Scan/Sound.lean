import ScriptLexer.Scan.Walk

/-!
# Sound walks

A step is sound if the cursor is in its text, or just behind it where that is
allowed, if a slice lies in the text, and if a token that has been read
occupies the characters from the place where its reader found the cursor to
the place where it left it. A walk is sound if its steps are, if it never goes
back, and if its steps leave no move of the cursor out.

The landmarks of a walk are the steps that tell how far it has come: all but
the single looks, moves and slices of a reader.

Results:

* `Walk.filterMap_landmarks`: events, turns and readings are told by the landmarks.
* `Walk.extends_note`, `Walk.extends_advance`: what a single step adds to a walk.
* `Walk.Extends.trans`: one part of a walk after another.
* `Walk.Extends.rest`: what is left of the text then.
* `Walk.Ascends.concat`: a loop that moves forward in every turn.
-/

namespace ScriptLexer

open ScriptLexer.Unicode

/-! ## Sound steps -/

/-- What holds of a step in a walk through a text that keeps to its rules. -/
def Step.Sound (text : Array Char) (s : Step) : Prop :=
  match s.act with
  | .turn => s.position ≤ text.size
  | .peek => s.position < text.size
  | .advance => s.position < text.size
  | .slice start stop => start ≤ stop ∧ stop ≤ text.size
  | .finish start token =>
    start ≤ s.position ∧ s.position < text.size ∧
      (text.toList.take (s.position + 1)).drop start = token.source ∧
      token.kind ≠ .space ∧ token.kind ≠ .endOfInput ∧
      text[start]?.any (!isBlank ·) = true
  | .fail start halt =>
    halt = .unclosed start ∧ s.position = text.size ∧ text[start]?.any (!isBlank ·) = true
  | .report _ => s.position ≤ text.size

/-- A call of the reader of a token: where it found the cursor, and what came of it. -/
structure Reading where
  start : Nat
  outcome : Except Halt Token
deriving Repr

namespace Act

/-- The event that is reported, if the act is a report. -/
def event? : Act → Option Event
  | report event => some event
  | _ => none

/-- The reading that is over then, if one is. -/
def reading? : Act → Option Reading
  | finish start token => some ⟨start, .ok token⟩
  | fail start halt => some ⟨start, .error halt⟩
  | _ => none

/-- Whether the act tells how far a walk has come. -/
def isLandmark : Act → Bool
  | peek => false
  | advance => false
  | slice _ _ => false
  | _ => true

end Act

namespace Step

/-- The place at which the loop over the source starts again, if the step is that. -/
def turn? : Step → Option Nat
  | ⟨position, .turn⟩ => some position
  | _ => none

/-- The place from which the cursor moves forward, if the step is that. -/
def move? : Step → Option Nat
  | ⟨position, .advance⟩ => some position
  | _ => none

end Step

namespace Walk

/-- The events reported so far, the latest first. -/
def events (w : Walk) : List Event := w.steps.filterMap (·.act.event?)

/-- The places at which the loop over the source has started so far, the latest first. -/
def turns (w : Walk) : List Nat := w.steps.filterMap Step.turn?

/-- The readings so far, the latest first. -/
def readings (w : Walk) : List Reading := w.steps.filterMap (·.act.reading?)

/-- The places from which the cursor has moved forward so far, the latest first. -/
def moves (w : Walk) : List Nat := w.steps.filterMap Step.move?

/-- The steps that tell how far the walk has come, the latest first. -/
def landmarks (w : Walk) : List Step := w.steps.filter (·.act.isLandmark)

/-- What other steps do not show is told by the landmarks. -/
theorem filterMap_landmarks {α : Type} {f : Step → Option α}
    (hf : ∀ s : Step, s.act.isLandmark = false → f s = none) (w : Walk) :
    w.landmarks.filterMap f = w.steps.filterMap f := by
  rw [landmarks, List.filterMap_filter]
  congr 1
  funext s
  rcases hs : s.act.isLandmark with _ | _
  · exact (hf s hs).symm
  · rfl

theorem events_eq (w : Walk) : w.events = w.landmarks.filterMap (·.act.event?) :=
  (filterMap_landmarks (fun ⟨_, act⟩ => by cases act <;> simp [Act.isLandmark, Act.event?]) w).symm

theorem turns_eq (w : Walk) : w.turns = w.landmarks.filterMap Step.turn? :=
  (filterMap_landmarks (fun ⟨_, act⟩ => by cases act <;> simp [Act.isLandmark, Step.turn?]) w).symm

theorem readings_eq (w : Walk) : w.readings = w.landmarks.filterMap (·.act.reading?) :=
  (filterMap_landmarks (fun ⟨_, act⟩ => by cases act <;> simp [Act.isLandmark, Act.reading?])
    w).symm

/-- The cursor is not out of its text, all steps are sound, none was made at a place behind
    that of a later one, and the cursor has come through each place in front of its own. -/
structure Sound (w : Walk) : Prop where
  inside : w.cursor.position ≤ w.cursor.text.size
  passed : ∀ s ∈ w.steps, s.position ≤ w.cursor.position
  steps : ∀ s ∈ w.steps, s.Sound w.cursor.text
  order : w.steps.Pairwise fun later earlier => earlier.position ≤ later.position
  moves_eq : w.moves = (List.range w.cursor.position).reverse

theorem sound_ofString (text : String) : (ofString text).Sound where
  inside := Nat.zero_le _
  passed _ hs := absurd hs List.not_mem_nil
  steps _ hs := absurd hs List.not_mem_nil
  order := List.Pairwise.nil
  moves_eq := rfl

/-- One walk goes on from another one, by `count` characters and with some more landmarks. -/
structure Extends (w : Walk) (count : Nat) (landmarks : List Step) (w' : Walk) : Prop where
  text : w'.cursor.text = w.cursor.text
  position : w'.cursor.position = w.cursor.position + count
  landmarks_eq : w'.landmarks = landmarks ++ w.landmarks
  sound : w.Sound → w'.Sound

theorem Extends.refl (w : Walk) : w.Extends 0 [] w := ⟨rfl, rfl, rfl, id⟩

theorem Extends.trans {w w' w'' : Walk} {m n : Nat} {ls ks : List Step}
    (h : w.Extends m ls w') (h' : w'.Extends n ks w'') : w.Extends (m + n) (ks ++ ls) w'' where
  text := h'.text.trans h.text
  position := by rw [h'.position, h.position, Nat.add_assoc]
  landmarks_eq := by rw [h'.landmarks_eq, h.landmarks_eq, List.append_assoc]
  sound := h'.sound ∘ h.sound

theorem Extends.cast {w w' : Walk} {m n : Nat} {ls : List Step} (h : w.Extends m ls w')
    (hm : m = n) : w.Extends n ls w' := hm ▸ h

/-- What is left of the text after a walk has gone on. -/
theorem Extends.rest {w w' : Walk} {count : Nat} {ls : List Step} (h : w.Extends count ls w') :
    w'.cursor.rest = w.cursor.rest.drop count := by
  rw [Cursor.rest, Cursor.rest, h.text, h.position, List.drop_drop]

theorem extends_note {w : Walk} (act : Act)
    (hmove : (⟨w.cursor.position, act⟩ : Step).move? = none)
    (h : (⟨w.cursor.position, act⟩ : Step).Sound w.cursor.text) :
    w.Extends 0 ([⟨w.cursor.position, act⟩].filter (·.act.isLandmark)) (w.note act) where
  text := rfl
  position := rfl
  landmarks_eq := List.filter_append (p := fun s : Step => s.act.isLandmark) [_] w.steps
  sound hw :=
    { inside := hw.inside
      passed := List.forall_mem_cons.mpr ⟨Nat.le_refl _, hw.passed⟩
      steps := List.forall_mem_cons.mpr ⟨h, hw.steps⟩
      order := List.pairwise_cons.mpr ⟨hw.passed, hw.order⟩
      moves_eq := (List.filterMap_cons_none hmove).trans hw.moves_eq }

theorem extends_advance {w : Walk} (h : w.cursor.position < w.cursor.text.size) :
    w.Extends 1 [] w.advance where
  text := rfl
  position := rfl
  landmarks_eq := rfl
  sound hw :=
    { inside := h
      passed := List.forall_mem_cons.mpr
        ⟨Nat.le_succ _, fun s hs => Nat.le_succ_of_le (hw.passed s hs)⟩
      steps := List.forall_mem_cons.mpr ⟨h, hw.steps⟩
      order := List.pairwise_cons.mpr ⟨hw.passed, hw.order⟩
      moves_eq := by
        change w.cursor.position :: w.moves = (List.range (w.cursor.position + 1)).reverse
        rw [hw.moves_eq, List.range_succ, List.reverse_append, List.reverse_singleton]
        rfl }

/-- The places `turns`, the latest first, lie behind one another, from `first` to `last`. -/
structure Ascends (first last : Nat) (turns : List Nat) : Prop where
  pairwise : turns.Pairwise (· > ·)
  first_le : ∀ p ∈ turns, first ≤ p
  getLast?_eq : turns.getLast? = some first
  head?_eq : turns.head? = some last

theorem ascends_singleton (place : Nat) : Ascends place place [place] where
  pairwise := List.pairwise_singleton _ _
  first_le _ hp := Nat.le_of_eq (List.mem_singleton.mp hp).symm
  getLast?_eq := rfl
  head?_eq := rfl

/-- An earlier place in front of all others. -/
theorem Ascends.concat {start first last : Nat} {turns : List Nat} (h : Ascends start last turns)
    (hlt : first < start) : Ascends first last (turns ++ [first]) where
  pairwise := by
    refine List.pairwise_append.mpr ⟨h.pairwise, List.pairwise_singleton _ _, fun p hp q hq => ?_⟩
    rw [List.mem_singleton.mp hq]
    exact Nat.lt_of_lt_of_le hlt (h.first_le p hp)
  first_le p hp := by
    rcases List.mem_append.mp hp with hp | hp
    · exact Nat.le_of_lt (Nat.lt_of_lt_of_le hlt (h.first_le p hp))
    · exact Nat.le_of_eq (List.mem_singleton.mp hp).symm
  getLast?_eq := List.getLast?_concat
  head?_eq := by rw [List.head?_append, h.head?_eq, Option.some_or]

theorem lt_size_of_rest {c : Cursor} {d : Char} {after : List Char} (h : c.rest = d :: after) :
    c.position + after.length + 1 = c.text.size := by
  have := c.length_rest
  rw [h, List.length_cons] at this
  omega

end Walk

end ScriptLexer
