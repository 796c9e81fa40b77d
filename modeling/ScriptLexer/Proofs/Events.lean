import Mathlib.Data.List.Forall2
import ScriptLexer.Proofs.Cuts
import ScriptLexer.Proofs.Safety

/-!
# What a scan reports

A scan reports each unrecognized token, in the order of the text, and then how
it ends. So the events tell no other story than the result: the reports name
the unrecognized tokens of the stream with their places, and the last event
says that the stream is complete, or which literal is not closed.

Results:

* `Scan.events_foldr_cons`: what a scan reports while it finds some tokens.
* `Layout.events_eq`, `Layout.message_outcome`: the events of a text, read off a
  layout of it, and what the last one says.
* `events_agree`: the events and the result of a scan.
-/

namespace ScriptLexer

open ScriptLexer.Unicode

/-! ## Reports -/

/-- What is reported of some tokens: each unrecognized one, at its place. -/
def Located.reports (found : List Located) : List Event :=
  (found.filter (·.token.kind = .unrecognized)).map fun l => .unrecognized l.token.lexeme l.offset

theorem Located.level_of_mem_reports {found : List Located} {e : Event}
    (h : e ∈ Located.reports found) : e.level = .trace := by
  obtain ⟨l, -, rfl⟩ := List.mem_map.mp h
  rfl

/-- A scan reports the tokens that it finds and then what it reports behind them. -/
theorem Scan.events_foldr_cons (found : List Located) (s : Scan) :
    (found.foldr Scan.cons s).events = Located.reports found ++ s.events := by
  induction found with
  | nil => rfl
  | cons l found ih =>
    rw [List.foldr_cons, Scan.cons, ih, Located.reports, Located.reports, List.filter_cons]
    by_cases hk : l.token.kind = .unrecognized
    · rw [if_pos hk, if_pos (decide_eq_true hk)]
      rfl
    · rw [if_neg hk, if_neg (by simpa using hk)]

namespace Layout

variable {l : Layout} {source : String}

/-- The event that the scan of a layout ends with. -/
def outcome (l : Layout) : Event :=
  match l.literal with
  | none => .finished l.chars.length (l.tokens.length + 1)
  | some _ => .unterminatedString l.stop

/-- The events of a text: what is reported of its tokens, and the way its scan ends. -/
theorem events_eq (h : l.chars = source.toList) :
    events source = Located.reports (Scan.of source).tokens ++ [l.outcome] := by
  rw [tokens_of h, events, Scan.of, ← h, chars, Scan.ofChars_text l.apart_rest,
    Scan.events_foldr_cons, Scan.ofChars_blanks l.blank, outcome]
  cases hl : l.literal with
  | none => simp [rest_of_none hl, Scan.ofChars_nil, chars_of_none hl, tokens]
  | some body => simp [rest_of_some hl, Scan.ofChars_literal (l.unclosed body hl), stop]

theorem level_outcome (l : Layout) : l.outcome.level = .debug := by
  unfold outcome
  cases l.literal <;> rfl

/-- The text of the last event tells whether the scan has found a stream. -/
theorem message_outcome (h : l.chars = source.toList) :
    l.outcome.message =
      match tokenize source with
      | .ok _ => "tokenized source"
      | .error _ => "unterminated string literal" := by
  rw [tokenize_eq h, outcome, result]
  cases l.literal <;> rfl

/-- What a text reports at the trace level are its unrecognized tokens. -/
theorem filter_trace_events (source : String) :
    (events source).filter (·.level = .trace) = Located.reports (Scan.of source).tokens := by
  obtain ⟨l, hl⟩ := exists_chars_eq source.toList
  have hreports : (Located.reports (Scan.of source).tokens).filter (·.level = .trace) =
      Located.reports (Scan.of source).tokens := by
    rw [List.filter_eq_self]
    intro e he
    exact decide_eq_true (Located.level_of_mem_reports he)
  rw [events_eq hl, List.filter_append, hreports]
  simp [level_outcome]

/-- The reports of a text keep to the part of it that the scan has read. -/
theorem offset_lt_stop_of_mem_reports {lexeme : String} {o : Nat} (h : l.chars = source.toList)
    (hmem : .unrecognized lexeme o ∈ Located.reports (Scan.of source).tokens) : o < l.stop := by
  obtain ⟨found, hfound, heq⟩ := List.mem_map.mp hmem
  obtain ⟨-, rfl⟩ := Event.unrecognized.inj heq
  rw [tokens_of h] at hfound
  have hmem := List.mem_of_mem_filter hfound
  have hspan := (Piece.span_of_mem_located hmem).2
  have hlt := Piece.offset_lt_stop hmem
  unfold stop
  omega

/-- The unrecognized tokens of a stream with their places, for a text that has a stream. -/
theorem exists_places (h : l.chars = source.toList) :
    ∃ places : List Nat,
      Located.reports (Scan.of source).tokens =
        List.zipWith (fun t o => .unrecognized t.lexeme o)
          ((l.tokens ++ [Token.endOfInput]).filter (·.kind = .unrecognized)) places ∧
      List.Forall₂ (fun t o => ∃ c, source.toList[o]? = some c ∧ t.lexeme.toList = [c])
        ((l.tokens ++ [Token.endOfInput]).filter (·.kind = .unrecognized)) places ∧
      places.Pairwise (· < ·) := by
  let found := (Piece.located 0 l.pieces).filter (·.token.kind = .unrecognized)
  have hreports : Located.reports (Scan.of source).tokens =
      found.map fun l => .unrecognized l.token.lexeme l.offset := by
    rw [tokens_of h]
    rfl
  have htokens : (l.tokens ++ [Token.endOfInput]).filter (·.kind = .unrecognized) =
      found.map Located.token := by
    have hend : Token.endOfInput.kind ≠ .unrecognized := by decide
    rw [tokens, ← Piece.map_token_located 0, List.filter_append, List.filter_map]
    simp [found, hend, Function.comp_def]
  refine ⟨found.map Located.offset, ?_, ?_, ?_⟩
  · rw [hreports, htokens, List.zipWith_map, List.zipWith_self]
  · rw [htokens, List.forall₂_map_left_iff, List.forall₂_map_right_iff, List.forall₂_same]
    intro l' hl'
    obtain ⟨hmem, hk⟩ := List.mem_filter.mp hl'
    obtain ⟨c, hlexeme, hsource⟩ :=
      (Piece.wellFormed_of_mem_located hmem).exists_of_unrecognized (of_decide_eq_true hk)
    obtain ⟨before, after, htext, hoffset⟩ := Piece.exists_append_of_mem_located hmem
    refine ⟨c, ?_, hlexeme⟩
    rw [← h, chars, htext, hsource, hoffset, Nat.zero_add]
    simp
  · rw [List.pairwise_map]
    exact (Piece.pairwise_offset_located l.pieces 0).filter _

end Layout

/-- **The events of a scan agree with its result.** The walk of a cursor through a text reports
    the events of the scan. If the text has a stream, they are: for each unrecognized token of the
    stream, in its order, a report of its one character with the index of that character, each
    index larger than the one before; and then the number of characters of the text and of tokens
    of the stream. If a literal is not closed, they are the reports of the text in front of it, and
    then the quote that opens it. So only the last event is at the debug level, and its message says
    which of the two it is. All the others say that a character is unrecognized, and the places
    that they name lie in the text, and in front of the literal that is not closed. -/
theorem events_agree (source : String) :
    (∃ w : Walk, w.events.reverse = events source ∧ walk source =
      match tokenize source with
      | .ok ts => .ok ts w
      | .error e => .error (.unclosed e.offset) w) ∧
    (∀ ts, tokenize source = .ok ts → ∃ places : List Nat,
      events source =
        List.zipWith (fun t o => .unrecognized t.lexeme o)
          (ts.filter (·.kind = .unrecognized)) places ++ [.finished source.length ts.length] ∧
      List.Forall₂ (fun t o => ∃ c, source.toList[o]? = some c ∧ t.lexeme.toList = [c])
        (ts.filter (·.kind = .unrecognized)) places ∧
      places.Pairwise (· < ·)) ∧
    (∀ k, tokenize source = .error (.unterminatedString k) →
      events source = (events (.ofList (source.toList.take k))).filter (·.level = .trace) ++
        [.unterminatedString k]) ∧
    ∃ reports last, events source = reports ++ [last] ∧ last.level = .debug ∧
      last.message =
        (match tokenize source with
        | .ok _ => "tokenized source"
        | .error _ => "unterminated string literal") ∧
      ∀ e ∈ reports, e.level = .trace ∧ e.message = "unrecognized character" ∧
        ∃ lexeme o, e = .unrecognized lexeme o ∧ o < source.length ∧
          ∀ k, tokenize source = .error (.unterminatedString k) → o < k := by
  obtain ⟨w, hrun, hevents, -⟩ := walk_eq source
  obtain ⟨l, hl⟩ := Layout.exists_chars_eq source.toList
  have heq := Layout.events_eq hl
  refine ⟨⟨w, ?_, hrun.trans (Walker.ending_of source w)⟩, fun ts hts => ?_, fun k hk => ?_, ?_⟩
  · rw [hevents, List.reverse_reverse]
  · rw [Layout.tokenize_eq hl, Layout.result_eq_ok_iff] at hts
    obtain ⟨hnone, rfl⟩ := hts
    obtain ⟨places, hreports, hplaces, hpairwise⟩ := Layout.exists_places hl
    refine ⟨places, ?_, hplaces, hpairwise⟩
    rw [heq, hreports, Layout.outcome, hnone, hl, String.length_toList, List.length_append,
      List.length_singleton]
  · rw [Layout.tokenize_eq hl, Layout.result_eq_error_iff] at hk
    obtain ⟨hsome, hk⟩ := hk
    obtain rfl := ScanError.unterminatedString.inj hk
    obtain ⟨body, hbody⟩ := Option.ne_none_iff_exists'.mp hsome
    rw [heq, Layout.filter_trace_events, Layout.tokens_of_take_stop hl, Layout.outcome, hbody]
  · refine ⟨_, _, heq, l.level_outcome, Layout.message_outcome hl,
      fun e he => ⟨Located.level_of_mem_reports he, ?_⟩⟩
    obtain ⟨found, hfound, rfl⟩ := List.mem_map.mp he
    have hlt := Layout.offset_lt_stop_of_mem_reports hl he
    have hlen := l.length_chars
    rw [hl, String.length_toList] at hlen
    refine ⟨rfl, _, _, rfl, by omega, fun k hk => ?_⟩
    rw [Layout.tokenize_eq hl, Layout.result_eq_error_iff] at hk
    rw [ScanError.unterminatedString.inj hk.2]
    exact hlt

/-- `a!=!_` reports its last two characters, and then that it has five characters and five tokens.
    The quote of `!"_` is not closed, so the `_` behind it is not reported. -/
theorem events_agree_on_bang :
    (∃ first second, events "a!=!_" = [.unrecognized "!" first, .unrecognized "_" second,
        .finished 5 5] ∧
      "a!=!_".toList[first]? = some '!' ∧ "a!=!_".toList[second]? = some '_' ∧
      first < second) ∧
    events "!\"_" = [.unrecognized "!" 0, .unterminatedString 1] := by
  have hstream : tokenize "a!=!_" = .ok [Token.ofChars .identifier ['a'],
      Token.ofChars .notEqual ['!', '='], Token.ofChars .unrecognized ['!'],
      Token.ofChars .unrecognized ['_'], Token.endOfInput] := by decide +kernel
  have hfilter : [Token.ofChars .identifier ['a'], Token.ofChars .notEqual ['!', '='],
      Token.ofChars .unrecognized ['!'], Token.ofChars .unrecognized ['_'],
      Token.endOfInput].filter (·.kind = .unrecognized) =
      [Token.ofChars .unrecognized ['!'], Token.ofChars .unrecognized ['_']] := by decide
  have hopen : tokenize "!\"_" = .error (.unterminatedString 1) := by decide +kernel
  have hfront : (events (.ofList ("!\"_".toList.take 1))).filter (·.level = .trace) =
      [.unrecognized "!" 0] := by decide +kernel
  constructor
  · obtain ⟨places, hevents, hplaces, hpairwise⟩ := (events_agree "a!=!_").2.1 _ hstream
    rw [hfilter] at hevents hplaces
    cases hplaces with
    | cons hfirst hplaces =>
      cases hplaces with
      | cons hsecond hplaces =>
        cases hplaces
        obtain ⟨c, hc, hc'⟩ := hfirst
        obtain ⟨d, hd, hd'⟩ := hsecond
        rw [Token.toList_lexeme_ofChars, List.singleton_inj] at hc' hd'
        subst hc' hd'
        exact ⟨_, _, hevents, hc, hd, by simpa using hpairwise⟩
  · rw [(events_agree "!\"_").2.2.1 1 hopen, hfront]
    rfl

end ScriptLexer
