import MessageExpr.Proofs.Run.Answers

/-!
# Splitting and joining

A text is cut at the leftmost occurrences of a separator that do not overlap: the first one is the
leftmost in the text, and each further one is the leftmost behind the end of the one before
(`LeftmostFrom`). The text determines their positions (`LeftmostFrom.unique`), and splitting finds
them: its answer is the pieces between them (`piecesAround_eq`). No piece has the separator in it,
and joining the pieces by the separator gives the text back.

The two messages that split a text and join an array do the same (`joining_undoes_splitting`).
-/

set_option autoImplicit false

namespace MessageExpr.Text

/-! ## Occurrences -/

/-- The separator stands in the text at a position. -/
def OccursAt (separator text : List Char) (position : Nat) : Prop :=
  separator <+: text.drop position

/-- The positions, from one on, of the leftmost occurrences that do not overlap. -/
inductive LeftmostFrom (separator text : List Char) : Nat → List Nat → Prop where
  | last {start : Nat}
      (absent : ∀ position, start ≤ position → ¬ OccursAt separator text position) :
      LeftmostFrom separator text start []
  | next {start position : Nat} {positions : List Nat} (behind : start ≤ position)
      (occurs : OccursAt separator text position)
      (leftmost : ∀ earlier, start ≤ earlier → earlier < position →
        ¬ OccursAt separator text earlier)
      (others : LeftmostFrom separator text (position + separator.length) positions) :
      LeftmostFrom separator text start (position :: positions)

/-- The pieces of a text, from a position on, that occurrences at these positions leave. -/
def piecesBetween (separator text : List Char) : Nat → List Nat → List (List Char)
  | start, [] => [text.drop start]
  | start, position :: positions =>
    (text.drop start).take (position - start) ::
      piecesBetween separator text (position + separator.length) positions

section Occurrences

variable {separator text : List Char} {start : Nat} {positions : List Nat}

/-- **There is one list of leftmost occurrences.** -/
theorem LeftmostFrom.unique {others : List Nat}
    (found : LeftmostFrom separator text start positions)
    (also : LeftmostFrom separator text start others) : positions = others := by
  induction found generalizing others with
  | last absent =>
      cases also with
      | last => rfl
      | next behind occurs => exact absurd occurs (absent _ behind)
  | @next start position positions behind occurs leftmost rest ih =>
      cases also with
      | last absent => exact absurd occurs (absent _ behind)
      | @next _ other others otherBehind otherOccurs otherLeftmost otherRest =>
          have same : position = other := by
            apply Nat.le_antisymm
            · exact Nat.le_of_not_lt fun less => leftmost other otherBehind less otherOccurs
            · exact Nat.le_of_not_lt fun less => otherLeftmost position behind less occurs
          subst same
          rw [ih otherRest]

theorem length_piecesBetween :
    (piecesBetween separator text start positions).length = positions.length + 1 := by
  induction positions generalizing start with
  | nil => rfl
  | cons position positions ih => rw [piecesBetween, List.length_cons, ih, List.length_cons]

/-- What a piece has in it stands in the text, inside that piece. -/
theorem occursAt_of_infix_take {size : Nat} (nonempty : separator ≠ [])
    (inside : separator <:+: (text.drop start).take size) :
    ∃ position, start ≤ position ∧ position < start + size ∧ OccursAt separator text position := by
  obtain ⟨before, after, whole⟩ := inside
  have split : text.drop start =
      before ++ (separator ++ (after ++ (text.drop start).drop size)) := by
    calc text.drop start
        = (text.drop start).take size ++ (text.drop start).drop size :=
          (List.take_append_drop size _).symm
      _ = before ++ (separator ++ (after ++ (text.drop start).drop size)) := by
          rw [← whole]
          simp only [List.append_assoc]
  refine ⟨start + before.length, Nat.le_add_right _ _, ?_, ?_⟩
  · have lengths := congrArg List.length whole
    have positive : 0 < separator.length := List.length_pos_iff.mpr nonempty
    simp only [List.length_append, List.length_take] at lengths
    omega
  · rw [OccursAt, ← List.drop_drop, split, List.drop_left]
    exact List.prefix_append _ _

/-- **No piece has the separator in it.** -/
theorem LeftmostFrom.not_infix (nonempty : separator ≠ [])
    (found : LeftmostFrom separator text start positions) :
    ∀ piece ∈ piecesBetween separator text start positions, ¬ separator <:+: piece := by
  induction found with
  | @last start absent =>
      intro piece member inside
      obtain rfl : piece = text.drop start := List.mem_singleton.mp member
      have whole : (text.drop start).take text.length = text.drop start :=
        List.take_of_length_le (by simp)
      rw [← whole] at inside
      obtain ⟨position, behind, -, occurs⟩ := occursAt_of_infix_take nonempty inside
      exact absent position behind occurs
  | @next start position positions behind occurs leftmost rest ih =>
      intro piece member inside
      rcases List.mem_cons.mp member with rfl | inRest
      · obtain ⟨earlier, fromStart, less, occursEarlier⟩ := occursAt_of_infix_take nonempty inside
        exact leftmost earlier fromStart (by omega) occursEarlier
      · exact ih piece inRest inside

/-- **Joining the pieces gives the text back.** -/
theorem LeftmostFrom.intercalate_piecesBetween
    (found : LeftmostFrom separator text start positions) :
    separator.intercalate (piecesBetween separator text start positions) = text.drop start := by
  induction found with
  | last absent => simp [piecesBetween]
  | @next start position positions behind occurs leftmost rest ih =>
      obtain ⟨after, follows⟩ := occurs
      have atPosition : (text.drop start).drop (position - start) = text.drop position := by
        rw [List.drop_drop, Nat.add_sub_cancel' behind]
      have afterwards : text.drop (position + separator.length) = after := by
        rw [← List.drop_drop, ← follows, List.drop_left]
      have nonempty :
          piecesBetween separator text (position + separator.length) positions ≠ [] := by
        intro none
        have length := congrArg List.length none
        rw [length_piecesBetween] at length
        cases length
      calc separator.intercalate (piecesBetween separator text start (position :: positions))
          = (text.drop start).take (position - start) ++ (separator ++ separator.intercalate
              (piecesBetween separator text (position + separator.length) positions)) := by
            rw [piecesBetween, List.intercalate_cons_of_ne_nil nonempty, List.append_assoc]
        _ = (text.drop start).take (position - start) ++ text.drop position := by
            rw [ih, afterwards, follows]
        _ = text.drop start := by rw [← atPosition, List.take_append_drop]

/-! ## What splitting finds -/

/-- Passing over an occurrence goes on behind it. -/
theorem piecesAround_skip {skip : Nat} (enough : skip ≤ text.length) :
    piecesAround separator skip text = piecesAround separator 0 (text.drop skip) := by
  induction text generalizing skip with
  | nil =>
      obtain rfl : skip = 0 := Nat.le_zero.mp enough
      rfl
  | cons character rest ih =>
      cases skip with
      | zero => rfl
      | succ skip => exact ih (Nat.le_of_succ_le_succ enough)

/-- At an occurrence a piece ends, and the next one starts behind the occurrence. -/
theorem piecesAround_of_occursAt (nonempty : separator ≠ [])
    (occurs : OccursAt separator text start) :
    piecesAround separator 0 (text.drop start) =
      [] :: piecesAround separator 0 (text.drop (start + separator.length)) := by
  obtain ⟨first, others, rfl⟩ := List.exists_cons_of_ne_nil nonempty
  obtain ⟨after, follows⟩ := occurs
  have isPrefix : (first :: others).isPrefixOf (first :: (others ++ after)) = true := by simp
  have afterwards : text.drop (start + (first :: others).length) = after := by
    rw [← List.drop_drop, ← follows, List.drop_left]
  rw [afterwards, ← follows, List.cons_append, piecesAround, if_pos isPrefix, List.length_cons,
    Nat.add_sub_cancel, piecesAround_skip (by simp), List.drop_left]

/-- A character at which there is no occurrence goes to the piece. -/
theorem piecesAround_of_not_occursAt {character : Char} {rest : List Char}
    (here : text.drop start = character :: rest) (absent : ¬ OccursAt separator text start) :
    piecesAround separator 0 (text.drop start) =
      (piecesAround separator 0 (text.drop (start + 1))).modifyHead (character :: ·) := by
  have noPrefix : ¬ separator.isPrefixOf (character :: rest) = true := by
    rw [← here, List.isPrefixOf_iff_prefix]
    exact absent
  rw [← List.drop_drop, here, piecesAround, if_neg noPrefix]
  rfl

/-- Pieces that start one character earlier have this character in the first of them. -/
theorem piecesBetween_earlier {character : Char} {rest : List Char}
    (here : text.drop start = character :: rest)
    (behind : ∀ position ∈ positions.head?, start < position) :
    piecesBetween separator text start positions =
      (piecesBetween separator text (start + 1) positions).modifyHead (character :: ·) := by
  have next : text.drop (start + 1) = rest := by rw [← List.drop_drop, here]; rfl
  cases positions with
  | nil => simp only [piecesBetween, here, next, List.modifyHead_cons]
  | cons position positions =>
      have less : start < position := behind position rfl
      have size : position - start = (position - (start + 1)) + 1 := by omega
      simp only [piecesBetween, here, next, List.modifyHead_cons, size, List.take_succ_cons]

/-- The leftmost occurrences from a position without one are those from the next position on. -/
theorem LeftmostFrom.earlier (found : LeftmostFrom separator text (start + 1) positions)
    (absent : ¬ OccursAt separator text start) : LeftmostFrom separator text start positions := by
  have notHere : ∀ position, start ≤ position → ¬ start + 1 ≤ position →
      ¬ OccursAt separator text position := by
    intro position behind notBehind
    obtain rfl : start = position := by omega
    exact absent
  cases found with
  | last none =>
      refine .last fun position behind => ?_
      by_cases later : start + 1 ≤ position
      · exact none position later
      · exact notHere position behind later
  | next behind occurs leftmost others =>
      refine .next (Nat.le_of_succ_le behind) occurs (fun earlier fromStart less => ?_) others
      by_cases later : start + 1 ≤ earlier
      · exact leftmost earlier later less
      · exact notHere earlier fromStart later

theorem LeftmostFrom.start_le_head (found : LeftmostFrom separator text start positions) :
    ∀ position ∈ positions.head?, start ≤ position := by
  cases found with
  | last => exact fun _ absent => nomatch absent
  | next behind =>
      rintro position ⟨⟩
      exact behind

/-- **Splitting leaves the pieces between the leftmost occurrences.** -/
theorem piecesAround_eq (text : List Char) (nonempty : separator ≠ []) (start : Nat) :
    ∃ positions, LeftmostFrom separator text start positions ∧
      piecesAround separator 0 (text.drop start) =
        piecesBetween separator text start positions := by
  -- What is left of the text gets shorter, by the separator or by one character.
  induction left : text.length - start using Nat.strongRecOn generalizing start with
  | ind left ih =>
      cases here : text.drop start with
      | nil =>
          refine ⟨[], .last fun position behind occurs => nonempty ?_, ?_⟩
          · have ended : text.drop position = [] := by
              rw [List.drop_eq_nil_iff] at here ⊢
              exact Nat.le_trans here behind
            rw [OccursAt, ended] at occurs
            exact List.prefix_nil.mp occurs
          · rw [piecesBetween, here]
            rfl
      | cons character rest =>
          have inText : start < text.length := by
            apply Nat.lt_of_not_le
            intro ended
            rw [List.drop_eq_nil_of_le ended] at here
            cases here
          by_cases occurs : OccursAt separator text start
          · have positive : 0 < separator.length := List.length_pos_iff.mpr nonempty
            obtain ⟨positions, found, pieces⟩ :=
              ih _ (by omega) (start + separator.length) rfl
            refine ⟨start :: positions, ?_, ?_⟩
            · exact .next (Nat.le_refl start) occurs
                (fun earlier fromStart less => absurd less (Nat.not_lt.mpr fromStart)) found
            · rw [← here, piecesAround_of_occursAt nonempty occurs, pieces, piecesBetween,
                Nat.sub_self, List.take_zero]
          · obtain ⟨positions, found, pieces⟩ := ih _ (by omega) (start + 1) rfl
            refine ⟨positions, found.earlier occurs, ?_⟩
            rw [← here, piecesAround_of_not_occursAt here occurs, pieces,
              piecesBetween_earlier here found.start_le_head]

end Occurrences

/-- The pieces that a separator leaves of a text, if it is not empty. -/
theorem toList_splitAt {separator : String} (nonempty : separator ≠ "") (text : String) :
    (splitAt separator text).map String.toList =
      piecesAround separator.toList 0 text.toList := by
  have notEmpty : ¬ separator.isEmpty = true := by simpa using nonempty
  rw [splitAt, if_neg notEmpty, List.map_map]
  exact List.map_id'' (fun piece => String.toList_ofList) _

theorem splitAt_empty (text : String) : splitAt "" text = [text] := rfl

end MessageExpr.Text

namespace MessageExpr

open Text

variable {World : Type}

/-! ## The two messages -/

theorem answersWith_componentsSeparated (context : Context World) (text separator : String) :
    AnswersWith context (.string text) "componentsSeparatedByString:" (some (.string separator))
      (.ok (.array ((splitAt separator text).map .string))) := by
  refine answersWith_of_entry rfl (by simp [Textual.transforming])
    (List.mem_of_getElem? (i := 6) rfl) rfl (by simp) rfl rfl ?_
  rintro _ ⟨⟩
  rfl

theorem answersWith_componentsJoined (context : Context World) (elements : List Value)
    (separator : String) :
    AnswersWith context (.array elements) "componentsJoinedByString:" (some (.string separator))
      (.ok (Collective.joined separator elements)) := by
  refine answersWith_of_entry rfl (by simp) (List.mem_of_getElem? (i := 2) rfl) rfl (by simp) rfl
    rfl ?_
  rintro _ ⟨⟩
  rfl

/-- Texts are joined as they are. -/
theorem joined_strings (separator : String) (texts : List String) :
    Collective.joined separator (texts.map .string) = .string (separator.intercalate texts) := by
  have displayed : (texts.map Value.string).map Value.display = texts := by
    rw [List.map_map]
    exact List.map_id'' (fun text => by simp [Value.display, Value.textWithin]) texts
  rw [Collective.joined, displayed]

theorem intercalate_splitAt (separator text : String) :
    separator.intercalate (splitAt separator text) = text := by
  by_cases isEmpty : separator = ""
  · rw [isEmpty, splitAt_empty, String.intercalate_singleton]
  · have nonempty : separator.toList ≠ [] := mt String.toList_eq_nil_iff.mp isEmpty
    obtain ⟨positions, found, pieces⟩ := piecesAround_eq text.toList nonempty 0
    rw [List.drop_zero] at pieces
    apply String.toList_inj.mp
    rw [String.toList_intercalate, toList_splitAt isEmpty, pieces, found.intercalate_piecesBetween,
      List.drop_zero]

/-- **Joining undoes splitting, and splitting cuts at the leftmost occurrences.** Whatever the
text and the separator, the pieces that the first message answers with are joined to the text by the
second one. An empty separator leaves the whole text as the one piece. Any other has one list of
leftmost occurrences that do not overlap; the pieces are what is between them, so there is one more
of them than occurrences, and no piece has the separator in it. -/
theorem joining_undoes_splitting (context : Context World) (text separator : String) :
    let pieces := splitAt separator text
    AnswersWith context (.string text) "componentsSeparatedByString:" (some (.string separator))
        (.ok (.array (pieces.map .string))) ∧
      AnswersWith context (.array (pieces.map .string)) "componentsJoinedByString:"
        (some (.string separator)) (.ok (.string text)) ∧
      (separator = "" → pieces = [text]) ∧
      (separator ≠ "" → ∃ positions,
        (∀ others, LeftmostFrom separator.toList text.toList 0 others ↔ others = positions) ∧
        pieces.map String.toList = piecesBetween separator.toList text.toList 0 positions ∧
        pieces.length = positions.length + 1 ∧
        ∀ piece ∈ pieces, ¬ separator.toList <:+: piece.toList) := by
  intro pieces
  refine ⟨answersWith_componentsSeparated context text separator, ?joined, ?whole, ?cut⟩
  case joined =>
    have joins := answersWith_componentsJoined context (pieces.map .string) separator
    rw [joined_strings, intercalate_splitAt] at joins
    exact joins
  case whole =>
    rintro rfl
    exact splitAt_empty text
  case cut =>
    intro isNot
    have nonempty : separator.toList ≠ [] := mt String.toList_eq_nil_iff.mp isNot
    obtain ⟨positions, found, between⟩ := piecesAround_eq text.toList nonempty 0
    rw [List.drop_zero, ← toList_splitAt isNot] at between
    refine ⟨positions, fun others => ⟨fun also => also.unique found, ?_⟩, between, ?_, ?_⟩
    · rintro rfl
      exact found
    · rw [← length_piecesBetween, ← between, List.length_map]
    · intro piece member
      apply found.not_infix nonempty
      rw [← between]
      exact List.mem_map_of_mem member

/-- Of the occurrences of a separator that overlap, only the first one cuts; an empty separator does
not cut. -/
theorem joining_undoes_splitting_overlapping :
    (send plainContext (.string "ééé b") "componentsSeparatedByString:"
        (some (.string "éé")) ()).outcome = .value (.array [.string "", .string "é b"]) ∧
      (send plainContext (.array [.string "", .string "é b"]) "componentsJoinedByString:"
        (some (.string "éé")) ()).outcome = .value (.string "ééé b") ∧
      splitAt "" "ééé b" = ["ééé b"] ∧ "éé" ≠ "" ∧
      LeftmostFrom "éé".toList "ééé b".toList 0 [0] := by
  have pieces : splitAt "éé" "ééé b" = ["", "é b"] := by decide
  obtain ⟨splits, joins, -, cut⟩ := joining_undoes_splitting plainContext "ééé b" "éé"
  rw [pieces] at splits joins
  have isNot : "éé" ≠ "" := by decide
  refine ⟨splits.outcome rfl (), joins.outcome rfl (), ?_, isNot, ?_⟩
  · exact (joining_undoes_splitting plainContext "ééé b" "").2.2.1 rfl
  · obtain ⟨positions, unique, between, count, -⟩ := cut isNot
    rw [pieces] at between count
    obtain ⟨position, rfl⟩ := List.length_eq_one_iff.mp (Nat.succ.inj count).symm
    obtain rfl : position = 0 := by
      cases position with
      | zero => rfl
      | succ position => cases between
    exact (unique [0]).mpr rfl

end MessageExpr
