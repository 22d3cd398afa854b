import PathGlob.Proofs.Pattern.Stop
import PathGlob.Proofs.Text.Bytes

/-!
# PathGlob.Proofs.Pattern.StrayCloser

**A stray closer cannot be repaired by what follows it.** Where a text is refused for a `]` or a `}`
that closes nothing, every text with the same beginning is refused at the same place for the same
reason (`parse_stray_closer`).

The rules look ahead, but never over the end of what they read: which fragments a piece starts with
depends on the first character behind them and on nothing after it (`WrittenFirst.change_rest`). So
a text that goes on differently after the place stops there as well, provided that no fragment
starts there either (`Stops.change_after`), and a closer starts none whatever comes after it. Of an
opening bracket or brace this is not true, as a later closer may complete it.
-/

namespace PathGlob.Pattern

variable {s t text rest : Text} {c : Char} {reason : Reason} {pieces : List Text} {place : Place}
  {fault : Fault}

/-! ### Another text after the place -/

/-- Reading stops at the same character of a text that goes on differently after it, if no fragment
starts with the character there. -/
theorem Stops.change_after {later : List Text} (h : Stops pieces place reason)
    (stuck : Stuck place.char rest reason) :
    Stops (Place.pieces { place with rest, later }) { place with rest, later } reason := by
  induction h with
  | here first _ =>
    obtain ⟨taken, same, change⟩ := first.change_rest
    obtain rfl := List.append_cancel_right same
    exact .here (change _ (.inr rfl)) stuck
  | behind written _ ih => exact .behind written (ih stuck)

/-- Another text after the character changes the end of its piece and the pieces behind it. -/
theorem Stops.exists_pieces (h : Stops (Text.pieces separator text) place reason) (after : Text) :
    ∃ rest later, Text.pieces separator (place.before ++ place.char :: after) =
      Place.pieces { place with rest, later } := by
  have ne : place.char ≠ separator := (stuck_iff.1 h.stuck).1
  cases cut : Text.pieces separator after with
  | nil => exact absurd cut (Text.pieces_ne_nil separator after)
  | cons rest later =>
    have more : Text.pieces separator (place.char :: after) = (place.char :: rest) :: later := by
      rw [Text.pieces, if_neg ne, cut, List.modifyHead_cons]
    exact ⟨rest, later, Text.pieces_append h.pieces_before more⟩

/-! ### Closers -/

/-- A closer starts no fragment, whatever comes after it. -/
theorem Stuck.of_closer (h : Stuck c rest reason)
    (closer : reason = .unmatchedBracket ∨ reason = .unmatchedBrace) (other : Text) :
    Stuck c other reason := by
  cases h with
  | bracket => exact .bracket other
  | brace => exact .brace other
  | unterminated => simp at closer
  | malformed => simp at closer

/-- Every character at which reading stops is one byte. -/
theorem Stuck.utf8Size_eq (h : Stuck c rest reason) : c.utf8Size = 1 := by
  cases h <;> rfl

/-! ### Main result -/

/-- **Stray closers are final.** If a text is refused for a bracket or a brace that closes nothing,
every text with the same bytes up to and with that character is refused at the same position for the
same reason. -/
theorem parse_stray_closer (refused : parse s = .error fault)
    (closer : fault.reason = .unmatchedBracket ∨ fault.reason = .unmatchedBrace)
    (agree : (Text.toBytes t).take (fault.position + 1) =
      (Text.toBytes s).take (fault.position + 1)) :
    parse t = .error
      { pattern := t, position := fault.position, reason := fault.reason } := by
  obtain ⟨-, place, stops, position⟩ := parse_eq_error_iff.1 refused
  have bytes : Text.toBytes (place.before ++ [place.char]) =
      (Text.toBytes s).take (fault.position + 1) := by
    rw [stops.text_eq, List.append_cons, ← Text.take_toBytes_append _ place.after]
    simp [stops.stuck.utf8Size_eq, position]
  have begins : place.before ++ [place.char] <+: t := by
    rw [← Text.toBytes_isPrefix_iff, bytes, ← agree]
    exact List.take_prefix _ _
  obtain ⟨after, same⟩ := begins
  rw [← List.append_cons] at same
  obtain ⟨rest, later, cut⟩ := stops.exists_pieces after
  have again : Stops (Text.pieces separator t) { place with rest, later } fault.reason := by
    rw [← same, cut]
    exact stops.change_after (stops.stuck.of_closer closer rest)
  exact parse_eq_error_iff.2 ⟨rfl, _, again, position⟩

/-- The bracket behind an escaped one is a stray closer, also with a class after it. -/
theorem parse_stray_closer_escaped :
    parse "é/a\\]]b".toList = .error ⟨"é/a\\]]b".toList, 6, .unmatchedBracket⟩ ∧
      (Text.toBytes "é/a\\]][!]]/[".toList).take 7 = (Text.toBytes "é/a\\]]b".toList).take 7 ∧
      parse "é/a\\]][!]]/[".toList =
        .error ⟨"é/a\\]][!]]/[".toList, 6, .unmatchedBracket⟩ := by
  have refused : parse "é/a\\]]b".toList =
      .error ⟨"é/a\\]]b".toList, 6, .unmatchedBracket⟩ := by decide +kernel
  have agree : (Text.toBytes "é/a\\]][!]]/[".toList).take 7 =
      (Text.toBytes "é/a\\]]b".toList).take 7 := by decide +kernel
  exact ⟨refused, agree, parse_stray_closer refused (.inl rfl) agree⟩

end PathGlob.Pattern
