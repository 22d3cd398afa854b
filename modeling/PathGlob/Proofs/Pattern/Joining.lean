import PathGlob.Proofs.Pattern.Stop

/-!
# PathGlob.Proofs.Pattern.Joining

**Reading goes piece by piece.** The text of two texts with a slash between them is read as the
patterns of the two, one after the other; if the first of them is refused it is refused at the same
place, and otherwise where the second one is, counted from behind the slash (`parse_slash`).

Nothing reaches over the slash, neither an escape nor a class nor a group, as the pieces of the
whole are the pieces of the two texts. So all that has to be shown is that a place where reading
stops is still there with more pieces behind it (`Stops.append`), and with more pieces in front of
it that can be read (`WrittenPieces.stops_append`).
-/

namespace PathGlob.Pattern

variable {first second : List Text} {front : Pattern} {place : Place} {reason : Reason}

/-! ### Places with more pieces around them -/

/-- Pieces behind the one that cannot be read are not looked at. -/
theorem Stops.append (h : Stops first place reason) (second : List Text) :
    Stops (first ++ second) { place with later := place.later ++ second } reason := by
  induction h with
  | here written stuck => exact .here written stuck
  | behind written _ ih => exact .behind written ih

/-- Behind pieces that can be read, reading stops where it stopped without them. -/
theorem WrittenPieces.stops_append (written : WrittenPieces first front)
    (h : Stops second place reason) :
    Stops (first ++ second) { place with earlier := first ++ place.earlier } reason := by
  induction written with
  | nil => exact h
  | cons piece _ ih => exact .behind piece ih

/-! ### Main result -/

/-- **A slash between two texts.** If both are patterns, so is the whole, and its components are
those of the first and then those of the second. If the first is no pattern, the whole has the
fault of the first, whatever the second may be. If only the second is no pattern, the whole has its
fault, further back by the bytes of the first and the one of the slash. -/
theorem parse_slash (s t : Text) :
    (∀ front back, parse s = .ok front → parse t = .ok back →
      parse (s ++ separator :: t) = .ok (front ++ back)) ∧
    (∀ fault, parse s = .error fault →
      parse (s ++ separator :: t) = .error
        { pattern := s ++ separator :: t, position := fault.position, reason := fault.reason }) ∧
    ∀ front fault, parse s = .ok front → parse t = .error fault →
      parse (s ++ separator :: t) = .error
        { pattern := s ++ separator :: t
          position := s.byteLength + 1 + fault.position
          reason := fault.reason } := by
  have pieces := Text.pieces_append_cons separator s t
  refine ⟨fun front back readS readT => ?_, fun fault stuckS => ?_,
    fun front fault readS stuckT => ?_⟩
  · rw [parse_eq_ok_iff] at readS readT ⊢
    exact readS.slash readT
  · obtain ⟨-, place, stops, position⟩ := parse_eq_error_iff.1 stuckS
    have inside := stops.append (Text.pieces separator t)
    rw [← pieces] at inside
    exact parse_eq_error_iff.2 ⟨rfl, _, inside, position⟩
  · obtain ⟨-, place, stops, position⟩ := parse_eq_error_iff.1 stuckT
    have behind := (parse_eq_ok_iff.1 readS).stops_append stops
    rw [← pieces] at behind
    refine parse_eq_error_iff.2 ⟨rfl, _, behind, ?_⟩
    have slash : separator.utf8Size = 1 := rfl
    rw [Place.before_append (Text.pieces_ne_nil separator s), Text.join_pieces,
      Text.byteLength_append, Text.byteLength_cons, slash, ← position, Nat.add_assoc]

/-- A backslash in front of the slash and a bracket that is open at it, with characters of two bytes
on both sides. -/
theorem parse_slash_open :
    (parse "é\\".toList = .ok [.segment [.literal ['é'], .literal ['\\']]] ∧
      parse "**".toList = .ok [.doubleStar] ∧
      parse "é\\/**".toList = .ok [.segment [.literal ['é'], .literal ['\\']], .doubleStar]) ∧
    (parse "ü[".toList = .error ⟨"ü[".toList, 2, .unterminatedClass⟩ ∧
      parse "ü[/]".toList = .error ⟨"ü[/]".toList, 2, .unterminatedClass⟩) ∧
    (parse "/ü]".toList = .error ⟨"/ü]".toList, 3, .unmatchedBracket⟩ ∧
      parse "é\\//ü]".toList = .error ⟨"é\\//ü]".toList, 7, .unmatchedBracket⟩) := by
  have read : parse "é\\".toList = .ok [.segment [.literal ['é'], .literal ['\\']]] := by
    decide +kernel
  have stars : parse "**".toList = .ok [.doubleStar] := by decide +kernel
  have opened : parse "ü[".toList = .error ⟨"ü[".toList, 2, .unterminatedClass⟩ := by
    decide +kernel
  have closed : parse "/ü]".toList = .error ⟨"/ü]".toList, 3, .unmatchedBracket⟩ := by
    decide +kernel
  exact ⟨⟨read, stars, (parse_slash _ _).1 _ _ read stars⟩,
    ⟨opened, (parse_slash _ "]".toList).2.1 _ opened⟩,
    closed, (parse_slash _ _).2.2 _ _ read closed⟩

end PathGlob.Pattern
