import PathGlob.Pattern.Stop
import PathGlob.Proofs.Except
import PathGlob.Proofs.Pattern.Grammar

/-!
# PathGlob.Proofs.Pattern.Stop

**The parser refuses a text exactly where the grammar stops** (`parse_eq_error_iff`). The reason is
read off one character, so what has to be shown is that this character tells it: at a place in a
piece no rule applies if and only if one of the four causes holds (`stuck_iff`).

What stands in front of the place is a pattern on its own (`Stops.parse_before`). A trailing
backslash depends on the end of the piece, and nothing can be left over after it; a run of plain
characters depends on the character that ends it. Every other fragment is written in the same way
whatever comes after it (`Written.change_rest`).
-/

namespace PathGlob.Pattern

variable {s rest piece text : Text} {f : Fragment} {c : Char} {reason : Reason}
  {pieces : List Text} {place : Place} {fault : Fault}

/-! ### Where no rule applies -/

theorem toBracket?_eq_none_iff : toBracket? s = none ↔ ']' ∉ s := by
  rw [Option.eq_none_iff_forall_ne_some]
  constructor
  · intro none mem
    obtain ⟨body, rest, same, before⟩ := List.eq_append_cons_of_mem mem
    exact none _ (toBracket?_eq_some_iff.2 ⟨before, same⟩)
  · rintro noBracket ⟨body, rest⟩ read
    obtain ⟨-, rfl⟩ := toBracket?_eq_some_iff.1 read
    simp at noBracket

theorem skip_of_ne (h : ∀ rest, s ≠ c :: rest) : skip c s = s := by
  cases s with
  | nil => rfl
  | cons d s =>
    have ne : d ≠ c := fun same => h s (same ▸ rfl)
    simp [skip, ne]

theorem contents?_eq_none_iff : contents? s = none ↔ ']' ∉ skip ']' s := by
  unfold contents?
  split
  · next s => simp [skip, toBracket?_eq_none_iff]
  · next notBracket => rw [skip_of_ne notBracket, toBracket?_eq_none_iff]

theorem class?_eq_none_iff : class? s = none ↔ ']' ∉ skip ']' (skip '!' s) := by
  unfold class?
  split
  · next s => simp [skip, contents?_eq_none_iff]
  · next noSign => rw [skip_of_ne noSign, Option.map_eq_none_iff, contents?_eq_none_iff]

theorem group?_eq_none_iff :
    group? s = none ↔ ∀ items after, IsGroup items → s ≠ Text.join ',' items ++ '}' :: after := by
  rw [Option.eq_none_iff_forall_ne_some]
  constructor
  · intro none items after isGroup same
    exact none _ (group?_eq_some_iff.2 ⟨items, isGroup, same, rfl⟩)
  · rintro noGroup ⟨f, rest⟩ read
    obtain ⟨items, isGroup, same, -⟩ := group?_eq_some_iff.1 read
    exact noGroup items rest isGroup same

/-- No fragment starts at a character of a piece if and only if the character tells why. -/
theorem stuck_iff :
    Stuck c rest reason ↔
      c ≠ separator ∧ fragment? (c :: rest) = none ∧ Reason.ofLeftover (c :: rest) = reason := by
  constructor
  · intro h
    cases h with
    | bracket => exact ⟨by decide, rfl, rfl⟩
    | brace => exact ⟨by decide, rfl, rfl⟩
    | unterminated h => exact ⟨by decide, class?_eq_none_iff.2 h, rfl⟩
    | malformed h => exact ⟨by decide, group?_eq_none_iff.2 h, rfl⟩
  · rintro ⟨ne, none, rfl⟩
    unfold fragment? at none
    split at none
    case h_1 same => cases same
    case h_6 same =>
      cases same
      exact .malformed (group?_eq_none_iff.1 none)
    case h_7 same =>
      cases same
      exact .unterminated (class?_eq_none_iff.1 none)
    case h_8 trailing escaped question asterisk brace bracket same =>
      cases same
      have notPlain : isPlain c = false := by simpa using none
      have notEscape : c ≠ '\\' := by
        intro same
        cases rest with
        | nil => exact trailing same rfl
        | cons d rest => exact escaped d rest same rfl
      -- Of the special characters only the closing ones start nothing.
      have closing : c = '}' ∨ c = ']' := by
        simp [isPlain, isSpecial] at notPlain
        by_contra other
        rw [not_or] at other
        exact notEscape (notPlain asterisk brace other.1 bracket other.2 question ne)
      rcases closing with rfl | rfl
      · exact .brace rest
      · exact .bracket rest
    all_goals cases none

theorem Stuck.not_written (h : Stuck c rest reason) (other : Fragment) (after : Text) :
    ¬ Written (c :: rest) other after := by
  intro written
  have none := (stuck_iff.1 h).2.1
  simp [fragment?_of_written written] at none

/-! ### In front of the place -/

/-- A fragment is written in the same way in front of every text that is empty or starts like what
comes after it. -/
theorem Written.change_rest (h : Written s f rest) :
    ∃ taken, s = taken ++ rest ∧
      ∀ other, other = [] ∨ other.head? = rest.head? → Written (taken ++ other) f other := by
  cases h with
  | escaped c => exact ⟨['\\', c], rfl, fun other _ => .escaped c other⟩
  | trailing =>
    refine ⟨['\\'], rfl, fun other alike => ?_⟩
    obtain rfl : other = [] := by simpa using alike
    exact .trailing
  | anyChar => exact ⟨['?'], rfl, fun other _ => .anyChar other⟩
  | anyText => exact ⟨['*'], rfl, fun other _ => .anyText other⟩
  | group items _ isGroup =>
    refine ⟨'{' :: Text.join ',' items ++ ['}'], by simp, fun other _ => ?_⟩
    simpa using Written.group items other isGroup
  | negatedClass contents _ isContents =>
    refine ⟨'[' :: '!' :: contents ++ [']'], by simp, fun other _ => ?_⟩
    simpa using Written.negatedClass contents other isContents
  | charClass contents _ isContents noSign =>
    refine ⟨'[' :: contents ++ [']'], by simp, fun other _ => ?_⟩
    simpa using Written.charClass contents other isContents noSign
  | plain run _ ne plain stops =>
    refine ⟨run, rfl, fun other alike => .plain run other ne plain fun c head => ?_⟩
    rcases alike with rfl | alike
    · cases head
    · exact stops c (alike ▸ head)

/-- So are the fragments that a text starts with. -/
theorem WrittenFirst.change_rest {all : List Fragment} (h : WrittenFirst s all rest) :
    ∃ taken, s = taken ++ rest ∧
      ∀ other, other = [] ∨ other.head? = rest.head? → WrittenFirst (taken ++ other) all other := by
  induction h with
  | nil rest => exact ⟨[], rfl, fun other _ => .nil other⟩
  | @cons _ _ rest _ _ written _ ih =>
    obtain ⟨more, rfl, change⟩ := ih
    obtain ⟨taken, rfl, first⟩ := written.change_rest
    refine ⟨taken ++ more, by simp, fun other alike => ?_⟩
    have start : more ++ other = [] ∨ (more ++ other).head? = (more ++ rest).head? := by
      cases more with
      | nil => exact alike
      | cons c more => exact .inr rfl
    rw [List.append_assoc]
    exact .cons (first _ start) (change other alike)

/-- Fragments that a text starts with are all there is in the text up to their end. -/
theorem WrittenFirst.cut_short {all : List Fragment} (h : WrittenFirst s all rest) :
    ∃ taken, s = taken ++ rest ∧ WrittenAll taken all := by
  obtain ⟨taken, same, change⟩ := h.change_rest
  have short := change [] (.inl rfl)
  rw [List.append_nil] at short
  exact ⟨taken, same, writtenFirst_nil_iff.1 short⟩

/-! ### Refused pieces and texts -/

theorem ofPiece_of_stuck {front : Text} {all : List Fragment}
    (first : WrittenFirst (front ++ c :: rest) all (c :: rest)) (stuck : Stuck c rest reason) :
    ofPiece (front ++ c :: rest) = .error (Text.byteLength front, reason) := by
  obtain ⟨-, none, why⟩ := stuck_iff.1 stuck
  have read := fragments_eq_iff.2 ⟨first, none⟩
  -- Two asterisks are read to their end, so the piece is another one.
  have ne : front ++ c :: rest ≠ ['*', '*'] := by
    intro same
    have stars : WrittenAll ['*', '*'] [.anyText, .anyText] :=
      .cons (.anyText _) (.cons (.anyText _) .nil)
    rw [same, fragments_eq_nil_iff.2 stars] at read
    simp at read
  simp [ofPiece, ne, read, why]

theorem exists_stuck_of_ofPiece (free : separator ∉ piece) {position : Nat}
    (h : ofPiece piece = .error (position, reason)) :
    ∃ front c rest fragments, piece = front ++ c :: rest ∧
      WrittenFirst piece fragments (c :: rest) ∧ Stuck c rest reason ∧
      position = Text.byteLength front := by
  unfold ofPiece at h
  split at h
  · cases h
  split at h
  · cases h
  · next all leftover more read =>
    cases h
    obtain ⟨first, stops⟩ := fragments_eq_iff.1 read
    cases leftover with
    | nil => exact (more rfl).elim
    | cons c rest =>
      obtain ⟨front, rfl, -⟩ := first.cut_short
      have ne : c ≠ separator := fun same => free (by simp [same])
      exact ⟨front, c, rest, all, rfl, first, stuck_iff.2 ⟨ne, stops, rfl⟩, by simp⟩

/-- Pieces that are put in front of a place stand before it, with the separator behind them. -/
theorem Place.before_append (ne : pieces ≠ []) (place : Place) :
    Place.before { place with earlier := pieces ++ place.earlier } =
      Text.join separator pieces ++ separator :: place.before := by
  show Text.join separator (pieces ++ place.earlier ++ [place.front]) = _
  rw [List.append_assoc, Text.join_append separator ne (by simp)]
  rfl

theorem Place.before_behind (piece : Text) (place : Place) :
    (place.behind piece).before = piece ++ separator :: place.before :=
  place.before_append (List.cons_ne_nil piece [])

theorem ofPieces_eq_error_iff (free : ∀ piece ∈ pieces, separator ∉ piece)
    (offset position : Nat) :
    ofPieces offset pieces = .error (position, reason) ↔
      ∃ place, Stops pieces place reason ∧ position = offset + place.before.byteLength := by
  induction pieces generalizing offset position with
  | nil =>
    constructor
    · intro h
      cases h
    · rintro ⟨place, stops, -⟩
      cases stops
  | cons piece pieces ih =>
    rw [List.forall_mem_cons] at free
    rw [ofPieces]
    cases read : ofPiece piece with
    | error stop =>
      constructor
      · rintro ⟨⟩
        obtain ⟨front, c, rest, all, rfl, first, stuck, same⟩ :=
          exists_stuck_of_ofPiece free.1 read
        exact ⟨_, .here first stuck, by rw [same]; rfl⟩
      · rintro ⟨place, stops, rfl⟩
        cases stops with
        | here first stuck =>
          rw [ofPiece_of_stuck first stuck] at read
          cases read
          rfl
        | behind written _ => simp [ofPiece_eq_ok_iff.2 written] at read
    | ok component =>
      -- The offset moves past the piece and the separator.
      have step (place : Place) : offset + (place.behind piece).before.byteLength =
          offset + piece.byteLength + separator.utf8Size + place.before.byteLength := by
        rw [Place.before_behind, Text.byteLength_append, Text.byteLength_cons]
        omega
      rw [map_eq_error_iff, ih free.2]
      constructor
      · rintro ⟨place, stops, rfl⟩
        exact ⟨_, .behind (ofPiece_eq_ok_iff.1 read) stops, (step place).symm⟩
      · rintro ⟨place, stops, rfl⟩
        cases stops with
        | here first stuck => simp [ofPiece_of_stuck first stuck] at read
        | behind _ stops => exact ⟨_, stops, step _⟩

/-- A text is refused if and only if its pieces stop being a pattern at a place, and the fault names
the place and the reason. -/
theorem parse_eq_error_iff :
    parse text = .error fault ↔
      fault.pattern = text ∧ ∃ place, Stops (Text.pieces separator text) place fault.reason ∧
        fault.position = place.before.byteLength := by
  obtain ⟨pattern, position, reason⟩ := fault
  have free : ∀ piece ∈ Text.pieces separator text, separator ∉ piece :=
    fun _ => Text.not_mem_of_mem_pieces
  have stops : ofPieces 0 (Text.pieces separator text) = .error (position, reason) ↔
      ∃ place, Stops (Text.pieces separator text) place reason ∧
        position = place.before.byteLength := by
    simpa using ofPieces_eq_error_iff free 0 position
  rw [← stops, parse]
  cases ofPieces 0 (Text.pieces separator text) with
  | ok pattern => simp [Except.mapError]
  | error stop => simp [Except.mapError, Prod.ext_iff, eq_comm]

/-! ### What a stop says of the text -/

theorem Stops.pieces_eq (h : Stops pieces place reason) : pieces = place.pieces := by
  induction h with
  | here => rfl
  | behind _ _ ih =>
    rw [ih]
    rfl

theorem Stops.stuck (h : Stops pieces place reason) : Stuck place.char place.rest reason := by
  induction h with
  | here _ stuck => exact stuck
  | behind _ _ ih => exact ih

theorem Stops.earlier_written (h : Stops pieces place reason) :
    ∀ piece ∈ place.earlier, ∃ component, WrittenPiece piece component := by
  induction h with
  | here => simp
  | behind written _ ih => exact List.forall_mem_cons.2 ⟨⟨_, written⟩, ih⟩

theorem Stops.front_written (h : Stops pieces place reason) :
    ∃ fragments, WrittenAll place.front fragments := by
  induction h with
  | here first _ =>
    obtain ⟨taken, same, writtenAll⟩ := first.cut_short
    exact ⟨_, List.append_cancel_right same ▸ writtenAll⟩
  | behind _ _ ih => exact ih

theorem Place.join_pieces (place : Place) :
    Text.join separator place.pieces = place.before ++ place.char :: place.after := by
  rw [pieces, Text.join_append_piece, Text.join_cons_cons]
  rfl

/-- The text is cut by the place into what is in front of it, its character and what is after. -/
theorem Stops.text_eq (h : Stops (Text.pieces separator text) place reason) :
    text = place.before ++ place.char :: place.after := by
  rw [← place.join_pieces, ← h.pieces_eq, Text.join_pieces]

/-- The text in front of the place is cut at its slashes like the whole text. -/
theorem Stops.pieces_before (h : Stops (Text.pieces separator text) place reason) :
    Text.pieces separator place.before = place.earlier ++ [place.front] := by
  have free : ∀ piece ∈ place.pieces, separator ∉ piece :=
    h.pieces_eq ▸ fun _ => Text.not_mem_of_mem_pieces
  refine Text.pieces_join (by simp) fun item mem => ?_
  rcases List.mem_append.1 mem with mem | mem
  · exact free item (by simp [Place.pieces, mem])
  · have inPiece := free (place.front ++ place.char :: place.rest) (by simp [Place.pieces])
    rw [List.mem_singleton.1 mem]
    exact fun inFront => inPiece (List.mem_append_left _ inFront)

/-- Up to the place, the text is a pattern. -/
theorem Stops.parse_before (h : Stops (Text.pieces separator text) place reason) :
    ∃ pattern, parse place.before = .ok pattern := by
  obtain ⟨_, front⟩ := h.front_written
  simp only [parse_eq_ok_iff, WrittenPattern, h.pieces_before]
  refine writtenPieces_iff.2 fun piece mem => ?_
  rcases List.mem_append.1 mem with mem | mem
  · exact h.earlier_written piece mem
  · rw [List.mem_singleton.1 mem]
    exact front.writtenPiece

theorem Stuck.ne_unexpected (h : Stuck c rest reason) : reason ≠ .unexpected := by
  cases h <;> simp

/-- The fault of a text tells a place in it, and everything in front of the place is in order. -/
theorem exists_located (h : parse text = .error fault) : ∃ place, Located text fault place := by
  obtain ⟨pattern, place, stops, position⟩ := parse_eq_error_iff.1 h
  have split := stops.text_eq
  have bytes : text.toBytes =
      place.before.toBytes ++ Text.toBytes (place.char :: place.after) := by
    rw [← Text.toBytes_append, ← split]
  have length : fault.position = place.before.toBytes.length := by
    rw [position, Text.length_toBytes]
  exact ⟨place, {
    pattern, split
    cut := Text.cut_iff.2 stops.pieces_eq.symm
    bytes := by rw [bytes, length, List.take_left]
    inside := by
      have := place.char.utf8Size_pos
      simp [bytes, length]
      omega
    stuck := stops.stuck
    known := stops.stuck.ne_unexpected
    before := stops.parse_before
    earlier := stops.earlier_written
    front := stops.front_written
    none := stops.stuck.not_written }⟩

end PathGlob.Pattern
