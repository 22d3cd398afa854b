import Mathlib.Data.List.TakeWhile
import PathGlob.Pattern.Grammar
import PathGlob.Proofs.Text.Pieces

/-!
# PathGlob.Proofs.Pattern.Grammar

**The parser reads exactly the grammar.** For every rule of the parser there is an equivalence
between what it reads and how that is written; together they say that `parse` gives a pattern for
a text if and only if the text writes it (`parse_eq_ok_iff`). As the parser is a function, no text
writes two patterns.

The order in which the parser tries its rules plays no part: the first character decides, and a
run of plain characters is as long as it can be on both sides. So there is only one way to read a
piece (`Written.unique`), and a text is refused as soon as a piece of it cannot be read.
-/

namespace PathGlob.Pattern

variable {s rest piece text : Text} {f : Fragment}

/-! ### Reading up to a character -/

/-- A run of characters with a property stops at the first without. -/
theorem span_append_stop {p : Char → Bool} {run : Text} (stop : Char) (rest : Text)
    (h : ∀ c ∈ run, p c = true) (hstop : p stop = false) :
    (run ++ stop :: rest).takeWhile p = run ∧
      (run ++ stop :: rest).dropWhile p = stop :: rest := by
  rw [List.takeWhile_append_of_pos h, List.dropWhile_append_of_pos h,
    List.takeWhile_cons_of_neg (by simp [hstop]), List.dropWhile_cons_of_neg (by simp [hstop])]
  exact ⟨List.append_nil run, rfl⟩

theorem toBracket?_eq_some_iff {body : Text} :
    toBracket? s = some (body, rest) ↔ ']' ∉ body ∧ s = body ++ ']' :: rest := by
  constructor
  · intro h
    unfold toBracket? at h
    split at h
    · next drop =>
      simp only [Option.some.injEq, Prod.mk.injEq] at h
      obtain ⟨rfl, rfl⟩ := h
      refine ⟨fun mem => ?_, ?_⟩
      · have other := List.mem_takeWhile_imp mem
        simp at other
      · rw [← drop, List.takeWhile_append_dropWhile]
    · cases h
  · intro h
    obtain ⟨none, rfl⟩ := h
    have other : ∀ c ∈ body, (c != ']') = true := by
      intro c mem
      rw [bne_iff_ne]
      intro same
      obtain rfl := same
      exact none mem
    obtain ⟨take, drop⟩ := span_append_stop ']' rest other (by decide)
    unfold toBracket?
    simp only [drop, take]

/-! ### Groups and classes -/

theorem group?_eq_some_iff :
    group? s = some (f, rest) ↔
      ∃ items, IsGroup items ∧ s = Text.join ',' items ++ '}' :: rest ∧
        f = .oneOf (.ofList items) := by
  constructor
  · intro h
    simp only [group?] at h
    split at h
    · next drop =>
      split at h
      · next nonempty =>
        simp only [Option.some.injEq, Prod.mk.injEq] at h
        obtain ⟨rfl, rfl⟩ := h
        refine ⟨_, ⟨Text.pieces_ne_nil _ _, fun item mem => ⟨?_, fun c memItem => ?_⟩⟩, ?_, rfl⟩
        · simpa using List.all_eq_true.1 nonempty item mem
        · have body := List.mem_takeWhile_imp (Text.mem_of_mem_piece mem memItem)
          have ne : c ≠ ',' := fun same => Text.not_mem_of_mem_pieces mem (same ▸ memItem)
          simpa [ne] using body
        · rw [Text.join_pieces, ← drop, List.takeWhile_append_dropWhile]
      · cases h
    · cases h
  · intro h
    obtain ⟨items, ⟨ne, group⟩, rfl, rfl⟩ := h
    have body : ∀ c ∈ Text.join ',' items, (isItemChar c || decide (c = ',')) = true := by
      intro c mem
      rcases Text.mem_of_mem_join mem with rfl | ⟨item, memItems, mem⟩
      · rfl
      · rw [(group item memItems).2 c mem, Bool.true_or]
    obtain ⟨take, drop⟩ := span_append_stop '}' rest body (by decide)
    -- Without commas in them, the items are what is found between the commas.
    have noComma : ∀ item ∈ items, ',' ∉ item := by
      intro item mem comma
      have := (group item mem).2 ',' comma
      exact absurd this (by decide)
    have nonempty : items.all (!·.isEmpty) = true := by
      rw [List.all_eq_true]
      intro item mem
      simpa using (group item mem).1
    simp only [group?, drop, take, Text.pieces_join ne noComma, nonempty, if_true]

theorem contents?_eq_some_iff {contents : Text} :
    contents? s = some (contents, rest) ↔
      IsContents contents ∧ s = contents ++ ']' :: rest := by
  unfold contents?
  split
  · next s =>
    rw [Option.map_eq_some_iff]
    constructor
    · intro h
      obtain ⟨⟨body, after⟩, read, same⟩ := h
      obtain ⟨rfl, rfl⟩ := Prod.mk.inj same
      obtain ⟨none, rfl⟩ := toBracket?_eq_some_iff.1 read
      exact ⟨none, rfl⟩
    · intro h
      obtain ⟨isContents, same⟩ := h
      cases contents with
      | nil => exact isContents.elim
      | cons c body =>
        obtain ⟨rfl, rfl⟩ := List.cons.inj same
        exact ⟨(body, rest), toBracket?_eq_some_iff.2 ⟨isContents, rfl⟩, rfl⟩
  · next notBracket =>
    rw [toBracket?_eq_some_iff]
    constructor
    · intro h
      obtain ⟨none, rfl⟩ := h
      cases contents with
      | nil => exact absurd rfl (notBracket rest)
      | cons c body => exact ⟨fun mem => none (List.mem_cons_of_mem c mem), rfl⟩
    · intro h
      obtain ⟨isContents, rfl⟩ := h
      refine ⟨?_, rfl⟩
      cases contents with
      | nil => exact isContents.elim
      | cons c body =>
        rw [List.mem_cons, not_or]
        refine ⟨?_, isContents⟩
        intro same
        obtain rfl := same
        exact notBracket _ rfl

theorem class?_eq_some_iff :
    class? s = some (f, rest) ↔
      ∃ contents, IsContents contents ∧
        (s = '!' :: contents ++ ']' :: rest ∧ f = .charClass true contents ∨
          contents.head? ≠ some '!' ∧ s = contents ++ ']' :: rest ∧
            f = .charClass false contents) := by
  unfold class?
  split
  · next s =>
    rw [Option.map_eq_some_iff]
    constructor
    · intro h
      obtain ⟨⟨contents, after⟩, read, same⟩ := h
      obtain ⟨rfl, rfl⟩ := Prod.mk.inj same
      obtain ⟨isContents, rfl⟩ := contents?_eq_some_iff.1 read
      exact ⟨contents, isContents, Or.inl ⟨rfl, rfl⟩⟩
    · intro h
      obtain ⟨contents, isContents, ⟨same, rfl⟩ | ⟨noSign, same, rfl⟩⟩ := h
      · refine ⟨(contents, rest), contents?_eq_some_iff.2 ⟨isContents, ?_⟩, rfl⟩
        exact (List.cons.inj same).2
      · cases contents with
        | nil => exact isContents.elim
        | cons c body =>
          obtain ⟨rfl, -⟩ := List.cons.inj same
          exact absurd rfl noSign
  · next noSign =>
    rw [Option.map_eq_some_iff]
    constructor
    · intro h
      obtain ⟨⟨contents, after⟩, read, same⟩ := h
      obtain ⟨rfl, rfl⟩ := Prod.mk.inj same
      obtain ⟨isContents, rfl⟩ := contents?_eq_some_iff.1 read
      refine ⟨contents, isContents, Or.inr ⟨fun head => ?_, rfl, rfl⟩⟩
      obtain ⟨body, rfl⟩ := List.head?_eq_some_iff.1 head
      exact noSign _ rfl
    · intro h
      obtain ⟨contents, isContents, ⟨rfl, rfl⟩ | ⟨-, rfl, rfl⟩⟩ := h
      · exact absurd rfl (noSign _)
      · exact ⟨(contents, rest), contents?_eq_some_iff.2 ⟨isContents, rfl⟩, rfl⟩

/-! ### Fragments -/

/-- A plain character starts the longest run of plain characters. -/
theorem fragment?_plain {c : Char} (h : isPlain c = true) :
    fragment? (c :: rest) =
      some (.literal (c :: rest.takeWhile isPlain), rest.dropWhile isPlain) := by
  unfold fragment?
  split
  case h_1 same => cases same
  case h_8 same =>
    obtain ⟨rfl, rfl⟩ := List.cons.inj same
    rw [if_pos h]
  all_goals
    next same =>
      obtain ⟨rfl, -⟩ := List.cons.inj same
      exact absurd h (by decide)

theorem fragment?_of_written (h : Written s f rest) : fragment? s = some (f, rest) := by
  cases h with
  | escaped c => rfl
  | trailing => rfl
  | anyChar => rfl
  | anyText => rfl
  | group items _ isGroup => exact group?_eq_some_iff.2 ⟨items, isGroup, rfl, rfl⟩
  | negatedClass contents _ isContents =>
    exact class?_eq_some_iff.2 ⟨contents, isContents, Or.inl ⟨rfl, rfl⟩⟩
  | charClass contents _ isContents noSign =>
    exact class?_eq_some_iff.2 ⟨contents, isContents, Or.inr ⟨noSign, rfl, rfl⟩⟩
  | plain run _ ne plain stops =>
    cases run with
    | nil => exact absurd rfl ne
    | cons c run =>
      have tail : ∀ d ∈ run, isPlain d = true := fun d mem => plain d (List.mem_cons_of_mem c mem)
      rw [List.cons_append, fragment?_plain (plain c List.mem_cons_self)]
      cases rest with
      | nil =>
        rw [List.append_nil, List.takeWhile_eq_self_iff.2 tail, List.dropWhile_eq_nil_iff.2 tail]
      | cons d rest =>
        obtain ⟨take, drop⟩ := span_append_stop d rest tail (stops d rfl)
        rw [take, drop]

theorem written_of_fragment? (h : fragment? s = some (f, rest)) : Written s f rest := by
  unfold fragment? at h
  split at h
  case h_1 => cases h
  case h_2 =>
    cases h
    exact .trailing
  case h_3 =>
    cases h
    exact .escaped _ rest
  case h_4 =>
    cases h
    exact .anyChar rest
  case h_5 =>
    cases h
    exact .anyText rest
  case h_6 =>
    obtain ⟨items, isGroup, rfl, rfl⟩ := group?_eq_some_iff.1 h
    exact .group items rest isGroup
  case h_7 =>
    obtain ⟨contents, isContents, ⟨rfl, rfl⟩ | ⟨noSign, rfl, rfl⟩⟩ := class?_eq_some_iff.1 h
    · exact .negatedClass contents rest isContents
    · exact .charClass contents rest isContents noSign
  case h_8 c tail _ _ _ _ _ _ =>
    split at h
    · next plain =>
      -- The run is the longest one, so the rest does not go on with a plain character.
      cases h
      have whole : c :: tail = c :: tail.takeWhile isPlain ++ tail.dropWhile isPlain := by
        rw [List.cons_append, List.takeWhile_append_dropWhile]
      rw [whole]
      refine .plain _ _ (List.cons_ne_nil _ _) (fun d mem => ?_) fun d head => ?_
      · rcases List.mem_cons.1 mem with rfl | mem
        · exact plain
        · exact List.mem_takeWhile_imp mem
      · have stop := List.head?_dropWhile_not isPlain tail
        rw [head] at stop
        simpa using stop
    · cases h

/-- The rule that applies to a text and what it reads are what the text starts with. -/
theorem fragment?_eq_some_iff : fragment? s = some (f, rest) ↔ Written s f rest :=
  ⟨written_of_fragment?, fragment?_of_written⟩

/-- At most one fragment can be read at a place. -/
theorem Written.unique {other : Fragment} {after : Text} (h : Written s f rest) :
    Written s other after ↔ other = f ∧ after = rest := by
  rw [← fragment?_eq_some_iff, fragment?_of_written h]
  simp [eq_comm]

/-- Reading goes on as long as a fragment starts. -/
theorem fragments_eq_iff {all : List Fragment} {leftover : Text} :
    fragments s = (all, leftover) ↔ WrittenFirst s all leftover ∧ fragment? leftover = none := by
  fun_induction fragments s generalizing all leftover with
  | case1 s none =>
    constructor
    · rintro ⟨⟩
      exact ⟨.nil s, none⟩
    · rintro ⟨first, -⟩
      cases first with
      | nil => rfl
      | cons written _ => simp [fragment?_of_written written] at none
  | case2 s f rest read more stop tail ih =>
    rw [tail] at ih
    constructor
    · rintro ⟨⟩
      obtain ⟨first, stops⟩ := ih.1 rfl
      exact ⟨.cons (written_of_fragment? read) first, stops⟩
    · rintro ⟨first, stops⟩
      cases first with
      | nil => simp [stops] at read
      | cons written first =>
        obtain ⟨rfl, rfl⟩ := (written_of_fragment? read).unique.1 written
        obtain ⟨rfl, rfl⟩ := Prod.mk.inj (ih.2 ⟨first, stops⟩)
        rfl

theorem WrittenFirst.append {t : Text} {first more : List Fragment}
    (written : WrittenFirst s first t) (further : WrittenFirst t more rest) :
    WrittenFirst s (first ++ more) rest := by
  induction written with
  | nil => exact further
  | cons fragment _ ih => exact .cons fragment (ih further)

theorem writtenFirst_nil_iff {all : List Fragment} : WrittenFirst s all [] ↔ WrittenAll s all := by
  constructor
  · intro h
    generalize whole : ([] : Text) = rest at h
    induction h with
    | nil =>
      subst whole
      exact .nil
    | cons written _ ih => exact .cons written (ih whole)
  · intro h
    induction h with
    | nil => exact .nil []
    | cons written _ ih => exact .cons written ih

theorem fragments_eq_nil_iff {all : List Fragment} :
    fragments s = (all, []) ↔ WrittenAll s all := by
  have stops : fragment? [] = none := rfl
  rw [fragments_eq_iff, writtenFirst_nil_iff]
  simp [stops]

/-! ### Pieces and patterns -/

theorem ofPiece_eq_ok_iff {component : Component (List Fragment)} :
    ofPiece piece = .ok component ↔ WrittenPiece piece component := by
  unfold ofPiece
  split
  · next doubleStar =>
    subst doubleStar
    constructor
    · intro h
      cases h
      exact .doubleStar
    · intro h
      cases h with
      | doubleStar => rfl
      | segment ne _ => exact absurd rfl ne
  · next ne =>
    split
    · next all read =>
      constructor
      · intro h
        cases h
        exact .segment ne (fragments_eq_nil_iff.1 read)
      · intro h
        cases h with
        | doubleStar => exact absurd rfl ne
        | segment _ written =>
          rw [fragments_eq_nil_iff.2 written] at read
          cases read
          rfl
    · next all leftover stuck read =>
      constructor
      · intro h
        cases h
      · intro h
        cases h with
        | doubleStar => exact absurd rfl ne
        | segment _ written =>
          rw [fragments_eq_nil_iff.2 written] at read
          cases read
          exact (stuck rfl).elim

theorem ofPieces_eq_ok_iff (offset : Nat) {pieces : List Text} {pattern : Pattern} :
    ofPieces offset pieces = .ok pattern ↔ WrittenPieces pieces pattern := by
  induction pieces generalizing offset pattern with
  | nil =>
    constructor
    · intro h
      cases h
      exact .nil
    · intro h
      cases h
      rfl
  | cons piece pieces ih =>
    rw [ofPieces]
    cases read : ofPiece piece with
    | error fault =>
      constructor
      · intro h
        cases h
      · intro h
        cases h with
        | cons written _ =>
          rw [ofPiece_eq_ok_iff.2 written] at read
          cases read
    | ok component =>
      simp only
      constructor
      · intro h
        cases more : ofPieces (offset + piece.byteLength + separator.utf8Size) pieces with
        | error fault =>
          rw [more] at h
          cases h
        | ok components =>
          rw [more] at h
          cases h
          exact .cons (ofPiece_eq_ok_iff.1 read) ((ih _).1 more)
      · intro h
        cases h with
        | cons written writtenPieces =>
          rw [ofPiece_eq_ok_iff.2 written] at read
          cases read
          rw [(ih _).2 writtenPieces]
          rfl

/-- A text is read as a pattern if and only if it writes the pattern. -/
theorem parse_eq_ok_iff {pattern : Pattern} :
    parse text = .ok pattern ↔ WrittenPattern text pattern := by
  rw [WrittenPattern, ← ofPieces_eq_ok_iff 0, parse]
  cases ofPieces 0 (Text.pieces separator text) with
  | error fault => simp [Except.mapError]
  | ok read => simp [Except.mapError]

/-- Whatever fragments are written, a piece is either two asterisks or written by them. -/
theorem WrittenAll.writtenPiece {all : List Fragment} (h : WrittenAll piece all) :
    ∃ component, WrittenPiece piece component := by
  by_cases stars : piece = ['*', '*']
  · exact ⟨.doubleStar, stars ▸ .doubleStar⟩
  · exact ⟨.segment all, .segment stars h⟩

theorem writtenPieces_iff {pieces : List Text} :
    (∃ pattern, WrittenPieces pieces pattern) ↔
      ∀ piece ∈ pieces, ∃ component, WrittenPiece piece component := by
  induction pieces with
  | nil => simpa using ⟨[], WrittenPieces.nil⟩
  | cons piece pieces ih =>
    rw [List.forall_mem_cons, ← ih]
    constructor
    · rintro ⟨_, written⟩
      cases written with
      | cons written more => exact ⟨⟨_, written⟩, _, more⟩
    · rintro ⟨⟨component, written⟩, pattern, more⟩
      exact ⟨component :: pattern, .cons written more⟩

theorem WrittenPieces.append {first second : List Text} {front back : Pattern}
    (written : WrittenPieces first front) (more : WrittenPieces second back) :
    WrittenPieces (first ++ second) (front ++ back) := by
  induction written with
  | nil => exact more
  | cons piece _ ih => exact .cons piece ih

theorem WrittenPieces.length_eq {pieces : List Text} {pattern : Pattern}
    (written : WrittenPieces pieces pattern) : pattern.length = pieces.length := by
  induction written with
  | nil => rfl
  | cons _ _ ih => rw [List.length_cons, List.length_cons, ih]

/-- A text has a piece, so no text writes the empty pattern. -/
theorem WrittenPattern.ne_nil {pattern : Pattern} (written : WrittenPattern text pattern) :
    pattern ≠ [] := by
  intro empty
  have same := WrittenPieces.length_eq written
  rw [empty, List.length_nil, eq_comm, List.length_eq_zero_iff] at same
  exact Text.pieces_ne_nil separator text same

/-- Texts with a slash between them write their patterns one after the other. -/
theorem WrittenPattern.slash {s t : Text} {front back : Pattern} (written : WrittenPattern s front)
    (more : WrittenPattern t back) : WrittenPattern (s ++ separator :: t) (front ++ back) := by
  rw [WrittenPattern, Text.pieces_append_cons]
  exact WrittenPieces.append written more

/-- A text is refused if and only if one of its pieces cannot be read. -/
theorem parse_eq_error_iff_piece :
    (∃ fault, parse text = .error fault) ↔
      ∃ piece ∈ Text.pieces separator text, ∀ component, ¬ WrittenPiece piece component := by
  have total : (∃ fault, parse text = .error fault) ↔ ¬ ∃ pattern, parse text = .ok pattern := by
    cases parse text <;> simp
  rw [total]
  simp only [parse_eq_ok_iff, WrittenPattern, writtenPieces_iff]
  simp

/-! ### Main result -/

/-- **What is read.** A text is read as a pattern if and only if the pieces between its slashes
write the components of the pattern, one each, and it is refused if and only if there is a piece
that writes none. There is only one way to cut a text at its slashes, and at any place in a piece
only one fragment that can be read. -/
theorem parse_iff_pieces_written (text : Text) (pattern : Pattern) :
    (parse text = .ok pattern ↔
      ∃ pieces, Text.Cut separator text pieces ∧ WrittenPieces pieces pattern) ∧
    ((∃ fault, parse text = .error fault) ↔
      ∃ pieces, Text.Cut separator text pieces ∧
        ∃ piece ∈ pieces, ∀ component, ¬ WrittenPiece piece component) ∧
    (∃! pieces, Text.Cut separator text pieces) ∧
    ∀ s f rest, Written s f rest →
      ∀ other after, Written s other after ↔ other = f ∧ after = rest := by
  simp only [Text.cut_iff, exists_eq_left]
  exact ⟨parse_eq_ok_iff, parse_eq_error_iff_piece, existsUnique_eq,
    fun _ _ _ written _ _ => written.unique⟩

/-- A slash ends the escape in front of it, a backslash is an item character, and a bracket in front
of the contents of a class belongs to them. -/
example : parse "a\\/\x7bb\\,b\x7d[!]]*".toList =
    .ok [.segment [.literal ['a'], .literal ['\\']],
      .segment [.oneOf (.ofList [['b'], ['b', '\\']]), .charClass true [']'], .anyText]] := by
  decide +kernel

end PathGlob.Pattern
