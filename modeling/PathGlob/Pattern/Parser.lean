import PathGlob.Pattern.Fault
import PathGlob.Pattern.Fragment
import PathGlob.Text.Pieces

/-!
# PathGlob.Pattern.Parser

Reading a pattern. The text is first cut at every slash, whatever stands around it, so a slash can
be neither escaped nor part of a class or a group. Every piece is then read from left to right,
and at each point the first character alone decides which **rule** applies:

* `\` and a character: that character; `\` at the end of the piece: a backslash;
* `?` and `*`: the wildcards;
* `{`: a group of items between commas, none of them empty, up to the next `}`;
* `[`: a class, negated by `!`, whose contents run to the next `]` after their first character;
* any other character that is not special: the longest run of such characters.

`]` and `}` start nothing. Where no rule applies the piece is refused (`Fault`).
-/

namespace PathGlob.Pattern

/-- What separates the segments of a pattern and of a candidate. -/
def separator : Char := '/'

/-- The characters with a meaning of their own outside a class, the backslash apart. -/
def isSpecial (c : Char) : Bool :=
  c = '*' || c = '{' || c = '}' || c = '[' || c = ']' || c = '?' || c = separator

/-- A character that stands for itself in a pattern. -/
def isPlain (c : Char) : Bool :=
  !isSpecial c && c != '\\'

/-- A character that may stand in an item of a group; the backslash is one of them. -/
def isItemChar (c : Char) : Bool :=
  !isSpecial c && c != ','

/-- Reads a group after its `{`. -/
def group? (s : Text) : Option (Fragment × Text) :=
  let isBody := fun c => isItemChar c || c = ','
  let items := Text.pieces ',' (s.takeWhile isBody)
  match s.dropWhile isBody with
  | '}' :: rest => if items.all (!·.isEmpty) then some (.oneOf (.ofList items), rest) else none
  | _ => none

/-- Reads up to the next `]` and drops it. -/
def toBracket? (s : Text) : Option (Text × Text) :=
  match s.dropWhile (· != ']') with
  | ']' :: rest => some (s.takeWhile (· != ']'), rest)
  | _ => none

/-- Reads the contents of a class and the `]` after them. A `]` in front belongs to the
contents. -/
def contents? : Text → Option (Text × Text)
  | ']' :: s => (toBracket? s).map fun (body, rest) => (']' :: body, rest)
  | s => toBracket? s

/-- Reads a class after its `[`. -/
def class? : Text → Option (Fragment × Text)
  | '!' :: s => (contents? s).map fun (contents, rest) => (.charClass true contents, rest)
  | s => (contents? s).map fun (contents, rest) => (.charClass false contents, rest)

/-- Reads one fragment: the fragment and what is left of the text. -/
def fragment? : Text → Option (Fragment × Text)
  | [] => none
  | ['\\'] => some (.literal ['\\'], [])
  | '\\' :: c :: rest => some (.literal [c], rest)
  | '?' :: rest => some (.anyChar, rest)
  | '*' :: rest => some (.anyText, rest)
  | '{' :: rest => group? rest
  | '[' :: rest => class? rest
  | c :: rest =>
    if isPlain c then some (.literal (c :: rest.takeWhile isPlain), rest.dropWhile isPlain)
    else none

/-! ### Every rule uses up text -/

theorem length_lt_of_dropWhile {p : Char → Bool} {s rest : Text} {c : Char}
    (h : s.dropWhile p = c :: rest) : rest.length < s.length := by
  have := (List.dropWhile_sublist (l := s) p).length_le
  rw [h, List.length_cons] at this
  exact this

theorem group?_length {s rest : Text} {f : Fragment} (h : group? s = some (f, rest)) :
    rest.length < s.length := by
  simp only [group?] at h
  split at h
  · next drop =>
    split at h
    · simp only [Option.some.injEq, Prod.mk.injEq] at h
      exact h.2 ▸ length_lt_of_dropWhile drop
    · exact absurd h (by simp)
  · exact absurd h (by simp)

theorem toBracket?_length {s body rest : Text} (h : toBracket? s = some (body, rest)) :
    rest.length < s.length := by
  unfold toBracket? at h
  split at h
  · next drop =>
    simp only [Option.some.injEq, Prod.mk.injEq] at h
    exact h.2 ▸ length_lt_of_dropWhile drop
  · exact absurd h (by simp)

theorem contents?_length {s contents rest : Text} (h : contents? s = some (contents, rest)) :
    rest.length < s.length := by
  unfold contents? at h
  split at h
  · obtain ⟨⟨body, after⟩, read, eq⟩ := Option.map_eq_some_iff.1 h
    simp only [Prod.mk.injEq] at eq
    exact Nat.lt_succ_of_lt (eq.2 ▸ toBracket?_length read)
  · exact toBracket?_length h

theorem class?_length {s rest : Text} {f : Fragment} (h : class? s = some (f, rest)) :
    rest.length < s.length := by
  unfold class? at h
  split at h
  · obtain ⟨⟨contents, after⟩, read, eq⟩ := Option.map_eq_some_iff.1 h
    simp only [Prod.mk.injEq] at eq
    exact Nat.lt_succ_of_lt (eq.2 ▸ contents?_length read)
  · obtain ⟨⟨contents, after⟩, read, eq⟩ := Option.map_eq_some_iff.1 h
    simp only [Prod.mk.injEq] at eq
    exact eq.2 ▸ contents?_length read

theorem fragment?_length {s rest : Text} {f : Fragment} (h : fragment? s = some (f, rest)) :
    rest.length < s.length := by
  unfold fragment? at h
  split at h
  case h_1 => exact absurd h (by simp)
  case h_6 => exact Nat.lt_succ_of_lt (group?_length h)
  case h_7 => exact Nat.lt_succ_of_lt (class?_length h)
  case h_8 tail _ _ _ _ _ _ =>
    split at h
    · simp only [Option.some.injEq, Prod.mk.injEq] at h
      rw [← h.2, List.length_cons]
      exact Nat.lt_succ_of_le (List.dropWhile_sublist (l := tail) isPlain).length_le
    · exact absurd h (by simp)
  all_goals
    simp only [Option.some.injEq, Prod.mk.injEq] at h
    rw [← h.2]
    simp only [List.length_cons, List.length_nil]
    omega

/-- Reads fragments as long as a rule applies: the fragments and what is left of the text. -/
def fragments (s : Text) : List Fragment × Text :=
  match _h : fragment? s with
  | none => ([], s)
  | some (f, rest) =>
    let (more, leftover) := fragments rest
    (f :: more, leftover)
termination_by s.length
decreasing_by exact fragment?_length _h

/-- Reads one piece of a pattern. A piece that cannot be read to its end is refused with the
offset of what is left and the reason. -/
def ofPiece (piece : Text) : Except (Nat × Reason) (Component (List Fragment)) :=
  if piece = ['*', '*'] then .ok .doubleStar
  else
    match fragments piece with
    | (all, []) => .ok (.segment all)
    | (_, leftover) =>
      .error (piece.byteLength - leftover.byteLength, Reason.ofLeftover leftover)

/-- Reads the pieces that begin at the given byte offset of the pattern. -/
def ofPieces (offset : Nat) : List Text → Except (Nat × Reason) Pattern
  | [] => .ok []
  | piece :: more =>
    match ofPiece piece with
    | .error (position, reason) => .error (offset + position, reason)
    | .ok component =>
      (ofPieces (offset + piece.byteLength + separator.utf8Size) more).map (component :: ·)

/-- Reads a pattern. -/
def parse (text : Text) : Except Fault Pattern :=
  (ofPieces 0 (Text.pieces separator text)).mapError fun (position, reason) =>
    { pattern := text, position, reason }

end PathGlob.Pattern
