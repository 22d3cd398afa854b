import PathGlob.Proofs.Glob.Errors

/-!
# PathGlob.Proofs.Expression.Unclosed

**A class without contents is never closed** (`SegmentPattern.compile_unclosed`). Its closing
bracket is taken for its first member, so the rest of the expression is read inside brackets, where
the brackets of escaped characters and of later classes are nested ones.

Nested brackets stay balanced: a text that is written for a fragment with contents leaves the open
brackets as they are but for the members of the innermost (`StaysInside`), so what was opened once
is open to the end, and the innermost open bracket is that of the last class without contents.
-/

namespace PathGlob

open Expression.Reading

namespace Expression

/-! ### Texts that stay inside a bracket -/

theorem noRange_cons {c : Char} {rest : Text} (h : c ≠ '-') : NoRange (c :: rest) :=
  fun _ same => h (List.cons.inj same).1

/-- Inside an open bracket the text adds members to it, and closes all brackets that it opens. -/
structure StaysInside (text : Text) : Prop where
  /-- It does not start with the hyphen of a range. -/
  noRange : ∀ rest, NoRange rest → NoRange (text ++ rest)
  read : ∀ (r : Reading) (bracket : Bracket) (around : List Bracket) (rest : Text),
    r.brackets = bracket :: around → NoRange rest →
      ∃ members, r.run (text ++ rest) =
        (r.bracketed ({ bracket with members } :: around) text.length).run rest

namespace StaysInside

variable {text other : Text} {α : Type}

theorem nil : StaysInside [] where
  noRange := fun _ h => h
  read := by
    intro r bracket around rest inside _
    refine ⟨bracket.members, ?_⟩
    have same : { bracket with members := bracket.members } :: around = r.brackets := inside.symm
    rw [same]
    rfl

theorem append (h : StaysInside text) (h' : StaysInside other) : StaysInside (text ++ other) where
  noRange := by
    intro rest noRange
    rw [List.append_assoc]
    exact h.noRange _ (h'.noRange rest noRange)
  read := by
    intro r bracket around rest inside noRange
    obtain ⟨members, read⟩ := h.read r bracket around _ inside (h'.noRange rest noRange)
    obtain ⟨more, read'⟩ := h'.read (r.bracketed ({ bracket with members } :: around) text.length)
      { bracket with members } around rest rfl noRange
    refine ⟨more, ?_⟩
    rw [List.append_assoc, read, read', List.length_append]
    simp only [bracketed, Nat.add_assoc]

theorem flatMap {write : α → Text} {xs : List α} (h : ∀ x ∈ xs, StaysInside (write x)) :
    StaysInside (xs.flatMap write) := by
  induction xs with
  | nil => exact nil
  | cons x xs ih =>
    rw [List.forall_mem_cons] at h
    exact h.1.append (ih h.2)

theorem join {texts : List Text} {separator : Char} (separated : StaysInside [separator])
    (h : ∀ text ∈ texts, StaysInside text) : StaysInside (Text.join separator texts) := by
  induction texts with
  | nil => exact nil
  | cons text more ih =>
    rw [List.forall_mem_cons] at h
    cases more with
    | nil => exact h.1
    | cons next more =>
      rw [Text.join]
      exact h.1.append (separated.append (ih h.2))

theorem member {c : Char} (h : WritesMember c text) : StaysInside text where
  noRange := by
    intro rest _
    obtain ⟨first, more, rfl, -, noHyphen, -⟩ := h.head
    exact noRange_cons noHyphen
  read := fun _ _ _ _ inside noRange => ⟨_, run_member h noRange inside⟩

end StaysInside

/-! ### Named sets -/

/-- The names of sets hold neither backslashes nor brackets. -/
theorem CharClass.plain_of_named? {name : Text} {set : CharClass} (h : named? name = some set) :
    '\\' ∉ name ∧ ']' ∉ name := by
  have all : named?.table.all (fun entry =>
      !entry.1.toList.contains '\\' && !entry.1.toList.contains ']') = true := by
    decide
  obtain ⟨entry, found, -⟩ := Option.map_eq_some_iff.1 h
  have plain := List.all_eq_true.1 all entry (List.mem_of_find?_eq_some found)
  have same : entry.1.toList = name := by simpa using List.find?_some found
  rw [same] at plain
  simpa using plain

/-- Members hold a closing bracket only behind a backslash. -/
theorem backslash_mem_of_flatMap {write : Char → Text} {contents before later : Text}
    (h : ∀ c ∈ contents, WritesMember c (write c))
    (same : contents.flatMap write = before ++ ']' :: later) : '\\' ∈ before := by
  induction contents generalizing before with
  | nil => simp at same
  | cons c contents ih =>
    rw [List.forall_mem_cons] at h
    rw [List.flatMap_cons] at same
    rcases h.1 with ⟨bare, plain⟩ | ⟨escaped, -⟩
    · rw [bare] at same
      cases before with
      | nil =>
        obtain rfl := (List.cons.inj same).1
        cases plain
      | cons d before => exact List.mem_cons_of_mem _ (ih h.2 (List.cons.inj same).2)
    · rw [escaped] at same
      cases before with
      | nil => exact absurd (List.cons.inj same).1 (by decide)
      | cons d before =>
        rw [← (List.cons.inj same).1]
        exact List.mem_cons_self

/-- The first closing bracket without a backslash is the one behind the members. -/
theorem eq_of_closing {write : Char → Text} {contents before rest after : Text}
    (h : ∀ c ∈ contents, WritesMember c (write c)) (noBackslash : '\\' ∉ before)
    (noBracket : ']' ∉ before)
    (same : contents.flatMap write ++ ']' :: rest = before ++ ']' :: after) :
    contents.flatMap write = before := by
  -- One of the two brackets comes first, and then it stands in what is in front of the other.
  rcases List.append_eq_append_iff.1 same with ⟨between, front, back⟩ | ⟨between, front, back⟩
  · cases between with
    | nil => rw [front, List.append_nil]
    | cons c between =>
      obtain rfl := (List.cons.inj back).1
      exact absurd (by simp [front]) noBracket
  · cases between with
    | nil => rw [front, List.append_nil]
    | cons c between =>
      obtain rfl := (List.cons.inj back).1
      exact absurd (backslash_mem_of_flatMap h front) noBackslash

/-- Members of which the first is a colon. -/
theorem exists_of_colon {write : Char → Text} {contents rest more : Text}
    (h : ∀ c ∈ contents, WritesMember c (write c))
    (same : contents.flatMap write ++ ']' :: rest = ':' :: more) :
    ∃ others, contents = ':' :: others ∧ write ':' = [':'] ∧
      others.flatMap write ++ ']' :: rest = more := by
  cases contents with
  | nil => exact absurd (List.cons.inj same).1 (by decide)
  | cons c others =>
    rw [List.flatMap_cons, List.append_assoc] at same
    rcases h c List.mem_cons_self with ⟨bare, -⟩ | ⟨escaped, -⟩
    · rw [bare] at same
      obtain ⟨head, tail⟩ := List.cons.inj same
      subst head
      exact ⟨others, rfl, bare, tail⟩
    · rw [escaped] at same
      exact absurd (List.cons.inj same).1 (by decide)

theorem Reading.exists_of_named {more : Text} {set : CharClass} {size : Nat}
    (h : namedSet?.named more = some (set, size)) :
    ∃ name after, more = name ++ ':' :: ']' :: after ∧ name.length = size ∧
      CharClass.named? name = some set := by
  unfold namedSet?.named at h
  simp only at h
  split at h
  · next after behind =>
    obtain ⟨set, known, same⟩ := Option.map_eq_some_iff.1 h
    cases same
    refine ⟨_, after, ?_, rfl, known⟩
    rw [← behind, List.prefix_iff_eq_append.1 (List.takeWhile_prefix _)]
  · cases h

/-- A named set that starts at the bracket of a class ends with the class. -/
theorem Reading.length_of_namedSet? {write : Char → Text} {contents rest : Text} {set : CharClass}
    {used : Nat} (negated : Bool) (h : ∀ c ∈ contents, WritesMember c (write c))
    (named : namedSet? (sign negated ++ (contents.flatMap write ++ ']' :: rest)) =
      some (set, used)) :
    used = (sign negated ++ (contents.flatMap write ++ [']'])).length := by
  cases negated with
  | true => cases named
  | false =>
    simp only [sign, Bool.false_eq_true, if_false, List.nil_append] at named ⊢
    unfold namedSet? at named
    split at named
    · -- A sign of negation would be written with a backslash.
      next more same =>
      obtain ⟨others, rfl, -, same⟩ := exists_of_colon h same
      rw [List.forall_mem_cons] at h
      cases others with
      | nil => exact absurd (List.cons.inj same).1 (by decide)
      | cons d others =>
        obtain ⟨first, text, written, ne, -⟩ := (h.2 d List.mem_cons_self).head
        rw [List.flatMap_cons, written] at same
        exact absurd (List.cons.inj same).1 ne
    · next more _ same =>
      obtain ⟨others, rfl, bare, rfl⟩ := exists_of_colon h same
      obtain ⟨⟨set, size⟩, found, same⟩ := Option.map_eq_some_iff.1 named
      rw [List.forall_mem_cons] at h
      obtain ⟨name, after, cut, rfl, known⟩ := exists_of_named found
      obtain ⟨noBackslash, noBracket⟩ := CharClass.plain_of_named? known
      have ends : others.flatMap write = name ++ [':'] :=
        eq_of_closing h.2 (by simp [noBackslash]) (by simp [noBracket]) (by simpa using cut)
      obtain ⟨-, rfl⟩ := Prod.mk.inj same
      simp only [List.flatMap_cons, bare, ends, List.length_append, List.length_cons,
        List.length_nil]
      omega
    · cases named

/-! ### Classes and fragments inside a bracket -/

namespace Reading

variable {r : Reading} {rest : Text} {bracket next : Bracket} {around : List Bracket}

theorem bracketed_bracketed (brackets others : List Bracket) (used more : Nat) :
    (r.bracketed brackets used).bracketed others more = r.bracketed others (used + more) := by
  simp only [bracketed, Nat.add_assoc]

/-- A step that changes nothing but the brackets. -/
theorem run_bracketed {c : Char} {brackets : List Bracket} (used : Text)
    (h : r.step c (used ++ rest) = .ok ({ r with brackets }, used.length)) :
    r.run (c :: (used ++ rest)) = (r.bracketed brackets (used.length + 1)).run rest := by
  rw [← List.cons_append, run_step used h, Nat.add_assoc, Nat.add_comm 1]
  rfl

theorem stepInside_open (h : namedSet? rest = none) :
    r.stepInside bracket around '[' rest =
      .ok ({ r with brackets := (openBracket r.position rest).1 :: bracket :: around },
        (openBracket r.position rest).2) := by
  simp only [stepInside, h, if_true]

theorem stepInside_named {set : CharClass} {used : Nat} (h : namedSet? rest = some (set, used)) :
    r.stepInside bracket around '[' rest =
      .ok ({ r with brackets := bracket.add set :: around }, used) := by
  simp only [stepInside, h, if_true]

theorem run_closingNested (inside : r.brackets = bracket :: next :: around) :
    r.run (']' :: rest) = (r.bracketed (next.add bracket.close :: around) 1).run rest := by
  have closed : r.step ']' rest =
      .ok ({ r with brackets := next.add bracket.close :: around }, 0) := by
    rw [step_inside inside]
    rfl
  exact run_bracketed [] closed

end Reading

/-- A class with contents is a named set or a nested class, and either is closed where it ends. -/
theorem StaysInside.charClass {write : Char → Text} {contents : Text} (negated : Bool)
    (h : ∀ c ∈ contents, WritesMember c (write c)) (ne : contents ≠ []) :
    StaysInside ('[' :: (sign negated ++ (contents.flatMap write ++ [']']))) where
  noRange := fun rest _ => noRange_cons (by decide)
  read := by
    intro r bracket around rest inside noRange
    have text : sign negated ++ (contents.flatMap write ++ [']']) ++ rest =
        sign negated ++ (contents.flatMap write ++ ']' :: rest) := by
      simp only [List.append_assoc, List.singleton_append]
    -- Both ways the closing bracket is the last character that is read: a named set ends with it,
    -- and members cannot hold one without a backslash.
    cases named : namedSet? (sign negated ++ (contents.flatMap write ++ ']' :: rest)) with
    | some found =>
      obtain ⟨set, used⟩ := found
      obtain rfl := length_of_namedSet? negated h named
      refine ⟨.union bracket.members set, run_bracketed _ ?_⟩
      rw [step_inside inside, text, stepInside_named named]
      rfl
    | none =>
      have opened : r.step '[' (sign negated ++ (contents.flatMap write ++ ']' :: rest)) =
          .ok ({ r with brackets := opening negated r.position :: bracket :: around },
            (sign negated).length) := by
        rw [step_inside inside, stepInside_open named, openBracket_members negated r.position h ne]
      refine ⟨.union bracket.members ((opening negated r.position).addAll contents).close, ?_⟩
      rw [List.cons_append, text, run_bracketed _ opened,
        run_members h (noRange_cons (by decide)) rfl, run_closingNested rfl, bracketed_bracketed,
        bracketed_bracketed]
      congr 2
      simp only [List.length_append, List.length_cons, List.length_nil]
      omega

theorem StaysInside.bare {c : Char} (h : isBracketMeta c = false) : StaysInside [c] :=
  member (Or.inl ⟨rfl, h⟩)

theorem StaysInside.escapeChar (c : Char) : StaysInside (escapeChar c) := by
  unfold Expression.escapeChar
  split
  · next letter =>
    have plain : isBracketMeta c = false :=
      Bool.eq_false_iff.2 fun special =>
        Bool.eq_false_iff.1 (isMeta_of_isAlphanumeric letter) (isMeta_of_isBracketMeta special)
    exact bare plain
  · split
    · next special =>
      exact member (Or.inr ⟨rfl, isEscapable_of_isMeta (isMeta_of_isBracketMeta special)⟩)
    · next plain =>
      have single : ∀ d ∈ [c], WritesMember d [d] := by
        intro d mem
        obtain rfl := List.mem_singleton.1 mem
        exact Or.inl ⟨rfl, Bool.eq_false_iff.2 plain⟩
      exact charClass false single (List.cons_ne_nil c [])

theorem StaysInside.escape (text : Text) : StaysInside (escape text) :=
  flatMap fun c _ => escapeChar c

/-- Inside a bracket, the expression of a fragment with contents closes all that it opens. -/
theorem StaysInside.expression (f : Fragment) (h : ∀ negated, f ≠ .charClass negated []) :
    StaysInside f.expression := by
  cases f with
  | literal text => exact escape text
  | oneOf alternatives =>
    have opening : StaysInside "(?:".toList :=
      (bare rfl : StaysInside ['(']).append ((bare rfl : StaysInside ['?']).append (bare rfl))
    have choices : StaysInside (Text.join '|' (alternatives.members.map Expression.escape)) := by
      refine join (bare rfl) fun text mem => ?_
      obtain ⟨member, -, rfl⟩ := List.mem_map.1 mem
      exact escape member
    exact (opening.append choices).append (bare rfl)
  | charClass negated contents =>
    have ne : contents ≠ [] := by
      intro none
      exact h negated (none ▸ rfl)
    have nested := charClass negated (fun c _ => writesMember_escapeMember c) ne
    rw [← List.append_assoc] at nested
    exact nested
  | anyChar => exact bare rfl
  | anyText => exact (bare rfl : StaysInside ['.']).append (bare rfl)

/-! ### Classes without contents -/

namespace Reading

/-- The bracket that a class without contents opens; its closing bracket is the first member. -/
def unclosed (negated : Bool) (position : Nat) : Bracket where
  negated := negated
  start := position
  stop := position + (Fragment.charClass negated []).expression.length
  operand := none
  members := .single ']'

theorem openBracket_closing (negated : Bool) (position : Nat) (rest : Text) :
    openBracket position (sign negated ++ ']' :: rest) =
      (unclosed negated position, (sign negated).length + 1) := by
  cases negated <;> rfl

/-- A class without contents leaves a bracket open, wherever it stands. -/
theorem run_emptyClass (r : Reading) (negated : Bool) (rest : Text) :
    r.run ((Fragment.charClass negated []).expression ++ rest) =
      (r.bracketed (unclosed negated r.position :: r.brackets)
        (Fragment.charClass negated []).expression.length).run rest := by
  have read : r.step '[' (sign negated ++ [']'] ++ rest) =
      .ok ({ r with brackets := unclosed negated r.position :: r.brackets },
        (sign negated ++ [']']).length) := by
    rw [List.append_assoc, List.singleton_append, List.length_append, List.length_singleton]
    cases brackets : r.brackets with
    | nil =>
      rw [step_outside brackets]
      simp only [stepOutside, openBracket_closing]
    | cons bracket around =>
      have named : namedSet? (sign negated ++ ']' :: rest) = none := by
        cases negated <;> rfl
      rw [step_inside brackets, stepInside_open named, openBracket_closing]
  have text : (Fragment.charClass negated []).expression = '[' :: (sign negated ++ [']']) := by
    cases negated <;> rfl
  rw [text]
  exact run_bracketed _ read

end Reading

/-- Where the open brackets were opened, the innermost first. -/
def Reading.spans (r : Reading) : List (Nat × Nat) :=
  r.brackets.map fun bracket => (bracket.start, bracket.stop)

/-- What becomes of a state when a text of `used` characters is read: the brackets that were open
still are, and those of the given spans have been opened. -/
structure Reading.Opens (r next : Reading) (used : Nat) (opened : List (Nat × Nat)) : Prop where
  position : next.position = r.position + used
  dotAll : next.level.dotAll = r.level.dotAll
  spans : next.spans = opened ++ r.spans

theorem Reading.Opens.trans {r next last : Reading} {used more : Nat}
    {opened others : List (Nat × Nat)} (h : r.Opens next used opened)
    (h' : next.Opens last more others) : r.Opens last (used + more) (others ++ opened) where
  position := by rw [h'.position, h.position, Nat.add_assoc]
  dotAll := h'.dotAll.trans h.dotAll
  spans := by rw [h'.spans, h.spans, List.append_assoc]

end Expression

namespace Fragment

open Expression

/-- The span of a class without contents that stands at the given position. -/
def emptyClass (position : Nat) : Fragment → List (Nat × Nat)
  | charClass negated [] => [(position, position + (charClass negated []).expression.length)]
  | _ => []

/-- The spans of the classes without contents in the expressions of fragments, the first of which
stands at the given position; the last class comes first. -/
def emptyClasses (position : Nat) : List Fragment → List (Nat × Nat)
  | [] => []
  | f :: fragments =>
    emptyClasses (position + f.expression.length) fragments ++ f.emptyClass position

theorem emptyClass_eq_nil_iff {f : Fragment} {position : Nat} :
    f.emptyClass position = [] ↔ ∀ negated, f ≠ charClass negated [] := by
  unfold emptyClass
  split
  · next negated => exact iff_of_false (List.cons_ne_nil _ _) fun ne => ne negated rfl
  · next other => exact iff_of_true rfl other

theorem emptyClasses_append {position : Nat} {before later : List Fragment} :
    emptyClasses position (before ++ later) =
      emptyClasses (position + (before.flatMap expression).length) later ++
        emptyClasses position before := by
  induction before generalizing position with
  | nil => simp [emptyClasses]
  | cons f before ih =>
    rw [List.cons_append, emptyClasses, ih, emptyClasses, List.flatMap_cons, List.length_append,
      List.append_assoc, Nat.add_assoc]

theorem emptyClasses_eq_nil_iff {position : Nat} {fragments : List Fragment} :
    emptyClasses position fragments = [] ↔ ∀ negated, charClass negated [] ∉ fragments := by
  induction fragments generalizing position with
  | nil => simp [emptyClasses]
  | cons f fragments ih =>
    rw [emptyClasses, List.append_eq_nil_iff, ih, emptyClass_eq_nil_iff]
    simp only [List.mem_cons, not_or, forall_and, ne_eq, @eq_comm _ f, and_comm]

theorem noRange_expression (f : Fragment) {rest : Text} (noRange : Reading.NoRange rest) :
    Reading.NoRange (f.expression ++ rest) := by
  by_cases empty : ∃ negated, f = charClass negated []
  · obtain ⟨negated, rfl⟩ := empty
    cases negated <;> exact noRange_cons (by decide)
  · exact (StaysInside.expression f (not_exists.1 empty)).noRange rest noRange

theorem noRange_expressions (fragments : List Fragment) {rest : Text}
    (noRange : Reading.NoRange rest) :
    Reading.NoRange (fragments.flatMap expression ++ rest) := by
  induction fragments with
  | nil => exact noRange
  | cons f fragments ih =>
    rw [List.flatMap_cons, List.append_assoc]
    exact f.noRange_expression ih

/-- Reading the expression of one fragment closes nothing, and leaves a bracket open if and only if
the fragment is a class without contents. -/
theorem exists_opens (f : Fragment) (r : Reading) (rest : Text) (dotAll : r.level.dotAll = true)
    (noRange : Reading.NoRange rest) :
    ∃ next, r.run (f.expression ++ rest) = next.run rest ∧
      r.Opens next f.expression.length (f.emptyClass r.position) := by
  by_cases empty : ∃ negated, f = charClass negated []
  · obtain ⟨negated, rfl⟩ := empty
    exact ⟨_, r.run_emptyClass negated rest, rfl, rfl, rfl⟩
  · have ne := not_exists.1 empty
    rw [emptyClass_eq_nil_iff.2 ne]
    cases brackets : r.brackets with
    | nil =>
      obtain ⟨items, read, -⟩ := f.readsAs_expression ne
      exact ⟨_, read r rest brackets dotAll, rfl, rfl, rfl⟩
    | cons bracket around =>
      obtain ⟨members, read⟩ :=
        (StaysInside.expression f ne).read r bracket around rest brackets noRange
      refine ⟨_, read, rfl, rfl, ?_⟩
      simp only [Reading.spans, Reading.bracketed, brackets, List.map_cons, List.nil_append]

/-- Reading the expressions of fragments leaves open what was open, and the brackets of all classes
without contents. -/
theorem exists_opens_all (fragments : List Fragment) (r : Reading) (rest : Text)
    (dotAll : r.level.dotAll = true) (noRange : Reading.NoRange rest) :
    ∃ next, r.run (fragments.flatMap expression ++ rest) = next.run rest ∧
      r.Opens next (fragments.flatMap expression).length (emptyClasses r.position fragments) := by
  -- The state is arbitrary, as the fragments in front may have opened brackets or not.
  induction fragments generalizing r with
  | nil => exact ⟨r, rfl, rfl, rfl, rfl⟩
  | cons f fragments ih =>
    obtain ⟨next, read, opens⟩ := f.exists_opens r (fragments.flatMap expression ++ rest) dotAll
      (noRange_expressions fragments noRange)
    obtain ⟨last, read', opens'⟩ := ih next (opens.dotAll.trans dotAll)
    rw [List.flatMap_cons, List.append_assoc, List.length_append, emptyClasses, ← opens.position]
    exact ⟨last, read.trans read', opens.trans opens'⟩

end Fragment

namespace Expression

/-! ### Whole expressions -/

/-- The state behind the opening of the expression of a segment. -/
def Reading.inGroup : Reading where
  level := groupLevel true
  outer := [Reading.initial.level.add .start]
  brackets := []
  position := "^(?s:".toList.length

theorem ofFragments_eq (fragments : List Fragment) :
    ofFragments fragments =
      "^(?s:".toList ++ (fragments.flatMap Fragment.expression ++ ")$".toList) :=
  List.append_assoc _ _ _

theorem parse_opening (body : Text) : Expr.parse ("^(?s:".toList ++ body) = inGroup.run body := by
  have start : Reading.initial.step '^' ("(?s:".toList ++ body) =
      .ok ({ Reading.initial with level := Reading.initial.level.add .start }, 0) := rfl
  rw [Expr.parse]
  exact (run_step [] start).trans (run_openDotAllGroup rfl)

/-- The expression of fragments is read in vain if it leaves a bracket open, and the innermost one
is reported. -/
theorem parse_of_emptyClasses {fragments : List Fragment} {start stop : Nat}
    {others : List (Nat × Nat)}
    (h : Fragment.emptyClasses "^(?s:".toList.length fragments = (start, stop) :: others) :
    Expr.parse (ofFragments fragments) = .error (.unclosedClass start stop) := by
  have closing : StaysInside ")$".toList :=
    (StaysInside.bare rfl : StaysInside [')']).append (StaysInside.bare rfl)
  obtain ⟨r, read, opens⟩ := Fragment.exists_opens_all fragments inGroup ")$".toList rfl
    (noRange_cons (by decide))
  have spans : r.spans = (start, stop) :: others := by
    rw [opens.spans, ← h]
    exact List.append_nil _
  obtain ⟨bracket, around, brackets, same, -⟩ := List.map_eq_cons_iff.1 spans
  obtain ⟨members, read'⟩ := closing.read r bracket around [] brackets nofun
  rw [List.append_nil] at read'
  rw [ofFragments_eq, parse_opening, read, read', Reading.run]
  cases same
  rfl

end Expression

/-! ### Compiling -/

/-- The span of the last class without contents comes first. -/
theorem Fragment.emptyClasses_of_last (position : Nat) (before : List Fragment) (negated : Bool)
    {later : List Fragment} (last : ∀ sign, charClass sign [] ∉ later) :
    let start := position + (before.flatMap expression).length
    emptyClasses position (before ++ charClass negated [] :: later) =
      (start, start + (charClass negated []).expression.length) ::
        emptyClasses position before := by
  rw [emptyClasses_append, emptyClasses, emptyClasses_eq_nil_iff.2 last]
  rfl

/-- Where the expression of a fragment stands. -/
theorem Expression.take_drop_ofFragments (before : List Fragment) (f : Fragment)
    (later : List Fragment) :
    ((ofFragments (before ++ f :: later)).drop
      ("^(?s:".toList ++ before.flatMap Fragment.expression).length).take f.expression.length =
        f.expression := by
  have cut : ofFragments (before ++ f :: later) =
      ("^(?s:".toList ++ before.flatMap Fragment.expression) ++
        (f.expression ++ (later.flatMap Fragment.expression ++ ")$".toList)) := by
    rw [ofFragments_eq, List.flatMap_append, List.flatMap_cons]
    simp only [List.append_assoc]
  rw [cut, List.drop_left, List.take_left]

theorem Expression.Fault.suffix_message_unclosed (expression : Text) (start stop : Nat) :
    "unclosed character class".toList <:+
      (Fault.unclosedClass start stop).message expression := by
  unfold Fault.message report
  exact List.suffix_append _ _

/-- A faulty expression is reported together with its fault. -/
theorem SegmentPattern.compile_of_parse_error {fragments : List Fragment}
    {fault : Expression.Fault}
    (h : Expr.parse (Expression.ofFragments fragments) = .error fault) :
    compile fragments =
      .error (.compile (Expression.ofFragments fragments) (.malformed fault)) := by
  have refused : Expression.compile (Expression.ofFragments fragments) =
      .error (.malformed fault) := by
    rw [Expression.compile, h]
  cases outcome : compile fragments with
  | ok p =>
    obtain rfl := compile_eq_ok_iff.1 outcome
    have both := p.compiles.symm.trans refused
    cases both
  | error error =>
    obtain ⟨cause, failed, rfl⟩ := compile_eq_error outcome
    rw [Except.error.inj (failed.symm.trans refused)]

/-- Fragments fail to compile, other than for the size of their expression, by a class without
contents alone. -/
theorem SegmentPattern.compile_fails_iff {fragments : List Fragment} :
    (∃ error, compile fragments = .error error ∧
      ∀ expression, error ≠ .compile expression .tooLarge) ↔
      ∃ negated, Fragment.charClass negated [] ∈ fragments := by
  constructor
  · intro h
    obtain ⟨error, refused, noSize⟩ := h
    by_contra none
    obtain ⟨e, parsed, -⟩ := (Fragment.readsAs_expressions (not_exists.1 none)).parse
    obtain ⟨cause, failed, rfl⟩ := compile_eq_error refused
    obtain rfl := Expression.tooLarge_of_parse parsed failed
    exact noSize _ rfl
  · intro h
    obtain ⟨negated, mem⟩ := h
    have some : Fragment.emptyClasses "^(?s:".toList.length fragments ≠ [] :=
      fun none => Fragment.emptyClasses_eq_nil_iff.1 none negated mem
    obtain ⟨⟨start, stop⟩, others, spans⟩ := List.exists_cons_of_ne_nil some
    exact ⟨_, compile_of_parse_error (Expression.parse_of_emptyClasses spans), nofun⟩

/-! ### Main result -/

/-- **Classes without contents.** Fragments do not compile, other than for the size of their
expression, if and only if there is a class without contents among them. The fault is then that the
last such class is not closed, whatever stands behind it, and its place is that of the class. -/
theorem SegmentPattern.compile_unclosed (fragments : List Fragment) :
    ((∃ error, compile fragments = .error error ∧
        ∀ expression, error ≠ .compile expression .tooLarge) ↔
      ∃ negated, Fragment.charClass negated [] ∈ fragments) ∧
    ∀ before negated later, fragments = before ++ .charClass negated [] :: later →
      (∀ sign, Fragment.charClass sign [] ∉ later) →
      let opening := if negated then "[^]".toList else "[]".toList
      let start := ("^(?s:".toList ++ before.flatMap Fragment.expression).length
      let error := Glob.Error.compile (Expression.ofFragments fragments)
        (.malformed (.unclosedClass start (start + opening.length)))
      compile fragments = .error error ∧
        ((Expression.ofFragments fragments).drop start).take opening.length = opening ∧
        "unclosed character class".toList <:+ error.message := by
  refine ⟨compile_fails_iff, ?_⟩
  intro before negated later same last opening start error
  subst same
  have text : (Fragment.charClass negated []).expression = opening := by
    cases negated <;> rfl
  have spans := Fragment.emptyClasses_of_last "^(?s:".toList.length before negated last
  rw [← List.length_append, text] at spans
  have place := Expression.take_drop_ofFragments before (.charClass negated []) later
  rw [text] at place
  exact ⟨compile_of_parse_error (Expression.parse_of_emptyClasses spans), place,
    (Expression.Fault.suffix_message_unclosed _ _ _).trans (List.suffix_append _ _)⟩

/-- The second of two classes without contents, in front of brackets of every kind. -/
theorem SegmentPattern.compile_unclosed_second :
    let before : List Fragment := [.charClass false [], .literal ":]".toList]
    let later : List Fragment := [.charClass false ":alpha:".toList, .charClass false ":a".toList,
      .literal "[:".toList, .oneOf (.ofList ["]".toList, "-&&".toList]), .anyText]
    let fragments := before ++ .charClass true [] :: later
    (∀ sign, Fragment.charClass sign [] ∉ later) ∧
      compile fragments =
        .error (.compile (Expression.ofFragments fragments) (.malformed (.unclosedClass 12 15))) ∧
      ((Expression.ofFragments fragments).drop 12).take 3 = "[^]".toList := by
  intro before later fragments
  have last : ∀ sign, Fragment.charClass sign [] ∉ later := by decide
  have start : ("^(?s:".toList ++ before.flatMap Fragment.expression).length = 12 := by
    decide +kernel
  obtain ⟨refused, place, -⟩ := (compile_unclosed fragments).2 before true later rfl last
  rw [start] at refused place
  exact ⟨last, refused, place⟩

end PathGlob
