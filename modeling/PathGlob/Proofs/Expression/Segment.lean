import Mathlib.Data.List.Induction
import PathGlob.Expression.Segment
import PathGlob.Pattern.Meaning
import PathGlob.Proofs.Expression.Matching
import PathGlob.Proofs.Expression.Reading

/-!
# PathGlob.Proofs.Expression.Segment

**The expression of a segment means its fragments.** The expression that is written for a list of
fragments is read without a fault, unless some class has no contents, and the tree that is read
matches exactly the concatenations of texts that the fragments accept, one after the other.

Meanings are put together as expressions are: `ReadsAs text accepts` says that the reader,
outside brackets, turns `text` into items that take exactly the accepted texts, whatever stands
before and after. Every construct of the writer has a lemma for it (`ReadsAs.escape`,
`ReadsAs.charClass`, `ReadsAs.group`, …).
-/

namespace PathGlob

open Expression

/-! ### Sequences of items -/

namespace Expr

variable {whole s t u : Text}

theorem ofReversed_concat (items : List Expr) (first : Expr) :
    ofReversed (items ++ [first]) = .seq first (ofReversed items) := by
  rw [ofReversed, List.foldl_append]
  rfl

/-- Later items stand in front in a reversed list and take what the earlier ones leave. -/
theorem takes_ofReversed_append {later earlier : List Expr} :
    Takes whole (ofReversed (later ++ earlier)) s u ↔
      ∃ t, Takes whole (ofReversed earlier) s t ∧ Takes whole (ofReversed later) t u := by
  induction earlier using List.reverseRecOn generalizing s with
  | nil =>
    have nothing : ofReversed [] = .empty := rfl
    simp [nothing]
  | append_singleton earlier first ih =>
    rw [← List.append_assoc, ofReversed_concat, ofReversed_concat, takes_seq]
    simp only [ih, takes_seq]
    constructor
    · intro h
      obtain ⟨v, head, t, middle, tail⟩ := h
      exact ⟨t, ⟨v, head, middle⟩, tail⟩
    · intro h
      obtain ⟨t, ⟨v, head, middle⟩, tail⟩ := h
      exact ⟨v, head, t, middle, tail⟩

theorem takes_ofReversed_singleton {item : Expr} :
    Takes whole (ofReversed [item]) s t ↔ Takes whole item s t := by
  have single : ofReversed [item] = .seq item .empty := rfl
  simp [single, takes_seq]

/-- The repetition of any character takes any text. -/
theorem takes_star_any : Takes whole (.star (.one .any)) s t ↔ ∃ u, s = u ++ t := by
  constructor
  · intro h
    obtain ⟨u, same⟩ := h.suffix
    exact ⟨u, same.symm⟩
  · intro h
    obtain ⟨u, rfl⟩ := h
    induction u with
    | nil => exact .starNil
    | cons c u ih => exact .starCons (.one rfl) ih

end Expr

/-! ### What fragments accept -/

namespace Fragment

variable {t text : Text}

theorem accepts_literal : Accepts (.literal text) t ↔ t = text := by
  constructor
  · intro h
    cases h
    rfl
  · intro same
    obtain rfl := same
    exact .literal t

theorem accepts_oneOf {alternatives : Alternatives} :
    Accepts (.oneOf alternatives) t ↔
      t ∈ alternatives.members ∨ alternatives.members = [] ∧ t = [] := by
  constructor
  · intro h
    cases h with
    | member mem => exact Or.inl mem
    | noMember none => exact Or.inr ⟨none, rfl⟩
  · intro h
    rcases h with mem | ⟨none, rfl⟩
    · exact .member mem
    · exact .noMember none

theorem accepts_charClass {negated : Bool} {contents : Text} :
    Accepts (.charClass negated contents) t ↔
      ∃ c, (if negated then c ∉ contents else c ∈ contents) ∧ t = [c] := by
  constructor
  · intro h
    cases h with
    | charClass mem => exact ⟨_, mem, rfl⟩
    | negatedClass mem => exact ⟨_, mem, rfl⟩
  · intro h
    obtain ⟨c, mem, rfl⟩ := h
    cases negated with
    | true => exact .negatedClass mem
    | false => exact .charClass mem

theorem accepts_anyChar : Accepts .anyChar t ↔ ∃ c, t = [c] := by
  constructor
  · intro h
    cases h
    exact ⟨_, rfl⟩
  · intro h
    obtain ⟨c, rfl⟩ := h
    exact .anyChar c

theorem accepts_anyText : Accepts .anyText t ↔ True :=
  iff_true_intro (.anyText t)

theorem allAccept_nil : AllAccept [] t ↔ t = [] := by
  constructor
  · intro h
    cases h
    rfl
  · intro same
    obtain rfl := same
    exact .nil

theorem allAccept_cons {f : Fragment} {fs : List Fragment} :
    AllAccept (f :: fs) t ↔ ∃ u v, f.Accepts u ∧ AllAccept fs v ∧ t = u ++ v := by
  constructor
  · intro h
    cases h with
    | cons first rest => exact ⟨_, _, first, rest, rfl⟩
  · intro h
    obtain ⟨u, v, first, rest, rfl⟩ := h
    exact .cons first rest

end Fragment

/-! ### Texts that are read as items -/

namespace Expression

/-- A level with more items, the latest first. -/
def Level.extend (level : Level) (items : List Expr) : Level :=
  { level with items := items ++ level.items }

/-- A level without items takes what its earlier choices take, and whatever items are put in. -/
theorem Level.takes_close_extend {level : Level} (fresh : level.items = []) {items : List Expr}
    {whole s t : Text} :
    Expr.Takes whole (level.extend items).close s t ↔
      (∃ e ∈ level.earlier, Expr.Takes whole e s t) ∨
        Expr.Takes whole (.ofReversed items) s t := by
  obtain ⟨dotAll, earlier, _⟩ := level
  obtain rfl := fresh
  cases earlier with
  | none => simp [Level.extend, Level.close]
  | some e => simp [Level.extend, Level.close, Expr.takes_either]

/-- The state after items have been read from `used` characters. -/
def Reading.take (r : Reading) (items : List Expr) (used : Nat) : Reading :=
  { r with level := r.level.extend items, position := r.position + used }

/-- Wherever `text` stands outside brackets, in a group where `.` takes line feeds, it is read as
items that take exactly the texts that `accepts` holds of. -/
def ReadsAs (text : Text) (accepts : Text → Prop) : Prop :=
  ∃ items : List Expr,
    (∀ (r : Reading) (rest : Text), r.brackets = [] → r.level.dotAll = true →
      r.run (text ++ rest) = (r.take items text.length).run rest) ∧
    ∀ whole s t, Expr.Takes whole (.ofReversed items) s t ↔ ∃ u, accepts u ∧ s = u ++ t

namespace ReadsAs

variable {text other : Text} {accepts accepts' : Text → Prop}

theorem congr (h : ReadsAs text accepts) (same : ∀ t, accepts t ↔ accepts' t) :
    ReadsAs text accepts' := by
  obtain ⟨items, read, takes⟩ := h
  exact ⟨items, read, fun whole s t => by simp only [takes, same]⟩

theorem nil : ReadsAs [] (· = []) := by
  refine ⟨[], fun r rest _ _ => rfl, fun whole s t => ?_⟩
  have nothing : Expr.ofReversed [] = .empty := rfl
  simp [nothing]

theorem append (h : ReadsAs text accepts) (h' : ReadsAs other accepts') :
    ReadsAs (text ++ other) fun t => ∃ u v, accepts u ∧ accepts' v ∧ t = u ++ v := by
  obtain ⟨items, read, takes⟩ := h
  obtain ⟨items', read', takes'⟩ := h'
  refine ⟨items' ++ items, fun r rest outside dotAll => ?_, fun whole s t => ?_⟩
  · rw [List.append_assoc, read r _ outside dotAll,
      read' (r.take items text.length) rest outside dotAll]
    simp only [Reading.take, Level.extend, List.append_assoc, List.length_append, Nat.add_assoc]
  · simp only [Expr.takes_ofReversed_append, takes, takes']
    constructor
    · intro h
      obtain ⟨v, ⟨u, hu, rfl⟩, w, hw, rfl⟩ := h
      exact ⟨u ++ w, ⟨u, w, hu, hw, rfl⟩, (List.append_assoc u w t).symm⟩
    · intro h
      obtain ⟨_, ⟨u, w, hu, hw, rfl⟩, rfl⟩ := h
      exact ⟨w ++ t, ⟨u, hu, List.append_assoc u w t⟩, w, hw, rfl⟩

/-- A text that is read as one item. -/
theorem ofItem (item : Expr)
    (read : ∀ (r : Reading) (rest : Text), r.brackets = [] → r.level.dotAll = true →
      r.run (text ++ rest) =
        { r with level := r.level.add item, position := r.position + text.length }.run rest)
    (takes : ∀ whole s t, Expr.Takes whole item s t ↔ ∃ u, accepts u ∧ s = u ++ t) :
    ReadsAs text accepts :=
  ⟨[item], read, fun whole s t => Expr.takes_ofReversed_singleton.trans (takes whole s t)⟩

/-- A text that is read as a set of characters. -/
theorem ofSet (set : CharClass)
    (read : ∀ (r : Reading) (rest : Text), r.brackets = [] → r.level.dotAll = true →
      r.run (text ++ rest) =
        { r with level := r.level.add (.one set), position := r.position + text.length }.run rest) :
    ReadsAs text fun t => ∃ c, set.contains c = true ∧ t = [c] := by
  refine ofItem (.one set) read fun whole s t => Expr.takes_one.trans ?_
  constructor
  · intro h
    obtain ⟨c, mem, rfl⟩ := h
    exact ⟨[c], ⟨c, mem, rfl⟩, rfl⟩
  · intro h
    obtain ⟨_, ⟨c, mem, rfl⟩, rfl⟩ := h
    exact ⟨c, mem, rfl⟩

/-- A class whose members are written one by one. -/
theorem charClass {write : Char → Text} {contents : Text} (negated : Bool)
    (h : ∀ c ∈ contents, WritesMember c (write c)) (ne : contents ≠ []) :
    ReadsAs ('[' :: Reading.sign negated ++ contents.flatMap write ++ [']'])
      fun t => ∃ c, (if negated then c ∉ contents else c ∈ contents) ∧ t = [c] := by
  refine (ofSet (.ofContents negated contents) fun r rest outside _ => ?_).congr fun t => ?_
  · rw [List.append_assoc, List.singleton_append, Reading.run_class negated h ne outside]
    congr 2
    simp only [List.length_append, List.length_cons, List.length_nil]
    omega
  · simp only [CharClass.contains_ofContents]

/-- An escaped character is read as itself. -/
theorem escapeChar (c : Char) : ReadsAs (escapeChar c) (· = [c]) := by
  have only : ∀ t : Text, (∃ d, (CharClass.single c).contains d = true ∧ t = [d]) ↔ t = [c] := by
    simp [CharClass.contains_single]
  -- A character stands bare, after a backslash or in a class of its own.
  unfold Expression.escapeChar
  split
  · next letter =>
    refine (ofSet (.single c) fun r rest outside _ => ?_).congr only
    exact Reading.run_step [] ((Reading.step_outside outside).trans
      (Reading.stepOutside_of_not_meta (isMeta_of_isAlphanumeric letter)))
  · split
    · next special =>
      refine (ofSet (.single c) fun r rest outside _ => ?_).congr only
      exact Reading.run_step [c] ((Reading.step_outside outside).trans
        (Reading.stepOutside_backslash (isEscapable_of_isMeta (isMeta_of_isBracketMeta special))))
    · next plain =>
      have bare : ∀ d ∈ [c], WritesMember d [d] := by
        intro d mem
        obtain rfl := List.mem_singleton.1 mem
        exact Or.inl ⟨rfl, Bool.eq_false_iff.2 plain⟩
      exact (charClass false bare (by simp)).congr fun t => by simp

/-- An escaped text is read as itself. -/
theorem escape (text : Text) : ReadsAs (escape text) (· = text) := by
  induction text with
  | nil => exact nil
  | cons c text ih =>
    have first := (escapeChar c).append ih
    exact first.congr fun t => by simp

/-- Choices are read up to their end. The level that is reached there takes what the choices to the
left would take, and each of the members. -/
theorem run_choices (members : List Text) (ne : members ≠ []) (start : Level)
    (dotAll : start.dotAll = true) (fresh : start.items = []) :
    ∃ level : Level,
      (∀ (r : Reading) (rest : Text), r.brackets = [] → r.level = start →
        r.run (Text.join '|' (members.map Expression.escape) ++ rest) =
          { r with
            level
            position := r.position +
              (Text.join '|' (members.map Expression.escape)).length }.run rest) ∧
      ∀ whole s t, Expr.Takes whole level.close s t ↔
        (∃ e ∈ start.earlier, Expr.Takes whole e s t) ∨ ∃ member ∈ members, s = member ++ t := by
  induction members generalizing start with
  | nil => exact absurd rfl ne
  | cons member members ih =>
    obtain ⟨items, read, takes⟩ := escape member
    have closed : ∀ whole s t, Expr.Takes whole (start.extend items).close s t ↔
        (∃ e ∈ start.earlier, Expr.Takes whole e s t) ∨ s = member ++ t := by
      intro whole s t
      rw [Level.takes_close_extend fresh, takes]
      simp
    cases members with
    | nil =>
      refine ⟨start.extend items, fun r rest outside same => ?_, fun whole s t => ?_⟩
      · subst same
        exact read r rest outside dotAll
      · simp [closed]
    | cons next members =>
      obtain ⟨level, run, takesLevel⟩ := ih (by simp) (start.extend items).choose dotAll rfl
      refine ⟨level, fun r rest outside same => ?_, fun whole s t => ?_⟩
      · subst same
        -- The bar turns what has been read into the choices to the left of the next member.
        have bar : (r.take items (Expression.escape member).length).step '|'
            (Text.join '|' ((next :: members).map Expression.escape) ++ rest) =
              .ok ({ r.take items (Expression.escape member).length with
                level := (r.level.extend items).choose }, 0) :=
          (Reading.step_outside (r := r.take items _) outside).trans rfl
        rw [List.map_cons, List.map_cons, Text.join, List.append_assoc,
          read r _ outside dotAll, List.cons_append]
        refine (Reading.run_step [] bar).trans
          ((run _ rest (by exact outside) (by rfl)).trans ?_)
        simp only [Reading.take, List.map_cons, List.length_append, List.length_cons,
          List.length_nil]
        congr 2
        omega
      · rw [takesLevel]
        simp [Level.choose, closed, or_assoc]

/-- A group is read as a choice between its members; without members it takes the empty text. -/
theorem group (members : List Text) :
    ReadsAs ("(?:".toList ++ Text.join '|' (members.map Expression.escape) ++ [')'])
      fun t => t ∈ members ∨ members = [] ∧ t = [] := by
  -- What stands between the parentheses leads from the first level of the group to one that takes
  -- the members.
  obtain ⟨level, read, takes⟩ : ∃ level : Level,
      (∀ (r : Reading) (rest : Text), r.brackets = [] → r.level = Reading.groupLevel true →
        r.run (Text.join '|' (members.map Expression.escape) ++ rest) =
          { r with
            level
            position := r.position +
              (Text.join '|' (members.map Expression.escape)).length }.run rest) ∧
      ∀ whole s t, Expr.Takes whole level.close s t ↔
        ∃ u, (u ∈ members ∨ members = [] ∧ u = []) ∧ s = u ++ t := by
    by_cases none : members = []
    · subst none
      refine ⟨Reading.groupLevel true, fun r rest _ same => ?_, fun whole s t => ?_⟩
      · rw [← same]
        rfl
      · have nothing : (Reading.groupLevel true).close = .empty := rfl
        simp [nothing]
    · obtain ⟨level, read, takes⟩ := run_choices members none (Reading.groupLevel true) rfl rfl
      refine ⟨level, read, fun whole s t => ?_⟩
      rw [takes]
      simp [Reading.groupLevel, none]
  refine ofItem level.close (fun r rest outside dotAll => ?_) takes
  have opened := @Reading.run_openGroup r
    (Text.join '|' (members.map Expression.escape) ++ ')' :: rest) outside
  rw [dotAll] at opened
  rw [List.append_assoc, List.append_assoc]
  refine opened.trans ((read _ (')' :: rest) (by exact outside) rfl).trans
    ((Reading.run_closeGroup (by exact outside) (by rfl)).trans ?_))
  have three : "(?:".toList.length = 3 := rfl
  simp only [List.length_append, List.length_cons, List.length_nil, three]
  congr 2
  omega

/-- A dot is read as any character. -/
theorem dot : ReadsAs ['.'] fun t => ∃ c, t = [c] := by
  refine (ofSet .any fun r rest outside dotAll => ?_).congr fun t => by simp [CharClass.contains]
  have read : r.step '.' rest = .ok ({ r with level := r.level.add (.one .any) }, 0) := by
    rw [Reading.step_outside outside]
    simp only [Reading.stepOutside, dotAll, if_true]
  exact Reading.run_step [] read

/-- A dot and an asterisk are read as any text. -/
theorem dotStar : ReadsAs ['.', '*'] fun _ => True := by
  refine ofItem (.star (.one .any)) (fun r rest outside dotAll => ?_)
    fun whole s t => by simp [Expr.takes_star_any]
  have read : r.step '.' ('*' :: rest) =
      .ok ({ r with level := r.level.add (.one .any) }, 0) := by
    rw [Reading.step_outside outside]
    simp only [Reading.stepOutside, dotAll, if_true]
  have repeated : ∀ r' : Reading, r'.brackets = [] →
      r'.level = r.level.add (.one .any) →
      r'.step '*' rest = .ok ({ r' with level := r.level.add (.star (.one .any)) }, 0) := by
    intro r' outside same
    rw [Reading.step_outside outside]
    simp only [Reading.stepOutside, same, Level.add]
  refine (Reading.run_step [] read).trans ?_
  exact Reading.run_step [] (repeated _ (by exact outside) (by rfl))

end ReadsAs

end Expression

/-! ### Fragments -/

/-- The expression of a fragment means the fragment, unless it is a class without contents. -/
theorem Fragment.readsAs_expression (f : Fragment) (h : ∀ negated, f ≠ .charClass negated []) :
    ReadsAs f.expression f.Accepts := by
  cases f with
  | literal text => exact (ReadsAs.escape text).congr fun t => Fragment.accepts_literal.symm
  | oneOf alternatives =>
    exact (ReadsAs.group alternatives.members).congr fun t => Fragment.accepts_oneOf.symm
  | charClass negated contents =>
    have ne : contents ≠ [] := by
      intro same
      obtain rfl := same
      exact h negated rfl
    have read := ReadsAs.charClass negated (fun c _ => writesMember_escapeMember c) ne
    exact read.congr fun t => Fragment.accepts_charClass.symm
  | anyChar => exact ReadsAs.dot.congr fun t => Fragment.accepts_anyChar.symm
  | anyText => exact ReadsAs.dotStar.congr fun t => Fragment.accepts_anyText.symm

/-- The expressions of fragments, one after the other, mean the fragments in order. -/
theorem Fragment.readsAs_expressions {fragments : List Fragment}
    (h : ∀ negated, Fragment.charClass negated [] ∉ fragments) :
    ReadsAs (fragments.flatMap Fragment.expression) (Fragment.AllAccept fragments) := by
  induction fragments with
  | nil => exact ReadsAs.nil.congr fun t => Fragment.allAccept_nil.symm
  | cons f fragments ih =>
    have first := f.readsAs_expression fun negated same => h negated (by simp [same])
    have rest := ih fun negated mem => h negated (List.mem_cons_of_mem f mem)
    exact (first.append rest).congr fun t => Fragment.allAccept_cons.symm

/-! ### Main result -/

/-- Between anchors, a text is read as an expression that matches what the text means. -/
theorem Expression.ReadsAs.parse {body : Text} {accepts : Text → Prop}
    (h : ReadsAs body accepts) :
    ∃ e, Expr.parse ("^(?s:".toList ++ body ++ ")$".toList) = .ok e ∧
      ∀ t, e.Matches t ↔ accepts t := by
  obtain ⟨items, read, takes⟩ := h
  refine ⟨.ofReversed [.finish, .ofReversed items, .start], ?_, fun t => ?_⟩
  · have start : Reading.initial.step '^' ('(' :: '?' :: 's' :: ':' :: (body ++ [')', '$'])) =
        .ok ({ Reading.initial with level := Reading.initial.level.add .start }, 0) := rfl
    have text : "^(?s:".toList ++ body ++ ")$".toList =
        '^' :: '(' :: '?' :: 's' :: ':' :: (body ++ [')', '$']) := by simp
    -- The anchors and the group are read around the body, one after the other.
    rw [Expr.parse, text]
    refine (Reading.run_step [] start).trans
      ((Reading.run_openDotAllGroup rfl).trans ((read _ [')', '$'] rfl rfl).trans
        ((Reading.run_closeGroup rfl rfl).trans ?_)))
    refine (Reading.run_step [] (by rfl)).trans ?_
    rw [Reading.run]
    simp [Reading.finish, Reading.initial, Reading.take, Reading.groupLevel, Level.extend,
      Level.add, Level.close]
  · have anchored : Expr.ofReversed [.finish, .ofReversed items, .start] =
        .seq .start (.seq (.ofReversed items) (.seq .finish .empty)) := rfl
    rw [Expr.Matches, anchored]
    simp only [Expr.takes_seq, Expr.takes_start, Expr.takes_finish, Expr.takes_empty, takes]
    constructor
    · intro h
      obtain ⟨_, _, -, _, ⟨rfl, rfl⟩, _, ⟨u, means, same⟩, _, ⟨rfl, rfl⟩, -⟩ := h
      rw [List.append_nil] at same
      exact same ▸ means
    · intro means
      exact ⟨t, [], List.suffix_rfl, t, ⟨rfl, rfl⟩, [], ⟨t, means, (List.append_nil t).symm⟩,
        [], ⟨rfl, rfl⟩, rfl⟩

/-- **The expression of a segment.** Fragments of which none is a class without contents are written
as an expression that is read without a fault and matches the texts that the fragments accept, one
after the other; and deciding whether it matches is exact. -/
theorem Expression.ofFragments_matches_iff (fragments : List Fragment)
    (h : ∀ negated, Fragment.charClass negated [] ∉ fragments) :
    ∃ e, Expr.parse (ofFragments fragments) = .ok e ∧
      ∀ t, (e.Matches t ↔ Fragment.AllAccept fragments t) ∧
        (e.isMatch t = true ↔ Fragment.AllAccept fragments t) := by
  obtain ⟨e, read, means⟩ := (Fragment.readsAs_expressions h).parse
  exact ⟨e, read, fun t => ⟨means t, (e.isMatch_iff_matches t).trans (means t)⟩⟩

/-- Closing brackets, ranges, operators and the names of classes are members like any other
characters, and a set without members takes the empty text. -/
theorem Expression.ofFragments_matches_raw_members :
    ∃ e, Expr.parse (ofFragments [.literal "/a|".toList, .oneOf (.ofList []),
        .charClass true "]^&&a-z".toList, .charClass false ":alpha:".toList, .anyText]) = .ok e ∧
      e.Matches "/a|b:\n".toList ∧ e.isMatch "/a|b:\n".toList = true := by
  obtain ⟨e, read, means⟩ := ofFragments_matches_iff [.literal "/a|".toList, .oneOf (.ofList []),
    .charClass true "]^&&a-z".toList, .charClass false ":alpha:".toList, .anyText] (by decide)
  have classes : Fragment.AllAccept
      [.charClass true "]^&&a-z".toList, .charClass false ":alpha:".toList, .anyText]
      "b:\n".toList :=
    .cons (.negatedClass (by decide)) (.cons (.charClass (by decide))
      (.cons (.anyText ['\n']) .nil))
  have accepts : Fragment.AllAccept [.literal "/a|".toList, .oneOf (.ofList []),
      .charClass true "]^&&a-z".toList, .charClass false ":alpha:".toList, .anyText]
      "/a|b:\n".toList :=
    .cons (.literal "/a|".toList) (.cons (.noMember rfl) classes)
  exact ⟨e, read, (means _).1.2 accepts, (means _).2.2 accepts⟩

end PathGlob
