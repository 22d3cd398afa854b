import PathGlob.Expression.Escape
import PathGlob.Expression.Reader

/-!
# PathGlob.Proofs.Expression.Reading

**Escaped characters are read as themselves.** What the reader of expressions does with the texts
that the two escaping rules write, in any state and in front of any rest.

Inside brackets a character may be written bare or after a backslash (`WritesMember`). Neither
form starts a range, a set operator, a named set or a nested class, provided that no hyphen comes
next; and none of these forms starts with a hyphen. So the members of a class are read one by one
(`run_members`), and a class that is not empty is read as the set of its members (`run_class`).
-/

namespace PathGlob.Expression

/-! ### Characters with a meaning of their own -/

/-- The characters that have a meaning of their own somewhere in an expression, as a list. -/
def metaCharacters : List Char :=
  ['\\', '.', '+', '*', '?', '(', ')', '|', '[', ']', '{', '}', '^', '$', '#', '&', '-', '~']

theorem mem_metaCharacters {c : Char} : c ∈ metaCharacters ↔ isMeta c = true := by
  simp [metaCharacters, isMeta, or_assoc]

theorem isMeta_of_isBracketMeta {c : Char} (h : isBracketMeta c = true) : isMeta c = true := by
  simp only [isBracketMeta, Bool.or_eq_true, decide_eq_true_eq] at h
  rcases h with ((((((rfl | rfl) | rfl) | rfl) | rfl) | rfl) | rfl) <;> rfl

theorem isEscapable_of_isMeta {c : Char} (h : isMeta c = true) :
    Reading.isEscapable c = true := by
  have all : metaCharacters.all Reading.isEscapable = true := rfl
  exact List.all_eq_true.1 all c (mem_metaCharacters.2 h)

theorem isMeta_of_isAlphanumeric {c : Char} (h : Text.isAlphanumeric c = true) :
    isMeta c = false := by
  have none : metaCharacters.any Text.isAlphanumeric = false := rfl
  rw [← Bool.not_eq_true]
  intro special
  exact List.any_eq_false.1 none c (mem_metaCharacters.2 special) h

/-! ### Steps of the reader -/

namespace Reading

variable {r next : Reading} {c : Char} {rest : Text}

/-- One step of a run; `used` are the characters that the step takes behind the first. -/
theorem run_step (used : Text) (h : r.step c (used ++ rest) = .ok (next, used.length)) :
    r.run (c :: used ++ rest) =
      { next with position := r.position + 1 + used.length }.run rest := by
  rw [List.cons_append, run, h]
  simp only
  rw [List.drop_left]

theorem step_outside (h : r.brackets = []) : r.step c rest = r.stepOutside c rest := by
  rw [step, h]

theorem step_inside {bracket : Bracket} {around : List Bracket}
    (h : r.brackets = bracket :: around) :
    r.step c rest = r.stepInside bracket around c rest := by
  rw [step, h]

/-- A character without a meaning of its own is read as itself. -/
theorem stepOutside_of_not_meta (h : isMeta c = false) :
    r.stepOutside c rest = .ok ({ r with level := r.level.add (.one (.single c)) }, 0) := by
  unfold stepOutside
  split
  case h_13 => rfl
  all_goals exact absurd h (by decide)

theorem stepOutside_backslash (h : isEscapable c = true) :
    r.stepOutside '\\' (c :: rest) =
      .ok ({ r with level := r.level.add (.one (.single c)) }, 1) := by
  simp [stepOutside, member?, h]

/-! ### Members of a class -/

/-- No hyphen comes next, so the member in front starts no range. -/
def NoRange (rest : Text) : Prop :=
  ∀ more, rest ≠ '-' :: more

theorem memberOrRange_of_noRange {position n : Nat} {d : Char} (noRange : NoRange (rest.drop n))
    (h : member? c rest = some (d, n)) : memberOrRange position c rest = .ok (.single d, n) := by
  unfold memberOrRange
  rw [h]
  simp only
  split
  · next same => exact absurd same (noRange _)
  · rfl

variable {bracket : Bracket} {around : List Bracket}

theorem stepInside_bare (h : isBracketMeta c = false) (noRange : NoRange rest) :
    r.stepInside bracket around c rest =
      .ok ({ r with brackets := bracket.add (.single c) :: around }, 0) := by
  -- All tests inside brackets are for characters that are never bare.
  have ne : ∀ d, isBracketMeta d = true → c ≠ d := by
    intro d special same
    obtain rfl := same
    rw [h] at special
    cases special
  have read : memberOrRange r.position c rest = .ok (.single c, 0) := by
    refine memberOrRange_of_noRange noRange ?_
    unfold member?
    rw [if_neg (ne '\\' rfl)]
  have operator : operator? c rest = none := by
    unfold operator?
    rw [if_neg (ne '&' rfl), if_neg (ne '-' rfl), if_neg (ne '~' rfl), ite_self]
  unfold stepInside
  rw [if_neg (ne '[' rfl), if_neg (ne ']' rfl), operator, read]
  rfl

theorem stepInside_backslash (h : isEscapable c = true) (noRange : NoRange rest) :
    r.stepInside bracket around '\\' (c :: rest) =
      .ok ({ r with brackets := bracket.add (.single c) :: around }, 1) := by
  have read : memberOrRange r.position '\\' (c :: rest) = .ok (.single c, 1) :=
    memberOrRange_of_noRange noRange (by simp [member?, h])
  have operator : operator? '\\' (c :: rest) = none := by
    simp [operator?]
  unfold stepInside
  rw [if_neg (by decide), if_neg (by decide), operator, read]
  rfl

end Reading

/-- The text stands for the character inside brackets. -/
def WritesMember (c : Char) (text : Text) : Prop :=
  (text = [c] ∧ isBracketMeta c = false) ∨ (text = ['\\', c] ∧ Reading.isEscapable c = true)

theorem writesMember_escapeMember (c : Char) : WritesMember c (escapeMember c) := by
  unfold escapeMember
  split
  · next h => exact Or.inr ⟨rfl, isEscapable_of_isMeta h⟩
  · next h => exact Or.inl ⟨rfl, Bool.eq_false_iff.2 (mt isMeta_of_isBracketMeta h)⟩

/-- A member starts with a character that has no meaning of its own at the start of a class. -/
theorem WritesMember.head {c : Char} {text : Text} (h : WritesMember c text) :
    ∃ first more, text = first :: more ∧ first ≠ '^' ∧ first ≠ '-' ∧ first ≠ ']' := by
  rcases h with ⟨rfl, bare⟩ | ⟨rfl, -⟩
  · refine ⟨c, [], rfl, ?_, ?_, ?_⟩ <;> rintro rfl <;> cases bare
  · exact ⟨'\\', [c], rfl, by decide, by decide, by decide⟩

/-- A set with more characters as members. -/
def CharClass.addAll (set : CharClass) (contents : Text) : CharClass :=
  contents.foldl (fun set c => .union set (.single c)) set

theorem CharClass.contains_addAll (set : CharClass) (contents : Text) (c : Char) :
    (set.addAll contents).contains c = (set.contains c || decide (c ∈ contents)) := by
  induction contents generalizing set with
  | nil => simp [addAll]
  | cons d contents ih =>
    have shift : set.addAll (d :: contents) = (union set (single d)).addAll contents := rfl
    rw [shift, ih]
    simp [contains, contains_single, Bool.or_assoc]

/-- A bracket with more characters as members. -/
def Bracket.addAll (b : Bracket) (contents : Text) : Bracket :=
  { b with members := b.members.addAll contents }

/-- The set that a class with the given contents means. -/
def CharClass.ofContents (negated : Bool) (contents : Text) : CharClass :=
  if negated then .compl (addAll .none contents) else addAll .none contents

theorem CharClass.contains_ofContents {negated : Bool} {contents : Text} {c : Char} :
    (ofContents negated contents).contains c = true ↔
      if negated then c ∉ contents else c ∈ contents := by
  cases negated with
  | true => simp [ofContents, contains, contains_addAll]
  | false => simp [ofContents, contains, contains_addAll]

namespace Reading

variable {r : Reading} {rest : Text} {bracket : Bracket} {around : List Bracket}

/-- The state after `used` characters that changed nothing but the brackets. -/
def bracketed (r : Reading) (brackets : List Bracket) (used : Nat) : Reading :=
  { r with brackets, position := r.position + used }

theorem run_member {c : Char} {text : Text} (h : WritesMember c text) (noRange : NoRange rest)
    (inside : r.brackets = bracket :: around) :
    r.run (text ++ rest) =
      (r.bracketed (bracket.add (.single c) :: around) text.length).run rest := by
  rcases h with ⟨rfl, bare⟩ | ⟨rfl, escapable⟩
  · exact run_step [] ((step_inside inside).trans (stepInside_bare bare noRange))
  · exact run_step [c]
      ((step_inside inside).trans (stepInside_backslash escapable noRange))

/-- Members are read one by one, each as itself. -/
theorem run_members {write : Char → Text} {contents : Text}
    (h : ∀ c ∈ contents, WritesMember c (write c)) (noRange : NoRange rest)
    (inside : r.brackets = bracket :: around) :
    r.run (contents.flatMap write ++ rest) =
      (r.bracketed (bracket.addAll contents :: around) (contents.flatMap write).length).run
        rest := by
  induction contents generalizing r bracket with
  | nil =>
    have same : bracket.addAll [] :: around = r.brackets := inside.symm
    rw [List.flatMap_nil, List.nil_append, same]
    rfl
  | cons c contents ih =>
    -- No member starts with a hyphen, so the next one makes no range of this one.
    have noRange' : NoRange (contents.flatMap write ++ rest) := by
      cases contents with
      | nil => exact noRange
      | cons d contents =>
        obtain ⟨first, more, eq, -, ne, -⟩ := (h d (by simp)).head
        intro after
        rw [List.flatMap_cons, eq]
        simp [ne]
    rw [List.flatMap_cons, List.append_assoc, run_member (h c (by simp)) noRange' inside,
      ih (fun d mem => h d (List.mem_cons_of_mem c mem)) rfl, List.length_append]
    simp only [bracketed, Nat.add_assoc]
    rfl

/-! ### Whole classes -/

/-- The sign of a class at its opening. -/
def sign (negated : Bool) : Text :=
  if negated then ['^'] else []

/-- The bracket that a plain opening starts. -/
def opening (negated : Bool) (position : Nat) : Bracket where
  negated := negated
  start := position
  stop := position + 1 + (sign negated).length
  operand := none
  members := .none

theorem openBracket_eq_opening (negated : Bool) (position : Nat) {first : Char} {more : Text}
    (h : first ≠ '^' ∧ first ≠ '-' ∧ first ≠ ']') :
    openBracket position (sign negated ++ first :: more) =
      (opening negated position, (sign negated).length) := by
  have hyphens : (first :: more).takeWhile (· = '-') = [] :=
    List.takeWhile_cons_of_neg (by simpa using h.2.1)
  cases negated with
  | true => simp [openBracket, sign, opening, hyphens, h.2.2]
  | false => simp [openBracket, sign, opening, hyphens, h]

/-- The first member of a class is taken for neither a sign nor hyphens nor the closing bracket. -/
theorem openBracket_members {write : Char → Text} {contents : Text} (negated : Bool)
    (position : Nat) (h : ∀ c ∈ contents, WritesMember c (write c)) (ne : contents ≠ []) :
    openBracket position (sign negated ++ (contents.flatMap write ++ rest)) =
      (opening negated position, (sign negated).length) := by
  obtain ⟨c, contents, rfl⟩ := List.exists_cons_of_ne_nil ne
  obtain ⟨first, more, eq, plain⟩ := (h c List.mem_cons_self).head
  rw [List.flatMap_cons, eq, List.cons_append, List.cons_append]
  exact openBracket_eq_opening negated position plain

theorem run_closing (inside : r.brackets = [bracket]) :
    r.run (']' :: rest) =
      { r with brackets := [], level := r.level.add (.one bracket.close),
               position := r.position + 1 }.run rest := by
  have closed : r.step ']' rest =
      .ok ({ r with brackets := [], level := r.level.add (.one bracket.close) }, 0) := by
    rw [step_inside inside]
    rfl
  exact run_step [] closed

/-- A class with contents is read as the set of its members, or as all others if it is negated. -/
theorem run_class {write : Char → Text} {contents : Text} (negated : Bool)
    (h : ∀ c ∈ contents, WritesMember c (write c)) (ne : contents ≠ [])
    (outside : r.brackets = []) :
    r.run ('[' :: sign negated ++ contents.flatMap write ++ ']' :: rest) =
      { r with
        level := r.level.add (.one (.ofContents negated contents))
        position :=
          r.position + (sign negated ++ contents.flatMap write).length + 2 }.run rest := by
  have opened : r.step '[' (sign negated ++ (contents.flatMap write ++ ']' :: rest)) =
      .ok ({ r with brackets := [opening negated r.position] }, (sign negated).length) := by
    rw [step_outside outside]
    simp only [stepOutside, openBracket_members negated r.position h ne]
  rw [List.append_assoc, run_step _ opened, run_members h (fun more => by simp) rfl]
  have means : ((opening negated r.position).addAll contents).close =
      .ofContents negated contents := by
    cases negated <;> rfl
  rw [run_closing rfl, means]
  simp only [bracketed, outside, List.length_append]
  congr 2
  omega

/-! ### Groups -/

/-- The level that a group starts with. -/
def groupLevel (dotAll : Bool) : Level where
  dotAll := dotAll
  earlier := none
  items := []

theorem run_openGroup (outside : r.brackets = []) :
    r.run ('(' :: '?' :: ':' :: rest) =
      { r with level := groupLevel r.level.dotAll, outer := r.level :: r.outer,
               position := r.position + 3 }.run rest := by
  have opened : r.step '(' ('?' :: ':' :: rest) =
      .ok ({ r with level := groupLevel r.level.dotAll, outer := r.level :: r.outer }, 2) :=
    (step_outside outside).trans rfl
  exact run_step ['?', ':'] opened

theorem run_openDotAllGroup (outside : r.brackets = []) :
    r.run ('(' :: '?' :: 's' :: ':' :: rest) =
      { r with level := groupLevel true, outer := r.level :: r.outer,
               position := r.position + 4 }.run rest := by
  have opened : r.step '(' ('?' :: 's' :: ':' :: rest) =
      .ok ({ r with level := groupLevel true, outer := r.level :: r.outer }, 3) :=
    (step_outside outside).trans rfl
  exact run_step ['?', 's', ':'] opened

theorem run_closeGroup {level : Level} {outer : List Level} (outside : r.brackets = [])
    (around : r.outer = level :: outer) :
    r.run (')' :: rest) =
      { r with level := level.add r.level.close, outer, position := r.position + 1 }.run rest := by
  have closed : r.step ')' rest =
      .ok ({ r with level := level.add r.level.close, outer }, 0) := by
    rw [step_outside outside]
    simp only [stepOutside, around]
  exact run_step [] closed

end Reading

end PathGlob.Expression
