import PathGlob.Command.Explanation
import PathGlob.Proofs.Glob.Matching
import PathGlob.Proofs.Text.Lines
import PathGlob.Proofs.Text.Quoted
import PathGlob.Program

/-!
# PathGlob.Proofs.Command.Explain

**Explanations are faithful** (`explain_faithful`): there is a line for each piece of the pattern,
with the words that its component has (`IsExplanation`), and patterns are explained alike only if
they are the same, so that they match the same candidates.

What is written for a fragment can be read back if what comes after it is known to be nothing or the
words between fragments. The words of a fragment may stand in a literal as well, but only in quotes.
-/

namespace PathGlob.Command

open Text (DelimitedBy IsQuoted forall₂_iff_eq_map isQuoted_iff quoted delimitedBy_quoted)

variable {f : Fragment} {fragments : List Fragment} {component : Component (List Fragment)}
  {pattern : Pattern} {u v : Text}

/-! ### Kinds of fragments -/

/-- What can be seen from the first words for a fragment. -/
inductive Kind
  | literal
  | oneOf
  | charClass (negated : Bool)
  | anyChar
  | anyText
  deriving DecidableEq

def kindOf : Fragment → Kind
  | .literal _ => .literal
  | .oneOf _ => .oneOf
  | .charClass negated _ => .charClass negated
  | .anyChar => .anyChar
  | .anyText => .anyText

/-- The first words for a fragment. -/
def Kind.opening : Kind → Text
  | literal => "literal ".toList
  | oneOf => "one of ".toList
  | charClass negated =>
    "one character ".toList ++ if negated then "not in ".toList else "in ".toList
  | anyChar => "any character".toList
  | anyText => "any characters".toList

/-- What comes after the first words. -/
def describeContents : Fragment → Text
  | .literal text => quoted text
  | .oneOf alternatives => ", ".toList.intercalate (alternatives.members.map quoted)
  | .charClass _ contents => quoted contents
  | .anyChar | .anyText => []

theorem describeFragment_eq (f : Fragment) :
    describeFragment f = (kindOf f).opening ++ describeContents f := by
  cases f with
  | literal | oneOf | charClass => rfl
  | anyChar | anyText => exact (List.append_nil _).symm

/-- The first words are told apart from what follows, with one exception. -/
theorem Kind.eq_of_opening_prefix {k l : Kind} (h : k.opening <+: l.opening) :
    k = l ∨ k = anyChar ∧ l = anyText := by
  revert h
  rcases k with _ | _ | (_ | _) | _ | _ <;> rcases l with _ | _ | (_ | _) | _ | _ <;> decide

/-- What may come after the words for a fragment: nothing or another fragment. -/
def AfterFragment (u : Text) : Prop :=
  u = [] ∨ ", then ".toList <+: u

/-- The words for one arbitrary character are not taken for the start of longer ones. -/
theorem anyChar_append_ne_anyText (after : AfterFragment u) :
    Kind.anyChar.opening ++ u ≠ Kind.anyText.opening ++ v := by
  have longer : Kind.anyText.opening = Kind.anyChar.opening ++ ['s'] := by decide
  intro same
  rw [longer, List.append_assoc, List.append_cancel_left_eq] at same
  obtain rfl := same
  rcases after with ended | ⟨rest, next⟩
  · cases ended
  · exact absurd (congrArg List.head? next) (by simp)

theorem describeContents_of_anyChar (h : kindOf f = .anyChar) : describeContents f = [] := by
  cases f with
  | anyChar => rfl
  | literal | oneOf | charClass | anyText => cases h

theorem kindOf_eq_of_append_eq {g : Fragment} (afterF : AfterFragment u) (afterG : AfterFragment v)
    (same : describeFragment f ++ u = describeFragment g ++ v) : kindOf f = kindOf g := by
  simp only [describeFragment_eq, List.append_assoc] at same
  have first : (kindOf f).opening <+: (kindOf g).opening ++ (describeContents g ++ v) := ⟨_, same⟩
  have second : (kindOf g).opening <+: (kindOf g).opening ++ (describeContents g ++ v) :=
    List.prefix_append _ _
  rcases List.prefix_or_prefix_of_prefix first second with shorter | shorter
  · rcases Kind.eq_of_opening_prefix shorter with kinds | ⟨isChar, isText⟩
    · exact kinds
    · rw [isChar, isText, describeContents_of_anyChar isChar] at same
      exact absurd same (anyChar_append_ne_anyText afterF)
  · rcases Kind.eq_of_opening_prefix shorter with kinds | ⟨isChar, isText⟩
    · exact kinds.symm
    · rw [isChar, isText, describeContents_of_anyChar isChar] at same
      exact absurd same.symm (anyChar_append_ne_anyText afterG)

/-! ### Fragments -/

/-- The members of a set, in front of the end of a fragment. -/
theorem delimitedBy_members :
    DelimitedBy AfterFragment fun members : List Text =>
      ", ".toList.intercalate (members.map quoted) := by
  refine delimitedBy_quoted.intercalate (fun _ _ => trivial) (fun _ => trivial) ?_ ?_
  · rintro a u v (rfl | ⟨rest, rfl⟩) <;> simp [quoted]
  · rintro a u v (rfl | ⟨rest, rfl⟩) <;> simp [quoted]

theorem delimitedBy_describeFragment : DelimitedBy AfterFragment describeFragment := by
  intro f g u v followsU followsV same
  have kinds := kindOf_eq_of_append_eq followsU followsV same
  simp only [describeFragment_eq, kinds, List.append_assoc, List.append_cancel_left_eq] at same
  match f, g, kinds with
  | .literal s, .literal t, _ =>
    obtain ⟨rfl, rest⟩ := delimitedBy_quoted trivial trivial same
    exact ⟨rfl, rest⟩
  | .oneOf s, .oneOf t, _ =>
    obtain ⟨members, rest⟩ := delimitedBy_members followsU followsV same
    exact ⟨congrArg _ (Alternatives.eq_of_members members), rest⟩
  | .charClass negated s, .charClass negated' t, kinds =>
    obtain ⟨rfl, rest⟩ := delimitedBy_quoted trivial trivial same
    cases kinds
    exact ⟨rfl, rest⟩
  | .anyChar, .anyChar, _ => exact ⟨rfl, same⟩
  | .anyText, .anyText, _ => exact ⟨rfl, same⟩

/-! ### Components -/

/-- The words for the fragments of a segment. -/
def describeFragments (fragments : List Fragment) : Text :=
  ", then ".toList.intercalate (fragments.map describeFragment)

theorem Kind.head_opening (k : Kind) : k.opening.head? ∈ [some 'l', some 'o', some 'a'] := by
  rcases k with _ | _ | (_ | _) | _ | _ <;> decide

theorem head_describeFragment_append (f : Fragment) (u : Text) :
    (describeFragment f ++ u).head? ∈ [some 'l', some 'o', some 'a'] := by
  have first := (kindOf f).head_opening
  rw [describeFragment_eq, List.append_assoc, List.head?_append]
  cases head : (kindOf f).opening.head? with
  | none => simp [head] at first
  | some c => rwa [Option.some_or, ← head]

theorem describeFragments_injective : Function.Injective describeFragments := by
  refine (delimitedBy_describeFragment.intercalate ?_ ?_ ?_ ?_).injective
  · rintro u rfl
    exact .inl rfl
  · exact fun u => .inr (List.prefix_append _ u)
  · rintro f u v rfl ended
    have first := head_describeFragment_append f u
    rw [ended] at first
    exact absurd first (by decide)
  · rintro f u v rfl ended
    cases ended

/-- The words for a fragment are no start of the words for a component without fragments. -/
theorem describeFragments_ne {words : Text}
    (other : words.head? ∉ [some 'l', some 'o', some 'a']) :
    describeFragments (f :: fragments) ≠ words := by
  rintro rfl
  refine other ?_
  rw [describeFragments, List.map_cons, Text.intercalate_cons]
  exact head_describeFragment_append f _

/-- Different components have different words. -/
theorem describeComponent_injective : Function.Injective describeComponent := by
  intro c d same
  match c, d with
  | .doubleStar, .doubleStar | .segment [], .segment [] => rfl
  | .doubleStar, .segment [] | .segment [], .doubleStar => exact absurd same (by decide)
  | .segment (f :: fs), .doubleStar | .segment (f :: fs), .segment [] =>
    exact absurd same (describeFragments_ne (by decide))
  | .doubleStar, .segment (f :: fs) | .segment [], .segment (f :: fs) =>
    exact absurd same.symm (describeFragments_ne (by decide))
  | .segment (f :: fs), .segment (g :: gs) => exact congrArg _ (describeFragments_injective same)

/-! ### Rows -/

section LineEnds

variable {e : Char} (isEnd : e = '\n' ∨ e = '\r')

include isEnd

theorem Kind.lineEnd_notMem_opening (k : Kind) : e ∉ k.opening := by
  rcases isEnd with rfl | rfl
  · rcases k with _ | _ | (_ | _) | _ | _ <;> decide
  · rcases k with _ | _ | (_ | _) | _ | _ <;> decide

theorem lineEnd_notMem_describeFragment (f : Fragment) : e ∉ describeFragment f := by
  rw [describeFragment_eq, List.mem_append, not_or]
  refine ⟨Kind.lineEnd_notMem_opening isEnd _, ?_⟩
  cases f with
  | literal text | charClass _ text => exact Text.lineEnd_notMem_quoted isEnd text
  | oneOf alternatives =>
    have noSeparator : e ∉ ", ".toList := by rcases isEnd with rfl | rfl <;> decide
    refine Text.notMem_intercalate noSeparator ?_
    rw [List.forall_mem_map]
    exact fun member _ => Text.lineEnd_notMem_quoted isEnd member
  | anyChar | anyText => exact List.not_mem_nil

theorem lineEnd_notMem_describeComponent (component : Component (List Fragment)) :
    e ∉ describeComponent component := by
  match component with
  | .doubleStar => rcases isEnd with rfl | rfl <;> decide
  | .segment [] => rcases isEnd with rfl | rfl <;> decide
  | .segment (f :: fs) =>
    have noSeparator : e ∉ ", then ".toList := by rcases isEnd with rfl | rfl <;> decide
    refine Text.notMem_intercalate noSeparator ?_
    rw [List.forall_mem_map]
    exact fun g _ => lineEnd_notMem_describeFragment isEnd g

/-- The line of a component, without what ends it. -/
def row (component : Component (List Fragment)) (index : Nat) : Text :=
  Text.padLeft 3 (Text.ofNat index) ++ ' ' :: describeComponent component

theorem lineEnd_notMem_row (component : Component (List Fragment)) (index : Nat) :
    e ∉ row component index := by
  have noBlank : e ≠ ' ' := by rcases isEnd with rfl | rfl <;> decide
  have noDigit := Text.lineEnd_notMem_toDigits isEnd (b := 10) (by decide) index
  have noWord := lineEnd_notMem_describeComponent isEnd component
  simp [row, Text.padLeft, Text.ofNat, noBlank, noDigit, noWord]

end LineEnds

theorem row_isWhole (component : Component (List Fragment)) (index : Nat) :
    Text.IsWhole (row component index) :=
  ⟨lineEnd_notMem_row (.inl rfl) component index,
    fun last => lineEnd_notMem_row (.inr rfl) component index (List.mem_of_getLast? last)⟩

/-- The lines of a pattern whose components are counted from the given number. -/
def rowsFrom (index : Nat) (pattern : Pattern) : List Text :=
  (pattern.zipIdx index).map fun (component, index) => row component index

theorem rowsFrom_injective (index : Nat) : Function.Injective (rowsFrom index) := by
  intro p q same
  induction p generalizing index q with
  | nil =>
    cases q with
    | nil => rfl
    | cons => cases same
  | cons c p ih =>
    cases q with
    | nil => cases same
    | cons d q =>
      obtain ⟨first, rest⟩ := List.cons.inj same
      have words := List.cons.inj (List.append_cancel_left first)
      rw [describeComponent_injective words.2, ih (index + 1) rest]

theorem describePattern_eq (pattern : Pattern) :
    describePattern false pattern = Text.unlines (rowsFrom 0 pattern) := by
  rw [describePattern, Text.unlines, rowsFrom, List.flatMap_map]
  rfl

theorem lines_describePattern (pattern : Pattern) :
    (describePattern false pattern).lines = rowsFrom 0 pattern := by
  rw [describePattern_eq, Text.lines_unlines]
  rw [rowsFrom, List.forall_mem_map]
  exact fun numbered _ => row_isWhole numbered.1 numbered.2

/-- Different patterns are described differently. -/
theorem describePattern_injective : Function.Injective (describePattern false) := by
  intro p q same
  have rows := congrArg Text.lines same
  rw [lines_describePattern, lines_describePattern] at rows
  exact rowsFrom_injective 0 rows

/-! ### What the lines are -/

theorem describeFragment_charClass (contents : Text) :
    describeFragment (.charClass false contents) = "one character in ".toList ++ quoted contents :=
  congrArg (· ++ quoted contents) (by decide)

theorem describeFragment_negatedClass (contents : Text) :
    describeFragment (.charClass true contents) =
      "one character not in ".toList ++ quoted contents :=
  congrArg (· ++ quoted contents) (by decide)

theorem fragmentWords_iff : FragmentWords f u ↔ u = describeFragment f := by
  have members {texts shown : List Text} :
      List.Forall₂ IsQuoted texts shown ↔ shown = texts.map quoted :=
    forall₂_iff_eq_map @isQuoted_iff
  constructor
  · intro words
    cases words with
    | literal shown =>
      obtain rfl := isQuoted_iff.1 shown
      rfl
    | oneOf shown =>
      obtain rfl := members.1 shown
      rfl
    | charClass shown =>
      obtain rfl := isQuoted_iff.1 shown
      exact (describeFragment_charClass _).symm
    | negatedClass shown =>
      obtain rfl := isQuoted_iff.1 shown
      exact (describeFragment_negatedClass _).symm
    | anyChar | anyText => rfl
  · intro same
    subst same
    cases f with
    | literal text => exact .literal (isQuoted_iff.2 rfl)
    | oneOf alternatives => exact .oneOf (members.2 rfl)
    | charClass negated contents =>
      cases negated with
      | false => exact describeFragment_charClass contents ▸ .charClass (isQuoted_iff.2 rfl)
      | true => exact describeFragment_negatedClass contents ▸ .negatedClass (isQuoted_iff.2 rfl)
    | anyChar => exact .anyChar
    | anyText => exact .anyText

theorem componentWords_iff : ComponentWords component u ↔ u = describeComponent component := by
  have words {fragments : List Fragment} {shown : List Text} :
      List.Forall₂ FragmentWords fragments shown ↔ shown = fragments.map describeFragment :=
    forall₂_iff_eq_map @fragmentWords_iff
  constructor
  · intro shown
    cases shown with
    | doubleStar | empty => rfl
    | segment shown =>
      obtain rfl := words.1 shown
      rfl
  · intro same
    subst same
    match component with
    | .doubleStar => exact .doubleStar
    | .segment [] => exact .empty
    | .segment (f :: fs) => exact .segment (words.2 rfl)

theorem isExplanation_iff {index : Nat} {lines : List Text} :
    IsExplanation index pattern lines ↔ lines = rowsFrom index pattern := by
  induction pattern generalizing index lines with
  | nil =>
    constructor
    · rintro ⟨⟩
      rfl
    · rintro rfl
      exact .nil
  | cons component more ih =>
    constructor
    · rintro (_ | ⟨words, rest⟩)
      rw [componentWords_iff.1 words, ih.1 rest]
      rfl
    · rintro rfl
      exact .cons (componentWords_iff.2 rfl) (ih.2 rfl)

/-! ### Main result -/

section Main

variable {s t : Text} {first second : Glob} {readFile : Text → Except FileFault (List UInt8)}
  {stdin : List UInt8}

theorem stdout_run_explain (compiled : Glob.ofText s = .ok first) :
    ((Command.explain s).run false readFile stdin).stdout =
      describePattern false first.pattern := by
  simp only [run, explainReport, compiled]
  rfl

/-- **Explanations are faithful.** The explanation of a pattern has a line for each of its pieces,
and the lines are those that the components of the pattern have, texts being quoted in them. Two
patterns are explained alike if and only if they are read as the same components, and then they
match the same candidates. -/
theorem explain_faithful (compiled : Glob.ofText s = .ok first)
    (compiledToo : Glob.ofText t = .ok second)
    (readFile : Text → Except FileFault (List UInt8)) (stdin : List UInt8) :
    let explained (text : Text) : Text := ((Command.explain text).run false readFile stdin).stdout
    (explained s).lines.length = (Text.pieces Pattern.separator s).length ∧
      explained s = Text.unlines (explained s).lines ∧
      (∃ p q, Pattern.parse s = .ok p ∧ Pattern.parse t = .ok q ∧
        (∀ lines, IsExplanation 0 p lines ↔ lines = (explained s).lines) ∧
        (explained s = explained t ↔ p = q)) ∧
      (explained s = explained t →
        ∀ candidate, first.isMatch candidate = second.isMatch candidate) := by
  intro explained
  have printed : explained s = describePattern false first.pattern := stdout_run_explain compiled
  have printedToo : explained t = describePattern false second.pattern :=
    stdout_run_explain compiledToo
  obtain rfl := Glob.ofText_eq_ok_iff.1 compiled
  obtain rfl := Glob.ofText_eq_ok_iff.1 compiledToo
  have lines : (explained first.text).lines = rowsFrom 0 first.pattern := by
    rw [printed, lines_describePattern]
  have alike : explained first.text = explained second.text ↔ first.pattern = second.pattern := by
    rw [printed, printedToo, describePattern_injective.eq_iff]
  refine ⟨?_, ?_, ⟨_, _, first.parse_text, second.parse_text, ?_, alike⟩, fun same candidate => ?_⟩
  · rw [lines, rowsFrom, List.length_map, List.length_zipIdx, first.written.length_eq]
  · rw [lines, printed, describePattern_eq]
  · rw [lines]
    exact fun _ => isExplanation_iff
  · rw [Bool.eq_iff_iff, first.isMatch_iff_aligned, second.isMatch_iff_aligned, alike.1 same]

/-- Neither the order of alternatives nor their repetition can be seen in an explanation. -/
theorem explain_faithful_reordered :
    let explained (text : Text) : Text :=
      ((Command.explain text).run false (fun _ => .error .notFound) []).stdout
    ∃ first second, Glob.ofText "**/\x7bb,\"\x7d[!c]".toList = .ok first ∧
      Glob.ofText "**/\x7b\",b,\"\x7d[!c]".toList = .ok second ∧
      (explained "**/\x7bb,\"\x7d[!c]".toList).lines =
        ["  0 zero or more segments".toList,
          "  1 one of \"\\\"\", \"b\", then one character not in \"c\"".toList] ∧
      ∀ candidate, first.isMatch candidate = second.isMatch candidate := by
  intro explained
  obtain ⟨first, compiled⟩ := Glob.exists_of_compiles
    (show Glob.compiles "**/\x7bb,\"\x7d[!c]".toList = true by decide +kernel)
  obtain ⟨second, compiledToo⟩ := Glob.exists_of_compiles
    (show Glob.compiles "**/\x7b\",b,\"\x7d[!c]".toList = true by decide +kernel)
  obtain ⟨-, -, ⟨p, q, readFirst, readSecond, lines, alike⟩, same⟩ :=
    explain_faithful compiled compiledToo (fun _ => .error .notFound) []
  have sameParse : Pattern.parse "**/\x7bb,\"\x7d[!c]".toList =
      Pattern.parse "**/\x7b\",b,\"\x7d[!c]".toList := by decide +kernel
  have rows : (Pattern.parse "**/\x7bb,\"\x7d[!c]".toList).map (rowsFrom 0) =
      .ok ["  0 zero or more segments".toList,
        "  1 one of \"\\\"\", \"b\", then one character not in \"c\"".toList] := by
    decide +kernel
  rw [readFirst] at rows
  have explanation := (lines _).1 (isExplanation_iff.2 (Except.ok.inj rows).symm)
  rw [readFirst, readSecond, Except.ok.injEq] at sameParse
  exact ⟨first, second, compiled, compiledToo, explanation.symm, same (alike.2 sameParse)⟩

end Main

end PathGlob.Command
