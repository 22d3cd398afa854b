import PathGlob.Expression.Segment
import PathGlob.Proofs.Expression.Reading
import PathGlob.Proofs.Text.PrefixCode

/-!
# PathGlob.Proofs.Expression.Escape

**Escaping is a prefix code** (`escape_prefixCode`). A character is written in one of three forms:
bare, after a backslash, or in brackets. Only letters and digits are bare, so a backslash or an
opening bracket in front tells the form, although both are characters that can be escaped
themselves; and every form tells its character (`firstEscaped?`).

As texts are escaped character by character, nothing in an expression tells where one literal ends
and the next one starts.
-/

namespace PathGlob

namespace Expression

/-! ### The first character -/

/-- The character that is written first, and what follows it. -/
def firstEscaped? : Text → Option (Char × Text)
  | '\\' :: c :: rest => some (c, rest)
  | '[' :: c :: ']' :: rest => some (c, rest)
  | c :: rest => some (c, rest)
  | [] => none

theorem firstEscaped?_escapeChar_append (c : Char) (rest : Text) :
    firstEscaped? (escapeChar c ++ rest) = some (c, rest) := by
  unfold escapeChar
  split
  · next letter =>
    have plain : isMeta c = false := isMeta_of_isAlphanumeric letter
    have noBackslash : c ≠ '\\' := by
      rintro rfl
      cases plain
    have noBracket : c ≠ '[' := by
      rintro rfl
      cases plain
    simp [firstEscaped?, noBackslash, noBracket]
  · split <;> rfl

/-- No character is written as the start of another one. -/
theorem isPrefixCode_escapeChar : IsPrefixCode escapeChar where
  ne_nil := by
    intro c none
    have read := firstEscaped?_escapeChar_append c []
    rw [none] at read
    cases read
  eq_of_isPrefix := by
    rintro c d ⟨more, same⟩
    have read : some (c, more) = some (d, []) := by
      rw [← firstEscaped?_escapeChar_append c more, ← firstEscaped?_escapeChar_append d [], same,
        List.append_nil]
    exact congrArg Prod.fst (Option.some.inj read)

theorem escape_append (s t : Text) : escape (s ++ t) = escape s ++ escape t :=
  List.flatMap_append

end Expression

/-! ### Literals side by side -/

/-- Literals side by side have the expression of one literal. -/
theorem Fragment.flatMap_expression_literals (parts : List Text) :
    (parts.map literal).flatMap expression = Expression.escape parts.flatten := by
  induction parts with
  | nil => rfl
  | cons part parts ih =>
    rw [List.map_cons, List.flatMap_cons, ih, List.flatten_cons, Expression.escape_append]
    rfl

namespace Expression

/-! ### Main result -/

/-- **Escaping.** No character is written as the start of another one. So texts are escaped
character by character, an escaped text starts with another one if and only if the texts do, and
different texts are escaped differently; and a literal that is cut into any number of literals
leaves the expression of its segment as it is. -/
theorem escape_prefixCode (s t : Text) :
    (∀ c d, escapeChar c <+: escapeChar d ↔ c = d) ∧
    escape (s ++ t) = escape s ++ escape t ∧
    (escape s <+: escape t ↔ s <+: t) ∧
    (escape s = escape t ↔ s = t) ∧
    ∀ (front back : List Fragment) (parts : List Text),
      ofFragments (front ++ parts.map .literal ++ back) =
        ofFragments (front ++ .literal parts.flatten :: back) := by
  refine ⟨fun c d => ?_, escape_append s t, isPrefixCode_escapeChar.flatMap_isPrefix_iff,
    isPrefixCode_escapeChar.flatMap_inj, fun front back parts => ?_⟩
  · refine ⟨fun starts => isPrefixCode_escapeChar.eq_of_isPrefix starts, ?_⟩
    rintro rfl
    exact List.prefix_rfl
  · unfold ofFragments
    rw [List.flatMap_append, List.flatMap_append, Fragment.flatMap_expression_literals,
      List.flatMap_append, List.flatMap_cons, List.append_assoc _ _ (back.flatMap _)]
    rfl

end Expression

end PathGlob
