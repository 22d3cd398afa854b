import PathGlob.Pattern.Grammar
import PathGlob.Sequence.Alignment

/-!
# PathGlob.Pattern.Meaning

What patterns match, said without expressions and without a search: the texts that fragments
accept, the texts that the spelling of a piece accepts, and the candidates that a whole pattern
accepts.
-/

namespace PathGlob

/-- The texts that a fragment accepts. -/
inductive Fragment.Accepts : Fragment → Text → Prop
  | literal (text : Text) : Accepts (.literal text) text
  | member {alternatives : Alternatives} {text : Text} :
    text ∈ alternatives.members → Accepts (.oneOf alternatives) text
  /-- Without alternatives there is still the empty text. -/
  | noMember {alternatives : Alternatives} :
    alternatives.members = [] → Accepts (.oneOf alternatives) []
  | charClass {contents : Text} {c : Char} :
    c ∈ contents → Accepts (.charClass false contents) [c]
  | negatedClass {contents : Text} {c : Char} :
    c ∉ contents → Accepts (.charClass true contents) [c]
  | anyChar (c : Char) : Accepts .anyChar [c]
  | anyText (text : Text) : Accepts .anyText text

/-- The texts that a list of fragments accepts: one part for each, in order. -/
inductive Fragment.AllAccept : List Fragment → Text → Prop
  | nil : AllAccept [] []
  | cons {f : Fragment} {fs : List Fragment} {s t : Text} :
    f.Accepts s → AllAccept fs t → AllAccept (f :: fs) (s ++ t)

namespace Pattern

/-- The texts that the spelling of a piece accepts, read off the spelling itself. -/
inductive PieceAccepts : Text → Text → Prop
  | nil : PieceAccepts [] []
  | escaped (c : Char) {rest t : Text} : PieceAccepts rest t →
    PieceAccepts ('\\' :: c :: rest) (c :: t)
  | trailing : PieceAccepts ['\\'] ['\\']
  | anyChar (c : Char) {rest t : Text} : PieceAccepts rest t →
    PieceAccepts ('?' :: rest) (c :: t)
  | anyText (s : Text) {rest t : Text} : PieceAccepts rest t →
    PieceAccepts ('*' :: rest) (s ++ t)
  | group {items : List Text} {item rest t : Text} : IsGroup items → item ∈ items →
    PieceAccepts rest t →
    PieceAccepts ('{' :: Text.join ',' items ++ '}' :: rest) (item ++ t)
  | negatedClass {contents rest t : Text} {c : Char} : IsContents contents → c ∉ contents →
    PieceAccepts rest t → PieceAccepts ('[' :: '!' :: contents ++ ']' :: rest) (c :: t)
  | charClass {contents rest t : Text} {c : Char} : IsContents contents →
    contents.head? ≠ some '!' → c ∈ contents → PieceAccepts rest t →
    PieceAccepts ('[' :: contents ++ ']' :: rest) (c :: t)
  | plain {c : Char} {rest t : Text} : isPlain c = true → PieceAccepts rest t →
    PieceAccepts (c :: rest) (c :: t)

/-- A piece as it stands for segments: `**` for any number of them and anything else for one. -/
def pieceComponent (piece : Text) : Component Text :=
  if piece = ['*', '*'] then .doubleStar else .segment piece

/-- The candidates that a pattern accepts: both are cut at every slash, and the pieces of the
candidate are divided among those of the pattern, the last of which must not be `**`. -/
def Accepts (pattern candidate : Text) : Prop :=
  (Text.pieces separator pattern).getLast? ≠ some ['*', '*'] ∧
    Sequence.Aligned PieceAccepts ((Text.pieces separator pattern).map pieceComponent)
      (Text.pieces separator candidate)

end Pattern

end PathGlob
