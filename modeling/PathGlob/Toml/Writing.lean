import PathGlob.Toml.Document

/-!
# PathGlob.Toml.Writing

Documents of lists of strings: a line for each list, with comments and empty lines between them. The
keys are written without quotes, and the strings between double quotes, so that every text can be
one.
-/

namespace PathGlob.Toml

/-- A character between double quotes. A character that may not stand there is written by its
code point, which has at most four digits. -/
def writeChar (c : Char) : Text :=
  if c = '"' || c = '\\' then ['\\', c]
  else if isStringChar c then [c]
  else "\\u".toList ++ Text.zeroPad 4 (Nat.toDigits 16 c.toNat)

def writeString (t : Text) : Text :=
  '"' :: t.flatMap writeChar ++ ['"']

/-- Strings with commas between them. -/
def writeStrings : List Text → Text
  | [] => []
  | [t] => writeString t
  | t :: next :: more => writeString t ++ ',' :: ' ' :: writeStrings (next :: more)

/-- The line of a list, without its line feed. -/
def writeList (name : Text) (texts : List Text) : Text :=
  name ++ " = [".toList ++ writeStrings texts ++ [']']

/-- A name that can be a key without quotes. -/
def IsBareKey (name : Text) : Prop :=
  name ≠ [] ∧ ∀ c ∈ name, isBareKeyChar c

instance : DecidablePred IsBareKey := fun name =>
  decidable_of_iff (name.isEmpty = false ∧ name.all isBareKeyChar = true) (by simp [IsBareKey])

/-- A document that has a list under each of the names, in this order. -/
inductive IsListing : Text → List (Text × List Text) → Prop
  | nil : IsListing [] []
  | feed {rest : Text} {lists : List (Text × List Text)} :
    IsListing rest lists → IsListing ('\n' :: rest) lists
  | comment {t rest : Text} {lists : List (Text × List Text)} : (∀ c ∈ t, isCommentChar c) →
    IsListing rest lists → IsListing ('#' :: (t ++ '\n' :: rest)) lists
  | list {name rest : Text} {texts : List Text} {lists : List (Text × List Text)} :
    IsBareKey name → IsListing rest lists →
    IsListing (writeList name texts ++ '\n' :: rest) ((name, texts) :: lists)
  /-- The last line may end without a line feed. -/
  | last {name : Text} {texts : List Text} : IsBareKey name →
    IsListing (writeList name texts) [(name, texts)]

end PathGlob.Toml
