import PathGlob.Text.Basic

/-!
# PathGlob.Console.Style

Marking text for terminals by escape sequences.
-/

namespace PathGlob.Console

/-- A way to show text. -/
inductive Style
  | red
  | green
  | yellow
  | blue
  | magenta
  | dimmed
  | italic
  deriving DecidableEq, Repr

/-- The number that switches the style on. -/
def Style.code : Style → Nat
  | red => 31
  | green => 32
  | yellow => 33
  | blue => 34
  | magenta => 35
  | dimmed => 2
  | italic => 3

/-- The escape sequence with the given number. -/
def escapeSequence (code : Nat) : Text :=
  "\x1B[".toList ++ Text.ofNat code ++ ['m']

/-- The text in the style, where `reset` is the number that ends it. -/
def Style.wrap (style : Style) (reset : Nat) (t : Text) : Text :=
  escapeSequence style.code ++ t ++ escapeSequence reset

/-- The text in the style if `colored`. A color is ended by the default color and everything else
by a full reset. -/
def Style.paint (colored : Bool) (style : Style) (t : Text) : Text :=
  if colored then style.wrap (if 30 ≤ style.code then 39 else 0) t else t

end PathGlob.Console
