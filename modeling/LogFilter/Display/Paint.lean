import LogFilter.Text.Basic

/-!
# Colored text

A painted text stands between the escape sequence of its style and the one that ends every style.
-/

namespace LogFilter

inductive Style where
  | white
  | green
  | dim
  | boldCyan
  | boldRed
  | boldYellow
  | underlinedRed
  deriving DecidableEq, Repr

namespace Style

/-- The parameters of the escape sequence. -/
def codes : Style → Text
  | white => "37"
  | green => "32"
  | dim => "90"
  | boldCyan => "1;36"
  | boldRed => "1;31"
  | boldYellow => "1;33"
  | underlinedRed => "4;31"

def opening (style : Style) : Text :=
  "\x1b[" ++ style.codes ++ "m"

end Style

def endOfStyle : Text := "\x1b[0m"

/-- Opens a style again wherever the text itself ends all styles. -/
def reopen (opening : Text) : Text → Text
  | '\x1b' :: '[' :: '0' :: 'm' :: s => endOfStyle ++ opening ++ reopen opening s
  | c :: s => c :: reopen opening s
  | [] => []

/-- Paints a text, an empty one too, where coloring is on. -/
def paint (colored : Bool) (style : Style) (s : Text) : Text :=
  if colored then style.opening ++ reopen style.opening s ++ endOfStyle else s

end LogFilter
