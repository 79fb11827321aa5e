import PageAudit.Text.Basic

/-! Styles of terminals, which escape sequences begin and end. -/

namespace PageAudit

/-- The styles of a terminal. -/
inductive Style where
  | underline
  | boldRed
  | boldYellow
  | red
  | yellow
  | blue
  | cyan
  | boldCyan
  | dimmed
deriving DecidableEq

namespace Style

/-- The parameters of the escape sequence that begins a style. -/
def parameters : Style → Text
  | .underline => "4"
  | .boldRed => "1;31"
  | .boldYellow => "1;33"
  | .red => "31"
  | .yellow => "33"
  | .blue => "34"
  | .cyan => "36"
  | .boldCyan => "1;36"
  | .dimmed => "2"

/-- The escape sequence with given parameters. -/
def escape (parameters : Text) : Text :=
  '\x1b' :: '[' :: parameters ++ ['m']

/-- The escape sequence that ends every style. -/
def reset : Text :=
  escape "0"

/-- (renew style text) begins a style again behind each place in a text that ends it. -/
def renew (style : Style) : Text → Text
  | '\x1b' :: '[' :: '0' :: 'm' :: rest =>
      reset ++ escape style.parameters ++ renew style rest
  | char :: rest => char :: renew style rest
  | [] => []

/-- A text in a style. -/
def paint (style : Style) (text : Text) : Text :=
  escape style.parameters ++ renew style text ++ reset

end Style

end PageAudit
