import PageAudit.Text.Blank
import PageAudit.Text.Numeral

/-! Expressions in attribute values. Templates compute some values when the page runs, and
only literals among them can be measured in the document.
-/

namespace PageAudit.Expression

/-- What stands between two equal quotes at the ends of a text without interpolation. -/
def unquote? (quote : Char) (text : Text) : Option Text :=
  match text with
  | [] => none
  | first :: rest =>
      if first = quote ∧ rest.getLast? = some quote ∧ ¬ Text.contains "$\x7b" text then
        some rest.dropLast
      else none

/-- The value of an expression: what a quoted literal holds, a truth value or a number as it
is, and anything else in braces, which mark it as computed.
-/
def literal (expression : Text) : Text :=
  let text := Text.trim expression
  match ['"', '\'', '\x60'].findSome? (fun quote => unquote? quote text) with
  | some inner => inner
  | none =>
      if text = "true" ∨ text = "false" ∨ Text.isFloatNumeral text then text
      else '{' :: text ++ ['}']

/-- A value is computed when the page runs: it is an expression in braces, or it holds an
interpolation.
-/
def isDynamic (value : Text) : Bool :=
  let value := Text.trim value
  Text.startsWith value "\x7b" || Text.contains "\x7b\x7b" value || Text.contains "$\x7b" value

end PageAudit.Expression
