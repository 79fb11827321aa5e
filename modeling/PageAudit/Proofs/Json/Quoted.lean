import Mathlib.Tactic.SplitIfs
import PageAudit.Json.Printer
import PageAudit.Json.Reader

/-! A string in quotes is read as the text in it.

The reader is a fold, so what it does with a text in front of another one is a step from one state
to the next, and the steps compose.
-/

namespace PageAudit.Json

namespace Reader

/-- (state.Reaches text next) says that the reader goes from one state to the next over a text. -/
def State.Reaches (state : State) (text : Text) (next : State) : Prop :=
  text.foldlM step? state = some next

namespace State.Reaches

variable {state middle next : State} {char : Char} {text front back : Text}

theorem nil (state : State) : state.Reaches [] state :=
  rfl

theorem cons (step : step? state char = some middle) (rest : middle.Reaches text next)
    : state.Reaches (char :: text) next := by
  unfold State.Reaches
  rw [List.foldlM_cons, step]
  exact rest

theorem single (step : step? state char = some next) : state.Reaches [char] next :=
  cons step (nil next)

theorem append (first : state.Reaches front middle) (second : middle.Reaches back next)
    : state.Reaches (front ++ back) next := by
  unfold State.Reaches at *
  rw [List.foldlM_append, first]
  exact second

end State.Reaches

/-- The state within a string, behind the characters in reverse. -/
def inString (role : Role) (seen : Text) (frames : List Frame) : State :=
  { mode := .string role .none { read := seen }, frames }

theorem hexDigit?_hexDigit {value : Nat} (small : value < 16)
    : Text.hexDigit? (hexDigit value) = some value := by
  have all : ∀ value < 16, Text.hexDigit? (hexDigit value) = some value := by decide
  exact all value small

/-- A control character is no half of a surrogate pair, so its escape stands for it alone. -/
theorem pushUnit_of_control {char : Char} (control : char.toNat < 0x20) (seen : Text)
    : Reading.pushUnit { read := seen } (16 * (char.toNat / 16) + char.toNat % 16)
      = { read := char :: seen } := by
  have whole : 16 * (char.toNat / 16) + char.toNat % 16 = char.toNat := by omega
  have noHigh : ¬ (0xD800 ≤ char.toNat ∧ char.toNat < 0xDC00) := by omega
  have noLow : ¬ (0xDC00 ≤ char.toNat ∧ char.toNat < 0xE000) := by omega
  rw [whole, Reading.pushUnit, if_neg noHigh, if_neg noLow, Char.ofNat_toNat]
  rfl

/-- A control character that has no letter of its own is read from its four digits. -/
theorem reaches_unit {char : Char} (control : char.toNat < 0x20) (role : Role) (seen : Text)
    (frames : List Frame)
    : (inString role seen frames).Reaches
        ['\\', 'u', '0', '0', hexDigit (char.toNat / 16), hexDigit (char.toNat % 16)]
        (inString role (char :: seen) frames) := by
  have high : Text.hexDigit? (hexDigit (char.toNat / 16)) = some (char.toNat / 16) :=
    hexDigit?_hexDigit (by omega)
  have low : Text.hexDigit? (hexDigit (char.toNat % 16)) = some (char.toNat % 16) :=
    hexDigit?_hexDigit (by omega)
  let inUnit (digits value : Nat) : State :=
    { mode := .string role (.unit digits value) { read := seen }, frames }
  have begun : (inString role seen frames).Reaches ['\\', 'u', '0', '0'] (inUnit 2 0) := rfl
  have third : step? (inUnit 2 0) (hexDigit (char.toNat / 16))
      = some (inUnit 3 (char.toNat / 16)) := by
    simp [inUnit, step?, stepString?, high]
  have fourth : step? (inUnit 3 (char.toNat / 16)) (hexDigit (char.toNat % 16))
      = some (inString role (char :: seen) frames) := by
    simp [inUnit, inString, step?, stepString?, low, pushUnit_of_control control]
  exact begun.append (.cons third (.single fourth))

/-- A character is read as itself from its written form, by cases as the form is chosen. -/
theorem reaches_escapeChar (char : Char) (role : Role) (seen : Text) (frames : List Frame)
    : (inString role seen frames).Reaches (escapeChar char)
        (inString role (char :: seen) frames) := by
  unfold escapeChar
  split_ifs with quote backslash backspace formFeed lineFeed carriageReturn tab control
  · subst quote; rfl
  · subst backslash; rfl
  · subst backspace; rfl
  · subst formFeed; rfl
  · subst lineFeed; rfl
  · subst carriageReturn; rfl
  · subst tab; rfl
  · exact reaches_unit control role seen frames
  · refine .single ?_
    simp [inString, step?, stepString?, quote, backslash, control, Reading.push]

/-- A string is read up to its closing quote, by induction over its characters. -/
theorem reaches_quoted (text seen : Text) (role : Role) (frames : List Frame)
    : (inString role seen frames).Reaches (text.flatMap escapeChar ++ ['"'])
        (completeString role { read := text.reverse ++ seen } frames) := by
  induction text generalizing seen with
  | nil => rfl
  | cons char text ih =>
      have rest := ih (char :: seen)
      rw [List.flatMap_cons, List.append_assoc, List.reverse_cons, List.append_assoc]
      exact (reaches_escapeChar char role seen frames).append rest

end Reader

end PageAudit.Json
