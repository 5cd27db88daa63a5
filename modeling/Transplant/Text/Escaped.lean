import Transplant.Text
import Transplant.Unicode.Visible

/-!
Texts as messages show them: between double quotes, with escapes for what could not be seen or would
be taken for the end.
-/

namespace Transplant.Text

/-- The letter that stands for a character in an escape. -/
def escapeLetter? : Char → Option Char
  | '\x00' => some '0'
  | '\t' => some 't'
  | '\r' => some 'r'
  | '\n' => some 'n'
  | '\\' => some '\\'
  | '"' => some '"'
  | _ => none

/-- A character as messages show it. One without a visible form is given by its code point. -/
def showChar (c : Char) : Text :=
  match escapeLetter? c with
  | some letter => ['\\', letter]
  | none =>
    if Unicode.isVisible c then [c]
    else ['\\', 'u', '{'] ++ Nat.toDigits 16 c.toNat ++ ['}']

/-- A text as messages show it. -/
def quoted (t : Text) : Text := '"' :: t.flatMap showChar ++ ['"']

end Transplant.Text
