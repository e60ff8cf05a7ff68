import ControlPlane.Text.Invisible
import ControlPlane.Text.Numeral

/-! # Quoted text

Error texts show a piece of input between double quotes.  Quotes, backslashes, tabs, line ends
and the null character are written with a backslash, other characters without a shape of their
own as their code in braces, and all else as it is. -/

namespace ControlPlane.Text

/-- How one character is written inside quotes. -/
def quotedChar (c : Char) : String :=
  match c with
  | '\"' => "\\\""
  | '\\' => "\\\\"
  | '\n' => "\\n"
  | '\r' => "\\r"
  | '\t' => "\\t"
  | '\x00' => "\\0"
  | c => if isInvisible c then "\\u\x7b" ++ hexDigits c.toNat ++ "\x7d" else String.singleton c

/-- The text between double quotes. -/
def quoted (s : String) : String :=
  "\"" ++ String.join (s.toList.map quotedChar) ++ "\""

end ControlPlane.Text
