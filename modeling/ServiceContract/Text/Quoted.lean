import ServiceContract.Text.Hidden
import ServiceContract.Text.Pieces

/-!
# Quoted texts

The form in which a message shows a text: in double quotes, with the quote, the backslash and the
characters without a shape of their own escaped.
-/

namespace ServiceContract.Text

/-- One character of a quoted text. -/
def quotedChar (c : Char) : String :=
  match c with
  | '"' => "\\\""
  | '\\' => "\\\\"
  | '\n' => "\\n"
  | '\r' => "\\r"
  | '\t' => "\\t"
  | _ =>
    if c.toNat = 0 then "\\0"
    else if isHidden c then "\\u\x7b" ++ hex 1 c.toNat ++ "\x7d"
    else String.singleton c

/-- A text as a message shows it. -/
def quoted (s : String) : String :=
  "\"" ++ String.join (s.toList.map quotedChar) ++ "\""

end ServiceContract.Text
