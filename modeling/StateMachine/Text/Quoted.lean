import StateMachine.Text.Printable

namespace StateMachine.Text

def hexDigits (n : Nat) : String := String.ofList (Nat.toDigits 16 n)

/-- Quotes, backslashes and the common control characters have short escapes; characters that would not
show by themselves are written by their code point. -/
def quotedChar (c : Char) : String :=
  match c with
  | '\x00' => "\\0"
  | '\t' => "\\t"
  | '\r' => "\\r"
  | '\n' => "\\n"
  | '"' => "\\\""
  | '\\' => "\\\\"
  | c =>
    if isExtending c || !isPrintable c then "\\u\x7b" ++ hexDigits c.toNat ++ "\x7d" else c.toString

def quoted (text : String) : String :=
  "\"" ++ String.join (text.toList.map quotedChar) ++ "\""

def quotedList (texts : List String) : String :=
  "[" ++ ", ".intercalate (texts.map quoted) ++ "]"

example : quoted "a\"b\u0301\x7f" = "\"a\\\"b\\u\x7b301\x7d\\u\x7b7f\x7d\"" := by decide +kernel

end StateMachine.Text
