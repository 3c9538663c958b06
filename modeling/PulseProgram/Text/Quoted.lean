import PulseProgram.Text.Hidden

/-!
# Quoted text

Names and device strings appear in messages between double quotes, with quotes,
backslashes and the usual control characters escaped by a letter and every other
character without a glyph by its number. The characters between the quotes
determine the text.
-/

namespace PulseProgram.Text

/-- The written form of one character between quotes. -/
def escapeChar (char : Char) : List Char :=
  match char with
  | '"' => ['\\', '"']
  | '\\' => ['\\', '\\']
  | '\n' => ['\\', 'n']
  | '\r' => ['\\', 'r']
  | '\t' => ['\\', 't']
  | '\x00' => ['\\', '0']
  | other =>
    if isHidden other then
      ['\\', 'u', '\x7b'] ++ Nat.toDigits 16 other.toNat ++ ['\x7d']
    else [other]

/-- Text between double quotes. -/
def quoted (text : String) : String :=
  String.ofList ('"' :: text.toList.flatMap escapeChar ++ ['"'])

/-- Texts between square brackets, each of them quoted. -/
def quotedList (texts : List String) : String :=
  "[" ++ ", ".intercalate (texts.map quoted) ++ "]"

end PulseProgram.Text
