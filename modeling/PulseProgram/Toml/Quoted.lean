import PulseProgram.Toml.Scalar

/-!
# Strings of TOML

There are four forms: in double quotes with escapes, in single quotes without,
and both also with tripled quotes over several lines. A reader is given what
follows the opening quotes, and gives back the characters of the string and what
follows the closing quotes.

A string over several lines may hold up to two quotes in a row, also right before
its closing quotes. A line break is one line feed however it is written.
-/

namespace PulseProgram.Toml

/-- May stand in a string or a comment as it is. -/
def isTextChar (char : Char) : Bool :=
  char = '\t' || (0x20 ≤ char.toNat && char.toNat != 0x7f)

/-- A code point given by hexadecimal digits, if it is one of a character. -/
def codePoint? (digits : List Char) : Option Char :=
  if digits.all fun digit => digitValue digit < 16 then
    let code := digitsToNat 16 (digits.map digitValue)
    if code < 0xd800 ∨ 0xdfff < code ∧ code < 0x110000 then some (Char.ofNat code) else none
  else none

/-- The character an escape denotes, given what follows the backslash. -/
def escape? : List Char → Option (Char × List Char)
  | 'b' :: rest => some (Char.ofNat 8, rest)
  | 't' :: rest => some ('\t', rest)
  | 'n' :: rest => some ('\n', rest)
  | 'f' :: rest => some (Char.ofNat 12, rest)
  | 'r' :: rest => some ('\r', rest)
  | '"' :: rest => some ('"', rest)
  | '\\' :: rest => some ('\\', rest)
  | 'u' :: d1 :: d2 :: d3 :: d4 :: rest => (codePoint? [d1, d2, d3, d4]).map (·, rest)
  | 'U' :: d1 :: d2 :: d3 :: d4 :: d5 :: d6 :: d7 :: d8 :: rest =>
    (codePoint? [d1, d2, d3, d4, d5, d6, d7, d8]).map (·, rest)
  | _ => none

/-- A line break, and what follows it. -/
def lineBreak? : List Char → Option (List Char)
  | '\n' :: rest => some rest
  | '\r' :: '\n' :: rest => some rest
  | _ => none

/-- Blanks within a line. -/
def isSpace (char : Char) : Bool := char = ' ' || char = '\t'

/-- Skips blanks and line breaks. -/
def skipLines : List Char → List Char
  | '\r' :: '\n' :: rest => skipLines rest
  | char :: rest => if isSpace char || char = '\n' then skipLines rest else char :: rest
  | [] => []

/-- A string in double quotes. Each round uses up a character, so a bound on the
rounds that is the length of the input is never reached. -/
def basic (bound : Nat) (chars : List Char) : Option (List Char × List Char) :=
  match bound, chars with
  | _, '"' :: rest => some ([], rest)
  | bound + 1, '\\' :: rest => do
    let (char, rest) ← escape? rest
    let (tail, rest) ← basic bound rest
    some (char :: tail, rest)
  | bound + 1, char :: rest =>
    if isTextChar char then do
      let (tail, rest) ← basic bound rest
      some (char :: tail, rest)
    else none
  | _, _ => none

/-- A string in single quotes. -/
def literal : List Char → Option (List Char × List Char)
  | [] => none
  | '\'' :: rest => some ([], rest)
  | char :: rest =>
    if isTextChar char then (literal rest).map fun (tail, rest) => (char :: tail, rest) else none

/-- What a row of quotes means inside a string with tripled quotes: content, or
the end after up to two quotes of content. -/
def quoteRow (quote : Char) (chars : List Char) : List Char × Option (List Char) × List Char :=
  let row := chars.takeWhile (· = quote)
  let rest := chars.dropWhile (· = quote)
  if row.length < 3 then (row, none, rest)
  else
    let content := row.take (min (row.length - 3) 2)
    (content, some (row.drop (content.length + 3) ++ rest), rest)

/-- The body of a string over several lines; `escapes` says whether a backslash
begins an escape. A backslash at the end of a line takes the line break and the
blanks after it away. -/
def multiline (quote : Char) (escapes : Bool) (bound : Nat) (chars : List Char) :
    Option (List Char × List Char) :=
  match bound, chars with
  | 0, _ | _, [] => none
  | bound + 1, char :: rest =>
    if char = quote then
      match quoteRow quote (char :: rest) with
      | (content, some after, _) => some (content, after)
      | (content, none, after) => do
        let (tail, rest) ← multiline quote escapes bound after
        some (content ++ tail, rest)
    else if escapes && char = '\\' then
      match lineBreak? (rest.dropWhile isSpace) with
      | some after => multiline quote escapes bound (skipLines after)
      | none => do
        let (char, rest) ← escape? rest
        let (tail, rest) ← multiline quote escapes bound rest
        some (char :: tail, rest)
    else
      match lineBreak? (char :: rest) with
      | some after => do
        let (tail, rest) ← multiline quote escapes bound after
        some ('\n' :: tail, rest)
      | none =>
        if isTextChar char then do
          let (tail, rest) ← multiline quote escapes bound rest
          some (char :: tail, rest)
        else none

/-- The body of a string over several lines without the line break right after the
opening quotes. -/
def multilineBody (quote : Char) (escapes : Bool) (chars : List Char) :
    Option (List Char × List Char) :=
  multiline quote escapes (chars.length + 1) ((lineBreak? chars).getD chars)

/-- A string of any form, or only of the forms within one line. -/
def string? (linesAllowed : Bool) : List Char → Option (String × List Char)
  | '"' :: '"' :: '"' :: rest =>
    if linesAllowed then (multilineBody '"' true rest).map fun (body, rest) => (.ofList body, rest)
    else some ("", '"' :: rest)
  | '\'' :: '\'' :: '\'' :: rest =>
    if linesAllowed then
      (multilineBody '\'' false rest).map fun (body, rest) => (.ofList body, rest)
    else some ("", '\'' :: rest)
  | '"' :: rest => (basic rest.length rest).map fun (body, rest) => (.ofList body, rest)
  | '\'' :: rest => (literal rest).map fun (body, rest) => (.ofList body, rest)
  | _ => none

end PulseProgram.Toml
