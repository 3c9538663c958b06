import PulseProgram.Toml.Quoted

/-!
# TOML documents

A document is a sequence of lines: blank, a comment, a header, or a key with its
value. Reading a document gives the entries of its outermost table, or nothing if
the document is not well-formed: what is wrong with it is not told.

Arrays and tables in braces nest, and keys have parts, up to a fixed depth.
-/

namespace PulseProgram.Toml

/-- Arrays and tables in braces do not nest this deep, nor does a key have this
many parts. -/
def depthLimit : Nat := 80

/-- May stand in a key without quotes. -/
def isBareKeyChar (char : Char) : Bool := char.isAlphanum || char = '_' || char = '-'

/-- One part of a key. -/
def keyPart? (chars : List Char) : Option (String × List Char) :=
  match string? false chars with
  | some found => some found
  | none =>
    match chars.takeWhile isBareKeyChar with
    | [] => none
    | part => some (.ofList part, chars.dropWhile isBareKeyChar)

/-- The parts of a key, with blanks around them. -/
def keyParts? : (remaining : Nat) → List Char → Option (List String × List Char)
  | 0, _ => none
  | remaining + 1, chars => do
    let (part, rest) ← keyPart? (chars.dropWhile isSpace)
    match rest.dropWhile isSpace with
    | '.' :: rest => do
      let (parts, rest) ← keyParts? remaining rest
      some (part :: parts, rest)
    | rest => some ([part], rest)

/-- A key as the path to its table and its last part. -/
def key? (chars : List Char) : Option ((List String × String) × List Char) := do
  let (parts, rest) ← keyParts? (depthLimit - 1) chars
  let last ← parts.getLast?
  some ((parts.dropLast, last), rest)

/-- Skips a comment up to the end of its line; the comment must hold text only. -/
def skipComment : List Char → List Char
  | '#' :: rest => rest.dropWhile isTextChar
  | chars => chars

/-- Skips blanks, line breaks and comments between the elements of an array. -/
def skipFiller : (bound : Nat) → List Char → List Char
  | 0, chars => chars
  | bound + 1, chars =>
    match skipLines chars with
    | '#' :: rest =>
      match lineBreak? (rest.dropWhile isTextChar) with
      | some rest => skipFiller bound rest
      | none => rest.dropWhile isTextChar
    | rest => rest

/-- An unquoted scalar. A date may be followed by one blank and a time. -/
def bareValue? (chars : List Char) : Option (Value × List Char) :=
  let word := chars.takeWhile isScalarChar
  let rest := chars.dropWhile isScalarChar
  match rest with
  | ' ' :: digit :: more =>
    if isDate word && digit.isDigit then
      if isTime true ((digit :: more).takeWhile isScalarChar) then
        some (.moment, (digit :: more).dropWhile isScalarChar)
      else none
    else (scalar? word).map (·, rest)
  | _ => (scalar? word).map (·, rest)

mutual

/-- A value. Each step uses up a character or gives the same input to a simpler
reader, so the bound derived from the length of the input is never reached. -/
def value? (bound depth : Nat) (chars : List Char) : Option (Value × List Char) :=
  match bound, chars with
  | 0, _ => none
  | bound + 1, '[' :: rest =>
    if depthLimit ≤ depth + 1 then none
    else elements? bound (depth + 1) [] (skipFiller rest.length rest)
  | bound + 1, '\x7b' :: rest =>
    if depthLimit ≤ depth + 1 then none
    else
      match rest.dropWhile isSpace with
      | '\x7d' :: rest => some (.table .inline [], rest)
      | rest => members? bound (depth + 1) [] rest
  | _ + 1, chars =>
    match string? true chars with
    | some (text, rest) => some (.text text, rest)
    | none =>
      match chars with
      | '"' :: _ | '\'' :: _ => none
      | chars => bareValue? chars

/-- The elements of an array and its closing bracket, after blanks were
skipped. -/
def elements? (bound depth : Nat) (before : List Value) (chars : List Char) :
    Option (Value × List Char) :=
  match bound, chars with
  | 0, _ => none
  | _ + 1, ']' :: rest => some (.array before.reverse, rest)
  | bound + 1, chars => do
    let (element, rest) ← value? bound depth chars
    match skipFiller rest.length rest with
    | ',' :: rest => elements? bound depth (element :: before) (skipFiller rest.length rest)
    | ']' :: rest => some (.array (element :: before).reverse, rest)
    | _ => none

/-- The members of a table in braces and the closing brace. -/
def members? (bound depth : Nat) (before : Entries) (chars : List Char) :
    Option (Value × List Char) :=
  match bound with
  | 0 => none
  | bound + 1 => do
    let ((path, key), rest) ← key? chars
    match rest with
    | '=' :: rest => do
      let (value, rest) ← value? bound depth (rest.dropWhile isSpace)
      let entries ← before.define path key value .inline
      match rest.dropWhile isSpace with
      | ',' :: rest => members? bound depth entries rest
      | '\x7d' :: rest => some (.table .inline entries, rest)
      | _ => none
    | _ => none

end

/-- The end of a line: blanks, a comment, and a line break or the end of the
document. -/
def lineEnd? (chars : List Char) : Option (List Char) :=
  match skipComment (chars.dropWhile isSpace) with
  | [] => some []
  | rest => lineBreak? rest

/-- A document in the making: its entries, and the header that keys are under. -/
structure Draft where
  entries : Entries
  header : List String

/-- A header, of a table or of one more element of an array of tables, given what
follows its first bracket. -/
def Draft.header? (draft : Draft) : List Char → Option (Draft × List Char)
  | '[' :: rest => do
    let ((path, key), rest) ← key? rest
    match rest with
    | ']' :: ']' :: rest =>
      some (⟨← draft.entries.openElement path key, path ++ [key]⟩, rest)
    | _ => none
  | chars => do
    let ((path, key), rest) ← key? chars
    match rest with
    | ']' :: rest => some (⟨← draft.entries.openTable path key, path ++ [key]⟩, rest)
    | _ => none

/-- A key with its value. -/
def Draft.entry? (draft : Draft) (chars : List Char) : Option (Draft × List Char) := do
  let ((path, key), rest) ← key? chars
  match rest with
  | '=' :: rest =>
    let (value, rest) ← value? (2 * rest.length + 2) 0 (rest.dropWhile isSpace)
    some ({ draft with entries := ← draft.entries.defineUnder draft.header path key value }, rest)
  | _ => none

/-- The lines of a document. Each round uses up a line. -/
def Draft.lines? (draft : Draft) : (bound : Nat) → List Char → Option Entries
  | 0, _ => none
  | bound + 1, chars =>
    match chars.dropWhile isSpace with
    | [] => some draft.entries
    | '[' :: rest => do
      let (draft, rest) ← draft.header? rest
      draft.lines? bound (← lineEnd? rest)
    | first :: rest =>
      if first = '#' || first = '\n' || first = '\r' then do
        draft.lines? bound (← lineEnd? (first :: rest))
      else do
        let (draft, rest) ← draft.entry? (first :: rest)
        draft.lines? bound (← lineEnd? rest)

/-- The entries of a document. A byte order mark in front is skipped. -/
def document? (text : String) : Option Entries :=
  let chars := match text.toList with
    | first :: rest => if first = Char.ofNat 0xfeff then rest else first :: rest
    | [] => []
  (Draft.mk [] []).lines? (chars.length + 1) chars

end PulseProgram.Toml
