/-
  Meterbank.Toml.Lexeme — texts, keys and blanks of a configuration.

  Four kinds of quoted text — in double quotes with escapes, in single
  quotes without, each on one line or, with the quote three times, over
  many — and keys, which are bare words or quoted on one line.

  Every reader takes the characters that are left and gives a value and
  the characters after it, or nothing if the text is not in the grammar.
-/

namespace Meterbank.Toml

/-- The characters of a configuration that are left. -/
abbrev Chars := List Char

/-! ## Character classes -/

/-- A character that is not ASCII. -/
def isWide (c : Char) : Bool := decide (0x80 ≤ c.toNat)

/-- A character that may stand in a comment: no control but the tab. -/
def isVisible (c : Char) : Bool :=
  c == '\t' || decide (0x20 ≤ c.toNat ∧ c.toNat ≤ 0x7E) || isWide c

/-- A character of a bare key. -/
def isKeyChar (c : Char) : Bool := c.isAlphanum || c == '-' || c == '_'

/-! ## Blanks, lines and comments -/

/-- A blank within a line. -/
def isSpace (c : Char) : Bool := c == ' ' || c == '\t'

/-- Skips blanks within a line. -/
def skipSpace (cs : Chars) : Chars := cs.dropWhile isSpace

/-- Reads the end of a line. -/
def newline : Chars → Option Chars
  | '\n' :: r => some r
  | '\r' :: '\n' :: r => some r
  | _ => none

/-- Reads the end of a line or of the text. -/
def lineEnd : Chars → Option Chars
  | [] => some []
  | cs => newline cs

/-- Skips a comment whose sign has been read, up to the end of the line. -/
def skipComment (cs : Chars) : Chars := cs.dropWhile isVisible

/-- Reads what may follow a setting or a header on its line. -/
def lineRest (cs : Chars) : Option Chars :=
  match skipSpace cs with
  | '#' :: r => lineEnd (skipComment r)
  | r => lineEnd r

/-- Skips blanks, lines and comments between the elements of a list. -/
def skipLines : Nat → Chars → Option Chars
  | 0, cs => some cs
  | n + 1, cs =>
    match skipSpace cs with
    | '#' :: r => (newline (skipComment r)).bind (skipLines n)
    | '\n' :: r => skipLines n r
    | '\r' :: r => (newline ('\r' :: r)).bind (skipLines n)
    | r => some r

/-! ## Escapes -/

/-- Reads exactly so many hexadecimal digits. -/
def hexNumber : Nat → Nat → Chars → Option (Nat × Chars)
  | 0, soFar, cs => some (soFar, cs)
  | n + 1, soFar, c :: r =>
    let digit? : Option Nat :=
      if c.isDigit then some (c.toNat - '0'.toNat)
      else if 'a' ≤ c ∧ c ≤ 'f' then some (c.toNat - 'a'.toNat + 10)
      else if 'A' ≤ c ∧ c ≤ 'F' then some (c.toNat - 'A'.toNat + 10)
      else none
    digit?.bind fun d => hexNumber n (16 * soFar + d) r
  | _ + 1, _, [] => none

/-- Reads a character by its code point, written in so many digits. -/
def codePoint (digits : Nat) (cs : Chars) : Option (Char × Chars) :=
  (hexNumber digits 0 cs).bind fun (n, r) =>
    if n.isValidChar then some (Char.ofNat n, r) else none

/-- Reads what follows a backslash. -/
def escaped : Chars → Option (Char × Chars)
  | 'b' :: r => some ('\x08', r)
  | 't' :: r => some ('\t', r)
  | 'n' :: r => some ('\n', r)
  | 'f' :: r => some ('\x0c', r)
  | 'r' :: r => some ('\r', r)
  | '"' :: r => some ('"', r)
  | '\\' :: r => some ('\\', r)
  | 'u' :: r => codePoint 4 r
  | 'U' :: r => codePoint 8 r
  | _ => none

/-! ## Texts on one line -/

/-- Reads the rest of a text with escapes. -/
def basicText : Nat → Chars → Chars → Option (Chars × Chars)
  | 0, _, _ => none
  | n + 1, done, cs =>
    match cs with
    | '"' :: r => some (done.reverse, r)
    | '\\' :: r => (escaped r).bind fun (c, r) => basicText n (c :: done) r
    | c :: r => if isVisible c then basicText n (c :: done) r else none
    | [] => none

/-- Reads the rest of a text without escapes. -/
def literalText : Chars → Option (Chars × Chars)
  | [] => none
  | c :: r =>
    if c = '\'' then some ([], r)
    else if isVisible c then (literalText r).map fun (cs, r) => (c :: cs, r)
    else none

/-! ## Texts over many lines -/

/-- The quotes a text starts with, and what follows them. -/
def spanQuotes (quote : Char) (cs : Chars) : Nat × Chars :=
  ((cs.takeWhile (· == quote)).length, cs.dropWhile (· == quote))

/-- Skips blanks and line ends. -/
def skipBreaks : Chars → Chars
  | ' ' :: r => skipBreaks r
  | '\t' :: r => skipBreaks r
  | '\n' :: r => skipBreaks r
  | '\r' :: '\n' :: r => skipBreaks r
  | cs => cs

/-- Skips what a backslash at the end of a line joins: the line end, and
all blanks and line ends up to the next character. -/
def skipFold (cs : Chars) : Option Chars := (newline (skipSpace cs)).map skipBreaks

/-- Reads the rest of a text over many lines.  The quote three times ends
it; one or two more belong to the text. -/
def longText (quote : Char) (escapes : Bool) : Nat → Chars → Chars → Option (Chars × Chars)
  | 0, _, _ => none
  | n + 1, done, cs =>
    match cs with
    | [] => none
    | c :: r =>
      if c = quote then
        let (more, after) := spanQuotes quote r
        if more + 1 < 3 then longText quote escapes n (List.replicate (more + 1) quote ++ done) after
        else if more + 1 ≤ 5 then
          some ((List.replicate (more + 1 - 3) quote ++ done).reverse, after)
        else none
      else if c = '\\' ∧ escapes = true then
        match skipFold r with
        | some after => longText quote escapes n done after
        | none => (escaped r).bind fun (c, r) => longText quote escapes n (c :: done) r
      else if c = '\n' ∨ c = '\r' then
        (newline (c :: r)).bind fun r => longText quote escapes n ('\n' :: done) r
      else if isVisible c then longText quote escapes n (c :: done) r
      else none

/-- A line end right after the opening quotes does not count. -/
def dropFirstLine (cs : Chars) : Chars := (newline cs).getD cs

/-- Reads a quoted text of any kind. -/
def quotedText : Chars → Option (String × Chars)
  | '"' :: '"' :: '"' :: r =>
    let r := dropFirstLine r
    (longText '"' true (r.length + 1) [] r).map fun (cs, r) => (String.ofList cs, r)
  | '"' :: r => (basicText (r.length + 1) [] r).map fun (cs, r) => (String.ofList cs, r)
  | '\'' :: '\'' :: '\'' :: r =>
    let r := dropFirstLine r
    (longText '\'' false (r.length + 1) [] r).map fun (cs, r) => (String.ofList cs, r)
  | '\'' :: r => (literalText r).map fun (cs, r) => (String.ofList cs, r)
  | _ => none

/-! ## Keys -/

/-- Reads a bare key. -/
def bareKey (cs : Chars) : Option (String × Chars) :=
  let name := cs.takeWhile isKeyChar
  if name.isEmpty then none else some (String.ofList name, cs.dropWhile isKeyChar)

/-- Reads one part of a key. -/
def keyPart : Chars → Option (String × Chars)
  | '"' :: r => (basicText (r.length + 1) [] r).map fun (cs, r) => (String.ofList cs, r)
  | '\'' :: r => (literalText r).map fun (cs, r) => (String.ofList cs, r)
  | cs => bareKey cs

/-- The most parts a key may have. -/
def maxKeyParts : Nat := 79

/-- Reads the parts of a key, with the blanks around them. -/
def keyParts : Nat → Chars → Option (List String × Chars)
  | 0, _ => none
  | n + 1, cs =>
    (keyPart (skipSpace cs)).bind fun (part, r) =>
      match skipSpace r with
      | '.' :: r => (keyParts n r).map fun (parts, r) => (part :: parts, r)
      | r => some ([part], r)

/-- Reads a key: the parts before the last and the last. -/
def key (cs : Chars) : Option (List String × String × Chars) :=
  (keyParts maxKeyParts cs).bind fun (parts, r) =>
    parts.getLast?.map fun last => (parts.dropLast, last, r)

end Meterbank.Toml
