/-
  Meterbank.Toml.Document — whole configurations.

  A configuration is a sequence of lines: blanks and comments, headers
  that open a table, and settings that give a key of the open table a
  value.  Lists may run over several lines, tables in braces may not.
-/
import Meterbank.Toml.Scalar

namespace Meterbank.Toml

/-! ## Lists and tables in braces -/

/-- Reads the elements of a list up to and with the closing bracket. -/
def elements (value : Chars → Option (Value × Chars)) :
    Nat → List Value → Chars → Option (List Value × Chars)
  | 0, _, _ => none
  | n + 1, done, cs =>
    (skipLines (cs.length + 1) cs).bind fun
    | ']' :: r => some (done.reverse, r)
    | cs =>
      (value cs).bind fun (v, r) =>
        (skipLines (r.length + 1) r).bind fun
        | ',' :: r => elements value n (v :: done) r
        | ']' :: r => some ((v :: done).reverse, r)
        | _ => none

/-- Reads a key, the equals sign and the value. -/
def setting (value : Chars → Option (Value × Chars)) (cs : Chars) :
    Option (List String × String × Value × Chars) :=
  (key cs).bind fun (path, last, r) =>
    match r with
    | '=' :: r => (value (skipSpace r)).map fun (v, r) => (path, last, v, r)
    | _ => none

/-- Reads the settings of a table in braces up to and with the closing
brace. -/
def inlineSettings (value : Chars → Option (Value × Chars)) :
    Nat → Entries → Chars → Option (Entries × Chars)
  | 0, _, _ => none
  | n + 1, es, cs =>
    (setting value cs).bind fun (path, last, v, r) =>
      (addKey path last v .header es).bind fun es =>
        match skipSpace r with
        | ',' :: r => inlineSettings value n es r
        | '}' :: r => some (es, r)
        | _ => none

/-- Reads a value with lists and tables nested at most `depth` deep. -/
def value : Nat → Chars → Option (Value × Chars)
  | depth, cs =>
    match cs with
    | '[' :: r =>
      match depth with
      | 0 => none
      | depth + 1 =>
        (elements (value depth) (r.length + 1) [] r).map fun (vs, r) => (.list false vs, r)
    | '{' :: r =>
      match depth with
      | 0 => none
      | depth + 1 =>
        match skipSpace r with
        | '}' :: r => some (.table .inline [], r)
        | _ =>
          (inlineSettings (value depth) (r.length + 1) [] r).map fun (es, r) =>
            (.table .inline es, r)
    | cs => scalar cs

/-- How deep lists and tables may be nested. -/
def maxDepth : Nat := 79

/-! ## Lines -/

/-- A configuration that is being read: all tables so far, and the path
of the header that is open. -/
structure State where
  root : Entries
  header : List String

/-- Reads a header whose first bracket has been read. -/
def headerLine (s : State) (cs : Chars) : Option (State × Chars) :=
  match cs with
  | '[' :: r =>
    (key r).bind fun (path, last, r) =>
      match r with
      | ']' :: ']' :: r =>
        (openElement path last s.root).bind fun root =>
          (lineRest r).map fun r => (⟨root, path ++ [last]⟩, r)
      | _ => none
  | r =>
    (key r).bind fun (path, last, r) =>
      match r with
      | ']' :: r =>
        (openTable path last s.root).bind fun root =>
          (lineRest r).map fun r => (⟨root, path ++ [last]⟩, r)
      | _ => none

/-- Reads a setting and the rest of its line. -/
def settingLine (s : State) (cs : Chars) : Option (State × Chars) :=
  (setting (value maxDepth) cs).bind fun (path, last, v, r) =>
    (addSetting s.header path last v s.root).bind fun root =>
      (lineRest r).map fun r => ({ s with root }, r)

/-- Reads lines up to the end of the text. -/
def lines : Nat → State → Chars → Option State
  | 0, _, _ => none
  | n + 1, s, cs =>
    match skipSpace cs with
    | [] => some s
    | '#' :: r => (lineEnd (skipComment r)).bind (lines n s)
    | '\n' :: r => lines n s r
    | '\r' :: r => (newline ('\r' :: r)).bind (lines n s)
    | '[' :: r => (headerLine s r).bind fun (s, r) => lines n s r
    | r => (settingLine s r).bind fun (s, r) => lines n s r

/-- The table a text writes down.  A byte order mark at the start does
not count. -/
def document (text : String) : Option Entries :=
  let cs :=
    match text.toList with
    | '\uFEFF' :: r => r
    | cs => cs
  (lines (cs.length + 1) ⟨[], []⟩ cs).map State.root

end Meterbank.Toml
