/-
  Meterbank.Metric.Encode — metrics as JSON.

  A metric is an object with its id and tag and those of its two numbers
  that are present.  On the wire it stands on one line; a snapshot is a
  batch, laid out with an indent of two spaces.

  Main results:
    * `members_gauge`, `members_counter` — which members a metric has.
-/
import Meterbank.Metric.Batch
import Meterbank.Json.StringText

namespace Meterbank

open Meterbank.Json Meterbank.Number

/-! ## Members -/

/-- The members of a metric's object: names and written values. -/
def Metric.members (m : Metric) : List (String × List Char) :=
  [("id", quoteChars m.id), ("type", quoteChars m.tag)]
    ++ (m.delta.map fun d => ("delta", integerDigits d.toInt)).toList
    ++ (m.value.map fun x => ("value", floatChars x)).toList

/-- A gauge has its value as the only number. -/
theorem members_gauge (id : String) (x : Binary64) :
    (Metric.gauge id x).members =
      [("id", quoteChars id), ("type", quoteChars "gauge"), ("value", floatChars x)] := rfl

/-- A counter has its delta as the only number. -/
theorem members_counter (id : String) (d : Int64) :
    (Metric.counter id d).members =
      [("id", quoteChars id), ("type", quoteChars "counter"),
        ("delta", integerDigits d.toInt)] := rfl

/-! ## Layout -/

/-- Texts with a separator between any two. -/
def joinWith (separator : List Char) : List (List Char) → List Char
  | [] => []
  | [t] => t
  | t :: ts => t ++ separator ++ joinWith separator ts

/-- The JSON of a metric on one line. -/
def Metric.compactChars (m : Metric) : List Char :=
  '{' :: joinWith [','] (m.members.map fun (name, value) => quoteChars name ++ ':' :: value) ++ ['}']

/-- The JSON of a metric on one line, as a string. -/
def Metric.compact (m : Metric) : String := String.ofList m.compactChars

/-- A new line, indented. -/
def lineBreak (depth : Nat) : List Char := '\n' :: List.replicate (2 * depth) ' '

/-- Items between brackets, each on a line of its own. -/
def layOut (opening closing : Char) (depth : Nat) (items : List (List Char)) : List Char :=
  opening :: lineBreak (depth + 1) ++ joinWith (',' :: lineBreak (depth + 1)) items
    ++ lineBreak depth ++ [closing]

/-- A member with a blank after the colon. -/
def prettyMember (member : String × List Char) : List Char :=
  quoteChars member.1 ++ ':' :: ' ' :: member.2

/-- The JSON of a metric over several lines. -/
def Metric.prettyChars (depth : Nat) (m : Metric) : List Char :=
  layOut '{' '}' depth (m.members.map prettyMember)

/-- The JSON of a list of metrics over several lines. -/
def prettyList (depth : Nat) (ms : List Metric) : List Char :=
  if ms.isEmpty then ['[', ']']
  else layOut '[' ']' depth (ms.map (Metric.prettyChars (depth + 1)))

/-- The JSON of a batch: an object whose only member is the list of metrics. -/
def Batch.prettyChars (b : Batch) : List Char :=
  layOut '{' '}' 0 [prettyMember ("metrics_db", prettyList 1 b.metrics)]

/-- The JSON of a batch, as a string. -/
def Batch.pretty (b : Batch) : String := String.ofList b.prettyChars

end Meterbank
