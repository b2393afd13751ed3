/-
  Meterbank.Text.Pieces — bytes cut at separators.

  Paths are cut at slashes and addresses at marks of their own.  Between
  two separators that follow each other lies an empty piece.
-/

namespace Meterbank.Text

/-- The pieces between the separators. -/
def pieces (separator : UInt8) : List UInt8 → List (List UInt8)
  | [] => [[]]
  | b :: bs =>
    if b = separator then [] :: pieces separator bs
    else
      match pieces separator bs with
      | [] => [[b]]
      | piece :: rest => (b :: piece) :: rest

/-- What stands before the first separator, and what comes after it. -/
def cut (separator : UInt8) (bs : List UInt8) : List UInt8 × List UInt8 :=
  (bs.takeWhile (· ≠ separator), (bs.dropWhile (· ≠ separator)).drop 1)

end Meterbank.Text
