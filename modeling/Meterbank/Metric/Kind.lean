/-
  Meterbank.Metric.Kind — the two kinds of metric.

  A gauge holds the last value written to it, a counter the sum of all
  deltas.  The two name spaces are independent: one id may be both.
-/

namespace Meterbank

/-- The kind of a metric. -/
inductive Kind where
  /-- A write replaces the value. -/
  | gauge
  /-- A write adds to the total. -/
  | counter
  deriving DecidableEq, Inhabited, Repr

namespace Kind

/-- The tag a metric carries on the wire. -/
def tag : Kind → String
  | .gauge => "gauge"
  | .counter => "counter"

/-- The kind a tag names.  Tags are matched exactly. -/
def ofTag? (s : String) : Option Kind :=
  if s = Kind.gauge.tag then some .gauge
  else if s = Kind.counter.tag then some .counter
  else none

end Kind

end Meterbank
