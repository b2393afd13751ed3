/-
  Meterbank.Pending — tables that deltas are merged into until they are taken.

  A delta is merged in two parts, each of which goes through the rows of
  one of its tables in the order in which they lie.  The counters come
  first: the new totals of all their rows are worked out before one of
  them is written, so that a total out of the range stops the merge before
  anything has been touched.  Setting the gauges cannot fail.  Taking
  moves everything out of the one table, and then out of the other.

  A run is any sequence of merges and takes, with what comes of each.

  Main result:
    * `run_append` — a run is run in parts.
-/
import Meterbank.Delta
import Meterbank.Layout

namespace Meterbank

/-- How the rows of a delta lie. -/
structure Delta.Layout (d : Delta) where
  gauges : d.gauges.Layout
  counters : d.counters.Layout

/-- A delta whose rows lie in the order of their names. -/
def Delta.ordered (d : Delta) : d.Layout := ⟨.ordered d.gauges, .ordered d.counters⟩

namespace Pending

/-! ## Merging and taking -/

/-- Adds the rows to the pending counters, all or none. -/
def addRows (rows : List (String × Int64)) (p : Delta) : Except StoreError Unit × Delta :=
  match p.counters.newTotals rows with
  | .error e => (.error e, p)
  | .ok totals => (.ok (), { p with counters := p.counters.setRows totals })

/-- Sets the pending gauges of the rows. -/
def setRows (rows : List (String × Binary64)) (p : Delta) : Delta :=
  { p with gauges := p.gauges.setRows rows }

/-- Merges a delta whose rows lie as they do. -/
def merge {d : Delta} (l : d.Layout) (p : Delta) : Except StoreError Unit × Delta :=
  match addRows l.counters.rows p with
  | (.error e, p) => (.error e, p)
  | (.ok _, p) => (.ok (), setRows l.gauges.rows p)

/-- Moves everything out of both tables. -/
def take (p : Delta) : Delta × Delta :=
  let gauges := p.gauges
  let p : Delta := { p with gauges := ∅ }
  let counters := p.counters
  (⟨gauges, counters⟩, { p with counters := ∅ })

/-! ## Runs -/

/-- A call. -/
inductive Call where
  | merge (delta : Delta) (layout : delta.Layout)
  | take

/-- What comes of a call. -/
inductive Event where
  | merged (delta : Delta)
  | refused (delta : Delta) (cause : StoreError)
  | taken (delta : Delta)

/-- Performs a call. -/
def perform (call : Call) (p : Delta) : Event × Delta :=
  match call with
  | .merge delta layout =>
    match merge layout p with
    | (.error e, p) => (.refused delta e, p)
    | (.ok _, p) => (.merged delta, p)
  | .take =>
    let (delta, p) := take p
    (.taken delta, p)

/-- Performs calls one after the other. -/
def run : List Call → Delta → List Event × Delta
  | [], p => ([], p)
  | call :: calls, p =>
    let (event, p) := perform call p
    let (events, p) := run calls p
    (event :: events, p)

/-- **A run is run in parts.** -/
theorem run_append (calls more : List Call) (p : Delta) :
    run (calls ++ more) p =
      ((run calls p).1 ++ (run more (run calls p).2).1, (run more (run calls p).2).2) := by
  induction calls generalizing p with
  | nil => rfl
  | cons call calls ih => simp only [List.cons_append, run, ih]

/-! ## What has been collected -/

/-- What has been collected after one more event. -/
def collect (ds : List Delta) : Event → List Delta
  | .merged d => ds ++ [d]
  | .refused _ _ => ds
  | .taken _ => []

/-- What has been merged since the last take, after what was there before. -/
def collected (ds : List Delta) (events : List Event) : List Delta := events.foldl collect ds

end Pending

end Meterbank
