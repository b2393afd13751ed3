/-
  Meterbank.Store.Conformance — what every fresh store must do.

  A list of calls on an empty store, each with what is expected of its
  answer.  The calls are made in order; the first that is not answered as
  expected ends the check.
-/
import Meterbank.Store.Interface

namespace Meterbank.Conformance

open Meterbank.Store

/-! ## Expectations -/

/-- The answer to a call. -/
abbrev Answer := Except StoreError Payload

/-- A call, and whether an answer is as expected. -/
structure Expectation where
  call : Call
  meets : Answer → Bool

/-- Makes the calls as long as the answers are as expected. -/
def check {σ : Type} (S : Store σ) : List Expectation → σ → Bool × σ
  | [], s => (true, s)
  | e :: es, s =>
    let (answer, s) := S.perform e.call s
    if e.meets answer then check S es s else (false, s)

/-! ## Kinds of answers -/

/-- Any answer but an error. -/
def succeeds : Answer → Bool
  | .ok _ => true
  | .error _ => false

/-- Any error. -/
def fails : Answer → Bool
  | .ok _ => false
  | .error _ => true

/-- An error with a code. -/
def failsWith (code : StoreError.Code) : Answer → Bool
  | .ok _ => false
  | .error e => e.code == code

/-- A metric with a delta. -/
def hasDelta (n : Int64) : Answer → Bool
  | .ok (.metric m) => m.delta == some n
  | _ => false

/-- A metric with a delta and no value. -/
def isTotal (n : Int64) : Answer → Bool
  | .ok (.metric m) => m.delta == some n && m.value.isNone
  | _ => false

/-- A metric with a value and no delta. -/
def isValue (x : Binary64) : Answer → Bool
  | .ok (.metric m) => m.delta.isNone && m.value.any (·.sameNumber x)
  | _ => false

/-- Counters in which one has a total. -/
def counterIs (key : String) (n : Int64) : Answer → Bool
  | .ok (.counters t) => t.get? key == some n
  | _ => false

/-- Gauges in which one has a value. -/
def gaugeIs (key : String) (x : Binary64) : Answer → Bool
  | .ok (.gauges t) => (t.get? key).any (·.sameNumber x)
  | _ => false

/-- So many gauges. -/
def gaugeCount (n : Nat) : Answer → Bool
  | .ok (.gauges t) => t.size == n
  | _ => false

/-- So many counters. -/
def counterCount (n : Nat) : Answer → Bool
  | .ok (.counters t) => t.size == n
  | _ => false

/-! ## The contract -/

/-- A value that is an integer. -/
def whole (n : Nat) : Binary64 := Number.nearest false n 0

/-- A value in tenths. -/
def tenths (n : Nat) : Binary64 := Number.nearest false n (-1)

/-- What every store must do when it is empty: counters add up, gauges
are replaced, the two do not mix, unknown ids and tags are errors, an
invalid batch does nothing, a valid one does everything. -/
def contract : List Expectation := [
  ⟨.writeData (.counter "contract_c1" 1), hasDelta 1⟩,
  ⟨.writeData (.counter "contract_c1" 2), hasDelta 3⟩,
  ⟨.readData (.query "contract_c1" .counter), isTotal 3⟩,
  ⟨.writeData (.gauge "contract_g1" (whole 1)), succeeds⟩,
  ⟨.writeData (.gauge "contract_g1" (whole 2)), succeeds⟩,
  ⟨.readData (.query "contract_g1" .gauge), isValue (whole 2)⟩,
  ⟨.writeData (.gauge "contract_c1" (tenths 95)), succeeds⟩,
  ⟨.readCounters ["contract_c1"], counterIs "contract_c1" 3⟩,
  ⟨.readGauges ["contract_c1"], gaugeIs "contract_c1" (tenths 95)⟩,
  ⟨.readData (.query "contract_missing" .gauge), failsWith .notFound⟩,
  ⟨.readData ⟨"contract_c1", "countter", none, none⟩, failsWith .unsupportedKind⟩,
  ⟨.readCounters ["contract_c1", "contract_missing"], failsWith .notFound⟩,
  ⟨.writeData ⟨"contract_g2", "gauge", none, none⟩, failsWith .validation⟩,
  ⟨.writeBatch ⟨[.counter "contract_c1" 100, .gauge "contract_g3" (whole 1),
      ⟨"contract_bad", "histogram", none, none⟩]⟩, failsWith .validation⟩,
  ⟨.readCounters ["contract_c1"], counterIs "contract_c1" 3⟩,
  ⟨.readGauges ["contract_g3"], fails⟩,
  ⟨.writeBatch ⟨[.counter "contract_c1" 10, .counter "contract_c1" 5,
      .gauge "contract_g3" (whole 4), .gauge "contract_g3" (whole 8)]⟩, succeeds⟩,
  ⟨.readCounters ["contract_c1"], counterIs "contract_c1" 18⟩,
  ⟨.readGauges ["contract_g3"], gaugeIs "contract_g3" (whole 8)⟩,
  ⟨.writeGaugeText "contract_g4" "12.5", succeeds⟩,
  ⟨.writeCounterText "contract_c2" "7", succeeds⟩,
  ⟨.writeCounter "contract_c2" 3, succeeds⟩,
  ⟨.writeCounterText "contract_c2" "seven", failsWith .validation⟩,
  ⟨.readGauges ["contract_g4"], gaugeIs "contract_g4" (tenths 125)⟩,
  ⟨.readCounters ["contract_c2"], counterIs "contract_c2" 10⟩,
  ⟨.readGauges [], gaugeCount 4⟩,
  ⟨.readCounters [], counterCount 2⟩,
  ⟨.ping, succeeds⟩]

/-- Whether an empty store does what every store must do. -/
def isMet {σ : Type} (S : Store σ) (s : σ) : Bool × σ := check S contract s

end Meterbank.Conformance
