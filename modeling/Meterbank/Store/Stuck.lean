/-
  Meterbank.Store.Stuck — a database that somebody else holds.

  Another program takes the database while a write waits for it.  The
  write has the only connection, so a ping runs into its timeout; the
  next one sees that the first is stuck and runs into its own at once.
  When the database is released, the write goes on and pings come back.
-/
import Meterbank.Store.Sql

namespace Meterbank.Stuck

open Meterbank.Sql

/-- What is seen of a store whose database is held for a while. -/
structure Observation where
  first : Except StoreError Unit
  second : Except StoreError Unit
  write : Except StoreError Metric
  recovered : Except StoreError Unit

/-- Observes a store whose database is held while a metric is written. -/
def observe (m : Metric) (s : SqlStore) : Observation × SqlStore :=
  let (first, s) := s.pingWhile true
  let (second, s) := s.pingWhile true
  let (write, s) := s.writeData m
  let (recovered, s) := s.released.pingWhile false
  (⟨first, second, write, recovered⟩, s)

end Meterbank.Stuck
