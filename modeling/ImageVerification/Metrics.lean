import ImageVerification.Record

/-! Totals over all records, and the summary made of them. -/

namespace ImageVerification

structure Totals where
  count : Int
  successes : Int
  averageScore : Binary64
  averageLatency : Binary64
deriving DecidableEq

structure MetricsSummary where
  totalRequests : Int
  successfulRequests : Int
  successRate : Binary64
  averageScore : Binary64
  averageLatency : Binary64
deriving DecidableEq

namespace Totals

def empty : Totals := ⟨0, 0, .zero, .zero⟩

/-- Added up from the left; a sum of negative zeros stays negative. -/
def sum (xs : List Binary64) : Binary64 := xs.foldl (· + ·) .negativeZero

def average (xs : List Binary64) : Binary64 := sum xs / Binary64.ofNat xs.length

def ofRecords (records : List Record) : Totals :=
  if records.isEmpty then empty
  else
    {
      count := records.length
      successes := records.countP (·.success)
      averageScore := average (records.map (·.score.widen))
      averageLatency := average (records.map (·.latency))
    }

/-- The rate of successes is zero when nothing was counted. -/
def summary (totals : Totals) : MetricsSummary :=
  {
    totalRequests := totals.count
    successfulRequests := totals.successes
    successRate :=
      if 0 < totals.count then Binary64.ofInt totals.successes / Binary64.ofInt totals.count
      else .zero
    averageScore := totals.averageScore
    averageLatency := totals.averageLatency
  }

end Totals

end ImageVerification
