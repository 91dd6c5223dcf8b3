import LineService.Program.Client
import LineService.Trial.Conformance
import LineService.Trial.Load

/-!
# The trials' program

The program runs the trial its arguments name and prints the report.  It ends with status 1
if the service did not pass, and with 0 also where no trial is named.
-/

namespace LineService.Program

/-- Ends with a report. -/
def trialEnded (r : Trial.Report) (records : List Journal.Record) : Transcript :=
  ⟨printed r.lines, String.join (records.map (·.shown)), if r.passed then 0 else 1⟩

/-- The whole program; none if the service leaves it waiting.  `elapsed` and `throughput`
are what the load test measures. -/
def trial {σ : Type} (site : (authority : String) → Trial.Site σ)
    (noise : Nat → Nat → UInt64) (elapsed throughput : String) (arguments : List String) :
    Option Transcript :=
  match Trial.readArguments arguments with
  | (none, _) => some ⟨printed [Trial.usage], "", 0⟩
  | (some .conformance, authority) =>
    (Trial.checkConformance (site authority) authority).map fun r => trialEnded r []
  | (some .load, authority) =>
    (Trial.runLoad (site authority) authority noise).map fun findings =>
      trialEnded (Trial.loadReport elapsed throughput findings) (findings.flatMap (·.records))

end LineService.Program
