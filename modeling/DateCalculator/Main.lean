import DateCalculator.CommandLine
import Std.Time.Format

/-!
The program: the command line on the local wall clock.
-/

namespace DateCalculator.CommandLine

def momentOf? (reading : Std.Time.PlainDateTime) : Option DateTime := do
  let date ← Date.of? reading.year.toInt reading.month.val.toNat reading.day.val.toNat
  let midnight ← DateTime.timeOfDay? reading.hour.val.toNat reading.minute.val.toNat
    reading.second.val.toNat (reading.nanosecond.val.toNat / 1000)
  DateTime.of? date midnight

def readClock : IO DateTime := do
  match momentOf? (← Std.Time.PlainDateTime.now) with
  | some moment => pure moment
  | none => throw (IO.userError "The clock shows an unsupported year")

def clockOf (first : DateTime) (rest : List DateTime) : Clock := fun index =>
  (first :: rest).getD index first

/-- As many readings of the wall clock as an expression of the given length can call for. -/
def readings (length : Nat) : IO (List DateTime) :=
  (List.range (length / 3)).mapM fun _ => readClock

end DateCalculator.CommandLine

open DateCalculator in
def main (words : List String) : IO UInt32 := do
  let environment ← IO.getEnv "TIMECALC_LOCALE"
  let first ← CommandLine.readClock
  let rest ← CommandLine.readings (String.join words).length
  let clock := CommandLine.clockOf first rest
  let report := CommandLine.run clock environment first.text words
  (← IO.getStdout).putStr report.output
  (← IO.getStderr).putStr report.errors
  pure report.exitCode.toUInt32
