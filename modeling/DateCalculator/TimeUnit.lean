/-!
Units of time, each with a fixed length in milliseconds: a month counts 30 days and a year 365.
`all` lists them from the longest to the shortest.
-/

namespace DateCalculator

inductive TimeUnit where
  | year | month | week | day | hour | minute | second | millisecond
  deriving DecidableEq

namespace TimeUnit

def all : List TimeUnit := [year, month, week, day, hour, minute, second, millisecond]

theorem mem_all (unit : TimeUnit) : unit ∈ all := by cases unit <;> decide

def length : TimeUnit → Nat
  | year => 31536000000
  | month => 2592000000
  | week => 604800000
  | day => 86400000
  | hour => 3600000
  | minute => 60000
  | second => 1000
  | millisecond => 1

theorem length_pos (unit : TimeUnit) : 0 < unit.length := by cases unit <;> decide

def name : TimeUnit → String
  | year => "years"
  | month => "months"
  | week => "weeks"
  | day => "days"
  | hour => "hours"
  | minute => "minutes"
  | second => "seconds"
  | millisecond => "milliseconds"

def ofName? (name : String) : Option TimeUnit := all.find? fun unit => unit.name = name

def downFrom (unit : TimeUnit) : List TimeUnit := all.dropWhile fun longer => longer ≠ unit

def longer (unit other : TimeUnit) : TimeUnit :=
  if other.length ≤ unit.length then unit else other

def shorter (unit other : TimeUnit) : TimeUnit :=
  if unit.length ≤ other.length then unit else other

end TimeUnit

end DateCalculator
