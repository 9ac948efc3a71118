import DateCalculator.TimeUnit

/-!
Signed durations. A duration keeps the amount of each unit that it was given, and no two of its
amounts differ in sign. Its length in milliseconds is `totalMilliseconds`; `ofMilliseconds` goes
back from a length to the greedy amounts below a chosen unit.
-/

namespace DateCalculator

namespace Duration

structure Fields where
  years : Int
  months : Int
  weeks : Int
  days : Int
  hours : Int
  minutes : Int
  seconds : Int
  milliseconds : Int
  deriving DecidableEq

namespace Fields

def get (fields : Fields) : TimeUnit → Int
  | .year => fields.years
  | .month => fields.months
  | .week => fields.weeks
  | .day => fields.days
  | .hour => fields.hours
  | .minute => fields.minutes
  | .second => fields.seconds
  | .millisecond => fields.milliseconds

def tabulate (amount : TimeUnit → Int) : Fields :=
  ⟨amount .year, amount .month, amount .week, amount .day, amount .hour, amount .minute,
    amount .second, amount .millisecond⟩

@[simp] theorem get_tabulate (amount : TimeUnit → Int) (unit : TimeUnit) :
    (tabulate amount).get unit = amount unit := by
  cases unit <;> rfl

def OneSign (fields : Fields) : Prop :=
  (∀ unit ∈ TimeUnit.all, 0 ≤ fields.get unit) ∨ ∀ unit ∈ TimeUnit.all, fields.get unit ≤ 0

instance (fields : Fields) : Decidable fields.OneSign := by
  unfold OneSign
  infer_instance

end Fields

end Duration

structure Duration extends Duration.Fields where
  oneSign : toFields.OneSign
  deriving DecidableEq

namespace Duration

def get (span : Duration) (unit : TimeUnit) : Int := span.toFields.get unit

def ofFields? (fields : Fields) : Option Duration :=
  if oneSign : fields.OneSign then some ⟨fields, oneSign⟩ else none

def mixedSignsMessage (fields : Fields) : String :=
  let amounts := TimeUnit.all.map fun unit => s!"{unit.name}={fields.get unit}"
  let shown := ", ".intercalate amounts
  s!"Duration fields must all share one sign, got Duration({shown}).\n" ++
    "Hint: Build mixed spans from a millisecond total instead:\n" ++
    "  Duration.from_milliseconds(ms, largest='days')"

def ofAmounts (negative : Bool) (amount : TimeUnit → Nat) : Duration where
  toFields := .tabulate fun unit => if negative then -(amount unit : Int) else amount unit
  oneSign := by
    cases negative with
    | false => exact Or.inl fun unit _ => by simp
    | true => exact Or.inr fun unit _ => by simp

def largestUnit (span : Duration) : TimeUnit :=
  (TimeUnit.all.find? fun unit => span.get unit ≠ 0).getD .millisecond

def sign (span : Duration) : Int := (span.get span.largestUnit).sign

def totalMilliseconds (span : Duration) : Int :=
  TimeUnit.all.foldr (fun unit total => span.get unit * unit.length + total) 0

/-- Takes as many of each unit in turn as fit into what the units before it have left. -/
def greedy : List TimeUnit → Nat → TimeUnit → Nat
  | [], _, _ => 0
  | first :: rest, remaining, unit =>
      if unit = first then remaining / first.length
      else greedy rest (remaining % first.length) unit

def ofMilliseconds (total : Int) (largest : TimeUnit) : Duration :=
  ofAmounts (total < 0) (greedy largest.downFrom total.natAbs)

/-- Rounds half away from zero to whole units `smallest` and rebalances from `largest` down. -/
def round (span : Duration) (smallest largest : TimeUnit) : Duration :=
  let total := span.totalMilliseconds
  let step := smallest.length
  let magnitude := (total.natAbs + step / 2) / step * step
  ofMilliseconds (if total < 0 then -(magnitude : Int) else magnitude) largest

def ofMicroseconds (total : Int) : Duration := ofMilliseconds (total.tdiv 1000) .day

/-- The longest time difference that has a duration of its own, in days. -/
def differenceLimit : Nat := 999999999

def ofDifference? (days seconds microseconds : Int) : Option Duration :=
  let total := (days * 86400 + seconds) * 1000000 + microseconds
  if (total / 86400000000).natAbs ≤ differenceLimit then some (ofMicroseconds total) else none

/-- The unit from which the sum of two durations is balanced: the longest that either uses, but
days at most. -/
def balanceUnit (first second : Duration) : TimeUnit :=
  TimeUnit.shorter (first.largestUnit.longer second.largestUnit) .day

def add (first second : Duration) : Duration :=
  ofMilliseconds (first.totalMilliseconds + second.totalMilliseconds) (balanceUnit first second)

def sub (first second : Duration) : Duration :=
  ofMilliseconds (first.totalMilliseconds - second.totalMilliseconds) (balanceUnit first second)

def negate (span : Duration) : Duration := ofMilliseconds (-span.totalMilliseconds) .millisecond

end Duration

end DateCalculator
