import DateCalculator.Proofs.FaultPosition
import DateCalculator.Proofs.LongestDate

/-!
Dates in expressions. The rule for dates claims the longest date in front of it, with as much of a
time of day as there is, and it reads every number from its place. What looks like a date is at
fault exactly if the calendar has no such day or the day no such time, even where another reading
of the text would do.
-/

namespace DateCalculator

structure DateFields where
  year : Nat
  month : Nat
  day : Nat
  hour : Nat
  minute : Nat
  second : Nat

namespace DateFields

def ofText (lexeme : List Char) : DateFields where
  year := Numeral.valueAt lexeme 0 4
  month := Numeral.valueAt lexeme 5 2
  day := Numeral.valueAt lexeme 8 2
  hour := Numeral.valueAt lexeme 11 2
  minute := Numeral.valueAt lexeme 14 2
  second := Numeral.valueAt lexeme 17 2

/-- There are such a day and such a time of day. -/
structure Possible (fields : DateFields) : Prop where
  year : fields.year ≠ 0
  month : 1 ≤ fields.month ∧ fields.month ≤ 12
  day : 1 ≤ fields.day ∧ fields.day ≤ Calendar.monthLength fields.year fields.month
  hour : fields.hour ≤ 23
  minute : fields.minute ≤ 59
  second : fields.second ≤ 59

structure DateOf (fields : DateFields) (date : Date) : Prop where
  year : date.year = fields.year
  month : date.month = fields.month
  day : date.day = fields.day

structure MomentOf (fields : DateFields) (moment : DateTime) : Prop where
  date : fields.DateOf moment.date
  hour : moment.hour = fields.hour
  minute : moment.minute = fields.minute
  second : moment.second = fields.second
  microsecond : moment.microsecond = 0

variable {fields : DateFields}

theorem MomentOf.possible {moment : DateTime} (told : fields.MomentOf moment) :
    fields.Possible := by
  obtain ⟨⟨year, month, day⟩, hour, minute, second, -⟩ := told
  obtain ⟨hourBound, minuteBound, secondBound, -⟩ := moment.bounds
  have yearPos := moment.year_pos
  have dayLe := moment.date.day_le
  rw [year, month, day] at dayLe
  have monthPos := moment.date.month_pos
  have monthLe := moment.date.month_le
  have dayPos := moment.date.day_pos
  exact ⟨by omega, by omega, by omega, by omega, by omega, by omega⟩

theorem Possible.exists_moment (possible : fields.Possible) (short : fields.year ≤ 9999) :
    ∃ moment, fields.MomentOf moment := by
  obtain ⟨year, month, day, hour, minute, second⟩ := possible
  have within : ((fields.hour * 60 + fields.minute) * 60 + fields.second) * 1000000 <
      microsecondsPerDay := by
    unfold microsecondsPerDay
    omega
  refine ⟨⟨⟨fields.year, fields.month, fields.day, by omega, by omega, by omega, day.2⟩,
    ((fields.hour * 60 + fields.minute) * 60 + fields.second) * 1000000,
    by dsimp only; omega, by dsimp only; omega, within⟩, ⟨rfl, rfl, rfl⟩, ?_, ?_, ?_, ?_⟩
  all_goals
    simp only [DateTime.hour, DateTime.minute, DateTime.second, DateTime.microsecond]
    omega

end DateFields

/-- Two digits, the form of every field of a time of day. -/
abbrev Token.pairShape : List Char := ['0', '0']

namespace Token.Shaped

variable {field : List Char}

theorem exists_pair (shaped : Shaped pairShape field) :
    ∃ tens ones, field = [tens, ones] ∧ tens.isDigit = true ∧ ones.isDigit = true := by
  obtain _ | ⟨tens, _ | ⟨ones, ⟨⟩⟩⟩ := shaped
  exact ⟨_, _, rfl, tens, ones⟩

theorem isDigit_of_pair (shaped : Shaped pairShape field) :
    ∀ digit ∈ field, digit.isDigit = true := by
  obtain ⟨tens, ones, rfl, first, second⟩ := shaped.exists_pair
  simp [first, second]

theorem not_mem_of_pair (shaped : Shaped pairShape field) {mark : Char}
    (other : mark.isDigit = false) : mark ∉ field := by
  intro member
  rw [shaped.isDigit_of_pair mark member] at other
  contradiction

theorem take?_of_pair (shaped : Shaped pairShape field) :
    Numeral.take? 2 field = some (Nat.ofDigitChars 10 field 0, []) := by
  obtain ⟨tens, ones, rfl, first, second⟩ := shaped.exists_pair
  simp [Numeral.take?, first, second]

theorem readInteger?_of_pair (shaped : Shaped pairShape field) :
    Numeral.readInteger? field = some (Nat.ofDigitChars 10 field 0 : Int) := by
  have digits := shaped.isDigit_of_pair
  obtain ⟨tens, ones, rfl, -, -⟩ := shaped.exists_pair
  rw [Numeral.readInteger?_of_isDigit (List.cons_ne_nil _ _) digits
    (show 2 ≤ Numeral.digitLimit by decide), Numeral.value_eq_ofDigitChars digits]

end Token.Shaped

open Token (Shaped pairShape)

/-- The time of day behind a date, as it is written and as its three fields; a field that is not
written is zero. -/
inductive ClockText : List Char → List Char → List Char → List Char → Prop
  | none : ClockText [] pairShape pairShape pairShape
  | hours {mark hours} : mark = 'T' ∨ mark = 't' → Shaped pairShape hours →
      ClockText (mark :: hours) hours pairShape pairShape
  | minutes {mark hours minutes} : mark = 'T' ∨ mark = 't' → Shaped pairShape hours →
      Shaped pairShape minutes →
      ClockText (mark :: (hours ++ ':' :: minutes)) hours minutes pairShape
  | seconds {mark hours minutes seconds} : mark = 'T' ∨ mark = 't' → Shaped pairShape hours →
      Shaped pairShape minutes → Shaped pairShape seconds →
      ClockText (mark :: (hours ++ ':' :: (minutes ++ ':' :: seconds))) hours minutes seconds

namespace ClockText

variable {time hours minutes seconds : List Char}

theorem shaped_pair : Shaped pairShape pairShape := .cons rfl (.cons rfl .nil)

theorem pairs (clock : ClockText time hours minutes seconds) : Shaped pairShape hours ∧
    Shaped pairShape minutes ∧ Shaped pairShape seconds := by
  cases clock with
  | none => exact ⟨shaped_pair, shaped_pair, shaped_pair⟩
  | hours _ hour => exact ⟨hour, shaped_pair, shaped_pair⟩
  | minutes _ hour minute => exact ⟨hour, minute, shaped_pair⟩
  | seconds _ hour minute second => exact ⟨hour, minute, second⟩

theorem exists_behind_colon {shape text : List Char}
    (shaped : Shaped (pairShape ++ ':' :: shape) text) :
    ∃ field rest, text = field ++ ':' :: rest ∧ Shaped pairShape field ∧ Shaped shape rest := by
  obtain ⟨field, behind, rfl, first, marked⟩ := shaped.exists_append
  obtain _ | ⟨colon, rest⟩ := marked
  cases of_decide_eq_true (p := _ = ':') colon
  exact ⟨field, _, rfl, first, rest⟩

theorem exists_of_shaped {count : Nat}
    (shaped : Shaped (Token.timeShapes.take count).flatten time) :
    ∃ hours minutes seconds, ClockText time hours minutes seconds := by
  have letter {mark : Char} (fits : Token.fitsShape 'T' mark = true) : mark = 'T' ∨ mark = 't' := by
    simpa [Token.fitsShape] using fits
  rcases count with _ | _ | _ | count
  · cases shaped
    exact ⟨_, _, _, .none⟩
  · obtain _ | ⟨mark, hours⟩ := shaped
    exact ⟨_, _, _, .hours (letter mark) hours⟩
  · obtain _ | ⟨mark, clock⟩ := shaped
    obtain ⟨hours, minutes, rfl, hour, minute⟩ := exists_behind_colon clock
    exact ⟨_, _, _, .minutes (letter mark) hour minute⟩
  · rw [List.take_of_length_le (Nat.le_add_left 3 count)] at shaped
    obtain _ | ⟨mark, clock⟩ := shaped
    obtain ⟨hours, rest, rfl, hour, behind⟩ := exists_behind_colon clock
    obtain ⟨minutes, seconds, rfl, minute, second⟩ := exists_behind_colon behind
    exact ⟨_, _, _, .seconds (letter mark) hour minute second⟩

theorem twoWide_of_pair {field : List Char} (shaped : Shaped pairShape field) :
    DateTime.twoWide field = field :=
  DateTime.twoWide_eq_self (Nat.le_of_eq shaped.length_eq)

/-- The reader parts the time of day where it was put together, and fills it up with zeros. -/
theorem exists_split (clock : ClockText time hours minutes seconds) :
    ∃ text, DateTime.splitAtT (time.flatMap DateTime.capitals) = ([], text) ∧
      ((DateTime.splitAtColons text).map DateTime.twoWide).getD 0 ['0', '0'] = hours ∧
      ((DateTime.splitAtColons text).map DateTime.twoWide).getD 1 ['0', '0'] = minutes ∧
      ((DateTime.splitAtColons text).map DateTime.twoWide).getD 2 ['0', '0'] = seconds := by
  have split {mark : Char} {text : List Char} (letter : mark = 'T' ∨ mark = 't')
      (plain : ∀ character ∈ text, character.isDigit = true ∨ character = ':') :
      DateTime.splitAtT ((mark :: text).flatMap DateTime.capitals) = ([], text) := by
    have capital : DateTime.capitals mark = ['T'] := by
      rcases letter with rfl | rfl <;> decide
    have kept : text.flatMap DateTime.capitals = text :=
      DateTime.flatMap_capitals fun character member =>
        DateTime.mem_textCharacters_of_plain (by decide) (plain character member)
    rw [List.flatMap_cons, capital, kept]
    rfl
  have unmarked {field : List Char} (shaped : Shaped pairShape field) : ':' ∉ field :=
    shaped.not_mem_of_pair rfl
  cases clock with
  | none => exact ⟨[], rfl, rfl, rfl, rfl⟩
  | hours letter hour =>
      refine ⟨_, split letter fun digit member => .inl (hour.isDigit_of_pair digit member), ?_⟩
      rw [DateTime.splitAtColons_self (unmarked hour), List.map_cons, twoWide_of_pair hour]
      exact ⟨rfl, rfl, rfl⟩
  | minutes letter hour minute =>
      refine ⟨_, split letter fun character member => ?_, ?_⟩
      · rcases List.mem_append.mp member with member | member
        · exact .inl (hour.isDigit_of_pair character member)
        · exact (List.mem_cons.mp member).symm.imp_left (minute.isDigit_of_pair character)
      · rw [DateTime.splitAtColons_append (unmarked hour),
          DateTime.splitAtColons_self (unmarked minute), List.map_cons, List.map_cons,
          twoWide_of_pair hour, twoWide_of_pair minute]
        exact ⟨rfl, rfl, rfl⟩
  | seconds letter hour minute second =>
      refine ⟨_, split letter fun character member => ?_, ?_⟩
      · simp only [List.mem_append, List.mem_cons] at member
        rcases member with member | rfl | member | rfl | member
        · exact .inl (hour.isDigit_of_pair character member)
        · exact .inr rfl
        · exact .inl (minute.isDigit_of_pair character member)
        · exact .inr rfl
        · exact .inl (second.isDigit_of_pair character member)
      · rw [DateTime.splitAtColons_append (unmarked hour),
          DateTime.splitAtColons_append (unmarked minute),
          DateTime.splitAtColons_self (unmarked second), List.map_cons, List.map_cons,
          List.map_cons, twoWide_of_pair hour, twoWide_of_pair minute, twoWide_of_pair second]
        exact ⟨rfl, rfl, rfl⟩

/-- The fields of the time of day stand in their places behind a date of ten characters. -/
theorem valueAt (clock : ClockText time hours minutes seconds) {date : List Char}
    (wide : date.length = 10) :
    Numeral.valueAt (date ++ time) 11 2 = Nat.ofDigitChars 10 hours 0 ∧
      Numeral.valueAt (date ++ time) 14 2 = Nat.ofDigitChars 10 minutes 0 ∧
      Numeral.valueAt (date ++ time) 17 2 = Nat.ofDigitChars 10 seconds 0 := by
  have behind (offset : Nat) : (date ++ time).drop (10 + offset) = time.drop offset := by
    rw [← wide, List.drop_length_add_append]
  simp only [Numeral.valueAt, behind 1, behind 4, behind 7]
  cases clock with
  | none => exact ⟨rfl, rfl, rfl⟩
  | hours _ hour =>
      obtain ⟨_, _, rfl, -, -⟩ := hour.exists_pair
      exact ⟨rfl, rfl, rfl⟩
  | minutes _ hour minute =>
      obtain ⟨_, _, rfl, -, -⟩ := hour.exists_pair
      obtain ⟨_, _, rfl, -, -⟩ := minute.exists_pair
      exact ⟨rfl, rfl, rfl⟩
  | seconds _ hour minute second =>
      obtain ⟨_, _, rfl, -, -⟩ := hour.exists_pair
      obtain ⟨_, _, rfl, -, -⟩ := minute.exists_pair
      obtain ⟨_, _, rfl, -, -⟩ := second.exists_pair
      exact ⟨rfl, rfl, rfl⟩

end ClockText

namespace DateTime

variable {moment : DateTime}

theorem dateOf?_eq_some_iff {year month day : Nat} {date : Date} :
    dateOf? year month day = some date ↔
      0 < year ∧ date.year = year ∧ date.month = month ∧ date.day = day := by
  rw [dateOf?]
  constructor
  · intro found
    split at found
    · rename_i positive
      unfold Date.of? at found
      split at found
      · cases found
        exact ⟨positive, rfl, rfl, rfl⟩
      · contradiction
    · contradiction
  · rintro ⟨positive, year, rfl, rfl⟩
    rw [if_pos positive, ← year]
    exact dif_pos ⟨⟨date.month_pos, date.month_le⟩, date.day_pos, date.day_le⟩

theorem readDate_eq_ok_iff {text : List Char} (shaped : Token.Shaped Token.dateShape text)
    {date : Date} : readDate text = .ok date ↔
      0 < Numeral.valueAt text 0 4 ∧ (date.year = Numeral.valueAt text 0 4 ∧
        date.month = Numeral.valueAt text 5 2 ∧ date.day = Numeral.valueAt text 8 2) := by
  have fields := calendarFields?_of_shaped shaped []
  rw [List.append_nil] at fields
  rw [← dateOf?_eq_some_iff]
  simp only [readDate, fields]
  generalize dateOf? _ _ _ = found
  cases found with
  | none => exact iff_of_false (by rintro ⟨⟩) (by rintro ⟨⟩)
  | some found =>
      exact ⟨fun same => congrArg some (Except.ok.inj same),
        fun same => congrArg Except.ok (Option.some.inj same)⟩

theorem timeOfDay_eq_some_iff {date : Date} {hour minute second : Nat} :
    (timeOfDay? hour minute second 0).bind (of? date) = some moment ↔
      moment.date = date ∧ moment.hour = hour ∧ moment.minute = minute ∧ moment.second = second ∧
        moment.microsecond = 0 := by
  constructor
  · intro found
    obtain ⟨sinceMidnight, timed, dated⟩ := Option.bind_eq_some_iff.mp found
    unfold timeOfDay? at timed
    split at timed
    · unfold of? at dated
      split at dated
      · cases timed
        cases dated
        refine ⟨rfl, ?_, ?_, ?_, ?_⟩ <;>
          simp only [DateTime.hour, DateTime.minute, DateTime.second, DateTime.microsecond] <;>
          omega
      · contradiction
    · contradiction
  · rintro ⟨rfl, rfl, rfl, rfl, whole⟩
    rw [← whole, timeOfDay?_eq, Option.bind_some, of?_eq_self]

theorem readTime?_of_pairs {hours minutes seconds : List Char}
    (hour : Shaped pairShape hours) (minute : Shaped pairShape minutes)
    (second : Shaped pairShape seconds) : readTime? hours minutes seconds =
      timeOfDay? (Nat.ofDigitChars 10 hours 0) (Nat.ofDigitChars 10 minutes 0)
        (Nat.ofDigitChars 10 seconds 0) 0 := by
  simp only [readTime?, twoDigits?, seconds?, hour.take?_of_pair, minute.take?_of_pair,
    second.take?_of_pair]
  rfl

/-- What the reader makes of a date whose time of day has been parted from it. -/
theorem read_eq_ok_iff_of_split {date time hours minutes seconds : List Char}
    (shaped : Shaped Token.dateShape date) (clock : ClockText time hours minutes seconds) :
    read (String.ofList (date ++ time)) = .ok moment ↔
      readDate date = .ok moment.date ∧ moment.hour = Nat.ofDigitChars 10 hours 0 ∧
        moment.minute = Nat.ofDigitChars 10 minutes 0 ∧
        moment.second = Nat.ofDigitChars 10 seconds 0 ∧ moment.microsecond = 0 := by
  obtain ⟨text, parted, hoursAt, minutesAt, secondsAt⟩ := clock.exists_split
  obtain ⟨hour, minute, second⟩ := clock.pairs
  have ascii : [date, hours, minutes, seconds].all isAscii = true := by
    refine List.all_eq_true.mpr fun field among => isAscii_of_plain fun character member => ?_
    simp only [List.mem_cons, List.not_mem_nil, or_false] at among
    rcases among with rfl | rfl | rfl | rfl
    · exact mem_textCharacters_of_plain (by decide) (plain_of_shaped shaped character member)
    · exact mem_textCharacters_of_isDigit (hour.isDigit_of_pair character member)
    · exact mem_textCharacters_of_isDigit (minute.isDigit_of_pair character member)
    · exact mem_textCharacters_of_isDigit (second.isDigit_of_pair character member)
  rw [read, String.toList_ofList, splitAtT_of_shaped shaped, parted, List.append_nil]
  simp only [hoursAt, minutesAt, secondsAt, hour.readInteger?_of_pair, ascii, Bool.not_true,
    Bool.false_eq_true, if_false, readTime?_of_pairs hour minute second]
  -- The hours are compared before the date is read, but no moment has such an hour either.
  by_cases late : 23 < (Nat.ofDigitChars 10 hours 0 : Int)
  · have bound := moment.bounds.1
    rw [if_pos late]
    exact iff_of_false (by rintro ⟨⟩) (by omega)
  · rw [if_neg late]
    cases readDate date with
    | error failure => exact iff_of_false (by rintro ⟨⟩) (by rintro ⟨⟨⟩, -⟩)
    | ok day =>
        dsimp only
        constructor
        · intro found
          split at found
          · rename_i timed
            cases found
            obtain ⟨same, clock⟩ := timeOfDay_eq_some_iff.mp timed
            exact ⟨congrArg Except.ok same.symm, clock⟩
          · contradiction
        · rintro ⟨same, clock⟩
          rw [timeOfDay_eq_some_iff.mpr ⟨(Except.ok.inj same).symm, clock⟩]

end DateTime

theorem Numeral.valueAt_append {text : List Char} {start width : Nat}
    (within : start + width ≤ text.length) (rest : List Char) :
    valueAt (text ++ rest) start width = valueAt text start width := by
  have remaining : width ≤ (text.drop start).length := by
    rw [List.length_drop]
    omega
  rw [valueAt, valueAt, List.drop_append_of_le_length (by omega),
    List.take_append_of_le_length remaining]

namespace DateFields

variable {lexeme : List Char}

/-- A date of an expression is read as the moment that has its numbers, and as nothing else. -/
theorem read_eq_ok_iff (dated : Token.Dated lexeme) {moment : DateTime} :
    DateTime.read (String.ofList lexeme) = .ok moment ↔ (ofText lexeme).MomentOf moment := by
  obtain ⟨count, shaped⟩ := Token.dated_iff.mp dated
  obtain ⟨date, time, rfl, dateShaped, timeShaped⟩ := shaped.exists_append
  obtain ⟨hours, minutes, seconds, clock⟩ := ClockText.exists_of_shaped timeShaped
  have wide : date.length = 10 := dateShaped.length_eq.symm
  obtain ⟨hoursAt, minutesAt, secondsAt⟩ := clock.valueAt wide
  have year := Numeral.valueAt_append (show 0 + 4 ≤ date.length by omega) time
  have month := Numeral.valueAt_append (show 5 + 2 ≤ date.length by omega) time
  have day := Numeral.valueAt_append (show 8 + 2 ≤ date.length by omega) time
  rw [DateTime.read_eq_ok_iff_of_split dateShaped clock, DateTime.readDate_eq_ok_iff dateShaped,
    ← hoursAt, ← minutesAt, ← secondsAt, ← year, ← month, ← day]
  constructor
  · rintro ⟨⟨-, year, month, day⟩, hour, minute, second, microsecond⟩
    exact ⟨⟨year, month, day⟩, hour, minute, second, microsecond⟩
  · rintro ⟨⟨year, month, day⟩, hour, minute, second, microsecond⟩
    have positive := moment.year_pos
    rw [year] at positive
    exact ⟨⟨Int.natCast_pos.mp positive, year, month, day⟩, hour, minute, second, microsecond⟩

theorem year_ofText_le (dated : Token.Dated lexeme) : (ofText lexeme).year ≤ 9999 := by
  obtain ⟨count, shaped⟩ := Token.dated_iff.mp dated
  obtain ⟨year, rest, rfl, digits, -⟩ :=
    (show Shaped (['0', '0', '0', '0'] ++ _) lexeme from shaped).exists_append
  have ascii : ∀ digit ∈ year, digit.isDigit = true := by
    intro digit member
    obtain ⟨place, inside, fits⟩ := digits.exists_place member
    cases List.eq_of_mem_replicate (n := 4) inside
    exact fits
  have wide : year.length = 4 := digits.length_eq.symm
  have bound := Numeral.value_lt year
  rw [Numeral.value_eq_ofDigitChars ascii, wide] at bound
  have whole : (ofText (year ++ rest)).year = Nat.ofDigitChars 10 year 0 := by
    change Numeral.valueAt (year ++ rest) 0 4 = _
    rw [Numeral.valueAt, List.drop_zero, ← wide, List.take_left]
  rw [whole]
  exact Nat.le_of_lt_succ bound

end DateFields

namespace Token

/-- What a rule makes of the text from a position on: the token and the cursor behind its lexeme. -/
def claimAt (rule : Recognizer) (before : Option Token) (text : String) (position : Nat) :
    Except Failure (Option (Token × Nat)) :=
  match rule before (text.toList.drop position) with
  | .error misreading => .error (misreading.at position)
  | .ok found => .ok (found.map fun found => (found.token, position + found.lexeme.length))

/-- What the rule for dates may make of the text from a position on. -/
inductive DateClaim (text : String) (position : Nat) : Except Failure (Option (Token × Nat)) → Prop
  | none : (¬∃ lexeme, lexeme <+: text.toList.drop position ∧ Dated lexeme) →
      DateClaim text position (.ok none)
  | impossible {lexeme} : LongestDate (text.toList.drop position) lexeme →
      ¬(DateFields.ofText lexeme).Possible →
      DateClaim text position (.error (.lexical .date (String.ofList lexeme) position))
  | moment {lexeme moment} : LongestDate (text.toList.drop position) lexeme →
      (DateFields.ofText lexeme).Possible → (DateFields.ofText lexeme).MomentOf moment →
      DateClaim text position
        (.ok (some (.literal (.dateTime moment), position + lexeme.length)))

theorem claimAt_date_of_some {text : String} {position : Nat} {lexeme rest : List Char}
    (found : splitDate? (text.toList.drop position) = some (lexeme, rest))
    (before : Option Token) : claimAt recognizeDate before text position =
      match DateTime.read (String.ofList lexeme) with
      | .ok moment => .ok (some (.literal (.dateTime moment), position + lexeme.length))
      | .error _ => .error (.lexical .date (String.ofList lexeme) position) := by
  rw [claimAt, recognizeDate_eq, Category.rule_of_some found]
  simp only [dates]
  cases DateTime.read (String.ofList lexeme) <;> rfl

theorem dateClaim_claimAt (before : Option Token) (text : String) (position : Nat) :
    DateClaim text position (claimAt recognizeDate before text position) := by
  cases found : splitDate? (text.toList.drop position) with
  | none =>
      rw [claimAt, recognizeDate_eq, Category.rule_of_none found]
      exact .none (not_dated_of_splitDate?_eq_none found)
  | some parts =>
      obtain ⟨lexeme, rest⟩ := parts
      have longest := longestDate_of_splitDate? found
      have dated := longest.dated
      rw [claimAt_date_of_some found]
      by_cases possible : (DateFields.ofText lexeme).Possible
      · obtain ⟨moment, told⟩ := possible.exists_moment (DateFields.year_ofText_le dated)
        rw [(DateFields.read_eq_ok_iff dated).mpr told]
        exact .moment longest possible told
      · cases reads : DateTime.read (String.ofList lexeme) with
        | error _ => exact .impossible longest possible
        | ok moment => exact absurd ((DateFields.read_eq_ok_iff dated).mp reads).possible possible

/-- The rule for dates is exact, wherever it is tried. It declines if and only if no date stands
there. It finds a lexeme at fault if and only if that is the longest date there and there is no such
day or time of day. And if and only if there is, it claims the longest date as the moment with the
numbers that stand in their places, and the cursor moves behind it. -/
theorem recognizeDate_exact (before : Option Token) (text : String) (position : Nat) :
    (claimAt recognizeDate before text position = .ok none ↔
      ¬∃ lexeme, lexeme <+: text.toList.drop position ∧ Dated lexeme) ∧
    ∀ lexeme,
      (claimAt recognizeDate before text position =
          .error (.lexical .date (String.ofList lexeme) position) ↔
        LongestDate (text.toList.drop position) lexeme ∧
          ¬(DateFields.ofText lexeme).Possible) ∧
      ((lexeme <+: text.toList.drop position ∧
          ∃ moment, (DateFields.ofText lexeme).MomentOf moment ∧
            claimAt recognizeDate before text position =
              .ok (some (.literal (.dateTime moment), position + lexeme.length))) ↔
        LongestDate (text.toList.drop position) lexeme ∧
          (DateFields.ofText lexeme).Possible) := by
  have claim := dateClaim_claimAt before text position
  generalize claimAt recognizeDate before text position = outcome at claim
  cases claim with
  | none nowhere =>
      have undated {lexeme : List Char} : ¬LongestDate (text.toList.drop position) lexeme :=
        fun longest => nowhere ⟨lexeme, longest.leading, longest.dated⟩
      refine ⟨iff_of_true rfl nowhere, fun lexeme => ⟨?_, ?_⟩⟩
      · exact iff_of_false (by rintro ⟨⟩) fun both => undated both.1
      · exact iff_of_false (by rintro ⟨-, moment, -, ⟨⟩⟩) fun both => undated both.1
  | @impossible claimed longest impossible =>
      have somewhere : ∃ lexeme, lexeme <+: text.toList.drop position ∧ Dated lexeme :=
        ⟨claimed, longest.leading, longest.dated⟩
      refine ⟨iff_of_false (by rintro ⟨⟩) (not_not_intro somewhere),
        fun lexeme => ⟨⟨fun same => ?_, ?_⟩, ?_⟩⟩
      · injection same with same
        injection same with _ texts
        rw [← String.ofList_injective texts]
        exact ⟨longest, impossible⟩
      · rintro ⟨other, -⟩
        rw [longest.unique other]
      · refine iff_of_false (by rintro ⟨-, moment, -, ⟨⟩⟩) fun ⟨other, possible⟩ => ?_
        exact impossible (longest.unique other ▸ possible)
  | @moment claimed moment longest possible told =>
      have somewhere : ∃ lexeme, lexeme <+: text.toList.drop position ∧ Dated lexeme :=
        ⟨claimed, longest.leading, longest.dated⟩
      refine ⟨iff_of_false (by rintro ⟨⟩) (not_not_intro somewhere), fun lexeme => ⟨?_, ?_, ?_⟩⟩
      · refine iff_of_false (by rintro ⟨⟩) fun ⟨other, impossible⟩ => ?_
        exact impossible (longest.unique other ▸ possible)
      · rintro ⟨leading, other, -, same⟩
        injection same with same
        injection same with same
        injection same with _ cursors
        rw [eq_of_leading leading longest.leading (by omega)]
        exact ⟨longest, possible⟩
      · rintro ⟨other, -⟩
        rw [← longest.unique other]
        exact ⟨longest.leading, moment, told, rfl⟩

end Token

end DateCalculator
