import DateCalculator.Proofs.LexemeBoundary

/-!
The longest date. The splitting takes a date and after it one part of a time of day after the other,
as long as they fit. That is the longest of all dates that stand in front of the text, whichever of
the four forms it has.
-/

namespace DateCalculator

namespace Token

/-- The forms of a date in an expression, as shapes: a digit for each `0`, `T` in either case. -/
def dateForms : List String :=
  ["0000-00-00", "0000-00-00T00", "0000-00-00T00:00", "0000-00-00T00:00:00"]

def Dated (lexeme : List Char) : Prop := ∃ form ∈ dateForms, Shaped form.toList lexeme

structure LongestDate (text lexeme : List Char) : Prop where
  leading : lexeme <+: text
  dated : Dated lexeme
  longest : ∀ other, other <+: text → Dated other → other.length ≤ lexeme.length

section Longest

variable {text lexeme rest : List Char}

theorem eq_of_leading {other : List Char} (leading : lexeme <+: text)
    (otherLeading : other <+: text) (same : lexeme.length = other.length) : lexeme = other :=
  (List.prefix_of_prefix_length_le leading otherLeading (Nat.le_of_eq same)).eq_of_length same

theorem LongestDate.unique {other : List Char} (first : LongestDate text lexeme)
    (second : LongestDate text other) : lexeme = other :=
  eq_of_leading first.leading second.leading
    (Nat.le_antisymm (second.longest lexeme first.leading first.dated)
      (first.longest other second.leading second.dated))

/-- The splitting takes some of the shapes, from the first one on. -/
theorem exists_shaped_splitShapes (shapes : List (List Char)) (text : List Char) :
    ∃ count, Shaped (shapes.take count).flatten (splitShapes shapes text).1 := by
  induction shapes generalizing text with
  | nil => exact ⟨0, .nil⟩
  | cons shape shapes ih =>
      cases found : splitShape? shape text with
      | none =>
          rw [splitShapes_of_none found]
          exact ⟨0, .nil⟩
      | some parts =>
          obtain ⟨count, shaped⟩ := ih parts.2
          rw [splitShapes_of_some found]
          exact ⟨count + 1, (splitShape?_eq_some_iff.mp found).2.append shaped⟩

/-- Nothing in front of the text has more of the shapes than what the splitting takes. -/
theorem length_le_splitShapes {shapes : List (List Char)} {other : List Char} {count : Nat}
    (leading : other <+: text) (shaped : Shaped (shapes.take count).flatten other) :
    other.length ≤ (splitShapes shapes text).1.length := by
  induction shapes generalizing text other count with
  | nil =>
      rw [List.take_nil] at shaped
      cases shaped
      exact Nat.zero_le _
  | cons shape shapes ih =>
      cases count with
      | zero =>
          cases shaped
          exact Nat.zero_le _
      | succ count =>
          obtain ⟨start, more, rfl, first, second⟩ := shaped.exists_append
          obtain ⟨rest, rfl⟩ := leading
          -- The splitting takes the same first shape, so what is behind it decides.
          have found : splitShape? shape (start ++ more ++ rest) = some (start, more ++ rest) :=
            splitShape?_eq_some_iff.mpr ⟨(List.append_assoc ..).symm, first⟩
          have later := ih (List.prefix_append more rest) second
          rw [splitShapes_of_some found, List.length_append, List.length_append]
          omega

theorem dated_iff :
    Dated lexeme ↔ ∃ count, Shaped (dateShape ++ (timeShapes.take count).flatten) lexeme := by
  constructor
  · rintro ⟨form, member, shaped⟩
    simp only [dateForms, List.mem_cons, List.not_mem_nil, or_false] at member
    rcases member with rfl | rfl | rfl | rfl
    · exact ⟨0, shaped⟩
    · exact ⟨1, shaped⟩
    · exact ⟨2, shaped⟩
    · exact ⟨3, shaped⟩
  · rintro ⟨count, shaped⟩
    rcases count with _ | _ | _ | count
    · exact ⟨"0000-00-00", by simp [dateForms], shaped⟩
    · exact ⟨"0000-00-00T00", by simp [dateForms], shaped⟩
    · exact ⟨"0000-00-00T00:00", by simp [dateForms], shaped⟩
    · rw [List.take_of_length_le (Nat.le_add_left 3 count)] at shaped
      exact ⟨"0000-00-00T00:00:00", by simp [dateForms], shaped⟩

theorem longestDate_of_splitDate? (found : splitDate? text = some (lexeme, rest)) :
    LongestDate text lexeme := by
  obtain ⟨⟨date, afterDate⟩, split, same⟩ := Option.map_eq_some_iff.mp found
  cases same
  obtain ⟨rfl, shaped⟩ := splitShape?_eq_some_iff.mp split
  refine ⟨⟨_, append_of_splitDate? found⟩, ?_, fun other leading dated => ?_⟩
  · obtain ⟨count, time⟩ := exists_shaped_splitShapes timeShapes afterDate
    exact dated_iff.mpr ⟨count, shaped.append time⟩
  · obtain ⟨count, otherShaped⟩ := dated_iff.mp dated
    obtain ⟨start, more, rfl, first, second⟩ := otherShaped.exists_append
    have same : start = date :=
      eq_of_leading ((List.prefix_append start more).trans leading) (List.prefix_append date _)
        (first.length_eq.symm.trans shaped.length_eq)
    subst same
    have behind := length_le_splitShapes ((List.prefix_append_right_inj start).mp leading) second
    simp only [List.length_append]
    omega

theorem not_dated_of_splitDate?_eq_none (declined : splitDate? text = none) :
    ¬∃ lexeme, lexeme <+: text ∧ Dated lexeme := by
  rintro ⟨lexeme, ⟨rest, rfl⟩, dated⟩
  obtain ⟨count, shaped⟩ := dated_iff.mp dated
  obtain ⟨date, time, rfl, first, -⟩ := shaped.exists_append
  have found : splitShape? dateShape (date ++ time ++ rest) = some (date, time ++ rest) :=
    splitShape?_eq_some_iff.mpr ⟨(List.append_assoc ..).symm, first⟩
  rw [splitDate?_eq_none_iff.mp declined] at found
  contradiction

end Longest

end Token

end DateCalculator
