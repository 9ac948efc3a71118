import DateCalculator.CommandLine
import DateCalculator.Datum
import DateCalculator.Main
import DateCalculator.Proofs.Conversion
import DateCalculator.Proofs.EvaluationRun
import DateCalculator.Proofs.StackEvaluation
import DateCalculator.Proofs.OffsetCarry
import DateCalculator.Proofs.ShiftOutcome
import DateCalculator.Proofs.Conservation
import DateCalculator.Proofs.OperandOrder
import DateCalculator.Proofs.Derivability
import DateCalculator.Proofs.Juxtaposition
import DateCalculator.Proofs.UnreportedFailures
import DateCalculator.Proofs.CalendarShift
import DateCalculator.Proofs.Segmentation
import DateCalculator.Proofs.LexicalCategory
import DateCalculator.Proofs.LexemeBoundary
import DateCalculator.Proofs.LexemeCut
import DateCalculator.Proofs.FaithfulSegmentation
import DateCalculator.Proofs.LexemeConcatenation
import DateCalculator.Proofs.RuleFailure
import DateCalculator.Proofs.FailurePosition
import DateCalculator.Proofs.PrintableTokens
import DateCalculator.Proofs.FaultPosition
import DateCalculator.Proofs.UnmatchedParentheses
import DateCalculator.Proofs.Enclosure
import DateCalculator.Proofs.KindInference
import DateCalculator.Proofs.ClockReadings
import DateCalculator.Proofs.TokenDiscipline
import DateCalculator.Proofs.DurationSpelling
import DateCalculator.Proofs.DurationReading
import DateCalculator.Proofs.DurationRoundTrip
import DateCalculator.Proofs.GreedyBalance
import DateCalculator.Proofs.DurationSum
import DateCalculator.Proofs.DoubleForm
import DateCalculator.Proofs.ExactRounding
import DateCalculator.Proofs.WholeDouble
import DateCalculator.Proofs.DurationScaling
import DateCalculator.Proofs.WellFormedValues
import DateCalculator.Proofs.DateTimeText
import DateCalculator.Proofs.PrintedInput
import DateCalculator.Proofs.ExactShift
import DateCalculator.Proofs.DateDifference
import DateCalculator.Proofs.ShiftDirection
import DateCalculator.Proofs.ExpressionLetters
import DateCalculator.Proofs.RuleOrder
import DateCalculator.Proofs.ExpressionArgument
import DateCalculator.Proofs.LongestDate
import DateCalculator.Proofs.DateRecognition
import DateCalculator.Proofs.DateTimeOrder
import DateCalculator.Proofs.OperationOutcome
import DateCalculator.Proofs.DurationRounding
import DateCalculator.Proofs.GreedyUniqueness
import DateCalculator.Proofs.FinerUnits
import DateCalculator.Proofs.DisplayedAmounts
import DateCalculator.Proofs.DurationDisplay
import DateCalculator.Proofs.RoundingInterval
import DateCalculator.Proofs.ShortestDecimal
import DateCalculator.Proofs.NumberLayout
