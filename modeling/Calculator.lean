import Calculator.Grammar
import Calculator.Main
import Calculator.Session
import Calculator.Proofs.Context
import Calculator.Proofs.Reading
import Calculator.Proofs.ViablePrefix
import Calculator.Proofs.Scan
import Calculator.Proofs.Walk
import Calculator.Proofs.Simulation
import Calculator.Proofs.SourceReading
import Calculator.Proofs.Evaluator
import Calculator.Proofs.UnknownOperator
import Calculator.Proofs.OpenGroups
import Calculator.Proofs.SyntaxFault
import Calculator.Proofs.Standing
import Calculator.Proofs.ScannedPart
import Calculator.Proofs.NestingLimit
import Calculator.Proofs.PrintedResult
import Calculator.Proofs.Substitution
import Calculator.Proofs.ReadBack
import Calculator.Proofs.Runs
import Calculator.Proofs.Extent
import Calculator.Proofs.GroupCount
import Calculator.Proofs.Prompt
import Calculator.Proofs.EventLog
import Calculator.Proofs.Unforgeable
import Calculator.Proofs.Verbosity
import Calculator.Proofs.OneShot
import Calculator.Proofs.Partition
import Calculator.Proofs.Rendering
import Calculator.Proofs.LookAhead
import Calculator.Proofs.Depth
import Calculator.Proofs.Contracts
import Calculator.Proofs.Progress
import Calculator.Proofs.Conversion
import Calculator.Proofs.ResultText
import Calculator.Proofs.FactorialLoop
import Calculator.Proofs.Remainder
import Calculator.Proofs.Normalization
