import OneUnknown.Main
import OneUnknown.Polynomial.Text
import OneUnknown.Proofs.Grammar.Meaning
import OneUnknown.Proofs.Grammar.Reading
import OneUnknown.Proofs.Integer.TrialDivision
import OneUnknown.Proofs.Number.Arithmetic
import OneUnknown.Proofs.Number.Binary64
import OneUnknown.Proofs.Number.Numeral
import OneUnknown.Proofs.Number.ShortDecimal
import OneUnknown.Proofs.Number.Sign
import OneUnknown.Proofs.Number.Whole
import OneUnknown.Proofs.Polynomial.Coefficients
import OneUnknown.Proofs.Polynomial.Evaluation
import OneUnknown.Proofs.Quadratic.Exact
import OneUnknown.Proofs.Quadratic.Proportional
import OneUnknown.Proofs.Quadratic.Rational
import OneUnknown.Proofs.Radical.Canonical
import OneUnknown.Proofs.Radical.Text
import OneUnknown.Proofs.Radical.Value
import OneUnknown.Proofs.Radical.Wide
import OneUnknown.Proofs.Solver.Undefined
import OneUnknown.Proofs.Token.Literal
import OneUnknown.Proofs.Token.Row
import OneUnknown.Proofs.Token.Spelling
import OneUnknown.Proofs.Polynomial.Reading
import OneUnknown.Proofs.Token.Language
import OneUnknown.Proofs.Descent.Bounds
import OneUnknown.Proofs.Quadratic.Kind
import OneUnknown.Proofs.Solver.TextCheck
import OneUnknown.Proofs.Shell.Session
import OneUnknown.Proofs.Shell.Named
import OneUnknown.Proofs.Shell.Shadow
import OneUnknown.Proofs.Solver.NonFinite
import OneUnknown.Proofs.Batch.ReadBack
import OneUnknown.Proofs.Batch.Report
import OneUnknown.Proofs.CommandLine.Loading
import OneUnknown.Proofs.CommandLine.Outcome
import OneUnknown.Proofs.Settings.RoundTrip
import OneUnknown.Proofs.Equation.Limit
import OneUnknown.Proofs.Equation.Renaming
import OneUnknown.Proofs.Equation.Spacing
import OneUnknown.Proofs.Quadratic.Words
import OneUnknown.Proofs.Radical.Faithful
import OneUnknown.Proofs.Equation.ZeroSide
import OneUnknown.Proofs.Polynomial.Construction
import OneUnknown.Proofs.Polynomial.Derivative
