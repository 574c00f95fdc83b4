import ArithQuiz.Command.Run
import ArithQuiz.Config.Encode
import ArithQuiz.Json.Parse
import ArithQuiz.Json.ValueSource
import ArithQuiz.Main
import ArithQuiz.Proofs.Expr.Tiers
import ArithQuiz.Proofs.Decimal.Numeral
import ArithQuiz.Proofs.Decimal.Notation
import ArithQuiz.Proofs.Decimal.Canonical
import ArithQuiz.Proofs.Expr.Grammar
import ArithQuiz.Proofs.Expr.Solve
import ArithQuiz.Proofs.Expr.Rules
import ArithQuiz.Proofs.Expr.SelfDivision
import ArithQuiz.Proofs.Quiz.Tokens
import ArithQuiz.Proofs.Quiz.Assembly
import ArithQuiz.Proofs.Quiz.Generation
import ArithQuiz.Proofs.Quiz.Draws
import ArithQuiz.Proofs.Quiz.Validated
import ArithQuiz.Proofs.Quiz.TokenTree
import ArithQuiz.Proofs.Quiz.Literal
import ArithQuiz.Proofs.Quiz.Preconditions
import ArithQuiz.Proofs.Quiz.Placement
import ArithQuiz.Proofs.Expr.Cuts
import ArithQuiz.Proofs.Expr.Built
import ArithQuiz.Proofs.Expr.Recursion
import ArithQuiz.Proofs.Quiz.Retry
