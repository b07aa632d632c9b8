import SpanQuery.Interval

namespace SpanQuery

inductive OperandFault where
  | noTokens
  | endOfText
  | character (c : Char)
  | numeral (lexeme : String)
  | unexpected (lexeme : String)
  | noOperatorBefore (lexeme : String)
  | noOperandBefore (lexeme : String)
  | tooDeep (limit : Nat)
  deriving Repr, DecidableEq

def OperandFault.message : OperandFault → String
  | noTokens => "empty expression"
  | endOfText => "unexpected end of expression"
  | character c => "unexpected character '" ++ c.toString ++ "'"
  | numeral lexeme => "invalid numeric literal '" ++ lexeme ++ "'"
  | unexpected lexeme => "unexpected '" ++ lexeme ++ "'"
  | noOperatorBefore lexeme => "expected an operator before '" ++ lexeme ++ "'"
  | noOperandBefore lexeme => "missing operand before '" ++ lexeme ++ "'"
  | tooDeep limit => "expression nested deeper than " ++ toString limit ++ " levels"

/-- Faults of a query text; offsets count the bytes before the fault. -/
inductive SyntaxError where
  | unbalancedParentheses (offset : Nat)
  | unknownOperator (operator : String) (offset : Nat)
  | malformedOperand (offset : Nat) (fault : OperandFault)
  deriving Repr, DecidableEq

namespace SyntaxError

def offset : SyntaxError → Nat
  | unbalancedParentheses offset => offset
  | unknownOperator _ offset => offset
  | malformedOperand offset _ => offset

def message : SyntaxError → String
  | unbalancedParentheses offset => "unbalanced parentheses at offset " ++ toString offset
  | unknownOperator operator offset =>
      "unknown operator '" ++ operator ++ "' at offset " ++ toString offset
  | malformedOperand offset fault =>
      "malformed operand at offset " ++ toString offset ++ ": " ++ fault.message

end SyntaxError

inductive EvaluationError where
  /-- The variable has no sample at or before the start of the window. -/
  | unknownVariable (name : String) (t0 : Tick)
  | divisionByZero (start stop : Tick)
  | typeMismatch (operator : String) (expected found : ValueKind)
  | unsupportedFunction (name : String)
  deriving Repr, DecidableEq

def EvaluationError.message : EvaluationError → String
  | unknownVariable name t0 =>
      "unknown variable " ++ name ++ ": no sample at or before " ++ Tick.text t0
  | divisionByZero start stop =>
      "division by zero in [" ++ Tick.text start ++ ", " ++ Tick.text stop ++ ")"
  | typeMismatch operator expected found =>
      "type mismatch: '" ++ operator ++ "' expects " ++ expected.text ++ " operands, found " ++
        found.text
  | unsupportedFunction name => "unsupported function: " ++ name

inductive FetchError where
  | variableNotFound (name : String)
  | unavailable (reason : String)
  | io (cause : String)
  | records (cause : String)
  | cellType
  /-- A database that cannot answer: a missing table, or no database at all. -/
  | database
  deriving Repr, DecidableEq

namespace FetchError

def cause? : FetchError → Option String
  | variableNotFound _ | unavailable _ => none
  | io cause | records cause => some cause
  | cellType => some "Invalid column type"
  | database => some "the database cannot answer"

def message (e : FetchError) : String :=
  let cause := e.cause?.getD ""
  match e with
  | variableNotFound name => "Variable not found: " ++ name
  | unavailable reason => "Archive unavailable: " ++ reason
  | io _ => "IO error: " ++ cause
  | records _ => "CSV error: " ++ cause
  | cellType | database => "SQLite error: " ++ cause

end FetchError

inductive TimeError where
  | malformed (text : String)
  /-- The clocks of the zone show the time never, or more than once. -/
  | doubtful (time zone : String)
  | unknownZone (name : String)
  | outOfRange (instant : Int)
  deriving Repr, DecidableEq

def TimeError.message : TimeError → String
  | malformed text =>
      "invalid time '" ++ text ++ "': expected yyyy-mm-dd HH:MM[:SS][+0.X] or a tick count"
  | doubtful time zone =>
      "local time '" ++ time ++ "' does not exist or is ambiguous in " ++ zone
  | unknownZone name => "unknown time zone '" ++ name ++ "'"
  | outOfRange instant => "timestamp " ++ toString instant ++ " is out of range"

inductive QueryError where
  | syntactic (e : SyntaxError)
  | evaluation (e : EvaluationError)
  | fetch (e : FetchError)
  deriving Repr, DecidableEq

namespace QueryError

def message : QueryError → String
  | syntactic e => "Syntax error: " ++ e.message
  | evaluation e => "Evaluation error: " ++ e.message
  | fetch e => "Fetch error: " ++ e.message

def causes : QueryError → List String
  | syntactic e => [e.message]
  | evaluation e => [e.message]
  | fetch e => e.message :: e.cause?.toList

end QueryError

end SpanQuery
