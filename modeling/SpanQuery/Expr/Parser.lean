import SpanQuery.Token

/-!
# Grouping tokens into an expression

Prefix operators bind tightest; infix operators group by precedence, equal ones to the left. The
parser goes over the tokens once. What is read but not complete stands on a stack of frames, one
for every expression that a later token has to end, so nothing about a text is remembered but the
stack, the level of the innermost expression and the signs before its operand.

An open expression and a sign that waits for its operand each count as one level of nesting; more
than `maxNesting` levels, or a tree deeper than that, are refused.
-/

namespace SpanQuery.Parser

/-- The deepest tree, and the deepest nesting of open expressions and signs. -/
def maxNesting : Nat := 256

def tooDeep (offset : Nat) : SyntaxError :=
  .malformedOperand offset (.tooDeep maxNesting)

/-- An expression with its depth, which is kept along so that long chains are not measured again
and again. -/
structure Measured where
  expr : Expr
  depth : Nat

namespace Measured

def leaf (e : Expr) : Measured := ⟨e, 1⟩

def bounded (m : Measured) (offset : Nat) : Except SyntaxError Measured :=
  if maxNesting < m.depth then .error (tooDeep offset) else .ok m

/-- A sign before a number belongs to the number. -/
def unary (op : UnaryOp) (operand : Measured) (offset : Nat) : Except SyntaxError Measured :=
  match op, operand.expr with
  | .neg, .literal v => .ok (leaf (.literal (-v)))
  | .plus, .literal v => .ok (leaf (.literal v))
  | op, e => bounded ⟨.unary op e, 1 + operand.depth⟩ offset

def binary (op : BinaryOp) (left right : Measured) (offset : Nat) :
    Except SyntaxError Measured :=
  bounded ⟨.binary op left.expr right.expr, 1 + max left.depth right.depth⟩ offset

def call (name : String) (args : List Measured) (offset : Nat) : Except SyntaxError Measured :=
  bounded ⟨.call name (args.map expr), 1 + (args.map depth).foldr max 0⟩ offset

end Measured

structure Sign where
  op : UnaryOp
  offset : Nat
  deriving Repr, DecidableEq

/-- The least precedence that continues an open expression, and the signs before the operand that
is being read, the innermost first. -/
structure Level where
  least : Nat
  signs : List Sign
  deriving Repr, DecidableEq

/-- What waits for the innermost open expression to end. -/
inductive Frame where
  /-- The expression is the right operand of `op` in one that stands at `least`. -/
  | right (least : Nat) (left : Measured) (op : BinaryOp) (offset : Nat)
  | paren (outer : Level) (opening : Nat)
  /-- The expression is an argument; the earlier ones are kept, the latest first. -/
  | call (outer : Level) (name : String) (opening : Nat) (args : List Measured)

inductive Phase where
  | expression (least : Nat)
  | operand (level : Level)
  /-- A parenthesis right at the end of a name, or anything that may follow a variable. -/
  | afterName (level : Level) (name : String) (stop : Nat)
  | firstArgument (level : Level) (name : String) (opening : Nat)
  | operator (least : Nat) (left : Measured)

structure State where
  stack : List Frame
  nesting : Nat
  phase : Phase
  previous : Option Token

namespace State

def initial : State :=
  ⟨[], 0, .expression 1, none⟩

/-- Attaches the signs to a complete operand; each one leaves a level of nesting. -/
def applySigns : List Sign → Measured → Nat → Except SyntaxError (Measured × Nat)
  | [], m, nesting => .ok (m, nesting)
  | sign :: signs, m, nesting => do
      let m ← m.unary sign.op sign.offset
      applySigns signs m (nesting - 1)

def complete (s : State) (level : Level) (m : Measured) : Except SyntaxError State := do
  let (m, nesting) ← applySigns level.signs m s.nesting
  .ok { s with nesting, phase := .operator level.least m }

def enter (s : State) (offset : Nat) : Except SyntaxError State :=
  if maxNesting < s.nesting + 1 then .error (tooDeep offset)
  else .ok { s with nesting := s.nesting + 1 }

/-- The fault of an operator that is no prefix operator where an operand should start. Right
behind another operator the two look like one operator that does not exist. -/
def misplaced (previous : Option Token) (t : Token) : SyntaxError :=
  match previous with
  | some p =>
      if p.kind.isOperator && p.stop = t.offset then
        .unknownOperator (String.ofList (p.lexeme ++ t.lexeme)) p.offset
      else .malformedOperand t.offset (.noOperandBefore t.text)
  | none => .malformedOperand t.offset (.noOperandBefore t.text)

def startOperand (s : State) (level : Level) (t : Token) : Except SyntaxError State :=
  match t.kind with
  | .number v => s.complete level (.leaf (.literal v))
  | .name name => .ok { s with phase := .afterName level name t.stop }
  | .leftParen => .ok { s with stack := .paren level t.offset :: s.stack, phase := .expression 1 }
  | .symbol _ | .bang =>
      match t.kind.unaryOp? with
      | some op =>
          .ok { s with phase := .operand { level with signs := ⟨op, t.offset⟩ :: level.signs } }
      | none => .error (misplaced s.previous t)
  | .rightParen | .comma => .error (.malformedOperand t.offset (.noOperandBefore t.text))

/-- Ends every open expression that an operator of the given precedence does not continue: its
value becomes the right operand of the operator before it. No operator has precedence zero, which
ends all expressions up to the innermost parenthesis. -/
def settle (precedence : Nat) : List Frame → Nat → Nat → Measured →
    Except SyntaxError (List Frame × Nat × Nat × Measured)
  | .right outer left op offset :: stack, nesting, least, m =>
      if least ≤ precedence then .ok (.right outer left op offset :: stack, nesting, least, m)
      else do
        let m ← Measured.binary op left m offset
        settle precedence stack (nesting - 1) outer m
  | stack, nesting, least, m => .ok (stack, nesting, least, m)

def leave (s : State) (stack : List Frame) (nesting : Nat) (m : Measured) (t : Token) :
    Except SyntaxError State :=
  let outer : State := { s with stack := stack.tail, nesting := nesting - 1 }
  match stack, t.kind with
  | .paren level _ :: _, .rightParen => outer.complete level m
  | .call level name opening args :: _, .rightParen => do
      let m ← Measured.call name (m :: args).reverse (opening - name.utf8ByteSize)
      outer.complete level m
  | .call level name opening args :: stack, .comma =>
      .ok { outer with stack := .call level name opening (m :: args) :: stack, phase := .expression 1 }
  | [], .rightParen => .error (.unbalancedParentheses t.offset)
  | _, _ => .error (.malformedOperand t.offset (.unexpected t.text))

def close (s : State) (least : Nat) (m : Measured) (t : Token) : Except SyntaxError State := do
  let (stack, nesting, _, m) ← settle 0 s.stack s.nesting least m
  s.leave stack nesting m t

def afterOperand (s : State) (least : Nat) (m : Measured) (t : Token) :
    Except SyntaxError State :=
  match t.kind with
  | .symbol op => do
      let (stack, nesting, least, m) ← settle op.precedence s.stack s.nesting least m
      .ok { s with
        stack := .right least m op t.offset :: stack
        nesting
        phase := .expression (op.precedence + 1) }
  | .bang => .error (.unknownOperator t.text t.offset)
  | .rightParen | .comma => s.close least m t
  | .number _ | .name _ | .leftParen =>
      .error (.malformedOperand t.offset (.noOperatorBefore t.text))

def read (s : State) (t : Token) : Except SyntaxError State :=
  match s.phase with
  | .expression least => do
      let s ← s.enter t.offset
      s.startOperand ⟨least, []⟩ t
  | .operand level => do
      let s ← s.enter t.offset
      s.startOperand level t
  | .afterName level name stop =>
      if t.kind.isLeftParen && t.offset = stop then
        .ok { s with phase := .firstArgument level name t.offset }
      else do
        let (m, nesting) ← applySigns level.signs (.leaf (.variable name)) s.nesting
        { s with nesting }.afterOperand level.least m t
  | .firstArgument level name opening =>
      match t.kind with
      | .rightParen => s.complete level (.leaf (.call name []))
      | _ => do
          let s ← { s with stack := .call level name opening [] :: s.stack }.enter t.offset
          s.startOperand ⟨1, []⟩ t
  | .operator least m => s.afterOperand least m t

def step (s : State) (t : Token) : Except SyntaxError State := do
  let s ← s.read t
  .ok { s with previous := some t }

def outermost (stack : List Frame) (m : Measured) : Except SyntaxError Expr :=
  match stack with
  | .paren _ opening :: _ | .call _ _ opening _ :: _ => .error (.unbalancedParentheses opening)
  | _ => .ok m.expr

def conclude (stack : List Frame) (nesting least : Nat) (m : Measured) :
    Except SyntaxError Expr := do
  let (stack, _, _, m) ← settle 0 stack nesting least m
  outermost stack m

def finish (s : State) (size : Nat) : Except SyntaxError Expr :=
  match s.phase with
  | .expression _ | .operand _ | .firstArgument _ _ _ => do
      let _ ← s.enter size
      .error (.malformedOperand size .endOfText)
  | .afterName level name _ => do
      let (m, nesting) ← applySigns level.signs (.leaf (.variable name)) s.nesting
      conclude s.stack nesting level.least m
  | .operator least m => conclude s.stack s.nesting least m

end State

def parseTokens (tokens : List Token) (size : Nat) : Except SyntaxError Expr :=
  if tokens.isEmpty then .error (.malformedOperand 0 .noTokens)
  else do
    let s ← tokens.foldlM State.step State.initial
    s.finish size

end SpanQuery.Parser

namespace SpanQuery

def Expr.ofChars? (s : List Char) : Except SyntaxError Expr := do
  let tokens ← Lexer.tokens s
  Parser.parseTokens tokens (Text.byteSize s)

def Expr.ofText? (text : String) : Except SyntaxError Expr :=
  Expr.ofChars? text.toList

end SpanQuery
