import SpanQuery.Expr
import SpanQuery.Error
import SpanQuery.Text.Blank
import SpanQuery.Decimal.Reader

/-!
# Tokens of a query

A query text is numbers, names, operator symbols and punctuation with blanks between them. Every
token is the longest one of its class that starts where it starts; a number goes before a name,
so `.5` is a number and `.x` a name.
-/

namespace SpanQuery

/-- What a token is. The symbols `+` and `-` stand for themselves; which operator they are is
known only from their place. -/
inductive TokenKind where
  | number (value : Float)
  | name (text : String)
  | symbol (op : BinaryOp)
  | bang
  | leftParen
  | rightParen
  | comma

structure Token where
  kind : TokenKind
  lexeme : List Char
  offset : Nat

namespace TokenKind

def isOperator : TokenKind → Bool
  | symbol _ | bang => true
  | _ => false

def isLeftParen : TokenKind → Bool
  | leftParen => true
  | _ => false

def unaryOp? : TokenKind → Option UnaryOp
  | symbol .add => some .plus
  | symbol .sub => some .neg
  | bang => some .not
  | _ => none

end TokenKind

namespace Token

def stop (t : Token) : Nat :=
  t.offset + Text.byteSize t.lexeme

def text (t : Token) : String :=
  String.ofList t.lexeme

end Token

namespace Lexer

def isNameStart (c : Char) : Bool :=
  c.isAlpha || c == '.' || c == ':' || c == '_'

def isNameChar (c : Char) : Bool :=
  c.isAlphanum || c == '.' || c == ':' || c == '_'

def isOperatorChar (c : Char) : Bool :=
  "+-*/%=!<>&|".toList.contains c

def runLength (p : Char → Bool) (s : List Char) : Nat :=
  (s.takeWhile p).length

def mantissaLength (s : List Char) : Nat :=
  match runLength Char.isDigit s, s with
  | 0, '.' :: rest =>
      match runLength Char.isDigit rest with
      | 0 => 0
      | places => places + 1
  | 0, _ => 0
  | whole, s =>
      match s.drop whole with
      | '.' :: rest => whole + 1 + runLength Char.isDigit rest
      | _ => whole

/-- The length of the exponent at the start of a text; a mark without digits is none. -/
def exponentLength : List Char → Nat
  | mark :: rest =>
      if mark == 'e' || mark == 'E' then
        let sign := match rest with
          | '+' :: _ | '-' :: _ => 1
          | _ => 0
        match runLength Char.isDigit (rest.drop sign) with
        | 0 => 0
        | places => 1 + sign + places
      else 0
  | [] => 0

def numberLength (s : List Char) : Nat :=
  match mantissaLength s with
  | 0 => 0
  | n => n + exponentLength (s.drop n)

def nameLength : List Char → Nat
  | c :: rest => if isNameStart c then 1 + runLength isNameChar rest else 0
  | [] => 0

/-- Symbols and punctuation with what they stand for, longer ones before their beginnings. -/
def marks : List (List Char × TokenKind) :=
  [(['*', '*'], .symbol .pow), (['/', '/'], .symbol .floorDiv), (['=', '='], .symbol .eq),
   (['!', '='], .symbol .ne), (['<', '='], .symbol .lte), (['>', '='], .symbol .gte),
   (['&', '&'], .symbol .and), (['|', '|'], .symbol .or), (['+'], .symbol .add),
   (['-'], .symbol .sub), (['*'], .symbol .mul), (['/'], .symbol .div), (['%'], .symbol .mod),
   (['<'], .symbol .lt), (['>'], .symbol .gt), (['!'], .bang), (['('], .leftParen),
   ([')'], .rightParen), ([','], .comma)]

def mark? (s : List Char) : Option (List Char × TokenKind) :=
  marks.find? fun (lexeme, _) => lexeme.isPrefixOf s

def unrecognized (offset : Nat) : List Char → SyntaxError
  | [] => .malformedOperand offset .endOfText
  | c :: rest =>
      if isOperatorChar c then
        .unknownOperator (String.ofList ((c :: rest).takeWhile isOperatorChar)) offset
      else .malformedOperand offset (.character c)

/-- The kind and the length of the token at the start of a text. A number must not run on into a
name. -/
def classify (offset : Nat) (s : List Char) : Except SyntaxError (TokenKind × Nat) :=
  match numberLength s, nameLength s, mark? s with
  | 0, 0, some (lexeme, kind) => .ok (kind, lexeme.length)
  | 0, 0, none => .error (unrecognized offset s)
  | 0, n, _ => .ok (.name (String.ofList (s.take n)), n)
  | n, _, _ =>
      let runOn := runLength isNameChar (s.drop n)
      match runOn, Decimal.unsigned? (s.take n) with
      | 0, some value => .ok (.number value, n)
      | _, _ => .error (.malformedOperand offset (.numeral (String.ofList (s.take (n + runOn)))))

/-- The tokens of a text that stands `offset` bytes into the query. -/
def tokensFrom (offset : Nat) (s : List Char) : Except SyntaxError (List Token) :=
  match _h : Text.trimStart s with
  | [] => .ok []
  | c :: rest => do
      let start := offset + Text.byteSize (s.takeWhile Text.isBlank)
      let (kind, n) ← classify start (c :: rest)
      let lexeme := (c :: rest).take n
      let later ← tokensFrom (start + Text.byteSize lexeme) (rest.drop (n - 1))
      .ok (⟨kind, lexeme, start⟩ :: later)
termination_by s.length
decreasing_by
  have h1 := Text.length_trimStart_le s
  have h2 : (c :: rest).length = rest.length + 1 := rfl
  simp only [_h] at h1
  have h3 := List.length_drop (i := n - 1) (l := rest)
  omega

theorem tokensFrom_of_blank {offset : Nat} {s : List Char} (h : Text.trimStart s = []) :
    tokensFrom offset s = .ok [] := by
  rw [tokensFrom]
  split
  · rfl
  · rename_i other
    rw [h] at other
    cases other

theorem tokensFrom_of_token {offset n : Nat} {s rest : List Char} {c : Char} {t : Token}
    {later : List Token} (h : Text.trimStart s = c :: rest)
    (start : offset + Text.byteSize (s.takeWhile Text.isBlank) = t.offset)
    (token : classify t.offset (c :: rest) = .ok (t.kind, n))
    (lexeme : (c :: rest).take n = t.lexeme)
    (behind : tokensFrom t.stop (rest.drop (n - 1)) = .ok later) :
    tokensFrom offset s = .ok (t :: later) := by
  obtain ⟨kind, chars, start⟩ := t
  subst start lexeme
  rw [tokensFrom]
  split
  · rename_i blank
    rw [h] at blank
    cases blank
  · rename_i first others trimmed
    rw [h] at trimmed
    cases trimmed
    dsimp only at token ⊢
    rw [token]
    change (tokensFrom _ _ >>= _) = _
    exact behind ▸ rfl

def tokens (s : List Char) : Except SyntaxError (List Token) :=
  tokensFrom 0 s

end Lexer

end SpanQuery
