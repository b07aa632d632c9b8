import SpanQuery.Proofs.Decimal.Display
import SpanQuery.Proofs.Parser.Levels
import SpanQuery.Proofs.Token.Longest

namespace SpanQuery

namespace Binary64

def IsFinite : Binary64 → Prop
  | .finite _ _ _ => True
  | _ => False

def isNegative : Binary64 → Bool
  | .nan => false
  | .infinity negative | .finite negative _ _ => negative

end Binary64

namespace Expr

mutual

def literals : Expr → List Float
  | .literal value => [value]
  | .variable _ => []
  | unary _ e => e.literals
  | binary _ l r => l.literals ++ r.literals
  | call _ args => literalsInAll args

def literalsInAll : List Expr → List Float
  | [] => []
  | e :: es => e.literals ++ literalsInAll es

end

/-- Literals are finite, names are names, and no number has a sign of its own. -/
inductive Legible : Expr → Prop where
  | literal {value : Float} : (Binary64.ofFloat value).IsFinite → Legible (.literal value)
  | name {text : String} : Lexer.isName text.toList → Legible (.variable text)
  | unary {op : UnaryOp} {e : Expr} :
      op = .not ∨ (∀ value, e ≠ .literal value) → Legible e → Legible (.unary op e)
  | binary {op : BinaryOp} {l r : Expr} : Legible l → Legible r → Legible (.binary op l r)
  | call {text : String} {args : List Expr} :
      Lexer.isName text.toList → (∀ e ∈ args, Legible e) → Legible (.call text args)

inductive Printable : Expr → Prop where
  | literal (value : Float) : Printable (.literal value)
  | name {text : String} : Lexer.isName text.toList → Printable (.variable text)
  | unary {op : UnaryOp} {e : Expr} :
      op = .not ∨ (∀ value, e ≠ .literal value) → Printable e → Printable (.unary op e)
  | binary {op : BinaryOp} {l r : Expr} : Printable l → Printable r → Printable (.binary op l r)
  | call {text : String} {args : List Expr} :
      Lexer.isName text.toList → (∀ e ∈ args, Printable e) → Printable (.call text args)

theorem Legible.printable {e : Expr} (h : e.Legible) : e.Printable := by
  induction h with
  | literal => exact .literal _
  | name isName => exact .name isName
  | unary sign _ ih => exact .unary sign ih
  | binary _ _ ihl ihr => exact .binary ihl ihr
  | call isName _ ih => exact .call isName ih

def rereadLiteral (value : Float) : Expr :=
  match Binary64.ofFloat value with
  | .nan => .variable Layout.plain.nan
  | .infinity true => .unary .neg (.variable Layout.plain.infinity)
  | .infinity false => .variable Layout.plain.infinity
  | .finite _ _ _ => .literal value

mutual

def reread : Expr → Expr
  | .literal value => rereadLiteral value
  | .variable name => .variable name
  | unary op e => .unary op e.reread
  | binary op l r => .binary op l.reread r.reread
  | call name args => .call name (rereadAll args)

def rereadAll : List Expr → List Expr
  | [] => []
  | e :: es => e.reread :: rereadAll es

end

mutual

/-- The levels that the printed form opens: one for every parenthesis and every sign, and for a
right operand what it is charged. -/
def levels (charge : Nat) : Expr → Nat
  | .literal value => if (Binary64.ofFloat value).isNegative then 1 else 0
  | .variable _ => 0
  | unary _ e => 1 + e.levels charge
  | binary _ l r => 1 + max (l.levels charge) (charge + r.levels charge)
  | call _ args => levelsOfAll charge args

def levelsOfAll (charge : Nat) : List Expr → Nat
  | [] => 0
  | e :: es => max (e.levels charge + 1) (levelsOfAll charge es)

end

theorem rereadAll_eq (args : List Expr) : rereadAll args = args.map reread := by
  induction args with
  | nil => rfl
  | cons e args ih => rw [rereadAll, ih, List.map_cons]

theorem levelsOfAll_eq (charge : Nat) (args : List Expr) :
    levelsOfAll charge args = Grammar.innermost (args.map (levels charge)) := by
  induction args with
  | nil => rfl
  | cons e args ih => rw [levelsOfAll, ih, List.map_cons, Grammar.innermost]

theorem signed_reread {op : UnaryOp} {e : Expr} (sign : op = .not ∨ ∀ value, e ≠ .literal value) :
    Grammar.signed op e.reread = .unary op e.reread := by
  rcases sign with rfl | other
  · rfl
  · cases e with
    | literal value => exact absurd rfl (other value)
    | _ => cases op <;> rfl

theorem Legible.reread_eq {e : Expr} (legible : e.Legible) : e.reread = e := by
  induction legible with
  | @literal value finite =>
      rw [reread, rereadLiteral]
      cases view : Binary64.ofFloat value with
      | nan | infinity =>
          rw [view] at finite
          exact finite.elim
      | finite => rfl
  | name => rfl
  | unary _ _ ih => rw [reread, ih]
  | binary _ _ ihl ihr => rw [reread, ihl, ihr]
  | @call text args _ _ ih =>
      rw [reread, rereadAll_eq]
      congr
      exact (List.map_congr_left ih).trans (List.map_id args)

end Expr

namespace Lexer
open Grammar

/-- Wherever the text stands, it becomes tokens that satisfy `P`, and the text behind it, which
stands apart, becomes the tokens that it would become alone. -/
def Becomes (s : List Char) (P : List Token → Prop) : Prop :=
  ∀ ⦃offset : Nat⦄ ⦃rest : List Char⦄ ⦃later : List Token⦄, Apart rest →
    tokensFrom (offset + Text.byteSize s) rest = .ok later →
    ∃ ts, P ts ∧ tokensFrom offset (s ++ rest) = .ok (ts ++ later)

/-! ## Single tokens -/

theorem Apart.ends {rest : List Char} (h : Apart rest) (kind : TokenKind) : Ends kind rest := by
  refine h.takeWhile ?_
  cases kind with
  | symbol op => cases op <;> rfl
  | _ => rfl

theorem becomes_lexeme {l : List Char} {kind : TokenKind} (lexeme : Lexeme kind l) :
    Becomes l fun ts => ∃ t : Token, ts = [t] ∧ t.kind = kind := by
  intro offset rest later apart behind
  have token := classify_lexeme lexeme (apart.ends kind) offset
  obtain ⟨c, cs, rfl, visible⟩ := visible_of_lexeme lexeme
  exact ⟨_, ⟨_, rfl, rfl⟩, tokensFrom_append visible token behind⟩

theorem becomes_number {s : List Char} {value : Float} (numeral : Numeral s)
    (reads : Decimal.unsigned? s = some value) :
    Becomes s fun ts => ∃ t : Token, ts = [t] ∧ t.kind = .number value :=
  becomes_lexeme (.number numeral.isNumber reads)

theorem becomes_rightParen :
    Becomes [')'] fun ts => ∃ t : Token, ts = [t] ∧ t.kind = .rightParen :=
  becomes_lexeme (@Lexeme.mark ([')'], .rightParen) (by simp [marks]))

theorem visible_binary (op : BinaryOp) : Visible op.symbol.toList := by
  cases op <;> exact ⟨_, _, rfl, rfl⟩

theorem visible_unary (op : UnaryOp) : Visible op.symbol.toList := by
  cases op <;> exact ⟨_, _, rfl, rfl⟩

/-! ## Tokens in a row -/

namespace Becomes

variable {s s' : List Char} {P Q : List Token → Prop}

theorem mono (h : Becomes s P) (imp : ∀ ts, P ts → Q ts) : Becomes s Q := by
  intro offset rest later apart behind
  obtain ⟨ts, holds, tokens⟩ := h apart behind
  exact ⟨ts, imp ts holds, tokens⟩

theorem append (h : Becomes s P) (apart : Apart s') (h' : Becomes s' Q) :
    Becomes (s ++ s') fun ts => ∃ us vs, ts = us ++ vs ∧ P us ∧ Q vs := by
  intro offset rest later apart' behind
  rw [Text.byteSize_append, ← Nat.add_assoc] at behind
  have both : Apart (s' ++ rest) := by
    cases s' with
    | nil => exact apart'
    | cons c cs => exact apart
  obtain ⟨vs, second, tokens'⟩ := h' apart' behind
  obtain ⟨us, first, tokens⟩ := h both tokens'
  refine ⟨us ++ vs, ⟨us, vs, rfl, first, second⟩, ?_⟩
  rw [List.append_assoc, List.append_assoc]
  exact tokens

theorem blank (h : Becomes s P) : Becomes (' ' :: s) P := by
  intro offset rest later apart behind
  rw [List.cons_append, tokensFrom_blank]
  refine h apart ?_
  rw [Nat.add_assoc]
  exact behind

theorem cons (lexeme : List Char) {kind : TokenKind} (visible : Visible lexeme)
    (token : ∀ offset rest, classify offset (lexeme ++ (s ++ rest)) = .ok (kind, lexeme.length))
    (h : Becomes s P) :
    Becomes (lexeme ++ s) fun ts => ∃ t us, ts = t :: us ∧ t.kind = kind ∧ P us := by
  intro offset rest later apart behind
  rw [Text.byteSize_append, ← Nat.add_assoc] at behind
  obtain ⟨us, holds, tokens⟩ := h apart behind
  obtain ⟨c, cs, rfl, visible⟩ := visible
  rw [List.append_assoc]
  exact ⟨_, ⟨_, us, rfl, rfl, holds⟩, tokensFrom_append visible (token offset rest) tokens⟩

theorem call {name : List Char} (isName : isName name) (h : Becomes s P) :
    Becomes (name ++ '(' :: s) fun ts => ∃ (t opening : Token) (us : List Token),
      ts = t :: opening :: us ∧ t.kind = .name (String.ofList name) ∧
      opening.kind = .leftParen ∧ opening.offset = t.stop ∧ P us := by
  intro offset rest later apart behind
  rw [Text.byteSize_append, ← Nat.add_assoc] at behind
  have inner : tokensFrom (offset + Text.byteSize name + 1 + Text.byteSize s) rest = .ok later := by
    rw [Nat.add_assoc _ 1]
    exact behind
  obtain ⟨us, holds, tokens⟩ := h apart inner
  have opening : tokensFrom (offset + Text.byteSize name) ('(' :: (s ++ rest)) =
      .ok (⟨.leftParen, ['('], offset + Text.byteSize name⟩ :: (us ++ later)) :=
    @tokensFrom_append _ _ '(' [] _ _ rfl (classify_leftParen _ _) tokens
  have stop : ('(' :: (s ++ rest)).takeWhile isNameChar = [] := rfl
  have token := classify_name isName stop offset
  obtain ⟨c, cs, rfl, start⟩ := isName_head isName
  rw [List.append_assoc]
  exact ⟨_, ⟨_, _, us, rfl, rfl, rfl, rfl, holds⟩,
    tokensFrom_append (isBlank_of_isNameStart start) token opening⟩

end Becomes

/-! ## Printed expressions -/

def Rereads (e : Expr) (ts : List Token) : Prop :=
  ∀ charge, Nested charge 7 ts e.reread (e.levels charge)

theorem becomes_args {args : List Expr} (h : ∀ e ∈ args, Becomes e.chars (Rereads e)) :
    Becomes (Expr.charsOfArgs args) fun ts => ∀ charge,
      ∃ read : List (List Token × Expr × Nat), read.map (·.2.1) = args.map Expr.reread ∧
        read.map (·.2.2) = args.map (Expr.levels charge) ∧ Separated (read.map (·.1)) ts ∧
        ∀ arg ∈ read, Nested charge 1 arg.1 arg.2.1 arg.2.2 := by
  induction args with
  | nil => exact fun _ _ _ _ behind => ⟨[], fun _ => ⟨[], rfl, rfl, .none, nofun⟩, behind⟩
  | cons e args ih =>
      obtain ⟨first, h⟩ := List.forall_mem_cons.1 h
      cases args with
      | nil =>
          refine first.mono fun ts rereads charge => ?_
          refine ⟨[(ts, e.reread, e.levels charge)], rfl, rfl, .one ts, ?_⟩
          exact List.forall_mem_singleton.2 ((rereads charge).loosen (by decide))
      | cons e' args =>
          have more := (ih h).blank.cons [','] ⟨_, _, rfl, rfl⟩ fun offset rest =>
            classify_comma offset _
          refine (first.append (by simp [Apart]) more).mono ?_
          rintro _ ⟨us, _, rfl, rereads, comma, vs, rfl, kind, later⟩ charge
          obtain ⟨read, trees, levels, separated, nested⟩ := later charge
          have here := (rereads charge).loosen (show 1 ≤ 7 by decide)
          refine ⟨(us, e.reread, e.levels charge) :: read, ?_, ?_, ?_,
            List.forall_mem_cons.2 ⟨here, nested⟩⟩
          · rw [List.map_cons, trees, List.map_cons (l := e' :: args)]
          · rw [List.map_cons, levels, List.map_cons (l := e' :: args)]
          · cases read with
            | nil => cases trees
            | cons arg read => exact .more kind separated

theorem exists_head_chars {e : Expr} (printable : e.Printable) :
    ∃ c cs, e.chars = c :: cs ∧ c ≠ '=' := by
  have named : ∀ s rest, isName s → ∃ c cs, s ++ rest = c :: cs ∧ c ≠ '=' := by
    intro s rest name
    obtain ⟨c, cs, rfl, start⟩ := isName_head name
    refine ⟨c, cs ++ rest, rfl, ?_⟩
    rintro rfl
    cases start
  cases printable with
  | literal value =>
      rw [Expr.chars]
      cases pattern : Binary64.ofFloat value with
      | finite negative m q =>
          obtain ⟨s, numeral, chars⟩ := Numeral.of_finite pattern
          obtain ⟨d, ds, rfl, digit⟩ := numeral.head
          cases negative with
          | true => exact ⟨'-', d :: ds, chars, by decide⟩
          | false =>
              refine ⟨d, ds, chars, ?_⟩
              rintro rfl
              cases digit
      | nan =>
          rw [Layout.chars, pattern]
          exact ⟨'N', _, rfl, by decide⟩
      | infinity negative =>
          rw [Layout.chars, pattern]
          cases negative <;> exact ⟨_, _, rfl, by decide⟩
  | @name text isName =>
      rw [Expr.chars, ← List.append_nil text.toList]
      exact named _ _ isName
  | @unary op =>
      rw [Expr.chars]
      cases op <;> exact ⟨_, _, rfl, by decide⟩
  | binary => exact ⟨'(', _, rfl, by decide⟩
  | call isName =>
      rw [Expr.chars, List.append_assoc]
      exact named _ _ isName

theorem becomes_variable {text : String} (name : isName text.toList) :
    Becomes text.toList fun ts => ∀ charge, Nested charge 8 ts (.variable text) 0 := by
  refine (becomes_lexeme (.name name)).mono ?_
  rintro _ ⟨t, rfl, kind⟩ charge
  rw [String.ofList_toList] at kind
  exact .name kind

theorem becomes_negative {s : List Char} {e : Expr} {n : Nat}
    (h : Becomes s fun ts => ∀ charge, Nested charge 8 ts e n) :
    Becomes ('-' :: s) fun ts => ∀ charge, Nested charge 7 ts (signed .neg e) (1 + n) := by
  have minus : ∀ offset rest, classify offset (['-'] ++ (s ++ rest)) =
      .ok (.symbol .sub, ['-'].length) := fun _ _ => rfl
  refine (h.cons ['-'] ⟨_, _, rfl, rfl⟩ minus).mono ?_
  rintro _ ⟨sign, ts, rfl, kind, nested⟩ charge
  refine .sign ?_ (.tighter (nested charge))
  rw [kind]
  rfl

theorem becomes_literal (value : Float) :
    Becomes (Layout.plain.chars value) (Rereads (.literal value)) := by
  have spelt : ∀ x, Binary64.ofFloat value = x →
      Rereads (.literal value) = fun ts => ∀ charge, Nested charge 7 ts (Expr.rereadLiteral value)
        (if x.isNegative then 1 else 0) := by
    rintro _ rfl
    rfl
  cases pattern : Binary64.ofFloat value with
  | nan =>
      rw [spelt _ pattern, Expr.rereadLiteral, Layout.chars, pattern]
      exact (becomes_variable (by decide)).mono fun ts nested charge => .tighter (nested charge)
  | infinity negative =>
      rw [spelt _ pattern, Expr.rereadLiteral, Layout.chars, pattern]
      have name := @becomes_variable Layout.plain.infinity (by decide)
      cases negative with
      | true => exact becomes_negative name
      | false => exact name.mono fun ts nested charge => .tighter (nested charge)
  | finite negative m q =>
      obtain ⟨s, numeral, chars⟩ := Numeral.of_finite pattern
      obtain ⟨w, reads⟩ := numeral.isNumber.reads
      have number : Becomes s fun ts => ∀ charge, Nested charge 8 ts (.literal w) 0 := by
        refine (becomes_number numeral reads).mono ?_
        rintro _ ⟨t, rfl, kind⟩ charge
        exact .number kind
      obtain ⟨d, ds, same, digit⟩ := numeral.head
      -- What the whole text is read back as is read from its digits.
      have back := Decimal.read?_chars pattern
      rw [chars] at back
      rw [spelt _ pattern, Expr.rereadLiteral, pattern, chars]
      cases negative with
      | true =>
          have sign : Decimal.splitSign ('-' :: s) = (true, d :: ds) := same ▸ rfl
          rw [if_pos rfl, Decimal.read?_of_digit sign digit, ← same, reads] at back
          obtain rfl := Option.some.inj back
          exact becomes_negative number
      | false =>
          have sign : Decimal.splitSign s = (false, d :: ds) :=
            same ▸ Decimal.splitSign_of_digit digit ds
          rw [if_neg Bool.false_ne_true, Decimal.read?_of_digit sign digit, ← same, reads] at back
          obtain rfl := Option.some.inj back
          exact number.mono fun ts nested charge => .tighter (nested charge)

theorem becomes_unary {e : Expr} (h : Becomes e.chars (Rereads e)) {op : UnaryOp}
    (printable : e.Printable) (sign : op = .not ∨ ∀ value, e ≠ .literal value) :
    Becomes (Expr.unary op e).chars (Rereads (.unary op e)) := by
  obtain ⟨c, cs, head, other⟩ := exists_head_chars printable
  have whole := h.cons _ (visible_unary op) fun offset rest => by
    rw [head]
    exact classify_unary op offset other _
  refine whole.mono ?_
  rintro _ ⟨t, ts, rfl, kind, rereads⟩ charge
  have nested := Nested.sign (kind ▸ unaryOp?_mark op) (rereads charge)
  rwa [Expr.signed_reread sign] at nested

theorem becomes_binary {l r : Expr} (left : Becomes l.chars (Rereads l))
    (right : Becomes r.chars (Rereads r)) (op : BinaryOp) :
    Becomes (Expr.binary op l r).chars (Rereads (.binary op l r)) := by
  have ended := right.append (by simp [Apart]) becomes_rightParen
  have symbol := ended.blank.cons _ (visible_binary op) fun offset rest => by
    rw [List.cons_append]
    exact classify_binary op offset _
  have whole := (left.append (by simp [Apart]) symbol.blank).cons ['('] ⟨_, _, rfl, rfl⟩
    fun offset rest => classify_leftParen offset _
  have chars : (Expr.binary op l r).chars =
      ['('] ++ (l.chars ++ ' ' :: (op.symbol.toList ++ ' ' :: (r.chars ++ [')']))) := by
    simp [Expr.chars]
  rw [chars]
  refine whole.mono ?_
  rintro _ ⟨opening, _, rfl, opens, ls, _, rfl, left, t, _, rfl, kind, rs, _, rfl, right,
    closing, rfl, closes⟩ charge
  have le := precedence_le op
  have inside := Nested.join (mem_operators.2 rfl) kind ((left charge).loosen (by omega))
    ((right charge).loosen (Nat.succ_le_succ le))
  have nested := Nested.paren opens (inside.loosen op.precedence_pos) closes
  rw [List.cons_append, List.append_assoc, List.cons_append] at nested
  exact .tighter nested

theorem becomes_call {text : String} (name : isName text.toList) {args : List Expr}
    (h : ∀ e ∈ args, Becomes e.chars (Rereads e)) :
    Becomes (Expr.call text args).chars (Rereads (.call text args)) := by
  have whole := ((becomes_args h).append (by simp [Apart]) becomes_rightParen).call name
  have chars : (Expr.call text args).chars =
      text.toList ++ '(' :: (Expr.charsOfArgs args ++ [')']) := by
    simp [Expr.chars]
  rw [chars]
  refine whole.mono ?_
  rintro _ ⟨t, opening, _, rfl, kind, opens, adjacent, ts, _, rfl, rereads, closing, rfl, closes⟩
    charge
  obtain ⟨read, trees, levels, separated, nested⟩ := rereads charge
  rw [String.ofList_toList] at kind
  rw [Expr.reread, Expr.levels, Expr.rereadAll_eq, Expr.levelsOfAll_eq, ← trees, ← levels]
  exact .tighter (.call kind opens adjacent separated nested closes)

theorem becomes_chars {e : Expr} (printable : e.Printable) : Becomes e.chars (Rereads e) := by
  induction printable with
  | literal value => exact becomes_literal value
  | @name text name =>
      exact (becomes_variable name).mono fun ts nested charge => .tighter (nested charge)
  | unary sign printable ih => exact becomes_unary ih printable sign
  | @binary op _ _ _ _ ihl ihr => exact becomes_binary ihl ihr op
  | call name _ ih => exact becomes_call name ih

theorem tokens_chars {e : Expr} (printable : e.Printable) :
    ∃ ts, tokens e.chars = .ok ts ∧ ∀ charge, Nested charge 1 ts e.reread (e.levels charge) := by
  obtain ⟨ts, rereads, tokens⟩ := @becomes_chars e printable 0 [] [] trivial
    (tokensFrom_of_blank rfl)
  rw [List.append_nil, List.append_nil] at tokens
  exact ⟨ts, tokens, fun charge => (rereads charge).loosen (by decide)⟩

end Lexer

end SpanQuery
