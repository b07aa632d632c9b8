import SpanQuery.Token

/-!
# The grammar of queries

A stratified grammar over token lists. Levels 1 to 6 are those of the infix operators, each of
them left-recursive; level 7 has the operators before an operand, and level 8 the primaries.
-/

namespace SpanQuery.Grammar

def operators : Nat → List BinaryOp
  | 1 => [.or]
  | 2 => [.and]
  | 3 => [.eq, .ne, .lt, .lte, .gt, .gte]
  | 4 => [.add, .sub]
  | 5 => [.mul, .div, .floorDiv, .mod]
  | 6 => [.pow]
  | _ => []

def signed : UnaryOp → Expr → Expr
  | .neg, .literal v => .literal (-v)
  | .plus, .literal v => .literal v
  | op, e => .unary op e

inductive Separated : List (List Token) → List Token → Prop where
  | none : Separated [] []
  | one (ts : List Token) : Separated [ts] ts
  | more {ts us vs : List Token} {rest : List (List Token)} {comma : Token} :
      comma.kind = .comma → Separated (us :: rest) vs →
      Separated (ts :: us :: rest) (ts ++ comma :: vs)

inductive Derives : Nat → List Token → Expr → Prop where
  | tighter {level : Nat} {ts : List Token} {e : Expr} :
      Derives (level + 1) ts e → Derives level ts e
  | join {level : Nat} {ls rs : List Token} {t : Token} {op : BinaryOp} {l r : Expr} :
      op ∈ operators level → t.kind = .symbol op → Derives level ls l →
      Derives (level + 1) rs r → Derives level (ls ++ t :: rs) (.binary op l r)
  | sign {ts : List Token} {t : Token} {op : UnaryOp} {e : Expr} :
      t.kind.unaryOp? = some op → Derives 7 ts e → Derives 7 (t :: ts) (signed op e)
  | number {t : Token} {value : Float} :
      t.kind = .number value → Derives 8 [t] (.literal value)
  | name {t : Token} {text : String} :
      t.kind = .name text → Derives 8 [t] (.variable text)
  /-- The parenthesis stands right behind the name. -/
  | call {name opening closing : Token} {text : String} {ts : List Token}
      {args : List (List Token × Expr)} :
      name.kind = .name text → opening.kind = .leftParen → opening.offset = name.stop →
      Separated (args.map Prod.fst) ts → (∀ arg ∈ args, Derives 1 arg.1 arg.2) →
      closing.kind = .rightParen →
      Derives 8 (name :: opening :: ts ++ [closing]) (.call text (args.map Prod.snd))
  | paren {opening closing : Token} {ts : List Token} {e : Expr} :
      opening.kind = .leftParen → Derives 1 ts e → closing.kind = .rightParen →
      Derives 8 (opening :: ts ++ [closing]) e

theorem mem_operators {op : BinaryOp} {level : Nat} :
    op ∈ operators level ↔ op.precedence = level := by
  constructor
  · intro h
    unfold operators at h
    split at h <;> simp only [List.mem_cons, List.not_mem_nil, or_false] at h
    all_goals grind [BinaryOp.precedence]
  · rintro rfl
    cases op <;> decide

theorem precedence_le (op : BinaryOp) : op.precedence ≤ 6 := by
  cases op <;> decide

namespace Derives

theorem loosen {level level' : Nat} {ts : List Token} {e : Expr} (h : Derives level ts e)
    (le : level' ≤ level) : Derives level' ts e := by
  obtain ⟨n, rfl⟩ := Nat.le.dest le
  induction n with
  | zero => exact h
  | succ n ih => exact ih (.tighter h) (Nat.le_add_right level' n)

theorem head {level : Nat} {ts : List Token} {e : Expr} (h : Derives level ts e) :
    ∃ t rest, ts = t :: rest ∧ t.kind ≠ .rightParen := by
  induction h with
  | tighter _ ih => exact ih
  | @join _ _ rs t _ _ _ _ _ _ _ ih _ =>
      obtain ⟨first, rest, rfl, ne⟩ := ih
      exact ⟨first, rest ++ t :: rs, rfl, ne⟩
  | @sign ts t op e kind _ _ =>
      refine ⟨t, ts, rfl, fun closing => ?_⟩
      rw [closing] at kind
      cases kind
  | @number t _ kind => exact ⟨t, [], rfl, by rw [kind]; nofun⟩
  | @name t _ kind => exact ⟨t, [], rfl, by rw [kind]; nofun⟩
  | call kind => exact ⟨_, _, rfl, by rw [kind]; nofun⟩
  | paren kind => exact ⟨_, _, rfl, by rw [kind]; nofun⟩

end Derives

end SpanQuery.Grammar
