import SpanQuery.Proofs.Parser.Printed

namespace SpanQuery.Parser
open Grammar

/-- A sentence is accepted if and only if its tree has at most 256 levels and its tokens stand inside
at most 255, right operands among them. Otherwise it is refused for its nesting. Parentheses and
signs alone are never more than these levels. -/
theorem accepts_within_limit {text : String} {ts : List Token} {e : Expr}
    (tokens : Lexer.tokens text.toList = .ok ts) (derives : Derives 1 ts e) :
    (∃ n, Nested 1 1 ts e n) ∧ ∀ n, Nested 1 1 ts e n →
      (Expr.ofText? text = .ok e ↔ e.depth ≤ 256 ∧ n ≤ 255) ∧
      (¬ (e.depth ≤ 256 ∧ n ≤ 255) →
        ∃ offset fault, Expr.ofText? text = .error (.malformedOperand offset fault) ∧
          fault.message = "expression nested deeper than 256 levels") ∧
      ∃ m ≤ n, Nested 0 1 ts e m := by
  refine ⟨derives.exists_nested 1, fun n nested => ?_⟩
  have limit : (e.depth ≤ 256 ∧ n ≤ 255) ↔ e.depth ≤ maxNesting ∧ n < maxNesting := by
    rw [maxNesting, Nat.lt_succ_iff]
  have run := parseTokens_of_nested nested (Text.byteSize text.toList)
  rw [Expr.ofText?_of_tokens tokens, limit]
  refine ⟨?_, fun beyond => ?_, nested.uncharged⟩
  · constructor
    · intro accepted
      by_contra beyond
      rw [if_neg beyond] at run
      obtain ⟨offset, refused⟩ := run
      cases accepted.symm.trans refused
    · intro room
      rwa [if_pos room] at run
  · rw [if_neg beyond] at run
    obtain ⟨offset, refused⟩ := run
    exact ⟨offset, .tooDeep maxNesting, refused, by decide⟩

theorem accepts_within_limit_signs : ∃ ts, Lexer.tokens "-(A + -B)".toList = .ok ts ∧
    ∃ e, e = .unary .neg (.binary .add (.variable "A") (.unary .neg (.variable "B"))) ∧
      Derives 1 ts e ∧ Nested 1 1 ts e 4 ∧ Expr.ofText? "-(A + -B)" = .ok e := by
  have tokens : Lexer.tokens "-(A + -B)".toList = .ok
      [⟨.symbol .sub, ['-'], 0⟩, ⟨.leftParen, ['('], 1⟩, ⟨.name "A", ['A'], 2⟩,
        ⟨.symbol .add, ['+'], 4⟩, ⟨.symbol .sub, ['-'], 6⟩, ⟨.name "B", ['B'], 7⟩,
        ⟨.rightParen, [')'], 8⟩] := by
    iterate 7 refine Lexer.tokensFrom_of_token rfl rfl rfl rfl ?_
    exact Lexer.tokensFrom_of_blank rfl
  have left : Nested 1 8 [⟨.name "A", ['A'], 2⟩] (.variable "A") 0 := .name rfl
  have right : Nested 1 7 [⟨.symbol .sub, ['-'], 6⟩, ⟨.name "B", ['B'], 7⟩]
      (.unary .neg (.variable "B")) 1 := @Nested.sign 1 0 _ _ .neg (.variable "B") rfl
    (.tighter (.name rfl))
  have sum := @Nested.join 1 4 _ _ _ _ ⟨.symbol .add, ['+'], 4⟩ .add _ _ (by decide) rfl
    (left.loosen (by decide)) (right.loosen (by decide))
  have inside := @Nested.paren 1 _ ⟨.leftParen, ['('], 1⟩ ⟨.rightParen, [')'], 8⟩ _ _ rfl
    (sum.loosen (by decide)) rfl
  have nested := (@Nested.sign 1 _ _ ⟨.symbol .sub, ['-'], 0⟩ .neg _ rfl (.tighter inside)).loosen
    (show 1 ≤ 7 by decide)
  have limit := (accepts_within_limit tokens nested.derives).2 4 nested
  exact ⟨_, tokens, _, rfl, nested.derives, nested, limit.1.2 (by decide)⟩

def rightSum : Nat → Expr
  | 0 => .variable "A"
  | k + 1 => .binary .add (.variable "A") (rightSum k)

section RightSum

variable (k : Nat)

theorem depth_rightSum : (rightSum k).depth = k + 1 := by
  induction k with
  | zero => rfl
  | succ k ih =>
      rw [rightSum, Expr.depth, Expr.depth, ih]
      omega

theorem levels_rightSum (charge : Nat) : (rightSum k).levels charge = k * (charge + 1) := by
  induction k with
  | zero => rw [Nat.zero_mul]; rfl
  | succ k ih =>
      rw [rightSum, Expr.levels, Expr.levels, ih, Nat.succ_mul]
      omega

theorem reread_rightSum : (rightSum k).reread = rightSum k := by
  induction k with
  | zero => rfl
  | succ k ih => rw [rightSum, Expr.reread, ih, Expr.reread]

theorem printable_rightSum : (rightSum k).Printable := by
  induction k with
  | zero => exact .name (by decide)
  | succ k ih => exact .binary (.name (by decide)) ih

theorem chars_rightSum : (rightSum k).chars =
    (List.replicate k "(A + ".toList).flatten ++ 'A' :: List.replicate k ')' := by
  induction k with
  | zero => rfl
  | succ k ih =>
      rw [rightSum, Expr.chars, ih, List.replicate_succ, List.replicate_succ', List.flatten_cons]
      simp [Expr.chars, BinaryOp.symbol]

theorem nested_rightSum :
    ∃ ts, Lexer.tokens (rightSum k).text.toList = .ok ts ∧ Nested 0 1 ts (rightSum k) k := by
  obtain ⟨ts, tokens, nested⟩ := Lexer.tokens_chars (printable_rightSum k)
  have shown := nested 0
  rw [reread_rightSum, levels_rightSum, Nat.mul_one] at shown
  refine ⟨ts, ?_, shown⟩
  rw [Expr.text, String.toList_ofList, tokens]

theorem refused_rightSum {k : Nat} (deep : maxNesting ≤ k * 2) :
    ∃ offset, Expr.ofText? (rightSum k).text = .error (tooDeep offset) := by
  have refused := Expr.ofText?_text (printable_rightSum k)
  rwa [levels_rightSum, if_neg (Nat.not_lt.2 deep)] at refused

end RightSum

/-- A tree of 129 levels whose tokens stand inside 128 parentheses at most, and no sign, is refused:
every right operand is one more level. -/
theorem refused_right_operands :
    let text := String.ofList
      ((List.replicate 128 "(A + ".toList).flatten ++ 'A' :: List.replicate 128 ')')
    ∃ ts e, Lexer.tokens text.toList = .ok ts ∧ Nested 0 1 ts e 128 ∧ e.depth = 129 ∧
      ∃ offset fault, Expr.ofText? text = .error (.malformedOperand offset fault) ∧
        fault.message = "expression nested deeper than 256 levels" := by
  rw [← chars_rightSum]
  obtain ⟨ts, tokens, nested⟩ := nested_rightSum 128
  obtain ⟨offset, refused⟩ := refused_rightSum (k := 128) (Nat.le_refl _)
  exact ⟨ts, rightSum 128, tokens, nested, depth_rightSum 128, offset, .tooDeep maxNesting, refused,
    by decide⟩

end SpanQuery.Parser
