import SpanQuery.Proofs.Parser.Completeness
import SpanQuery.Proofs.Token.Printed

namespace SpanQuery

namespace Expr
open SpanQuery.Parser

theorem depth_rereadLiteral (value : Float) :
    (rereadLiteral value).depth ≤ (literal value).levels 1 + 1 := by
  rw [levels, rereadLiteral]
  cases Binary64.ofFloat value with
  | nan | finite => exact Nat.le_add_left _ _
  | infinity negative => cases negative <;> exact Nat.le_refl _

theorem depth_reread : (e : Expr) → e.reread.depth ≤ e.levels 1 + 1
  | .literal value => depth_rereadLiteral value
  | .variable _ => Nat.le_refl 1
  | .unary _ e => by
      have inner := e.depth_reread
      rw [reread, depth, levels]
      omega
  | .binary _ l r => by
      have left := l.depth_reread
      have right := r.depth_reread
      rw [reread, depth, levels]
      omega
  | .call _ args => by
      have inner := depth_rereadAll args
      rw [reread, depth, levels]
      omega
where
  depth_rereadAll : (args : List Expr) → depthOfAll (rereadAll args) ≤ levelsOfAll 1 args
    | [] => Nat.le_refl 0
    | e :: args => by
        have first := e.depth_reread
        have rest := depth_rereadAll args
        rw [rereadAll, depthOfAll, levelsOfAll]
        omega

theorem levels_lt : (e : Expr) → e.levels 1 < 2 * e.depth
  | .literal value => by
      rw [levels, depth]
      split <;> decide
  | .variable _ => Nat.two_pos
  | .unary _ e => by
      have inner := e.levels_lt
      rw [levels, depth]
      omega
  | .binary _ l r => by
      have left := l.levels_lt
      have right := r.levels_lt
      rw [levels, depth]
      omega
  | .call _ args => by
      have inner := levelsOfAll_le args
      rw [levels, depth]
      omega
where
  levelsOfAll_le : (args : List Expr) → levelsOfAll 1 args ≤ 2 * depthOfAll args
    | [] => Nat.le_refl 0
    | e :: args => by
        have first := e.levels_lt
        have rest := levelsOfAll_le args
        rw [levelsOfAll, depthOfAll]
        omega

theorem ofText?_of_tokens {text : String} {ts : List Token}
    (tokens : Lexer.tokens text.toList = .ok ts) :
    Expr.ofText? text = parseTokens ts (Text.byteSize text.toList) := by
  rw [ofText?, ofChars?, tokens]
  rfl

theorem ofText?_text {e : Expr} (printable : e.Printable) :
    if e.levels 1 < maxNesting then ofText? e.text = .ok e.reread
    else ∃ offset, ofText? e.text = .error (tooDeep offset) := by
  obtain ⟨ts, tokens, nested⟩ := Lexer.tokens_chars printable
  have shallow : e.levels 1 < maxNesting → e.reread.depth ≤ maxNesting := fun low =>
    Nat.le_trans e.depth_reread low
  have run := parseTokens_of_nested (nested 1) (Text.byteSize e.text.toList)
  simp only [and_iff_right_of_imp shallow] at run
  have printed : Lexer.tokens e.text.toList = .ok ts := by
    rw [text, String.toList_ofList, tokens]
  rw [ofText?_of_tokens printed]
  exact run

/-- An expression of half the greatest depth is read back from its text. -/
theorem text_readBack {e : Expr} (legible : e.Legible) (shallow : e.depth ≤ 128) :
    Expr.ofText? e.text = .ok e := by
  have low : e.levels 1 < maxNesting := by
    have bound := e.levels_lt
    rw [maxNesting]
    omega
  have read := ofText?_text legible.printable
  rwa [if_pos low, legible.reread_eq] at read

theorem text_readBack_signs :
    let e : Expr := .binary .and (.unary .not (.unary .neg (.variable "a.b")))
      (.call "f" [.literal (-2.5), .binary .pow (.variable "x") (.literal 0.1)])
    e.text = "(!-a.b && f(-2.5, (x ** 0.1)))" ∧ e.Legible ∧ e.depth ≤ 128 ∧
      Expr.ofText? e.text = .ok e := by
  intro e
  have legible : e.Legible := by
    refine .binary (.unary (.inl rfl) (.unary (.inr nofun) (.name (by decide))))
      (.call (by decide) ?_)
    simp only [List.forall_mem_cons]
    exact ⟨.literal trivial, .binary (.name (by decide)) (.literal trivial), nofun⟩
  have shallow : e.depth ≤ 128 := by decide
  exact ⟨by decide +kernel, legible, shallow, text_readBack legible shallow⟩

end Expr

end SpanQuery
