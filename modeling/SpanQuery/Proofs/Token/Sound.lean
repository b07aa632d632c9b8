import SpanQuery.Proofs.Decimal.Number
import SpanQuery.Proofs.Parser.Soundness
import SpanQuery.Proofs.Token.Lexeme

namespace SpanQuery

def TokenKind.Sound : TokenKind → Prop
  | .number value => value.isNaN = false
  | .name text => Lexer.isName text.toList
  | _ => True

namespace Lexer

theorem numberLength_point {d : Char} (digit : d.isDigit) (rest : List Char) :
    0 < numberLength ('.' :: d :: rest) := by
  have places : runLength Char.isDigit (d :: rest) = runLength Char.isDigit rest + 1 := by
    simp [runLength, digit]
  have mantissa : mantissaLength ('.' :: d :: rest) = runLength Char.isDigit rest + 2 := by
    have none : runLength Char.isDigit ('.' :: d :: rest) = 0 := rfl
    simp only [mantissaLength, none, places]
  simp only [numberLength, mantissa]
  omega

theorem isName_take {s : List Char} {n : Nat} (number : numberLength s = 0)
    (name : nameLength s = n + 1) : isName (s.take (n + 1)) := by
  cases s with
  | nil => cases name
  | cons c rest =>
      by_cases start : isNameStart c
      · rw [nameLength, if_pos start, Nat.add_comm, Nat.add_right_cancel_iff] at name
        have run : rest.take n = rest.takeWhile isNameChar := by
          rw [← name, runLength]
          exact (List.prefix_iff_eq_take.1 (List.takeWhile_prefix _)).symm
        have pointless : (c == '.' && (rest.takeWhile isNameChar).head?.any Char.isDigit) = false := by
          cases rest with
          | nil => exact Bool.and_false _
          | cons d rest =>
              by_contra point
              rw [Bool.not_eq_false, Bool.and_eq_true, beq_iff_eq] at point
              obtain ⟨rfl, digit⟩ := point
              have digit : d.isDigit := by
                rw [List.takeWhile_cons] at digit
                split at digit
                · exact digit
                · cases digit
              exact absurd number (Nat.ne_of_gt (numberLength_point digit rest))
        rw [List.take_succ_cons, run, isName, start, List.all_takeWhile, pointless]
        rfl
      · rw [nameLength, if_neg start] at name
        cases name

theorem sound_of_mark {s lexeme : List Char} {kind : TokenKind}
    (h : mark? s = some (lexeme, kind)) : kind.Sound := by
  have mem : (lexeme, kind) ∈ marks := List.mem_of_find?_eq_some h
  have all : ∀ m ∈ marks, m.2.Sound := by
    simp [marks, TokenKind.Sound]
  exact all _ mem

theorem sound_of_classify {offset n : Nat} {s : List Char} {kind : TokenKind}
    (h : classify offset s = .ok (kind, n)) : kind.Sound := by
  unfold classify at h
  split at h
  · rename_i mark
    cases h
    exact sound_of_mark mark
  · cases h
  · rename_i number unmarked unknown
    cases h
    cases name : nameLength s with
    | zero =>
        cases mark : mark? s with
        | none => exact (unknown name mark).elim
        | some m => exact (unmarked m.1 m.2 name mark).elim
    | succ n =>
        change isName (String.ofList _).toList
        rw [String.toList_ofList]
        exact isName_take number name
  · dsimp only at h
    split at h
    · rename_i reads
      cases h
      exact Decimal.isNaN_unsigned? reads
    · cases h

theorem sound_of_tokensFrom {offset : Nat} {s : List Char} {ts : List Token}
    (h : tokensFrom offset s = .ok ts) : ∀ t ∈ ts, t.kind.Sound := by
  fun_induction tokensFrom offset s generalizing ts with
  | case1 =>
      cases h
      exact nofun
  | case2 =>
      rename_i ih
      obtain ⟨⟨kind, n⟩, token, h⟩ := Parser.ok_of_bind h
      obtain ⟨later, behind, h⟩ := Parser.ok_of_bind h
      cases h
      exact List.forall_mem_cons.2 ⟨sound_of_classify token, ih n behind⟩

end Lexer

end SpanQuery
