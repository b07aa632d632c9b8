import SpanQuery.Proofs.Token.Classes

namespace SpanQuery

namespace Text

def StandsAt (part : List Char) (offset : Nat) (s : List Char) : Prop :=
  ∃ before behind, s = before ++ (part ++ behind) ∧ byteSize before = offset

theorem utf8ByteSize_ofList (s : List Char) : (String.ofList s).utf8ByteSize = byteSize s := by
  induction s with
  | nil => rfl
  | cons c s ih =>
      rw [byteSize, ← ih, ← List.singleton_append, String.ofList_append, String.utf8ByteSize_append]
      simp

namespace StandsAt

variable {part s : List Char} {offset : Nat}

theorem start (h : StandsAt part offset s) : StandsAt [] offset s := by
  obtain ⟨before, behind, rfl, size⟩ := h
  exact ⟨before, part ++ behind, rfl, size⟩

theorem stop (h : StandsAt part offset s) : StandsAt [] (offset + byteSize part) s := by
  obtain ⟨before, behind, rfl, rfl⟩ := h
  exact ⟨before ++ part, behind, by simp, by simp⟩

theorem at_end (s : List Char) : StandsAt [] (byteSize s) s :=
  ⟨s, [], by simp, rfl⟩

theorem isValid {text : String} (h : StandsAt part offset text.toList) :
    String.Pos.Raw.IsValid text ⟨offset⟩ := by
  obtain ⟨before, behind, chars, rfl⟩ := h
  refine String.Pos.Raw.isValid_iff_exists_append.2
    ⟨String.ofList before, String.ofList (part ++ behind), ?_, ?_⟩
  · rw [← String.ofList_append, ← chars, String.ofList_toList]
  · rw [String.rawEndPos, utf8ByteSize_ofList]

end StandsAt

end Text

namespace Lexer
open Text (StandsAt)

/-! ## Tokens -/

theorem Tokenized.of_append {offset : Nat} {s : List Char} {us vs : List Token}
    (h : Tokenized offset s (us ++ vs)) :
    ∃ before behind, s = before ++ behind ∧ Tokenized (offset + Text.byteSize before) behind vs := by
  induction us generalizing offset s with
  | nil => exact ⟨[], s, rfl, h⟩
  | cons t us ih =>
      rw [List.cons_append] at h
      cases h with
      | @token _ blanks rest _ _ _ _ _ start tokenized =>
          obtain ⟨before, behind, rfl, later⟩ := ih tokenized
          refine ⟨blanks ++ (t.lexeme ++ before), behind, by simp, ?_⟩
          rw [Token.stop, start] at later
          simpa [Nat.add_assoc] using later

theorem Tokenized.standsAt_token {s : List Char} {ts : List Token} (h : Tokenized 0 s ts) {t : Token}
    (mem : t ∈ ts) : StandsAt t.lexeme t.offset s := by
  obtain ⟨us, vs, rfl⟩ := List.append_of_mem mem
  obtain ⟨before, behind, rfl, tokenized⟩ := h.of_append
  cases tokenized with
  | @token _ blanks rest _ _ _ _ _ start _ =>
      refine ⟨before ++ blanks, rest, by simp, ?_⟩
      rw [start, Text.byteSize_append, Nat.zero_add]

theorem Tokenized.standsAt_pair {s : List Char} {ts : List Token} (h : Tokenized 0 s ts)
    {p t : Token} (pair : [p, t] <:+: ts) (adjacent : p.stop = t.offset) :
    StandsAt (p.lexeme ++ t.lexeme) p.offset s := by
  obtain ⟨us, vs, rfl⟩ := pair
  rw [List.append_assoc] at h
  obtain ⟨before, behind, rfl, tokenized⟩ := h.of_append
  cases tokenized with
  | @token _ blanks rest _ _ _ _ _ start tokenized =>
      cases tokenized with
      | @token _ between rest _ _ _ _ _ start' _ =>
          obtain rfl : between = [] := Text.eq_nil_of_byteSize (by omega)
          refine ⟨before ++ blanks, rest, by simp, ?_⟩
          rw [start, Text.byteSize_append, Nat.zero_add]

/-! ## Texts without tokens -/

def Unread (s : List Char) : Prop :=
  ∀ kind l rest, s = l ++ rest → Lexeme kind l → ¬ Ends kind rest

/-- Why no token can be read at the start of the text. -/
inductive Refused (offset : Nat) : List Char → SyntaxError → Prop where
  | number {l run rest : List Char} :
      IsNumber l → run ≠ [] → (∀ c ∈ run, isNameChar c) →
      Refused offset (l ++ run ++ rest) (.malformedOperand offset (.numeral (String.ofList (l ++ run))))
  | operator {run rest : List Char} :
      run ≠ [] → (∀ c ∈ run, isOperatorChar c) →
      Refused offset (run ++ rest) (.unknownOperator (String.ofList run) offset)
  | character {c : Char} {rest : List Char} :
      (∀ kind l, Lexeme kind l → l.head? ≠ some c) →
      Refused offset (c :: rest) (.malformedOperand offset (.character c))

theorem head_mark : ∀ m ∈ marks, ∀ c ∈ m.1.head?, isOperatorChar c ∨ c ∈ ['(', ')', ','] := by
  simp [marks, isOperatorChar]

theorem head?_ne_of_unread {c : Char} {rest : List Char} (number : numberLength (c :: rest) = 0)
    (name : nameLength (c :: rest) = 0) (mark : mark? (c :: rest) = none)
    (other : isOperatorChar c = false) {kind : TokenKind} {l : List Char} (lexeme : Lexeme kind l) :
    l.head? ≠ some c := by
  have unnamed : isNameStart c = false := by
    by_contra start
    rw [nameLength, if_pos (Bool.of_not_eq_false start)] at name
    omega
  intro head
  cases lexeme with
  | number isNumber =>
      obtain ⟨m, x, rfl, mantissa, -⟩ := isNumber
      cases mantissa with
      | fraction =>
          cases head
          cases unnamed
      | numeral numeral =>
          obtain ⟨d, ds, rfl, digit⟩ := numeral.head
          cases head
          have begun : IsNumber [c] := (Numeral.whole (List.forall_mem_singleton.2 digit)).isNumber
          exact absurd number (Nat.ne_of_gt (numberLength_pos begun ⟨rest, rfl⟩))
  | name isName =>
      obtain ⟨d, ds, rfl, start⟩ := isName_head isName
      cases head
      exact Bool.false_ne_true (unnamed.symm.trans start)
  | mark mem =>
      rcases head_mark _ mem c head with operator | punctuation
      · exact Bool.false_ne_true (other.symm.trans operator)
      · fin_cases punctuation <;> cases mark

theorem refused_of_unrecognized {offset : Nat} {c : Char} {rest : List Char}
    (number : numberLength (c :: rest) = 0) (name : nameLength (c :: rest) = 0)
    (mark : mark? (c :: rest) = none) : Refused offset (c :: rest) (unrecognized offset (c :: rest)) := by
  by_cases operator : isOperatorChar c
  · obtain ⟨run, behind, rfl, chars, stop⟩ := exists_run isOperatorChar rest
    have all : ∀ d ∈ c :: run, isOperatorChar d := List.forall_mem_cons.2 ⟨operator, chars⟩
    have run : (c :: (run ++ behind)).takeWhile isOperatorChar = c :: run := by
      rw [← List.cons_append, List.takeWhile_append_of_pos all, stop, List.append_nil]
    rw [unrecognized, if_pos operator, run]
    exact .operator (List.cons_ne_nil c _) all
  · rw [unrecognized, if_neg operator]
    exact .character fun kind l lexeme =>
      head?_ne_of_unread number name mark (Bool.of_not_eq_true operator) lexeme

theorem refused_of_classify {offset : Nat} {c : Char} {rest : List Char} {e : SyntaxError}
    (h : classify offset (c :: rest) = .error e) : Refused offset (c :: rest) e := by
  unfold classify at h
  split at h
  · cases h
  · cases h
    exact refused_of_unrecognized ‹_› ‹_› ‹_›
  · cases h
  · rename_i pos _ _
    obtain ⟨l, behind, same, number, length⟩ := exists_number pos
    obtain ⟨run, behind, rfl, chars, stop⟩ := exists_run isNameChar behind
    obtain ⟨value, reads⟩ := number.reads
    have runOn : runLength isNameChar (run ++ behind) = run.length := runLength_append chars stop
    have lexeme : (l ++ (run ++ behind)).take (l.length + run.length) = l ++ run := by
      rw [← List.append_assoc, ← List.length_append, List.take_left]
    rw [length, same, List.drop_left, List.take_left, runOn, reads] at h
    dsimp only at h
    rw [lexeme] at h
    cases run with
    | nil => cases h
    | cons d run =>
        cases h
        rw [same, ← List.append_assoc]
        exact .number number (List.cons_ne_nil d run) chars

theorem unread_of_classify {offset : Nat} {s : List Char} {e : SyntaxError}
    (h : classify offset s = .error e) : Unread s := by
  rintro kind l rest rfl lexeme ends
  cases h.symm.trans (classify_lexeme lexeme ends offset)

theorem refused_of_tokensFrom {offset : Nat} {s : List Char} {e : SyntaxError}
    (h : tokensFrom offset s = .error e) :
    ∃ before behind ts, s = before ++ behind ∧ Tokenized offset before ts ∧ Unread behind ∧
      Refused (offset + Text.byteSize before) behind e := by
  fun_induction tokensFrom offset s with
  | case1 => cases h
  | case2 offset s c rest trimmed start =>
      rename_i ih
      have blank : ∀ c ∈ s.takeWhile Text.isBlank, Text.isBlank c :=
        fun c mem => List.mem_takeWhile_imp mem
      rw [← takeWhile_isBlank_append trimmed]
      cases token : classify start (c :: rest) with
      | error fault =>
          rw [token] at h
          cases h
          exact ⟨_, _, [], rfl, .done blank, unread_of_classify token, refused_of_classify token⟩
      | ok read =>
          obtain ⟨kind, n⟩ := read
          obtain ⟨l, rest', same, taken, left, lexeme, ends⟩ := exists_lexeme token
          rw [token] at h
          have behind : tokensFrom (start + Text.byteSize ((c :: rest).take n))
              (rest.drop (n - 1)) = .error e := by
            cases later : tokensFrom (start + Text.byteSize ((c :: rest).take n))
                (rest.drop (n - 1)) with
            | error fault => simpa [bind, Except.bind, later] using h
            | ok later' => simp [bind, Except.bind, later] at h
          obtain ⟨before, behind, ts, split, tokenized, unread, refused⟩ := ih n behind
          rw [left] at split
          rw [taken] at tokenized refused
          have token := @Tokenized.token offset _ before ⟨kind, l, start⟩ ts blank lexeme
            (split ▸ ends).of_append rfl tokenized
          refine ⟨_, behind, _, by simp [same, split], token, unread, ?_⟩
          rw [Text.byteSize_append, Text.byteSize_append, ← Nat.add_assoc, ← Nat.add_assoc]
          exact refused

end Lexer

end SpanQuery
