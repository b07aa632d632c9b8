import SpanQuery.Proofs.Parser.Faults
import SpanQuery.Proofs.Parser.Printed
import SpanQuery.Proofs.Token.Places

namespace SpanQuery
open Text (StandsAt)

namespace Lexer

structure Sliced (s : List Char) (ts : List Token) : Prop where
  token : ∀ t ∈ ts, StandsAt t.lexeme t.offset s
  pair : ∀ p t, [p, t] <:+: ts → p.stop = t.offset → StandsAt (p.lexeme ++ t.lexeme) p.offset s

/-- All before the place is tokens and blanks, and there begins a number that is no token, or a
character stands there with which no token begins. -/
def Unreadable (s : List Char) (offset : Nat) : Prop :=
  ∃ before behind ts, s = before ++ behind ∧ Text.byteSize before = offset ∧
    Tokenized 0 before ts ∧ Unread behind ∧
      ((∃ l rest, behind = l ++ rest ∧ IsNumber l) ∨
        ∃ c rest, behind = c :: rest ∧ ∀ kind l, Lexeme kind l → l.head? ≠ some c)

theorem Tokenized.lexeme {offset : Nat} {s : List Char} {ts : List Token} (h : Tokenized offset s ts) :
    ∀ t ∈ ts, Lexeme t.kind t.lexeme := by
  induction h with
  | done => exact nofun
  | token _ lexeme _ _ _ ih => exact List.forall_mem_cons.2 ⟨lexeme, ih⟩

def IsOperator (l : List Char) : Prop :=
  l ≠ [] ∧ ∀ c ∈ l, isOperatorChar c

theorem byteSize_of_lexeme {kind : TokenKind} {l : List Char} (lexeme : Lexeme kind l) {name : String}
    (named : kind = .name name) : Text.byteSize l = name.utf8ByteSize := by
  cases lexeme with
  | number => cases named
  | name =>
      cases named
      exact (Text.utf8ByteSize_ofList l).symm
  | mark mem =>
      have all : ∀ m ∈ marks, ∀ name, m.2 ≠ .name name := by simp [marks]
      exact absurd named (all _ mem name)

theorem isOperator_of_lexeme {kind : TokenKind} {l : List Char} (lexeme : Lexeme kind l)
    (operator : kind.isOperator) : IsOperator l := by
  cases lexeme with
  | number | name => cases operator
  | mark mem =>
      have all : ∀ m ∈ marks, m.2.isOperator → IsOperator m.1 := by
        simp [marks, TokenKind.isOperator, IsOperator, isOperatorChar]
      exact all _ mem operator

end Lexer

open Lexer Grammar

/-- What the kind of an error says about its place. -/
def SyntaxError.Placed (s : List Char) : SyntaxError → Prop
  | .unbalancedParentheses offset =>
      ∃ ts, tokens s = .ok ts ∧ ¬ Balanced ts ∧ ∃ t, t.offset = offset ∧ Unpartnered ts t
  | .unknownOperator operator _ => IsOperator operator.toList
  | .malformedOperand offset _ =>
      tokens s = .ok [] ∧ offset = 0 ∨ (∃ ts, tokens s = .ok ts ∧ Parser.Starts ts offset) ∨
        Unreadable s offset ∨ offset = Text.byteSize s

/-- What an error repeats is a slice of the text from its offset on, with both ends in the text and
between two characters. -/
structure SyntaxError.Located (text : String) (e : SyntaxError) : Prop where
  inside : e.offset ≤ text.utf8ByteSize
  start : String.Pos.Raw.IsValid text ⟨e.offset⟩
  stop : String.Pos.Raw.IsValid text ⟨e.offset + Text.byteSize e.quoted⟩
  quoted : StandsAt e.quoted e.offset text.toList
  placed : e.Placed text.toList

theorem Grammar.Unpartnered.mem {ts : List Token} {t : Token} (h : Unpartnered ts t) : t ∈ ts := by
  cases h <;> simp

namespace Parser

variable {s : List Char} {ts : List Token} {e : SyntaxError}

theorem placed_of_blames (tokenized : Tokenized 0 s ts) (h : Blames ts (Text.byteSize s) e) :
    StandsAt e.quoted e.offset s ∧ e.Placed s := by
  have read : tokens s = .ok ts := tokensFrom_iff.2 tokenized
  cases h with
  | empty none =>
      subst none
      exact ⟨⟨[], s, rfl, rfl⟩, .inl ⟨read, rfl⟩⟩
  | @token t fault mem quoted =>
      have here := tokenized.standsAt_token mem
      refine ⟨?_, .inr (.inl ⟨ts, read, t, mem, rfl⟩)⟩
      change StandsAt fault.quoted t.offset s
      rcases quoted with nothing | lexeme
      · rw [nothing]
        exact here.start
      · rwa [lexeme]
  | @stop fault quoted =>
      refine ⟨?_, .inr (.inr (.inr rfl))⟩
      change StandsAt fault.quoted _ s
      rw [quoted]
      exact .at_end s
  | @operator t mem kind =>
      have isOperator := isOperator_of_lexeme (tokenized.lexeme t mem) kind
      have here := tokenized.standsAt_token mem
      rw [← @String.toList_ofList t.lexeme] at isOperator here
      exact ⟨here, isOperator⟩
  | @operators p t pair former latter adjacent =>
      have here := tokenized.standsAt_pair pair adjacent
      have isOperator : IsOperator (p.lexeme ++ t.lexeme) := by
        obtain ⟨some, chars⟩ := isOperator_of_lexeme (tokenized.lexeme p (pair.mem (by simp))) former
        obtain ⟨-, chars'⟩ := isOperator_of_lexeme (tokenized.lexeme t (pair.mem (by simp))) latter
        exact ⟨by simp [some], List.forall_mem_append.2 ⟨chars, chars'⟩⟩
      rw [← @String.toList_ofList (p.lexeme ++ t.lexeme)] at isOperator here
      exact ⟨here, isOperator⟩
  | opening opened =>
      obtain ⟨⟨t, rfl, unpartnered⟩, unbalanced⟩ := unpartnered_of_unclosed opened
      exact ⟨(tokenized.standsAt_token unpartnered.mem).start, ts, read, unbalanced, t, rfl,
        unpartnered⟩
  | @closing before behind t whole closed kind =>
      obtain ⟨unpartnered, unbalanced⟩ := unpartnered_of_closing behind closed kind
      rw [← whole] at unpartnered unbalanced
      exact ⟨(tokenized.standsAt_token unpartnered.mem).start, ts, read, unbalanced, t, rfl,
        unpartnered⟩

theorem placed_of_refused {before behind : List Char} (tokenized : Tokenized 0 before ts)
    (unread : Unread behind) (h : Refused (Text.byteSize before) behind e) :
    StandsAt e.quoted e.offset (before ++ behind) ∧ e.Placed (before ++ behind) := by
  cases h with
  | @number l run rest number _ chars =>
      refine ⟨⟨before, rest, ?_, rfl⟩, .inr (.inr (.inl ?_))⟩
      · simp [SyntaxError.quoted, OperandFault.quoted]
      · refine ⟨before, _, ts, rfl, rfl, tokenized, unread, .inl ⟨l, run ++ rest, ?_, number⟩⟩
        exact List.append_assoc ..
  | @operator run rest some chars =>
      refine ⟨⟨before, rest, ?_, rfl⟩, ?_⟩
      · simp [SyntaxError.quoted]
      · change IsOperator (String.ofList run).toList
        rw [String.toList_ofList]
        exact ⟨some, chars⟩
  | @character c rest none =>
      refine ⟨⟨before, rest, rfl, rfl⟩, .inr (.inr (.inl ?_))⟩
      exact ⟨before, _, ts, rfl, rfl, tokenized, unread, .inr ⟨c, rest, rfl, none⟩⟩

theorem located_of_placed {text : String} (quoted : StandsAt e.quoted e.offset text.toList)
    (placed : e.Placed text.toList) : e.Located text :=
  ⟨quoted.isValid.le_rawEndPos, quoted.isValid, quoted.stop.isValid, quoted, placed⟩

/-- An error stands in the text, between two of its characters or at an end, and what it repeats stands
there; so do the lexemes of all tokens. -/
theorem error_located {text : String} (h : Expr.ofText? text = .error e) :
    e.Located text ∧ ∀ ts, tokens text.toList = .ok ts → Sliced text.toList ts := by
  constructor
  · cases read : tokens text.toList with
    | ok ts =>
        have tokenized := tokensFrom_iff.1 read
        rw [Expr.ofText?_of_tokens read] at h
        have blames := blames_parseTokens (fun t mem name named =>
          byteSize_of_lexeme (tokenized.lexeme t mem) named) h
        obtain ⟨quoted, placed⟩ := placed_of_blames tokenized blames
        exact located_of_placed quoted placed
    | error fault =>
        rw [Expr.ofText?, Expr.ofChars?, read] at h
        cases h
        obtain ⟨before, behind, ts, split, tokenized, unread, refused⟩ := refused_of_tokensFrom read
        rw [Nat.zero_add] at refused
        obtain ⟨quoted, placed⟩ := placed_of_refused tokenized unread refused
        rw [← split] at quoted placed
        exact located_of_placed quoted placed
  · intro ts read
    have tokenized := tokensFrom_iff.1 read
    exact ⟨fun t => tokenized.standsAt_token, fun p t => tokenized.standsAt_pair⟩

theorem error_located_unbalanced :
    Expr.ofText? "A +\u2003(B" = .error (.unbalancedParentheses 6) ∧
      (SyntaxError.unbalancedParentheses 6).Located "A +\u2003(B" := by
  have tokens : Lexer.tokens "A +\u2003(B".toList = .ok [⟨.name "A", ['A'], 0⟩,
      ⟨.symbol .add, ['+'], 2⟩, ⟨.leftParen, ['('], 6⟩, ⟨.name "B", ['B'], 7⟩] := by
    iterate 4 refine Lexer.tokensFrom_of_token rfl rfl rfl rfl ?_
    exact Lexer.tokensFrom_of_blank rfl
  have refused : Expr.ofText? "A +\u2003(B" = .error (.unbalancedParentheses 6) := by
    rw [Expr.ofText?_of_tokens tokens]
    rfl
  exact ⟨refused, (error_located refused).1⟩

end Parser

end SpanQuery
