import SpanQuery.Proofs.Parser.Printed
import SpanQuery.Proofs.Token.Longest

namespace SpanQuery

namespace Lexer

/-! ## Texts -/

/-- The second text is the first one, which stands `offset` bytes into a query, with blanks put in at
free places. -/
inductive Inserted (free : Nat → Prop) : Nat → List Char → List Char → Prop where
  | nil {offset : Nat} : Inserted free offset [] []
  | keep {offset : Nat} {c : Char} {s s' : List Char} :
      Inserted free (offset + c.utf8Size) s s' → Inserted free offset (c :: s) (c :: s')
  | blank {offset : Nat} {b : Char} {s s' : List Char} :
      free offset → Text.isBlank b → Inserted free offset s s' → Inserted free offset s (b :: s')

namespace Inserted

variable {free : Nat → Prop} {offset : Nat} {s' : List Char}

theorem all_blank {s : List Char} (h : Inserted free offset s s')
    (blank : ∀ c ∈ s, Text.isBlank c) : ∀ c ∈ s', Text.isBlank c := by
  induction h with
  | nil => exact blank
  | keep _ ih =>
      obtain ⟨first, blank⟩ := List.forall_mem_cons.1 blank
      exact List.forall_mem_cons.2 ⟨first, ih blank⟩
  | blank _ first _ ih => exact List.forall_mem_cons.2 ⟨first, ih blank⟩

theorem cons {c : Char} {s : List Char} (h : Inserted free offset (c :: s) s') :
    ∃ blanks behind, s' = blanks ++ c :: behind ∧ (∀ b ∈ blanks, Text.isBlank b) ∧
      (¬ free offset → blanks = []) ∧ Inserted free (offset + c.utf8Size) s behind := by
  generalize whole : c :: s = text at h
  induction h with
  | nil => cases whole
  | @keep offset d text s' rest ih =>
      obtain ⟨rfl, rfl⟩ := List.cons.inj whole
      exact ⟨[], s', rfl, nofun, fun _ => rfl, rest⟩
  | @blank offset b text s' place first _ ih =>
      obtain ⟨blanks, behind, rfl, blank, -, rest⟩ := ih whole
      exact ⟨b :: blanks, behind, rfl, List.forall_mem_cons.2 ⟨first, blank⟩,
        fun occupied => absurd place occupied, rest⟩

theorem blanks {blanks s : List Char} (h : Inserted free offset (blanks ++ s) s')
    (blank : ∀ c ∈ blanks, Text.isBlank c) :
    ∃ blanks' behind, s' = blanks' ++ behind ∧ (∀ b ∈ blanks', Text.isBlank b) ∧
      (blanks = [] → blanks' = []) ∧ Inserted free (offset + Text.byteSize blanks) s behind := by
  induction blanks generalizing offset s' with
  | nil => exact ⟨[], s', rfl, nofun, fun _ => rfl, h⟩
  | cons c blanks ih =>
      obtain ⟨first, blank⟩ := List.forall_mem_cons.1 blank
      obtain ⟨before, behind, rfl, added, -, rest⟩ := h.cons
      obtain ⟨blanks', behind, rfl, more, -, rest⟩ := ih rest blank
      refine ⟨before ++ c :: blanks', behind, by simp, ?_, nofun, ?_⟩
      · exact List.forall_mem_append.2 ⟨added, List.forall_mem_cons.2 ⟨first, more⟩⟩
      · rwa [Text.byteSize, ← Nat.add_assoc]

theorem solid {l s : List Char} (h : Inserted free offset (l ++ s) s')
    (occupied : ∀ place, offset ≤ place → place < offset + Text.byteSize l → ¬ free place) :
    ∃ behind, s' = l ++ behind ∧ Inserted free (offset + Text.byteSize l) s behind := by
  induction l generalizing offset s' with
  | nil => exact ⟨s', rfl, h⟩
  | cons c l ih =>
      have pos := c.utf8Size_pos
      rw [Text.byteSize] at occupied ⊢
      rw [List.cons_append] at h
      obtain ⟨blanks, behind, rfl, -, none, rest⟩ := h.cons
      obtain rfl := none (occupied offset (Nat.le_refl _) (by omega))
      obtain ⟨behind, rfl, left⟩ := ih rest fun place le lt => occupied place (by omega) (by omega)
      rw [← Nat.add_assoc]
      exact ⟨behind, rfl, left⟩

theorem ends {kind : TokenKind} {s : List Char} (h : Inserted free offset s s')
    (ends : Ends kind s) : Ends kind s' := by
  cases h with
  | nil => exact ends
  | keep => exact ends_cons.2 (ends_cons.1 ends)
  | @blank _ b _ _ _ blank =>
      rw [ends_cons]
      by_contra more
      rw [isBlank_of_continuedBy (Bool.of_not_eq_false more)] at blank
      cases blank

theorem token {t : Token} {blanks rest : List Char}
    (h : Inserted free offset (blanks ++ (t.lexeme ++ rest)) s')
    (blank : ∀ c ∈ blanks, Text.isBlank c) (lexeme : Lexeme t.kind t.lexeme)
    (start : t.offset = offset + Text.byteSize blanks)
    (outside : ∀ place, free place → ¬ (t.offset < place ∧ place < t.stop)) :
    ∃ added behind, s' = added ++ (t.lexeme ++ behind) ∧ (∀ b ∈ added, Text.isBlank b) ∧
      (¬ free offset → t.offset = offset → added = []) ∧ Inserted free t.stop rest behind := by
  obtain ⟨c, cs, spelt, -⟩ := visible_of_lexeme lexeme
  have size : t.stop = t.offset + c.utf8Size + Text.byteSize cs := by
    rw [Token.stop, spelt, Text.byteSize, Nat.add_assoc]
  obtain ⟨before, behind, rfl, blank, none, h⟩ := h.blanks blank
  rw [← start, spelt, List.cons_append] at h
  obtain ⟨added, behind, rfl, more, fixed, h⟩ := h.cons
  have occupied (place : Nat) (le : t.offset + c.utf8Size ≤ place)
      (lt : place < t.offset + c.utf8Size + Text.byteSize cs) : ¬ free place := by
    intro isFree
    have pos := c.utf8Size_pos
    exact outside place isFree ⟨by omega, by omega⟩
  obtain ⟨behind, rfl, left⟩ := h.solid occupied
  refine ⟨before ++ added, behind, by simp [spelt], List.forall_mem_append.2 ⟨blank, more⟩, ?_,
    size ▸ left⟩
  intro occupied same
  have nothing : blanks = [] := Text.eq_nil_of_byteSize (by omega)
  rw [none nothing, fixed (same ▸ occupied), List.append_nil]

end Inserted

/-! ## Tokens -/

structure Calls (name opening : Token) : Prop where
  named : ∃ text, name.kind = .name text
  opens : opening.kind = .leftParen
  adjacent : opening.offset = name.stop

/-- The place is neither inside a token nor between the name of a call and its parenthesis. -/
structure Free (ts : List Token) (place : Nat) : Prop where
  outside : ∀ t ∈ ts, ¬ (t.offset < place ∧ place < t.stop)
  apart : ∀ name opening, [name, opening] <:+: ts → Calls name opening → place ≠ name.stop

theorem Free.tail {t : Token} {ts : List Token} {place : Nat} (h : Free (t :: ts) place) :
    Free ts place :=
  ⟨(List.forall_mem_cons.1 h.outside).2,
    fun name opening next => h.apart name opening (next.trans (List.suffix_cons t ts).isInfix)⟩

inductive Respaced : List Token → List Token → Prop where
  | nil : Respaced [] []
  | cons {t t' : Token} {ts ts' : List Token} :
      t'.kind = t.kind →
      (∀ opening ∈ ts.head?, Calls t opening → ∀ opening' ∈ ts'.head?, opening'.offset = t'.stop) →
      Respaced ts ts' → Respaced (t :: ts) (t' :: ts')

theorem Tokenized.inserted {free : Nat → Prop} {offset offset' : Nat} {s s' : List Char}
    {ts : List Token} (h : Tokenized offset s ts) (inserted : Inserted free offset s s')
    (places : ∀ place, free place → Free ts place) :
    ∃ ts', Tokenized offset' s' ts' ∧ Respaced ts ts' ∧
      (¬ free offset → ∀ t ∈ ts.head?, t.offset = offset → ∀ t' ∈ ts'.head?, t'.offset = offset') := by
  induction h generalizing offset' s' with
  | done blank => exact ⟨[], .done (inserted.all_blank blank), .nil, fun _ => nofun⟩
  | @token offset blanks rest t later blank lexeme ends start _ ih =>
      have outside (place : Nat) (isFree : free place) : ¬ (t.offset < place ∧ place < t.stop) :=
        (places place isFree).outside t List.mem_cons_self
      obtain ⟨added, behind, rfl, blank, fixed, left⟩ := inserted.token blank lexeme start outside
      let t' : Token := ⟨t.kind, t.lexeme, offset' + Text.byteSize added⟩
      obtain ⟨later', tokenized, respaced, first⟩ :=
        @ih t'.stop behind left fun place isFree => (places place isFree).tail
      have token : Tokenized offset' (added ++ (t'.lexeme ++ behind)) (t' :: later') :=
        .token blank lexeme (left.ends ends) rfl tokenized
      refine ⟨t' :: later', token, .cons rfl (fun opening mem calls => ?_) respaced, ?_⟩
      -- The place behind the name is not free, so the parenthesis has not moved from it.
      · refine first (fun isFree => ?_) opening mem calls.adjacent
        obtain ⟨later, rfl⟩ := List.head?_eq_some_iff.1 mem
        exact (places t.stop isFree).apart t opening ⟨[], later, rfl⟩ calls rfl
      · rintro occupied _ ⟨⟩ same _ ⟨⟩
        simp [t', fixed occupied same]

theorem Respaced.of_append {us vs ts' : List Token} (h : Respaced (us ++ vs) ts') :
    ∃ us' vs', ts' = us' ++ vs' ∧ Respaced us us' ∧ Respaced vs vs' := by
  induction us generalizing ts' with
  | nil => exact ⟨[], ts', rfl, .nil, h⟩
  | cons t us ih =>
      rw [List.cons_append] at h
      cases h with
      | @cons _ t' _ rest kind calls respaced =>
          obtain ⟨us', vs', rfl, first, second⟩ := ih respaced
          refine ⟨t' :: us', vs', rfl, .cons kind ?_ first, second⟩
          intro opening mem call opening' mem'
          refine calls opening ?_ call opening' ?_
          · rw [List.head?_append, mem]
            rfl
          · rw [List.head?_append, mem']
            rfl

theorem Respaced.of_cons {t : Token} {ts ts' : List Token} (h : Respaced (t :: ts) ts') :
    ∃ t' us', ts' = t' :: us' ∧ t'.kind = t.kind ∧ Respaced ts us' := by
  cases h with
  | cons kind _ respaced => exact ⟨_, _, rfl, kind, respaced⟩

end Lexer

/-! ## Trees -/

namespace Grammar
open Lexer (Respaced)

theorem Separated.respaced {args : List (List Token × α)} {ts ts' : List Token}
    (h : Separated (args.map Prod.fst) ts) (respaced : Respaced ts ts') :
    ∃ args' : List (List Token × α), args'.map Prod.snd = args.map Prod.snd ∧
      Separated (args'.map Prod.fst) ts' ∧
      ∀ arg' ∈ args', ∃ arg ∈ args, Respaced arg.1 arg'.1 ∧ arg'.2 = arg.2 := by
  induction args generalizing ts ts' with
  | nil =>
      cases h
      cases respaced
      exact ⟨[], rfl, .none, nofun⟩
  | cons arg args ih =>
      cases args with
      | nil =>
          cases h
          exact ⟨[(ts', arg.2)], rfl, .one ts',
            List.forall_mem_singleton.2 ⟨arg, List.mem_singleton_self arg, respaced, rfl⟩⟩
      | cons next args =>
          cases h with
          | @more _ _ vs _ comma kind separated =>
              obtain ⟨us', ws', rfl, first, respaced⟩ := respaced.of_append
              obtain ⟨comma', vs', rfl, same, respaced⟩ := respaced.of_cons
              obtain ⟨args', results, separated', members⟩ := ih separated respaced
              refine ⟨(us', arg.2) :: args', ?_, ?_, List.forall_mem_cons.2 ⟨?_, ?_⟩⟩
              · rw [List.map_cons, results, List.map_cons (l := next :: args)]
              · cases args' with
                | nil => cases results
                | cons next' args' => exact .more (same.trans kind) separated'
              · exact ⟨arg, List.mem_cons_self, first, rfl⟩
              · intro arg' mem
                obtain ⟨arg, mem, kept⟩ := members arg' mem
                exact ⟨arg, List.mem_cons_of_mem _ mem, kept⟩

theorem Nested.respaced {charge level n : Nat} {ts ts' : List Token} {e : Expr}
    (h : Nested charge level ts e n) (respaced : Respaced ts ts') :
    Nested charge level ts' e n := by
  induction h generalizing ts' with
  | tighter _ ih => exact .tighter (ih respaced)
  | join operator kind _ _ ihl ihr =>
      obtain ⟨ls', vs', rfl, left, respaced⟩ := respaced.of_append
      obtain ⟨t', rs', rfl, same, right⟩ := respaced.of_cons
      exact .join operator (same.trans kind) (ihl left) (ihr right)
  | sign kind _ ih =>
      obtain ⟨t', us', rfl, same, respaced⟩ := respaced.of_cons
      exact .sign (same ▸ kind) (ih respaced)
  | number kind =>
      obtain ⟨t', us', rfl, same, ⟨⟩⟩ := respaced.of_cons
      exact .number (same.trans kind)
  | name kind =>
      obtain ⟨t', us', rfl, same, ⟨⟩⟩ := respaced.of_cons
      exact .name (same.trans kind)
  | @call name opening closing text ts args kind opens adjacent separated _ closes ih =>
      obtain ⟨before, behind, rfl, beginning, ending⟩ := respaced.of_append
      obtain ⟨closing', vs', rfl, same'', ⟨⟩⟩ := ending.of_cons
      cases beginning with
      | @cons _ name' _ _ same calls tail =>
          obtain ⟨opening', us', rfl, same', inside⟩ := tail.of_cons
          -- What was right behind the name still is, so it is the parenthesis of a call again.
          have adjacent' := calls opening rfl ⟨⟨text, kind⟩, opens, adjacent⟩ opening' rfl
          obtain ⟨args', results, separated', members⟩ := separated.respaced inside
          have trees : args'.map (·.2.1) = args.map (·.2.1) := by
            have same := congrArg (List.map Prod.fst) results
            rwa [List.map_map, List.map_map] at same
          have levels : args'.map (·.2.2) = args.map (·.2.2) := by
            have same := congrArg (List.map Prod.snd) results
            rwa [List.map_map, List.map_map] at same
          rw [← trees, ← levels]
          refine .call (same.trans kind) (same'.trans opens) adjacent' separated' ?_
            (same''.trans closes)
          intro arg' mem
          obtain ⟨arg, given, respaced, result⟩ := members arg' mem
          rw [result]
          exact ih arg given respaced
  | paren opens _ closes ih =>
      obtain ⟨before, behind, rfl, beginning, ending⟩ := respaced.of_append
      obtain ⟨opening', us', rfl, same, inside⟩ := beginning.of_cons
      obtain ⟨closing', vs', rfl, same', ⟨⟩⟩ := ending.of_cons
      exact .paren (same.trans opens) (ih inside) (same'.trans closes)

end Grammar

namespace Parser
open Grammar Lexer

theorem parseTokens_respaced {ts ts' : List Token} {size : Nat} {e : Expr}
    (respaced : Respaced ts ts') (accepted : parseTokens ts size = .ok e) (size' : Nat) :
    parseTokens ts' size' = .ok e := by
  obtain ⟨n, nested⟩ := (derives_of_parseTokens accepted).exists_nested 1
  have run := parseTokens_of_nested nested size
  have room : e.depth ≤ maxNesting ∧ n < maxNesting := by
    by_contra beyond
    rw [if_neg beyond] at run
    obtain ⟨offset, refused⟩ := run
    cases accepted.symm.trans refused
  have run' := parseTokens_of_nested (nested.respaced respaced) size'
  rwa [if_pos room] at run'

/-- Blanks between the tokens of an accepted text, at its start and at its end leave the text accepted
with the same tree. -/
theorem accepts_inserted {text text' : String} {ts : List Token} {e : Expr}
    (tokens : Lexer.tokens text.toList = .ok ts) (accepted : Expr.ofText? text = .ok e)
    (inserted : Inserted (Free ts) 0 text.toList text'.toList) : Expr.ofText? text' = .ok e := by
  obtain ⟨ts', tokenized, respaced, -⟩ :=
    @Tokenized.inserted _ 0 0 _ _ _ (tokensFrom_iff.1 tokens) inserted fun _ => id
  have tokens' : Lexer.tokens text'.toList = .ok ts' := tokensFrom_iff.2 tokenized
  rw [Expr.ofText?_of_tokens tokens] at accepted
  rw [Expr.ofText?_of_tokens tokens']
  exact parseTokens_respaced respaced accepted _

theorem accepts_inserted_call : ∃ ts e, Lexer.tokens "f(A)*-1e2".toList = .ok ts ∧
    e = .binary .mul (.call "f" [.variable "A"]) (.literal (-100)) ∧
    Expr.ofText? "f(A)*-1e2" = .ok e ∧
    Inserted (Free ts) 0 "f(A)*-1e2".toList " f( A )\t* -1e2\u2003".toList ∧
    Expr.ofText? " f( A )\t* -1e2\u2003" = .ok e := by
  have value : Decimal.scaled 1 2 = 100 := by decide +kernel
  let ts : List Token := [⟨.name "f", ['f'], 0⟩, ⟨.leftParen, ['('], 1⟩, ⟨.name "A", ['A'], 2⟩,
    ⟨.rightParen, [')'], 3⟩, ⟨.symbol .mul, ['*'], 4⟩, ⟨.symbol .sub, ['-'], 5⟩,
    ⟨.number (Decimal.scaled 1 2), ['1', 'e', '2'], 6⟩]
  have tokens : Lexer.tokens "f(A)*-1e2".toList = .ok ts := by
    iterate 7 refine Lexer.tokensFrom_of_token rfl rfl rfl rfl ?_
    exact Lexer.tokensFrom_of_blank rfl
  have accepted : Expr.ofText? "f(A)*-1e2" =
      .ok (.binary .mul (.call "f" [.variable "A"]) (.literal (-Decimal.scaled 1 2))) := by
    rw [Expr.ofText?_of_tokens tokens]
    rfl
  have calls (name opening : Token) (next : [name, opening] <:+: ts) (calls : Calls name opening) :
      name.stop = 1 := by
    obtain ⟨-, opens, -⟩ := calls
    simp [ts, List.infix_cons_iff, List.cons_prefix_cons] at next
    rcases next with ⟨rfl, rfl⟩ | ⟨rfl, rfl⟩ | ⟨rfl, rfl⟩ | ⟨rfl, rfl⟩ | ⟨rfl, rfl⟩ | ⟨rfl, rfl⟩
    · rfl
    all_goals cases opens
  have free (place : Nat) (mem : place ∈ [0, 2, 3, 4, 5, 9]) : Free ts place := by
    refine ⟨fun t token inside => ?_, fun name opening next call same => ?_⟩
    · revert place t
      decide
    · rw [calls name opening next call] at same
      subst same
      revert mem
      decide
  have inserted : Inserted (Free ts) 0 "f(A)*-1e2".toList " f( A )\t* -1e2\u2003".toList := by
    refine .blank (free 0 (by decide)) rfl (.keep (.keep ?_))
    refine .blank (free 2 (by decide)) rfl (.keep ?_)
    refine .blank (free 3 (by decide)) rfl (.keep ?_)
    refine .blank (free 4 (by decide)) rfl (.keep ?_)
    refine .blank (free 5 (by decide)) rfl (.keep (.keep (.keep (.keep ?_))))
    exact .blank (free 9 (by decide)) rfl .nil
  rw [value] at accepted
  exact ⟨ts, _, tokens, rfl, accepted, inserted, accepts_inserted tokens accepted inserted⟩

end Parser

end SpanQuery
