import SpanQuery.Proofs.Parser.Limit
import SpanQuery.Proofs.Token.Sound

namespace SpanQuery

open Grammar

/-! ## Trees of queries -/

theorem Grammar.Separated.mem {tss : List (List Token)} {ts us : List Token}
    (h : Separated tss ts) (mem : us ∈ tss) : ∀ t ∈ us, t ∈ ts := by
  induction h with
  | none => cases mem
  | one ts =>
      obtain rfl := List.mem_singleton.1 mem
      exact fun _ => id
  | more _ _ ih =>
      intro t ht
      rcases List.mem_cons.1 mem with rfl | mem
      · exact List.mem_append_left _ ht
      · exact List.mem_append_right _ (List.mem_cons_of_mem _ (ih mem t ht))

namespace Expr

structure Queried (e : Expr) : Prop where
  printable : e.Printable
  numeric : ∀ v ∈ e.literals, v.isNaN = false

theorem Queried.signed {e : Expr} (h : e.Queried) (op : UnaryOp) : (signed op e).Queried := by
  obtain ⟨printable, numeric⟩ := h
  cases e with
  | literal value =>
      have number : value.isNaN = false := numeric value (by simp [literals])
      cases op with
      | plus => exact ⟨.literal value, numeric⟩
      | neg => exact ⟨.literal (-value), List.forall_mem_singleton.2 (isNaN_neg number)⟩
      | not => exact ⟨.unary (.inl rfl) (.literal value), numeric⟩
  | «variable» | unary | binary | call =>
      cases op <;> exact ⟨.unary (.inr fun _ same => by cases same) printable, numeric⟩

theorem exists_mem_of_literalsInAll {args : List Expr} {v : Float} (h : v ∈ literalsInAll args) :
    ∃ e ∈ args, v ∈ e.literals := by
  induction args with
  | nil => cases h
  | cons e args ih =>
      rw [literalsInAll, List.mem_append] at h
      rcases h with here | later
      · exact ⟨e, List.mem_cons_self, here⟩
      · obtain ⟨e', mem, hv⟩ := ih later
        exact ⟨e', List.mem_cons_of_mem e mem, hv⟩

theorem queried_of_derives {level : Nat} {ts : List Token} {e : Expr} (h : Derives level ts e)
    (sound : ∀ t ∈ ts, t.kind.Sound) : e.Queried := by
  induction h with
  | tighter _ ih => exact ih sound
  | join _ _ _ _ ihl ihr =>
      obtain ⟨left, right⟩ := List.forall_mem_append.1 sound
      obtain ⟨-, right⟩ := List.forall_mem_cons.1 right
      have l := ihl left
      have r := ihr right
      exact ⟨.binary l.printable r.printable, List.forall_mem_append.2 ⟨l.numeric, r.numeric⟩⟩
  | sign _ _ ih =>
      obtain ⟨-, operand⟩ := List.forall_mem_cons.1 sound
      exact (ih operand).signed _
  | @number t value kind =>
      have number := List.forall_mem_singleton.1 sound
      rw [kind] at number
      exact ⟨.literal value, List.forall_mem_singleton.2 number⟩
  | @name t text kind =>
      have isName := List.forall_mem_singleton.1 sound
      rw [kind] at isName
      exact ⟨.name isName, nofun⟩
  | @call name _ _ _ ts args kind _ _ separated _ _ ih =>
      have isName := sound name List.mem_cons_self
      rw [kind] at isName
      have queried : ∀ e ∈ args.map Prod.snd, e.Queried := by
        intro e mem
        obtain ⟨arg, given, rfl⟩ := List.mem_map.1 mem
        refine ih arg given fun t ht => sound t ?_
        have inside : t ∈ ts := separated.mem (List.mem_map_of_mem given) t ht
        simp [inside]
      refine ⟨.call isName fun e mem => (queried e mem).printable, fun v hv => ?_⟩
      obtain ⟨e, mem, hv⟩ := exists_mem_of_literalsInAll hv
      exact (queried e mem).numeric v hv
  | paren _ _ _ ih =>
      refine ih fun t ht => sound t ?_
      simp [ht]

theorem queried_of_ofText? {text : String} {e : Expr} (accepted : ofText? text = .ok e) :
    e.Queried := by
  obtain ⟨ts, tokens, run⟩ := Parser.ok_of_bind (show _ >>= _ = Except.ok e from accepted)
  exact queried_of_derives (Parser.derives_of_parseTokens run) (Lexer.sound_of_tokensFrom tokens)

/-! ## What is read again -/

theorem levels_mono {charge charge' : Nat} (le : charge ≤ charge') :
    (e : Expr) → e.levels charge ≤ e.levels charge'
  | .literal _ => Nat.le_refl _
  | .variable _ => Nat.le_refl 0
  | .unary _ e => by
      have inner := e.levels_mono le
      rw [levels, levels]
      omega
  | .binary _ l r => by
      have left := l.levels_mono le
      have right := r.levels_mono le
      rw [levels, levels]
      omega
  | .call _ args => by
      rw [levels, levels]
      exact all args
where
  all : (args : List Expr) → levelsOfAll charge args ≤ levelsOfAll charge' args
    | [] => Nat.le_refl 0
    | e :: args => by
        have first := e.levels_mono le
        have rest := all args
        rw [levelsOfAll, levelsOfAll]
        omega

theorem of_mem_occurrences_reread {name : String} :
    (e : Expr) → (∀ v ∈ e.literals, v.isNaN = false) → name ∈ e.reread.occurrences →
      name ∈ e.occurrences ∨ name = "inf" ∧
        ∃ v ∈ e.literals, ∃ negative, Binary64.ofFloat v = .infinity negative
  | .literal value, numeric, mem => by
      rw [reread, rereadLiteral] at mem
      cases pattern : Binary64.ofFloat value with
      | nan =>
          have number := numeric value (by simp [literals])
          rw [isNaN_of_ofFloat pattern] at number
          cases number
      | infinity negative =>
          rw [pattern] at mem
          refine .inr ⟨?_, value, by simp [literals], negative, pattern⟩
          cases negative <;> exact List.mem_singleton.1 mem
      | finite =>
          rw [pattern] at mem
          cases mem
  | .variable _, _, mem => .inl mem
  | .unary _ e, numeric, mem => e.of_mem_occurrences_reread numeric mem
  | .binary _ l r, numeric, mem => by
      rw [literals, List.forall_mem_append] at numeric
      rw [occurrences, literals]
      rw [reread, occurrences] at mem
      simp only [List.mem_append]
      rcases List.mem_append.1 mem with mem | mem
      · have left := l.of_mem_occurrences_reread numeric.1 mem
        grind
      · have right := r.of_mem_occurrences_reread numeric.2 mem
        grind
  | .call _ args, numeric, mem => all args numeric mem
where
  all : (args : List Expr) → (∀ v ∈ literalsInAll args, v.isNaN = false) →
      name ∈ occurrencesInAll (rereadAll args) →
      name ∈ occurrencesInAll args ∨ name = "inf" ∧
        ∃ v ∈ literalsInAll args, ∃ negative, Binary64.ofFloat v = .infinity negative
    | [], _, mem => .inl mem
    | e :: args, numeric, mem => by
        rw [literalsInAll, List.forall_mem_append] at numeric
        rw [occurrencesInAll, literalsInAll]
        rw [rereadAll, occurrencesInAll] at mem
        simp only [List.mem_append]
        rcases List.mem_append.1 mem with mem | mem
        · have first := e.of_mem_occurrences_reread numeric.1 mem
          grind
        · have rest := all args numeric.2 mem
          grind

/-- The tokens of the printed form of a query derive its tree, but for its infinite literals. They are accepted if they stand inside at most 255 levels, right operands among them, and refused for
their nesting if parentheses and signs alone are more than these. A variable that was none before is
the name of an infinite literal. -/
theorem text_reread {text : String} {e : Expr} (accepted : Expr.ofText? text = .ok e) :
    (∃ ts, Lexer.tokens e.text.toList = .ok ts ∧
      ∀ charge, Nested charge 1 ts e.reread (e.levels charge)) ∧
    (e.levels 1 ≤ 255 → Expr.ofText? e.text = .ok e.reread) ∧
    (255 < e.levels 0 →
      ∃ offset fault, Expr.ofText? e.text = .error (.malformedOperand offset fault) ∧
        fault.message = "expression nested deeper than 256 levels") ∧
    ∀ e', Expr.ofText? e.text = .ok e' → e' = e.reread ∧
      ∀ name ∈ e'.variableNames, name ∈ e.variableNames ∨ name = "inf" ∧
        ∃ v ∈ e.literals, ∃ negative, Binary64.ofFloat v = .infinity negative := by
  have queried := queried_of_ofText? accepted
  obtain ⟨ts, tokens, nested⟩ := Lexer.tokens_chars queried.printable
  have read := ofText?_text queried.printable
  refine ⟨⟨ts, ?_, nested⟩, fun low => ?_, fun deep => ?_, fun e' again => ?_⟩
  · rw [Expr.text, String.toList_ofList, tokens]
  · have room : e.levels 1 < Parser.maxNesting := Nat.lt_succ_of_le low
    rwa [if_pos room] at read
  · have no_room : ¬ e.levels 1 < Parser.maxNesting :=
      Nat.not_lt.2 (Nat.le_trans deep (e.levels_mono (Nat.zero_le 1)))
    rw [if_neg no_room] at read
    obtain ⟨offset, refused⟩ := read
    exact ⟨offset, .tooDeep Parser.maxNesting, refused, by decide⟩
  · split at read
    · obtain rfl := Except.ok.inj (again.symm.trans read)
      refine ⟨rfl, fun name mem => ?_⟩
      simp only [variableNames, List.mem_eraseDups] at mem ⊢
      exact e.of_mem_occurrences_reread queried.numeric mem
    · obtain ⟨offset, refused⟩ := read
      cases again.symm.trans refused

theorem ofText?_infinite : Expr.ofText? "1e999" = .ok (.literal (1.0 / 0.0)) := by
  have tokens : Lexer.tokens "1e999".toList =
      .ok [⟨.number (1.0 / 0.0), ['1', 'e', '9', '9', '9'], 0⟩] := by
    refine Lexer.tokensFrom_of_token rfl rfl rfl rfl ?_
    exact Lexer.tokensFrom_of_blank rfl
  rw [ofText?_of_tokens tokens]
  rfl

theorem text_infinite : (literal (1.0 / 0.0)).text = "inf" := by
  decide +kernel

theorem text_reread_infinite : ∃ e, e = .literal (1.0 / 0.0) ∧ Expr.ofText? "1e999" = .ok e ∧
    Expr.ofText? e.text = .ok (.variable "inf") := by
  refine ⟨_, rfl, ofText?_infinite, ?_⟩
  have pattern : Binary64.ofFloat (1.0 / 0.0) = .infinity false := by decide +kernel
  have name : (literal (1.0 / 0.0)).reread = .variable "inf" := by
    rw [reread, rereadLiteral, pattern]
    rfl
  have low : (literal (1.0 / 0.0)).levels 1 ≤ 255 := by
    rw [levels, pattern]
    decide
  rw [← name]
  exact (text_reread ofText?_infinite).2.1 low

section FlatSum

variable (k : Nat)

def leftSum : Nat → Expr
  | 0 => .literal (-1)
  | k + 1 => .binary .add (leftSum k) (.variable "A")

theorem depth_leftSum : (leftSum k).depth = k + 1 := by
  induction k with
  | zero => rfl
  | succ k ih =>
      rw [leftSum, depth, ih, depth]
      omega

theorem levels_leftSum : (leftSum k).levels 0 = k + 1 := by
  induction k with
  | zero =>
      have negative : (Binary64.ofFloat (-1)).isNegative := by decide +kernel
      rw [leftSum, levels, if_pos negative]
  | succ k ih =>
      rw [leftSum, levels, ih, levels]
      omega

def flatSum : List Char :=
  "-1".toList ++ (List.replicate k " + A".toList).flatten

theorem becomes_flatSum :
    Lexer.Becomes (flatSum k) fun ts => Nested 1 4 ts (leftSum k) 1 := by
  induction k with
  | zero =>
      have written : flatSum 0 = Layout.plain.chars (-1) := by decide +kernel
      have same : (literal (-1)).reread = literal (-1) := rfl
      have levels : (literal (-1)).levels 1 = 1 := by
        have negative : (Binary64.ofFloat (-1)).isNegative := by decide +kernel
        rw [levels, if_pos negative]
      rw [written]
      refine (Lexer.becomes_literal (-1)).mono fun ts rereads => ?_
      have nested := (rereads 1).loosen (show 4 ≤ 7 by decide)
      rwa [same, levels] at nested
  | succ k ih =>
      have name : Lexer.isName "A".toList := by decide
      have addend := (Lexer.becomes_variable name).blank.cons _ (Lexer.visible_binary .add)
        fun offset rest => by
          rw [List.cons_append]
          exact Lexer.classify_binary .add offset _
      have written : flatSum (k + 1) = flatSum k ++ ' ' :: (BinaryOp.add.symbol.toList ++
          ' ' :: "A".toList) := by
        rw [flatSum, List.replicate_succ', List.flatten_append, ← List.append_assoc]
        rfl
      rw [written]
      refine (ih.append (by simp [Lexer.Apart]) addend.blank).mono ?_
      rintro _ ⟨ls, _, rfl, left, t, rs, rfl, kind, right⟩
      exact .join (by decide) kind left ((right 1).loosen (by decide))

theorem ofText?_flatSum (low : k < 256) :
    Expr.ofText? (String.ofList (flatSum k)) = .ok (leftSum k) := by
  obtain ⟨ts, nested, tokens⟩ := @becomes_flatSum k 0 [] [] trivial (Lexer.tokensFrom_of_blank rfl)
  rw [List.append_nil, List.append_nil, ← @String.toList_ofList (flatSum k)] at tokens
  have run := Parser.parseTokens_of_nested (nested.loosen (show 1 ≤ 4 by decide))
    (Text.byteSize (String.ofList (flatSum k)).toList)
  have room : (leftSum k).depth ≤ Parser.maxNesting ∧ 1 < Parser.maxNesting := by
    rw [depth_leftSum]
    exact ⟨low, by decide⟩
  rw [if_pos room] at run
  rw [ofText?_of_tokens tokens, run]

theorem refused_leftSum {k : Nat} (deep : 255 ≤ k) (printable : (leftSum k).Printable) :
    ¬ ∃ e', Expr.ofText? (leftSum k).text = .ok e' := by
  rintro ⟨e', again⟩
  have read := ofText?_text printable
  have more := (leftSum k).levels_mono (Nat.zero_le 1)
  rw [levels_leftSum] at more
  have no_room : ¬ (leftSum k).levels 1 < Parser.maxNesting :=
    Nat.not_lt.2 (Nat.le_trans (Nat.succ_le_succ deep) more)
  rw [if_neg no_room] at read
  obtain ⟨offset, refused⟩ := read
  cases again.symm.trans refused

end FlatSum

/-- The printed form of a deepest sum is refused for its parentheses and its sign, and that of an
infinite literal is a variable. -/
theorem text_not_reread :
    (∃ e, Expr.ofText? (String.ofList (flatSum 255)) = .ok e ∧ e.depth = 256 ∧
      ¬ ∃ e', Expr.ofText? e.text = .ok e') ∧
    ∃ e e', Expr.ofText? "1e999" = .ok e ∧ Expr.ofText? e.text = .ok e' ∧
      "inf" ∈ e'.variableNames ∧ "inf" ∉ e.variableNames := by
  constructor
  · have accepted := ofText?_flatSum 255 (by decide)
    exact ⟨_, accepted, depth_leftSum 255,
      refused_leftSum (Nat.le_refl 255) (queried_of_ofText? accepted).printable⟩
  · have tokens : Lexer.tokens "inf".toList = .ok [⟨.name "inf", ['i', 'n', 'f'], 0⟩] := by
      refine Lexer.tokensFrom_of_token rfl rfl rfl rfl ?_
      exact Lexer.tokensFrom_of_blank rfl
    have name : Expr.ofText? "inf" = .ok (.variable "inf") := by
      rw [ofText?_of_tokens tokens]
      rfl
    exact ⟨_, _, ofText?_infinite, text_infinite ▸ name, by decide, by decide⟩

end Expr

end SpanQuery
