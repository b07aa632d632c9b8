import SpanQuery.Proofs.Token.Longest

namespace SpanQuery

/-- What a lexeme is by its spelling alone. -/
inductive LexemeClass where
  | number
  | name
  | operator
  | punctuation
  deriving Repr, DecidableEq

def TokenKind.lexemeClass : TokenKind → LexemeClass
  | .number _ => .number
  | .name _ => .name
  | .symbol _ | .bang => .operator
  | .leftParen | .rightParen | .comma => .punctuation

def TokenKind.IsMark (kind : TokenKind) : Prop :=
  kind.lexemeClass ∈ [.operator, .punctuation]

instance (kind : TokenKind) : Decidable kind.IsMark :=
  inferInstanceAs (Decidable (_ ∈ _))

def TokenKind.Means : TokenKind → List Char → Prop
  | .number value, l => Decimal.unsigned? l = some value
  | .name text, l => text.toList = l
  | .symbol op, l => op.symbol.toList = l
  | .bang, l => UnaryOp.not.symbol.toList = l
  | .leftParen, l => l = ['(']
  | .rightParen, l => l = [')']
  | .comma, l => l = [',']

open Lexer in
def LexemeClass.Spelt : LexemeClass → List Char → Prop
  | .number, l => IsNumber l
  | .name, l => ∃ c cs, l = c :: cs ∧ isNameStart c ∧ ∀ d ∈ cs, isNameChar d
  | .operator, l =>
      (∃ op : BinaryOp, op.symbol.toList = l) ∨ ∃ op : UnaryOp, op.symbol.toList = l
  | .punctuation, l => l ∈ [['('], [')'], [',']]

namespace Lexer

theorem length_le_runLength {p : Char → Bool} {run : List Char} (all : ∀ c ∈ run, p c)
    (rest : List Char) : run.length ≤ runLength p (run ++ rest) := by
  rw [runLength, List.takeWhile_append_of_pos all, List.length_append]
  exact Nat.le_add_right _ _

/-! ## Numbers -/

theorem runLength_le_mantissaLength (s : List Char) :
    runLength Char.isDigit s ≤ mantissaLength s := by
  unfold mantissaLength
  split
  · omega
  · omega
  · split <;> omega

theorem Mantissa.length_le {m : List Char} (h : Mantissa m) (rest : List Char) :
    m.length ≤ mantissaLength (m ++ rest) := by
  cases h with
  | @fraction d ds digits =>
      obtain ⟨places, behind, same, fraction, stop⟩ := exists_run Char.isDigit (d :: ds ++ rest)
      have le := length_le_runLength digits rest
      rw [same, runLength_append fraction stop] at le
      cases places with
      | nil => exact absurd le (Nat.not_succ_le_zero _)
      | cons c places =>
          rw [List.cons_append, same]
          have length := mantissaLength_fraction fraction stop
          rw [List.cons_append] at length
          rw [length]
          exact Nat.succ_le_succ le
  | numeral numeral =>
      cases numeral with
      | whole digits =>
          exact Nat.le_trans (length_le_runLength digits rest) (runLength_le_mantissaLength _)
      | @point d ds places digits fraction =>
          obtain ⟨run, behind, same, all, stop⟩ := exists_run Char.isDigit (places ++ rest)
          have le := length_le_runLength fraction rest
          rw [same, runLength_append all stop] at le
          rw [List.append_assoc, List.cons_append (a := '.'), same,
            mantissaLength_point digits all stop]
          simp only [List.length_append, List.length_cons]
          omega

theorem Exponent.length_le {x : List Char} (h : Exponent x) (rest : List Char) :
    x.length ≤ exponentLength (x ++ rest) := by
  cases h with
  | none => exact Nat.zero_le _
  | @scale mark d sign ds exp signed digits =>
      have le := length_le_runLength digits rest
      rw [List.cons_append, List.append_assoc, exponentLength_scale exp signed digits,
        List.length_cons, List.length_append]
      omega

theorem Mantissa.chars {m : List Char} (h : Mantissa m) : ∀ c ∈ m, c.isDigit ∨ c = '.' := by
  have all {ds : List Char} (digits : ∀ c ∈ ds, c.isDigit) : ∀ c ∈ ds, c.isDigit ∨ c = '.' :=
    fun c mem => .inl (digits c mem)
  cases h with
  | fraction digits => exact List.forall_mem_cons.2 ⟨.inr rfl, all digits⟩
  | numeral numeral =>
      cases numeral with
      | whole digits => exact all digits
      | point digits fraction =>
          exact List.forall_mem_append.2 ⟨all digits, List.forall_mem_cons.2 ⟨.inr rfl, all fraction⟩⟩

theorem Exponent.eq_nil {x rest more : List Char} {c : Char} (h : Exponent x)
    (same : x ++ rest = c :: more) (mantissa : c.isDigit ∨ c = '.') : x = [] := by
  cases h with
  | none => rfl
  | scale exp =>
      obtain ⟨rfl, -⟩ := List.cons.inj same
      fin_cases exp <;> simp at mantissa

theorem IsNumber.length_le {l : List Char} (h : IsNumber l) (rest : List Char) :
    l.length ≤ numberLength (l ++ rest) := by
  obtain ⟨m, x, rfl, mantissa, exponent⟩ := h
  have le := mantissa.length_le (x ++ rest)
  have pos := mantissa.length_pos
  rw [List.append_assoc]
  obtain ⟨longest, behind, same, chars, length⟩ := exists_mantissa (s := m ++ (x ++ rest)) (by omega)
  have read : numberLength (m ++ (x ++ rest)) = longest.length + exponentLength behind := by
    unfold numberLength
    rw [length]
    split
    · omega
    · rw [same, List.drop_left]
  rw [read, List.length_append]
  have whole : longest <+: m ++ (x ++ rest) := ⟨behind, same.symm⟩
  obtain ⟨more, rfl⟩ : m <+: longest :=
    List.prefix_of_prefix_length_le (List.prefix_append _ _) whole (length ▸ le)
  rw [List.append_assoc] at same
  have same := List.append_cancel_left same
  -- Either the mantissa that is read is the given one, and the exponents are compared, or the text goes
  -- on as a mantissa does, and the given number has no exponent.
  cases more with
  | nil =>
      rw [List.nil_append] at same
      rw [List.append_nil, ← same]
      exact Nat.add_le_add_left (exponent.length_le rest) _
  | cons c more =>
      have nothing := exponent.eq_nil same (chars.chars c (by simp))
      rw [nothing, List.length_append, List.length_nil]
      omega

theorem numberLength_pos {l s : List Char} (number : IsNumber l) (here : l <+: s) :
    0 < numberLength s := by
  obtain ⟨rest, rfl⟩ := here
  exact Nat.lt_of_lt_of_le number.length_pos (number.length_le rest)

/-! ## Names -/

theorem length_le_nameLength {c : Char} {cs : List Char} (start : isNameStart c)
    (chars : ∀ d ∈ cs, isNameChar d) (rest : List Char) :
    (c :: cs).length ≤ nameLength (c :: cs ++ rest) := by
  rw [List.cons_append, nameLength, if_pos start, List.length_cons, Nat.add_comm]
  exact Nat.add_le_add_left (length_le_runLength chars rest) 1

theorem nameLength_pos {l s : List Char} (name : LexemeClass.name.Spelt l) (here : l <+: s) :
    0 < nameLength s := by
  obtain ⟨c, cs, rfl, start, chars⟩ := name
  obtain ⟨rest, rfl⟩ := here
  exact Nat.lt_of_lt_of_le (Nat.succ_pos _) (length_le_nameLength start chars rest)

theorem isNameChar_of_isNameStart {c : Char} (h : isNameStart c) : isNameChar c := by
  simp only [isNameStart, Bool.or_eq_true, beq_iff_eq] at h
  simp only [isNameChar, Char.isAlphanum, Bool.or_eq_true, beq_iff_eq]
  tauto

/-! ## Symbols and punctuation -/

-- The order in which marks are tried: the first that fits is the longest because of it.
theorem longer_first : marks.Pairwise fun m m' => m'.1.length ≤ m.1.length := by
  decide

theorem length_le_mark? {m : List Char × TokenKind} (mem : m ∈ marks) (rest : List Char) :
    ∃ found, mark? (m.1 ++ rest) = some found ∧ m.1.length ≤ found.1.length := by
  have here : m.1.isPrefixOf (m.1 ++ rest) := List.isPrefixOf_iff_prefix.2 (List.prefix_append _ _)
  cases read : mark? (m.1 ++ rest) with
  | none => exact absurd here (List.find?_eq_none.1 read m mem)
  | some found =>
      refine ⟨found, rfl, ?_⟩
      obtain ⟨-, before, behind, split, others⟩ := List.find?_eq_some_iff_append.1 read
      have order := longer_first
      rw [split] at order mem
      rcases List.mem_append.1 mem with former | latter
      · have other : (!m.1.isPrefixOf (m.1 ++ rest)) = true := others m former
        rw [here] at other
        cases other
      · rcases List.mem_cons.1 latter with rfl | later
        · exact Nat.le_refl _
        · exact (List.pairwise_cons.1 (List.pairwise_append.1 order).2.1).1 m later

theorem mem_marks_of_means {kind : TokenKind} {l : List Char} (mark : kind.IsMark)
    (means : kind.Means l) : (l, kind) ∈ marks := by
  cases kind with
  | number | name => simp [TokenKind.IsMark, TokenKind.lexemeClass] at mark
  | symbol op =>
      obtain rfl : op.symbol.toList = l := means
      cases op <;> simp [marks, BinaryOp.symbol]
  | bang =>
      obtain rfl : UnaryOp.not.symbol.toList = l := means
      simp [marks, UnaryOp.symbol]
  | leftParen | rightParen | comma =>
      obtain rfl : l = _ := means
      simp [marks]

theorem means_of_mem_marks : ∀ m ∈ marks, m.2.Means m.1 := by
  simp only [marks, List.forall_mem_cons]
  and_intros <;> first | exact rfl | exact List.forall_mem_nil _

theorem isMark_of_mem_marks : ∀ m ∈ marks, m.2.IsMark := by
  decide

theorem spelt_of_means {kind : TokenKind} {l : List Char} (mark : kind.IsMark)
    (means : kind.Means l) : kind.lexemeClass.Spelt l := by
  cases kind with
  | number | name => simp [TokenKind.IsMark, TokenKind.lexemeClass] at mark
  | symbol op => exact .inl ⟨op, means⟩
  | bang => exact .inr ⟨.not, means⟩
  | leftParen | rightParen | comma =>
      obtain rfl : l = _ := means
      simp [TokenKind.lexemeClass, LexemeClass.Spelt]

theorem exists_mark {k : LexemeClass} {l : List Char} (mark : k ∈ [.operator, .punctuation])
    (spelt : k.Spelt l) : ∃ m ∈ marks, m.1 = l ∧ m.2.lexemeClass = k := by
  have listed (kind : TokenKind) (mark : kind.IsMark) (means : kind.Means l)
      (same : kind.lexemeClass = k) : ∃ m ∈ marks, m.1 = l ∧ m.2.lexemeClass = k :=
    ⟨_, mem_marks_of_means mark means, rfl, same⟩
  fin_cases mark
  · rcases spelt with ⟨op, rfl⟩ | ⟨op, rfl⟩
    · exact listed (.symbol op) List.mem_cons_self rfl rfl
    · cases op with
      | plus => exact listed (.symbol .add) List.mem_cons_self rfl rfl
      | neg => exact listed (.symbol .sub) List.mem_cons_self rfl rfl
      | not => exact listed .bang List.mem_cons_self rfl rfl
  · have mem : l ∈ [['('], [')'], [',']] := spelt
    fin_cases mem
    · exact listed .leftParen (by decide) rfl rfl
    · exact listed .rightParen (by decide) rfl rfl
    · exact listed .comma (by decide) rfl rfl

/-! ## What is taken -/

/-- The characters are the longest lexeme at the start of a text, which goes on with the others. Only
a number goes before a lexeme of another class, and it does not run on into a name. -/
structure Taken (kind : TokenKind) (l rest : List Char) : Prop where
  means : kind.Means l
  spelt : kind.lexemeClass.Spelt l
  longest : ∀ (k : LexemeClass) (l' : List Char), k.Spelt l' → l' <+: l ++ rest →
    l'.length ≤ l.length
  only : ∀ (k : LexemeClass) (l' : List Char), k.Spelt l' → l' <+: l ++ rest →
    k = kind.lexemeClass ∨ k = .name ∧ kind.lexemeClass = .number
  apart : kind.lexemeClass = .number → ∀ c ∈ rest.head?, isNameChar c = false

theorem not_isNameChar_of_stop {rest : List Char} (stop : rest.takeWhile isNameChar = []) :
    ∀ c ∈ rest.head?, isNameChar c = false := by
  rintro c head
  obtain ⟨behind, rfl⟩ := List.head?_eq_some_iff.1 head
  rw [List.takeWhile_cons] at stop
  split at stop
  · cases stop
  · exact Bool.of_not_eq_true ‹_›

theorem length_le_of_name {l l' rest : List Char} (stop : rest.takeWhile isNameChar = [])
    (name : LexemeClass.name.Spelt l') (here : l' <+: l ++ rest) : l'.length ≤ l.length := by
  by_contra longer
  obtain ⟨more, rfl⟩ : l <+: l' :=
    List.prefix_of_prefix_length_le (List.prefix_append l rest) here (by omega)
  cases more with
  | nil => simp at longer
  | cons c more =>
      obtain ⟨behind, same⟩ := (List.prefix_append_right_inj l).1 here
      obtain rfl : rest = c :: (more ++ behind) := same.symm
      obtain ⟨d, cs, spelt, start, chars⟩ := name
      have mem : c ∈ d :: cs := spelt ▸ by simp
      have isChar : isNameChar c := by
        rcases List.mem_cons.1 mem with rfl | mem
        · exact isNameChar_of_isNameStart start
        · exact chars c mem
      rw [not_isNameChar_of_stop stop c rfl] at isChar
      cases isChar

theorem spelt_of_isName {l : List Char} (h : isName l) : LexemeClass.name.Spelt l := by
  cases l with
  | nil => cases h
  | cons c cs =>
      simp only [isName, Bool.and_eq_true, List.all_eq_true] at h
      exact ⟨c, cs, rfl, h.1.1, h.1.2⟩

theorem lengths_of_mark {k : LexemeClass} {l s : List Char} (mark : k ∈ [.operator, .punctuation])
    (spelt : k.Spelt l) (here : l <+: s) : numberLength s = 0 ∧ nameLength s = 0 := by
  obtain ⟨m, mem, rfl, -⟩ := exists_mark mark spelt
  obtain ⟨rest, rfl⟩ := here
  exact lengths_mark m mem rest

theorem taken_number {l rest : List Char} {value : Float} (number : IsNumber l)
    (reads : Decimal.unsigned? l = some value) (stop : rest.takeWhile isNameChar = []) :
    Taken (.number value) l rest := by
  have pos := numberLength_pos number (List.prefix_append l rest)
  have unmarked {k : LexemeClass} {l' : List Char} (mark : k ∈ [.operator, .punctuation])
      (spelt : k.Spelt l') : ¬ l' <+: l ++ rest := fun here =>
    Nat.ne_of_gt pos (lengths_of_mark mark spelt here).1
  refine ⟨reads, number, ?_, ?_, fun _ => not_isNameChar_of_stop stop⟩
  · intro k l' spelt here
    cases k with
    | number =>
        obtain ⟨behind, same⟩ := here
        have le := IsNumber.length_le spelt behind
        rwa [same, numberLength_of_isNumber number stop] at le
    | name => exact length_le_of_name stop spelt here
    | operator | punctuation => exact absurd here (unmarked (by decide) spelt)
  · intro k l' spelt here
    cases k with
    | number => exact .inl rfl
    | name => exact .inr ⟨rfl, rfl⟩
    | operator | punctuation => exact absurd here (unmarked (by decide) spelt)

theorem taken_name {l rest : List Char} (name : isName l)
    (stop : rest.takeWhile isNameChar = []) : Taken (.name (String.ofList l)) l rest := by
  have unread := numberLength_name name (takeWhile_eq_nil stop fun _ => isNameChar_of_isDigit)
  have spelt := spelt_of_isName name
  have pos := nameLength_pos spelt (List.prefix_append l rest)
  have other {k : LexemeClass} {l' : List Char} (here : l' <+: l ++ rest) (spelt : k.Spelt l') :
      k = .name := by
    cases k with
    | name => rfl
    | number => exact absurd unread (Nat.ne_of_gt (numberLength_pos spelt here))
    | operator | punctuation =>
        exact absurd (lengths_of_mark (by decide) spelt here).2 (Nat.ne_of_gt pos)
  refine ⟨String.toList_ofList, spelt, ?_, fun k l' spelt here => .inl (other here spelt), nofun⟩
  intro k l' spelt here
  obtain rfl := other here spelt
  exact length_le_of_name stop spelt here

theorem lexemeClass_of_head : ∀ m ∈ marks, ∀ m' ∈ marks, m.1.head? = m'.1.head? →
    m.2.lexemeClass = m'.2.lexemeClass := by
  decide

theorem taken_mark {m : List Char × TokenKind} (mem : m ∈ marks) {rest : List Char}
    (ends : Ends m.2 rest) : Taken m.2 m.1 rest := by
  obtain ⟨unread, unnamed⟩ := lengths_mark m mem rest
  have isMark := isMark_of_mem_marks m mem
  have means := means_of_mem_marks m mem
  have found {k : LexemeClass} {l' : List Char} (spelt : k.Spelt l') (here : l' <+: m.1 ++ rest) :
      ∃ m' ∈ marks, m'.1 = l' ∧ m'.2.lexemeClass = k := by
    cases k with
    | number => exact absurd unread (Nat.ne_of_gt (numberLength_pos spelt here))
    | name => exact absurd unnamed (Nat.ne_of_gt (nameLength_pos spelt here))
    | operator | punctuation => exact exists_mark (by decide) spelt
  refine ⟨means, spelt_of_means isMark means, ?_, ?_, fun number => ?_⟩
  · intro k l' spelt here
    obtain ⟨m', mem', rfl, -⟩ := found spelt here
    obtain ⟨behind, same⟩ := here
    obtain ⟨longest, read, le⟩ := length_le_mark? mem' behind
    rw [same, mark?_append m mem rest ends] at read
    rwa [Option.some.inj read]
  · intro k l' spelt here
    obtain ⟨m', mem', rfl, rfl⟩ := found spelt here
    obtain ⟨c, cs, first, -⟩ := visible_of_lexeme (.mark mem)
    obtain ⟨c', cs', first', -⟩ := visible_of_lexeme (.mark mem')
    obtain ⟨behind, same⟩ := here
    rw [first, first'] at same
    obtain rfl : c' = c := (List.cons.inj same).1
    refine .inl (lexemeClass_of_head m' mem' m mem ?_)
    rw [first, first', List.head?_cons, List.head?_cons]
  · rw [TokenKind.IsMark, number] at isMark
    simp at isMark

theorem taken_of_lexeme {kind : TokenKind} {l rest : List Char} (lexeme : Lexeme kind l)
    (ends : Ends kind rest) : Taken kind l rest := by
  cases lexeme with
  | number number reads => exact taken_number number reads ends
  | name name => exact taken_name name ends
  | mark mem => exact taken_mark mem ends

theorem isName_of_taken {text : String} {l rest : List Char} (h : Taken (.name text) l rest) :
    isName l := by
  obtain ⟨c, cs, rfl, start, chars⟩ := h.spelt
  rw [isName, start, List.all_eq_true.2 chars, Bool.true_and, Bool.true_and, Bool.not_eq_true']
  by_contra point
  rw [Bool.not_eq_false, Bool.and_eq_true, beq_iff_eq] at point
  obtain ⟨rfl, digit⟩ := point
  cases cs with
  | nil => cases digit
  | cons d cs =>
      have number : IsNumber ['.', d] :=
        ⟨_, [], rfl, .fraction (List.forall_mem_singleton.2 digit), .none⟩
      rcases h.only .number _ number ⟨cs ++ rest, rfl⟩ with other | ⟨other, -⟩ <;> cases other

theorem ends_of_taken {kind : TokenKind} {l rest : List Char} (h : Taken kind l rest) :
    Ends kind rest := by
  cases rest with
  | nil => rfl
  | cons c rest =>
      rw [ends_cons]
      by_contra more
      have more : kind.continuedBy c := Bool.of_not_eq_false more
      have here : l ++ [c] <+: l ++ c :: rest := ⟨rest, by simp⟩
      have longest {k : LexemeClass} (spelt : k.Spelt (l ++ [c])) : False := by
        have le := h.longest k _ spelt here
        rw [List.length_append, List.length_singleton] at le
        omega
      have marked (mark : kind.IsMark) : False := by
        obtain ⟨m, mem, same, -⟩ := exists_longer _ (mem_marks_of_means mark h.means) c more
        have spelt := spelt_of_means (isMark_of_mem_marks m mem) (means_of_mem_marks m mem)
        exact longest (same ▸ spelt)
      cases kind with
      | number => exact Bool.false_ne_true ((h.apart rfl c rfl).symm.trans more)
      | name =>
          obtain ⟨d, cs, rfl, start, chars⟩ := h.spelt
          have name : LexemeClass.name.Spelt (d :: cs ++ [c]) :=
            ⟨d, cs ++ [c], rfl, start,
              List.forall_mem_append.2 ⟨chars, List.forall_mem_singleton.2 more⟩⟩
          exact longest name
      | symbol | bang => exact marked List.mem_cons_self
      | leftParen | rightParen | comma => exact marked (by decide)

theorem lexeme_of_taken {kind : TokenKind} {l rest : List Char} (h : Taken kind l rest) :
    Lexeme kind l := by
  have marked (mark : kind.IsMark) : Lexeme kind l := .mark (mem_marks_of_means mark h.means)
  cases kind with
  | number => exact .number h.spelt h.means
  | name =>
      have named := h.means
      rw [TokenKind.Means, ← String.ofList_inj, String.ofList_toList] at named
      exact named ▸ .name (isName_of_taken h)
  | symbol | bang => exact marked List.mem_cons_self
  | leftParen | rightParen | comma => exact marked (by decide)

end Lexer

end SpanQuery
