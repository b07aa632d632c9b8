import SpanQuery.Proofs.Token.Sound

/-!
# What the tokens of a text are

How a token is spelt (`Lexer.Lexeme`) and where it ends (`Lexer.Ends`), without how it is found.
-/

namespace SpanQuery

theorem Text.eq_nil_of_byteSize {s : List Char} (h : byteSize s = 0) : s = [] := by
  cases s with
  | nil => rfl
  | cons c s =>
      have pos := c.utf8Size_pos
      rw [byteSize] at h
      omega

def TokenKind.continuedBy : TokenKind → Char → Bool
  | .number _, c | .name _, c => Lexer.isNameChar c
  | .symbol .mul, c => c == '*'
  | .symbol .div, c => c == '/'
  | .symbol .lt, c | .symbol .gt, c | .bang, c => c == '='
  | _, _ => false

namespace Lexer

theorem takeWhile_eq_nil {p q : Char → Bool} {s : List Char} (stop : s.takeWhile p = [])
    (imp : ∀ c, q c → p c) : s.takeWhile q = [] := by
  cases s with
  | nil => rfl
  | cons c s =>
      have other : ¬ q c := fun more => by simp [imp c more] at stop
      rw [List.takeWhile_cons, if_neg other]

theorem exists_run (p : Char → Bool) (s : List Char) :
    ∃ run rest, s = run ++ rest ∧ (∀ c ∈ run, p c) ∧ rest.takeWhile p = [] := by
  refine ⟨s.takeWhile p, s.dropWhile p, List.takeWhile_append_dropWhile.symm,
    fun c mem => List.mem_takeWhile_imp mem, ?_⟩
  induction s with
  | nil => rfl
  | cons c s ih =>
      by_cases more : p c
      · rwa [List.dropWhile_cons, if_pos more]
      · rw [List.dropWhile_cons, if_neg more, List.takeWhile_cons, if_neg more]

theorem isNameChar_of_isDigit {c : Char} (h : c.isDigit) : isNameChar c := by
  simp [isNameChar, Char.isAlphanum, h]

/-! ## Numbers -/

inductive Mantissa : List Char → Prop where
  | numeral {s : List Char} : Numeral s → Mantissa s
  | fraction {d : Char} {ds : List Char} : (∀ c ∈ d :: ds, c.isDigit) → Mantissa ('.' :: d :: ds)

inductive Exponent : List Char → Prop where
  | none : Exponent []
  | scale {mark d : Char} {sign ds : List Char} :
      mark ∈ ['e', 'E'] → sign ∈ [[], ['+'], ['-']] → (∀ c ∈ d :: ds, c.isDigit) →
      Exponent (mark :: (sign ++ d :: ds))

def IsNumber (s : List Char) : Prop :=
  ∃ m x, s = m ++ x ∧ Mantissa m ∧ Exponent x

theorem Numeral.isNumber {s : List Char} (h : Numeral s) : IsNumber s :=
  ⟨s, [], (List.append_nil s).symm, .numeral h, .none⟩

theorem mantissaLength_fraction {d : Char} {ds rest : List Char}
    (digits : ∀ c ∈ d :: ds, c.isDigit) (stop : rest.takeWhile Char.isDigit = []) :
    mantissaLength ('.' :: d :: ds ++ rest) = ('.' :: d :: ds).length := by
  have whole : runLength Char.isDigit ('.' :: d :: ds ++ rest) = 0 := rfl
  have places : runLength Char.isDigit (d :: ds ++ rest) = ds.length + 1 :=
    runLength_append digits stop
  rw [List.cons_append] at whole ⊢
  simp only [mantissaLength, whole, places, List.length_cons]

theorem mantissaLength_of_mantissa {m rest : List Char} (mantissa : Mantissa m)
    (stop : rest.takeWhile Char.isDigit = []) (pointless : rest.head? ≠ some '.') :
    mantissaLength (m ++ rest) = m.length := by
  cases mantissa with
  | fraction digits => exact mantissaLength_fraction digits stop
  | numeral numeral =>
      cases numeral with
      | whole digits => exact mantissaLength_whole digits stop pointless
      | @point d ds places digits fraction =>
          rw [List.append_assoc, List.cons_append (a := '.'),
            mantissaLength_point digits fraction stop]
          simp only [List.length_append, List.length_cons]
          omega

theorem exists_mantissa {s : List Char} (pos : mantissaLength s ≠ 0) :
    ∃ m rest, s = m ++ rest ∧ Mantissa m ∧ mantissaLength s = m.length := by
  obtain ⟨ds, rest, rfl, digits, stop⟩ := exists_run Char.isDigit s
  cases ds with
  | cons d ds =>
      by_cases point : rest.head? = some '.'
      · obtain ⟨behind, rfl⟩ := List.head?_eq_some_iff.1 point
        obtain ⟨places, rest, rfl, fraction, stop⟩ := exists_run Char.isDigit behind
        refine ⟨d :: ds ++ '.' :: places, rest, by simp, .numeral (.point digits fraction), ?_⟩
        rw [mantissaLength_point digits fraction stop]
        simp only [List.length_append, List.length_cons]
        omega
      · exact ⟨_, rest, rfl, .numeral (.whole digits), mantissaLength_whole digits stop point⟩
  | nil =>
      have whole : runLength Char.isDigit rest = 0 := by rw [runLength, stop, List.length_nil]
      rw [List.nil_append] at pos ⊢
      unfold mantissaLength at pos
      rw [whole] at pos
      split at pos
      · rename_i behind _
        obtain ⟨places, rest, rfl, fraction, ended⟩ := exists_run Char.isDigit behind
        cases places with
        | nil => simp [runLength, ended] at pos
        | cons d ds =>
            exact ⟨_, rest, rfl, .fraction fraction, mantissaLength_fraction fraction ended⟩
      · exact absurd rfl pos
      · exact absurd rfl ‹_›

def signLength : List Char → Nat
  | '+' :: _ | '-' :: _ => 1
  | _ => 0

theorem signLength_digit {d : Char} (digit : d.isDigit) (s : List Char) :
    signLength (d :: s) = 0 := by
  unfold signLength
  split
  · rename_i plus
    rw [(List.cons.inj plus).1] at digit
    cases digit
  · rename_i minus
    rw [(List.cons.inj minus).1] at digit
    cases digit
  · rfl

theorem exists_sign (s : List Char) :
    ∃ sign rest, s = sign ++ rest ∧ sign ∈ [[], ['+'], ['-']] ∧ signLength s = sign.length := by
  unfold signLength
  split
  · exact ⟨['+'], _, rfl, by simp, rfl⟩
  · exact ⟨['-'], _, rfl, by simp, rfl⟩
  · exact ⟨[], s, rfl, by simp, rfl⟩

theorem exponentLength_mark {mark : Char} (exp : mark ∈ ['e', 'E']) (s : List Char) :
    exponentLength (mark :: s) =
      match runLength Char.isDigit (s.drop (signLength s)) with
      | 0 => 0
      | places => 1 + signLength s + places := by
  fin_cases exp <;> rfl

theorem exponentLength_other {c : Char} (other : c ∉ ['e', 'E']) (s : List Char) :
    exponentLength (c :: s) = 0 := by
  unfold exponentLength
  exact if_neg (by simpa using other)

theorem exponentLength_scale {mark d : Char} {sign ds rest : List Char} (exp : mark ∈ ['e', 'E'])
    (signed : sign ∈ [[], ['+'], ['-']]) (digits : ∀ c ∈ d :: ds, c.isDigit) :
    exponentLength (mark :: (sign ++ (d :: ds ++ rest))) =
      1 + sign.length + runLength Char.isDigit (d :: ds ++ rest) := by
  have digit : d.isDigit := digits d List.mem_cons_self
  have length : signLength (sign ++ (d :: ds ++ rest)) = sign.length := by
    fin_cases signed
    · exact signLength_digit digit _
    · rfl
    · rfl
  have some : runLength Char.isDigit (d :: ds ++ rest) = runLength Char.isDigit (ds ++ rest) + 1 := by
    simp [runLength, digit]
  rw [exponentLength_mark exp, length, List.drop_left, some]
  rfl

theorem exponentLength_of_exponent {x rest : List Char} (exponent : Exponent x)
    (stop : rest.takeWhile isNameChar = []) : exponentLength (x ++ rest) = x.length := by
  cases exponent with
  | none =>
      cases rest with
      | nil => rfl
      | cons c rest =>
          refine exponentLength_other (fun exp => ?_) rest
          fin_cases exp <;> cases stop
  | @scale mark d sign ds exp signed digits =>
      have places : runLength Char.isDigit (d :: ds ++ rest) = ds.length + 1 :=
        runLength_append digits (takeWhile_eq_nil stop fun _ => isNameChar_of_isDigit)
      rw [List.cons_append, List.append_assoc, exponentLength_scale exp signed digits, places]
      change 1 + sign.length + (ds.length + 1) = (sign ++ d :: ds).length + 1
      rw [List.length_append, List.length_cons]
      omega

theorem exists_exponent (s : List Char) :
    ∃ x rest, s = x ++ rest ∧ Exponent x ∧ exponentLength s = x.length := by
  cases s with
  | nil => exact ⟨[], [], rfl, .none, rfl⟩
  | cons mark s =>
      by_cases exp : mark ∈ ['e', 'E']
      · obtain ⟨sign, behind, rfl, signed, length⟩ := exists_sign s
        obtain ⟨ds, rest, rfl, digits, stop⟩ := exists_run Char.isDigit behind
        have places : runLength Char.isDigit (ds ++ rest) = ds.length := runLength_append digits stop
        rw [exponentLength_mark exp, length, List.drop_left, places]
        cases ds with
        | nil => exact ⟨[], _, rfl, .none, rfl⟩
        | cons d ds =>
            refine ⟨mark :: (sign ++ d :: ds), rest, by simp, .scale exp signed digits, ?_⟩
            change 1 + sign.length + (ds.length + 1) = (sign ++ d :: ds).length + 1
            rw [List.length_append, List.length_cons]
            omega
      · exact ⟨[], _, rfl, .none, exponentLength_other exp s⟩

theorem Mantissa.length_pos {m : List Char} (h : Mantissa m) : 0 < m.length := by
  cases h with
  | fraction => exact Nat.succ_pos _
  | numeral numeral =>
      obtain ⟨d, ds, rfl, -⟩ := numeral.head
      exact Nat.succ_pos _

theorem IsNumber.length_pos {l : List Char} (h : IsNumber l) : 0 < l.length := by
  obtain ⟨m, x, rfl, mantissa, -⟩ := h
  have pos := mantissa.length_pos
  rw [List.length_append]
  omega

theorem stop_of_exponent {x rest : List Char} (exponent : Exponent x)
    (stop : rest.takeWhile isNameChar = []) :
    (x ++ rest).takeWhile Char.isDigit = [] ∧ (x ++ rest).head? ≠ some '.' := by
  cases exponent with
  | none =>
      refine ⟨takeWhile_eq_nil stop fun _ => isNameChar_of_isDigit, fun point => ?_⟩
      obtain ⟨behind, rfl⟩ := List.head?_eq_some_iff.1 point
      cases stop
  | scale exp => fin_cases exp <;> exact ⟨rfl, by simp⟩

theorem numberLength_of_isNumber {l rest : List Char} (number : IsNumber l)
    (stop : rest.takeWhile isNameChar = []) : numberLength (l ++ rest) = l.length := by
  obtain ⟨m, x, rfl, mantissa, exponent⟩ := number
  obtain ⟨digitless, pointless⟩ := stop_of_exponent exponent stop
  have length := mantissaLength_of_mantissa mantissa digitless pointless
  have pos := mantissa.length_pos
  rw [List.append_assoc, numberLength, length, List.length_append]
  split
  · omega
  · rw [List.drop_left, exponentLength_of_exponent exponent stop]

theorem exists_number {s : List Char} (pos : numberLength s ≠ 0) :
    ∃ l rest, s = l ++ rest ∧ IsNumber l ∧ numberLength s = l.length := by
  unfold numberLength at pos ⊢
  split at pos
  · exact absurd rfl pos
  · rename_i length
    obtain ⟨m, behind, rfl, mantissa, same⟩ := exists_mantissa length
    obtain ⟨x, rest, rfl, exponent, exp⟩ := exists_exponent behind
    refine ⟨m ++ x, rest, (List.append_assoc ..).symm, ⟨m, x, rfl, mantissa, exponent⟩, ?_⟩
    rw [same, List.drop_left, exp, List.length_append]

theorem exists_exponent? {x : List Char} (exponent : Exponent x) :
    ∃ e, Decimal.exponent? x = some e := by
  cases exponent with
  | none => exact ⟨0, rfl⟩
  | @scale mark d sign ds exp signed digits =>
      have marked : (mark == 'e' || mark == 'E') = true := by fin_cases exp <;> rfl
      have digit : d.isDigit := digits d List.mem_cons_self
      have split : ∃ negative, Decimal.splitSign (sign ++ d :: ds) = (negative, d :: ds) := by
        fin_cases signed
        · exact ⟨_, Decimal.splitSign_of_digit digit ds⟩
        · exact ⟨_, rfl⟩
        · exact ⟨_, rfl⟩
      obtain ⟨negative, split⟩ := split
      have all : (d :: ds).all Char.isDigit = true := List.all_eq_true.2 digits
      exact ⟨_, by simp only [Decimal.exponent?, marked, split, all]; rfl⟩

theorem IsNumber.reads {s : List Char} (h : IsNumber s) :
    ∃ value, Decimal.unsigned? s = some value := by
  obtain ⟨m, x, rfl, mantissa, exponent⟩ := h
  obtain ⟨e, exp⟩ := exists_exponent? exponent
  obtain ⟨digitless, pointless⟩ := @stop_of_exponent x [] exponent rfl
  rw [List.append_nil] at digitless pointless
  have places {ds : List Char} (digits : ∀ c ∈ ds, c.isDigit) :
      (ds ++ x).span Char.isDigit = (ds, x) := span_isDigit digits digitless
  cases mantissa with
  | @fraction d ds digits =>
      have whole : ('.' :: d :: ds ++ x).span Char.isDigit = ([], '.' :: (d :: ds ++ x)) :=
        @span_isDigit [] _ nofun rfl
      exact ⟨_, by simp only [Decimal.unsigned?, whole, places digits, exp]; rfl⟩
  | numeral numeral =>
      cases numeral with
      | @whole d ds digits =>
          have whole : Decimal.unsigned? (d :: ds ++ x) =
              some (Decimal.scaled (Decimal.natural (d :: ds)) (e - 0)) := by
            simp only [Decimal.unsigned?, places digits]
            split
            · exact absurd rfl pointless
            · simp [exp]
          exact ⟨_, whole⟩
      | @point d ds fraction digits digits' =>
          have whole : (d :: ds ++ '.' :: fraction ++ x).span Char.isDigit =
              (d :: ds, '.' :: (fraction ++ x)) := by
            rw [List.append_assoc]
            exact span_isDigit digits rfl
          exact ⟨_, by simp only [Decimal.unsigned?, whole, places digits', exp]; rfl⟩

/-! ## Lexemes -/

/-- The characters spell a token of the kind. -/
inductive Lexeme : TokenKind → List Char → Prop where
  | number {s : List Char} {value : Float} :
      IsNumber s → Decimal.unsigned? s = some value → Lexeme (.number value) s
  | name {s : List Char} : isName s → Lexeme (.name (String.ofList s)) s
  | mark {m : List Char × TokenKind} : m ∈ marks → Lexeme m.2 m.1

/-- No character behind a token of the kind continues it. -/
def Ends (kind : TokenKind) (rest : List Char) : Prop :=
  rest.takeWhile kind.continuedBy = []

theorem ends_cons {kind : TokenKind} {c : Char} {rest : List Char} :
    Ends kind (c :: rest) ↔ kind.continuedBy c = false := by
  rw [Ends, List.takeWhile_cons]
  split <;> simp [*]

theorem Ends.of_append {kind : TokenKind} {s s' : List Char} (h : Ends kind (s ++ s')) :
    Ends kind s := by
  cases s with
  | nil => rfl
  | cons c s => exact ends_cons.2 (ends_cons.1 h)

theorem mark?_append : ∀ m ∈ marks, ∀ rest, Ends m.2 rest → mark? (m.1 ++ rest) = some m := by
  rintro m mem (_ | ⟨c, rest⟩) ends
  -- Only the next character decides between a mark and a longer one.
  · revert m
    simp only [marks, List.forall_mem_cons]
    and_intros <;> first | exact fun _ => rfl | exact List.forall_mem_nil _
  · have other (d : Char) (more : m.2.continuedBy d) : (d == c) = false := by
      refine beq_eq_false_iff_ne.2 ?_
      rintro rfl
      exact Bool.false_ne_true ((ends_cons.1 ends).symm.trans more)
    clear ends
    revert m
    simp only [marks, List.forall_mem_cons]
    and_intros
    on_goal 20 => exact List.forall_mem_nil _
    all_goals
      intro other
      first
      | rfl
      | simp [mark?, marks, List.isPrefixOf, other, TokenKind.continuedBy]

theorem exists_longer : ∀ m ∈ marks, ∀ c, m.2.continuedBy c →
    ∃ longer ∈ marks, longer.1 = m.1 ++ [c] ∧ ∀ d, longer.2.continuedBy d = false := by
  simp only [marks, List.forall_mem_cons]
  and_intros
  on_goal 20 => exact List.forall_mem_nil _
  all_goals
    intro c more
    first
    | exact absurd more Bool.false_ne_true
    | obtain rfl := eq_of_beq more
  · exact ⟨(['*', '*'], .symbol .pow), by simp, rfl, fun _ => rfl⟩
  · exact ⟨(['/', '/'], .symbol .floorDiv), by simp, rfl, fun _ => rfl⟩
  · exact ⟨(['<', '='], .symbol .lte), by simp, rfl, fun _ => rfl⟩
  · exact ⟨(['>', '='], .symbol .gte), by simp, rfl, fun _ => rfl⟩
  · exact ⟨(['!', '='], .symbol .ne), by simp, rfl, fun _ => rfl⟩

theorem of_mark? {s : List Char} {m : List Char × TokenKind} (h : mark? s = some m) :
    m ∈ marks ∧ m.1 <+: s :=
  ⟨List.mem_of_find?_eq_some h, List.isPrefixOf_iff_prefix.1 (List.find?_some h :)⟩

theorem ends_of_mark? {m : List Char × TokenKind} {rest : List Char}
    (h : mark? (m.1 ++ rest) = some m) : Ends m.2 rest := by
  cases rest with
  | nil => rfl
  | cons c rest =>
      rw [ends_cons]
      by_contra more
      obtain ⟨longer, mem, same, last⟩ :=
        exists_longer m (of_mark? h).1 c (Bool.of_not_eq_false more)
      have ends : Ends longer.2 rest := by
        cases rest with
        | nil => rfl
        | cons d rest => exact ends_cons.2 (last d)
      have found := mark?_append longer mem rest ends
      rw [same, List.append_assoc, List.singleton_append, h] at found
      have length := congrArg List.length same
      rw [← Option.some.inj found, List.length_append] at length
      exact Nat.succ_ne_self _ length.symm

theorem classify_number {s rest : List Char} {value : Float} (number : IsNumber s)
    (reads : Decimal.unsigned? s = some value) (stop : rest.takeWhile isNameChar = [])
    (offset : Nat) : classify offset (s ++ rest) = .ok (.number value, s.length) := by
  have length := numberLength_of_isNumber number stop
  have alone : runLength isNameChar ((s ++ rest).drop s.length) = 0 := by
    rw [List.drop_left, runLength, stop, List.length_nil]
  have lexeme : (s ++ rest).take s.length = s := List.take_left
  obtain ⟨n, succ⟩ := Nat.exists_eq_succ_of_ne_zero (Nat.ne_of_gt number.length_pos)
  rw [succ] at length alone lexeme ⊢
  unfold classify
  simp only [length, alone, lexeme, reads]

theorem classify_name {s rest : List Char} (name : isName s)
    (stop : rest.takeWhile isNameChar = []) (offset : Nat) :
    classify offset (s ++ rest) = .ok (.name (String.ofList s), s.length) := by
  have number := numberLength_name name
    (takeWhile_eq_nil stop fun _ => isNameChar_of_isDigit)
  have lexeme : (s ++ rest).take s.length = s := List.take_left
  cases s with
  | nil => cases name
  | cons c cs =>
      simp only [isName, Bool.and_eq_true, List.all_eq_true] at name
      have length : nameLength (c :: cs ++ rest) = cs.length + 1 := by
        rw [List.cons_append, nameLength, if_pos name.1.1, runLength_append name.1.2 stop,
          Nat.add_comm]
      rw [List.length_cons] at lexeme
      unfold classify
      simp only [number, length, lexeme, List.length_cons]

theorem lengths_mark : ∀ m ∈ marks, ∀ rest,
    numberLength (m.1 ++ rest) = 0 ∧ nameLength (m.1 ++ rest) = 0 := by
  simp only [marks, List.forall_mem_cons]
  and_intros <;> first | exact fun _ => ⟨rfl, rfl⟩ | exact List.forall_mem_nil _

theorem classify_mark {m : List Char × TokenKind} (mem : m ∈ marks) {rest : List Char}
    (ends : Ends m.2 rest) (offset : Nat) :
    classify offset (m.1 ++ rest) = .ok (m.2, m.1.length) := by
  obtain ⟨number, name⟩ := lengths_mark m mem rest
  unfold classify
  simp only [number, name, mark?_append m mem rest ends]

theorem classify_lexeme {kind : TokenKind} {s rest : List Char} (lexeme : Lexeme kind s)
    (ends : Ends kind rest) (offset : Nat) :
    classify offset (s ++ rest) = .ok (kind, s.length) := by
  cases lexeme with
  | number number reads => exact classify_number number reads ends offset
  | name name => exact classify_name name ends offset
  | mark mem => exact classify_mark mem ends offset

theorem exists_name {s : List Char} (number : numberLength s = 0) (pos : nameLength s ≠ 0) :
    ∃ l rest, s = l ++ rest ∧ isName l ∧ rest.takeWhile isNameChar = [] ∧
      nameLength s = l.length := by
  obtain ⟨n, length⟩ := Nat.exists_eq_succ_of_ne_zero pos
  have name := isName_take number length
  cases s with
  | nil => cases length
  | cons c s =>
      by_cases start : isNameStart c
      · obtain ⟨run, rest, rfl, chars, stop⟩ := exists_run isNameChar s
        rw [nameLength, if_pos start, runLength_append chars stop] at length ⊢
        obtain rfl : run.length = n := by omega
        rw [List.take_succ_cons, List.take_left] at name
        exact ⟨c :: run, rest, rfl, name, stop, Nat.add_comm _ _⟩
      · rw [nameLength, if_neg start] at length
        cases length

theorem lexeme_of_classify {offset n : Nat} {s : List Char} {kind : TokenKind}
    (h : classify offset s = .ok (kind, n)) :
    ∃ l rest, s = l ++ rest ∧ l.length = n ∧ Lexeme kind l ∧ Ends kind rest := by
  unfold classify at h
  split at h
  · rename_i mark
    cases h
    obtain ⟨mem, rest, rfl⟩ := of_mark? mark
    exact ⟨_, rest, rfl, rfl, .mark mem, ends_of_mark? mark⟩
  · cases h
  · rename_i number unmarked unknown
    cases h
    have pos : nameLength s ≠ 0 := by
      intro name
      cases mark : mark? s with
      | none => exact unknown name mark
      | some m => exact unmarked m.1 m.2 name mark
    obtain ⟨l, rest, rfl, name, stop, length⟩ := exists_name number pos
    rw [length, List.take_left]
    exact ⟨l, rest, rfl, rfl, .name name, stop⟩
  · rename_i pos _ _
    obtain ⟨l, rest, rfl, number, length⟩ := exists_number pos
    rw [length, List.take_left, List.drop_left] at h
    dsimp only at h
    split at h
    · rename_i runOn reads
      cases h
      exact ⟨l, rest, rfl, rfl, .number number reads, List.eq_nil_of_length_eq_zero runOn⟩
    · cases h

theorem classify_iff {offset n : Nat} {s : List Char} {kind : TokenKind} :
    classify offset s = .ok (kind, n) ↔
      ∃ l rest, s = l ++ rest ∧ l.length = n ∧ Lexeme kind l ∧ Ends kind rest := by
  constructor
  · exact lexeme_of_classify
  · rintro ⟨l, rest, rfl, rfl, lexeme, ends⟩
    exact classify_lexeme lexeme ends offset

/-! ## Texts -/

def Visible (lexeme : List Char) : Prop :=
  ∃ c cs, lexeme = c :: cs ∧ Text.isBlank c = false

theorem visible_of_lexeme {kind : TokenKind} {l : List Char} (h : Lexeme kind l) : Visible l := by
  cases h with
  | number number =>
      obtain ⟨m, x, rfl, mantissa, -⟩ := number
      cases mantissa with
      | fraction => exact ⟨_, _, rfl, rfl⟩
      | numeral numeral =>
          obtain ⟨d, ds, rfl, digit⟩ := numeral.head
          exact ⟨d, ds ++ x, rfl, Decimal.isBlank_of_isDigit digit⟩
  | name name =>
      obtain ⟨c, cs, rfl, start⟩ := isName_head name
      exact ⟨c, cs, rfl, isBlank_of_isNameStart start⟩
  | mark mem =>
      have all : ∀ m ∈ marks, Visible m.1 := by
        simp only [marks, List.forall_mem_cons]
        and_intros <;> first | exact ⟨_, _, rfl, rfl⟩ | exact List.forall_mem_nil _
      exact all _ mem

theorem isBlank_of_isNameChar {c : Char} (h : isNameChar c) : Text.isBlank c = false := by
  by_cases digit : c.isDigit
  · exact Decimal.isBlank_of_isDigit digit
  · refine isBlank_of_isNameStart ?_
    simpa [isNameChar, isNameStart, Char.isAlphanum, digit] using h

theorem isBlank_of_continuedBy {kind : TokenKind} {c : Char} (h : kind.continuedBy c) :
    Text.isBlank c = false := by
  unfold TokenKind.continuedBy at h
  split at h
  · exact isBlank_of_isNameChar h
  · exact isBlank_of_isNameChar h
  iterate 5
    obtain rfl := eq_of_beq h
    rfl
  · cases h

/-- The text, which stands `offset` bytes into a query, is such tokens with blanks between them. -/
inductive Tokenized : Nat → List Char → List Token → Prop where
  | done {offset : Nat} {s : List Char} : (∀ c ∈ s, Text.isBlank c) → Tokenized offset s []
  | token {offset : Nat} {blanks rest : List Char} {t : Token} {later : List Token} :
      (∀ c ∈ blanks, Text.isBlank c) → Lexeme t.kind t.lexeme → Ends t.kind rest →
      t.offset = offset + Text.byteSize blanks → Tokenized t.stop rest later →
      Tokenized offset (blanks ++ (t.lexeme ++ rest)) (t :: later)

theorem tokensFrom_of_tokenized {offset : Nat} {s : List Char} {ts : List Token}
    (h : Tokenized offset s ts) : tokensFrom offset s = .ok ts := by
  induction h with
  | done blank => exact tokensFrom_of_blank (List.dropWhile_eq_nil_iff.2 blank)
  | @token offset blanks rest t later blank lexeme ends start _ ih =>
      obtain ⟨c, cs, spelt, visible⟩ := visible_of_lexeme lexeme
      have token := classify_lexeme lexeme ends t.offset
      have stop : (c :: (cs ++ rest)).takeWhile Text.isBlank = [] := by
        rw [List.takeWhile_cons, if_neg (by simp [visible])]
      have trimmed : Text.trimStart (blanks ++ (t.lexeme ++ rest)) = c :: (cs ++ rest) := by
        rw [Text.trimStart, List.dropWhile_append_of_pos blank, spelt, List.cons_append,
          List.dropWhile_cons, if_neg (by simp [visible])]
      refine tokensFrom_of_token (n := t.lexeme.length) trimmed ?_ ?_ ?_ ?_
      · rw [List.takeWhile_append_of_pos blank, spelt, List.cons_append, stop, List.append_nil,
          start]
      · rwa [spelt] at token ⊢
      · rw [spelt, ← List.cons_append, List.take_left]
      · rw [spelt, List.length_cons, Nat.add_sub_cancel, List.drop_left]
        exact ih

theorem exists_lexeme {start n : Nat} {c : Char} {rest : List Char} {kind : TokenKind}
    (token : classify start (c :: rest) = .ok (kind, n)) :
    ∃ l behind, c :: rest = l ++ behind ∧ (c :: rest).take n = l ∧ rest.drop (n - 1) = behind ∧
      Lexeme kind l ∧ Ends kind behind := by
  obtain ⟨l, behind, same, rfl, lexeme, ends⟩ := lexeme_of_classify token
  obtain ⟨d, ds, rfl, -⟩ := visible_of_lexeme lexeme
  obtain ⟨rfl, tail⟩ := List.cons.inj same
  obtain rfl : rest = ds ++ behind := tail
  exact ⟨_, behind, same, List.take_left, List.drop_left, lexeme, ends⟩

theorem takeWhile_isBlank_append {s : List Char} {c : Char} {rest : List Char}
    (trimmed : Text.trimStart s = c :: rest) : s.takeWhile Text.isBlank ++ c :: rest = s := by
  rw [← trimmed]
  exact List.takeWhile_append_dropWhile

theorem tokenized_of_tokensFrom {offset : Nat} {s : List Char} {ts : List Token}
    (h : tokensFrom offset s = .ok ts) : Tokenized offset s ts := by
  fun_induction tokensFrom offset s generalizing ts with
  | case1 offset s blank =>
      cases h
      exact .done (List.dropWhile_eq_nil_iff.1 blank)
  | case2 offset s c rest trimmed start =>
      rename_i ih
      obtain ⟨⟨kind, n⟩, token, h⟩ := Parser.ok_of_bind h
      obtain ⟨later, behind, h⟩ := Parser.ok_of_bind h
      cases h
      have later := ih n behind
      obtain ⟨l, rest', same, taken, left, lexeme, ends⟩ := exists_lexeme token
      rw [taken, left] at later
      rw [taken, ← takeWhile_isBlank_append trimmed, same]
      exact @Tokenized.token offset _ rest' ⟨kind, l, start⟩ _
        (fun _ mem => List.mem_takeWhile_imp mem) lexeme ends rfl later

theorem tokensFrom_iff {offset : Nat} {s : List Char} {ts : List Token} :
    tokensFrom offset s = .ok ts ↔ Tokenized offset s ts :=
  ⟨tokenized_of_tokensFrom, tokensFrom_of_tokenized⟩

end Lexer
end SpanQuery
