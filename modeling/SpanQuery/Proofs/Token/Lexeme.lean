import Mathlib.Data.List.Basic
import Mathlib.Data.List.TakeDrop
import Mathlib.Tactic.FinCases
import Mathlib.Tactic.IntervalCases
import SpanQuery.Token

namespace SpanQuery

theorem Text.isBlank_of_printable {c : Char} (low : 33 ≤ c.toNat) (high : c.toNat ≤ 126) :
    Text.isBlank c = false := by
  simp only [isBlank, blankRanges, List.any_cons, List.any_nil, Bool.or_false, Bool.or_eq_false_iff,
    Bool.and_eq_false_iff, decide_eq_false_iff_not]
  omega

/-! ## Digits -/

namespace Decimal

theorem mem_digits_of_isDigit {c : Char} (h : c.isDigit) : c ∈ "0123456789".toList := by
  have bounds : 48 ≤ c.toNat ∧ c.toNat ≤ 57 := by
    simpa [Char.isDigit, UInt32.le_iff_toNat_le] using h
  rw [← Char.ofNat_toNat c]
  obtain ⟨low, high⟩ := bounds
  interval_cases c.toNat <;> decide

theorem isDigit_zeros (n : Nat) : ∀ c ∈ List.replicate n '0', c.isDigit := fun c mem => by
  rw [List.eq_of_mem_replicate mem]
  rfl

theorem of_isDigit {p : Char → Bool} (all : "0123456789".toList.all p) {c : Char}
    (h : c.isDigit) : p c :=
  List.all_eq_true.1 all c (mem_digits_of_isDigit h)

theorem isBlank_of_isDigit {c : Char} (h : c.isDigit) : Text.isBlank c = false := by
  have visible : !Text.isBlank c := of_isDigit (p := fun c => !Text.isBlank c) (by decide) h
  rwa [Bool.not_eq_true'] at visible

theorem named_ne_of_digit {d : Char} (digit : d.isDigit) (s : List Char) :
    ∀ name ∈ ["inf", "infinity", "nan"], String.ofList ((d :: s).map Char.toLower) ≠ name := by
  have other : d.toLower ∉ ['i', 'n'] :=
    of_decide_eq_true (of_isDigit (p := fun c => c.toLower ∉ ['i', 'n']) (by decide) digit)
  have first : ∀ name ∈ ["inf", "infinity", "nan"], ∃ c cs, name = String.ofList (c :: cs) ∧
      c ∈ ['i', 'n'] := by
    intro name mem
    fin_cases mem
    · exact ⟨'i', ['n', 'f'], rfl, by decide⟩
    · exact ⟨'i', ['n', 'f', 'i', 'n', 'i', 't', 'y'], rfl, by decide⟩
    · exact ⟨'n', ['a', 'n'], rfl, by decide⟩
  intro name mem same
  obtain ⟨c, cs, rfl, letter⟩ := first name mem
  have head : d.toLower = c := (List.cons.inj (String.ofList_inj.1 same)).1
  exact other (head ▸ letter)

theorem read?_of_digit {s body : List Char} {d : Char} {negative : Bool}
    (sign : splitSign s = (negative, d :: body)) (digit : d.isDigit) :
    read? s =
      (unsigned? (d :: body)).map fun x => if negative then -x else x := by
  have ne := named_ne_of_digit digit body
  have infinite : ¬ (String.ofList ((d :: body).map Char.toLower) = "inf" ||
      String.ofList ((d :: body).map Char.toLower) = "infinity") := by
    simp only [ne "inf" (by decide), ne "infinity" (by decide), decide_false, Bool.or_false,
      Bool.false_eq_true, not_false_eq_true]
  unfold read?
  rw [sign]
  dsimp only
  rw [if_neg infinite, if_neg (ne "nan" (by decide))]
  cases unsigned? (d :: body) <;> rfl

theorem splitSign_of_digit {d : Char} (digit : d.isDigit) (s : List Char) :
    splitSign (d :: s) = (false, d :: s) := by
  unfold splitSign
  split
  · rename_i minus
    rw [(List.cons.inj minus).1] at digit
    cases digit
  · rename_i plus
    rw [(List.cons.inj plus).1] at digit
    cases digit
  · rfl

end Decimal

namespace Lexer

/-! ## Where a token ends -/

def Apart : List Char → Prop
  | [] => True
  | c :: _ => c ∈ [' ', '(', ')', ',']

theorem Apart.head {c : Char} {rest : List Char} (h : Apart (c :: rest)) {p : Char → Bool}
    (others : [' ', '(', ')', ','].all fun c => !p c) : p c = false := by
  have other := List.all_eq_true.1 others c h
  rwa [Bool.not_eq_true'] at other

theorem Apart.takeWhile {rest : List Char} (h : Apart rest) {p : Char → Bool}
    (others : [' ', '(', ')', ','].all fun c => !p c) : rest.takeWhile p = [] := by
  cases rest with
  | nil => rfl
  | cons c rest =>
      rw [List.takeWhile_cons, h.head others]
      rfl

theorem runLength_append {p : Char → Bool} {s rest : List Char} (all : ∀ c ∈ s, p c)
    (stop : rest.takeWhile p = []) : runLength p (s ++ rest) = s.length := by
  rw [runLength, List.takeWhile_append_of_pos all, stop, List.append_nil]

/-! ## Numbers -/

inductive Numeral : List Char → Prop where
  | whole {d : Char} {ds : List Char} : (∀ c ∈ d :: ds, c.isDigit) → Numeral (d :: ds)
  | point {d : Char} {ds places : List Char} :
      (∀ c ∈ d :: ds, c.isDigit) → (∀ c ∈ places, c.isDigit) →
      Numeral (d :: ds ++ '.' :: places)

theorem Numeral.head {s : List Char} (h : Numeral s) : ∃ d ds, s = d :: ds ∧ d.isDigit := by
  cases h with
  | whole digits => exact ⟨_, _, rfl, digits _ List.mem_cons_self⟩
  | point digits _ => exact ⟨_, _, rfl, digits _ List.mem_cons_self⟩

theorem span_isDigit {ds rest : List Char} (digits : ∀ c ∈ ds, c.isDigit)
    (stop : rest.takeWhile Char.isDigit = []) : (ds ++ rest).span Char.isDigit = (ds, rest) := by
  have behind : rest.dropWhile Char.isDigit = rest := by
    have whole := List.takeWhile_append_dropWhile (p := Char.isDigit) (l := rest)
    rwa [stop] at whole
  rw [List.span_eq_takeWhile_dropWhile, List.takeWhile_append_of_pos digits,
    List.dropWhile_append_of_pos digits, stop, behind, List.append_nil]

theorem mantissaLength_whole {d : Char} {ds rest : List Char} (digits : ∀ c ∈ d :: ds, c.isDigit)
    (stop : rest.takeWhile Char.isDigit = []) (pointless : rest.head? ≠ some '.') :
    mantissaLength (d :: ds ++ rest) = (d :: ds).length := by
  have run : runLength Char.isDigit (d :: ds ++ rest) = ds.length + 1 :=
    runLength_append digits stop
  have behind : (d :: ds ++ rest).drop (ds.length + 1) = rest := List.drop_left
  unfold mantissaLength
  simp only [run, behind]
  split
  · exact absurd rfl pointless
  · rfl

theorem mantissaLength_point {d : Char} {ds places rest : List Char}
    (digits : ∀ c ∈ d :: ds, c.isDigit) (fraction : ∀ c ∈ places, c.isDigit)
    (stop : rest.takeWhile Char.isDigit = []) :
    mantissaLength (d :: ds ++ '.' :: (places ++ rest)) = (d :: ds).length + 1 + places.length := by
  have run : runLength Char.isDigit (d :: ds ++ '.' :: (places ++ rest)) = ds.length + 1 :=
    runLength_append digits rfl
  have behind : (d :: ds ++ '.' :: (places ++ rest)).drop (ds.length + 1) =
      '.' :: (places ++ rest) := List.drop_left
  unfold mantissaLength
  simp only [run, behind, runLength_append fraction stop]
  rfl

theorem Numeral.of_positionalText {ds : List Char} (digits : ∀ c ∈ ds, c.isDigit) (point : Int) :
    Numeral (Layout.plain.positionalText ds point) := by
  have zeros := Decimal.isDigit_zeros
  unfold Layout.positionalText
  split
  · refine @Numeral.point '0' [] _ (List.forall_mem_singleton.2 rfl) ?_
    exact List.forall_mem_append.2 ⟨zeros _, digits⟩
  · split
    · have all : ∀ c ∈ ds ++ List.replicate (point.toNat - ds.length) '0', c.isDigit :=
        List.forall_mem_append.2 ⟨digits, zeros _⟩
      have ne : 0 < (ds ++ List.replicate (point.toNat - ds.length) '0').length := by
        rw [List.length_append, List.length_replicate]
        omega
      obtain ⟨d, rest, eq⟩ := List.exists_cons_of_length_pos ne
      rw [eq] at all ⊢
      exact (List.append_nil (d :: rest)).symm ▸ .whole all
    · have ne : 0 < (ds.take point.toNat).length := by
        rw [List.length_take]
        omega
      obtain ⟨d, rest, eq⟩ := List.exists_cons_of_length_pos ne
      rw [eq]
      refine .point ?_ fun c mem => digits c (List.mem_of_mem_drop mem)
      rw [← eq]
      exact fun c mem => digits c (List.mem_of_mem_take mem)

theorem isDigit_of_mem_significantDigits {n : Nat} {c : Char}
    (h : c ∈ Layout.significantDigits n) : c.isDigit := by
  have mem := (List.dropWhile_sublist _).mem (List.mem_reverse.1 h)
  exact Nat.isDigit_of_mem_toDigits (by decide) (by decide) (List.mem_reverse.1 mem)

theorem Numeral.of_finite {v : Float} {negative : Bool} {m : Nat} {q : Int}
    (finite : Binary64.ofFloat v = .finite negative m q) :
    ∃ s, Numeral s ∧ Layout.plain.chars v = if negative then '-' :: s else s := by
  unfold Layout.chars
  rw [finite]
  refine ⟨_, ?_, rfl⟩
  split
  · exact @Numeral.whole '0' [] (List.forall_mem_singleton.2 rfl)
  · exact .of_positionalText (fun c => isDigit_of_mem_significantDigits) _

/-! ## Names -/

def isName : List Char → Bool
  | c :: cs => isNameStart c && cs.all isNameChar && !(c == '.' && cs.head?.any Char.isDigit)
  | [] => false

theorem isDigit_of_isNameStart {c : Char} (h : isNameStart c) : c.isDigit = false := by
  by_contra digit
  have other : !isNameStart c := Decimal.of_isDigit (p := fun c => !isNameStart c) (by decide)
    (Bool.of_not_eq_false digit)
  rw [h] at other
  cases other

theorem isBlank_of_isNameStart {c : Char} (h : isNameStart c) : Text.isBlank c = false := by
  simp only [isNameStart, Bool.or_eq_true, beq_iff_eq] at h
  rcases h with ((letter | rfl) | rfl) | rfl
  · have bounds : 65 ≤ c.toNat ∧ c.toNat ≤ 90 ∨ 97 ≤ c.toNat ∧ c.toNat ≤ 122 := by
      rcases Bool.or_eq_true_iff.1 letter with upper | lower
      · exact .inl (of_decide_eq_true upper)
      · exact .inr ((Bool.and_eq_true_iff.1 lower).imp of_decide_eq_true of_decide_eq_true)
    exact Text.isBlank_of_printable (by omega) (by omega)
  all_goals rfl

theorem isName_head {s : List Char} (h : isName s) : ∃ c cs, s = c :: cs ∧ isNameStart c := by
  cases s with
  | nil => cases h
  | cons c cs =>
      simp only [isName, Bool.and_eq_true] at h
      exact ⟨c, cs, rfl, h.1.1⟩

theorem numberLength_name {s rest : List Char} (name : isName s)
    (stop : rest.takeWhile Char.isDigit = []) : numberLength (s ++ rest) = 0 := by
  cases s with
  | nil => cases name
  | cons c cs =>
      simp only [isName, Bool.and_eq_true, Bool.not_eq_true', Bool.and_eq_false_iff] at name
      obtain ⟨⟨start, -⟩, pointless⟩ := name
      have run : runLength Char.isDigit (c :: (cs ++ rest)) = 0 := by
        rw [runLength, List.takeWhile_cons, isDigit_of_isNameStart start]
        rfl
      have behind : c = '.' → runLength Char.isDigit (cs ++ rest) = 0 := by
        rintro rfl
        cases cs with
        | nil =>
            rw [List.nil_append, runLength, stop]
            rfl
        | cons d ds =>
            have other : d.isDigit = false := pointless.resolve_left (by decide)
            rw [runLength, List.cons_append, List.takeWhile_cons, other]
            rfl
      have mantissa : mantissaLength (c :: (cs ++ rest)) = 0 := by
        unfold mantissaLength
        simp only [run]
        split
        · rename_i places point
          obtain ⟨rfl, rfl⟩ := List.cons.inj point
          simp only [behind rfl]
        · rfl
        · contradiction
      simp only [List.cons_append, numberLength, mantissa]

/-! ## Symbols -/

theorem classify_binary (op : BinaryOp) (offset : Nat) (rest : List Char) :
    classify offset (op.symbol.toList ++ ' ' :: rest) =
      .ok (.symbol op, op.symbol.toList.length) := by
  cases op <;> rfl

theorem classify_leftParen (offset : Nat) (rest : List Char) :
    classify offset ('(' :: rest) = .ok (.leftParen, 1) := rfl

theorem classify_comma (offset : Nat) (rest : List Char) :
    classify offset (',' :: rest) = .ok (.comma, 1) := rfl

def mark : UnaryOp → TokenKind
  | .plus => .symbol .add
  | .neg => .symbol .sub
  | .not => .bang

theorem unaryOp?_mark (op : UnaryOp) : (mark op).unaryOp? = some op := by
  cases op <;> rfl

theorem classify_unary (op : UnaryOp) (offset : Nat) {c : Char} (other : c ≠ '=')
    (rest : List Char) :
    classify offset (op.symbol.toList ++ c :: rest) = .ok (mark op, op.symbol.toList.length) := by
  cases op with
  | plus => rfl
  | neg => rfl
  | not =>
      have alone : mark? ('!' :: c :: rest) = some (['!'], .bang) := by
        have longer : ¬ ['!', '='].isPrefixOf ('!' :: c :: rest) := by
          rw [List.isPrefixOf, List.isPrefixOf, beq_eq_false_iff_ne.2 other.symm]
          exact Bool.false_ne_true
        let p := fun m : List Char × TokenKind => m.1.isPrefixOf ('!' :: c :: rest)
        change (marks.drop 3).find? p = _
        exact (List.find?_cons_of_neg (p := p) (a := (['!', '='], .symbol .ne)) longer).trans rfl
      change classify offset ('!' :: c :: rest) = _
      unfold classify
      rw [alone]
      rfl

/-! ## Texts -/

theorem tokensFrom_blank (offset : Nat) (s : List Char) :
    tokensFrom offset (' ' :: s) = tokensFrom (offset + 1) s := by
  have start : offset + Text.byteSize ((' ' :: s).takeWhile Text.isBlank) =
      offset + 1 + Text.byteSize (s.takeWhile Text.isBlank) := (Nat.add_assoc ..).symm
  rw [tokensFrom, tokensFrom, start]
  rfl

theorem tokensFrom_append {offset : Nat} {kind : TokenKind} {c : Char} {cs rest : List Char}
    {later : List Token} (visible : Text.isBlank c = false)
    (token : classify offset (c :: cs ++ rest) = .ok (kind, (c :: cs).length))
    (behind : tokensFrom (offset + Text.byteSize (c :: cs)) rest = .ok later) :
    tokensFrom offset (c :: cs ++ rest) = .ok (⟨kind, c :: cs, offset⟩ :: later) := by
  have trimmed : Text.trimStart (c :: cs ++ rest) = c :: (cs ++ rest) := by
    rw [Text.trimStart, List.cons_append, List.dropWhile_cons, visible]
    rfl
  refine tokensFrom_of_token (n := (c :: cs).length) trimmed ?_ token List.take_left ?_
  · rw [List.cons_append, List.takeWhile_cons, visible]
    rfl
  · have left : (cs ++ rest).drop cs.length = rest := List.drop_left
    exact left.symm ▸ behind

end Lexer

end SpanQuery
