import SpanQuery.Proofs.Decimal.Display
import SpanQuery.Proofs.Json.Text

namespace SpanQuery.Json

/-! ## Parts -/

structure IsWhole (ds : List Char) : Prop where
  digits : ∀ c ∈ ds, c.isDigit
  nonempty : ds ≠ []
  leading : ∀ c d cs, ds = c :: d :: cs → c ≠ '0'

inductive IsFraction : List Char → Prop where
  | none : IsFraction []
  | places {ds : List Char} : (∀ c ∈ ds, c.isDigit) → ds ≠ [] → IsFraction ('.' :: ds)

inductive IsExponent : List Char → Prop where
  | none : IsExponent []
  | signed {sign : Char} {ds : List Char} : sign ∈ ['+', '-'] → (∀ c ∈ ds, c.isDigit) → ds ≠ [] →
      IsExponent ('e' :: sign :: ds)

inductive IsMagnitude : List Char → Prop where
  | parts {whole fraction exponent : List Char} :
      IsWhole whole → IsFraction fraction → IsExponent exponent →
      IsMagnitude (whole ++ (fraction ++ exponent))

theorem IsWhole.digit (c : Char) (digit : c.isDigit) : IsWhole [c] :=
  ⟨List.forall_mem_singleton.2 digit, List.cons_ne_nil c [], fun _ _ _ same => by cases same⟩

theorem IsWhole.of_leading {d : Char} {ds : List Char} (digits : ∀ c ∈ d :: ds, c.isDigit)
    (leading : d ≠ '0') : IsWhole (d :: ds) :=
  ⟨digits, List.cons_ne_nil d ds, fun _ _ _ same => (List.cons.inj same).1 ▸ leading⟩

theorem IsMagnitude.places {whole fraction : List Char} (isWhole : IsWhole whole)
    (isFraction : IsFraction fraction) : IsMagnitude (whole ++ fraction) := by
  rw [← List.append_nil fraction]
  exact .parts isWhole isFraction .none

theorem Closed.head {c : Char} {rest : List Char} (h : Closed (c :: rest)) {p : Char → Bool}
    (others : [',', ']', '\x7d', ' ', '\t', '\n', '\r'].all fun c => !p c) : p c = false := by
  have other := List.all_eq_true.1 others c h
  rwa [Bool.not_eq_true'] at other

theorem Closed.takeWhile {rest : List Char} (h : Closed rest) :
    rest.takeWhile Char.isDigit = [] := by
  cases rest with
  | nil => rfl
  | cons c rest =>
      rw [List.takeWhile_cons, h.head (p := Char.isDigit) (by decide)]
      rfl

theorem exponentPart?_closed {rest : List Char} (h : Closed rest) :
    exponentPart? rest = some ([], rest) := by
  cases rest with
  | nil => rfl
  | cons c rest =>
      have other : (c == 'e' || c == 'E') = false :=
        h.head (p := fun c => c == 'e' || c == 'E') (by decide)
      exact if_neg (ne_true_of_eq_false other)

theorem exponentPart?_append {exponent rest : List Char} (h : IsExponent exponent)
    (closed : Closed rest) : exponentPart? (exponent ++ rest) = some (exponent, rest) := by
  cases h with
  | none => exact exponentPart?_closed closed
  | @signed sign ds mem digits nonempty =>
      have span := Lexer.span_isDigit digits closed.takeWhile
      obtain ⟨d, ds, rfl⟩ := List.exists_cons_of_ne_nil nonempty
      have signs : sign = '+' ∨ sign = '-' := by simpa using mem
      rcases signs with rfl | rfl
      · simp only [List.cons_append] at span
        simp [exponentPart?, span, -List.span_eq_takeWhile_dropWhile]
      · simp only [List.cons_append] at span
        simp [exponentPart?, span, -List.span_eq_takeWhile_dropWhile]

theorem IsExponent.takeWhile {exponent rest : List Char} (h : IsExponent exponent)
    (closed : Closed rest) : (exponent ++ rest).takeWhile Char.isDigit = [] := by
  cases h with
  | none => exact closed.takeWhile
  | signed => rfl

theorem fraction?_append {fraction exponent rest : List Char} (h : IsFraction fraction)
    (behind : IsExponent exponent) (closed : Closed rest) :
    fraction? (fraction ++ (exponent ++ rest)) = some (fraction, exponent ++ rest) := by
  cases h with
  | none =>
      have pointless : ∀ s, exponent ++ rest ≠ '.' :: s := by
        intro s same
        cases behind with
        | none =>
            rw [List.nil_append] at same
            subst same
            exact absurd (closed.head (p := (· == '.')) (by decide)) (by decide)
        | signed => cases same
      rw [List.nil_append, fraction?]
      exact fun s => pointless s
  | places digits nonempty =>
      have span := Lexer.span_isDigit digits (behind.takeWhile closed)
      obtain ⟨d, ds, rfl⟩ := List.exists_cons_of_ne_nil nonempty
      rw [List.cons_append, fraction?, span]

theorem IsFraction.takeWhile {fraction exponent rest : List Char} (h : IsFraction fraction)
    (behind : IsExponent exponent) (closed : Closed rest) :
    (fraction ++ (exponent ++ rest)).takeWhile Char.isDigit = [] := by
  cases h with
  | none => exact behind.takeWhile closed
  | places => rfl

theorem IsMagnitude.head {s : List Char} (h : IsMagnitude s) : ∃ d ds, s = d :: ds ∧ d.isDigit := by
  obtain ⟨whole, _, _⟩ := h
  obtain ⟨d, ds, rfl⟩ := List.exists_cons_of_ne_nil whole.nonempty
  exact ⟨d, _, rfl, whole.digits d List.mem_cons_self⟩

theorem unsignedPart?_magnitude {s rest : List Char} (h : IsMagnitude s) (closed : Closed rest) :
    unsignedPart? (s ++ rest) = some (s, rest) := by
  cases h with
  | @parts whole fraction exponent isWhole isFraction isExponent =>
      have span := Lexer.span_isDigit isWhole.digits (isFraction.takeWhile isExponent closed)
      have places := fraction?_append isFraction isExponent closed
      unfold unsignedPart?
      rw [List.append_assoc, List.append_assoc, span]
      dsimp only
      split
      · exact absurd rfl isWhole.nonempty
      · exact absurd rfl (isWhole.leading _ _ _ rfl)
      · rw [places]
        simp only [Option.bind_eq_bind, Option.bind_some, exponentPart?_append isExponent closed,
          List.append_assoc]

theorem IsNumber.of_magnitude {s : List Char} (h : IsMagnitude s) (negative : Bool) :
    IsNumber (if negative then '-' :: s else s) := by
  obtain ⟨d, ds, rfl, digit⟩ := h.head
  have listed : d ∈ "-0123456789".toList :=
    List.mem_cons_of_mem '-' (Decimal.mem_digits_of_isDigit digit)
  cases negative with
  | false =>
      refine ⟨⟨d, ds, rfl, listed⟩, fun {rest} closed => ?_⟩
      refine Eq.trans ?_ (unsignedPart?_magnitude h closed)
      change numberPart? (d :: (ds ++ rest)) = _
      unfold numberPart?
      split
      · rename_i same
        rw [(List.cons.inj same).1] at digit
        cases digit
      · rfl
  | true =>
      refine ⟨⟨'-', d :: ds, rfl, by decide⟩, fun {rest} closed => ?_⟩
      have reads := unsignedPart?_magnitude h closed
      rw [List.cons_append] at reads
      simp only [if_true, List.cons_append, numberPart?, reads, Option.bind_eq_bind,
        Option.bind_some]

/-! ## Doubles -/

theorem exists_leading {n : Nat} (pos : 0 < n) :
    ∃ d ds, Nat.toDigits 10 n = d :: ds ∧ d ≠ '0' := by
  induction n using Nat.strong_induction_on with
  | _ n ih =>
      rcases Nat.lt_or_ge n 10 with less | more
      · exact ⟨_, [], Nat.toDigits_of_lt_base less, fun zero =>
          pos.ne' (Nat.digitChar_eq_zero.1 zero)⟩
      · obtain ⟨d, ds, digits, other⟩ := ih (n / 10) (by omega) (by omega)
        refine ⟨d, ds ++ [(n % 10).digitChar], ?_, other⟩
        rw [Nat.toDigits_of_base_le (by decide) more, digits, List.cons_append]

theorem exists_leading_significant {n : Nat} (pos : 0 < n) :
    ∃ d ds, Layout.significantDigits n = d :: ds ∧ d ≠ '0' := by
  obtain ⟨d, ds, digits, other⟩ := exists_leading pos
  obtain ⟨k, parts⟩ := Decimal.toDigits_eq n
  rw [digits] at parts
  cases significant : Layout.significantDigits n with
  | nil =>
      rw [significant, List.nil_append] at parts
      have zero : d ∈ List.replicate k '0' := parts ▸ List.mem_cons_self
      exact absurd (List.eq_of_mem_replicate zero) other
  | cons c cs =>
      rw [significant, List.cons_append] at parts
      exact ⟨c, cs, rfl, (List.cons.inj parts).1 ▸ other⟩

theorem IsMagnitude.positionalText {d : Char} {ds : List Char} (digits : ∀ c ∈ d :: ds, c.isDigit)
    (leading : d ≠ '0') (point : Int) :
    IsMagnitude (Layout.json.positionalText (d :: ds) point) := by
  have zeros := Decimal.isDigit_zeros
  unfold Layout.positionalText
  split
  · exact .places (.digit '0' rfl)
      (.places (List.forall_mem_append.2 ⟨zeros _, digits⟩) (by simp))
  · split
    · exact .places (.of_leading (List.forall_mem_append.2 ⟨digits, zeros _⟩) leading)
        (.places (List.forall_mem_singleton.2 rfl) (List.cons_ne_nil _ _))
    · rename_i inside shorter
      obtain ⟨n, before⟩ : ∃ n, point.toNat = n + 1 := ⟨point.toNat - 1, by omega⟩
      rw [before, List.take_succ_cons, List.drop_succ_cons]
      rw [List.forall_mem_cons] at digits
      refine .places (.of_leading (List.forall_mem_cons.2 ⟨digits.1, fun c mem => ?_⟩) leading)
        (.places (fun c mem => digits.2 c (List.mem_of_mem_drop mem)) ?_)
      · exact digits.2 c (List.mem_of_mem_take mem)
      · rw [Ne, List.drop_eq_nil_iff]
        simp only [List.length_cons] at shorter
        omega

theorem IsMagnitude.exponentText {d : Char} {ds : List Char} (digits : ∀ c ∈ d :: ds, c.isDigit)
    (e : Int) : IsMagnitude (Layout.json.exponentText (d :: ds) e) := by
  have mark : ∃ sign ∈ ['+', '-'], (if e < 0 then ['-'] else "+".toList) = [sign] := by
    split
    · exact ⟨'-', by decide, rfl⟩
    · exact ⟨'+', by decide, rfl⟩
  obtain ⟨sign, mem, same⟩ := mark
  have exponent : IsExponent ('e' :: sign :: Nat.toDigits 10 e.natAbs) :=
    .signed mem (fun c => Nat.isDigit_of_mem_toDigits (by decide) (by decide)) Nat.toDigits_ne_nil
  have whole : IsWhole [d] := .digit d (digits d List.mem_cons_self)
  unfold Layout.exponentText
  rw [show Layout.json.exponentSign = "+" from rfl, same]
  cases ds with
  | nil => exact .parts whole .none exponent
  | cons r rest =>
      have behind : ∀ c ∈ r :: rest, c.isDigit := (List.forall_mem_cons.1 digits).2
      have text := IsMagnitude.parts whole (.places behind (List.cons_ne_nil r rest)) exponent
      simpa only [List.cons_append, List.nil_append, List.append_assoc] using text

theorem IsMagnitude.of_canonical {m : Nat} {q : Int} (canonical : Binary64.Canonical m q) :
    IsMagnitude (Layout.json.magnitude m q) := by
  have pos := (shortest_nearest .toEven canonical).digits_pos canonical.pos
  obtain ⟨d, ds, digits, leading⟩ := exists_leading_significant pos
  have all : ∀ c ∈ d :: ds, c.isDigit := fun c mem =>
    Lexer.isDigit_of_mem_significantDigits (digits ▸ mem)
  change IsMagnitude (if _ then Layout.json.positionalText (Layout.significantDigits _) _
    else Layout.json.exponentText (Layout.significantDigits _) _)
  rw [show Layout.json.tie = .toEven from rfl, digits]
  split
  · exact .positionalText all leading _
  · exact .exponentText all _

theorem IsNumber.of_finite {x : Float} {negative : Bool} {m : Nat} {q : Int}
    (finite : Binary64.ofFloat x = .finite negative m q) : IsNumber (Layout.json.chars x) := by
  unfold Layout.chars
  rw [finite]
  refine .of_magnitude ?_ negative
  split
  · exact .places (.digit '0' rfl)
      (.places (List.forall_mem_singleton.2 rfl) (List.cons_ne_nil '0' []))
  · rename_i some
    exact .of_canonical (Binary64.canonical_of_ofBits finite (Nat.pos_of_ne_zero some))

end SpanQuery.Json
