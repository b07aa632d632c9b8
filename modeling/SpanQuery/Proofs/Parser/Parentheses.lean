import Mathlib.Data.List.Basic
import SpanQuery.Token

namespace SpanQuery.Grammar

inductive Balanced : List Token → Prop where
  | nil : Balanced []
  | other {t : Token} {ts : List Token} :
      t.kind ≠ .leftParen → t.kind ≠ .rightParen → Balanced ts → Balanced (t :: ts)
  | pair {opening closing : Token} {us vs : List Token} :
      opening.kind = .leftParen → Balanced us → closing.kind = .rightParen → Balanced vs →
      Balanced (opening :: (us ++ closing :: vs))

def nest? (opened : List Nat) (t : Token) : Option (List Nat) :=
  match t.kind, opened with
  | .leftParen, _ => some (t.offset :: opened)
  | .rightParen, [] => none
  | .rightParen, _ :: outer => some outer
  | _, _ => some opened

def unclosed (opened : List Nat) (ts : List Token) : Option (List Nat) :=
  ts.foldlM nest? opened

section

variable {opened : List Nat} {t : Token} {ts us vs : List Token}

theorem nest?_left (kind : t.kind = .leftParen) : nest? opened t = some (t.offset :: opened) := by
  simp [nest?, kind]

theorem nest?_right {opening : Nat} (kind : t.kind = .rightParen) :
    nest? (opening :: opened) t = some opened := by
  simp [nest?, kind]

theorem nest?_right_nil (kind : t.kind = .rightParen) : nest? [] t = none := by
  simp [nest?, kind]

theorem nest?_other (left : t.kind ≠ .leftParen) (right : t.kind ≠ .rightParen) :
    nest? opened t = some opened := by
  unfold nest?
  split
  · exact absurd ‹_› left
  · exact absurd ‹_› right
  · exact absurd ‹_› right
  · rfl

theorem nest?_cases {opened' : List Nat} (h : nest? opened t = some opened') :
    (t.kind = .leftParen ∧ opened' = t.offset :: opened) ∨
      (t.kind = .rightParen ∧ ∃ opening, opened = opening :: opened') ∨
      (t.kind ≠ .leftParen ∧ t.kind ≠ .rightParen ∧ opened' = opened) := by
  by_cases left : t.kind = .leftParen
  · rw [nest?_left left] at h
    exact .inl ⟨left, (Option.some.inj h).symm⟩
  by_cases right : t.kind = .rightParen
  · cases opened with
    | nil =>
        rw [nest?_right_nil right] at h
        cases h
    | cons opening opened =>
        rw [nest?_right right] at h
        cases h
        exact .inr (.inl ⟨right, opening, rfl⟩)
  · rw [nest?_other left right] at h
    exact .inr (.inr ⟨left, right, (Option.some.inj h).symm⟩)

theorem unclosed_cons : unclosed opened (t :: ts) = (nest? opened t).bind (unclosed · ts) :=
  List.foldlM_cons

theorem unclosed_append : unclosed opened (us ++ vs) = (unclosed opened us).bind (unclosed · vs) :=
  List.foldlM_append

theorem Balanced.unclosed (h : Balanced ts) : unclosed opened ts = some opened := by
  induction h generalizing opened with
  | nil => rfl
  | other left right _ ih => rw [unclosed_cons, nest?_other left right, Option.bind_some, ih]
  | pair opens _ closes _ ihu ihv =>
      rw [unclosed_cons, nest?_left opens, Option.bind_some, unclosed_append, ihu, Option.bind_some,
        unclosed_cons, nest?_right closes, Option.bind_some, ihv]

theorem exists_opening {opening : Nat} {outer : List Nat}
    (h : Grammar.unclosed opened ts = some (opening :: outer)) :
    (∃ above, opened = above ++ opening :: outer ∧ Grammar.unclosed above ts = some []) ∨
      ∃ before t behind, ts = before ++ t :: behind ∧ t.kind = .leftParen ∧ t.offset = opening ∧
        Grammar.unclosed [] behind = some [] := by
  induction ts generalizing opened with
  | nil =>
      obtain rfl := Option.some.inj h
      exact .inl ⟨[], rfl, rfl⟩
  | cons t ts ih =>
      rw [unclosed_cons] at h
      obtain ⟨next, step, h⟩ := Option.bind_eq_some_iff.1 h
      rcases ih h with ⟨above, same, closed⟩ | ⟨before, t', behind, rfl, rest⟩
      · rcases nest?_cases step with ⟨left, rfl⟩ | ⟨right, closes, rfl⟩ | ⟨left, right, rfl⟩
        · cases above with
          | nil => exact .inr ⟨[], t, ts, rfl, left, (List.cons.inj same).1, closed⟩
          | cons _ above =>
              obtain ⟨rfl, rfl⟩ := List.cons.inj same
              refine .inl ⟨above, rfl, ?_⟩
              rw [unclosed_cons, nest?_left left]
              exact closed
        · refine .inl ⟨closes :: above, by rw [same, List.cons_append], ?_⟩
          rw [unclosed_cons, nest?_right right]
          exact closed
        · refine .inl ⟨above, same, ?_⟩
          rw [unclosed_cons, nest?_other left right]
          exact closed
      · exact .inr ⟨t :: before, t', behind, rfl, rest⟩

end

/-- A parenthesis with which no other one encloses balanced tokens. -/
inductive Unpartnered : List Token → Token → Prop where
  | opening {before behind : List Token} {t : Token} :
      t.kind = .leftParen →
      (∀ inside closing rest, behind = inside ++ closing :: rest → Balanced inside →
        closing.kind ≠ .rightParen) →
      Unpartnered (before ++ t :: behind) t
  | closing {before behind : List Token} {t : Token} :
      t.kind = .rightParen →
      (∀ rest opening inside, before = rest ++ opening :: inside → Balanced inside →
        opening.kind ≠ .leftParen) →
      Unpartnered (before ++ t :: behind) t

theorem unpartnered_of_unclosed {ts : List Token} {opening : Nat} {outer : List Nat}
    (h : unclosed [] ts = some (opening :: outer)) :
    (∃ t, t.offset = opening ∧ Unpartnered ts t) ∧ ¬ Balanced ts := by
  constructor
  · rcases exists_opening h with ⟨above, empty, -⟩ | ⟨before, t, behind, rfl, kind, same, closed⟩
    · cases above <;> cases empty
    · refine ⟨t, same, .opening kind ?_⟩
      rintro inside closing rest rfl balanced right
      rw [unclosed_append, balanced.unclosed, Option.bind_some, unclosed_cons,
        nest?_right_nil right] at closed
      cases closed
  · intro balanced
    cases h.symm.trans balanced.unclosed

theorem unpartnered_of_closing {before : List Token} {t : Token} (behind : List Token)
    (h : unclosed [] before = some []) (kind : t.kind = .rightParen) :
    Unpartnered (before ++ t :: behind) t ∧ ¬ Balanced (before ++ t :: behind) := by
  constructor
  · refine .closing kind ?_
    rintro rest opening inside rfl balanced left
    rw [unclosed_append] at h
    obtain ⟨outer, -, h⟩ := Option.bind_eq_some_iff.1 h
    rw [unclosed_cons, nest?_left left, Option.bind_some, balanced.unclosed] at h
    cases h
  · intro balanced
    have whole := @balanced.unclosed []
    rw [unclosed_append, h, Option.bind_some, unclosed_cons, nest?_right_nil kind] at whole
    cases whole

end SpanQuery.Grammar
