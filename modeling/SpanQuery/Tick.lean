namespace SpanQuery

/-- A point in time; one second has `2 ^ 28` ticks. -/
abbrev Tick := Int64

namespace Tick

def text (t : Tick) : String :=
  toString t.toInt

def ofInt? (n : Int) : Option Tick :=
  if Int64.minValue.toInt ≤ n ∧ n ≤ Int64.maxValue.toInt then some (Int64.ofInt n) else none

theorem toInt_of_ofInt? {n : Int} {t : Tick} (h : ofInt? n = some t) : t.toInt = n := by
  unfold ofInt? at h
  split at h
  · rename_i range
    rw [← Option.some.inj h]
    exact Int64.toInt_ofInt_of_le range.1 (Int.lt_add_one_of_le range.2)
  · simp at h

theorem ofInt?_eq_some_iff {n : Int} {t : Tick} : ofInt? n = some t ↔ t.toInt = n := by
  have low := t.le_toInt
  have high := t.toInt_lt
  have bounds : Int64.minValue.toInt = -2 ^ 63 ∧ Int64.maxValue.toInt = 2 ^ 63 - 1 := by decide
  constructor
  · exact toInt_of_ofInt?
  · rintro rfl
    rw [ofInt?, if_pos (by omega), Int64.ofInt_toInt]

theorem ofInt?_eq_none_iff {n : Int} :
    ofInt? n = none ↔ n < Int64.minValue.toInt ∨ Int64.maxValue.toInt < n := by
  rw [ofInt?, ite_eq_right_iff]
  simp only [reduceCtorEq, imp_false]
  omega

end Tick

end SpanQuery
