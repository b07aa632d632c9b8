namespace SpanQuery

abbrev Keyed (α : Type) := List (String × α)

namespace Keyed

def get? (k : Keyed α) (name : String) : Option α :=
  k.lookup name

def put (k : Keyed α) (name : String) (a : α) : Keyed α :=
  match k with
  | [] => [(name, a)]
  | (other, b) :: rest =>
      if other = name then (name, a) :: rest else (other, b) :: put rest name a

theorem mem_put {k : Keyed α} {name : String} {a : α} {p : String × α} (h : p ∈ k.put name a) :
    p = (name, a) ∨ p ∈ k := by
  induction k with
  | nil => exact .inl (List.mem_singleton.1 h)
  | cons first rest ih =>
      obtain ⟨other, b⟩ := first
      by_cases same : other = name
      · rw [put, if_pos same] at h
        rcases List.mem_cons.1 h with rfl | h
        · exact .inl rfl
        · exact .inr (List.mem_cons_of_mem _ h)
      · rw [put, if_neg same] at h
        rcases List.mem_cons.1 h with rfl | h
        · exact .inr List.mem_cons_self
        · exact (ih h).imp_right (List.mem_cons_of_mem _)

theorem mem_of_get? {k : Keyed α} {name : String} {a : α} (h : k.get? name = some a) :
    (name, a) ∈ k := by
  obtain ⟨before, later, rfl, -⟩ := List.lookup_eq_some_iff.1 h
  simp

theorem get?_put_self (k : Keyed α) (name : String) (a : α) :
    (k.put name a).get? name = some a := by
  induction k with
  | nil => simp [put, get?]
  | cons p rest ih =>
      obtain ⟨other, b⟩ := p
      by_cases h : other = name
      · simp [put, get?, h]
      · simpa [put, get?, h, List.lookup_cons, beq_eq_false_iff_ne.2 (Ne.symm h)] using ih

theorem get?_put_of_ne (k : Keyed α) {name other : String} (a : α) (h : other ≠ name) :
    (k.put name a).get? other = k.get? other := by
  induction k with
  | nil => simp [put, get?, List.lookup_cons, beq_eq_false_iff_ne.2 h]
  | cons p rest ih =>
      obtain ⟨first, b⟩ := p
      by_cases hp : first = name
      · simp [put, get?, hp, List.lookup_cons, beq_eq_false_iff_ne.2 h]
      · simp only [get?] at ih
        simp [put, get?, hp, List.lookup_cons, ih]

end Keyed

end SpanQuery
