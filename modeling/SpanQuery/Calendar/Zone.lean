namespace SpanQuery.Calendar

structure Change where
  since : Int
  offset : Int
  deriving Repr, DecidableEq

def offsetOf (first : Int) : List Change → Int → Int
  | [], _ => first
  | c :: later, instant => if c.since ≤ instant then offsetOf c.offset later instant else first

def offsetsOf (first : Int) : List Change → List Int
  | [] => [first]
  | c :: later => (offsetsOf c.offset later).insert first

theorem nodup_offsetsOf (first : Int) (changes : List Change) :
    (offsetsOf first changes).Nodup := by
  induction changes generalizing first with
  | nil => simp [offsetsOf]
  | cons c later ih =>
      rw [offsetsOf, List.insert]
      split
      · exact ih c.offset
      · rename_i h
        exact List.nodup_cons.2 ⟨by simpa using h, ih c.offset⟩

theorem offsetOf_mem (first : Int) (changes : List Change) (instant : Int) :
    offsetOf first changes instant ∈ offsetsOf first changes := by
  induction changes generalizing first with
  | nil => simp [offsetOf, offsetsOf]
  | cons c later ih =>
      rw [offsetOf, offsetsOf, List.mem_insert_iff]
      split
      · exact .inr (ih c.offset)
      · exact .inl rfl

/-- A zone; its clocks are always less than a day off. -/
structure Zone where
  name : String
  first : Int
  changes : List Change
  offset_lt : ∀ offset ∈ offsetsOf first changes, offset.natAbs < 86400

namespace Zone

def universal : Zone := ⟨"UTC", 0, [], by decide⟩

def offsetAt (z : Zone) (instant : Int) : Int :=
  offsetOf z.first z.changes instant

def reading (z : Zone) (instant : Int) : Int :=
  instant + z.offsetAt instant

def instants (z : Zone) (reading : Int) : List Int :=
  ((offsetsOf z.first z.changes).filter fun o => z.offsetAt (reading - o) = o).map (reading - ·)

theorem offsetAt_mem (z : Zone) (instant : Int) :
    z.offsetAt instant ∈ offsetsOf z.first z.changes :=
  offsetOf_mem z.first z.changes instant

theorem natAbs_offsetAt_lt (z : Zone) (instant : Int) : (z.offsetAt instant).natAbs < 86400 :=
  z.offset_lt _ (z.offsetAt_mem instant)

theorem mem_instants (z : Zone) (reading instant : Int) :
    instant ∈ z.instants reading ↔ z.reading instant = reading := by
  simp only [instants, List.mem_map, List.mem_filter, decide_eq_true_eq, Zone.reading]
  constructor
  · rintro ⟨o, ⟨_, ho⟩, rfl⟩
    omega
  · intro h
    have hr : reading - z.offsetAt instant = instant := by omega
    exact ⟨z.offsetAt instant, ⟨z.offsetAt_mem instant, by rw [hr]⟩, hr⟩

theorem nodup_instants (z : Zone) (reading : Int) : (z.instants reading).Nodup :=
  List.pairwise_map.2 <|
    ((nodup_offsetsOf z.first z.changes).filter _).imp fun distinct same => distinct (by omega)

end Zone

end SpanQuery.Calendar
