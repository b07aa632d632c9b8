import SpanQuery.Error

/-!
# Samples

A recorded value holds from its tick until the next sample of the same variable. To know the value
at the start of a window one needs the last sample at or before it, its anchor.
-/

namespace SpanQuery

structure Sample where
  timestamp : Tick
  value : Float

/-- What a source is asked for: the samples of a variable that matter in the window from `t0` up
to `t1`. -/
structure Request where
  name : String
  t0 : Tick
  t1 : Tick
  deriving Repr, DecidableEq

abbrev Answer := Except FetchError (List Sample)

namespace Sample

/-- Ordered by tick; samples at one tick may stand in any order. -/
def Ordered (samples : List Sample) : Prop :=
  samples.Pairwise fun s later => s.timestamp ≤ later.timestamp

def upTo (t : Tick) (samples : List Sample) : List Sample :=
  samples.takeWhile (·.timestamp ≤ t)

def after (t : Tick) (samples : List Sample) : List Sample :=
  samples.dropWhile (·.timestamp ≤ t)

/-- The samples from the anchor of `t` on, or all if there is no anchor. -/
def fromAnchor (t : Tick) (samples : List Sample) : List Sample :=
  samples.drop ((upTo t samples).length - 1)

/-- The samples of an ordered list that matter in the window from `t0` up to `t1`: the anchor of
`t0`, if there is one, and all later ones before `t1`. -/
def window (samples : List Sample) (t0 t1 : Tick) : List Sample :=
  (fromAnchor t0 samples).takeWhile (·.timestamp < t1)

theorem upTo_append_after (t : Tick) (samples : List Sample) :
    upTo t samples ++ after t samples = samples :=
  List.takeWhile_append_dropWhile

theorem le_of_mem_upTo {t : Tick} {samples : List Sample} {s : Sample} (h : s ∈ upTo t samples) :
    s.timestamp ≤ t := by
  have early := List.all_eq_true.1 List.all_takeWhile s h
  simpa using early

theorem not_of_mem_dropWhile {p : Tick → Prop} [DecidablePred p]
    (down : ∀ {t u}, t ≤ u → p u → p t) {samples : List Sample} (ordered : Ordered samples)
    {s : Sample} (h : s ∈ samples.dropWhile (p ·.timestamp)) : ¬ p s.timestamp := by
  induction samples with
  | nil => simp at h
  | cons first rest ih =>
      rw [Ordered, List.pairwise_cons] at ordered
      by_cases within : p first.timestamp
      · rw [List.dropWhile_cons_of_pos (by simpa using within)] at h
        exact ih ordered.2 h
      · rw [List.dropWhile_cons_of_neg (by simpa using within)] at h
        rcases List.mem_cons.1 h with rfl | h
        · exact within
        · exact fun later => within (down (ordered.1 s h) later)

theorem lt_of_mem_after {t : Tick} {samples : List Sample} (ordered : Ordered samples) {s : Sample}
    (h : s ∈ after t samples) : t < s.timestamp :=
  Int64.not_le.1 (not_of_mem_dropWhile (p := (· ≤ t)) Int64.le_trans ordered h)

end Sample

end SpanQuery
