import SpanQuery.Keyed
import SpanQuery.Source

namespace SpanQuery

namespace Sample

/-- Orders samples by tick and leaves those at one tick as they are. -/
def sort (samples : List Sample) : List Sample :=
  samples.mergeSort fun a b => a.timestamp ≤ b.timestamp

/-- Puts a sample behind those of an ordered series that are not later. -/
def insertInto (series : List Sample) (s : Sample) : List Sample :=
  upTo s.timestamp series ++ s :: after s.timestamp series

theorem ordered_sort (samples : List Sample) : Ordered (sort samples) := by
  have sorted : (sort samples).Pairwise fun s later => decide (s.timestamp ≤ later.timestamp) := by
    refine List.pairwise_mergeSort ?_ ?_ samples
    · intro a b c hab hbc
      simp only [decide_eq_true_eq] at hab hbc ⊢
      exact Int64.le_trans hab hbc
    · intro a b
      simp only [Bool.or_eq_true, decide_eq_true_eq]
      exact Int64.le_total _ _
  exact sorted.imp fun h => by simpa using h

theorem ordered_insertInto {series : List Sample} (ordered : Ordered series) (s : Sample) :
    Ordered (insertInto series s) := by
  have split := ordered
  rw [Ordered, ← upTo_append_after s.timestamp series, List.pairwise_append] at split
  refine List.pairwise_append.2 ⟨split.1, List.pairwise_cons.2 ⟨?_, split.2.1⟩, ?_⟩
  · intro later h
    exact Int64.le_of_lt (lt_of_mem_after ordered h)
  · intro early he later hl
    rcases List.mem_cons.1 hl with rfl | hl
    · exact le_of_mem_upTo he
    · exact split.2.2 early he later hl

end Sample

structure Memory where
  series : Keyed (List Sample)
  ordered : ∀ p ∈ series, Sample.Ordered p.2

namespace Memory

def empty : Memory := ⟨[], by simp⟩

def samples? (m : Memory) (name : String) : Option (List Sample) :=
  m.series.get? name

theorem ordered_samples? {m : Memory} {name : String} {samples : List Sample}
    (h : m.samples? name = some samples) : Sample.Ordered samples :=
  m.ordered _ (Keyed.mem_of_get? h)

theorem ordered_put (m : Memory) (name : String) {samples : List Sample}
    (h : Sample.Ordered samples) : ∀ p ∈ m.series.put name samples, Sample.Ordered p.2 := by
  intro p hp
  rcases Keyed.mem_put hp with rfl | hp
  · exact h
  · exact m.ordered p hp

def insert (m : Memory) (name : String) (samples : List Sample) : Memory :=
  ⟨m.series.put name (Sample.sort samples), m.ordered_put name (Sample.ordered_sort samples)⟩

def push (m : Memory) (name : String) (s : Sample) : Memory :=
  ⟨m.series.put name (Sample.insertInto ((m.samples? name).getD []) s), by
    refine m.ordered_put name (Sample.ordered_insertInto ?_ s)
    cases h : m.samples? name with
    | none => exact List.Pairwise.nil
    | some samples => exact m.ordered_samples? h⟩

def names (m : Memory) : List String :=
  (m.series.map (·.1)).mergeSort fun a b => a ≤ b

def size (m : Memory) : Nat :=
  m.series.length

def sampleCount (m : Memory) : Nat :=
  (m.series.flatMap (·.2)).length

def answer (m : Memory) (r : Request) : Answer :=
  match m.samples? r.name with
  | none => .error (.variableNotFound r.name)
  | some samples => .ok (Sample.window samples r.t0 r.t1)

theorem answer_of_known {m : Memory} {r : Request} {series : List Sample}
    (known : m.samples? r.name = some series) :
    m.answer r = .ok (Sample.window series r.t0 r.t1) := by
  rw [answer, known]

theorem exists_of_answer {m : Memory} {r : Request} {samples : List Sample}
    (h : m.answer r = .ok samples) :
    ∃ series, m.samples? r.name = some series ∧ samples = Sample.window series r.t0 r.t1 := by
  unfold answer at h
  cases known : m.samples? r.name with
  | none =>
      rw [known] at h
      cases h
  | some series =>
      rw [known] at h
      exact ⟨series, rfl, (Except.ok.inj h).symm⟩

def wholeAnswer (m : Memory) (r : Request) : Answer :=
  match m.samples? r.name with
  | none => .error (.variableNotFound r.name)
  | some samples => .ok samples

def source : Source Memory :=
  fun r m => (m.answer r, m)

def wholeSource : Source Memory :=
  fun r m => (m.wholeAnswer r, m)

end Memory

end SpanQuery
