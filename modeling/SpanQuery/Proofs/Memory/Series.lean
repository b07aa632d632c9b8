import SpanQuery.Csv.Samples
import SpanQuery.Proofs.Sample.Sorted

namespace SpanQuery

def samplesOf (name : String) (rows : List (String × Sample)) : List Sample :=
  (rows.filter (·.1 = name)).map (·.2)

theorem samplesOf_append (name : String) (rows later : List (String × Sample)) :
    samplesOf name (rows ++ later) = samplesOf name rows ++ samplesOf name later := by
  simp only [samplesOf, List.filter_append, List.map_append]

theorem samplesOf_of_ne {name : String} {row : String × Sample} (other : row.1 ≠ name) :
    samplesOf name [row] = [] := by
  simp [samplesOf, other]

namespace Sample

theorem foldl_insertInto_sort (samples later : List Sample) :
    later.foldl insertInto (sort samples) = sort (samples ++ later) := by
  induction later generalizing samples with
  | nil => rw [List.append_nil]; rfl
  | cons s later ih =>
      rw [List.foldl_cons, insertInto_sort, ih, List.append_assoc]
      rfl

theorem sort_of_ordered {samples : List Sample} (h : Ordered samples) : sort samples = samples :=
  (ordered_sort samples).eq_of_filter_eq h (filter_sort samples)

theorem foldl_insertInto_nil (samples : List Sample) :
    samples.foldl insertInto [] = sort samples := by
  have empty : sort [] = [] := List.mergeSort_nil
  rw [← empty, foldl_insertInto_sort, List.nil_append]

/-- The samples in the order of their ticks, none lost and none added. At one tick they stand as
they were given. -/
structure StablySorted (given series : List Sample) : Prop where
  ordered : Ordered series
  perm : series.Perm given
  ties : ∀ t : Tick, series.filter (·.timestamp = t) = given.filter (·.timestamp = t)

theorem stablySorted_sort (samples : List Sample) : StablySorted samples (sort samples) :=
  ⟨ordered_sort samples, List.mergeSort_perm samples _, filter_sort samples⟩

end Sample

namespace Memory

theorem samples?_push (m : Memory) (name other : String) (s : Sample) :
    (m.push name s).samples? other =
      if other = name then some (Sample.insertInto ((m.samples? name).getD []) s)
      else m.samples? other := by
  split
  · rename_i same
    subst same
    exact Keyed.get?_put_self _ _ _
  · rename_i differs
    exact Keyed.get?_put_of_ne _ _ differs

theorem samples?_insert (m : Memory) (name other : String) (samples : List Sample) :
    (m.insert name samples).samples? other =
      if other = name then some (Sample.sort samples) else m.samples? other := by
  split
  · rename_i same
    subst same
    exact Keyed.get?_put_self _ _ _
  · rename_i differs
    exact Keyed.get?_put_of_ne _ _ differs

theorem samples?_pushes (m : Memory) (name : String) (rows : List (String × Sample)) :
    (rows.foldl (fun m row => m.push row.1 row.2) m).samples? name =
      if samplesOf name rows = [] then m.samples? name
      else some ((samplesOf name rows).foldl Sample.insertInto ((m.samples? name).getD [])) := by
  induction rows generalizing m with
  | nil => rfl
  | cons row rest ih =>
      have split : samplesOf name (row :: rest) = samplesOf name [row] ++ samplesOf name rest :=
        samplesOf_append name [row] rest
      rw [List.foldl_cons, ih, samples?_push, split]
      by_cases here : name = row.1
      · subst here
        have own : samplesOf row.1 [row] = [row.2] := by simp [samplesOf]
        rw [own]
        by_cases last : samplesOf row.1 rest = [] <;> simp [last]
      · rw [samplesOf_of_ne (Ne.symm here), if_neg here, List.nil_append]

theorem samples?_inserts (m : Memory) (name : String) (names : List String)
    (samples : String → List Sample) :
    (names.foldl (fun m name => m.insert name (samples name)) m).samples? name =
      if name ∈ names then some (Sample.sort (samples name)) else m.samples? name := by
  induction names generalizing m with
  | nil => rfl
  | cons first rest ih =>
      rw [List.foldl_cons, ih, samples?_insert]
      by_cases here : name = first
      · subst here
        simp
      · simp [here]

/-! ## Histories -/

inductive Change where
  | insert (name : String) (samples : List Sample)
  | push (name : String) (s : Sample)

def Change.name : Change → String
  | insert name _ | push name _ => name

def change (m : Memory) : Change → Memory
  | .insert name samples => m.insert name samples
  | .push name s => m.push name s

/-- What has come for a variable after one more change, if there is a series of it. -/
def arrive (name : String) (given : Option (List Sample)) : Change → Option (List Sample)
  | .insert other samples => if name = other then some samples else given
  | .push other s => if name = other then some (given.getD [] ++ [s]) else given

def arrived (name : String) (given : Option (List Sample)) (changes : List Change) :
    Option (List Sample) :=
  changes.foldl (arrive name) given

theorem samples?_change_of_ne (m : Memory) (c : Change) {name : String} (other : name ≠ c.name) :
    (m.change c).samples? name = m.samples? name := by
  cases c with
  | insert first samples => exact (m.samples?_insert first name samples).trans (if_neg other)
  | push first s => exact (m.samples?_push first name s).trans (if_neg other)

theorem samples?_change {m : Memory} {name : String} {given : Option (List Sample)}
    (sorted : m.samples? name = given.map Sample.sort) (c : Change) :
    (m.change c).samples? name = (arrive name given c).map Sample.sort := by
  cases c with
  | insert other samples =>
      simp only [change, samples?_insert, arrive]
      split
      · rfl
      · exact sorted
  | push other s =>
      simp only [change, samples?_push, arrive]
      split
      · rename_i here
        have series : (m.samples? other).getD [] = Sample.sort (given.getD []) := by
          rw [← here, sorted]
          cases given with
          | none => exact List.mergeSort_nil.symm
          | some samples => rfl
        rw [series, Sample.insertInto_sort, Option.map_some]
      · exact sorted

theorem samples?_changes {m : Memory} {name : String} {given : Option (List Sample)}
    (sorted : m.samples? name = given.map Sample.sort) (changes : List Change) :
    (changes.foldl change m).samples? name = (arrived name given changes).map Sample.sort := by
  induction changes generalizing m given with
  | nil => exact sorted
  | cons c changes ih => exact ih (samples?_change sorted c)

theorem map_sort_samples? (m : Memory) (name : String) :
    (m.samples? name).map Sample.sort = m.samples? name := by
  cases known : m.samples? name with
  | none => rfl
  | some series => exact congrArg some (Sample.sort_of_ordered (m.ordered_samples? known))

/-! ## Rows -/

theorem samples?_pushes_empty (rows : List (String × Sample)) (name : String) :
    (rows.foldl (fun m row => m.push row.1 row.2) Memory.empty).samples? name =
      if samplesOf name rows = [] then none else some (Sample.sort (samplesOf name rows)) := by
  rw [samples?_pushes]
  change (if _ then none else some ((samplesOf name rows).foldl Sample.insertInto [])) = _
  rw [Sample.foldl_insertInto_nil]

theorem samples?_pushed {m : Memory} {name : String} (fresh : m.samples? name = none)
    {samples : List Sample} (some : samples ≠ []) (other : String) :
    (samples.foldl (fun m s => m.push name s) m).samples? other =
      (m.insert name samples).samples? other := by
  have rows : samples.foldl (fun m s => m.push name s) m =
      (samples.map fun s => (name, s)).foldl (fun m row => m.push row.1 row.2) m := by
    rw [List.foldl_map]
  rw [rows, samples?_pushes, samples?_insert]
  by_cases here : other = name
  · subst here
    have own : samplesOf other (samples.map fun s => (other, s)) = samples := by
      simp [samplesOf, List.filter_map, Function.comp_def]
    rw [own, fresh, if_neg some, if_pos rfl]
    exact congrArg _ (Sample.foldl_insertInto_nil samples)
  · have others : samplesOf other (samples.map fun s => (name, s)) = [] := by
      simp [samplesOf, Ne.symm here]
    rw [others, if_pos rfl, if_neg here]

/-- Whatever is done to the series of a memory, each is the stable sort of what came for it since it
was last replaced, and nothing else changes it. Without any sample there is no series, unless an
empty one was inserted. -/
theorem series_stablySorted (m : Memory) (changes : List Change) :
    (∀ name, Option.Rel Sample.StablySorted (arrived name (m.samples? name) changes)
      ((changes.foldl change m).samples? name)) ∧
    (∀ (c : Change) (name : String), name ≠ c.name →
      (m.change c).samples? name = m.samples? name) ∧
    (∀ (name : String) (samples : List Sample), m.samples? name = none →
      let pushed := samples.foldl (fun m s => m.push name s) m
      (pushed.samples? name).getD [] = ((m.insert name samples).samples? name).getD [] ∧
        (samples ≠ [] → ∀ other, pushed.samples? other = (m.insert name samples).samples? other)) ∧
    ∀ (bytes : Text.Bytes) (rows : List Csv.Row), Csv.rows bytes = .ok rows →
      ∃ loaded, Csv.memory bytes = .ok loaded ∧ ∀ name,
        (samplesOf name rows = [] → loaded.samples? name = none) ∧
        (samplesOf name rows ≠ [] → ∃ series, loaded.samples? name = some series ∧
          Sample.StablySorted (samplesOf name rows) series) := by
  refine ⟨fun name => ?_, fun c name other => m.samples?_change_of_ne c other,
    fun name samples fresh => ⟨?_, fun some => samples?_pushed fresh some⟩,
    fun bytes rows read => ⟨rows.foldl (fun m row => m.push row.1 row.2) .empty, ?_,
      fun name => ⟨fun none => ?_, fun some => ?_⟩⟩⟩
  · rw [samples?_changes (m.map_sort_samples? name).symm changes]
    cases arrived name (m.samples? name) changes with
    | none => exact .none
    | some samples => exact .some (Sample.stablySorted_sort samples)
  · by_cases empty : samples = []
    · subst empty
      rw [samples?_insert, if_pos rfl]
      change (m.samples? name).getD [] = Sample.sort []
      rw [fresh]
      exact List.mergeSort_nil.symm
    · rw [samples?_pushed fresh empty]
  · rw [Csv.memory, read]
    rfl
  · rw [samples?_pushes_empty, if_pos none]
  · exact ⟨_, (samples?_pushes_empty rows name).trans (if_neg some), Sample.stablySorted_sort _⟩

end Memory

end SpanQuery
