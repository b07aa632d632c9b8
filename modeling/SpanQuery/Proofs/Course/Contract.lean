import SpanQuery.Course

/-!
# Contracts of courses

What a course does on every branch, composed along its construction:

* `Course.Keeps`: the intervals of a course touch, none is empty, and together they fill a window
  up to its end or up to an error; questions, intervals and errors keep a contract.
* `Keeps.append`, `Keeps.flatMap`, `Keeps.mapItem`: contracts of composed courses.
* `Keeps.items`: a run against a source that keeps its side of the contract gives touching intervals
  and at most one error behind them.
-/

namespace SpanQuery

/-- Touching intervals, none of them empty, that fill the span from `start` to `stop`. -/
def Tiles (start stop : Tick) : List Interval → Prop
  | [] => start = stop
  | i :: rest => i.start = start ∧ i.start < i.stop ∧ Tiles i.stop stop rest

namespace Tiles

theorem le {start stop : Tick} {spans : List Interval} (h : Tiles start stop spans) :
    start ≤ stop := by
  induction spans generalizing start with
  | nil => exact Int64.le_of_eq h
  | cons i rest ih =>
      obtain ⟨rfl, lt, later⟩ := h
      exact Int64.le_of_lt (Int64.lt_of_lt_of_le lt (ih later))

theorem mem {start stop : Tick} {spans : List Interval} (h : Tiles start stop spans)
    {i : Interval} (hi : i ∈ spans) : start ≤ i.start ∧ i.start < i.stop ∧ i.stop ≤ stop := by
  induction spans generalizing start with
  | nil => cases hi
  | cons first rest ih =>
      obtain ⟨rfl, lt, later⟩ := h
      rcases List.mem_cons.1 hi with rfl | hi
      · exact ⟨Int64.le_rfl, lt, later.le⟩
      · obtain ⟨hstart, inner, hstop⟩ := ih later hi
        exact ⟨Int64.le_trans (Int64.le_of_lt lt) hstart, inner, hstop⟩

theorem exists_mem_iff {start stop : Tick} {spans : List Interval} (h : Tiles start stop spans)
    (t : Tick) : (∃ i ∈ spans, i.start ≤ t ∧ t < i.stop) ↔ start ≤ t ∧ t < stop := by
  induction spans generalizing start with
  | nil =>
      obtain rfl : start = stop := h
      simp
  | cons first rest ih =>
      obtain ⟨rfl, lt, later⟩ := h
      have end_le := later.le
      simp only [List.mem_cons, exists_eq_or_imp, ih later]
      grind

theorem touching {start stop : Tick} {spans : List Interval} (h : Tiles start stop spans)
    {n : Nat} {i j : Interval} (hi : spans[n]? = some i) (hj : spans[n + 1]? = some j) :
    j.start = i.stop := by
  induction spans generalizing start n with
  | nil => cases hi
  | cons first rest ih =>
      obtain ⟨-, -, later⟩ := h
      cases n with
      | succ n => exact ih later hi hj
      | zero =>
          cases rest with
          | nil => cases hj
          | cons second rest =>
              cases hi
              cases hj
              exact later.1

theorem getLast? {start stop : Tick} {spans : List Interval} (h : Tiles start stop spans)
    (lt : start < stop) : ∃ i, spans.getLast? = some i ∧ i.stop = stop := by
  induction spans generalizing start with
  | nil => exact absurd (h ▸ lt) Int64.lt_irrefl
  | cons first rest ih =>
      obtain ⟨-, -, later⟩ := h
      cases rest with
      | nil => exact ⟨first, rfl, later⟩
      | cons second rest =>
          have inner : first.stop < second.stop := later.1 ▸ later.2.1
          obtain ⟨i, last, here⟩ := ih later (Int64.lt_of_lt_of_le inner later.2.2.le)
          exact ⟨i, by simpa using last, here⟩

end Tiles

namespace Course

/-- What is promised of a course. A question or an error belongs to the span that begins where the
intervals so far end. -/
structure Contract (ρ α : Type) where
  asks : Tick → Tick → ρ → Prop
  answers : ρ → α → Prop
  gives : Interval → Prop
  fails : Tick → Tick → QueryError → Prop

namespace Contract

def Admits (k : Contract ρ α) (start stop : Tick) : Item → Prop
  | .ok i => i.start = start ∧ i.stop = stop ∧ k.gives i
  | .error e => k.fails start stop e

/-- What a course with the contract `k` asks and how it fails within the window from `start` to
`stop` keeps the contract `k'` of a course that it is part of. -/
structure Passes (k k' : Contract ρ α) (start stop : Tick) : Prop where
  asks : ∀ {t last q}, start ≤ t → t < last → last ≤ stop → k.asks t last q → k'.asks t last q
  answers : ∀ {q a}, k'.answers q a → k.answers q a
  fails : ∀ {t last e}, start ≤ t → t < last → last ≤ stop → k.fails t last e → k'.fails t last e

theorem Passes.refl (k : Contract ρ α) (start stop : Tick) : k.Passes k start stop :=
  ⟨fun _ _ _ => id, id, fun _ _ _ => id⟩

theorem Passes.later {k k' : Contract ρ α} {start start' stop : Tick}
    (h : k.Passes k' start stop) (le : start ≤ start') : k.Passes k' start' stop where
  asks ht := h.asks (Int64.le_trans le ht)
  answers := h.answers
  fails ht := h.fails (Int64.le_trans le ht)

def Ends (k : Contract ρ α) (reach stop : Tick) (ending : List Item) : Prop :=
  (ending = [] ∧ reach = stop) ∨
    ∃ e last, ending = [.error e] ∧ reach < last ∧ last ≤ stop ∧ k.fails reach last e

theorem Ends.not_ok {k : Contract ρ α} {reach stop : Tick} {ending : List Item}
    (h : k.Ends reach stop ending) (i : Interval) : .ok i ∉ ending := by
  rcases h with ⟨rfl, -⟩ | ⟨e, last, rfl, -⟩ <;> simp

end Contract

/-- On every branch with answers of the contract, touching intervals fill the window from the given
tick up to `stop`, or up to an error. -/
inductive Keeps (k : Contract ρ α) (stop : Tick) : Tick → Course ρ α → Prop where
  | done : Keeps k stop stop .done
  | fail {start last : Tick} {e : QueryError} {next : Unit → Course ρ α} :
      start < last → last ≤ stop → k.fails start last e → next () = .done →
      Keeps k stop start (.fail e next)
  | emit {start : Tick} {i : Interval} {next : Unit → Course ρ α} :
      i.start = start → start < i.stop → i.stop ≤ stop → k.gives i →
      Keeps k stop i.stop (next ()) → Keeps k stop start (.emit i next)
  | ask {start last : Tick} {q : ρ} {answer : α → Course ρ α} :
      start < last → last ≤ stop → k.asks start last q →
      (∀ a, k.answers q a → Keeps k stop start (answer a)) → Keeps k stop start (.ask q answer)

/-! ## Composition -/

theorem keeps_ofItem {k : Contract ρ α} {start stop : Tick} {item : Item} (lt : start < stop)
    (h : k.Admits start stop item) : Keeps k stop start (ofItem item) := by
  cases item with
  | ok i =>
      obtain ⟨rfl, rfl, gives⟩ := h
      exact .emit rfl lt Int64.le_rfl gives .done
  | error e => exact .fail lt Int64.le_rfl h rfl

theorem Keeps.mono {k k' : Contract ρ α} {start stop : Tick} {c : Course ρ α}
    (h : Keeps k stop start c) (pass : k.Passes k' start stop)
    (gives : ∀ i, k.gives i → k'.gives i) : Keeps k' stop start c := by
  induction h with
  | done => exact .done
  | fail lt last fails ended => exact .fail lt last (pass.fails Int64.le_rfl lt last fails) ended
  | emit here lt last given _ ih =>
      exact .emit here lt last (gives _ given) (ih (pass.later (Int64.le_of_lt lt)))
  | ask lt last asks _ ih =>
      exact .ask lt last (pass.asks Int64.le_rfl lt last asks) fun a ha =>
        ih a (pass.answers ha) pass

theorem Keeps.append {k : Contract ρ α} {start mid stop : Tick} {c : Course ρ α}
    {rest : Unit → Course ρ α} (h : Keeps k mid start c) (le : mid ≤ stop)
    (hrest : Keeps k stop mid (rest ())) : Keeps k stop start (c.append rest) := by
  induction h with
  | done => exact hrest
  | fail lt last fails _ => exact .fail lt (Int64.le_trans last le) fails rfl
  | emit here lt last gives _ ih => exact .emit here lt (Int64.le_trans last le) gives ih
  | ask lt last asks _ ih => exact .ask lt (Int64.le_trans last le) asks ih

theorem Keeps.flatMap {k k' : Contract ρ α} {start stop : Tick} {c : Course ρ α}
    {f : Interval → Course ρ α} (h : Keeps k stop start c) (pass : k.Passes k' start stop)
    (inner : ∀ i, start ≤ i.start → i.start < i.stop → i.stop ≤ stop → k.gives i →
      Keeps k' i.stop i.start (f i)) : Keeps k' stop start (c.flatMap f) := by
  induction h with
  | done => exact .done
  | fail lt last fails _ => exact .fail lt last (pass.fails Int64.le_rfl lt last fails) rfl
  | emit here lt last gives _ ih =>
      subst here
      refine (inner _ Int64.le_rfl lt last gives).append last ?_
      exact ih (pass.later (Int64.le_of_lt lt)) fun i hi =>
        inner i (Int64.le_trans (Int64.le_of_lt lt) hi)
  | ask lt last asks _ ih =>
      exact .ask lt last (pass.asks Int64.le_rfl lt last asks) fun a ha =>
        ih a (pass.answers ha) pass inner

theorem Keeps.mapItem {k k' : Contract ρ α} {start stop : Tick} {c : Course ρ α}
    {f : Interval → Item} (h : Keeps k stop start c) (pass : k.Passes k' start stop)
    (item : ∀ i, start ≤ i.start → i.start < i.stop → i.stop ≤ stop → k.gives i →
      k'.Admits i.start i.stop (f i)) : Keeps k' stop start (c.mapItem f) :=
  h.flatMap pass fun i hstart lt hstop gives => keeps_ofItem lt (item i hstart lt hstop gives)

/-! ## Runs -/

def Contract.Served (k : Contract ρ α) (inv : σ → Prop) (asking : ρ → StateM σ α) : Prop :=
  ∀ start last q s, start < last → k.asks start last q → inv s →
    k.answers q (asking q s).1 ∧ inv (asking q s).2

theorem Keeps.items {k : Contract ρ α} {inv : σ → Prop} {asking : ρ → StateM σ α}
    (served : k.Served inv asking) {start stop : Tick} {c : Course ρ α} (h : Keeps k stop start c)
    {s : σ} (hs : inv s) :
    ∃ reach spans ending, (c.items asking s).1 = spans.map .ok ++ ending ∧
      Tiles start reach spans ∧ reach ≤ stop ∧ (∀ i ∈ spans, k.gives i) ∧
      k.Ends reach stop ending := by
  induction h generalizing s with
  | done => exact ⟨stop, [], [], rfl, rfl, Int64.le_rfl, by simp, .inl ⟨rfl, rfl⟩⟩
  | @fail start last e next lt le fails ended =>
      refine ⟨start, [], [.error e], ?_, rfl, Int64.le_of_lt (Int64.lt_of_lt_of_le lt le), by simp,
        .inr ⟨e, last, rfl, lt, le, fails⟩⟩
      change .error e :: ((next ()).items asking s).1 = _
      rw [ended]
      rfl
  | @emit start i next here lt le gives _ ih =>
      obtain ⟨reach, spans, ending, run, tiles, inside, given, ends⟩ := ih hs
      refine ⟨reach, i :: spans, ending, ?_, ⟨here, here ▸ lt, tiles⟩, inside, ?_, ends⟩
      · exact congrArg (.ok i :: ·) run
      · exact List.forall_mem_cons.2 ⟨gives, given⟩
  | @ask start last q answer lt le asks _ ih =>
      obtain ⟨answered, kept⟩ := served start last q s lt asks hs
      exact ih _ answered kept

theorem Keeps.tiles_of_items {k : Contract ρ α} {inv : σ → Prop} {asking : ρ → StateM σ α}
    (served : k.Served inv asking) {start stop : Tick} {c : Course ρ α} (h : Keeps k stop start c)
    {s : σ} (hs : inv s) {spans : List Interval}
    (faultless : (c.items asking s).1 = spans.map .ok) :
    Tiles start stop spans ∧ ∀ i ∈ spans, k.gives i := by
  obtain ⟨reach, pieces, ending, run, tiles, -, given, ends⟩ := h.items served hs
  rw [faultless] at run
  rcases ends with ⟨rfl, rfl⟩ | ⟨fault, last, rfl, -⟩
  · rw [List.append_nil, List.map_inj_right fun _ _ => Except.ok.inj] at run
    subst run
    exact ⟨tiles, given⟩
  · have member : .error fault ∈ spans.map (Except.ok : Interval → Item) := by
      rw [run]
      simp
    simp at member

def pulls [Monad m] (asking : ρ → m α) : Nat → Course ρ α → m (List (Option Item))
  | 0, _ => pure []
  | n + 1, c => do
      let (item, rest) ← c.pull asking
      return item :: (← pulls asking n rest)

theorem pulls_done (asking : ρ → StateM σ α) (n : Nat) (s : σ) :
    (pulls asking n done s).1 = (List.range n).map fun _ => none := by
  induction n with
  | zero => rfl
  | succ n ih =>
      rw [List.range_succ_eq_map, List.map_cons, List.map_map]
      exact congrArg (none :: ·) ih

theorem pulls_eq (asking : ρ → StateM σ α) (n : Nat) (c : Course ρ α) (s : σ) :
    (pulls asking n c s).1 = (List.range n).map ((c.items asking s).1[·]?) := by
  induction c generalizing n s with
  | done => exact pulls_done asking n s
  | fail e next ih =>
      cases n with
      | zero => rfl
      | succ n =>
          rw [List.range_succ_eq_map, List.map_cons, List.map_map]
          exact congrArg (some (.error e) :: ·) (ih () n s)
  | emit i next ih =>
      cases n with
      | zero => rfl
      | succ n =>
          rw [List.range_succ_eq_map, List.map_cons, List.map_map]
          exact congrArg (some (.ok i) :: ·) (ih () n s)
  | ask q answer ih =>
      cases n with
      | zero => rfl
      | succ n => exact ih _ (n + 1) _

end Course

end SpanQuery
