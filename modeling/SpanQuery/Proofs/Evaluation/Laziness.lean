import SpanQuery.Archive
import SpanQuery.Proofs.Course.Draws
import SpanQuery.Proofs.Evaluation.Coverage

namespace SpanQuery

open Course

/-! ## Courses of expressions -/

theorem Sample.paced_steps (each now : Nat) (samples : List Sample) {start stop : Tick}
    (lt : start < stop) (value : Float) :
    Paced each now (steps stop start value samples : Course ρ α) := by
  induction samples generalizing start value now with
  | nil => exact .last lt rfl
  | cons s later ih =>
      unfold steps
      split
      · rename_i before
        split
        · exact ih now lt s.value
        · rename_i after
          exact .emit (Int64.not_le.1 after) (ih each before s.value)
      · exact .last lt rfl

theorem Sample.paced_course (each now : Nat) (cut : Cut) {r : Request} (lt : r.t0 < r.t1)
    (answer : Answer) : Paced each now (course cut r answer : Course ρ α) := by
  cases answer with
  | error e => exact .fail rfl
  | ok samples =>
      simp only [course]
      split
      · exact .fail rfl
      · exact paced_steps each now _ lt _

theorem Interval.lt_of_withResult {i j : Interval} (lt : i.start < i.stop)
    {result : Except ValueFault Value} (h : i.withResult result = .ok j) : j.start < j.stop := by
  cases result with
  | error fault => cases h
  | ok value =>
      cases h
      exact lt

theorem Expr.paced_courseBy (cut : Sample.Cut) (e : Expr) {t0 t1 : Tick} (lt : t0 < t1) :
    Paced e.occurrences.length e.occurrences.length (e.courseBy cut t0 t1) := by
  induction e using evaluationInduction generalizing t0 t1 with
  | literal value =>
      rw [courseBy, if_pos lt]
      exact .last lt rfl
  | name name =>
      rw [courseBy, if_pos lt]
      exact .ask fun answer => Sample.paced_course 1 0 (r := ⟨name, t0, t1⟩) cut lt answer
  | unary op operand ih =>
      rw [courseBy]
      exact (ih lt).mapItem fun i j hi => Interval.lt_of_withResult hi
  | binary op left right ihl ihr =>
      rw [courseBy, occurrences, List.length_append]
      refine (ihl lt).flatMap fun i hi => ?_
      exact (ihr hi).mapItem fun j j' hj => Interval.lt_of_withResult hj
  | call name args =>
      rw [courseBy, if_pos lt]
      exact .fail rfl

/-! ## All draws -/

def Draw.frontier (t0 : Tick) (draws : List Draw) : Tick :=
  draws.foldl (fun t d => match d.item with
    | some (.ok i) => i.stop
    | _ => t) t0

/-- What may be asked during a draw that comes after others: at most so many requests, each for one
of the names and from where the intervals so far end; and nothing when there is no item left. -/
structure Draw.IsLazy (names : List String) (most : Nat) (t0 t1 : Tick) (before : List Draw)
    (d : Draw) : Prop where
  name_mem : ∀ r ∈ d.requests, r.name ∈ names
  window : ∀ r ∈ d.requests, r.t0 = frontier t0 before ∧ r.t0 < r.t1 ∧ r.t1 ≤ t1
  length_le : d.requests.length ≤ most
  requests_of_end : d.item = none → d.requests = []
  requests_of_error : ∀ earlier ∈ before, ∀ e, earlier.item = some (.error e) → d.requests = []

def DrawnLazily (names : List String) (most : Nat) (t0 t1 : Tick) (draws : List Draw) : Prop :=
  ∀ before d later, draws = before ++ d :: later → d.IsLazy names most t0 t1 before

theorem Draw.isLazy_of_requests {names : List String} {most : Nat} {t0 t1 : Tick}
    {before : List Draw} {d : Draw} (none : d.requests = []) : d.IsLazy names most t0 t1 before := by
  constructor <;> simp [none]

section Lazily
variable {names : List String} {most : Nat} {t0 t1 : Tick}

theorem drawnLazily_replicate (n : Nat) :
    DrawnLazily names most t0 t1 (List.replicate n ⟨[], none⟩) := by
  intro before d later split
  have mem : d ∈ List.replicate n (⟨[], none⟩ : Draw) := by simp [split]
  rw [List.eq_of_mem_replicate mem]
  exact Draw.isLazy_of_requests rfl

theorem DrawnLazily.cons {d : Draw} {draws : List Draw} (first : d.IsLazy names most t0 t1 [])
    (rest : DrawnLazily names most (Draw.frontier t0 [d]) t1 draws)
    (ended : ∀ e, d.item = some (.error e) → ∀ d' ∈ draws, d'.requests = []) :
    DrawnLazily names most t0 t1 (d :: draws) := by
  intro before d' later split
  cases before with
  | nil =>
      obtain ⟨rfl, -⟩ := List.cons.inj split
      exact first
  | cons head before =>
      obtain ⟨rfl, tail⟩ := List.cons.inj split
      have lazy := rest before d' later tail
      refine ⟨lazy.name_mem, lazy.window, lazy.length_le, lazy.requests_of_end, ?_⟩
      intro earlier mem e failed
      rcases List.mem_cons.1 mem with rfl | mem
      · exact ended e failed d' (by simp [tail])
      · exact lazy.requests_of_error earlier mem e failed

theorem Course.drawnLazily_draws {c : Course Request Answer}
    (h : c = .done ∨ Keeps (.within names) t1 t0 c ∧ Paced most most c) (source : Source σ)
    (n : Nat) (s : σ) : DrawnLazily names most t0 t1 (draws source n c s).1 := by
  induction n generalizing t0 c s with
  | zero =>
      intro before d later split
      cases before <;> cases split
  | succ n ih =>
      rcases h with rfl | ⟨keeps, paced⟩
      · rw [draws_done]
        exact drawnLazily_replicate _
      · obtain ⟨few, some, rest⟩ := paced.draw source s
        obtain ⟨windows, interval, error⟩ := keeps.draw (fun _ _ => trivial) source s
        rw [draws_succ]
        generalize c.draw source s = drawn at few some rest windows interval error ⊢
        obtain ⟨⟨⟨requests, item⟩, later⟩, s'⟩ := drawn
        have first : Draw.IsLazy names most t0 t1 [] ⟨requests, item⟩ := by
          refine ⟨fun r hr => ?_, fun r hr => ?_, few, fun none => absurd none some, nofun⟩
          · obtain ⟨last, -, -, name, -⟩ := windows r hr
            exact name
          · obtain ⟨last, lt, le, -, rfl, rfl⟩ := windows r hr
            exact ⟨rfl, lt, le⟩
        cases item with
        | none => exact absurd rfl some
        | some item =>
            cases item with
            | ok i =>
                refine .cons first (ih ?_ s') nofun
                exact rest.imp_right fun more => ⟨interval i rfl, more⟩
            | error e =>
                -- Behind an error the course is over, so no later draw asks for anything.
                obtain rfl : later = .done := error e rfl
                refine .cons first (ih (.inl rfl) s') fun _ _ d mem => ?_
                rw [draws_done] at mem
                rw [List.eq_of_mem_replicate mem]

end Lazily

/-! ## Expressions -/

/-- A search that fetches nothing beforehand makes no request when it begins. Drawn from any source,
each item of an expression is asked for with no more requests than variables occur, all of them for
variables of the expression and from where the intervals so far end; nothing is asked to find that
there is no item left, and nothing behind an error. -/
theorem draws_lazy (cut : Sample.Cut) (e : Expr) (source : Source σ) (s : σ) (t0 t1 : Tick) :
    (∀ log, (⟨source.logged, false⟩ : Archive _).searchRanges e t0 t1 (log, s) =
      (e.course t0 t1, log, s)) ∧
    ∀ n, (pulls source n (e.courseBy cut t0 t1) s =
        ((draws source n (e.courseBy cut t0 t1) s).1.map (·.item),
          (draws source n (e.courseBy cut t0 t1) s).2)) ∧
      DrawnLazily e.variableNames e.occurrences.length t0 t1
        (draws source n (e.courseBy cut t0 t1) s).1 := by
  refine ⟨fun _ => rfl, fun n => ⟨pulls_eq_draws source n _ s, drawnLazily_draws ?_ source n s⟩⟩
  by_cases lt : t0 < t1
  · refine .inr ⟨?_, e.paced_courseBy cut lt⟩
    refine (e.keeps_courseBy cut lt).mono (Contract.within_passes ?_ _ _) fun _ => id
    exact fun name occurs => List.mem_eraseDups.2 occurs
  · exact .inl (e.courseBy_of_le cut (Int64.not_lt.1 lt))

end SpanQuery
