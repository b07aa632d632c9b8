import SpanQuery.Archive
import SpanQuery.Proofs.Compression.TrueRuns
import SpanQuery.Proofs.Course.Answers

namespace SpanQuery.Archive

open Course

/-- All items of a search, compressed or not. -/
def searchedItems (a : Archive σ) (e : Expr) (t0 t1 : Tick) : StateM σ (List Item) := do
  (← a.searchRanges e t0 t1).items a.source

def select (a : Archive σ) (r : Request) (condition : Option Expr) :
    Answer → StateM σ (Except QueryError (List Sample))
  | .error e => pure (.error (.fetch e))
  | .ok samples =>
      match condition with
      | none => pure (.ok (inWindow samples r.t0 r.t1))
      | some e => do
          (← a.findRanges e r.t0 r.t1).subsample a.source (inWindow samples r.t0 r.t1)

theorem fetch_eq (a : Archive σ) (r : Request) {text : Option String} {condition : Option Expr}
    (parsed : text.mapM Expr.ofQuery? = .ok condition) (s : σ) :
    a.fetch r text s = a.select r condition (a.source r s).1 (a.source r s).2 := by
  rw [fetch, parsed]
  rfl

theorem searchRanges_course (a : Archive σ) (e : Expr) (t0 t1 : Tick) (s : σ) :
    (a.searchRanges e t0 t1 s).1 = e.course t0 t1 := by
  obtain ⟨source, prefetch⟩ := a
  cases prefetch <;> rfl

theorem findRanges_course (a : Archive σ) (e : Expr) (t0 t1 : Tick) (s : σ) :
    (a.findRanges e t0 t1 s).1 = (e.course t0 t1).compress :=
  congrArg compress (a.searchRanges_course e t0 t1 s)

section Beforehand
variable {scope : Request → Prop} {inv : σ → Prop} {reply : Request → Answer} {t0 t1 : Tick}
  {a : Archive σ} (replies : Replies a.source scope inv reply)
  (whole : ∀ name, scope ⟨name, t0, t1⟩)
include replies whole

theorem inv_warm (e : Expr) {s : σ} (hs : inv s) : inv (a.warm e t0 t1 s).2 := by
  unfold warm
  induction e.variableNames generalizing s with
  | nil => exact hs
  | cons name names ih => exact ih (replies ⟨name, t0, t1⟩ s (whole name) hs).2

theorem searchRanges_eq (e : Expr) {s : σ} (hs : inv s) :
    ∃ s', inv s' ∧ a.searchRanges e t0 t1 s = (e.course t0 t1, s') := by
  obtain ⟨source, prefetch⟩ := a
  cases prefetch with
  | false => exact ⟨s, hs, rfl⟩
  | true => exact ⟨_, inv_warm replies whole e hs, rfl⟩

theorem findRanges_eq (e : Expr) {s : σ} (hs : inv s) :
    ∃ s', inv s' ∧ a.findRanges e t0 t1 s = ((e.course t0 t1).compress, s') := by
  obtain ⟨s', hs', searched⟩ := searchRanges_eq replies whole e hs
  refine ⟨s', hs', ?_⟩
  change ((a.searchRanges e t0 t1 s).1.compress, (a.searchRanges e t0 t1 s).2) = _
  rw [searched]

end Beforehand

section Agreement
variable {scope : Request → Prop} {reply : Request → Answer} {t0 t1 : Tick} {inv : σ → Prop}
  {inv' : τ → Prop} {a : Archive σ} {a' : Archive τ} (replies : Replies a.source scope inv reply)
  (replies' : Replies a'.source scope inv' reply) (whole : ∀ name, scope ⟨name, t0, t1⟩)
include replies replies' whole

theorem searchedItems_congr {e : Expr} (asks : (e.course t0 t1).Asks scope) {s : σ} {s' : τ}
    (hs : inv s) (hs' : inv' s') :
    (a.searchedItems e t0 t1 s).1 = (a'.searchedItems e t0 t1 s').1 := by
  obtain ⟨u, hu, searched⟩ := searchRanges_eq replies whole e hs
  obtain ⟨u', hu', searched'⟩ := searchRanges_eq replies' whole e hs'
  change ((a.searchRanges e t0 t1 s).1.items a.source (a.searchRanges e t0 t1 s).2).1 =
    ((a'.searchRanges e t0 t1 s').1.items a'.source (a'.searchRanges e t0 t1 s').2).1
  rw [searched, searched']
  exact asks.items_congr replies replies' hu hu'

theorem foundItems_congr {e : Expr} (asks : (e.course t0 t1).Asks scope) {s : σ} {s' : τ}
    (hs : inv s) (hs' : inv' s') :
    (a.foundItems e t0 t1 s).1 = (a'.foundItems e t0 t1 s').1 := by
  obtain ⟨u, hu, found⟩ := findRanges_eq replies whole e hs
  obtain ⟨u', hu', found'⟩ := findRanges_eq replies' whole e hs'
  change ((a.findRanges e t0 t1 s).1.items a.source (a.findRanges e t0 t1 s).2).1 =
    ((a'.findRanges e t0 t1 s').1.items a'.source (a'.findRanges e t0 t1 s').2).1
  rw [found, found']
  exact (asks.compressFrom none).items_congr replies replies' hu hu'

theorem subsample_congr {e : Expr} (asks : (e.course t0 t1).Asks scope) (series : List Sample)
    {s : σ} {s' : τ} (hs : inv s) (hs' : inv' s') :
    ((a.findRanges e t0 t1 s).1.subsample a.source series (a.findRanges e t0 t1 s).2).1 =
      ((a'.findRanges e t0 t1 s').1.subsample a'.source series (a'.findRanges e t0 t1 s').2).1 := by
  obtain ⟨u, hu, found⟩ := findRanges_eq replies whole e hs
  obtain ⟨u', hu', found'⟩ := findRanges_eq replies' whole e hs'
  rw [found, found']
  exact (asks.compressFrom none).subsample_congr replies replies' series hu hu'

theorem fetch_congr (name : String) {text : Option String}
    (asks : ∀ e, text.mapM Expr.ofQuery? = .ok (some e) → (e.course t0 t1).Asks scope) {s : σ}
    {s' : τ} (hs : inv s) (hs' : inv' s') :
    (a.fetch ⟨name, t0, t1⟩ text s).1 = (a'.fetch ⟨name, t0, t1⟩ text s').1 := by
  cases parsed : text.mapM Expr.ofQuery? with
  | error e =>
      rw [fetch, fetch, parsed]
      rfl
  | ok condition =>
      obtain ⟨answer, kept⟩ := replies _ s (whole name) hs
      obtain ⟨answer', kept'⟩ := replies' _ s' (whole name) hs'
      rw [fetch_eq a _ parsed, fetch_eq a' _ parsed, answer, answer']
      cases reply ⟨name, t0, t1⟩ with
      | error e => rfl
      | ok samples =>
          cases condition with
          | none => rfl
          | some e => exact subsample_congr replies replies' whole (asks e parsed) _ kept kept'

end Agreement

end SpanQuery.Archive
