import SpanQuery.Compression
import SpanQuery.Proofs.Course.Contract
import SpanQuery.Proofs.Subsampling.Selection

namespace SpanQuery

/-- Questions of a scope get the answers of `reply` in all states that satisfy `inv`, and lead to
such states. -/
def Replies (asking : ρ → StateM σ α) (scope : ρ → Prop) (inv : σ → Prop) (reply : ρ → α) : Prop :=
  ∀ q s, scope q → inv s → (asking q s).1 = reply q ∧ inv (asking q s).2

theorem Replies.congr {asking : ρ → StateM σ α} {scope : ρ → Prop} {inv : σ → Prop}
    {reply reply' : ρ → α} (h : Replies asking scope inv reply)
    (same : ∀ q, scope q → reply q = reply' q) : Replies asking scope inv reply' :=
  fun q s hq hs => ⟨(h q s hq hs).1.trans (same q hq), (h q s hq hs).2⟩

theorem replies_pure (reply : ρ → α) (scope : ρ → Prop) :
    Replies (fun q => (pure (reply q) : StateM Unit α)) scope (fun _ => True) reply :=
  fun _ _ _ _ => ⟨rfl, trivial⟩

namespace Course

/-- All questions on all branches are of the scope. -/
def Asks (scope : ρ → Prop) : Course ρ α → Prop
  | done => True
  | fail _ next | emit _ next => (next ()).Asks scope
  | ask q answer => scope q ∧ ∀ a, (answer a).Asks scope

theorem Asks.mono {scope scope' : ρ → Prop} {c : Course ρ α} (h : c.Asks scope)
    (le : ∀ q, scope q → scope' q) : c.Asks scope' := by
  induction c with
  | done => trivial
  | fail e next ih => exact ih () h
  | emit i next ih => exact ih () h
  | ask q answer ih => exact ⟨le q h.1, fun a => ih a (h.2 a)⟩

theorem Keeps.asks {k : Contract ρ α} {scope : ρ → Prop} {start stop : Tick} {c : Course ρ α}
    (h : Keeps k stop start c) (answers : ∀ q a, k.answers q a)
    (asks : ∀ t last q, start ≤ t → t < last → last ≤ stop → k.asks t last q → scope q) :
    c.Asks scope := by
  induction h with
  | done => trivial
  | fail _ _ _ ended =>
      rw [Asks, ended]
      trivial
  | emit here lt _ _ _ ih =>
      refine ih fun t last q le => asks t last q (Int64.le_trans ?_ le)
      exact Int64.le_of_lt lt
  | ask lt le asked _ ih =>
      exact ⟨asks _ _ _ Int64.le_rfl lt le asked, fun a => ih a (answers _ a) asks⟩

theorem asks_ofItem {scope : ρ → Prop} (item : Item) :
    (ofItem item : Course ρ α).Asks scope := by
  cases item <;> trivial

theorem Asks.append {scope : ρ → Prop} {c : Course ρ α} {rest : Unit → Course ρ α}
    (h : c.Asks scope) (hrest : (rest ()).Asks scope) : (c.append rest).Asks scope := by
  induction c with
  | done => exact hrest
  | fail e => trivial
  | emit i next ih => exact ih () h
  | ask q answer ih => exact ⟨h.1, fun a => ih a (h.2 a)⟩

theorem Asks.flatMap {scope : ρ → Prop} {c : Course ρ α} {f : Interval → Course ρ α}
    (h : c.Asks scope) (inner : ∀ i, (f i).Asks scope) : (c.flatMap f).Asks scope := by
  induction c with
  | done => trivial
  | fail e => trivial
  | emit i next ih => exact (inner i).append (ih () h)
  | ask q answer ih => exact ⟨h.1, fun a => ih a (h.2 a)⟩

theorem Asks.mapItem {scope : ρ → Prop} {c : Course ρ α} (h : c.Asks scope)
    (f : Interval → Item) : (c.mapItem f).Asks scope :=
  h.flatMap fun i => asks_ofItem (f i)

theorem Asks.flush {scope : ρ → Prop} {c : Course ρ α} (h : c.Asks scope)
    (pending : Option Interval) : (flush pending c).Asks scope := by
  cases pending <;> exact h

theorem Asks.compressFrom {scope : ρ → Prop} {c : Course ρ α} (h : c.Asks scope)
    (pending : Option Interval) : (c.compressFrom pending).Asks scope := by
  induction c generalizing pending with
  | done => exact h.flush pending
  | fail e => exact Asks.flush (c := fail e fun _ => done) trivial pending
  | emit i next ih =>
      unfold Course.compressFrom
      split
      · exact ih () h pending
      · split
        · exact ih () h (some i)
        · split
          · exact ih () h _
          · exact ih () h (some i)
  | ask q answer ih => exact ⟨h.1, fun a => ih a (h.2 a) pending⟩

section Agreement
variable {scope : ρ → Prop} {reply : ρ → α} {inv : σ → Prop} {inv' : τ → Prop}
  {asking : ρ → StateM σ α} {asking' : ρ → StateM τ α}

theorem Asks.items_congr {c : Course ρ α} (h : c.Asks scope)
    (replies : Replies asking scope inv reply) (replies' : Replies asking' scope inv' reply)
    {s : σ} {s' : τ} (hs : inv s) (hs' : inv' s') :
    (c.items asking s).1 = (c.items asking' s').1 := by
  induction c generalizing s s' with
  | done => rfl
  | fail e next ih => exact congrArg (.error e :: ·) (ih () h hs hs')
  | emit i next ih => exact congrArg (.ok i :: ·) (ih () h hs hs')
  | ask q answer ih =>
      obtain ⟨same, kept⟩ := replies q s h.1 hs
      obtain ⟨same', kept'⟩ := replies' q s' h.1 hs'
      change ((answer (asking q s).1).items asking (asking q s).2).1 =
        ((answer (asking' q s').1).items asking' (asking' q s').2).1
      rw [same, same']
      exact ih _ (h.2 _) kept kept'

theorem Asks.subsample_congr {c : Course ρ α} (h : c.Asks scope)
    (replies : Replies asking scope inv reply) (replies' : Replies asking' scope inv' reply)
    (series : List Sample) {s : σ} {s' : τ} (hs : inv s) (hs' : inv' s') :
    (c.subsample asking series s).1 = (c.subsample asking' series s').1 := by
  rw [subsample_eq, subsample_eq, h.items_congr replies replies' hs hs']

end Agreement

end Course

end SpanQuery
