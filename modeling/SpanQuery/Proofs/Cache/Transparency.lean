import SpanQuery.Cache
import SpanQuery.Memory
import SpanQuery.Proofs.Course.Answers
import SpanQuery.Proofs.Sample.Slice

namespace SpanQuery

/-- The answer to a window has in it those to all windows inside. -/
def Sliceable (scope : Request → Prop) (reply : Request → Answer) : Prop :=
  ∀ w r samples, scope w → scope r → r.name = w.name → w.t0 ≤ r.t0 → r.t0 < r.t1 → r.t1 ≤ w.t1 →
    reply w = .ok samples → reply r = .ok (Sample.window samples r.t0 r.t1)

namespace Memory

theorem replies_source (m : Memory) :
    Replies Memory.source (fun _ => True) (· = m) m.answer := by
  rintro r s - rfl
  exact ⟨rfl, rfl⟩

theorem sliceable_answer (m : Memory) (scope : Request → Prop) : Sliceable scope m.answer := by
  intro w r samples _ _ name le lt le' answered
  obtain ⟨series, known, rfl⟩ := exists_of_answer answered
  rw [answer_of_known (name ▸ known), Sample.window_window (m.ordered_samples? known) le lt le']

end Memory

namespace Cache

/-- All windows that are remembered hold what the source would answer. -/
def Faithful (scope : Request → Prop) (reply : Request → Answer) (c : Cache) : Prop :=
  ∀ name w, c.windows.get? name = some w →
    scope ⟨name, w.t0, w.t1⟩ ∧ reply ⟨name, w.t0, w.t1⟩ = .ok w.samples

theorem faithful_empty (scope : Request → Prop) (reply : Request → Answer) :
    empty.Faithful scope reply :=
  nofun

theorem replies_remembered (inner : Source σ) {name : String} {w : CachedWindow}
    {scope : Request → Prop}
    (inside : ∀ r, scope r → r.name = name ∧ w.t0 ≤ r.t0 ∧ r.t1 ≤ w.t1) :
    Replies (source inner) scope (fun st => st.1.windows.get? name = some w)
      (fun r => .ok (Sample.window w.samples r.t0 r.t1)) := by
  rintro r ⟨c, s⟩ hr known
  obtain ⟨rfl, le, le'⟩ := inside r hr
  have found : c.find? r = some w :=
    Option.filter_eq_some_iff.2 ⟨known, by simp [CachedWindow.covers, le, le']⟩
  rw [source, sourceBy_hit _ inner found]
  exact ⟨rfl, known⟩

section Faithful
variable {scope : Request → Prop} {reply : Request → Answer}

theorem Faithful.remember {c : Cache} (h : c.Faithful scope reply) {r : Request} (hr : scope r) :
    (c.remember r (reply r)).Faithful scope reply := by
  cases answer : reply r with
  | error e => exact h
  | ok samples =>
      intro name w known
      by_cases same : name = r.name
      · subst same
        obtain rfl := Option.some.inj ((Keyed.get?_put_self _ _ _).symm.trans known)
        exact ⟨hr, answer⟩
      · exact h name w ((Keyed.get?_put_of_ne _ _ same).symm.trans known)

theorem Faithful.reply_eq (sliceable : Sliceable scope reply) {c : Cache}
    (h : c.Faithful scope reply) {r : Request} (hr : scope r) (lt : r.t0 < r.t1) {w : CachedWindow}
    (found : c.find? r = some w) : reply r = .ok (Sample.window w.samples r.t0 r.t1) := by
  obtain ⟨known, covers⟩ := Option.filter_eq_some_iff.1 found
  simp only [CachedWindow.covers, Bool.and_eq_true, decide_eq_true_eq] at covers
  obtain ⟨hw, answered⟩ := h r.name w known
  exact sliceable _ _ _ hw hr rfl covers.1 lt covers.2 answered

variable {inner : Source σ} {inv : σ → Prop}

theorem Faithful.source (replies : Replies inner scope inv reply) {c : Cache} {s : σ}
    (h : c.Faithful scope reply) (hs : inv s) {r : Request} (hr : scope r) :
    (Cache.source inner r (c, s)).2.1.Faithful scope reply ∧
      inv (Cache.source inner r (c, s)).2.2 := by
  cases found : c.find? r with
  | some w =>
      rw [Cache.source, sourceBy_hit _ inner found]
      exact ⟨h, hs⟩
  | none =>
      obtain ⟨answer, kept⟩ := replies r s hr hs
      rw [Cache.source, sourceBy_miss _ inner found, answer]
      exact ⟨Faithful.remember (c := { c with misses := c.misses + 1 }) h hr, kept⟩

theorem Faithful.answer_eq (replies : Replies inner scope inv reply)
    (sliceable : Sliceable scope reply) {c : Cache} {s : σ} (h : c.Faithful scope reply)
    (hs : inv s) {r : Request} (hr : scope r) (lt : r.t0 < r.t1) :
    (Cache.source inner r (c, s)).1 = reply r := by
  cases found : c.find? r with
  | some w =>
      rw [Cache.source, sourceBy_hit _ inner found]
      exact (h.reply_eq sliceable hr lt found).symm
  | none =>
      rw [Cache.source, sourceBy_miss _ inner found]
      exact (replies r s hr hs).1

theorem replies_source (replies : Replies inner scope inv reply)
    (sliceable : Sliceable scope reply) (proper : ∀ r, scope r → r.t0 < r.t1) :
    Replies (source inner) scope (fun s => s.1.Faithful scope reply ∧ inv s.2) reply :=
  fun r _ hr ⟨faithful, hs⟩ =>
    ⟨faithful.answer_eq replies sliceable hs hr (proper r hr), faithful.source replies hs hr⟩

end Faithful

/-! ## Histories -/

inductive Use where
  | fetch (r : Request)
  | clear
  deriving Repr, DecidableEq

def use (inner : Source σ) : Use → StateM (Cache × σ) (Option Answer)
  | .fetch r => some <$> source inner r
  | .clear => fun (c, s) => (none, (c.clear, s))

theorem Faithful.use {scope : Request → Prop} {reply : Request → Answer} {inner : Source σ}
    {inv : σ → Prop} (replies : Replies inner scope inv reply) {c : Cache} {s : σ}
    (h : c.Faithful scope reply) (hs : inv s) {u : Use} (hu : ∀ r, u = .fetch r → scope r) :
    (Cache.use inner u (c, s)).2.1.Faithful scope reply ∧ inv (Cache.use inner u (c, s)).2.2 := by
  cases u with
  | fetch r => exact h.source replies hs (hu r rfl)
  | clear => exact ⟨nofun, hs⟩

/-- Whatever was requested or forgotten before, and by whom, a request for a window that is not empty
gets from the cache what it would get from the memory. -/
theorem fetches_transparent (m : Memory) (uses : List Use) (n : Nat) (r : Request)
    (fetched : uses[n]? = some (.fetch r)) (lt : r.t0 < r.t1) :
    (uses.mapM (use Memory.source) (empty, m)).1[n]? = some (some (Memory.source r m).1) := by
  suffices ∀ c s, c.Faithful (fun _ => True) m.answer → s = m →
      (uses.mapM (use Memory.source) (c, s)).1[n]? = some (some (Memory.source r m).1) from
    this empty m (faithful_empty _ _) rfl
  intro c s faithful same
  induction uses generalizing c s n with
  | nil => cases fetched
  | cons u uses ih =>
      rw [List.mapM_cons]
      cases n with
      | zero =>
          obtain rfl : u = .fetch r := Option.some.inj fetched
          have answer := faithful.answer_eq m.replies_source (m.sliceable_answer _) same trivial lt
          exact congrArg (fun a => some (some a)) answer
      | succ n =>
          obtain ⟨faithful, same⟩ := faithful.use m.replies_source same (u := u) fun _ _ => trivial
          exact ih n fetched _ _ faithful same

theorem fetches_transparent_anchor :
    let m := (((Memory.empty.push "A" ⟨0, 1⟩).push "A" ⟨3, 2⟩).push "A" ⟨3, 5⟩).push "A" ⟨5, 4⟩
    let uses : List Use := [.fetch ⟨"A", 0, 10⟩, .fetch ⟨"A", 9, 2⟩, .clear, .fetch ⟨"A", 0, 10⟩,
      .fetch ⟨"B", 0, 10⟩, .fetch ⟨"A", 4, 6⟩]
    (uses[5]? = some (.fetch ⟨"A", 4, 6⟩) ∧ (4 : Tick) < 6) ∧
      (uses.mapM (use Memory.source) (empty, m)).1[5]? =
        some (some (Memory.source ⟨"A", 4, 6⟩ m).1) :=
  ⟨⟨rfl, by decide⟩, fetches_transparent _ _ 5 _ rfl (by decide)⟩

end Cache

end SpanQuery
