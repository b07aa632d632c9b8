import SpanQuery.Proofs.Course.Contract
import SpanQuery.Source

namespace SpanQuery

structure Draw where
  requests : List Request
  item : Option Item

namespace Course

def draw (source : Source σ) (c : Course Request Answer) :
    StateM σ (Draw × Course Request Answer) :=
  fun s =>
    let ((item, rest), requests, s) := c.pull source.logged ([], s)
    ((⟨requests, item⟩, rest), s)

def draws (source : Source σ) : Nat → Course Request Answer → StateM σ (List Draw)
  | 0, _ => pure []
  | n + 1, c => do
      let (d, rest) ← c.draw source
      return d :: (← draws source n rest)

/-- Draws before each of which the state of the source changes on its own. -/
def drawsAmid (source : Source σ) :
    List (σ → σ) → Course Request Answer → StateM σ (List Draw)
  | [], _ => pure []
  | change :: changes, c => do
      modify change
      let (d, rest) ← c.draw source
      return d :: (← drawsAmid source changes rest)

section Draws
variable (source : Source σ)

theorem pull_logged (c : Course Request Answer) (log : List Request) (s : σ) :
    c.pull source.logged (log, s) =
      ((c.pull source.logged ([], s)).1, log ++ (c.pull source.logged ([], s)).2.1,
        (c.pull source.logged ([], s)).2.2) := by
  induction c generalizing log s with
  | done => exact congrArg (fun log => ((none, done), log, s)) (List.append_nil log).symm
  | fail e next _ =>
      exact congrArg (fun log => ((some (Except.error e), next ()), log, s))
        (List.append_nil log).symm
  | emit i next _ =>
      exact congrArg (fun log => ((some (Except.ok i), next ()), log, s)) (List.append_nil log).symm
  | ask q answer ih =>
      have step : ∀ log : List Request, (ask q answer).pull source.logged (log, s) =
          (answer (source q s).1).pull source.logged (log ++ [q], (source q s).2) := fun _ => rfl
      rw [step, step, ih _ (log ++ [q]), ih _ ([] ++ [q])]
      simp

theorem draw_ask (q : Request) (answer : Answer → Course Request Answer) (s : σ) :
    (ask q answer).draw source s =
      let ((d, rest), s) := (answer (source q s).1).draw source (source q s).2
      (({ d with requests := q :: d.requests }, rest), s) := by
  change (let ((item, rest), requests, s) :=
    (answer (source q s).1).pull source.logged ([q], (source q s).2)
    ((Draw.mk requests item, rest), s)) = _
  rw [pull_logged]
  rfl

theorem pull_eq_draw (c : Course Request Answer) (s : σ) :
    c.pull source s =
      (((c.draw source s).1.1.item, (c.draw source s).1.2), (c.draw source s).2) := by
  induction c generalizing s with
  | done => rfl
  | fail e next _ => rfl
  | emit i next _ => rfl
  | ask q answer ih =>
      rw [draw_ask]
      exact ih _ _

theorem draws_succ (n : Nat) (c : Course Request Answer) (s : σ) :
    draws source (n + 1) c s =
      let ((d, rest), s) := c.draw source s
      (d :: (draws source n rest s).1, (draws source n rest s).2) :=
  rfl

theorem pulls_eq_draws (n : Nat) (c : Course Request Answer) (s : σ) :
    pulls source n c s = ((draws source n c s).1.map (·.item), (draws source n c s).2) := by
  induction n generalizing c s with
  | zero => rfl
  | succ n ih =>
      have step : pulls source (n + 1) c s =
          let ((item, rest), s) := c.pull source s
          (item :: (pulls source n rest s).1, (pulls source n rest s).2) := rfl
      simp only [step, pull_eq_draw, ih]
      rfl

theorem draws_done (n : Nat) (s : σ) :
    draws source n done s = (List.replicate n ⟨[], none⟩, s) := by
  induction n with
  | zero => rfl
  | succ n ih =>
      have step : (done : Course Request Answer).draw source s = ((⟨[], none⟩, done), s) := rfl
      simp only [draws_succ, step, ih, List.replicate_succ]

theorem drawsAmid_cons (change : σ → σ) (changes : List (σ → σ)) (c : Course Request Answer)
    (s : σ) :
    drawsAmid source (change :: changes) c s =
      let ((d, rest), s) := c.draw source (change s)
      (d :: (drawsAmid source changes rest s).1, (drawsAmid source changes rest s).2) :=
  rfl

end Draws

/-! ## Pace -/

/-- On every branch an item comes after at most `now` questions; behind an interval either nothing
is left, or the next item comes after at most `each`. No interval is empty. -/
inductive Paced (each : Nat) : Nat → Course ρ α → Prop where
  | fail {now : Nat} {e : QueryError} {next : Unit → Course ρ α} :
      next () = .done → Paced each now (.fail e next)
  | last {now : Nat} {i : Interval} {next : Unit → Course ρ α} :
      i.start < i.stop → next () = .done → Paced each now (.emit i next)
  | emit {now : Nat} {i : Interval} {next : Unit → Course ρ α} :
      i.start < i.stop → Paced each each (next ()) → Paced each now (.emit i next)
  | ask {now : Nat} {q : ρ} {answer : α → Course ρ α} :
      (∀ a, Paced each now (answer a)) → Paced each (now + 1) (.ask q answer)

theorem Paced.mono {each each' now now' : Nat} {c : Course ρ α} (h : Paced each now c)
    (le : each ≤ each') (le' : now ≤ now') : Paced each' now' c := by
  induction h generalizing now' with
  | fail ended => exact .fail ended
  | last proper ended => exact .last proper ended
  | emit proper _ ih => exact .emit proper (ih le)
  | ask _ ih =>
      cases now' with
      | zero => exact absurd le' (Nat.not_succ_le_zero _)
      | succ now' => exact .ask fun a => ih a (Nat.le_of_succ_le_succ le')

theorem paced_ofItem {each now : Nat} {item : Item}
    (proper : ∀ i, item = .ok i → i.start < i.stop) :
    Paced each now (ofItem item : Course ρ α) := by
  cases item with
  | ok i => exact .last (proper i rfl) rfl
  | error e => exact .fail rfl

theorem Paced.append {each now : Nat} {c : Course ρ α} {rest : Unit → Course ρ α}
    (h : Paced each now c) (later : rest () = .done ∨ Paced each each (rest ())) :
    Paced each now (c.append rest) := by
  induction h with
  | fail _ => exact .fail rfl
  | last proper ended =>
      rcases later with nothing | more
      · exact .last proper (by simp only [ended, Course.append, nothing])
      · exact .emit proper (by simpa only [ended, Course.append] using more)
  | emit proper _ ih => exact .emit proper ih
  | ask _ ih => exact .ask ih

theorem Paced.flatMap {each each' now : Nat} {c : Course ρ α} {f : Interval → Course ρ α}
    (h : Paced each now c) (inner : ∀ i, i.start < i.stop → Paced each' each' (f i)) :
    Paced (each + each') (now + each') (c.flatMap f) := by
  induction h with
  | fail _ => exact .fail rfl
  | last proper ended =>
      refine ((inner _ proper).mono ?_ ?_).append (.inl ?_)
      · exact Nat.le_add_left _ _
      · exact Nat.le_add_left _ _
      · rw [ended, Course.flatMap]
  | emit proper _ ih =>
      refine ((inner _ proper).mono ?_ ?_).append (.inr ih)
      · exact Nat.le_add_left _ _
      · exact Nat.le_add_left _ _
  | @ask now q answer _ ih =>
      rw [Nat.add_right_comm]
      exact .ask ih

theorem Paced.mapItem {each now : Nat} {c : Course ρ α} {f : Interval → Item}
    (h : Paced each now c) (proper : ∀ i j, i.start < i.stop → f i = .ok j → j.start < j.stop) :
    Paced each now (c.mapItem f) := by
  change Paced (each + 0) (now + 0) (c.flatMap _)
  exact h.flatMap fun i hi => paced_ofItem fun j => proper i j hi

/-! ## One draw -/

theorem Paced.draw {each now : Nat} {c : Course Request Answer} (h : Paced each now c)
    (source : Source σ) (s : σ) :
    (c.draw source s).1.1.requests.length ≤ now ∧
      (c.draw source s).1.1.item ≠ none ∧
      ((c.draw source s).1.2 = .done ∨ Paced each each (c.draw source s).1.2) := by
  induction h generalizing s with
  | fail ended => exact ⟨Nat.zero_le _, nofun, .inl ended⟩
  | last _ ended => exact ⟨Nat.zero_le _, nofun, .inl ended⟩
  | emit _ more _ => exact ⟨Nat.zero_le _, nofun, .inr more⟩
  | ask _ ih =>
      obtain ⟨few, item, rest⟩ := ih _ (source _ s).2
      rw [draw_ask]
      exact ⟨Nat.succ_le_succ few, item, rest⟩

theorem Keeps.draw {k : Contract Request Answer} {start stop : Tick} {c : Course Request Answer}
    (h : Keeps k stop start c) (answers : ∀ q a, k.answers q a) (source : Source σ) (s : σ) :
    (∀ r ∈ (c.draw source s).1.1.requests,
        ∃ last, start < last ∧ last ≤ stop ∧ k.asks start last r) ∧
      (∀ i, (c.draw source s).1.1.item = some (.ok i) →
        Keeps k stop i.stop (c.draw source s).1.2) ∧
      ∀ e, (c.draw source s).1.1.item = some (.error e) → (c.draw source s).1.2 = .done := by
  induction h generalizing s with
  | done => exact ⟨nofun, nofun, nofun⟩
  | fail _ _ _ ended => exact ⟨nofun, nofun, fun _ _ => ended⟩
  | emit _ _ _ _ later _ =>
      refine ⟨nofun, ?_, nofun⟩
      rintro _ ⟨⟩
      exact later
  | ask lt le asked _ ih =>
      obtain ⟨requests, interval, error⟩ := ih _ (answers _ (source _ s).1) (source _ s).2
      rw [draw_ask]
      exact ⟨List.forall_mem_cons.2 ⟨⟨_, lt, le, asked⟩, requests⟩, interval, error⟩

end Course

end SpanQuery
