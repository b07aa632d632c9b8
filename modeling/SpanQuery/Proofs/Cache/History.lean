import SpanQuery.Proofs.Cache.Prefetch
import SpanQuery.Proofs.Cache.Transparency

/-!
# What a cache has seen

All that is known of a cache follows from what happened since it was made. A transcript keeps every
question that reaches the source behind the cache with its answer, and every time the cache is
cleared; the source may fail, forget or change between two questions.
-/

namespace SpanQuery

/-! ## Names with a value -/

namespace Keyed

def names (k : Keyed α) : List String :=
  k.map Prod.fst

theorem mem_names_iff {k : Keyed α} {name : String} :
    name ∈ k.names ↔ (k.get? name).isSome := by
  induction k with
  | nil => simp [names, get?]
  | cons p rest ih =>
      obtain ⟨other, a⟩ := p
      rw [names, get?] at ih
      by_cases same : name = other
      · simp [names, get?, same]
      · simp [names, get?, List.lookup_cons, beq_eq_false_iff_ne.2 same, same, ih]

theorem nodup_names_put {k : Keyed α} (distinct : k.names.Nodup) (name : String) (a : α) :
    (k.put name a).names.Nodup := by
  induction k with
  | nil => simp [put, names]
  | cons p rest ih =>
      obtain ⟨other, b⟩ := p
      obtain ⟨fresh, later⟩ := List.nodup_cons.1 distinct
      by_cases same : other = name
      · rw [put, if_pos same]
        exact List.nodup_cons.2 ⟨same ▸ fresh, later⟩
      · rw [put, if_neg same]
        refine List.nodup_cons.2 ⟨fun mem => ?_, ih later⟩
        obtain ⟨p, hp, named⟩ := List.mem_map.1 mem
        rcases mem_put hp with rfl | hp
        · exact same named.symm
        · exact fresh (List.mem_map.2 ⟨p, hp, named⟩)

end Keyed

namespace Cache

/-! ## Transcripts -/

inductive Event where
  | asked (r : Request) (answer : Answer)
  | cleared

/-- Keeps the questions that reach a source with their answers, the latest first. -/
def transcribed (inner : Source σ) : Source (List Event × σ) :=
  fun r (past, s) =>
    let (answer, s) := inner r s
    (answer, (.asked r answer :: past, s))

/-- What has been fetched since the cache was cleared, the latest first. -/
def fetched : List Event → List (Request × List Sample)
  | [] => []
  | .asked r (.ok samples) :: past => (r, samples) :: fetched past
  | .asked _ (.error _) :: past => fetched past
  | .cleared :: _ => []

def latest? (past : List Event) (name : String) : Option CachedWindow :=
  ((fetched past).find? (·.1.name = name)).map fun (r, samples) => ⟨r.t0, r.t1, samples⟩

def questions (past : List Event) : List Request :=
  past.filterMap fun
    | .asked r _ => some r
    | .cleared => none

theorem latest?_isSome_iff {past : List Event} {name : String} :
    (latest? past name).isSome ↔ name ∈ (fetched past).map (·.1.name) := by
  simp [latest?]

theorem latest?_fetched (past : List Event) (r : Request) (samples : List Sample) (name : String) :
    latest? (.asked r (.ok samples) :: past) name =
      if name = r.name then some ⟨r.t0, r.t1, samples⟩ else latest? past name := by
  by_cases same : name = r.name
  · simp [latest?, fetched, same]
  · simp [latest?, fetched, same, Ne.symm same]

/-! ## Caches and transcripts -/

def Covered (c : Cache) (r : Request) : Prop :=
  ∃ w, c.windows.get? r.name = some w ∧ w.t0 ≤ r.t0 ∧ r.t1 ≤ w.t1

theorem covered_iff {c : Cache} {r : Request} : c.Covered r ↔ ∃ w, c.find? r = some w := by
  simp only [Covered, find?_eq_some_iff]

/-- The cache remembers what the transcript leaves behind, and has counted so many requests. -/
structure Tells (c : Cache) (past : List Event) (requests : Nat) : Prop where
  windows : ∀ name, c.windows.get? name = latest? past name
  distinct : c.windows.names.Nodup
  counted : c.hits + c.misses = requests
  missed : c.misses = (questions past).length

theorem tells_empty : empty.Tells [] 0 :=
  ⟨fun _ => rfl, .nil, rfl, rfl⟩

namespace Tells

variable {c : Cache} {past : List Event} {requests : Nat} (h : c.Tells past requests)
include h

theorem size_eq : c.size = ((fetched past).map (·.1.name)).eraseDups.length := by
  have same : ∀ name, name ∈ c.windows.names ↔
      name ∈ ((fetched past).map (·.1.name)).eraseDups := by
    intro name
    rw [Keyed.mem_names_iff, h.windows, latest?_isSome_iff, List.mem_eraseDups]
  have perm := (List.perm_ext_iff_of_nodup h.distinct (nodup_eraseDups _)).2 same
  rw [← perm.length_eq, Keyed.names, List.length_map, size]

theorem hit : (c.hit 1).Tells past (requests + 1) := by
  refine ⟨h.windows, h.distinct, ?_, h.missed⟩
  have counted := h.counted
  simp only [Cache.hit]
  omega

theorem miss (r : Request) (answer : Answer) :
    ({ c with misses := c.misses + 1 }.remember r answer).Tells (.asked r answer :: past)
      (requests + 1) := by
  have counted : c.hits + (c.misses + 1) = requests + 1 := by
    rw [← h.counted, Nat.add_assoc]
  have missed : c.misses + 1 = (questions (.asked r answer :: past)).length := by
    rw [h.missed]
    rfl
  cases answer with
  | error fault => exact ⟨h.windows, h.distinct, counted, missed⟩
  | ok samples =>
      refine ⟨fun name => ?_, Keyed.nodup_names_put h.distinct _ _, counted, missed⟩
      rw [latest?_fetched, remember]
      by_cases same : name = r.name
      · rw [if_pos same, same, Keyed.get?_put_self]
      · rw [if_neg same, Keyed.get?_put_of_ne _ _ same, h.windows]

theorem clear : c.clear.Tells (.cleared :: past) requests :=
  ⟨fun _ => rfl, .nil, h.counted, h.missed⟩

end Tells

/-! ## Uses -/

section Uses
variable (slice : List Sample → Tick → Tick → List Sample) (inner : Source σ)

def useBy : Use → StateM (Cache × List Event × σ) (Option Answer)
  | .fetch r => some <$> sourceBy slice (transcribed inner) r
  | .clear => fun (c, past, s) => (none, (c.clear, .cleared :: past, s))

def Use.isFetch : Use → Bool
  | .fetch _ => true
  | .clear => false

theorem Tells.useBy {c : Cache} {past : List Event} {requests : Nat} (h : c.Tells past requests)
    (s : σ) (u : Use) :
    let next := (Cache.useBy slice inner u (c, past, s)).2
    next.1.Tells next.2.1 (requests + if u.isFetch then 1 else 0) := by
  cases u with
  | clear => exact h.clear
  | fetch r =>
      change (sourceBy slice (transcribed inner) r (c, past, s)).2.1.Tells
        (sourceBy slice (transcribed inner) r (c, past, s)).2.2.1 (requests + 1)
      cases found : c.find? r with
      | some w =>
          rw [sourceBy_hit slice _ found]
          exact h.hit
      | none =>
          rw [sourceBy_miss slice _ found]
          exact h.miss r _

theorem tells_uses {c : Cache} {past : List Event} {requests : Nat} (h : c.Tells past requests)
    (s : σ) (uses : List Use) :
    let ran := (uses.mapM (useBy slice inner) (c, past, s)).2
    ran.1.Tells ran.2.1 (requests + uses.countP Use.isFetch) := by
  induction uses generalizing c past requests s with
  | nil => exact h
  | cons u uses ih =>
      have first := h.useBy slice inner s u
      have order (n k : Nat) : requests + (n + k) = requests + k + n := by omega
      rw [List.mapM_cons, List.countP_cons, order]
      exact ih first _

/-! ## One request -/

variable {c : Cache} {r : Request} (past : List Event) (s : σ)

theorem request_covered (covered : c.Covered r) :
    (sourceBy slice (transcribed inner) r (c, past, s)).2 = (c.hit 1, past, s) := by
  obtain ⟨w, found⟩ := covered_iff.1 covered
  rw [sourceBy_hit slice _ found]
  rfl

theorem request_uncovered (uncovered : ¬ c.Covered r) :
    sourceBy slice (transcribed inner) r (c, past, s) =
      ((inner r s).1, { c with misses := c.misses + 1 }.remember r (inner r s).1,
        .asked r (inner r s).1 :: past, (inner r s).2) := by
  have missing : c.find? r = none := by
    rw [Option.eq_none_iff_forall_ne_some]
    intro w found
    exact uncovered (covered_iff.2 ⟨w, found⟩)
  rw [sourceBy_miss slice _ missing]
  rfl

theorem get?_remember_of_ne (c : Cache) {r : Request} {name : String} (h : name ≠ r.name)
    (answer : Answer) : (c.remember r answer).windows.get? name = c.windows.get? name := by
  cases answer with
  | error fault => rfl
  | ok samples => exact Keyed.get?_put_of_ne _ _ h

/-- After any uses of a new cache, whatever the source behind it does: the window of a name is the
one of its latest fetch since the cache was cleared; every request so far was a hit or a miss; and
there is a window for each name fetched since. The next request is a hit, and does nothing else, if
the window of its name contains it. Otherwise it is a miss: the source is asked just once, for the
same, its answer is passed on, and an error leaves all windows as they are. Other names keep their
windows in any case. Clearing leaves the counters alone. -/
theorem tells_history (uses : List Use) (s : σ) :
    let ran := (uses.mapM (useBy slice inner) (empty, [], s)).2
    let c := ran.1
    let past := ran.2.1
    let here := ran.2.2
    (∀ name, c.windows.get? name = latest? past name) ∧
    c.hits + c.misses = uses.countP Use.isFetch ∧
    c.misses = (questions past).length ∧
    c.size = ((fetched past).map (·.1.name)).eraseDups.length ∧
    (∀ r,
      let next := sourceBy slice (transcribed inner) r ran
      (c.Covered r → next.2 = (c.hit 1, past, here)) ∧
      (¬ c.Covered r → next.1 = (inner r here).1 ∧
        next.2.2 = (.asked r (inner r here).1 :: past, (inner r here).2) ∧
        next.2.1.hits = c.hits ∧ next.2.1.misses = c.misses + 1 ∧
        ∀ fault, (inner r here).1 = .error fault → next.2.1.windows = c.windows) ∧
      ∀ name ≠ r.name, next.2.1.windows.get? name = c.windows.get? name) ∧
    c.clear.hits = c.hits ∧ c.clear.misses = c.misses ∧
      ∀ name, c.clear.windows.get? name = none := by
  intro ran c past here
  have told := tells_uses slice inner tells_empty s uses
  rw [Nat.zero_add] at told
  refine ⟨told.windows, told.counted, told.missed, told.size_eq, fun r => ?_, rfl, rfl,
    fun _ => rfl⟩
  by_cases covered : c.Covered r
  · have state := request_covered slice inner past here covered
    refine ⟨fun _ => state, fun uncovered => absurd covered uncovered, fun name _ => ?_⟩
    exact congrArg (·.1.windows.get? name) state
  · have step := request_uncovered slice inner past here covered
    intro next
    have whole : next = _ := step
    rw [whole]
    refine ⟨fun other => absurd other covered, fun _ => ⟨rfl, rfl, ?_, ?_, fun fault failed => ?_⟩,
      fun name other => get?_remember_of_ne _ other _⟩
    · cases (inner r here).1 <;> rfl
    · cases (inner r here).1 <;> rfl
    · rw [failed]
      rfl

end Uses

end Cache

end SpanQuery
