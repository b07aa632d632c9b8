import SpanQuery.Proofs.Archive.Agreement
import SpanQuery.Proofs.Archive.Opening
import SpanQuery.Proofs.Evaluation.Questions

/-!
# The cache setting

The setting puts a cache before the source and has every variable of a query fetched over the whole
window beforehand. Neither shows in an answer, with one exception: in a split archive the start of
a window decides which database answers, so the interval of a left operand behind the cutover is
answered from another database than the window that was fetched beforehand.
-/

namespace SpanQuery

open Course

namespace FileSource

/-- The cutover, if there is one, is not inside the window from `t0` to `t1`. -/
def OneSided (t0 t1 : Tick) : FileSource → Prop
  | records _ => True
  | databases a => ∀ cutover history, a.history = some (cutover, history) →
      cutover ≤ t0 ∨ t1 ≤ cutover

/-- One database is in charge of all requests of a scope. -/
def Undivided (scope : Request → Prop) : FileSource → Prop
  | records _ => True
  | databases a => ∀ w r, scope w → scope r → a.inCharge w.t0 = a.inCharge r.t0

theorem undivided_whole (f : FileSource) (t0 t1 : Tick) : f.Undivided (Request.Whole t0 t1) := by
  cases f with
  | records m => trivial
  | databases a =>
      rintro w r ⟨hw, -⟩ ⟨hr, -⟩
      rw [hw, hr]

theorem OneSided.undivided_within {f : FileSource} {t0 t1 : Tick} (h : f.OneSided t0 t1) :
    f.Undivided (Request.Within t0 t1) := by
  cases f with
  | records m => trivial
  | databases a =>
      have charge : ∀ r, Request.Within t0 t1 r → a.inCharge r.t0 = a.inCharge t0 := by
        rintro r ⟨le, lt, le'⟩
        unfold SplitArchive.inCharge
        cases history : a.history with
        | none => rfl
        | some split =>
            rcases h split.1 split.2 history with late | early
            · have hr : ¬ r.t0 < split.1 := Int64.not_lt.2 (Int64.le_trans late le)
              have ht : ¬ t0 < split.1 := Int64.not_lt.2 late
              simp only [if_neg hr, if_neg ht]
            · have hr : r.t0 < split.1 :=
                Int64.lt_of_lt_of_le (Int64.lt_of_lt_of_le lt le') early
              simp only [if_pos hr, if_pos (Int64.lt_of_le_of_lt le hr)]
      exact fun w r hw hr => (charge w hw).trans (charge r hr).symm

theorem sliceable_reply {f : FileSource} {scope : Request → Prop} (h : f.Undivided scope) :
    Sliceable scope f.reply := by
  cases f with
  | records m => exact m.sliceable_answer scope
  | databases a =>
      intro w r samples hw hr name le lt le' answered
      change (a.inCharge w.t0).reply w = _ at answered
      change (a.inCharge r.t0).reply r = _
      rw [h w r hw hr] at answered
      exact (a.inCharge r.t0).sliceable_reply scope w r samples hw hr name le lt le' answered

theorem exists_undivided {f : FileSource} {e : Expr} {t0 t1 : Tick} (lt : t0 < t1)
    (h : f.OneSided t0 t1 ∨ e.occurrences.length ≤ 1) :
    ∃ scope : Request → Prop, f.Undivided scope ∧ (∀ r, scope r → r.t0 < r.t1) ∧
      (∀ name, scope ⟨name, t0, t1⟩) ∧ (e.course t0 t1).Asks scope := by
  rcases h with oneSided | once
  · exact ⟨_, oneSided.undivided_within, fun r hr => hr.2.1,
      fun name => ⟨Int64.le_rfl, lt, Int64.le_rfl⟩, e.asks_within _ lt⟩
  · refine ⟨_, f.undivided_whole t0 t1, ?_, fun name => ⟨rfl, rfl⟩, Expr.asks_whole _ once lt⟩
    rintro r ⟨rfl, rfl⟩
    exact lt

theorem exists_undivided_condition {f : FileSource} {condition : Option String} {t0 t1 : Tick}
    (lt : t0 < t1) (h : ∀ text e, condition = some text → Expr.ofQuery? text = .ok e →
      f.OneSided t0 t1 ∨ e.occurrences.length ≤ 1) :
    ∃ scope : Request → Prop, f.Undivided scope ∧ (∀ r, scope r → r.t0 < r.t1) ∧
      (∀ name, scope ⟨name, t0, t1⟩) ∧
      ∀ e, condition.mapM Expr.ofQuery? = .ok (some e) → (e.course t0 t1).Asks scope := by
  by_cases parsed : ∃ text e, condition = some text ∧ Expr.ofQuery? text = .ok e
  · obtain ⟨text, e, rfl, parsed⟩ := parsed
    obtain ⟨scope, undivided, proper, whole, asks⟩ := exists_undivided lt (h text e rfl parsed)
    refine ⟨scope, undivided, proper, whole, fun e' here => ?_⟩
    have same : (Except.ok (some e) : Except QueryError _) = .ok (some e') := by
      rw [← here, Option.mapM_some, parsed]
      rfl
    cases same
    exact asks
  · obtain ⟨scope, undivided, proper, whole, -⟩ :=
      exists_undivided (f := f) (e := .literal 0) lt (.inr (Nat.zero_le 1))
    refine ⟨scope, undivided, proper, whole, fun e here => absurd ?_ parsed⟩
    cases condition with
    | none => cases here
    | some text =>
        cases query : Expr.ofQuery? text with
        | error fault =>
            rw [Option.mapM_some, query] at here
            cases here
        | ok e' => exact ⟨text, e', rfl, query⟩

end FileSource

theorem SourceSettings.replies_archive (s : SourceSettings) {f : FileSource}
    {scope : Request → Prop} (undivided : f.Undivided scope)
    (proper : ∀ r, scope r → r.t0 < r.t1) :
    Replies s.archive.source scope
      (fun st => st.1.Faithful scope f.reply ∧ st.2.Coherent ∧ st.2.reply = f.reply) f.reply := by
  have replies := f.replies_source scope
  unfold archive Cache.sourceIf
  cases s.cache with
  | true => exact Cache.replies_source replies (FileSource.sliceable_reply undivided) proper
  | false =>
      rintro r ⟨c, u⟩ hr ⟨faithful, hu⟩
      obtain ⟨answer, kept⟩ := replies r u hr hu
      exact ⟨answer, faithful, kept⟩

/-! ## One by one -/

namespace SourceSettings

theorem searchedItems_cached (s : SourceSettings) {f : FileSource} (coherent : f.Coherent)
    {e : Expr} {name : String} (names : e.variableNames = [name]) {t0 t1 : Tick} (lt : t0 < t1)
    {samples : List Sample} (answered : f.reply ⟨name, t0, t1⟩ = .ok samples) :
    ({ s with cache := true }.archive.searchedItems e t0 t1 (.empty, f)).1 =
      ((e.course t0 t1).items (fun r => (pure (.ok (Sample.window samples r.t0 r.t1)) :
        StateM Unit Answer)) ()).1 := by
  have warmed : { s with cache := true }.archive.searchedItems e t0 t1 (.empty, f) =
      (e.course t0 t1).items (Cache.source FileSource.source)
        (Cache.source FileSource.source ⟨name, t0, t1⟩ (.empty, f)).2 := by
    change (do e.variableNames.forM _; (e.course t0 t1).items _ : StateM _ _) _ = _
    rw [names]
    rfl
  have known : (Cache.source FileSource.source ⟨name, t0, t1⟩ (.empty, f)).2.1.windows.get? name =
      some ⟨t0, t1, samples⟩ := by
    have answer := (f.replies_source (fun _ => True) ⟨name, t0, t1⟩ f trivial ⟨coherent, rfl⟩).1
    rw [Cache.source, Cache.sourceBy_miss _ _ rfl, answer, answered]
    exact Keyed.get?_put_self _ _ _
  have inside : ∀ r : Request, r.name ∈ e.occurrences ∧ Request.Within t0 t1 r →
      r.name = name ∧ t0 ≤ r.t0 ∧ r.t1 ≤ t1 := by
    rintro r ⟨mem, le, -, le'⟩
    have mem : r.name ∈ e.variableNames := List.mem_eraseDups.2 mem
    rw [names] at mem
    exact ⟨List.mem_singleton.1 mem, le, le'⟩
  rw [warmed]
  exact (e.asks_occurrences _ lt).items_congr
    (Cache.replies_remembered FileSource.source (w := ⟨t0, t1, samples⟩) inside)
    (replies_pure _ _) known trivial

theorem searchedItems_plain (s : SourceSettings) {f : FileSource} (coherent : f.Coherent)
    {e : Expr} {t0 t1 : Tick} (lt : t0 < t1) {reply : Request → Answer}
    (answered : ∀ r, r.name ∈ e.occurrences ∧ Request.Within t0 t1 r → f.reply r = reply r) :
    ({ s with cache := false }.archive.searchedItems e t0 t1 (.empty, f)).1 =
      ((e.course t0 t1).items (fun r => (pure (reply r) : StateM Unit Answer)) ()).1 := by
  have replies : Replies (Cache.sourceIf false FileSource.source)
      (fun r => r.name ∈ e.occurrences ∧ Request.Within t0 t1 r)
      (fun st => st.2.Coherent ∧ st.2.reply = f.reply) f.reply := by
    rintro r ⟨c, u⟩ hr hu
    exact f.replies_source (fun _ => True) r u trivial hu
  exact (e.asks_occurrences _ lt).items_congr (replies.congr answered) (replies_pure _ _)
    ⟨coherent, rfl⟩ trivial

end SourceSettings

/-! ## A split archive -/

def splitSettings : SourceSettings :=
  ⟨.sqlite, "main.db", true, some "history.db", some "5"⟩

def splitHistory : Database where
  channels := some [⟨1, .text "A", .null, .null, .null, .null⟩]
  tables := [(1, [⟨.integer 0, .real 1⟩, ⟨.integer 6, .real 2⟩])]

def splitSource : FileSource :=
  .databases ⟨.ofDatabase (.ofBytes []), some (5, .ofDatabase (.ofBytes splitHistory.toBytes))⟩

theorem splitSource_reached :
    (splitSettings.openSource .universal).run.Reaches (.ok splitSource) := by
  have cutover : Calendar.tick "5" .universal = .ok 5 := rfl
  change FileAccess.Reaches (.read "main.db" _) _
  refine .read (.ok []) ?_
  change FileAccess.Reaches (ExceptT.run (Work.of _ (Calendar.tick "5" .universal) >>= _)) _
  rw [cutover]
  exact .read (.ok splitHistory.toBytes) (.done _)

theorem ofBytes_splitHistory : Database.ofBytes splitHistory.toBytes = splitHistory := by
  decide +kernel

def splitSum : Expr := .binary .add (.variable "A") (.variable "A")

def splitSamples : List Sample := [⟨0, 1⟩, ⟨6, 2⟩]

theorem reply_splitHistory {r : Request}
    (hr : r.name ∈ splitSum.occurrences ∧ Request.Within 0 10 r) :
    splitHistory.reply r = .ok (Sample.window splitSamples r.t0 r.t1) := by
  have sorted : Sample.sort splitSamples = splitSamples := List.mergeSort_of_pairwise (by decide)
  have whole : splitHistory.reply ⟨"A", 0, 10⟩ = .ok splitSamples := by
    change Database.samples (splitSamples.map Reading.ofSample) 0 10 = _
    rw [Database.samples_ofSample splitSamples (by decide), sorted]
    rfl
  obtain ⟨mem, le, lt, le'⟩ := hr
  have name : r.name = "A" := by simpa [splitSum, Expr.occurrences] using mem
  exact splitHistory.sliceable_reply (fun _ => True) ⟨"A", 0, 10⟩ r splitSamples trivial trivial name
    le lt le' whole

def splitReply (r : Request) : Answer :=
  if r.t0 < 5 then .ok (Sample.window splitSamples r.t0 r.t1) else .error .database

theorem reply_splitSource {r : Request}
    (hr : r.name ∈ splitSum.occurrences ∧ Request.Within 0 10 r) :
    splitSource.reply r = splitReply r := by
  change (if r.t0 < 5 then Database.ofBytes splitHistory.toBytes else .ofBytes []).reply r = _
  have main : Database.ofBytes [] = .empty := by decide +kernel
  rw [ofBytes_splitHistory, main, splitReply]
  split
  · exact reply_splitHistory hr
  · rfl

/-! ## Answers -/

/-- Over a source that was just opened, an expression has the same items, compressed or not, with
the cache as without it, and a variable has the same samples, if the cutover of a split archive is
not inside the window or the expression has no more than one occurrence of a variable. Without a
condition, samples are always the same. -/
theorem answers_cached (s : SourceSettings) (zone : Calendar.Zone) {f : FileSource}
    (opened : (s.openSource zone).run.Reaches (.ok f)) {t0 t1 : Tick} (lt : t0 < t1) :
    let cached := { s with cache := true }.archive
    let plain := { s with cache := false }.archive
    (∀ e : Expr, f.OneSided t0 t1 ∨ e.occurrences.length ≤ 1 →
      (cached.searchedItems e t0 t1 (.empty, f)).1 = (plain.searchedItems e t0 t1 (.empty, f)).1 ∧
      (cached.foundItems e t0 t1 (.empty, f)).1 = (plain.foundItems e t0 t1 (.empty, f)).1) ∧
    ∀ (name : String) (condition : Option String),
      (∀ text e, condition = some text → Expr.ofQuery? text = .ok e →
        f.OneSided t0 t1 ∨ e.occurrences.length ≤ 1) →
      (cached.fetch ⟨name, t0, t1⟩ condition (.empty, f)).1 =
        (plain.fetch ⟨name, t0, t1⟩ condition (.empty, f)).1 := by
  intro cached plain
  have coherent := (s.openSource_opened zone opened).coherent
  have start : ∀ scope : Request → Prop,
      Cache.empty.Faithful scope f.reply ∧ f.Coherent ∧ f.reply = f.reply :=
    fun scope => ⟨Cache.faithful_empty scope _, coherent, rfl⟩
  constructor
  · intro e h
    obtain ⟨scope, undivided, proper, whole, asks⟩ := FileSource.exists_undivided lt h
    have replies := { s with cache := true }.replies_archive undivided proper
    have replies' := { s with cache := false }.replies_archive undivided proper
    exact ⟨Archive.searchedItems_congr replies replies' whole asks (start scope) (start scope),
      Archive.foundItems_congr replies replies' whole asks (start scope) (start scope)⟩
  · intro name condition h
    obtain ⟨scope, undivided, proper, whole, asks⟩ := FileSource.exists_undivided_condition lt h
    exact Archive.fetch_congr ({ s with cache := true }.replies_archive undivided proper)
      ({ s with cache := false }.replies_archive undivided proper) whole name asks (start scope)
      (start scope)

theorem answers_cached_history :
    let cached := { splitSettings with cache := true }.archive
    let plain := { splitSettings with cache := false }.archive
    let above : Expr := .binary .gt (.variable "A") (.literal 1)
    ((splitSettings.openSource .universal).run.Reaches (.ok splitSource) ∧ (0 : Tick) < 5 ∧
      splitSource.OneSided 0 5 ∧ above.occurrences.length ≤ 1) ∧
      (cached.searchedItems splitSum 0 5 (.empty, splitSource)).1 =
        (plain.searchedItems splitSum 0 5 (.empty, splitSource)).1 ∧
      (cached.fetch ⟨"A", 0, 5⟩ (some "A + A > 1") (.empty, splitSource)).1 =
        (plain.fetch ⟨"A", 0, 5⟩ (some "A + A > 1") (.empty, splitSource)).1 ∧
      (cached.foundItems above 0 10 (.empty, splitSource)).1 =
        (plain.foundItems above 0 10 (.empty, splitSource)).1 := by
  have oneSided : splitSource.OneSided 0 5 := by
    rintro _ _ ⟨⟩
    exact .inr Int64.le_rfl
  have before := answers_cached splitSettings .universal splitSource_reached
    (show (0 : Tick) < 5 by decide)
  have across := answers_cached splitSettings .universal splitSource_reached
    (show (0 : Tick) < 10 by decide)
  exact ⟨⟨splitSource_reached, by decide, oneSided, by decide⟩, (before.1 _ (.inl oneSided)).1,
    before.2 _ _ fun _ _ _ _ => .inl oneSided, (across.1 _ (.inr (by decide))).2⟩

/-- The later interval of the left operand begins behind the cutover. The cache answers for the
right operand from the history there, the main database has nothing. -/
theorem answers_cached_split :
    let cached := { splitSettings with cache := true }.archive
    let plain := { splitSettings with cache := false }.archive
    (splitSettings.openSource .universal).run.Reaches (.ok splitSource) ∧ (0 : Tick) < 10 ∧
      (cached.searchedItems splitSum 0 10 (.empty, splitSource)).1 ≠
        (plain.searchedItems splitSum 0 10 (.empty, splitSource)).1 := by
  intro cached plain
  refine ⟨splitSource_reached, by decide, fun same => ?_⟩
  have coherent := (splitSettings.openSource_opened _ splitSource_reached).coherent
  have names : splitSum.variableNames = ["A"] := by decide
  have whole : splitSource.reply ⟨"A", 0, 10⟩ = .ok (Sample.window splitSamples 0 10) :=
    reply_splitSource ⟨by decide, Int64.le_rfl, by decide, Int64.le_rfl⟩
  rw [splitSettings.searchedItems_cached coherent names (by decide) whole,
    splitSettings.searchedItems_plain coherent (by decide) fun _ => reply_splitSource] at same
  exact absurd (congrArg (List.map Except.isOk) same) (by decide +kernel)

end SpanQuery
