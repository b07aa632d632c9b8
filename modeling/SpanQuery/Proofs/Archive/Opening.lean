import SpanQuery.Command.Run
import SpanQuery.Proofs.Database.Answers

namespace SpanQuery

/-! ## Answers -/

namespace SplitArchive

def inCharge (a : SplitArchive) (t : Tick) : Database :=
  match a.history with
  | some (cutover, history) => if t < cutover then history.database else a.main.database
  | none => a.main.database

def Coherent (a : SplitArchive) : Prop :=
  a.main.Coherent ∧ ∀ cutover history, a.history = some (cutover, history) → history.Coherent

theorem source_eq {a : SplitArchive} (h : a.Coherent) (r : Request) :
    (source r a).1 = (a.inCharge r.t0).reply r ∧ (source r a).2.Coherent ∧
      (source r a).2.inCharge = a.inCharge := by
  obtain ⟨main, history⟩ := a
  obtain ⟨hmain, hhistory⟩ := h
  obtain ⟨answer, coherent, same⟩ := main.fetch_eq hmain r
  cases history with
  | none =>
      refine ⟨answer, ⟨coherent, nofun⟩, ?_⟩
      funext t
      exact same
  | some split =>
      obtain ⟨cutover, history⟩ := split
      have old := hhistory cutover history rfl
      obtain ⟨answer', coherent', same'⟩ := history.fetch_eq old r
      by_cases early : r.t0 < cutover
      · have run : source r ⟨main, some (cutover, history)⟩ =
            ((history.fetch r).1, ⟨main, some (cutover, (history.fetch r).2)⟩) := by
          simp only [source, if_pos early]
        rw [run]
        refine ⟨?_, ⟨hmain, ?_⟩, ?_⟩
        · rw [inCharge, answer']
          exact (congrArg (Database.reply · r) (if_pos early)).symm
        · rintro _ _ ⟨⟩
          exact coherent'
        · funext t
          simp only [inCharge, same']
      · have run : source r ⟨main, some (cutover, history)⟩ =
            ((main.fetch r).1, ⟨(main.fetch r).2, some (cutover, history)⟩) := by
          simp only [source, if_neg early]
        rw [run]
        refine ⟨?_, ⟨coherent, hhistory⟩, ?_⟩
        · rw [inCharge, answer]
          exact (congrArg (Database.reply · r) (if_neg early)).symm
        · funext t
          simp only [inCharge, same]

theorem replies_source (a : SplitArchive) (scope : Request → Prop) :
    Replies source scope (fun s => s.Coherent ∧ s.inCharge = a.inCharge)
      fun r => (a.inCharge r.t0).reply r := by
  rintro r s - ⟨coherent, same⟩
  obtain ⟨answer, kept, inCharge⟩ := source_eq coherent r
  rw [← same]
  exact ⟨answer, kept, inCharge⟩

end SplitArchive

namespace FileSource

def Coherent : FileSource → Prop
  | records _ => True
  | databases a => a.Coherent

def reply : FileSource → Request → Answer
  | records m => m.answer
  | databases a => fun r => (a.inCharge r.t0).reply r

theorem replies_source (f : FileSource) (scope : Request → Prop) :
    Replies source scope (fun s => s.Coherent ∧ s.reply = f.reply) f.reply := by
  rintro r s - ⟨coherent, same⟩
  rw [← same]
  cases s with
  | records m => exact ⟨rfl, trivial, rfl⟩
  | databases a =>
      obtain ⟨answer, kept, inCharge⟩ := SplitArchive.source_eq coherent r
      refine ⟨answer, kept, ?_⟩
      exact congrArg (fun charge r => Database.reply (charge r.t0) r) inCharge

end FileSource

/-! ## Opening -/

namespace FileAccess

inductive Reaches : FileAccess α → α → Prop where
  | done (a : α) : Reaches (.done a) a
  | read {path : String} {next : Look → FileAccess α} {a : α} (look : Look) :
      Reaches (next look) a → Reaches (.read path next) a
  | write {path : String} {bytes : Text.Bytes} {next : Except FileFault Unit → FileAccess α} {a : α}
      (result : Except FileFault Unit) : Reaches (next result) a → Reaches (.write path bytes next) a

theorem exists_of_reaches_bind {x : FileAccess α} {f : α → FileAccess β} {b : β}
    (h : (x.bind f).Reaches b) : ∃ a, x.Reaches a ∧ (f a).Reaches b := by
  induction x with
  | done a => exact ⟨a, .done a, h⟩
  | read path next ih =>
      cases h with
      | read look later =>
          obtain ⟨a, reached, rest⟩ := ih look later
          exact ⟨a, .read look reached, rest⟩
  | write path bytes next ih =>
      cases h with
      | write result later =>
          obtain ⟨a, reached, rest⟩ := ih result later
          exact ⟨a, .write result reached, rest⟩

end FileAccess

namespace Work

theorem exists_of_reaches_bind {x : Work α} {f : α → Work β} {b : β}
    (h : (x >>= f).run.Reaches (.ok b)) : ∃ a, x.run.Reaches (.ok a) ∧ (f a).run.Reaches (.ok b) := by
  obtain ⟨result, reached, rest⟩ := FileAccess.exists_of_reaches_bind h
  cases result with
  | error e => cases rest
  | ok a => exact ⟨a, reached, rest⟩

theorem eq_of_reaches_pure {a b : α} (h : (pure a : Work α).run.Reaches (.ok b)) : b = a := by
  cases h
  rfl

theorem ok_of_reaches_of {failure : ε → Command.Failure} {result : Except ε α} {a : α}
    (h : (Work.of failure result).run.Reaches (.ok a)) : result = .ok a := by
  cases result with
  | error e => cases h
  | ok b =>
      cases h
      rfl

end Work

/-- A source as it is when it was just opened. -/
inductive FileSource.Opened : FileSource → Prop where
  | records (m : Memory) : Opened (.records m)
  | whole (db : Database) : Opened (.databases ⟨.ofDatabase db, none⟩)
  | split (main history : Database) (cutover : Tick) :
      Opened (.databases ⟨.ofDatabase main, some (cutover, .ofDatabase history)⟩)

theorem FileSource.Opened.coherent {f : FileSource} (h : f.Opened) : f.Coherent := by
  cases h with
  | records m => trivial
  | whole db => exact ⟨Connection.coherent_ofDatabase db, nofun⟩
  | split main history cutover =>
      refine ⟨Connection.coherent_ofDatabase main, ?_⟩
      rintro _ _ ⟨⟩
      exact Connection.coherent_ofDatabase history

namespace SourceSettings

theorem connect_opened {path : String} {c : Connection}
    (h : (connect path).run.Reaches (.ok c)) : ∃ db, c = .ofDatabase db := by
  obtain ⟨look, -, opened⟩ := Work.exists_of_reaches_bind h
  have opened := Work.ok_of_reaches_of opened
  unfold Connection.ofLook at opened
  split at opened
  · exact ⟨_, (Except.ok.inj opened).symm⟩
  · split at opened <;> cases opened

theorem openSource_opened (s : SourceSettings) (zone : Calendar.Zone) {f : FileSource}
    (h : (s.openSource zone).run.Reaches (.ok f)) : f.Opened := by
  unfold openSource at h
  split at h
  · obtain ⟨look, -, h⟩ := Work.exists_of_reaches_bind h
    obtain ⟨m, -, h⟩ := Work.exists_of_reaches_bind h
    obtain rfl := Work.eq_of_reaches_pure h
    exact .records m
  · obtain ⟨main, connected, h⟩ := Work.exists_of_reaches_bind h
    obtain ⟨db, rfl⟩ := connect_opened connected
    split at h
    · obtain ⟨cutover, -, h⟩ := Work.exists_of_reaches_bind h
      obtain ⟨history, connected, h⟩ := Work.exists_of_reaches_bind h
      obtain ⟨old, rfl⟩ := connect_opened connected
      obtain rfl := Work.eq_of_reaches_pure h
      exact .split db old cutover
    · obtain rfl := Work.eq_of_reaches_pure h
      exact .whole db
    · cases h

end SourceSettings

end SpanQuery
