import SpanQuery.Calendar.Date
import SpanQuery.Calendar.Zone

/-!
# The changes that rules make

The history of a zone is a list of eras. In an era standard time is fixed, and the saving on top of
it is fixed too or follows rules that come back every year. The moment of a rule is read from the
clocks as they are before it, so rules are played through in their order.
-/

namespace SpanQuery.Calendar

inductive Clock where
  | wall
  | standard
  | universal
  deriving Repr, DecidableEq

inductive MonthDay where
  | day (n : Nat)
  | last (weekday : Nat)
  | onOrAfter (weekday n : Nat)
  | onOrBefore (weekday n : Nat)
  deriving Repr, DecidableEq

/-- A moment that comes once in a year. The time may lie outside the day. -/
structure Moment where
  month : Nat
  day : MonthDay
  seconds : Int
  clock : Clock
  deriving Repr, DecidableEq

/-- From the first year to the last, a saving comes into force at a moment. -/
structure Rule where
  first : Int
  last : Int
  moment : Moment
  saving : Int
  deriving Repr, DecidableEq

inductive Saving where
  | fixed (seconds : Int)
  | rules (name : String)
  deriving Repr, DecidableEq

structure Era where
  offset : Int
  saving : Saving
  stop : Option (Int × Moment)
  deriving Repr, DecidableEq

namespace Moment

def firstOn (weekday : Nat) (day : Int) : Int :=
  day + (weekday - (day + 4)) % 7

def days (m : Moment) (year : Int) : Int :=
  match m.day with
  | .day n => (Date.mk year m.month n).toDays
  | .last weekday =>
      firstOn weekday ((Date.mk year m.month (monthLength year m.month)).toDays - 6)
  | .onOrAfter weekday n => firstOn weekday (Date.mk year m.month n).toDays
  | .onOrBefore weekday n => firstOn weekday ((Date.mk year m.month n).toDays - 6)

/-- The instant of the moment in a year, when clocks are ahead by an offset and a saving. -/
def instant (m : Moment) (year offset saving : Int) : Int :=
  let ahead := match m.clock with
    | .wall => offset + saving
    | .standard => offset
    | .universal => 0
  86400 * m.days year + m.seconds - ahead

end Moment

structure Progress where
  saving : Int
  /-- The total offset at the start of the era, if it is known, unless a rule takes effect just
  then. -/
  atStart : Option Int
  /-- Whether a rule takes effect at the start of the era. -/
  ruledStart : Bool
  changes : List Change

def earliest (instant : Rule → Int) : List Rule → Option (Rule × List Rule)
  | [] => none
  | r :: rest =>
      match earliest instant rest with
      | none => some (r, [])
      | some (s, others) =>
          if instant r ≤ instant s then some (r, rest) else some (s, r :: others)

theorem length_of_earliest {instant : Rule → Int} {rules others : List Rule} {r : Rule}
    (h : earliest instant rules = some (r, others)) : others.length < rules.length := by
  induction rules generalizing r others with
  | nil => simp [earliest] at h
  | cons s rest ih =>
      simp only [earliest] at h
      split at h
      · simp_all
      · rename_i t ts ht
        have := ih ht
        split at h <;> simp_all
        obtain ⟨-, rfl⟩ := h
        simpa using this

namespace Era

def stopAt (e : Era) (saving : Int) : Option Int :=
  e.stop.map fun (year, moment) => moment.instant year e.offset saving

/-- A rule that takes effect before the start only says what is in force there. One that comes
later shows what is in force at the start if it changes nothing from standard time. -/
def step (e : Era) (start : Option Int) (p : Progress) (instant saving : Int) : Progress :=
  let change : Change := ⟨instant, e.offset + saving⟩
  match start with
  | none => { p with saving, changes := change :: p.changes }
  | some s =>
      if p.ruledStart ∨ instant = s then
        { p with saving, ruledStart := true, changes := change :: p.changes }
      else if instant < s then
        { p with saving, atStart := some (e.offset + saving) }
      else
        { p with
          saving
          atStart := p.atStart.or (if saving = 0 then some e.offset else none)
          changes := change :: p.changes }

/-- Plays the rules of a year, each once, as long as the era lasts. -/
def playYear (e : Era) (start : Option Int) (year : Int) (rules : List Rule) (p : Progress) :
    Progress :=
  let instant (r : Rule) := r.moment.instant year e.offset p.saving
  match _h : earliest instant rules with
  | none => p
  | some (r, others) =>
      if (e.stopAt p.saving).any (· ≤ instant r) then p
      else e.playYear start year others (e.step start p (instant r) r.saving)
termination_by rules.length
decreasing_by exact length_of_earliest _h

def years (e : Era) (rules : List Rule) : List Int :=
  let first := (rules.map Rule.first).foldl min 9999
  let last := (rules.map Rule.last).foldl max 0
  let last := (e.stop.map fun (year, _) => min year last).getD last
  (List.range (last + 1 - first).toNat).map fun (n : Nat) => first + n

def play (e : Era) (start : Option Int) (rules : String → List Rule) : Progress :=
  match e.saving with
  | .fixed saving => ⟨saving, some (e.offset + saving), false, []⟩
  | .rules name =>
      let rules := rules name
      (e.years rules).foldl (fun p year =>
        e.playYear start year (rules.filter fun r => r.first ≤ year ∧ year ≤ r.last) p)
        ⟨0, none, false, []⟩

end Era

def changesFrom (rules : String → List Rule) (start : Option Int) : List Era → List Change
  | [] => []
  | e :: later =>
      let p := e.play start rules
      let first := match start, p.atStart with
        | some s, some offset => if p.ruledStart then [] else [⟨s, offset⟩]
        | _, _ => []
      first ++ p.changes.reverse ++ changesFrom rules (e.stopAt p.saving) later

/-- Drops changes that change nothing. A change is also overtaken by the next one if the clocks do
not, in between, get past what they showed just before it; the next one then takes its place. The
offsets before the last kept change and after it are at hand. -/
def settle (before : Int) (last : Change) : List Change → List Change
  | [] => [last]
  | c :: later =>
      if c.since + last.offset ≤ last.since + before then
        settle before ⟨last.since, c.offset⟩ later
      else if c.offset = last.offset then settle before last later
      else last :: settle last.offset c later

/-- The zone with a history; it begins with an era without rules. -/
def Zone.ofEras? (name : String) (rules : String → List Rule) : List Era → Option Zone
  | [] => none
  | e :: later =>
      let first := match e.saving with
        | .fixed saving => e.offset + saving
        | .rules _ => e.offset
      let changes := match changesFrom rules none (e :: later) with
        | [] => []
        | c :: changes => settle first c changes
      if h : ∀ offset ∈ offsetsOf first changes, offset.natAbs < 86400 then
        some ⟨name, first, changes, h⟩
      else none

end SpanQuery.Calendar
