import Mathlib
import SpanQuery.Settings.Search

namespace SpanQuery

/-! ## Names of kinds -/

theorem eq_or_eq_toUpper_of_toLower {c d : Char} (h : c.toLower = d) : c = d ∨ c = d.toUpper := by
  by_cases upper : c.isUpper
  · right
    rw [← h, Char.toUpper_toLower_eq_toUpper,
      Char.toUpper_eq_of_not_isLower (Char.not_isLower_of_isUpper upper)]
  · rw [Char.toLower_eq_of_not_isUpper upper] at h
    exact .inl h

theorem toLower_eq_toLower {c d : Char} (h : c = d ∨ c = d.toUpper) : c.toLower = d.toLower := by
  rcases h with rfl | rfl
  · rfl
  · exact Char.toLower_toUpper_eq_toLower d

namespace SourceKind

def IsNamed (kind : SourceKind) (name : String) : Prop :=
  List.Forall₂ (fun d c => c = d ∨ c = d.toUpper) kind.text.toList name.toList

theorem isNamed_iff {kind : SourceKind} {name : String} :
    kind.IsNamed name ↔ lowered name = kind.text := by
  have small : kind.text.toList.map Char.toLower = kind.text.toList := by cases kind <;> rfl
  rw [lowered, ← String.toList_inj, String.toList_ofList]
  constructor
  · intro named
    have letters : List.Forall₂ (· = ·) (kind.text.toList.map Char.toLower)
        (name.toList.map Char.toLower) :=
      List.forall₂_map_left_iff.2 (List.forall₂_map_right_iff.2
        (named.imp fun d c letter => (toLower_eq_toLower letter).symm))
    rw [List.forall₂_eq_eq_eq, small] at letters
    exact letters.symm
  · intro same
    have letters : List.Forall₂ (· = ·) kind.text.toList (name.toList.map Char.toLower) := by
      rw [same, List.forall₂_eq_eq_eq]
    rw [List.forall₂_map_right_iff] at letters
    exact letters.imp fun d c letter => eq_or_eq_toUpper_of_toLower letter.symm

theorem ofText?_eq_some_iff {name : String} {kind : SourceKind} :
    ofText? name = some kind ↔ kind.text = name := by
  constructor
  · intro found
    rw [ofText?] at found
    have named := List.find?_some found
    exact eq_of_beq named
  · rintro rfl
    exact ofText?_text kind

theorem ofAnyCase_eq_ok_iff {name : String} {kind : SourceKind} :
    ofAnyCase name = .ok kind ↔ kind.IsNamed name := by
  rw [isNamed_iff, eq_comm (a := lowered name), ← ofText?_eq_some_iff, ofAnyCase]
  cases ofText? (lowered name) <;> simp

theorem ofAnyCase_eq_error_iff {name message : String} :
    ofAnyCase name = .error message ↔
      (∀ kind : SourceKind, ¬ kind.IsNamed name) ∧ lowered name = message := by
  simp only [← ofAnyCase_eq_ok_iff]
  rw [ofAnyCase]
  cases ofText? (lowered name) <;> simp

end SourceKind

namespace Settings

/-! ## Fields -/

inductive Field where
  | kind
  | path
  | cache
  | historyPath
  | historyCutover
  | timezone
  | gmt
  | level
  | format
  deriving Repr, DecidableEq

def Field.Value : Field → Type
  | kind => SourceKind
  | path | timezone | level | format => String
  | cache | gmt => Bool
  | historyPath | historyCutover => Option String

def get (s : Settings) : (f : Field) → f.Value
  | .kind => s.source.kind
  | .path => s.source.path
  | .cache => s.source.cache
  | .historyPath => s.source.historyPath
  | .historyCutover => s.source.historyCutover
  | .timezone => s.time.timezone
  | .gmt => s.time.gmt
  | .level => s.logging.level
  | .format => s.logging.format

theorem eq_of_get {s s' : Settings} (h : ∀ f, s.get f = s'.get f) : s = s' := by
  obtain ⟨⟨kind, path, cache, historyPath, historyCutover⟩, ⟨timezone, gmt⟩, ⟨level, format⟩⟩ := s
  obtain ⟨⟨kind', path', cache', historyPath', historyCutover'⟩, ⟨timezone', gmt'⟩,
    ⟨level', format'⟩⟩ := s'
  obtain rfl : kind = kind' := h .kind
  obtain rfl : path = path' := h .path
  obtain rfl : cache = cache' := h .cache
  obtain rfl : historyPath = historyPath' := h .historyPath
  obtain rfl : historyCutover = historyCutover' := h .historyCutover
  obtain rfl : timezone = timezone' := h .timezone
  obtain rfl : gmt = gmt' := h .gmt
  obtain rfl : level = level' := h .level
  obtain rfl : format = format' := h .format
  rfl

/-! ## Variables -/

inductive SetTo (vars : Variables) : (f : Field) → f.Value → Prop where
  | kind {name : String} {kind : SourceKind} :
      vars.get? kindVariable = some name → kind.IsNamed name → SetTo vars .kind kind
  | path {text : String} : vars.get? "ARCHIVEQL_SOURCE_PATH" = some text → SetTo vars .path text
  | timezone {text : String} : vars.get? "ARCHIVEQL_TIMEZONE" = some text → SetTo vars .timezone text
  | level {text : String} : vars.get? "ARCHIVEQL_LOG_LEVEL" = some text → SetTo vars .level text
  | format {text : String} : vars.get? "ARCHIVEQL_LOG_FORMAT" = some text → SetTo vars .format text

/-- The second settings are the first with the fields of the variables replaced, and no others. -/
def Overridden (vars : Variables) (s s' : Settings) : Prop :=
  ∀ f, (∀ x, SetTo vars f x → s'.get f = x) ∧ ((∀ x, ¬ SetTo vars f x) → s'.get f = s.get f)

def setting? (vars : Variables) : (f : Field) → Option f.Value
  | .kind => (kindOverride? vars).bind Except.toOption
  | .path => vars.get? "ARCHIVEQL_SOURCE_PATH"
  | .timezone => vars.get? "ARCHIVEQL_TIMEZONE"
  | .level => vars.get? "ARCHIVEQL_LOG_LEVEL"
  | .format => vars.get? "ARCHIVEQL_LOG_FORMAT"
  | .cache | .gmt | .historyPath | .historyCutover => none

variable {vars : Variables} {s s' : Settings} {f : Field}

theorem kindOverride?_eq_some_iff {result : Except String SourceKind} :
    kindOverride? vars = some result ↔
      ∃ name, vars.get? kindVariable = some name ∧ SourceKind.ofAnyCase name = result :=
  Option.map_eq_some_iff

theorem setTo_iff {x : f.Value} : SetTo vars f x ↔ setting? vars f = some x := by
  constructor
  · rintro (⟨set, named⟩ | set | set | set | set)
    · have read := kindOverride?_eq_some_iff.2 ⟨_, set, SourceKind.ofAnyCase_eq_ok_iff.2 named⟩
      rw [setting?, read]
      rfl
    all_goals exact set
  · intro set
    cases f with
    | kind =>
        obtain ⟨result, read, ok⟩ := Option.bind_eq_some_iff.1 set
        obtain ⟨name, set, named⟩ := kindOverride?_eq_some_iff.1 read
        cases result with
        | error => cases ok
        | ok kind =>
            cases ok
            exact .kind set (SourceKind.ofAnyCase_eq_ok_iff.1 named)
    | path => exact .path set
    | timezone => exact .timezone set
    | level => exact .level set
    | format => exact .format set
    | cache | gmt | historyPath | historyCutover => cases set

theorem get_override (vars : Variables) (s : Settings) (f : Field) :
    (s.override vars).get f = (setting? vars f).getD (s.get f) := by
  cases f with
  | kind =>
      simp only [get, override, setting?]
      cases kindOverride? vars with
      | none => rfl
      | some result => cases result <;> rfl
  | _ => rfl

theorem overridden_override (vars : Variables) (s : Settings) :
    Overridden vars s (s.override vars) := by
  intro f
  rw [get_override]
  constructor
  · intro x set
    rw [setTo_iff.1 set, Option.getD_some]
  · intro unset
    have nothing : setting? vars f = none :=
      Option.eq_none_iff_forall_ne_some.2 fun x set => unset x (setTo_iff.2 set)
    rw [nothing, Option.getD_none]

theorem overridden_iff : Overridden vars s s' ↔ s' = s.override vars := by
  constructor
  · intro overridden
    refine eq_of_get fun f => ?_
    obtain ⟨replaced, kept⟩ := overridden f
    obtain ⟨replaced', kept'⟩ := overridden_override vars s f
    by_cases set : ∃ x, SetTo vars f x
    · obtain ⟨x, set⟩ := set
      rw [replaced x set, replaced' x set]
    · rw [kept (not_exists.1 set), kept' (not_exists.1 set)]
  · rintro rfl
    exact overridden_override vars s

inductive Ignores (vars : Variables) : List SettingsError → Prop where
  | unset : vars.get? kindVariable = none → Ignores vars []
  | named {name : String} {kind : SourceKind} :
      vars.get? kindVariable = some name → kind.IsNamed name → Ignores vars []
  | unknown {name : String} :
      vars.get? kindVariable = some name → (∀ kind : SourceKind, ¬ kind.IsNamed name) →
      Ignores vars [.unknownKind (SourceKind.lowered name)]

theorem ignores_ignoredOverrides (vars : Variables) : Ignores vars (ignoredOverrides vars) := by
  rw [ignoredOverrides]
  cases read : kindOverride? vars with
  | none => exact .unset (Option.map_eq_none_iff.1 read)
  | some result =>
      obtain ⟨name, set, named⟩ := kindOverride?_eq_some_iff.1 read
      cases result with
      | ok kind => exact .named set (SourceKind.ofAnyCase_eq_ok_iff.1 named)
      | error message =>
          obtain ⟨none, rfl⟩ := SourceKind.ofAnyCase_eq_error_iff.1 named
          exact .unknown set none

end Settings

end SpanQuery
