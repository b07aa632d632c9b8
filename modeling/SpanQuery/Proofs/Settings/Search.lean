import SpanQuery.Proofs.Settings.Overrides

namespace SpanQuery.Settings

/-! ## Files -/

def Usable (other : Settings) (look : Look) (s : Settings) : Prop :=
  look.isPresent ∧ ∃ text, look.text = .ok text ∧ ofChars? other text = some s

inductive Unusable (other : Settings) : String × Look → SettingsError → Prop where
  | unreadable {path : String} {look : Look} {fault : FileFault} :
      look.isPresent → look.text = .error fault →
      Unusable other (path, look) (.unreadable path fault)
  | malformed {path : String} {look : Look} {text : List Char} :
      look.isPresent → look.text = .ok text → ofChars? other text = none →
      Unusable other (path, look) (.malformed path)

variable {other s : Settings} {path : String} {look : Look} {e : SettingsError}

theorem Unusable.not_usable (h : Unusable other (path, look) e) : ¬ Usable other look s := by
  rintro ⟨-, text, read, settings⟩
  cases h with
  | unreadable _ fault =>
      rw [read] at fault
      cases fault
  | malformed _ read' nothing =>
      rw [read] at read'
      cases read'
      rw [settings] at nothing
      cases nothing

theorem load_eq (other : Settings) (path : String) (look : Look) :
    load other path look = match look.text with
      | .error fault => .error (.unreadable path fault)
      | .ok text => match ofChars? other text with
        | some s => .ok s
        | none => .error (.malformed path) := by
  rw [load]
  cases look.text <;> rfl

theorem load_of_usable (h : Usable other look s) (path : String) :
    load other path look = .ok s := by
  obtain ⟨-, text, read, settings⟩ := h
  simp only [load_eq, read, settings]

theorem usable_of_load (present : look.isPresent) (h : load other path look = .ok s) :
    Usable other look s := by
  rw [load_eq] at h
  split at h
  · cases h
  · rename_i text read
    split at h
    · rename_i settings
      cases h
      exact ⟨present, text, read, settings⟩
    · cases h

theorem unusable_of_load (present : look.isPresent) (h : load other path look = .error e) :
    Unusable other (path, look) e := by
  rw [load_eq] at h
  split at h
  · rename_i read
    cases h
    exact .unreadable present read
  · rename_i read
    split at h
    · cases h
    · rename_i nothing
      cases h
      exact .malformed present read nothing

/-! ## Lists of files -/

/-- None of the files can be used, and these are the errors of those that are there. -/
structure PassedOver (other : Settings) (files : List (String × Look)) (errors : List SettingsError) :
    Prop where
  useless : ∀ file ∈ files, ∀ s, ¬ Usable other file.2 s
  errors : List.Forall₂ (Unusable other) (files.filter (·.2.isPresent)) errors

/-- What comes of the first usable file, or of none. -/
inductive Found (other : Settings) : List (String × Look) → Loaded → Prop where
  | first {passed later : List (String × Look)} {path : String} {look : Look} {s : Settings}
      {errors : List SettingsError} :
      PassedOver other passed errors → Usable other look s →
      Found other (passed ++ (path, look) :: later) ⟨s, some path, errors⟩
  | none {files : List (String × Look)} {errors : List SettingsError} :
      PassedOver other files errors → Found other files ⟨other, none, errors⟩

variable {files passed : List (String × Look)} {errors : List SettingsError} {found : Loaded}

theorem PassedOver.nil : PassedOver other [] [] :=
  ⟨nofun, .nil⟩

theorem PassedOver.unusable (h : PassedOver other files errors) (present : look.isPresent)
    (unusable : Unusable other (path, look) e) :
    PassedOver other ((path, look) :: files) (e :: errors) := by
  refine ⟨List.forall_mem_cons.2 ⟨fun s => unusable.not_usable, h.useless⟩, ?_⟩
  rw [List.filter_cons, if_pos present]
  exact .cons unusable h.errors

theorem PassedOver.absent (h : PassedOver other files errors) (absent : ¬ look.isPresent) :
    PassedOver other ((path, look) :: files) errors := by
  refine ⟨List.forall_mem_cons.2 ⟨fun s usable => absent usable.1, h.useless⟩, ?_⟩
  rw [List.filter_cons, if_neg absent]
  exact h.errors

theorem Found.unusable (h : Found other files found) (present : look.isPresent)
    (unusable : Unusable other (path, look) e) :
    Found other ((path, look) :: files) { found with problems := e :: found.problems } := by
  cases h with
  | first passed usable => exact .first (passed.unusable present unusable) usable
  | none passed => exact .none (passed.unusable present unusable)

theorem Found.absent (h : Found other files found) (absent : ¬ look.isPresent) :
    Found other ((path, look) :: files) found := by
  cases h with
  | first passed usable => exact .first (passed.absent absent) usable
  | none passed => exact .none (passed.absent absent)

theorem found_firstUsable (other : Settings) (files : List (String × Look)) :
    Found other files (firstUsable other files) := by
  induction files with
  | nil => exact .none .nil
  | cons file files ih =>
      obtain ⟨path, look⟩ := file
      rw [firstUsable]
      split
      · rename_i present
        cases loaded : load other path look with
        | ok s => exact .first .nil (usable_of_load present loaded)
        | error e => exact ih.unusable present (unusable_of_load present loaded)
      · rename_i absent
        exact ih.absent absent

theorem firstUsable_append (usable : Usable other look s) (path : String)
    (passed later : List (String × Look)) :
    firstUsable other (passed ++ (path, look) :: later) =
      firstUsable other (passed ++ [(path, look)]) := by
  induction passed with
  | nil =>
      rw [List.nil_append, List.nil_append, firstUsable, firstUsable, if_pos usable.1,
        if_pos usable.1, load_of_usable usable path]
  | cons file passed ih =>
      obtain ⟨path', look'⟩ := file
      rw [List.cons_append, List.cons_append, firstUsable, firstUsable, ih]

/-- The settings that are found are those of the first usable file, or others if there is none, with
the fields of the variables replaced. What is wrong with the files before it is reported first, then
what is wrong with the variables. -/
theorem search_found (other : Settings) (vars : Variables) (files : List (String × Look)) :
    ∃ found ignored, Found other files found ∧ Ignores vars ignored ∧
      (search other vars files).origin = found.origin ∧
      (search other vars files).problems = found.problems ++ ignored ∧
      (∀ s, Overridden vars found.settings s ↔ s = (search other vars files).settings) ∧
      ∀ passed path look later s, files = passed ++ (path, look) :: later → Usable other look s →
        search other vars files = search other vars (passed ++ [(path, look)]) := by
  refine ⟨firstUsable other files, ignoredOverrides vars, found_firstUsable other files,
    ignores_ignoredOverrides vars, rfl, rfl, fun s => overridden_iff, ?_⟩
  rintro passed path look later s rfl usable
  rw [search, search, firstUsable_append usable]

def sampleFiles : List (String × Look) :=
  [("a.toml", .error .missing), ("b.toml", .ok (Text.encode "cache")),
    ("c.toml", .ok (Text.encode "[source]\ncache = false\n[time]\ntimezone = 'UTC'\n")),
    ("d.toml", .ok (Text.encode "[time]\ngmt = true\n"))]

def sampleVariables : Variables :=
  [(kindVariable, "Oracle"), ("ARCHIVEQL_TIMEZONE", "Asia/Kolkata")]

theorem search_found_third :
    Usable (default []) (.ok (Text.encode "[source]\ncache = false\n[time]\ntimezone = 'UTC'\n"))
        ⟨⟨.csv, "./samples.csv", false, none, none⟩, ⟨"UTC", false⟩, ⟨"info", "pretty"⟩⟩ ∧
      search (default []) sampleVariables sampleFiles =
        search (default []) sampleVariables (sampleFiles.take 3) ∧
      (search (default []) sampleVariables sampleFiles).origin = some "c.toml" ∧
      (search (default []) sampleVariables sampleFiles).problems =
        [.malformed "b.toml", .unknownKind "oracle"] ∧
      (search (default []) sampleVariables sampleFiles).settings =
        ⟨⟨.csv, "./samples.csv", false, none, none⟩, ⟨"Asia/Kolkata", false⟩, ⟨"info", "pretty"⟩⟩ := by
  have usable : Usable (default [])
      (.ok (Text.encode "[source]\ncache = false\n[time]\ntimezone = 'UTC'\n"))
      ⟨⟨.csv, "./samples.csv", false, none, none⟩, ⟨"UTC", false⟩, ⟨"info", "pretty"⟩⟩ :=
    ⟨rfl, "[source]\ncache = false\n[time]\ntimezone = 'UTC'\n".toList, by cbv, by decide +kernel⟩
  obtain ⟨-, -, -, -, -, -, -, behind⟩ := search_found (default []) sampleVariables sampleFiles
  exact ⟨usable, behind (sampleFiles.take 2) _ _ _ _ rfl usable, by decide +kernel,
    by decide +kernel, by decide +kernel⟩

end SpanQuery.Settings
