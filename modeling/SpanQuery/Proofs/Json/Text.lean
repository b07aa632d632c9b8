import Mathlib.Tactic.IntervalCases
import SpanQuery.Json.Reader

namespace SpanQuery.Json

/-! ## Strings -/

theorem stringBody_marked {mark c : Char} (unit : mark ≠ 'u') (escaped : escaped? mark = some c)
    (rest : List Char) :
    stringBody ('\\' :: mark :: rest) = (stringBody rest).map fun (s, rest) => (c :: s, rest) := by
  rw [stringBody.eq_def]
  split
  · rename_i same
    cases same
  · rename_i same
    exact absurd (List.cons.inj (List.cons.inj same).2).1 unit
  · rename_i same
    obtain ⟨rfl, rfl⟩ := List.cons.inj (List.cons.inj same).2
    rw [escaped]
    cases stringBody _ <;> rfl
  · rename_i alone same
    obtain ⟨rfl, rfl⟩ := List.cons.inj same
    exact (alone _ _ rfl rfl).elim
  · rename_i same
    cases same

theorem stringBody_plain {c : Char} (quote : c ≠ '"') (backslash : c ≠ '\\')
    (visible : 0x20 ≤ c.toNat) (rest : List Char) :
    stringBody (c :: rest) = (stringBody rest).map fun (s, rest) => (c :: s, rest) := by
  rw [stringBody.eq_def]
  split
  · rename_i same
    exact absurd (List.cons.inj same).1 quote
  · rename_i same
    exact absurd (List.cons.inj same).1 backslash
  · rename_i same
    exact absurd (List.cons.inj same).1 backslash
  · rename_i same
    obtain ⟨rfl, rfl⟩ := List.cons.inj same
    have plain : ¬ (c == '\\' || decide (c.toNat < 0x20)) := by
      simp [backslash, visible]
    rw [if_neg plain]
    cases stringBody _ <;> rfl
  · rename_i same
    cases same

theorem unit?_hexEscape {n : Nat} (control : n < 0x20) :
    ∃ a b c d, hexEscape n = ['\\', 'u', a, b, c, d] ∧ unit? a b c d = some n := by
  interval_cases n
  all_goals exact ⟨_, _, _, _, rfl, rfl⟩

theorem stringBody_hexEscape {c : Char} (control : c.toNat < 0x20) (rest : List Char) :
    stringBody (hexEscape c.toNat ++ rest) =
      (stringBody rest).map fun (s, rest) => (c :: s, rest) := by
  obtain ⟨u, v, w, x, escape, unit⟩ := unit?_hexEscape control
  have low : isLowSurrogate c.toNat = false := by
    simp only [isLowSurrogate, Bool.and_eq_false_iff, decide_eq_false_iff_not]
    omega
  have high : isHighSurrogate c.toNat = false := by
    simp only [isHighSurrogate, Bool.and_eq_false_iff, decide_eq_false_iff_not]
    omega
  rw [escape]
  change stringBody ('\\' :: 'u' :: u :: v :: w :: x :: rest) = _
  rw [stringBody, unit]
  simp only [Option.bind_eq_bind, Option.bind_some, low, high, Bool.false_eq_true, if_false,
    Char.ofNat_toNat]
  cases stringBody rest <;> rfl

theorem stringBody_escapeChar (c : Char) (rest : List Char) :
    stringBody (escapeChar c ++ rest) = (stringBody rest).map fun (s, rest) => (c :: s, rest) := by
  unfold escapeChar
  split
  case h_8 =>
    split
    · exact stringBody_hexEscape ‹_› rest
    · exact stringBody_plain ‹_› ‹_› (by omega) rest
  all_goals exact stringBody_marked (by decide) rfl rest

theorem stringBody_escaped (s rest : List Char) :
    stringBody (s.flatMap escapeChar ++ '"' :: rest) = some (s, rest) := by
  induction s with
  | nil => rw [List.flatMap_nil, List.nil_append, stringBody]
  | cons c s ih =>
      rw [List.flatMap_cons, List.append_assoc, stringBody_escapeChar, ih]
      rfl

theorem stringBody_quoted (s : String) (rest : List Char) :
    ∃ body, quoted s ++ rest = '"' :: body ∧ stringBody body = some (s.toList, rest) := by
  refine ⟨s.toList.flatMap escapeChar ++ '"' :: rest, ?_, stringBody_escaped s.toList rest⟩
  simp [quoted]

/-! ## Depth -/

mutual

def depth : Json → Nat
  | .array items => depthItems items + 1
  | .object fields => depthFields fields + 1
  | _ => 0

def depthItems : List Json → Nat
  | [] => 0
  | j :: js => max j.depth (depthItems js)

def depthFields : List (String × Json) → Nat
  | [] => 0
  | (_, j) :: fields => max j.depth (depthFields fields)

end

/-! ## Texts -/

def IsBlank (s : List Char) : Prop :=
  ∀ c ∈ s, isBlank c

def Closed : List Char → Prop
  | [] => True
  | c :: _ => c ∈ [',', ']', '\x7d', ' ', '\t', '\n', '\r']

structure IsNumber (lexeme : List Char) : Prop where
  first : ∃ c cs, lexeme = c :: cs ∧ c ∈ "-0123456789".toList
  reads {rest : List Char} : Closed rest → numberPart? (lexeme ++ rest) = some (lexeme, rest)

mutual

/-- Texts of a value, from its first character to its last. -/
inductive IsText : Json → List Char → Prop where
  | null : IsText .null "null".toList
  | bool (b : Bool) : IsText (.bool b) (compact (.bool b))
  | number {lexeme : List Char} : IsNumber lexeme → IsText (.number lexeme) lexeme
  | string (s : String) : IsText (.string s) (quoted s)
  | emptyArray : IsText (.array []) ['[', ']']
  | array {items : List Json} {s : List Char} : AreItems items s →
      IsText (.array items) ('[' :: s ++ [']'])
  | emptyObject : IsText (.object []) ['\x7b', '\x7d']
  | object {fields : List (String × Json)} {s : List Char} : AreFields fields s →
      IsText (.object fields) ('\x7b' :: s ++ ['\x7d'])

inductive AreItems : List Json → List Char → Prop where
  | last {before s after : List Char} {j : Json} :
      IsBlank before → IsText j s → IsBlank after → AreItems [j] (before ++ (s ++ after))
  | more {before s after t : List Char} {j : Json} {js : List Json} :
      IsBlank before → IsText j s → IsBlank after → AreItems js t →
      AreItems (j :: js) (before ++ (s ++ (after ++ ',' :: t)))

inductive AreFields : List (String × Json) → List Char → Prop where
  | last (key : String) {before inner s after : List Char} {j : Json} :
      IsBlank before → IsBlank inner → IsText j s → IsBlank after →
      AreFields [(key, j)] (before ++ (quoted key ++ ':' :: (inner ++ (s ++ after))))
  | more (key : String) {before inner s after t : List Char} {j : Json}
      {fields : List (String × Json)} :
      IsBlank before → IsBlank inner → IsText j s → IsBlank after → AreFields fields t →
      AreFields ((key, j) :: fields)
        (before ++ (quoted key ++ ':' :: (inner ++ (s ++ (after ++ ',' :: t)))))

end

theorem isBlank_nil : IsBlank [] :=
  List.forall_mem_nil _

theorem isBlank_newLine (level : Nat) : IsBlank (newLine level) := by
  refine List.forall_mem_cons.2 ⟨rfl, fun c mem => ?_⟩
  rw [List.eq_of_mem_replicate mem]
  rfl

theorem skipBlanks_cons {c : Char} (visible : isBlank c = false) (s : List Char) :
    skipBlanks (c :: s) = c :: s := by
  rw [skipBlanks, List.dropWhile_cons, visible]
  rfl

theorem skipBlanks_append {before : List Char} (blank : IsBlank before) (s : List Char) :
    skipBlanks (before ++ s) = skipBlanks s :=
  List.dropWhile_append_of_pos blank

theorem Closed.append {after : List Char} (blank : IsBlank after) {rest : List Char}
    (closed : Closed rest) : Closed (after ++ rest) := by
  cases after with
  | nil => exact closed
  | cons c after =>
      have one := blank c List.mem_cons_self
      simp only [isBlank, Bool.or_eq_true, beq_iff_eq] at one
      change c ∈ _
      simp only [List.mem_cons, List.not_mem_nil, or_false]
      tauto

theorem IsNumber.head {lexeme : List Char} (h : IsNumber lexeme) :
    ∃ c cs, lexeme = c :: cs ∧ isBlank c = false ∧ c ≠ ']' ∧ c ≠ '[' ∧ c ≠ '\x7b' := by
  obtain ⟨c, cs, rfl, mem⟩ := h.first
  have others : "-0123456789".toList.all fun c =>
      !isBlank c && (c != ']' && (c != '[' && c != '\x7b')) := by decide
  have other := List.all_eq_true.1 others c mem
  simp only [Bool.and_eq_true, Bool.not_eq_true', bne_iff_ne] at other
  exact ⟨c, cs, rfl, other⟩

theorem IsText.first {j : Json} {s : List Char} (h : IsText j s) :
    ∃ c cs, s = c :: cs ∧ isBlank c = false ∧ c ≠ ']' := by
  cases h with
  | null => exact ⟨'n', _, rfl, by decide, by decide⟩
  | bool b =>
      cases b
      · exact ⟨'f', _, rfl, by decide, by decide⟩
      · exact ⟨'t', _, rfl, by decide, by decide⟩
  | number number =>
      obtain ⟨c, cs, rfl, visible, other, -⟩ := number.head
      exact ⟨c, cs, rfl, visible, other⟩
  | string s => exact ⟨'"', _, rfl, by decide, by decide⟩
  | emptyArray | array => exact ⟨'[', _, rfl, by decide, by decide⟩
  | emptyObject | object => exact ⟨'\x7b', _, rfl, by decide, by decide⟩

theorem AreItems.first {items : List Json} {s : List Char} (h : AreItems items s)
    (rest : List Char) : ∃ c cs, skipBlanks (s ++ rest) = c :: cs ∧ c ≠ ']' := by
  cases h with
  | last blank text =>
      obtain ⟨c, cs, rfl, visible, other⟩ := text.first
      rw [List.append_assoc, skipBlanks_append blank]
      exact ⟨c, _, skipBlanks_cons visible _, other⟩
  | more blank text =>
      obtain ⟨c, cs, rfl, visible, other⟩ := text.first
      rw [List.append_assoc, skipBlanks_append blank]
      exact ⟨c, _, skipBlanks_cons visible _, other⟩

theorem AreFields.first {fields : List (String × Json)} {s : List Char} (h : AreFields fields s)
    (rest : List Char) : ∃ cs, skipBlanks (s ++ rest) = '"' :: cs := by
  cases h with
  | last _ blank =>
      rw [List.append_assoc, skipBlanks_append blank]
      exact ⟨_, rfl⟩
  | more _ blank =>
      rw [List.append_assoc, skipBlanks_append blank]
      exact ⟨_, rfl⟩

/-! ## Written texts -/

inductive Valid : Json → Prop where
  | null : Valid .null
  | bool (b : Bool) : Valid (.bool b)
  | number {lexeme : List Char} : IsNumber lexeme → Valid (.number lexeme)
  | string (s : String) : Valid (.string s)
  | array {items : List Json} : (∀ j ∈ items, Valid j) → Valid (.array items)
  | object {fields : List (String × Json)} : (∀ f ∈ fields, Valid f.2) → Valid (.object fields)

theorem areItems_compactItems {j : Json} {js : List Json}
    (texts : ∀ i ∈ j :: js, IsText i i.compact) : AreItems (j :: js) (compactItems (j :: js)) := by
  induction js generalizing j with
  | nil =>
      have text := AreItems.last isBlank_nil (texts j List.mem_cons_self) isBlank_nil
      rwa [List.nil_append, List.append_nil] at text
  | cons k ks ih =>
      have later := ih fun i mem => texts i (List.mem_cons_of_mem j mem)
      exact .more isBlank_nil (texts j List.mem_cons_self) isBlank_nil later

theorem areFields_compactFields {f : String × Json} {fs : List (String × Json)}
    (texts : ∀ g ∈ f :: fs, IsText g.2 g.2.compact) :
    AreFields (f :: fs) (compactFields (f :: fs)) := by
  induction fs generalizing f with
  | nil =>
      have text := AreFields.last f.1 isBlank_nil isBlank_nil
        (texts f List.mem_cons_self) isBlank_nil
      rwa [List.nil_append, List.nil_append, List.append_nil] at text
  | cons g gs ih =>
      have later := ih fun h mem => texts h (List.mem_cons_of_mem f mem)
      have text := AreFields.more f.1 isBlank_nil isBlank_nil
        (texts f List.mem_cons_self) isBlank_nil later
      simpa only [compactFields, List.nil_append, List.append_assoc, List.cons_append] using text

theorem Valid.compact {j : Json} (h : j.Valid) : IsText j j.compact := by
  induction h with
  | null => exact .null
  | bool b => exact .bool b
  | number number => exact .number number
  | string s => exact .string s
  | @array items _ ih =>
      cases items with
      | nil => exact .emptyArray
      | cons j js => exact .array (areItems_compactItems ih)
  | @object fields _ ih =>
      cases fields with
      | nil => exact .emptyObject
      | cons f fs => exact .object (areFields_compactFields ih)

theorem areItems_prettyItems {level : Nat} {j : Json} {js : List Json}
    (texts : ∀ i ∈ j :: js, IsText i (i.pretty level)) (outer : Nat) :
    AreItems (j :: js) (prettyItems level (j :: js) ++ newLine outer) := by
  have blank := isBlank_newLine level
  induction js generalizing j with
  | nil =>
      have text := AreItems.last blank (texts j List.mem_cons_self) (isBlank_newLine outer)
      simpa only [prettyItems, List.append_assoc] using text
  | cons k ks ih =>
      have later := ih fun i mem => texts i (List.mem_cons_of_mem j mem)
      have text := AreItems.more blank (texts j List.mem_cons_self) isBlank_nil later
      simpa only [prettyItems, List.append_assoc, List.nil_append, List.cons_append] using text

theorem areFields_prettyFields {level : Nat} {f : String × Json} {fs : List (String × Json)}
    (texts : ∀ g ∈ f :: fs, IsText g.2 (g.2.pretty level)) (outer : Nat) :
    AreFields (f :: fs) (prettyFields level (f :: fs) ++ newLine outer) := by
  have blank := isBlank_newLine level
  have inner : IsBlank [' '] := List.forall_mem_singleton.2 rfl
  induction fs generalizing f with
  | nil =>
      have text := AreFields.last f.1 blank inner
        (texts f List.mem_cons_self) (isBlank_newLine outer)
      simpa only [prettyFields, List.append_assoc, List.cons_append, List.nil_append] using text
  | cons g gs ih =>
      have later := ih fun h mem => texts h (List.mem_cons_of_mem f mem)
      have text := AreFields.more f.1 blank inner
        (texts f List.mem_cons_self) isBlank_nil later
      simpa only [prettyFields, List.append_assoc, List.cons_append, List.nil_append] using text

theorem Valid.pretty {j : Json} (h : j.Valid) (level : Nat) : IsText j (j.pretty level) := by
  induction h generalizing level with
  | null => exact .null
  | bool b => exact .bool b
  | number number => exact .number number
  | string s => exact .string s
  | @array items _ ih =>
      cases items with
      | nil => exact .emptyArray
      | cons j js =>
          exact .array (areItems_prettyItems (fun i mem => ih i mem (level + 1)) level)
  | @object fields _ ih =>
      cases fields with
      | nil => exact .emptyObject
      | cons f fs =>
          exact .object (areFields_prettyFields (fun g mem => ih g mem (level + 1)) level)

/-! ## Reading -/

theorem readValue_scalar {before : List Char} (blank : IsBlank before) {c : Char}
    (visible : isBlank c = false) (bracket : c ≠ '[') (brace : c ≠ '\x7b') (depth : Nat)
    (s : List Char) : readValue depth (before ++ c :: s) = readScalar (c :: s) := by
  rw [readValue.eq_def]
  dsimp only
  rw [skipBlanks_append blank, skipBlanks_cons visible]
  split
  · rename_i same
    exact absurd (List.cons.inj same).1 bracket
  · rename_i same
    exact absurd (List.cons.inj same).1 brace
  · rename_i same
    exact absurd (List.cons.inj same).1 bracket
  · rename_i same
    exact absurd (List.cons.inj same).1 brace
  · rfl

theorem readScalar_number {lexeme rest : List Char} (number : IsNumber lexeme)
    (closed : Closed rest) : readScalar (lexeme ++ rest) = some (.number lexeme, rest) := by
  have reads := number.reads closed
  obtain ⟨c, cs, rfl, mem⟩ := number.first
  rw [List.cons_append] at reads ⊢
  unfold readScalar
  split
  case h_5 =>
    rw [reads]
    rfl
  all_goals
    rename_i same
    rw [(List.cons.inj same).1] at mem
    exact absurd mem (by decide)

theorem readScalar_quoted (s : String) (rest : List Char) :
    readScalar (quoted s ++ rest) = some (.string s, rest) := by
  obtain ⟨body, text, reads⟩ := stringBody_quoted s rest
  rw [text]
  unfold readScalar
  simp [reads]

/-- The reader takes the text in front of what ends it as the value just if that is not too
deep. -/
def Reads (item : Reader Json) (limit : Nat) (j : Json) (s : List Char) : Prop :=
  ∀ {before rest}, IsBlank before → Closed rest →
    item (before ++ (s ++ rest)) = if j.depth ≤ limit then some (j, rest) else none

theorem limited_bind {α β : Type} {a b limit : Nat} (shallow : a ≤ limit) {x : α} {y : β}
    {f : α → Option β} (reads : f x = some y) :
    (if b ≤ limit then some x else none) >>= f = if max a b ≤ limit then some y else none := by
  by_cases deep : b ≤ limit
  · rw [if_pos deep, if_pos (Nat.max_le.2 ⟨shallow, deep⟩)]
    exact reads
  · rw [if_neg deep, if_neg fun both => deep (Nat.max_le.1 both).2]
    rfl

section Items
variable {item : Reader Json} {limit : Nat} {before inner s after t : List Char}
  {key : String} {j : Json}

theorem readItems_last (blank : IsBlank before) (reads : Reads item limit j s)
    (behind : IsBlank after) (rest : List Char) :
    readItems item (before ++ (s ++ after) ++ ']' :: rest) =
      if depthItems [j] ≤ limit then some ([j], rest) else none := by
  have closed : Closed (after ++ ']' :: rest) := .append behind (by simp [Closed])
  have head := reads blank closed
  have text : before ++ (s ++ after) ++ ']' :: rest = before ++ (s ++ (after ++ ']' :: rest)) := by
    simp only [List.append_assoc]
  rw [text, readItems, head, depthItems, depthItems, Nat.max_zero]
  by_cases shallow : j.depth ≤ limit
  · simp only [if_pos shallow, skipBlanks_append behind, skipBlanks_cons (c := ']') (by decide)]
  · simp only [if_neg shallow]

theorem readItems_more (blank : IsBlank before) (reads : Reads item limit j s)
    (behind : IsBlank after) {js : List Json} {rest : List Char}
    (later : readItems item (t ++ ']' :: rest) =
      if depthItems js ≤ limit then some (js, rest) else none) :
    readItems item (before ++ (s ++ (after ++ ',' :: t)) ++ ']' :: rest) =
      if depthItems (j :: js) ≤ limit then some (j :: js, rest) else none := by
  have closed : Closed (after ++ ',' :: (t ++ ']' :: rest)) := .append behind (by simp [Closed])
  have head := reads blank closed
  have text : before ++ (s ++ (after ++ ',' :: t)) ++ ']' :: rest =
      before ++ (s ++ (after ++ ',' :: (t ++ ']' :: rest))) := by
    simp only [List.append_assoc, List.cons_append]
  have shorter : (t ++ ']' :: rest).length <
      (before ++ (s ++ (after ++ ',' :: (t ++ ']' :: rest)))).length := by
    simp only [List.length_append, List.length_cons]
    omega
  rw [text, readItems, head, depthItems]
  by_cases shallow : j.depth ≤ limit
  · simp only [if_pos shallow, skipBlanks_append behind, skipBlanks_cons (c := ',') (by decide),
      if_pos shorter, later]
    exact limited_bind shallow rfl
  · simp only [if_neg shallow]
    rw [if_neg fun both => shallow (Nat.max_le.1 both).1]

theorem readField_text (key : String) (blank : IsBlank before) (between : IsBlank inner)
    (reads : Reads item limit j s) {rest : List Char} (closed : Closed rest) :
    readField item (before ++ (quoted key ++ ':' :: (inner ++ (s ++ rest)))) =
      if j.depth ≤ limit then some ((key, j), rest) else none := by
  obtain ⟨body, text, string⟩ := stringBody_quoted key (':' :: (inner ++ (s ++ rest)))
  have value := reads between closed
  rw [text, readField, skipBlanks_append blank, skipBlanks_cons (by decide)]
  simp only [string, Option.bind_eq_bind, Option.bind_some, skipBlanks_cons (c := ':') (by decide),
    value, String.ofList_toList]
  split <;> rfl

theorem readFields_last (blank : IsBlank before) (between : IsBlank inner)
    (reads : Reads item limit j s) (behind : IsBlank after) (rest : List Char) :
    readFields item (before ++ (quoted key ++ ':' :: (inner ++ (s ++ after))) ++ '\x7d' :: rest) =
      if depthFields [(key, j)] ≤ limit then some ([(key, j)], rest) else none := by
  have closed : Closed (after ++ '\x7d' :: rest) := .append behind (by simp [Closed])
  have head := readField_text key blank between reads closed
  have text : before ++ (quoted key ++ ':' :: (inner ++ (s ++ after))) ++ '\x7d' :: rest =
      before ++ (quoted key ++ ':' :: (inner ++ (s ++ (after ++ '\x7d' :: rest)))) := by
    simp only [List.append_assoc, List.cons_append]
  rw [text, readFields, head, depthFields, depthFields, Nat.max_zero]
  by_cases shallow : j.depth ≤ limit
  · simp only [if_pos shallow, skipBlanks_append behind, skipBlanks_cons (c := '\x7d') (by decide)]
  · simp only [if_neg shallow]

theorem readFields_more (blank : IsBlank before) (between : IsBlank inner)
    (reads : Reads item limit j s) (behind : IsBlank after) {fields : List (String × Json)}
    {rest : List Char} (later : readFields item (t ++ '\x7d' :: rest) =
      if depthFields fields ≤ limit then some (fields, rest) else none) :
    readFields item
        (before ++ (quoted key ++ ':' :: (inner ++ (s ++ (after ++ ',' :: t)))) ++ '\x7d' :: rest) =
      if depthFields ((key, j) :: fields) ≤ limit then some ((key, j) :: fields, rest)
      else none := by
  have closed : Closed (after ++ ',' :: (t ++ '\x7d' :: rest)) := .append behind (by simp [Closed])
  have head := readField_text key blank between reads closed
  have text : before ++ (quoted key ++ ':' :: (inner ++ (s ++ (after ++ ',' :: t)))) ++
      '\x7d' :: rest = before ++ (quoted key ++ ':' :: (inner ++ (s ++
        (after ++ ',' :: (t ++ '\x7d' :: rest))))) := by
    simp only [List.append_assoc, List.cons_append]
  have shorter : (t ++ '\x7d' :: rest).length < (before ++ (quoted key ++ ':' :: (inner ++ (s ++
      (after ++ ',' :: (t ++ '\x7d' :: rest)))))).length := by
    simp only [List.length_append, List.length_cons]
    omega
  rw [text, readFields, head, depthFields]
  by_cases shallow : j.depth ≤ limit
  · simp only [if_pos shallow, skipBlanks_append behind, skipBlanks_cons (c := ',') (by decide),
      if_pos shorter, later]
    exact limited_bind shallow rfl
  · simp only [if_neg shallow]
    rw [if_neg fun both => shallow (Nat.max_le.1 both).1]

end Items

theorem reads_array {items : List Json} {s : List Char} (text : AreItems items s)
    (reads : ∀ depth rest, readItems (readValue depth) (s ++ ']' :: rest) =
      if depthItems items ≤ depth then some (items, rest) else none) (depth : Nat) :
    Reads (readValue depth) depth (.array items) ('[' :: s ++ [']']) := by
  intro before rest blank _
  have whole : before ++ ('[' :: s ++ [']'] ++ rest) = before ++ '[' :: (s ++ ']' :: rest) := by
    simp only [List.append_assoc, List.cons_append, List.nil_append]
  rw [whole, readValue.eq_def]
  dsimp only
  rw [skipBlanks_append blank, skipBlanks_cons (by decide), Json.depth]
  cases depth with
  | zero => rfl
  | succ depth =>
      obtain ⟨c, cs, first, other⟩ := text.first (']' :: rest)
      simp only [Nat.add_le_add_iff_right, first]
      split
      · rename_i same
        exact absurd (List.cons.inj same).1 other
      · rw [reads]
        split <;> rfl

theorem reads_object {fields : List (String × Json)} {s : List Char} (text : AreFields fields s)
    (reads : ∀ depth rest, readFields (readValue depth) (s ++ '\x7d' :: rest) =
      if depthFields fields ≤ depth then some (fields, rest) else none) (depth : Nat) :
    Reads (readValue depth) depth (.object fields) ('\x7b' :: s ++ ['\x7d']) := by
  intro before rest blank _
  have whole : before ++ ('\x7b' :: s ++ ['\x7d'] ++ rest) =
      before ++ '\x7b' :: (s ++ '\x7d' :: rest) := by
    simp only [List.append_assoc, List.cons_append, List.nil_append]
  rw [whole, readValue.eq_def]
  dsimp only
  rw [skipBlanks_append blank, skipBlanks_cons (by decide), Json.depth]
  cases depth with
  | zero => rfl
  | succ depth =>
      obtain ⟨cs, first⟩ := text.first ('\x7d' :: rest)
      simp only [Nat.add_le_add_iff_right, first]
      split
      · rename_i same
        exact absurd (List.cons.inj same).1 (by decide)
      · rw [reads]
        split <;> rfl

theorem reads_emptyArray (depth : Nat) :
    Reads (readValue depth) depth (.array []) ['[', ']'] := by
  intro before rest blank _
  rw [readValue.eq_def, List.cons_append]
  dsimp only
  rw [skipBlanks_append blank, skipBlanks_cons (by decide)]
  cases depth <;> rfl

theorem reads_emptyObject (depth : Nat) :
    Reads (readValue depth) depth (.object []) ['\x7b', '\x7d'] := by
  intro before rest blank _
  rw [readValue.eq_def, List.cons_append]
  dsimp only
  rw [skipBlanks_append blank, skipBlanks_cons (by decide)]
  cases depth <;> rfl

-- By the derivation of the text; the steps above take one container or one item each, for every
-- depth, since the depth that is left shrinks on the way in.
mutual

theorem IsText.reads {j : Json} {s : List Char} (h : IsText j s) (depth : Nat) :
    Reads (readValue depth) depth j s := by
  cases h with
  | null =>
      intro before rest blank _
      exact readValue_scalar blank (by decide) (by decide) (by decide) depth _
  | bool b =>
      intro before rest blank _
      cases b
      · exact readValue_scalar blank (by decide) (by decide) (by decide) depth _
      · exact readValue_scalar blank (by decide) (by decide) (by decide) depth _
  | number number =>
      intro before rest blank closed
      have scalar := readScalar_number number closed
      obtain ⟨c, cs, rfl, visible, -, bracket, brace⟩ := number.head
      exact (readValue_scalar blank visible bracket brace depth _).trans scalar
  | string s =>
      intro before rest blank _
      exact (readValue_scalar blank (by decide) (by decide) (by decide) depth _).trans
        (readScalar_quoted s rest)
  | emptyArray => exact reads_emptyArray depth
  | array items => exact reads_array items items.reads depth
  | emptyObject => exact reads_emptyObject depth
  | object fields => exact reads_object fields fields.reads depth

theorem AreItems.reads {items : List Json} {s : List Char} (h : AreItems items s) (depth : Nat)
    (rest : List Char) : readItems (readValue depth) (s ++ ']' :: rest) =
      if depthItems items ≤ depth then some (items, rest) else none := by
  cases h with
  | last before text after => exact readItems_last before (text.reads depth) after rest
  | more before text after items =>
      exact readItems_more before (text.reads depth) after (items.reads depth rest)

theorem AreFields.reads {fields : List (String × Json)} {s : List Char} (h : AreFields fields s)
    (depth : Nat) (rest : List Char) : readFields (readValue depth) (s ++ '\x7d' :: rest) =
      if depthFields fields ≤ depth then some (fields, rest) else none := by
  cases h with
  | last key before inner text after =>
      exact readFields_last before inner (text.reads depth) after rest
  | more key before inner text after fields =>
      exact readFields_more before inner (text.reads depth) after (fields.reads depth rest)

end

theorem IsText.ofText? {j : Json} {s : List Char} (h : IsText j s) :
    Json.ofText? (String.ofList s) = if j.depth ≤ maxDepth then some j else none := by
  have reads : readValue maxDepth ([] ++ (s ++ [])) = _ := h.reads maxDepth isBlank_nil trivial
  rw [List.nil_append, List.append_nil] at reads
  rw [Json.ofText?, String.toList_ofList, ofChars?, reads]
  split <;> rfl

end SpanQuery.Json
