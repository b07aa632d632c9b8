import SpanQuery.Proofs.Token.Classes

namespace SpanQuery

namespace Text

theorem byteSize_pos {s : List Char} (some : s ≠ []) : 0 < byteSize s :=
  Nat.pos_of_ne_zero fun size => some (eq_nil_of_byteSize size)

theorem prefix_of_byteSize_le {part whole s : List Char} (first : part <+: s) (second : whole <+: s)
    (le : byteSize part ≤ byteSize whole) : part <+: whole := by
  rcases List.prefix_or_prefix_of_prefix first second with shorter | ⟨more, rfl⟩
  · exact shorter
  · obtain rfl : more = [] := eq_nil_of_byteSize (by rw [byteSize_append] at le; omega)
    rw [List.append_nil]

theorem cons_of_append {s s' before behind : List Char} {c : Char}
    (h : s ++ s' = before ++ c :: behind) :
    (∃ rest, s = before ++ c :: rest) ∨ ∃ start, before = s ++ start ∧ s' = start ++ c :: behind := by
  rcases List.append_eq_append_iff.1 h with ⟨start, rfl, rfl⟩ | ⟨rest, rfl, same⟩
  · exact .inr ⟨start, rfl, rfl⟩
  · cases rest with
    | nil => exact .inr ⟨[], by simp, same.symm⟩
    | cons d rest =>
        obtain ⟨rfl, rfl⟩ := List.cons.inj same
        exact .inl ⟨rest, rfl⟩

end Text

namespace Lexer

theorem Visible.ne_nil {l : List Char} (h : Visible l) : l ≠ [] := by
  obtain ⟨c, cs, rfl, -⟩ := h
  exact List.cons_ne_nil c cs

/-! ## Segmentations -/

def Spans (t : Token) (place : Nat) : Prop :=
  t.offset ≤ place ∧ place < t.stop

/-- The text, which stands `offset` bytes into a query, is cut into such tokens and blanks. -/
structure Segmentation (offset : Nat) (s : List Char) (ts : List Token) : Prop where
  proper : ∀ t ∈ ts, t.offset < t.stop
  ordered : ts.Pairwise fun t u => t.offset < u.offset ∧ t.stop ≤ u.offset
  taken : ∀ t ∈ ts, ∃ before behind, s = before ++ (t.lexeme ++ behind) ∧
    t.offset = offset + Text.byteSize before ∧ Taken t.kind t.lexeme behind
  blank : ∀ before c behind, s = before ++ c :: behind →
    Text.isBlank c ∨ ∃ t ∈ ts, Spans t (offset + Text.byteSize before)

namespace Segmentation

variable {offset : Nat} {blanks behind s : List Char} {t : Token} {later : List Token}

theorem done (blank : ∀ c ∈ s, Text.isBlank c) : Segmentation offset s [] := by
  refine ⟨nofun, .nil, nofun, ?_⟩
  rintro before c behind rfl
  exact .inl (blank c (by simp))

theorem le_of_mem (h : Segmentation offset s later) (mem : t ∈ later) : offset ≤ t.offset := by
  obtain ⟨before, behind, -, start, -⟩ := h.taken t mem
  omega

theorem cons (blank : ∀ c ∈ blanks, Text.isBlank c) (taken : Taken t.kind t.lexeme behind)
    (some : t.lexeme ≠ []) (start : t.offset = offset + Text.byteSize blanks)
    (h : Segmentation t.stop behind later) :
    Segmentation offset (blanks ++ (t.lexeme ++ behind)) (t :: later) := by
  have pos := Text.byteSize_pos some
  have stop : t.stop = t.offset + Text.byteSize t.lexeme := rfl
  refine ⟨List.forall_mem_cons.2 ⟨by omega, h.proper⟩,
    List.pairwise_cons.2 ⟨fun u mem => ?_, h.ordered⟩, List.forall_mem_cons.2 ⟨?_, ?_⟩, ?_⟩
  · have le := h.le_of_mem mem
    omega
  · exact ⟨blanks, behind, rfl, start, taken⟩
  · intro u mem
    obtain ⟨before, rest, rfl, start', taken'⟩ := h.taken u mem
    refine ⟨blanks ++ (t.lexeme ++ before), rest, by simp, ?_, taken'⟩
    rw [Text.byteSize_append, Text.byteSize_append]
    omega
  · intro before c rest split
    -- The character stands in the blanks, in the token, or behind it.
    rcases Text.cons_of_append split with ⟨more, rfl⟩ | ⟨solid, rfl, split'⟩
    · exact .inl (blank c (by simp))
    rw [Text.byteSize_append]
    rcases Text.cons_of_append split' with ⟨more, lexeme⟩ | ⟨before, rfl, split''⟩
    · refine .inr ⟨t, List.mem_cons_self, by omega, ?_⟩
      have size := congrArg Text.byteSize lexeme
      rw [Text.byteSize_append, Text.byteSize] at size
      have pos := c.utf8Size_pos
      omega
    · refine (h.blank before c rest split'').imp_right ?_
      rintro ⟨u, mem, first, last⟩
      refine ⟨u, List.mem_cons_of_mem _ mem, ?_⟩
      rw [Text.byteSize_append, Spans]
      omega

theorem blank_before (h : Segmentation offset (blanks ++ s) (t :: later))
    (start : t.offset = offset + Text.byteSize blanks) : ∀ c ∈ blanks, Text.isBlank c := by
  intro c mem
  obtain ⟨before, rest, rfl⟩ := List.append_of_mem mem
  refine (h.blank before c (rest ++ s) (by simp)).resolve_right ?_
  rintro ⟨u, mem, first, -⟩
  -- No token begins before the first one, and that one only behind the character.
  have le : t.offset ≤ u.offset := by
    rcases List.mem_cons.1 mem with rfl | mem
    · exact Nat.le_refl _
    · exact Nat.le_of_lt ((List.pairwise_cons.1 h.ordered).1 u mem).1
  have pos := c.utf8Size_pos
  rw [Text.byteSize_append, Text.byteSize] at start
  omega

theorem tail (h : Segmentation offset (blanks ++ (t.lexeme ++ behind)) (t :: later))
    (start : t.offset = offset + Text.byteSize blanks) : Segmentation t.stop behind later := by
  obtain ⟨after, ordered⟩ := List.pairwise_cons.1 h.ordered
  have stop : t.stop = t.offset + Text.byteSize t.lexeme := rfl
  refine ⟨fun u mem => h.proper u (List.mem_cons_of_mem _ mem), ordered, fun u mem => ?_, ?_⟩
  · obtain ⟨before, rest, same, start', taken⟩ := h.taken u (List.mem_cons_of_mem _ mem)
    have le := (after u mem).2
    -- A later token begins behind the first, so the text before it begins with that one.
    obtain ⟨between, rfl⟩ : blanks ++ t.lexeme <+: before := by
      refine Text.prefix_of_byteSize_le ⟨behind, ?_⟩ ⟨_, same.symm⟩ ?_
      · rw [List.append_assoc]
      · rw [Text.byteSize_append]
        omega
    refine ⟨between, rest, ?_, ?_, taken⟩
    · simpa using same
    · rw [Text.byteSize_append, Text.byteSize_append] at start'
      omega
  · intro before c rest split
    refine (h.blank (blanks ++ (t.lexeme ++ before)) c rest (by simp [split])).imp_right ?_
    rw [Text.byteSize_append, Text.byteSize_append]
    rintro ⟨u, mem, first, last⟩
    rcases List.mem_cons.1 mem with rfl | mem
    · omega
    · exact ⟨u, mem, by omega, by omega⟩

end Segmentation

theorem segmentation_of_tokenized {offset : Nat} {s : List Char} {ts : List Token}
    (h : Tokenized offset s ts) : Segmentation offset s ts := by
  induction h with
  | done blank => exact .done blank
  | token blank lexeme ends start _ ih =>
      exact .cons blank (taken_of_lexeme lexeme ends) (visible_of_lexeme lexeme).ne_nil start ih

theorem tokenized_of_segmentation {offset : Nat} {s : List Char} {ts : List Token}
    (h : Segmentation offset s ts) : Tokenized offset s ts := by
  induction ts generalizing offset s with
  | nil =>
      refine .done fun c mem => ?_
      obtain ⟨before, behind, rfl⟩ := List.append_of_mem mem
      refine (h.blank before c behind rfl).resolve_right ?_
      rintro ⟨t, none, -⟩
      cases none
  | cons t later ih =>
      obtain ⟨blanks, behind, rfl, start, taken⟩ := h.taken t List.mem_cons_self
      exact .token (h.blank_before start) (lexeme_of_taken taken) (ends_of_taken taken) start
        (ih (h.tail start))

theorem segmentation_iff {offset : Nat} {s : List Char} {ts : List Token} :
    tokensFrom offset s = .ok ts ↔ Segmentation offset s ts :=
  tokensFrom_iff.trans ⟨segmentation_of_tokenized, tokenized_of_segmentation⟩

theorem tokens_lexeme {t : Token} (lexeme : Lexeme t.kind t.lexeme) :
    tokens t.lexeme = .ok [{ t with offset := 0 }] := by
  have alone := @Tokenized.token 0 [] [] { t with offset := 0 } [] (List.forall_mem_nil _) lexeme rfl
    rfl (.done (List.forall_mem_nil _))
  rw [List.nil_append, List.append_nil] at alone
  exact tokensFrom_iff.2 alone

/-! ## Turns -/

def turn (offset : Nat) (s : List Char) : Except SyntaxError (Option (Token × List Char)) :=
  match Text.trimStart s with
  | [] => .ok none
  | c :: rest => do
      let start := offset + Text.byteSize (s.takeWhile Text.isBlank)
      let (kind, n) ← classify start (c :: rest)
      .ok (some (⟨kind, (c :: rest).take n, start⟩, (c :: rest).drop n))

def tokensWithin : Nat → Nat → List Char → Option (Except SyntaxError (List Token))
  | 0, _, _ => none
  | turns + 1, offset, s =>
      match turn offset s with
      | .error e => some (.error e)
      | .ok none => some (.ok [])
      | .ok (some (t, behind)) => (tokensWithin turns t.stop behind).map (·.map (t :: ·))

theorem turn_of_blank {offset : Nat} {s : List Char} (h : Text.trimStart s = []) :
    turn offset s = .ok none := by
  rw [turn, h]

section

variable {offset : Nat} {s rest : List Char} {c : Char}

theorem turn_of_visible (h : Text.trimStart s = c :: rest) :
    turn offset s = (do
      let start := offset + Text.byteSize (s.takeWhile Text.isBlank)
      let (kind, n) ← classify start (c :: rest)
      .ok (some (⟨kind, (c :: rest).take n, start⟩, (c :: rest).drop n))) := by
  rw [turn, h]

theorem tokensFrom_of_visible (h : Text.trimStart s = c :: rest) :
    tokensFrom offset s = (do
      let start := offset + Text.byteSize (s.takeWhile Text.isBlank)
      let (kind, n) ← classify start (c :: rest)
      let later ← tokensFrom (start + Text.byteSize ((c :: rest).take n)) (rest.drop (n - 1))
      .ok (⟨kind, (c :: rest).take n, start⟩ :: later)) := by
  rw [tokensFrom]
  split
  · rename_i blank
    rw [h] at blank
    cases blank
  · rename_i trimmed
    rw [h] at trimmed
    cases trimmed
    rfl

end

theorem read_of_turn {offset : Nat} {s behind : List Char} {t : Token}
    (h : turn offset s = .ok (some (t, behind))) :
    ∃ blanks, s = blanks ++ (t.lexeme ++ behind) ∧ t.offset = offset + Text.byteSize blanks ∧
      Lexeme t.kind t.lexeme := by
  cases trimmed : Text.trimStart s with
  | nil =>
      rw [turn_of_blank trimmed] at h
      cases h
  | cons c rest =>
      rw [turn_of_visible trimmed] at h
      obtain ⟨⟨kind, n⟩, token, h⟩ := Parser.ok_of_bind h
      cases h
      obtain ⟨l, behind, same, taken, -, lexeme, -⟩ := exists_lexeme token
      refine ⟨s.takeWhile Text.isBlank, ?_, rfl, taken ▸ lexeme⟩
      rw [List.take_append_drop, takeWhile_isBlank_append trimmed]

theorem consumed_of_turn {offset : Nat} {s behind : List Char} {t : Token}
    (h : turn offset s = .ok (some (t, behind))) :
    offset ≤ t.offset ∧ t.offset < t.stop ∧
      t.stop + Text.byteSize behind = offset + Text.byteSize s := by
  obtain ⟨blanks, rfl, start, lexeme⟩ := read_of_turn h
  have pos := Text.byteSize_pos (visible_of_lexeme lexeme).ne_nil
  rw [Text.byteSize_append, Text.byteSize_append, Token.stop]
  omega

theorem tokensFrom_turn (offset : Nat) (s : List Char) :
    tokensFrom offset s = match turn offset s with
      | .error e => .error e
      | .ok none => .ok []
      | .ok (some (t, behind)) => (tokensFrom t.stop behind).map (t :: ·) := by
  cases trimmed : Text.trimStart s with
  | nil => rw [turn_of_blank trimmed, tokensFrom_of_blank trimmed]
  | cons c rest =>
      rw [turn_of_visible trimmed, tokensFrom_of_visible trimmed]
      dsimp only
      cases token : classify (offset + Text.byteSize (s.takeWhile Text.isBlank)) (c :: rest) with
      | error e => rfl
      | ok read =>
          obtain ⟨kind, n⟩ := read
          obtain ⟨l, behind, same, taken, left, -, -⟩ := exists_lexeme token
          have dropped : (c :: rest).drop n = behind := by
            have whole := List.take_append_drop n (c :: rest)
            rw [taken] at whole
            exact List.append_cancel_left (whole.trans same)
          change (tokensFrom _ (rest.drop (n - 1)) >>= _) = (tokensFrom _ ((c :: rest).drop n)).map _
          rw [left, dropped]
          exact bind_pure_comp _ _

theorem tokensWithin_eq {turns offset : Nat} {s : List Char} (enough : Text.byteSize s < turns) :
    tokensWithin turns offset s = some (tokensFrom offset s) := by
  induction turns generalizing offset s with
  | zero => omega
  | succ turns ih =>
      rw [tokensWithin, tokensFrom_turn]
      cases taken : turn offset s with
      | error e => rfl
      | ok read =>
          cases read with
          | none => rfl
          | some read =>
              obtain ⟨t, behind⟩ := read
              obtain ⟨after, proper, whole⟩ := consumed_of_turn taken
              dsimp only
              rw [ih (by omega), Option.map_some]

/-- The tokens of a text are its one segmentation by longest lexemes, and each is the only token of its
lexeme. Reading ends for every text, as every turn takes a token of at least a byte. -/
theorem tokens_segmentation (s : List Char) :
    (∀ ts, tokens s = .ok ts ↔ Segmentation 0 s ts) ∧
    (∀ ts, tokens s = .ok ts → ∀ t ∈ ts, tokens t.lexeme = .ok [{ t with offset := 0 }]) ∧
    (∀ offset left t behind, turn offset left = .ok (some (t, behind)) →
      offset ≤ t.offset ∧ t.offset < t.stop ∧
        t.stop + Text.byteSize behind = offset + Text.byteSize left) ∧
    ∀ turns, Text.byteSize s < turns → tokensWithin turns 0 s = some (tokens s) := by
  refine ⟨fun ts => segmentation_iff, fun ts read t mem => ?_, fun _ _ _ _ => consumed_of_turn,
    fun turns => tokensWithin_eq⟩
  obtain ⟨before, behind, -, -, taken⟩ := (segmentation_iff.1 read).taken t mem
  exact tokens_lexeme (lexeme_of_taken taken)

theorem tokens_segmentation_point :
    tokens ".5e-1\u2003<=".toList = .ok [⟨.number (Decimal.scaled 5 (-2)), ".5e-1".toList, 0⟩,
        ⟨.symbol .lte, ['<', '='], 8⟩] ∧
      Segmentation 0 ".5e-1\u2003<=".toList [⟨.number (Decimal.scaled 5 (-2)), ".5e-1".toList, 0⟩,
        ⟨.symbol .lte, ['<', '='], 8⟩] ∧
      tokens ['<', '='] = .ok [⟨.symbol .lte, ['<', '='], 0⟩] ∧
      turn 5 "\u2003<=".toList = .ok (some (⟨.symbol .lte, ['<', '='], 8⟩, [])) ∧
      8 + Text.byteSize ['<', '='] + Text.byteSize [] = 5 + Text.byteSize "\u2003<=".toList ∧
      tokensWithin 11 0 ".5e-1\u2003<=".toList = some (tokens ".5e-1\u2003<=".toList) := by
  have read : tokens ".5e-1\u2003<=".toList = .ok
      [⟨.number (Decimal.scaled 5 (-2)), ".5e-1".toList, 0⟩, ⟨.symbol .lte, ['<', '='], 8⟩] := by
    iterate 2 refine tokensFrom_of_token rfl rfl rfl rfl ?_
    exact tokensFrom_of_blank rfl
  have taken : turn 5 "\u2003<=".toList = .ok (some (⟨.symbol .lte, ['<', '='], 8⟩, [])) := rfl
  obtain ⟨cut, alone, consumed, ends⟩ := tokens_segmentation ".5e-1\u2003<=".toList
  exact ⟨read, (cut _).1 read, alone _ read _ (List.mem_cons_of_mem _ List.mem_cons_self), taken,
    (consumed _ _ _ _ taken).2.2, ends 11 (by decide)⟩

end Lexer

end SpanQuery
