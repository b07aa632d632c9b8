import SpanQuery.Proofs.Parser.Completeness

namespace SpanQuery.Parser

/-! ## Depths -/

namespace Measured

def Exact (m : Measured) : Prop :=
  m.depth = m.expr.depth ∧ m.depth ≤ maxNesting

theorem exact_leaf {e : Expr} (h : e.depth = 1) : (leaf e).Exact :=
  ⟨h.symm, Nat.le_add_left 1 255⟩

theorem exact_of_bounded {m m' : Measured} {offset : Nat} (h : m.bounded offset = .ok m')
    (depth : m.depth = m.expr.depth) : m'.Exact := by
  obtain rfl := eq_of_bounded h
  unfold bounded at h
  split at h
  · cases h
  · rename_i low
    exact ⟨depth, Nat.not_lt.1 low⟩

theorem exact_of_unary {op : UnaryOp} {m m' : Measured} {offset : Nat}
    (h : m.unary op offset = .ok m') (operand : m.Exact) : m'.Exact := by
  obtain ⟨e, depth⟩ := m
  obtain rfl : depth = e.depth := operand.1
  cases op <;> cases e
  case neg.literal | plus.literal =>
    cases h
    exact exact_leaf rfl
  all_goals exact exact_of_bounded h rfl

theorem exact_of_binary {op : BinaryOp} {l r m : Measured} {offset : Nat}
    (h : binary op l r offset = .ok m) (left : l.Exact) (right : r.Exact) : m.Exact := by
  refine exact_of_bounded h ?_
  change 1 + max l.depth r.depth = 1 + max l.expr.depth r.expr.depth
  rw [left.1, right.1]

theorem foldr_depth {ms : List Measured} (h : ∀ m ∈ ms, m.Exact) :
    (ms.map depth).foldr max 0 = Expr.depthOfAll (ms.map expr) := by
  induction ms with
  | nil => rfl
  | cons m ms ih =>
      obtain ⟨first, rest⟩ := List.forall_mem_cons.1 h
      rw [List.map_cons, List.foldr_cons, ih rest, first.1]
      rfl

theorem exact_of_call {name : String} {args : List Measured} {m : Measured} {offset : Nat}
    (h : call name args offset = .ok m) (exact : ∀ arg ∈ args, arg.Exact) : m.Exact := by
  refine exact_of_bounded h ?_
  change 1 + (args.map depth).foldr max 0 = 1 + Expr.depthOfAll (args.map expr)
  rw [foldr_depth exact]

end Measured

/-! ## States -/

def Frame.signs : Frame → List Sign
  | .right _ _ _ _ => []
  | .paren outer _ | .call outer _ _ _ => outer.signs

def Frame.trees : Frame → List Measured
  | .right _ left _ _ => [left]
  | .paren _ _ => []
  | .call _ _ _ args => args

def Phase.signs : Phase → List Sign
  | .expression _ | .operator _ _ => []
  | .operand level | .afterName level _ _ | .firstArgument level _ _ => level.signs

def Phase.trees : Phase → List Measured
  | .operator _ left => [left]
  | _ => []

def Phase.unentered : Phase → Nat
  | .expression _ | .operand _ => 1
  | _ => 0

def levelsOf : List Frame → Nat
  | [] => 1
  | frame :: stack => 1 + frame.signs.length + levelsOf stack

theorem levelsOf_eq (stack : List Frame) :
    levelsOf stack = stack.length + 1 + (stack.flatMap Frame.signs).length := by
  induction stack with
  | nil => rfl
  | cons frame stack ih =>
      rw [levelsOf, ih, List.length_cons, List.flatMap_cons, List.length_append]
      omega

namespace State

def openExpressions (s : State) : Nat :=
  s.stack.length + 1

def waitingSigns (s : State) : List Sign :=
  s.stack.flatMap Frame.signs ++ s.phase.signs

def trees (s : State) : List Measured :=
  s.stack.flatMap Frame.trees ++ s.phase.trees

/-- The nesting counts the levels, and the trees are exact. -/
structure Counted (s : State) : Prop where
  levels : levelsOf s.stack + s.phase.signs.length = s.nesting + s.phase.unentered
  low : s.nesting ≤ maxNesting
  stack : ∀ frame ∈ s.stack, ∀ m ∈ frame.trees, m.Exact
  phase : ∀ m ∈ s.phase.trees, m.Exact

theorem counted_initial : initial.Counted :=
  ⟨rfl, Nat.zero_le _, nofun, nofun⟩

namespace Counted

theorem exact {s : State} (h : s.Counted) : ∀ m ∈ s.trees, m.Exact := by
  refine List.forall_mem_append.2 ⟨fun m hm => ?_, h.phase⟩
  obtain ⟨frame, mem, hm⟩ := List.mem_flatMap.1 hm
  exact h.stack frame mem m hm

theorem open_eq {s : State} (h : s.Counted) :
    s.openExpressions + s.waitingSigns.length = s.nesting + s.phase.unentered := by
  have levels := h.levels
  rw [levelsOf_eq] at levels
  rw [openExpressions, waitingSigns, List.length_append]
  omega

theorem bound {s : State} (h : s.Counted) :
    s.openExpressions + s.waitingSigns.length ≤ maxNesting + 1 := by
  have entered : s.phase.unentered ≤ 1 := by
    cases s.phase <;> simp [Phase.unentered]
  rw [h.open_eq]
  exact Nat.add_le_add h.low entered

end Counted

/-! ## One token -/

theorem exact_of_applySigns {signs : List Sign} {m m' : Measured} {nesting nesting' : Nat}
    (run : applySigns signs m nesting = .ok (m', nesting')) (exact : m.Exact) :
    m'.Exact ∧ nesting' = nesting - signs.length := by
  induction signs generalizing m nesting with
  | nil =>
      cases run
      exact ⟨exact, rfl⟩
  | cons sign signs ih =>
      obtain ⟨signed, attached, run⟩ := ok_of_bind run
      obtain ⟨exact, left⟩ := ih run (Measured.exact_of_unary attached exact)
      rw [left, List.length_cons]
      exact ⟨exact, by omega⟩

theorem exact_of_settle {precedence least least' nesting nesting' : Nat}
    {stack stack' : List Frame} {m m' : Measured}
    (run : settle precedence stack nesting least m = .ok (stack', nesting', least', m'))
    (levels : levelsOf stack = nesting) (frames : ∀ frame ∈ stack, ∀ m ∈ frame.trees, m.Exact)
    (exact : m.Exact) :
    levelsOf stack' = nesting' ∧ nesting' ≤ nesting ∧
      (∀ frame ∈ stack', ∀ m ∈ frame.trees, m.Exact) ∧ m'.Exact := by
  fun_induction settle precedence stack nesting least m with
  | case1 outer left op offset stack nesting least m stop =>
      cases run
      exact ⟨levels, Nat.le_refl _, frames, exact⟩
  | case2 outer left op offset stack nesting least m go ih =>
      obtain ⟨joined, join, run⟩ := ok_of_bind run
      obtain ⟨first, rest⟩ := List.forall_mem_cons.1 frames
      have exact := Measured.exact_of_binary join (first left (List.mem_singleton_self _)) exact
      have lower : levelsOf stack = nesting - 1 := by
        rw [← levels, levelsOf]
        simp [Frame.signs]
      obtain ⟨levels, le, kept⟩ := ih joined run lower rest exact
      exact ⟨levels, Nat.le_trans le (Nat.sub_le _ _), kept⟩
  | case3 stack nesting least m other =>
      cases run
      exact ⟨levels, Nat.le_refl _, frames, exact⟩

theorem counted_of_complete {s s' : State} {level : Level} {m : Measured}
    (run : s.complete level m = .ok s') (levels : levelsOf s.stack + level.signs.length = s.nesting)
    (low : s.nesting ≤ maxNesting) (frames : ∀ frame ∈ s.stack, ∀ m ∈ frame.trees, m.Exact)
    (exact : m.Exact) : s'.Counted := by
  obtain ⟨⟨m', nesting⟩, signs, run⟩ := ok_of_bind run
  cases run
  obtain ⟨exact, rfl⟩ := exact_of_applySigns signs exact
  refine ⟨?_, Nat.le_trans (Nat.sub_le _ _) low, frames, List.forall_mem_singleton.2 exact⟩
  change levelsOf s.stack + 0 = s.nesting - level.signs.length + 0
  omega

theorem counted_of_startOperand {s s' : State} {level : Level} {t : Token}
    (run : s.startOperand level t = .ok s')
    (levels : levelsOf s.stack + level.signs.length = s.nesting) (low : s.nesting ≤ maxNesting)
    (frames : ∀ frame ∈ s.stack, ∀ m ∈ frame.trees, m.Exact) : s'.Counted := by
  unfold startOperand at run
  split at run
  · exact counted_of_complete run levels low frames (Measured.exact_leaf rfl)
  · cases run
    exact ⟨levels, low, frames, nofun⟩
  · cases run
    refine ⟨?_, low, List.forall_mem_cons.2 ⟨nofun, frames⟩, nofun⟩
    change 1 + level.signs.length + levelsOf s.stack + 0 = s.nesting + 1
    omega
  iterate 2
    split at run
    · cases run
      refine ⟨?_, low, frames, nofun⟩
      change levelsOf s.stack + (level.signs.length + 1) = s.nesting + 1
      omega
    · cases run
  · cases run
  · cases run

theorem of_enter {s s' : State} {offset : Nat} (run : s.enter offset = .ok s') :
    s.nesting < maxNesting ∧ s' = { s with nesting := s.nesting + 1 } := by
  unfold enter at run
  split at run
  · cases run
  · rename_i low
    exact ⟨Nat.not_lt.1 low, (Except.ok.inj run).symm⟩

theorem counted_of_leave {s s' : State} {stack : List Frame} {nesting : Nat} {m : Measured}
    {t : Token} (run : s.leave stack nesting m t = .ok s') (levels : levelsOf stack = nesting)
    (low : nesting ≤ maxNesting) (frames : ∀ frame ∈ stack, ∀ m ∈ frame.trees, m.Exact)
    (exact : m.Exact) : s'.Counted := by
  have low : nesting - 1 ≤ maxNesting := Nat.le_trans (Nat.sub_le _ _) low
  dsimp only [leave] at run
  split at run
  · rename_i level opening stack kind
    refine counted_of_complete run ?_ low (List.forall_mem_cons.1 frames).2 exact
    rw [levelsOf] at levels
    change levelsOf stack + level.signs.length = nesting - 1
    change 1 + level.signs.length + _ = _ at levels
    omega
  · rename_i level name opening args stack kind
    obtain ⟨called, join, run⟩ := ok_of_bind run
    obtain ⟨given, frames⟩ := List.forall_mem_cons.1 frames
    have all : ∀ arg ∈ (m :: args).reverse, Measured.Exact arg := fun arg harg =>
      List.forall_mem_cons.2 ⟨exact, given⟩ arg (List.mem_reverse.1 harg)
    refine counted_of_complete run ?_ low frames (Measured.exact_of_call join all)
    rw [levelsOf] at levels
    change levelsOf stack + level.signs.length = nesting - 1
    change 1 + level.signs.length + _ = _ at levels
    omega
  · rename_i level name opening args stack kind
    cases run
    obtain ⟨given, frames⟩ := List.forall_mem_cons.1 frames
    refine ⟨?_, low, List.forall_mem_cons.2 ⟨List.forall_mem_cons.2 ⟨exact, given⟩, frames⟩, nofun⟩
    rw [levelsOf] at levels
    change 1 + level.signs.length + levelsOf stack + 0 = nesting - 1 + 1
    change 1 + level.signs.length + _ = _ at levels
    omega
  · cases run
  · cases run

theorem counted_of_afterOperand {s s' : State} {least : Nat} {m : Measured} {t : Token}
    (run : s.afterOperand least m t = .ok s') (levels : levelsOf s.stack = s.nesting)
    (low : s.nesting ≤ maxNesting) (frames : ∀ frame ∈ s.stack, ∀ m ∈ frame.trees, m.Exact)
    (exact : m.Exact) : s'.Counted := by
  have close (run : s.close least m t = .ok s') : s'.Counted := by
    obtain ⟨⟨stack, nesting, least', m'⟩, settled, run⟩ := ok_of_bind run
    obtain ⟨levels, le, frames, exact⟩ := exact_of_settle settled levels frames exact
    exact counted_of_leave run levels (Nat.le_trans le low) frames exact
  unfold afterOperand at run
  split at run
  · rename_i op kind
    obtain ⟨⟨stack, nesting, least', m'⟩, settled, run⟩ := ok_of_bind run
    obtain ⟨levels, le, frames, exact⟩ := exact_of_settle settled levels frames exact
    cases run
    refine ⟨?_, Nat.le_trans le low,
      List.forall_mem_cons.2 ⟨List.forall_mem_singleton.2 exact, frames⟩, nofun⟩
    change 1 + 0 + levelsOf stack + 0 = nesting + 1
    omega
  · cases run
  · exact close run
  · exact close run
  all_goals cases run

theorem Counted.read {s s' : State} {t : Token} (h : s.Counted) (run : s.read t = .ok s') :
    s'.Counted := by
  obtain ⟨stack, nesting, phase, previous⟩ := s
  obtain ⟨levels, low, frames, trees⟩ := h
  dsimp only at levels low frames trees
  cases phase with
  | expression least =>
      obtain ⟨entered, enter, run⟩ := ok_of_bind run
      obtain ⟨low, rfl⟩ := of_enter enter
      exact counted_of_startOperand run levels low frames
  | operand level =>
      obtain ⟨entered, enter, run⟩ := ok_of_bind run
      obtain ⟨low, rfl⟩ := of_enter enter
      exact counted_of_startOperand run levels low frames
  | afterName level name stop =>
      change levelsOf stack + level.signs.length = nesting at levels
      unfold State.read at run
      dsimp only at run
      split at run
      · cases run
        exact ⟨levels, low, frames, nofun⟩
      · obtain ⟨⟨m, nesting'⟩, signs, run⟩ := ok_of_bind run
        obtain ⟨exact, rfl⟩ := exact_of_applySigns signs (Measured.exact_leaf rfl)
        refine counted_of_afterOperand run ?_ (Nat.le_trans (Nat.sub_le _ _) low) frames exact
        change levelsOf stack = nesting - level.signs.length
        omega
  | firstArgument level name opening =>
      change levelsOf stack + level.signs.length = nesting at levels
      unfold State.read at run
      dsimp only at run
      split at run
      · exact counted_of_complete run levels low frames (Measured.exact_leaf rfl)
      · obtain ⟨entered, enter, run⟩ := ok_of_bind run
        obtain ⟨low, rfl⟩ := of_enter enter
        refine counted_of_startOperand run ?_ low (List.forall_mem_cons.2 ⟨nofun, frames⟩)
        change 1 + level.signs.length + levelsOf stack + 0 = nesting + 1
        omega
  | operator least m =>
      refine counted_of_afterOperand run levels low frames ?_
      exact List.forall_mem_singleton.1 trees

theorem Counted.foldlM {s s' : State} {ts : List Token} (h : s.Counted)
    (run : ts.foldlM step s = .ok s') : s'.Counted := by
  induction ts generalizing s with
  | nil =>
      cases run
      exact h
  | cons t ts ih =>
      rw [List.foldlM_cons] at run
      obtain ⟨next, first, run⟩ := ok_of_bind run
      obtain ⟨read, reads, previous⟩ := ok_of_bind first
      cases previous
      have kept := h.read reads
      have next : Counted { read with previous := some t } :=
        ⟨kept.levels, kept.low, kept.stack, kept.phase⟩
      exact ih next run

end State

/-! ## The end of the tokens -/

theorem depth_of_conclude {stack : List Frame} {nesting least : Nat} {m : Measured} {e : Expr}
    (run : State.conclude stack nesting least m = .ok e) (levels : levelsOf stack = nesting)
    (frames : ∀ frame ∈ stack, ∀ m ∈ frame.trees, m.Exact) (exact : m.Exact) :
    e.depth ≤ maxNesting := by
  obtain ⟨⟨stack', nesting', least', m'⟩, settled, run⟩ := ok_of_bind run
  obtain ⟨-, -, -, exact⟩ := State.exact_of_settle settled levels frames exact
  dsimp only [State.outermost] at run
  split at run
  · cases run
  · cases run
  · cases run
    exact exact.1 ▸ exact.2

theorem State.Counted.finish {s : State} {size : Nat} {e : Expr} (h : s.Counted)
    (run : s.finish size = .ok e) : e.depth ≤ maxNesting := by
  obtain ⟨stack, nesting, phase, previous⟩ := s
  obtain ⟨levels, -, frames, trees⟩ := h
  dsimp only at levels frames trees
  cases phase with
  | expression | operand | firstArgument =>
      obtain ⟨entered, -, run⟩ := ok_of_bind run
      cases run
  | afterName level name stop =>
      obtain ⟨⟨m, nesting'⟩, signs, run⟩ := ok_of_bind run
      obtain ⟨exact, rfl⟩ := exact_of_applySigns signs (Measured.exact_leaf rfl)
      refine depth_of_conclude run ?_ frames exact
      change levelsOf stack + level.signs.length = nesting + 0 at levels
      change levelsOf stack = nesting - level.signs.length
      omega
  | operator least m =>
      exact depth_of_conclude run levels frames (List.forall_mem_singleton.1 trees)

theorem depth_of_parseTokens {ts : List Token} {size : Nat} {e : Expr}
    (h : parseTokens ts size = .ok e) : e.depth ≤ maxNesting := by
  unfold parseTokens at h
  split at h
  · cases h
  · obtain ⟨s, run, finish⟩ := ok_of_bind h
    exact (State.counted_initial.foldlM run).finish finish

end SpanQuery.Parser
