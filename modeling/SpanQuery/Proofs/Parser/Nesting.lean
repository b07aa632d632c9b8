import SpanQuery.Proofs.Parser.Soundness

namespace SpanQuery.Parser
open Grammar

abbrev RefusedBeyond (n : Nat) (x : Except SyntaxError α) (P : α → Prop) : Prop :=
  Yields (fun e => ∀ offset, e = tooDeep offset → maxNesting < n) x P

theorem RefusedBeyond.later {n n' : Nat} {x : Except SyntaxError α} {P : α → Prop}
    (h : RefusedBeyond n x P) (le : n ≤ n') : RefusedBeyond n' x P :=
  h.mono (fun _ beyond offset deep => Nat.lt_of_lt_of_le (beyond offset deep) le) fun _ => id

/-! ## Trees and signs -/

namespace Measured

theorem refusedBeyond_bounded {m : Measured} {n : Nat} (le : m.depth ≤ n) (offset : Nat) :
    RefusedBeyond n (m.bounded offset) (·.depth = m.depth) := by
  unfold bounded
  split
  · rename_i deep
    exact fun _ _ => Nat.lt_of_lt_of_le deep le
  · rfl

theorem refusedBeyond_unary (op : UnaryOp) {m : Measured} {n : Nat} (le : m.depth + 1 ≤ n)
    (offset : Nat) : RefusedBeyond n (m.unary op offset) (·.depth ≤ m.depth + 1) := by
  rcases unary_cases op m offset with literal | node
  · rw [literal]
    exact Nat.le_add_left 1 m.depth
  · rw [node]
    refine (refusedBeyond_bounded (Nat.add_comm _ _ ▸ le) offset).imp ?_
    intro m' same
    exact same ▸ Nat.le_of_eq (Nat.add_comm 1 m.depth)

theorem refusedBeyond_binary (op : BinaryOp) {l r : Measured} {n : Nat}
    (le : l.depth + 1 + r.depth ≤ n) (offset : Nat) :
    RefusedBeyond n (binary op l r offset) (·.depth ≤ l.depth + 1 + r.depth) := by
  have deep : 1 + max l.depth r.depth ≤ l.depth + 1 + r.depth := by omega
  refine (refusedBeyond_bounded (Nat.le_trans deep le) offset).imp ?_
  intro m same
  exact same ▸ deep

theorem foldr_max_le {depths : List Nat} {bound : Nat} (h : ∀ depth ∈ depths, depth ≤ bound) :
    depths.foldr max 0 ≤ bound := by
  induction depths with
  | nil => exact Nat.zero_le bound
  | cons depth depths ih =>
      obtain ⟨first, rest⟩ := List.forall_mem_cons.1 h
      exact Nat.max_le.2 ⟨first, ih rest⟩

theorem refusedBeyond_call (name : String) {args : List Measured} {bound n : Nat}
    (h : ∀ m ∈ args, m.depth ≤ bound) (le : 1 + bound ≤ n) (offset : Nat) :
    RefusedBeyond n (call name args offset) (·.depth ≤ 1 + bound) := by
  have deep : 1 + (args.map depth).foldr max 0 ≤ 1 + bound :=
    Nat.add_le_add_left (foldr_max_le (List.forall_mem_map.2 h)) 1
  refine (refusedBeyond_bounded (Nat.le_trans deep le) offset).imp ?_
  intro m same
  exact same ▸ deep

def total : List Measured → Nat
  | [] => 0
  | m :: ms => m.depth + total ms

theorem depth_le_total {m : Measured} {ms : List Measured} (h : m ∈ ms) : m.depth ≤ total ms := by
  induction ms with
  | nil => cases h
  | cons first ms ih =>
      rcases List.mem_cons.1 h with rfl | h
      · exact Nat.le_add_right _ _
      · exact Nat.le_trans (ih h) (Nat.le_add_left _ _)

end Measured

/-! ## States -/

def Frame.load : Frame → Nat
  | .right _ left _ _ => left.depth + 1
  | .paren outer _ => outer.signs.length + 1
  | .call outer _ _ args => outer.signs.length + 2 + Measured.total args

def loadOf : List Frame → Nat
  | [] => 0
  | frame :: stack => frame.load + loadOf stack

def Phase.load : Phase → Nat
  | .expression _ => 0
  | .operand level => level.signs.length
  | .afterName level _ _ => level.signs.length + 1
  | .firstArgument level _ _ => level.signs.length + 2
  | .operator _ left => left.depth

namespace State

/-- Neither the nesting nor the load is beyond `n`. -/
structure Light (n : Nat) (s : State) : Prop where
  nesting : s.nesting ≤ n
  load : loadOf s.stack + s.phase.load ≤ n

theorem refusedBeyond_applySigns {signs : List Sign} {m : Measured} {n : Nat}
    (le : m.depth + signs.length ≤ n) (nesting : Nat) :
    RefusedBeyond n (applySigns signs m nesting) fun (m', nesting') =>
      m'.depth ≤ m.depth + signs.length ∧ nesting' ≤ nesting := by
  induction signs generalizing m nesting with
  | nil => exact ⟨Nat.le_refl _, Nat.le_refl _⟩
  | cons sign signs ih =>
      rw [List.length_cons] at le ⊢
      have first : m.depth + 1 ≤ n := by omega
      refine (Measured.refusedBeyond_unary sign.op first sign.offset).bind fun signed deep => ?_
      refine (ih (by omega) (nesting - 1)).imp ?_
      rintro ⟨m', nesting'⟩ ⟨hdepth, hnesting⟩
      dsimp only at hdepth hnesting ⊢
      omega

theorem refusedBeyond_settle {precedence nesting least n : Nat} {stack : List Frame}
    {m : Measured} (le : loadOf stack + m.depth ≤ n) :
    RefusedBeyond n (settle precedence stack nesting least m) fun (stack', nesting', _, m') =>
      loadOf stack' + m'.depth ≤ loadOf stack + m.depth ∧ nesting' ≤ nesting := by
  fun_induction settle precedence stack nesting least m with
  | case1 => exact ⟨Nat.le_refl _, Nat.le_refl _⟩
  | case2 outer left op offset stack nesting least m go ih =>
      rw [loadOf, Frame.load] at le ⊢
      have joined : left.depth + 1 + m.depth ≤ n := by omega
      refine (Measured.refusedBeyond_binary op joined offset).bind fun m' deep => ?_
      refine (ih m' (by omega)).imp ?_
      rintro ⟨stack', nesting', least', m''⟩ ⟨hload, hnesting⟩
      dsimp only at hload hnesting ⊢
      omega
  | case3 => exact ⟨Nat.le_refl _, Nat.le_refl _⟩

theorem refusedBeyond_enter {s : State} {n : Nat} (le : s.nesting + 1 ≤ n) (offset : Nat) :
    RefusedBeyond n (s.enter offset) (· = { s with nesting := s.nesting + 1 }) := by
  unfold enter
  split
  · rename_i deep
    exact fun _ _ => Nat.lt_of_lt_of_le deep le
  · rfl

theorem light_of_complete {s : State} {level : Level} {m : Measured} {n : Nat}
    (nesting : s.nesting ≤ n) (load : loadOf s.stack + m.depth + level.signs.length ≤ n) :
    RefusedBeyond n (s.complete level m) (Light n) := by
  have signed : m.depth + level.signs.length ≤ n := by omega
  refine (refusedBeyond_applySigns signed s.nesting).bind ?_
  rintro ⟨m', nesting'⟩ ⟨hdepth, hnesting⟩
  refine ⟨Nat.le_trans hnesting nesting, ?_⟩
  change loadOf s.stack + m'.depth ≤ n
  change m'.depth ≤ _ at hdepth
  omega

theorem misplaced_ne_tooDeep (previous : Option Token) (t : Token) (offset : Nat) :
    misplaced previous t ≠ tooDeep offset := by
  unfold misplaced
  split
  · split <;> nofun
  · nofun

theorem light_of_startOperand {s : State} {level : Level} {n : Nat} (nesting : s.nesting ≤ n)
    (load : loadOf s.stack + level.signs.length + 1 ≤ n) (t : Token) :
    RefusedBeyond n (s.startOperand level t) (Light n) := by
  unfold startOperand
  split
  · refine light_of_complete nesting ?_
    dsimp only [Measured.leaf]
    omega
  · exact ⟨nesting, load⟩
  · refine ⟨nesting, ?_⟩
    dsimp only [Phase.load]
    rw [loadOf, Frame.load]
    omega
  iterate 2
    split
    · exact ⟨nesting, load⟩
    · exact fun offset deep => absurd deep (misplaced_ne_tooDeep _ t offset)
  · nofun
  · nofun

theorem light_of_leave {s : State} {stack : List Frame} {nesting n : Nat} {m : Measured}
    (hnesting : nesting ≤ n) (load : loadOf stack + m.depth ≤ n) (t : Token) :
    RefusedBeyond (n + 1) (s.leave stack nesting m t) (Light (n + 1)) := by
  unfold leave
  dsimp only
  split
  · rename_i level opening stack kind
    rw [loadOf, Frame.load] at load
    refine light_of_complete ?_ ?_
    · exact Nat.le_trans (Nat.sub_le _ _) (Nat.le_succ_of_le hnesting)
    · dsimp only [List.tail_cons]
      omega
  · rename_i level name opening args stack kind
    rw [loadOf, Frame.load] at load
    have shallow : ∀ arg ∈ (m :: args).reverse, arg.depth ≤ m.depth + Measured.total args :=
      fun arg harg => Measured.depth_le_total (List.mem_reverse.1 harg)
    refine (Measured.refusedBeyond_call name shallow ?_ _).bind fun called deep => ?_
    · omega
    · refine light_of_complete ?_ ?_
      · exact Nat.le_trans (Nat.sub_le _ _) (Nat.le_succ_of_le hnesting)
      · dsimp only [List.tail_cons]
        omega
  · rename_i level name opening args stack kind
    rw [loadOf, Frame.load] at load
    refine ⟨Nat.le_trans (Nat.sub_le _ _) (Nat.le_succ_of_le hnesting), ?_⟩
    dsimp only [Phase.load]
    rw [loadOf, Frame.load, Measured.total]
    omega
  · nofun
  · nofun

theorem light_of_afterOperand {s : State} {least n : Nat} {m : Measured}
    (nesting : s.nesting ≤ n) (load : loadOf s.stack + m.depth ≤ n) (t : Token) :
    RefusedBeyond (n + 1) (s.afterOperand least m t) (Light (n + 1)) := by
  have close : RefusedBeyond (n + 1) (s.close least m t) (Light (n + 1)) := by
    refine ((refusedBeyond_settle load).later (Nat.le_succ n)).bind ?_
    rintro ⟨stack, nesting', least', m'⟩ ⟨hload, hnesting⟩
    exact light_of_leave (Nat.le_trans hnesting nesting) (Nat.le_trans hload load) t
  unfold afterOperand
  split
  · rename_i op kind
    refine ((refusedBeyond_settle load).later (Nat.le_succ n)).bind ?_
    rintro ⟨stack, nesting', least', m'⟩ ⟨hload, hnesting⟩
    refine ⟨Nat.le_succ_of_le (Nat.le_trans hnesting nesting), ?_⟩
    change loadOf stack + m'.depth ≤ _ at hload
    change m'.depth + 1 + loadOf stack + 0 ≤ n + 1
    omega
  · nofun
  · exact close
  · exact close
  all_goals nofun

theorem Light.read {s : State} {n : Nat} (h : s.Light n) (t : Token) :
    RefusedBeyond (n + 1) (s.read t) (Light (n + 1)) := by
  obtain ⟨stack, nesting, phase, previous⟩ := s
  obtain ⟨hnesting, load⟩ := h
  dsimp only at hnesting load
  have below : nesting + 1 ≤ n + 1 := Nat.succ_le_succ hnesting
  cases phase with
  | expression least =>
      refine (refusedBeyond_enter below t.offset).bind fun s same => ?_
      subst same
      exact light_of_startOperand below (Nat.succ_le_succ load) t
  | operand level =>
      refine (refusedBeyond_enter below t.offset).bind fun s same => ?_
      subst same
      exact light_of_startOperand below (Nat.succ_le_succ load) t
  | afterName level name stop =>
      dsimp only [Phase.load] at load
      unfold State.read
      dsimp only
      split
      · exact ⟨Nat.le_succ_of_le hnesting, Nat.succ_le_succ load⟩
      · refine (refusedBeyond_applySigns ?_ nesting).bind ?_
        · dsimp only [Measured.leaf]
          omega
        · rintro ⟨m, nesting'⟩ ⟨hdepth, hless⟩
          refine light_of_afterOperand (Nat.le_trans hless hnesting) ?_ t
          change m.depth ≤ 1 + level.signs.length at hdepth
          dsimp only
          omega
  | firstArgument level name opening =>
      dsimp only [Phase.load] at load
      unfold State.read
      dsimp only
      split
      · refine light_of_complete (Nat.le_succ_of_le hnesting) ?_
        dsimp only [Measured.leaf]
        omega
      · refine (refusedBeyond_enter ?_ t.offset).bind fun s same => ?_
        · exact below
        · subst same
          refine light_of_startOperand below ?_ t
          change level.signs.length + 2 + 0 + loadOf stack + 0 + 1 ≤ n + 1
          omega
  | operator least m => exact light_of_afterOperand hnesting load t

theorem Light.foldlM {s : State} {n : Nat} (h : s.Light n) (ts : List Token) :
    RefusedBeyond (n + ts.length) (ts.foldlM step s) (Light (n + ts.length)) := by
  induction ts generalizing s n with
  | nil => exact h
  | cons t ts ih =>
      have more : n + (t :: ts).length = n + 1 + ts.length := by
        rw [List.length_cons]
        omega
      rw [List.foldlM_cons, more, step, bind_assoc]
      refine ((h.read t).later (Nat.le_add_right _ _)).bind fun s' h' => ?_
      exact ih ⟨h'.nesting, h'.load⟩

end State

theorem refusedBeyond_conclude {stack : List Frame} {nesting least n : Nat} {m : Measured}
    (load : loadOf stack + m.depth ≤ n) :
    RefusedBeyond n (State.conclude stack nesting least m) fun _ => True := by
  refine (State.refusedBeyond_settle load).bind ?_
  rintro ⟨stack', nesting', least', m'⟩ -
  dsimp only [State.outermost]
  split
  · nofun
  · nofun
  · trivial

theorem State.Light.finish {s : State} {n : Nat} (h : s.Light n) (size : Nat) :
    RefusedBeyond (n + 1) (s.finish size) fun _ => True := by
  obtain ⟨stack, nesting, phase, previous⟩ := s
  obtain ⟨hnesting, load⟩ := h
  dsimp only at hnesting load
  cases phase with
  | expression | operand | firstArgument =>
      refine (State.refusedBeyond_enter ?_ size).bind fun _ _ => ?_
      · exact Nat.succ_le_succ hnesting
      · nofun
  | afterName level name stop =>
      dsimp only [Phase.load] at load
      refine (State.refusedBeyond_applySigns ?_ nesting).bind ?_
      · dsimp only [Measured.leaf]
        omega
      · rintro ⟨m, nesting'⟩ ⟨hdepth, -⟩
        refine refusedBeyond_conclude ?_
        change m.depth ≤ 1 + level.signs.length at hdepth
        dsimp only
        omega
  | operator least m =>
      exact (refusedBeyond_conclude load).later (Nat.le_succ n)

theorem parseTokens_refusedBeyond (ts : List Token) (size : Nat) :
    RefusedBeyond (ts.length + 1) (parseTokens ts size) fun _ => True := by
  unfold parseTokens
  split
  · nofun
  · have empty : State.initial.Light 0 := ⟨Nat.le_refl 0, Nat.le_refl 0⟩
    have run := empty.foldlM ts
    rw [Nat.zero_add] at run
    exact (run.later (Nat.le_succ _)).bind fun s light => light.finish size

end SpanQuery.Parser
