import SpanQuery.Expr.Parser
import SpanQuery.Proofs.Parser.Grammar

namespace SpanQuery.Parser
open Grammar

/-! ## Results and errors -/

def Yields (E : ε → Prop) (x : Except ε α) (P : α → Prop) : Prop :=
  match x with
  | .ok a => P a
  | .error e => E e

namespace Yields

theorem mono {E E' : ε → Prop} {x : Except ε α} {P Q : α → Prop} (h : Yields E x P)
    (fault : ∀ e, E e → E' e) (imp : ∀ a, P a → Q a) : Yields E' x Q := by
  cases x with
  | error e => exact fault e h
  | ok a => exact imp a h

theorem imp {E : ε → Prop} {x : Except ε α} {P Q : α → Prop} (h : Yields E x P)
    (imp : ∀ a, P a → Q a) : Yields E x Q :=
  h.mono (fun _ => id) imp

theorem bind {E : ε → Prop} {x : Except ε α} {f : α → Except ε β} {P : α → Prop} {Q : β → Prop}
    (h : Yields E x P) (next : ∀ a, P a → Yields E (f a) Q) : Yields E (x >>= f) Q := by
  cases x with
  | error e => exact h
  | ok a => exact next a h

end Yields

theorem ok_of_bind {x : Except ε α} {f : α → Except ε β} {b : β} (h : x >>= f = .ok b) :
    ∃ a, x = .ok a ∧ f a = .ok b := by
  cases x with
  | error e => cases h
  | ok a => exact ⟨a, rfl, h⟩

/-! ## Trees -/

namespace Measured

theorem eq_of_bounded {m m' : Measured} {offset : Nat} (h : m.bounded offset = .ok m') :
    m' = m := by
  unfold bounded at h
  split at h
  · cases h
  · exact (Except.ok.inj h).symm

theorem unary_cases (op : UnaryOp) (m : Measured) (offset : Nat) :
    m.unary op offset = .ok (leaf (signed op m.expr)) ∨
      m.unary op offset = bounded ⟨signed op m.expr, 1 + m.depth⟩ offset := by
  obtain ⟨e, depth⟩ := m
  cases op <;> cases e <;> first | exact .inl rfl | exact .inr rfl

theorem expr_of_unary {op : UnaryOp} {m m' : Measured} {offset : Nat}
    (h : m.unary op offset = .ok m') : m'.expr = signed op m.expr := by
  rcases unary_cases op m offset with literal | node
  · rw [← Except.ok.inj (literal.symm.trans h)]
    rfl
  · rw [eq_of_bounded (node.symm.trans h)]

theorem expr_of_binary {op : BinaryOp} {l r m : Measured} {offset : Nat}
    (h : binary op l r offset = .ok m) : m.expr = .binary op l.expr r.expr := by
  rw [eq_of_bounded h]

theorem expr_of_call {name : String} {args : List Measured} {m : Measured} {offset : Nat}
    (h : call name args offset = .ok m) : m.expr = .call name (args.map expr) := by
  rw [eq_of_bounded h]

end Measured

/-! ## The tokens before an operand -/

def Leads (earlier : List (List Token)) (ts : List Token) : Prop :=
  ∀ us rest vs, Separated (us :: rest) vs → Separated (earlier ++ us :: rest) (ts ++ vs)

def Given (args : List Measured) (ts : List Token) : Prop :=
  ∃ given : List (List Token × Expr), args.reverse.map Measured.expr = given.map Prod.snd ∧
    (∀ arg ∈ given, Derives 1 arg.1 arg.2) ∧ Leads (given.map Prod.fst) ts

namespace Given

theorem nil : Given [] [] :=
  ⟨[], rfl, nofun, fun _ _ _ separated => separated⟩

theorem snoc {args : List Measured} {m : Measured} {ts us : List Token} {comma : Token}
    (h : Given args ts) (last : Derives 1 us m.expr) (kind : comma.kind = .comma) :
    Given (m :: args) (ts ++ us ++ [comma]) := by
  obtain ⟨given, trees, derives, leads⟩ := h
  refine ⟨given ++ [(us, m.expr)], by simp [← trees], ?_, ?_⟩
  · exact List.forall_mem_append.2 ⟨derives, List.forall_mem_singleton.2 last⟩
  · intro vs rest ws separated
    simpa using leads us (vs :: rest) (us ++ comma :: ws) (.more kind separated)

theorem call {args : List Measured} {m : Measured} {ts us : List Token} {text : String}
    {name opening closing : Token} (h : Given args ts) (last : Derives 1 us m.expr)
    (kind : name.kind = .name text) (opens : opening.kind = .leftParen)
    (adjacent : opening.offset = name.stop) (closes : closing.kind = .rightParen) :
    Derives 8 (name :: opening :: (ts ++ us) ++ [closing])
      (.call text ((m :: args).reverse.map Measured.expr)) := by
  obtain ⟨given, trees, derives, leads⟩ := h
  have separated : Separated ((given ++ [(us, m.expr)]).map Prod.fst) (ts ++ us) := by
    rw [List.map_append]
    exact leads us [] us (.one us)
  have whole : (m :: args).reverse.map Measured.expr = (given ++ [(us, m.expr)]).map Prod.snd := by
    simp [← trees]
  rw [whole]
  refine .call kind opens adjacent separated ?_ closes
  exact List.forall_mem_append.2 ⟨derives, List.forall_mem_singleton.2 last⟩

end Given

/-- The tokens that have led to a stack and to the signs before an operand. -/
inductive Before : List Frame → Level → List Token → Prop where
  | start : Before [] ⟨1, []⟩ []
  | sign {stack : List Frame} {level : Level} {sign : Sign} {ts : List Token} {t : Token} :
      Before stack level ts → t.kind.unaryOp? = some sign.op →
      Before stack { level with signs := sign :: level.signs } (ts ++ [t])
  | right {stack : List Frame} {outer offset : Nat} {left : Measured} {op : BinaryOp}
      {ts us : List Token} {t : Token} :
      Before stack ⟨outer, []⟩ ts → outer ≤ op.precedence →
      Derives op.precedence us left.expr → t.kind = .symbol op →
      Before (.right outer left op offset :: stack) ⟨op.precedence + 1, []⟩ (ts ++ us ++ [t])
  | paren {stack : List Frame} {outer : Level} {opening : Nat} {ts : List Token} {t : Token} :
      Before stack outer ts → t.kind = .leftParen →
      Before (.paren outer opening :: stack) ⟨1, []⟩ (ts ++ [t])
  | call {stack : List Frame} {outer : Level} {text : String} {offset : Nat}
      {args : List Measured} {ts us : List Token} {name opening : Token} :
      Before stack outer ts → name.kind = .name text → opening.kind = .leftParen →
      opening.offset = name.stop → Given args us →
      Before (.call outer text offset args :: stack) ⟨1, []⟩ (ts ++ name :: opening :: us)

theorem Before.applySigns {stack : List Frame} {level : Level} {ts us : List Token}
    {m m' : Measured} {nesting nesting' : Nat} (h : Before stack level ts)
    (operand : Derives 7 us m.expr)
    (run : State.applySigns level.signs m nesting = .ok (m', nesting')) :
    ∃ ts' us', ts' ++ us' = ts ++ us ∧ Before stack ⟨level.least, []⟩ ts' ∧
      Derives 7 us' m'.expr := by
  induction h generalizing us m nesting with
  | @sign stack level sign ts t _ kind ih =>
      obtain ⟨signed, attached, run⟩ := ok_of_bind run
      have operand : Derives 7 (t :: us) signed.expr := by
        rw [Measured.expr_of_unary attached]
        exact .sign kind operand
      obtain ⟨ts', us', tokens, before, derives⟩ := ih operand run
      exact ⟨ts', us', by rw [tokens, List.append_assoc]; rfl, before, derives⟩
  | start => cases run; exact ⟨_, us, rfl, .start, operand⟩
  | right before le left kind => cases run; exact ⟨_, us, rfl, .right before le left kind, operand⟩
  | paren before kind => cases run; exact ⟨_, us, rfl, .paren before kind, operand⟩
  | call before kind opens adjacent given =>
      cases run
      exact ⟨_, us, rfl, .call before kind opens adjacent given, operand⟩

/-! ## Ending open expressions -/

theorem settle_keeps {precedence level least least' nesting nesting' : Nat}
    {stack stack' : List Frame} {ts us : List Token} {m m' : Measured}
    (before : Before stack ⟨least, []⟩ ts) (operand : Derives level us m.expr)
    (le : least ≤ level) (tight : precedence ≤ level)
    (run : State.settle precedence stack nesting least m = .ok (stack', nesting', least', m')) :
    ∃ ts' us', ts' ++ us' = ts ++ us ∧ Before stack' ⟨least', []⟩ ts' ∧
      Derives (max precedence least') us' m'.expr ∧ least' ≤ max precedence 1 := by
  fun_induction State.settle precedence stack nesting least m generalizing level ts us with
  | case1 outer left op offset stack nesting least m stop =>
      cases run
      exact ⟨ts, us, rfl, before, operand.loosen (Nat.max_le.2 ⟨tight, le⟩),
        Nat.le_trans stop (Nat.le_max_left _ _)⟩
  | case2 outer left op offset stack nesting least m go ih =>
      cases before with
      | @right _ _ _ _ _ ts ls t before outer_le derives kind =>
          obtain ⟨joined, join, run⟩ := ok_of_bind run
          have whole : Derives op.precedence (ls ++ t :: us) joined.expr := by
            rw [Measured.expr_of_binary join]
            exact .join (mem_operators.2 rfl) kind derives (operand.loosen le)
          obtain ⟨ts', us', tokens, kept⟩ :=
            ih joined before whole outer_le (Nat.le_of_lt_succ (Nat.not_le.1 go)) run
          exact ⟨ts', us', by rw [tokens]; simp, kept⟩
  | case3 stack nesting least m other =>
      cases run
      refine ⟨ts, us, rfl, before, operand.loosen (Nat.max_le.2 ⟨tight, le⟩), ?_⟩
      cases before with
      | right => exact absurd rfl (other _ _ _ _ _)
      | start | paren | call => exact Nat.le_max_right _ _

theorem Before.least_le {stack : List Frame} {level : Level} {ts : List Token}
    (h : Before stack level ts) : level.least ≤ 7 := by
  induction h with
  | start | paren | call => exact Nat.le_add_left 1 6
  | sign _ _ ih => exact ih
  | @right _ _ _ _ op => exact Nat.succ_le_succ (precedence_le op)

/-! ## One token -/

/-- The tokens read so far account for the whole state. -/
def Reads (s : State) (ts : List Token) : Prop :=
  match s.phase with
  | .expression least => Before s.stack ⟨least, []⟩ ts
  | .operand level => Before s.stack level ts
  | .afterName level text stop =>
      ∃ ts' name, ts = ts' ++ [name] ∧ Before s.stack level ts' ∧ name.kind = .name text ∧
        name.stop = stop
  | .firstArgument level text _ =>
      ∃ ts' name opening, ts = ts' ++ [name, opening] ∧ Before s.stack level ts' ∧
        name.kind = .name text ∧ opening.kind = .leftParen ∧ opening.offset = name.stop
  | .operator least m =>
      ∃ ts' us, ts = ts' ++ us ∧ Before s.stack ⟨least, []⟩ ts' ∧ Derives 7 us m.expr

theorem reads_of_complete {s s' : State} {level : Level} {m : Measured} {ts us : List Token}
    (before : Before s.stack level ts) (operand : Derives 7 us m.expr)
    (run : s.complete level m = .ok s') : Reads s' (ts ++ us) := by
  obtain ⟨⟨m', nesting⟩, signs, run⟩ := ok_of_bind run
  cases run
  obtain ⟨ts', us', tokens, before, operand⟩ := before.applySigns operand signs
  exact ⟨ts', us', tokens.symm, before, operand⟩

theorem reads_of_startOperand {s s' : State} {level : Level} {t : Token} {ts : List Token}
    (before : Before s.stack level ts) (run : s.startOperand level t = .ok s') :
    Reads s' (ts ++ [t]) := by
  unfold State.startOperand at run
  split at run
  · rename_i value kind
    exact reads_of_complete before (.tighter (.number kind)) run
  · rename_i text kind
    cases run
    exact ⟨ts, t, rfl, before, kind, rfl⟩
  · rename_i kind
    cases run
    exact .paren before kind
  -- A symbol and the bang, which both may stand before an operand.
  iterate 2
    split at run
    · rename_i op kind
      cases run
      exact .sign before kind
    · cases run
  · cases run
  · cases run

theorem stack_of_enter {s s' : State} {offset : Nat} (h : s.enter offset = .ok s') :
    s'.stack = s.stack := by
  unfold State.enter at h
  split at h
  · cases h
  · cases h
    rfl

theorem reads_of_close {s s' : State} {least : Nat} {m : Measured} {t : Token}
    {ts us : List Token} (before : Before s.stack ⟨least, []⟩ ts) (operand : Derives 7 us m.expr)
    (run : s.close least m t = .ok s') : Reads s' (ts ++ us ++ [t]) := by
  obtain ⟨⟨stack, nesting, outermost, m'⟩, settled, run⟩ := ok_of_bind run
  obtain ⟨ts', us', tokens, before, whole, -⟩ :=
    settle_keeps before operand before.least_le (Nat.zero_le 7) settled
  rw [← tokens]
  dsimp only [State.leave] at run
  split at run
  · rename_i closing
    cases before with
    | @paren _ _ _ ts opening before kind =>
        have operand : Derives 8 (opening :: us' ++ [t]) m'.expr :=
          .paren kind (whole.loosen (Nat.le_refl 1)) closing
        have read := reads_of_complete before (.tighter operand) run
        simpa using read
  · rename_i closing
    obtain ⟨called, call, run⟩ := ok_of_bind run
    cases before with
    | @call _ _ _ _ _ ts vs name opening before kind opens adjacent given =>
        have operand : Derives 8 (name :: opening :: (vs ++ us') ++ [t]) called.expr := by
          rw [Measured.expr_of_call call]
          exact given.call (whole.loosen (Nat.le_refl 1)) kind opens adjacent closing
        have read := reads_of_complete before (.tighter operand) run
        simpa using read
  · rename_i separating
    cases run
    cases before with
    | @call _ _ _ _ _ ts vs name opening before kind opens adjacent given =>
        have longer := given.snoc (whole.loosen (Nat.le_refl 1)) separating
        have all : ts ++ name :: opening :: vs ++ us' ++ [t] =
            ts ++ name :: opening :: (vs ++ us' ++ [t]) := by simp
        rw [all]
        exact Before.call before kind opens adjacent longer
  · cases run
  · cases run

theorem reads_of_afterOperand {s s' : State} {least : Nat} {m : Measured} {t : Token}
    {ts us : List Token} (before : Before s.stack ⟨least, []⟩ ts) (operand : Derives 7 us m.expr)
    (run : s.afterOperand least m t = .ok s') : Reads s' (ts ++ us ++ [t]) := by
  unfold State.afterOperand at run
  split at run
  · rename_i op kind
    obtain ⟨⟨stack, nesting, least', m'⟩, settled, run⟩ := ok_of_bind run
    cases run
    obtain ⟨ts', us', tokens, before, whole, stop⟩ :=
      settle_keeps before operand before.least_le (Nat.le_succ_of_le (precedence_le op)) settled
    rw [← tokens]
    refine Before.right before ?_ (whole.loosen (Nat.le_max_left _ _)) kind
    rwa [Nat.max_eq_left op.precedence_pos] at stop
  · cases run
  · exact reads_of_close before operand run
  · exact reads_of_close before operand run
  all_goals cases run

theorem eq_leftParen {kind : TokenKind} (h : kind.isLeftParen = true) : kind = .leftParen := by
  cases kind <;> first | rfl | cases h

namespace Reads

theorem read {s s' : State} {t : Token} {ts : List Token} (h : Reads s ts)
    (run : s.read t = .ok s') : Reads s' (ts ++ [t]) := by
  unfold Reads at h
  unfold State.read at run
  split at run <;> rename_i phase <;> rw [phase] at h
  · obtain ⟨entered, enter, run⟩ := ok_of_bind run
    exact reads_of_startOperand (stack_of_enter enter ▸ h) run
  · obtain ⟨entered, enter, run⟩ := ok_of_bind run
    exact reads_of_startOperand (stack_of_enter enter ▸ h) run
  · obtain ⟨ts', name, rfl, before, kind, stop⟩ := h
    split at run
    · rename_i opens
      obtain ⟨opens, adjacent⟩ := Bool.and_eq_true_iff.1 opens
      cases run
      refine ⟨ts', name, t, by simp, before, kind, eq_leftParen opens, ?_⟩
      rw [of_decide_eq_true adjacent, stop]
    · obtain ⟨⟨m, nesting⟩, signs, run⟩ := ok_of_bind run
      obtain ⟨ts'', us, tokens, before, operand⟩ :=
        before.applySigns (.tighter (.name kind)) signs
      rw [← tokens]
      dsimp only at run
      refine reads_of_afterOperand ?_ operand run
      exact before
  · obtain ⟨ts', name, opening, rfl, before, kind, opens, adjacent⟩ := h
    split at run
    · rename_i closing
      have operand := @Derives.call name opening t _ [] [] kind opens adjacent .none nofun closing
      have read := reads_of_complete before (.tighter operand) run
      simpa using read
    · obtain ⟨entered, enter, run⟩ := ok_of_bind run
      refine reads_of_startOperand ?_ run
      rw [stack_of_enter enter]
      exact .call before kind opens adjacent .nil
  · obtain ⟨ts', us, rfl, before, operand⟩ := h
    exact reads_of_afterOperand before operand run

theorem step {s s' : State} {t : Token} {ts : List Token} (h : Reads s ts)
    (run : s.step t = .ok s') : Reads s' (ts ++ [t]) := by
  obtain ⟨next, read, run⟩ := ok_of_bind run
  cases run
  exact (h.read read : Reads next (ts ++ [t]))

theorem foldlM {s s' : State} {ts us : List Token} (h : Reads s ts)
    (run : us.foldlM State.step s = .ok s') : Reads s' (ts ++ us) := by
  induction us generalizing s ts with
  | nil =>
      cases run
      rwa [List.append_nil]
  | cons t us ih =>
      rw [List.foldlM_cons] at run
      obtain ⟨next, step, run⟩ := ok_of_bind run
      have read := ih (h.step step) run
      rwa [List.append_assoc] at read

end Reads

/-! ## The end of the tokens -/

theorem derives_of_conclude {stack : List Frame} {nesting least : Nat} {m : Measured}
    {ts us : List Token} {e : Expr} (before : Before stack ⟨least, []⟩ ts)
    (operand : Derives 7 us m.expr) (run : State.conclude stack nesting least m = .ok e) :
    Derives 1 (ts ++ us) e := by
  obtain ⟨⟨stack', nesting', least', m'⟩, settled, run⟩ := ok_of_bind run
  obtain ⟨ts', us', tokens, before, whole, stop⟩ :=
    settle_keeps before operand before.least_le (Nat.zero_le 7) settled
  rw [← tokens]
  dsimp only [State.outermost] at run
  cases before with
  | start =>
      cases run
      exact whole
  | @right _ _ _ _ op => exact absurd (Nat.le_of_succ_le_succ stop) (Nat.not_le.2 op.precedence_pos)
  | paren => cases run
  | call => cases run

theorem Reads.finish {s : State} {ts : List Token} {size : Nat} {e : Expr} (h : Reads s ts)
    (run : s.finish size = .ok e) : Derives 1 ts e := by
  unfold Reads at h
  unfold State.finish at run
  split at run <;> rename_i phase <;> rw [phase] at h
  · obtain ⟨entered, enter, run⟩ := ok_of_bind run
    cases run
  · obtain ⟨entered, enter, run⟩ := ok_of_bind run
    cases run
  · obtain ⟨entered, enter, run⟩ := ok_of_bind run
    cases run
  · obtain ⟨ts', name, rfl, before, kind, stop⟩ := h
    obtain ⟨⟨m, nesting⟩, signs, run⟩ := ok_of_bind run
    obtain ⟨ts'', us, tokens, before, operand⟩ :=
      before.applySigns (.tighter (.name kind)) signs
    rw [← tokens]
    exact derives_of_conclude before operand run
  · obtain ⟨ts', us, rfl, before, operand⟩ := h
    exact derives_of_conclude before operand run

theorem derives_of_parseTokens {ts : List Token} {size : Nat} {e : Expr}
    (h : parseTokens ts size = .ok e) : Derives 1 ts e := by
  unfold parseTokens at h
  split at h
  · cases h
  · obtain ⟨s, run, finish⟩ := ok_of_bind h
    have empty : Reads .initial [] := Before.start
    exact (empty.foldlM run).finish finish

end SpanQuery.Parser
