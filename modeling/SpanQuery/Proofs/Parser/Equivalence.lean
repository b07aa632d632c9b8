import SpanQuery.Proofs.Parser.Descent

/-!
# The parser is the descent

What the parser keeps on its stack is what the functions of the descent keep in their calls:

* `Descent.Agrees`: a computation and what follows it do what the parser does.
* `State.exists_run_eq`: where an expression ends, the parser first settles what is open.
* `Cursor.afterExpression_right`, `Cursor.afterExpression_paren`, `Cursor.afterExpression_call`,
  `Cursor.afterExpression_comma`: how the parser goes on where a call of `expression` has returned,
  one lemma for each kind of frame.
* `follows`: each function does what the parser does, by induction on the fuel.
-/

namespace SpanQuery.Parser

/-! ## Agreement -/

namespace Descent

def Agrees (x : Descent α) (K : α → Except SyntaxError β) (y : Except SyntaxError β) : Prop :=
  ∃ result, x.result = some result ∧ y = result >>= K

namespace Agrees

theorem pure {a : α} {K : α → Except SyntaxError β} {y : Except SyntaxError β} (h : y = K a) :
    Agrees (pure a) K y :=
  ⟨.ok a, rfl, h⟩

theorem fail {e : SyntaxError} {K : α → Except SyntaxError β} {y : Except SyntaxError β}
    (h : y = .error e) : Agrees (fail e) K y :=
  ⟨.error e, rfl, h⟩

theorem lift {x : Except SyntaxError α} {K : α → Except SyntaxError β}
    {y : Except SyntaxError β} (h : y = x >>= K) : Agrees (lift x) K y :=
  ⟨x, rfl, h⟩

theorem bind {x : Descent α} {f : α → Descent β} {K' : α → Except SyntaxError γ}
    {K : β → Except SyntaxError γ} {y : Except SyntaxError γ} (h : Agrees x K' y)
    (next : ∀ a, x.result = some (.ok a) → Agrees (f a) K (K' a)) : Agrees (x >>= f) K y := by
  obtain ⟨moments, result⟩ := x
  obtain ⟨result, rfl, rfl⟩ := h
  cases result with
  | error e => exact ⟨.error e, rfl, rfl⟩
  | ok a => exact next a rfl

theorem noted {p : Pending} {left : Option Measured} {x : Descent α}
    {K : α → Except SyntaxError β} {y : Except SyntaxError β} (h : Agrees x K y) :
    Agrees (note p left >>= fun _ => x) K y :=
  h

end Agrees

end Descent

/-! ## The states of a descent -/

namespace State

def run (s : State) (ts : List Token) (size : Nat) : Except SyntaxError Expr := do
  let s ← ts.foldlM step s
  s.finish size

theorem run_cons (s : State) (t : Token) (ts : List Token) (size : Nat) :
    s.run (t :: ts) size = s.read t >>= fun s => { s with previous := some t }.run ts size := by
  rw [run, List.foldlM_cons, bind_assoc, step, bind_assoc]
  rfl

theorem startOperand_congr {s s' : State}
    (h : s.stack = s'.stack ∧ s.nesting = s'.nesting ∧ s.previous = s'.previous) (level : Level)
    (t : Token) : s.startOperand level t = s'.startOperand level t := by
  obtain ⟨stack, nesting, phase, previous⟩ := s
  obtain ⟨stack', nesting', phase', previous'⟩ := s'
  obtain ⟨rfl, rfl, rfl⟩ := h
  unfold startOperand
  split <;> rfl

theorem leave_congr (s s' : State) (stack : List Frame) (nesting : Nat) (m : Measured)
    (t : Token) (previous : Option Token) (f : State → Except SyntaxError α) :
    (s.leave stack nesting m t >>= fun s => f { s with previous }) =
      s'.leave stack nesting m t >>= fun s => f { s with previous } := by
  unfold leave complete
  dsimp only
  split
  · rw [bind_assoc, bind_assoc]
    rfl
  · simp only [bind_assoc]
    rfl
  all_goals rfl

theorem exists_run_eq {least : Nat} {ts : List Token} (stops : Stops least ts) (pos : 0 < least)
    (size : Nat) : ∃ precedence < least, ∃ K, ∀ (s : State) (level : Level) (m : Measured),
      s.operand? = some (level, m) →
      s.run ts size = settled precedence s.stack s.nesting level m >>= K := by
  cases ts with
  | nil => exact ⟨0, pos, _, fun s level m operand => finish_eq operand size⟩
  | cons t ts =>
      have closing (kind : t.kind = .rightParen ∨ t.kind = .comma) (s : State) (level : Level)
          (m : Measured) (operand : s.operand? = some (level, m)) :
          s.run (t :: ts) size = settled 0 s.stack s.nesting level m >>=
            fun r => initial.leave r.1 r.2.1 r.2.2.2 t >>= fun s =>
              { s with previous := some t }.run ts size := by
        rw [run_cons, read_closing operand kind, bind_assoc]
        exact bind_congr fun r =>
          leave_congr s initial r.1 r.2.1 r.2.2.2 t (some t) (·.run ts size)
      rcases stops t rfl with kind | kind | ⟨op, kind, lower⟩
      · exact ⟨0, pos, _, closing (.inl kind)⟩
      · exact ⟨0, pos, _, closing (.inr kind)⟩
      · refine ⟨op.precedence, lower, fun r =>
          State.run ⟨.right r.2.2.1 r.2.2.2 op t.offset :: r.1, r.2.1,
            .expression (op.precedence + 1), some t⟩ ts size, ?_⟩
        intro s level m operand
        rw [run_cons, read_symbol operand kind, bind_assoc]
        rfl

end State

namespace Cursor
variable (c : Cursor) (stack : List Frame) (size : Nat)

def runs (phase : Phase) : Except SyntaxError Expr :=
  State.run ⟨stack, c.nesting, phase, c.previous⟩ c.rest size

def afterExpression (least : Nat) (r : Measured × Cursor) : Except SyntaxError Expr :=
  { r.2 with nesting := r.2.nesting + 1 }.runs stack size (.operator least r.1)

def afterOperand (level : Level) (r : Measured × Cursor) : Except SyntaxError Expr := do
  let (m, nesting) ← State.applySigns level.signs r.1 r.2.nesting
  { r.2 with nesting }.runs stack size (.operator level.least m)

def operand (level : Level) : Except SyntaxError Expr :=
  match c.rest with
  | [] => .error (.malformedOperand size .endOfText)
  | t :: rest => do
      let s ← State.startOperand ⟨stack, c.nesting, .operand level, c.previous⟩ level t
      { s with previous := some t }.run rest size

theorem runs_opening {phase : Phase} {level : Level} {stack' : List Frame}
    (finish : State.finish ⟨stack, c.nesting, phase, c.previous⟩ size =
      State.enter ⟨stack, c.nesting, phase, c.previous⟩ size >>= fun _ =>
        .error (.malformedOperand size .endOfText))
    (read : ∀ t ∈ c.rest.head?, State.read ⟨stack, c.nesting, phase, c.previous⟩ t =
      State.enter ⟨stack', c.nesting, phase, c.previous⟩ t.offset >>= fun s =>
        s.startOperand level t) :
    c.runs stack size phase = c.enter size >>= fun c => c.operand stack' size level := by
  obtain ⟨rest, nesting, previous⟩ := c
  unfold runs
  cases rest with
  | nil =>
      refine finish.trans ?_
      unfold State.enter enter
      dsimp only
      split <;> rfl
  | cons t rest =>
      rw [State.run_cons, read t rfl]
      unfold State.enter enter
      dsimp only
      split
      · rfl
      · change State.startOperand _ _ t >>= _ = State.startOperand _ _ t >>= _
        exact congrArg (· >>= _) (State.startOperand_congr ⟨rfl, rfl, rfl⟩ _ t)

theorem runs_operand (level : Level) :
    c.runs stack size (.operand level) = c.enter size >>= fun c => c.operand stack size level :=
  c.runs_opening stack size rfl fun _ _ => rfl

theorem runs_expression (least : Nat) :
    c.runs stack size (.expression least) =
      c.enter size >>= fun c => c.operand stack size ⟨least, []⟩ :=
  c.runs_opening stack size rfl fun _ _ => rfl

theorem runs_firstArgument {level : Level} {name : String} {opening : Nat}
    (ne : ∀ t ∈ c.rest.head?, t.kind ≠ .rightParen) :
    c.runs stack size (.firstArgument level name opening) =
      c.runs (.call level name opening [] :: stack) size (.expression 1) := by
  rw [runs_expression]
  exact c.runs_opening stack size rfl fun t ht => State.opens_firstArgument rfl t (ne t ht)

theorem runs_afterName {level : Level} {name : String} {stop : Nat}
    (ne : ∀ t ∈ c.rest.head?, (t.kind.isLeftParen && t.offset = stop) = false) :
    c.runs stack size (.afterName level name stop) =
      afterOperand stack size level (.leaf (.variable name), c) := by
  obtain ⟨rest, nesting, previous⟩ := c
  unfold runs
  cases rest with
  | nil => rfl
  | cons t rest =>
      rw [State.run_cons]
      unfold State.read
      dsimp only
      rw [ne t rfl, if_neg Bool.false_ne_true, bind_assoc]
      refine bind_congr fun ⟨m, nesting⟩ => ?_
      exact (State.run_cons ⟨stack, nesting, .operator level.least m, previous⟩ t rest size).symm

theorem afterExpression_right {least outer offset : Nat} {left : Measured} {op : BinaryOp}
    (m : Measured) (stops : Stops least c.rest) (pos : 0 < least) :
    afterExpression (.right outer left op offset :: stack) size least (m, c) =
      Measured.binary op left m offset >>= fun m => c.runs stack size (.operator outer m) := by
  obtain ⟨precedence, lower, K, runs⟩ := State.exists_run_eq stops pos size
  refine (runs _ _ _ rfl).trans ?_
  rw [State.settled_right lower, bind_assoc]
  exact bind_congr fun m =>
    (runs ⟨stack, c.nesting, .operator outer m, c.previous⟩ ⟨outer, []⟩ m rfl).symm

theorem closing_of_stops {t : Token} {rest : List Token} (stops : Stops 1 (t :: rest)) :
    t.kind = .rightParen ∨ t.kind = .comma := by
  rcases stops t rfl with kind | kind | ⟨op, -, lower⟩
  · exact .inl kind
  · exact .inr kind
  · exact absurd lower (Nat.not_lt.2 op.precedence_pos)

theorem runs_leave {t : Token} {rest : List Token} {nesting : Nat} {previous : Option Token}
    {m : Measured} (closing : t.kind = .rightParen ∨ t.kind = .comma)
    (stop : State.settled 0 stack nesting ⟨1, []⟩ m = .ok (stack, nesting, 1, m)) :
    (⟨t :: rest, nesting, previous⟩ : Cursor).runs stack size (.operator 1 m) =
      State.initial.leave stack nesting m t >>= fun s =>
        { s with previous := some t }.run rest size := by
  unfold runs
  rw [State.run_cons, State.read_closing rfl closing, stop]
  exact State.leave_congr _ .initial stack nesting m t (some t) (·.run rest size)

theorem afterExpression_paren {level : Level} {opening : Nat} (m : Measured)
    (stops : Stops 1 c.rest) :
    afterExpression (.paren level opening :: stack) size 1 (m, c) =
      c.close opening >>= fun c => afterOperand stack size level (m, c) := by
  obtain ⟨rest, nesting, previous⟩ := c
  cases rest with
  | nil => rfl
  | cons t rest =>
      have closing := closing_of_stops stops
      refine (runs_leave _ size closing rfl).trans ?_
      unfold close
      rcases closing with kind | kind
      · simp only [State.leave, kind, State.complete, bind_assoc]
        rfl
      · simp only [State.leave, kind]
        rfl

theorem afterExpression_call {level : Level} {name : String} {opening : Nat} {args : List Measured}
    {t : Token} {rest : List Token} {nesting : Nat} {previous : Option Token} (m : Measured)
    (kind : t.kind = .rightParen) :
    afterExpression (.call level name opening args :: stack) size 1
        (m, ⟨t :: rest, nesting, previous⟩) =
      Measured.call name (m :: args).reverse (opening - name.utf8ByteSize) >>= fun called =>
        afterOperand stack size level (called, ⟨rest, nesting, some t⟩) := by
  refine (runs_leave _ size (.inl kind) rfl).trans ?_
  simp only [State.leave, kind, State.complete, bind_assoc]
  rfl

theorem afterExpression_comma {level : Level} {name : String} {opening : Nat}
    {args : List Measured} {t : Token} {rest : List Token} {nesting : Nat}
    {previous : Option Token} (m : Measured) (kind : t.kind = .comma) :
    afterExpression (.call level name opening args :: stack) size 1
        (m, ⟨t :: rest, nesting, previous⟩) =
      (⟨rest, nesting, some t⟩ : Cursor).runs (.call level name opening (m :: args) :: stack) size
        (.expression 1) := by
  refine (runs_leave _ size (.inr kind) rfl).trans ?_
  simp only [State.leave, kind]
  rfl

theorem afterExpression_nil (m : Measured) (stops : Stops 1 c.rest) :
    afterExpression [] size 1 (m, c) = c.whole m := by
  obtain ⟨rest, nesting, previous⟩ := c
  cases rest with
  | nil => rfl
  | cons t rest =>
      have closing := closing_of_stops stops
      refine (runs_leave _ size closing rfl).trans ?_
      unfold whole
      rcases closing with kind | kind
      all_goals
        simp only [State.leave, kind]
        rfl

variable {c stack size}

theorem operand_number {level : Level} {t : Token} {rest : List Token} {v : Float}
    (tokens : c.rest = t :: rest) (kind : t.kind = .number v) :
    c.operand stack size level =
      afterOperand stack size level (.leaf (.literal v), c.read t rest) := by
  simp only [operand, tokens, State.startOperand, kind, State.complete, bind_assoc]
  rfl

theorem operand_sign {level : Level} {t : Token} {rest : List Token} {op : UnaryOp}
    (tokens : c.rest = t :: rest) (kind : t.kind.unaryOp? = some op) :
    c.operand stack size level = (c.read t rest).runs stack size
      (.operand { level with signs := ⟨op, t.offset⟩ :: level.signs }) := by
  simp only [operand, tokens, State.startOperand_sign kind]
  rfl

theorem operand_name {level : Level} {t : Token} {rest : List Token} {name : String}
    (tokens : c.rest = t :: rest) (kind : t.kind = .name name) :
    c.operand stack size level =
      (c.read t rest).runs stack size (.afterName level name t.stop) := by
  simp only [operand, tokens, State.startOperand, kind]
  rfl

theorem operand_paren {level : Level} {t : Token} {rest : List Token}
    (tokens : c.rest = t :: rest) (kind : t.kind = .leftParen) :
    c.operand stack size level =
      (c.read t rest).runs (.paren level t.offset :: stack) size (.expression 1) := by
  simp only [operand, tokens, State.startOperand, kind]
  rfl

theorem runs_afterName_paren {level : Level} {name : String} {stop : Nat} {t : Token}
    {rest : List Token} (tokens : c.rest = t :: rest)
    (adjacent : (t.kind.isLeftParen && t.offset = stop) = true) :
    c.runs stack size (.afterName level name stop) =
      (c.read t rest).runs stack size (.firstArgument level name t.offset) := by
  unfold runs
  rw [tokens, State.run_cons]
  simp only [State.read, adjacent]
  rfl

theorem runs_symbol {least : Nat} {left : Measured} {t : Token} {rest : List Token} {op : BinaryOp}
    (tokens : c.rest = t :: rest) (kind : t.kind = .symbol op) (le : least ≤ op.precedence) :
    c.runs stack size (.operator least left) =
      (c.read t rest).runs (.right least left op t.offset :: stack) size
        (.expression (op.precedence + 1)) := by
  unfold runs
  rw [tokens, State.run_cons, State.read_symbol rfl kind, State.settled_stop le]
  rfl

theorem afterOperand_sign (c : Cursor) (stack : List Frame) (size : Nat) (level : Level)
    (sign : Sign) (m : Measured) :
    afterOperand stack size { level with signs := sign :: level.signs } (m, c) =
      m.unary sign.op sign.offset >>= fun m => afterOperand stack size level (m, c.leave) := by
  unfold afterOperand
  rw [State.applySigns, bind_assoc]
  rfl

end Cursor

/-! ## Calls -/

/-- With fuel for the tokens that are left, two steps for each, every function does what the parser
does, whatever is on the stack. -/
structure Follows (size fuel : Nat) : Prop where
  expression : ∀ p least (c : Cursor) stack, 2 * c.rest.length + 2 ≤ fuel →
    (Descent.expression size fuel p least c).Agrees
      (Cursor.afterExpression stack size least)
      (c.runs stack size (.expression least))
  operators : ∀ p least left (c : Cursor) stack, 2 * c.rest.length + 1 ≤ fuel → 0 < c.nesting →
    (Descent.operators size fuel p least left c).Agrees
      (Cursor.afterExpression stack size least)
      (c.runs stack size (.operator least left))
  unary : ∀ p (c : Cursor) stack level, 2 * c.rest.length + 1 ≤ fuel →
    (Descent.unary size fuel p c).Agrees (Cursor.afterOperand stack size level)
      (c.operand stack size level)
  call : ∀ p name opening (c : Cursor) stack level, 2 * c.rest.length + 4 ≤ fuel →
    (Descent.call size fuel p name opening c).Agrees (Cursor.afterOperand stack size level)
      (c.runs stack size (.firstArgument level name opening))
  arguments : ∀ p name opening args (c : Cursor) stack level, 2 * c.rest.length + 3 ≤ fuel →
    (Descent.arguments size fuel p name opening args c).Agrees
      (Cursor.afterOperand stack size level)
      (c.runs (.call level name opening args :: stack) size (.expression 1))

namespace Follows
variable {size fuel : Nat} (h : Follows size fuel)
include h

theorem expression_succ (p : Pending) (least : Nat) (c : Cursor) (stack : List Frame)
    (enough : 2 * c.rest.length + 2 ≤ fuel + 1) :
    (Descent.expression size (fuel + 1) p least c).Agrees
      (Cursor.afterExpression stack size least)
      (c.runs stack size (.expression least)) := by
  rw [Descent.expression, c.runs_expression]
  refine .noted (.bind (.lift rfl) ?_)
  intro c' entered
  obtain ⟨-, rfl⟩ := Cursor.of_enter (Option.some.inj entered)
  refine .bind (h.unary _ _ stack ⟨least, []⟩ (Nat.le_of_succ_le_succ enough)) ?_
  rintro ⟨left, c'⟩ returned
  obtain ⟨-, back, shorter⟩ := ((keeps size fuel).unary _ _).returned _ returned
  dsimp only at back shorter ⊢
  refine h.operators _ least left c' stack ?_ ?_
  · omega
  · omega

theorem operators_succ (p : Pending) (least : Nat) (left : Measured) (c : Cursor)
    (stack : List Frame) (enough : 2 * c.rest.length + 1 ≤ fuel + 1) (pos : 0 < c.nesting) :
    (Descent.operators size (fuel + 1) p least left c).Agrees
      (Cursor.afterExpression stack size least)
      (c.runs stack size (.operator least left)) := by
  obtain ⟨rest, nesting, previous⟩ := c
  dsimp only at enough pos
  -- The parser stays where it is: only the next token makes it settle what is open.
  have done : (pure (left, (⟨rest, nesting, previous⟩ : Cursor).leave) : Descent _).Agrees
      (Cursor.afterExpression stack size least)
      ((⟨rest, nesting, previous⟩ : Cursor).runs stack size (.operator least left)) := by
    refine .pure ?_
    dsimp only [Cursor.afterExpression, Cursor.leave]
    rw [Nat.sub_add_cancel pos]
  rw [Descent.operators]
  refine .noted ?_
  dsimp only
  split
  · exact done
  · rename_i t rest
    rw [List.length_cons] at enough
    have failed {e : SyntaxError}
        (read : State.afterOperand ⟨stack, nesting, .operator least left, previous⟩ least left t =
          .error e) :
        (⟨t :: rest, nesting, previous⟩ : Cursor).runs stack size (.operator least left) =
          .error e := by
      unfold Cursor.runs
      rw [State.run_cons]
      change (State.afterOperand _ _ _ _ >>= _) = _
      rw [read]
      rfl
    split <;> rename_i kind
    · exact done
    · exact done
    · rename_i op
      split
      · exact done
      · rename_i stronger
        rw [Cursor.runs_symbol rfl kind (Nat.not_lt.1 stronger)]
        refine .bind (h.expression p _ _ _ ?_) ?_
        · change 2 * rest.length + 2 ≤ fuel
          omega
        · rintro ⟨right, c⟩ returned
          obtain ⟨⟨-, back, shorter⟩, stops⟩ :=
            ((keeps size fuel).expression _ _ _).returned _ returned
          dsimp only [Cursor.read] at back shorter stops ⊢
          rw [c.afterExpression_right stack size right stops (Nat.succ_pos _)]
          refine .bind (.lift rfl) fun m _ => ?_
          refine h.operators p least m c stack ?_ ?_
          · omega
          · omega
    all_goals exact .fail (failed (by simp only [State.afterOperand, kind]))

theorem call_succ (p : Pending) (name : String) (opening : Nat) (c : Cursor)
    (stack : List Frame) (level : Level) (enough : 2 * c.rest.length + 4 ≤ fuel + 1) :
    (Descent.call size (fuel + 1) p name opening c).Agrees
      (Cursor.afterOperand stack size level)
      (c.runs stack size (.firstArgument level name opening)) := by
  have first := h.arguments p name opening [] c stack level (Nat.le_of_succ_le_succ enough)
  rw [Descent.call]
  split
  · rename_i tokens
    rw [c.runs_firstArgument stack size (by simp [tokens])]
    exact first
  · rename_i t rest tokens
    split
    · rename_i kind
      refine .pure ?_
      unfold Cursor.runs
      rw [tokens, State.run_cons]
      simp only [State.read, kind, State.complete, bind_assoc]
      rfl
    · rename_i other
      rw [c.runs_firstArgument stack size]
      · exact first
      · rw [tokens]
        rintro _ ⟨⟩ kind
        exact other kind

theorem arguments_succ (p : Pending) (name : String) (opening : Nat) (args : List Measured)
    (c : Cursor) (stack : List Frame) (level : Level) (enough : 2 * c.rest.length + 3 ≤ fuel + 1) :
    (Descent.arguments size (fuel + 1) p name opening args c).Agrees
      (Cursor.afterOperand stack size level)
      (c.runs (.call level name opening args :: stack) size (.expression 1)) := by
  rw [Descent.arguments]
  refine .bind (h.expression p 1 c _ (Nat.le_of_succ_le_succ enough)) ?_
  rintro ⟨m, rest, nesting, previous⟩ returned
  obtain ⟨⟨-, -, shorter⟩, stops⟩ := ((keeps size fuel).expression _ _ _).returned _ returned
  dsimp only at shorter stops ⊢
  split
  · exact .fail rfl
  · rename_i t rest
    rw [List.length_cons] at shorter
    split
    · rename_i kind
      rw [Cursor.afterExpression_comma _ _ m kind]
      refine h.arguments p name opening (m :: args) _ stack level ?_
      change 2 * rest.length + 3 ≤ fuel
      omega
    · rename_i kind
      rw [Cursor.afterExpression_call _ _ m kind]
      exact .bind (.lift rfl) fun called _ => .pure rfl
    · rename_i notComma notParen
      rcases Cursor.closing_of_stops stops with kind | kind
      · exact absurd kind notParen
      · exact absurd kind notComma

theorem unary_succ (p : Pending) (c : Cursor) (stack : List Frame) (level : Level)
    (enough : 2 * c.rest.length + 1 ≤ fuel + 1) :
    (Descent.unary size (fuel + 1) p c).Agrees (Cursor.afterOperand stack size level)
      (c.operand stack size level) := by
  rw [Descent.unary]
  refine .noted ?_
  dsimp only
  split
  · rename_i tokens
    refine .fail ?_
    simp only [Cursor.operand, tokens]
  · rename_i t rest tokens
    rw [tokens, List.length_cons] at enough
    have failed {e : SyntaxError}
        (start : State.startOperand ⟨stack, c.nesting, .operand level, c.previous⟩ level t =
          .error e) : c.operand stack size level = .error e := by
      simp only [Cursor.operand, tokens, start]
      rfl
    split
    · rename_i op kind
      rw [Cursor.operand_sign tokens kind, Cursor.runs_operand]
      refine .noted (.bind (.lift rfl) ?_)
      intro c' entered
      obtain ⟨-, rfl⟩ := Cursor.of_enter (Option.some.inj entered)
      refine .bind (h.unary _ _ _ _ ?_) ?_
      · change 2 * rest.length + 1 ≤ fuel
        omega
      · rintro ⟨operand, c'⟩ -
        dsimp only
        rw [Cursor.afterOperand_sign]
        exact .bind (.lift rfl) fun m _ => .pure rfl
    · rename_i kind
      exact .pure (Cursor.operand_number tokens kind)
    · rename_i name _ kind
      rw [Cursor.operand_name tokens kind]
      -- Without a parenthesis right at its end the name is a variable.
      split
      · rename_i opening rest'
        split
        · rename_i adjacent
          rw [Cursor.runs_afterName_paren rfl adjacent]
          refine h.call p name opening.offset _ stack level ?_
          change 2 * rest'.length + 4 ≤ fuel
          rw [List.length_cons] at enough
          omega
        · rename_i apart
          refine .pure (Cursor.runs_afterName _ _ _ ?_)
          rintro _ ⟨⟩
          exact Bool.eq_false_iff.2 apart
      · exact .pure (Cursor.runs_afterName _ _ _ nofun)
    · rename_i kind
      rw [Cursor.operand_paren tokens kind]
      refine .bind (h.expression p 1 _ _ ?_) ?_
      · change 2 * rest.length + 2 ≤ fuel
        omega
      · rintro ⟨m, c'⟩ returned
        obtain ⟨-, stops⟩ := ((keeps size fuel).expression _ _ _).returned _ returned
        dsimp only at stops ⊢
        rw [c'.afterExpression_paren stack size m stops]
        exact .bind (.lift rfl) fun _ _ => .pure rfl
    all_goals
      rename_i unsigned kind
      refine .fail (failed ?_)
      rw [kind] at unsigned
      simp only [State.startOperand, kind, unsigned]

end Follows

theorem follows (size fuel : Nat) : Follows size fuel := by
  induction fuel with
  | zero => 
      constructor <;> intros <;> omega
  | succ fuel ih =>
      exact ⟨ih.expression_succ, ih.operators_succ, ih.unary_succ, ih.call_succ,
        ih.arguments_succ⟩

/-! ## Whole texts -/

theorem result_text {size fuel : Nat} {ts : List Token} (enough : 2 * ts.length + 2 ≤ fuel) :
    (Descent.text size fuel ts).result = some (parseTokens ts size) := by
  have whole : (Descent.text size fuel ts).Agrees Except.ok (parseTokens ts size) := by
    unfold Descent.text parseTokens
    split
    · exact .fail rfl
    · refine .bind ((follows size fuel).expression ⟨0, 0⟩ 1 ⟨ts, 0, none⟩ [] enough) ?_
      rintro ⟨m, c⟩ returned
      obtain ⟨-, stops⟩ := ((keeps size fuel).expression _ _ _).returned _ returned
      refine .lift ?_
      dsimp only at stops ⊢
      refine (c.afterExpression_nil size m stops).trans ?_
      cases c.whole m <;> rfl
  obtain ⟨result, returned, same⟩ := whole
  rw [returned, same]
  cases result <;> rfl

theorem kept_text (size fuel : Nat) (ts : List Token) :
    ∀ moment ∈ (Descent.text size fuel ts).moments, Kept ⟨0, 0⟩ 0 moment := by
  have holds : (Descent.text size fuel ts).Holds (Kept ⟨0, 0⟩ 0) fun _ => True := by
    unfold Descent.text
    split
    · exact .fail
    · refine ((keeps size fuel).expression ⟨0, 0⟩ 1 ⟨ts, 0, none⟩).bind fun r _ => ?_
      exact .lift fun _ _ => trivial
  exact holds.moments

/-- The calls and the signs that are open while `-(x)` is read. -/
example : ((Descent.text 4 10 [⟨.symbol .sub, ['-'], 0⟩, ⟨.leftParen, ['('], 1⟩,
    ⟨.name "x", ['x'], 2⟩, ⟨.rightParen, [')'], 3⟩]).moments.map fun m => (m.calls, m.signs)) =
      [(1, 0), (1, 0), (1, 1), (1, 1), (2, 1), (2, 1), (2, 1), (1, 0)] := rfl

/-- Accepted trees are shallow enough to evaluate, whatever the text. The parser is the descent,
whose calls leave the nesting as they found it, and counts in its states what is open. In all its
states and at all moments of the descent no more than one level beyond the limit is open, and the
depths that are kept along are those of the trees. -/
theorem parse_bounded (text : String) :
    (∀ e, Expr.ofText? text = .ok e → e.depth ≤ 256) ∧
    (∀ size fuel p c m c',
      (∀ least, (Descent.expression size fuel p least c).result = some (.ok (m, c')) →
        c'.nesting = c.nesting) ∧
      ((Descent.unary size fuel p c).result = some (.ok (m, c')) → c'.nesting = c.nesting)) ∧
    ∀ ts, Lexer.tokens text.toList = .ok ts →
      (∀ us s, us <+: ts → us.foldlM State.step State.initial = .ok s →
        (∀ m ∈ s.trees, m.depth = m.expr.depth) ∧
        s.openExpressions + s.waitingSigns.length = s.nesting + s.phase.unentered ∧
        s.openExpressions + s.waitingSigns.length ≤ 257) ∧
      ∀ fuel, 2 * ts.length + 2 ≤ fuel →
        let descent := Descent.text (Text.byteSize text.toList) fuel ts
        descent.result = some (Expr.ofText? text) ∧
        ∀ moment ∈ descent.moments, (∀ m ∈ moment.left, m.depth = m.expr.depth) ∧
          moment.calls + moment.signs ≤ 257 := by
  refine ⟨fun e accepted => ?_, fun size fuel p c m c' => ⟨fun least returned => ?_,
    fun returned => ?_⟩, fun ts tokens => ⟨fun us s _ run => ?_, fun fuel enough =>
    ⟨?_, fun moment noted => ?_⟩⟩⟩
  · obtain ⟨ts, tokens, accepted⟩ := ok_of_bind accepted
    exact depth_of_parseTokens accepted
  · exact (((keeps size fuel).expression p least c).returned _ returned).1.nesting
  · exact (((keeps size fuel).unary p c).returned _ returned).nesting
  · have counted := State.counted_initial.foldlM run
    exact ⟨fun m hm => (counted.exact m hm).1, counted.open_eq, counted.bound⟩
  · rw [result_text enough, Expr.ofText?, Expr.ofChars?, tokens]
    rfl
  · obtain ⟨levels, exact⟩ := kept_text _ _ _ moment noted
    refine ⟨fun m hm => (exact m hm).1, ?_⟩
    have bound := levels (Nat.zero_le _)
    rwa [Nat.zero_add] at bound

end SpanQuery.Parser
