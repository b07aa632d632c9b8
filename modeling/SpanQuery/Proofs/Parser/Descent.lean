import SpanQuery.Proofs.Parser.Depth

/-!
# Grouping by recursive descent

The parser as functions that call each other: an open expression is a call of `expression` that has
not returned, and a sign that waits for its operand is a call of `unary` that has not. Beside its
result a descent notes its moments, with what is open at each of them.
-/

namespace SpanQuery.Parser

/-! ## Computations -/

/-- What is open: calls of `expression`, and prefix operators that wait for their operand. -/
structure Pending where
  calls : Nat
  signs : Nat

/-- A moment of a descent, with the left side that a loop over operators has built. -/
structure Moment extends Pending where
  left : Option Measured

/-- The moments of a computation and its result, if the fuel suffices for one. -/
structure Descent (α : Type) where
  moments : List Moment
  result : Option (Except SyntaxError α)

namespace Descent

instance : Monad Descent where
  pure a := ⟨[], some (.ok a)⟩
  bind x f :=
    match x.result with
    | some (.ok a) => ⟨x.moments ++ (f a).moments, (f a).result⟩
    | some (.error e) => ⟨x.moments, some (.error e)⟩
    | none => ⟨x.moments, none⟩

def lift (x : Except SyntaxError α) : Descent α :=
  ⟨[], some x⟩

def fail (e : SyntaxError) : Descent α :=
  lift (.error e)

def note (p : Pending) (left : Option Measured) : Descent Unit :=
  ⟨[⟨p, left⟩], some (.ok ())⟩

def outOfFuel : Descent α :=
  ⟨[], none⟩

end Descent

/-! ## Functions -/

structure Cursor where
  rest : List Token
  nesting : Nat
  previous : Option Token

namespace Cursor

def read (c : Cursor) (t : Token) (rest : List Token) : Cursor :=
  { c with rest, previous := some t }

def enter (c : Cursor) (size : Nat) : Except SyntaxError Cursor :=
  if maxNesting < c.nesting + 1 then
    .error (tooDeep ((c.rest.head?.map (·.offset)).getD size))
  else .ok { c with nesting := c.nesting + 1 }

def leave (c : Cursor) : Cursor :=
  { c with nesting := c.nesting - 1 }

def close (c : Cursor) (opening : Nat) : Except SyntaxError Cursor :=
  match c.rest with
  | [] => .error (.unbalancedParentheses opening)
  | t :: rest =>
      match t.kind with
      | .rightParen => .ok (c.read t rest)
      | _ => .error (.malformedOperand t.offset (.unexpected t.text))

def whole (c : Cursor) (m : Measured) : Except SyntaxError Expr :=
  match c.rest with
  | [] => .ok m.expr
  | t :: _ =>
      match t.kind with
      | .rightParen => .error (.unbalancedParentheses t.offset)
      | _ => .error (.malformedOperand t.offset (.unexpected t.text))

end Cursor

namespace Descent
variable (size : Nat)

mutual

def expression : Nat → Pending → Nat → Cursor → Descent (Measured × Cursor)
  | 0, _, _, _ => .outOfFuel
  | fuel + 1, p, least, c => do
      let p := { p with calls := p.calls + 1 }
      -- The call is open before the limit is asked, so a refused level is a moment as well.
      .note p none
      let c ← .lift (c.enter size)
      let (left, c) ← unary fuel p c
      operators fuel p least left c
termination_by structural fuel => fuel

def operators : Nat → Pending → Nat → Measured → Cursor → Descent (Measured × Cursor)
  | 0, _, _, _, _ => .outOfFuel
  | fuel + 1, p, least, left, c => do
      .note p (some left)
      match c.rest with
      | [] => pure (left, c.leave)
      | t :: rest =>
          match t.kind with
          | .rightParen | .comma => pure (left, c.leave)
          | .symbol op =>
              if op.precedence < least then pure (left, c.leave)
              else do
                let (right, c) ← expression fuel p (op.precedence + 1) (c.read t rest)
                let left ← .lift (Measured.binary op left right t.offset)
                operators fuel p least left c
          | .bang => .fail (.unknownOperator t.text t.offset)
          | .number _ | .name _ | .leftParen =>
              .fail (.malformedOperand t.offset (.noOperatorBefore t.text))
termination_by structural fuel => fuel

def unary : Nat → Pending → Cursor → Descent (Measured × Cursor)
  | 0, _, _ => .outOfFuel
  | fuel + 1, p, c => do
      .note p none
      match c.rest with
      | [] => .fail (.malformedOperand size .endOfText)
      | t :: rest =>
          match t.kind.unaryOp?, t.kind with
          | some op, _ => do
              let p := { p with signs := p.signs + 1 }
              .note p none
              let c ← .lift ((c.read t rest).enter size)
              let (operand, c) ← unary fuel p c
              let m ← .lift (operand.unary op t.offset)
              pure (m, c.leave)
          | none, .number v => pure (.leaf (.literal v), c.read t rest)
          | none, .name name =>
              match rest with
              | opening :: rest' =>
                  if opening.kind.isLeftParen && opening.offset = t.stop then
                    call fuel p name opening.offset ((c.read t rest).read opening rest')
                  else pure (.leaf (.variable name), c.read t rest)
              | [] => pure (.leaf (.variable name), c.read t rest)
          | none, .leftParen => do
              let (m, c) ← expression fuel p 1 (c.read t rest)
              let c ← .lift (c.close t.offset)
              pure (m, c)
          | none, .symbol _ | none, .bang => .fail (State.misplaced c.previous t)
          | none, .rightParen | none, .comma =>
              .fail (.malformedOperand t.offset (.noOperandBefore t.text))
termination_by structural fuel => fuel

def call : Nat → Pending → String → Nat → Cursor → Descent (Measured × Cursor)
  | 0, _, _, _, _ => .outOfFuel
  | fuel + 1, p, name, opening, c =>
      match c.rest with
      | [] => arguments fuel p name opening [] c
      | t :: rest =>
          match t.kind with
          | .rightParen => pure (.leaf (.call name []), c.read t rest)
          | _ => arguments fuel p name opening [] c
termination_by structural fuel => fuel

def arguments : Nat → Pending → String → Nat → List Measured → Cursor →
    Descent (Measured × Cursor)
  | 0, _, _, _, _, _ => .outOfFuel
  | fuel + 1, p, name, opening, args, c => do
      let (m, c) ← expression fuel p 1 c
      match c.rest with
      | [] => .fail (.unbalancedParentheses opening)
      | t :: rest =>
          match t.kind with
          | .comma => arguments fuel p name opening (m :: args) (c.read t rest)
          | .rightParen => do
              let called ← .lift
                (Measured.call name (m :: args).reverse (opening - name.utf8ByteSize))
              pure (called, c.read t rest)
          | _ => .fail (.malformedOperand t.offset (.unexpected t.text))
termination_by structural fuel => fuel

end

def text (fuel : Nat) (ts : List Token) : Descent Expr :=
  if ts.isEmpty then .fail (.malformedOperand 0 .noTokens)
  else do
    let (m, c) ← expression size fuel ⟨0, 0⟩ 1 ⟨ts, 0, none⟩
    .lift (c.whole m)

/-! ## Results -/

structure Holds (x : Descent α) (P : Moment → Prop) (Q : α → Prop) : Prop where
  moments : ∀ moment ∈ x.moments, P moment
  returned : ∀ a, x.result = some (.ok a) → Q a

namespace Holds
variable {P P' : Moment → Prop} {Q : α → Prop} {R : β → Prop}

theorem outOfFuel : (outOfFuel : Descent α).Holds P Q :=
  ⟨nofun, nofun⟩

theorem fail {e : SyntaxError} : (fail e : Descent α).Holds P Q :=
  ⟨nofun, nofun⟩

theorem pure {a : α} (h : Q a) : (pure a : Descent α).Holds P Q :=
  ⟨nofun, by rintro _ ⟨⟩; exact h⟩

theorem lift {x : Except SyntaxError α} (h : ∀ a, x = .ok a → Q a) : (lift x).Holds P Q :=
  ⟨nofun, fun a returned => h a (Option.some.inj returned)⟩

theorem note {p : Pending} {left : Option Measured} (h : P ⟨p, left⟩) :
    (note p left).Holds P fun _ => True :=
  ⟨List.forall_mem_singleton.2 h, fun _ _ => trivial⟩

theorem bind {x : Descent α} {f : α → Descent β} (h : x.Holds P Q)
    (next : ∀ a, Q a → (f a).Holds P R) : (x >>= f).Holds P R := by
  obtain ⟨moments, result⟩ := x
  obtain ⟨noted, returned⟩ := h
  rcases result with _ | e | a
  · exact ⟨noted, nofun⟩
  · exact ⟨noted, nofun⟩
  · have later := next a (returned a rfl)
    exact ⟨List.forall_mem_append.2 ⟨noted, later.moments⟩, later.returned⟩

theorem mono {x : Descent α} {Q' : α → Prop} (h : x.Holds P Q) (moments : ∀ m, P m → P' m)
    (returned : ∀ a, Q a → Q' a) : x.Holds P' Q' :=
  ⟨fun m hm => moments m (h.moments m hm), fun a ha => returned a (h.returned a ha)⟩

end Holds

end Descent

/-! ## What a call keeps -/

def Stops (least : Nat) (ts : List Token) : Prop :=
  ∀ t ∈ ts.head?, t.kind = .rightParen ∨ t.kind = .comma ∨
    ∃ op, t.kind = .symbol op ∧ op.precedence < least

def Pending.levels (p : Pending) : Nat :=
  p.calls + p.signs

/-- A moment of a call that begins with `p` open and at the given nesting: the levels above the
beginning are within the limit that the nesting leaves, but for one, and a left side is exact. -/
def Kept (p : Pending) (nesting : Nat) (moment : Moment) : Prop :=
  (nesting ≤ maxNesting → nesting + moment.levels ≤ maxNesting + 1 + p.levels) ∧
    ∀ left ∈ moment.left, left.Exact

structure Returned (nesting length : Nat) (r : Measured × Cursor) : Prop where
  exact : r.1.Exact
  nesting : r.2.nesting = nesting
  shorter : r.2.rest.length < length

theorem Cursor.of_enter {c c' : Cursor} {size : Nat} (h : c.enter size = .ok c') :
    c.nesting < maxNesting ∧ c' = { c with nesting := c.nesting + 1 } := by
  unfold enter at h
  split at h
  · cases h
  · rename_i low
    exact ⟨Nat.not_lt.1 low, (Except.ok.inj h).symm⟩

theorem Cursor.of_close {c c' : Cursor} {opening : Nat} (h : c.close opening = .ok c') :
    ∃ t rest, c.rest = t :: rest ∧ t.kind = .rightParen ∧ c' = c.read t rest := by
  unfold close at h
  split at h
  · cases h
  · rename_i t rest tokens
    split at h
    · rename_i kind
      exact ⟨t, rest, tokens, kind, (Except.ok.inj h).symm⟩
    · cases h

namespace Kept
variable {p : Pending} {nesting : Nat}

theorem here : Kept p nesting ⟨p, none⟩ := by
  refine ⟨fun low => ?_, nofun⟩
  exact Nat.add_le_add_right (Nat.le_succ_of_le low) _

theorem left {left : Measured} (exact : left.Exact) : Kept p nesting ⟨p, some left⟩ := by
  refine ⟨here.1, ?_⟩
  rintro _ ⟨⟩
  exact exact

theorem opened {p' : Pending} (one : p'.levels = p.levels + 1) :
    Kept p nesting ⟨p', none⟩ := by
  refine ⟨fun low => ?_, nofun⟩
  change nesting + p'.levels ≤ _
  omega

theorem inner {p' : Pending} {moment : Moment} (one : p'.levels = p.levels + 1)
    (low : nesting < maxNesting) (h : Kept p' (nesting + 1) moment) : Kept p nesting moment := by
  refine ⟨fun _ => ?_, h.2⟩
  have bound := h.1 low
  omega

end Kept

structure Keeps (size fuel : Nat) : Prop where
  expression : ∀ p least c, (Descent.expression size fuel p least c).Holds (Kept p c.nesting)
    fun r => Returned c.nesting c.rest.length r ∧ Stops least r.2.rest
  operators : ∀ p least left c, left.Exact →
    (Descent.operators size fuel p least left c).Holds (Kept p c.nesting)
      fun r => Returned (c.nesting - 1) (c.rest.length + 1) r ∧ Stops least r.2.rest
  unary : ∀ p c, (Descent.unary size fuel p c).Holds (Kept p c.nesting)
    (Returned c.nesting c.rest.length)
  call : ∀ p name opening c, (Descent.call size fuel p name opening c).Holds (Kept p c.nesting)
    (Returned c.nesting c.rest.length)
  arguments : ∀ p name opening args c, (∀ arg ∈ args, Measured.Exact arg) →
    (Descent.arguments size fuel p name opening args c).Holds (Kept p c.nesting)
      (Returned c.nesting c.rest.length)

namespace Keeps
variable {size fuel : Nat} (h : Keeps size fuel)
include h

theorem expression_succ (p : Pending) (least : Nat) (c : Cursor) :
    (Descent.expression size (fuel + 1) p least c).Holds (Kept p c.nesting)
      fun r => Returned c.nesting c.rest.length r ∧ Stops least r.2.rest := by
  rw [Descent.expression]
  have one : ({ p with calls := p.calls + 1 } : Pending).levels = p.levels + 1 :=
    Nat.add_right_comm p.calls 1 p.signs
  refine (Descent.Holds.note (.opened one)).bind fun _ _ => ?_
  refine (Descent.Holds.lift fun _ => Cursor.of_enter).bind ?_
  rintro _ ⟨low, rfl⟩
  refine ((h.unary _ _).mono (fun _ => .inner one low) fun _ => id).bind ?_
  rintro ⟨left, c'⟩ ⟨exact, nesting, shorter⟩
  dsimp only at exact nesting shorter
  refine (h.operators _ least left c' exact).mono ?_ ?_
  · rw [nesting]
    exact fun _ => .inner one low
  · rintro r ⟨⟨exact, nesting', shorter'⟩, stops⟩
    refine ⟨⟨exact, ?_, ?_⟩, stops⟩ <;> omega

theorem operators_succ (p : Pending) (least : Nat) (left : Measured) (c : Cursor)
    (exact : left.Exact) :
    (Descent.operators size (fuel + 1) p least left c).Holds (Kept p c.nesting)
      fun r => Returned (c.nesting - 1) (c.rest.length + 1) r ∧ Stops least r.2.rest := by
  obtain ⟨rest, nesting, previous⟩ := c
  have done (stops : Stops least rest) : Returned (nesting - 1) (rest.length + 1)
      (left, (⟨rest, nesting, previous⟩ : Cursor).leave) ∧ Stops least rest :=
    ⟨⟨exact, rfl, Nat.lt_succ_self _⟩, stops⟩
  rw [Descent.operators]
  refine (Descent.Holds.note (.left exact)).bind fun _ _ => ?_
  dsimp only
  split
  · exact .pure (done nofun)
  · rename_i t rest
    have stops (kind : t.kind = .rightParen ∨ t.kind = .comma ∨
        ∃ op, t.kind = .symbol op ∧ op.precedence < least) : Stops least (t :: rest) := by
      rintro _ ⟨⟩
      exact kind
    split <;> rename_i kind
    · exact .pure (done (stops (.inl kind)))
    · exact .pure (done (stops (.inr (.inl kind))))
    · rename_i op
      split
      · rename_i lower
        exact .pure (done (stops (.inr (.inr ⟨op, kind, lower⟩))))
      · refine (h.expression p _ _).bind ?_
        rintro ⟨right, c⟩ ⟨⟨right_exact, back, shorter⟩, -⟩
        dsimp only [Cursor.read] at right_exact back shorter
        subst back
        refine (Descent.Holds.lift fun m join =>
          Measured.exact_of_binary join exact right_exact).bind fun m exact => ?_
        refine (h.operators p least m c exact).mono (fun _ => id) ?_
        rintro r ⟨⟨exact, nesting, shorter'⟩, stops⟩
        refine ⟨⟨exact, nesting, ?_⟩, stops⟩
        rw [List.length_cons]
        omega
    all_goals exact .fail

theorem unary_succ (p : Pending) (c : Cursor) :
    (Descent.unary size (fuel + 1) p c).Holds (Kept p c.nesting)
      (Returned c.nesting c.rest.length) := by
  obtain ⟨rest, nesting, previous⟩ := c
  rw [Descent.unary]
  refine (Descent.Holds.note .here).bind fun _ _ => ?_
  dsimp only
  split
  · exact .fail
  · rename_i t rest
    have leaf {e : Expr} (depth : e.depth = 1) : Returned nesting (t :: rest).length
        (.leaf e, (⟨t :: rest, nesting, previous⟩ : Cursor).read t rest) :=
      ⟨Measured.exact_leaf depth, rfl, Nat.lt_succ_self _⟩
    split
    · rename_i op kind
      have one : ({ p with signs := p.signs + 1 } : Pending).levels = p.levels + 1 := rfl
      refine (Descent.Holds.note (.opened one)).bind fun _ _ => ?_
      refine (Descent.Holds.lift fun _ => Cursor.of_enter).bind ?_
      rintro _ ⟨low, rfl⟩
      refine ((h.unary _ _).mono (fun _ => .inner one low) fun _ => id).bind ?_
      rintro ⟨operand, c⟩ ⟨exact, back, shorter⟩
      dsimp only [Cursor.read] at exact back shorter
      refine (Descent.Holds.lift fun m signed =>
        Measured.exact_of_unary signed exact).bind fun m exact => ?_
      refine .pure ⟨exact, ?_, Nat.lt_succ_of_lt shorter⟩
      exact (congrArg (· - 1) back : c.nesting - 1 = nesting)
    · exact .pure (leaf rfl)
    · split
      · rename_i opening rest'
        split
        · refine (h.call p _ _ _).mono (fun _ => id) ?_
          rintro r ⟨exact, back, shorter⟩
          refine ⟨exact, back, ?_⟩
          dsimp only [Cursor.read] at shorter
          simp only [List.length_cons]
          omega
        · exact .pure (leaf rfl)
      · exact .pure (leaf rfl)
    · refine (h.expression p _ _).bind ?_
      rintro ⟨m, c⟩ ⟨⟨exact, back, shorter⟩, -⟩
      dsimp only [Cursor.read] at exact back shorter
      refine (Descent.Holds.lift fun _ => Cursor.of_close).bind ?_
      rintro _ ⟨closing, rest', tokens, -, rfl⟩
      dsimp only at tokens
      refine .pure ⟨exact, back, ?_⟩
      rw [tokens, List.length_cons] at shorter
      change rest'.length < rest.length + 1
      omega
    all_goals exact .fail

theorem call_succ (p : Pending) (name : String) (opening : Nat) (c : Cursor) :
    (Descent.call size (fuel + 1) p name opening c).Holds (Kept p c.nesting)
      (Returned c.nesting c.rest.length) := by
  rw [Descent.call]
  have arguments := h.arguments p name opening [] c nofun
  split
  · exact arguments
  · rename_i t rest tokens
    split
    · refine .pure ⟨Measured.exact_leaf rfl, rfl, ?_⟩
      rw [tokens]
      exact Nat.lt_succ_self _
    · exact arguments

theorem arguments_succ (p : Pending) (name : String) (opening : Nat) (args : List Measured)
    (c : Cursor) (exact : ∀ arg ∈ args, Measured.Exact arg) :
    (Descent.arguments size (fuel + 1) p name opening args c).Holds (Kept p c.nesting)
      (Returned c.nesting c.rest.length) := by
  rw [Descent.arguments]
  refine (h.expression p 1 c).bind ?_
  rintro ⟨m, c'⟩ ⟨⟨last, back, shorter⟩, -⟩
  dsimp only at last back shorter ⊢
  have all : ∀ arg ∈ m :: args, Measured.Exact arg := List.forall_mem_cons.2 ⟨last, exact⟩
  split
  · exact .fail
  · rename_i t rest tokens
    rw [tokens, List.length_cons] at shorter
    have shorter : rest.length < c.rest.length := Nat.lt_of_succ_lt shorter
    split
    · rw [← back]
      refine (h.arguments p name opening (m :: args) (c'.read t rest) all).mono (fun _ => id) ?_
      rintro r ⟨exact, back', shorter'⟩
      exact ⟨exact, back', Nat.lt_trans shorter' shorter⟩
    · refine (Descent.Holds.lift fun called join =>
        Measured.exact_of_call join ?_).bind fun called exact => ?_
      · exact fun arg harg => all arg (List.mem_reverse.1 harg)
      · exact .pure ⟨exact, back, shorter⟩
    · exact .fail

end Keeps

theorem keeps (size fuel : Nat) : Keeps size fuel := by
  induction fuel with
  | zero =>
      constructor <;> intros
      all_goals
        simp only [Descent.expression, Descent.operators, Descent.unary, Descent.call,
          Descent.arguments]
        exact .outOfFuel
  | succ fuel ih =>
      exact ⟨ih.expression_succ, ih.operators_succ, ih.unary_succ, ih.call_succ,
        ih.arguments_succ⟩

end SpanQuery.Parser
