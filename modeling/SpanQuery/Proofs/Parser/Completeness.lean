import SpanQuery.Proofs.Parser.Levels
import SpanQuery.Proofs.Parser.Nesting

/-!
# Derivable tokens are accepted

The parser follows a derivation until it refuses the nesting. Behind the tokens of a derivation its
state holds the tree, and whatever ends the open expressions next finds that tree where the
derivation started (`Delivers`); every derivation is followed, by induction on it
(`followed_of_nested`).
-/

namespace SpanQuery

namespace Expr

theorem depth_le_depthOfAll {e : Expr} {args : List Expr} (h : e ∈ args) :
    e.depth ≤ depthOfAll args := by
  induction args with
  | nil => cases h
  | cons arg args ih =>
      rw [depthOfAll]
      rcases List.mem_cons.1 h with rfl | h
      · exact Nat.le_max_left _ _
      · exact Nat.le_trans (ih h) (Nat.le_max_right _ _)

theorem depth_le_signed (op : UnaryOp) (e : Expr) : e.depth ≤ (Grammar.signed op e).depth := by
  cases op <;> cases e <;> simp [Grammar.signed, depth]

end Expr

namespace Parser
open Grammar

abbrev Within (room : Prop) (x : Except SyntaxError α) (P : α → Prop) : Prop :=
  Yields (fun e => ¬ room ∧ ∃ offset, e = tooDeep offset) x P

theorem Within.ok {x : Except SyntaxError α} {P : α → Prop} (h : Within True x P) :
    ∃ a, x = .ok a ∧ P a := by
  cases x with
  | ok a => exact ⟨a, rfl, h⟩
  | error e => exact absurd trivial h.1

variable {room : Prop}

/-! ## Trees and signs -/

namespace Measured

def ofExpr (e : Expr) : Measured := ⟨e, e.depth⟩

structure Measures (e : Expr) (m : Measured) : Prop where
  eq : m = ofExpr e
  low : e.depth ≤ maxNesting

theorem measures_leaf {e : Expr} (h : e.depth = 1) : Measures e (leaf e) :=
  ⟨by rw [ofExpr, h, leaf], by rw [h, maxNesting]; omega⟩

theorem within_bounded {e : Expr} (low : room → e.depth ≤ maxNesting) (offset : Nat) :
    Within room ((ofExpr e).bounded offset) (Measures e) := by
  unfold bounded
  split
  · rename_i deep
    exact ⟨fun fits => Nat.not_lt.2 (low fits) deep, offset, rfl⟩
  · rename_i shallow
    exact ⟨rfl, Nat.not_lt.1 shallow⟩

theorem within_unary {op : UnaryOp} {e : Expr} (low : room → (signed op e).depth ≤ maxNesting)
    (offset : Nat) : Within room ((ofExpr e).unary op offset) (Measures (signed op e)) := by
  cases op <;> cases e
  case neg.literal | plus.literal => exact measures_leaf rfl
  all_goals exact within_bounded low offset

theorem within_binary {op : BinaryOp} {l r : Expr}
    (low : room → (Expr.binary op l r).depth ≤ maxNesting) (offset : Nat) :
    Within room (binary op (ofExpr l) (ofExpr r) offset) (Measures (.binary op l r)) :=
  within_bounded low offset

theorem foldr_depth_ofExpr (args : List Expr) :
    ((args.map ofExpr).map depth).foldr max 0 = Expr.depthOfAll args := by
  induction args with
  | nil => rfl
  | cons e args ih =>
      rw [Expr.depthOfAll, ← ih]
      rfl

theorem within_call {name : String} {args : List Expr}
    (low : room → (Expr.call name args).depth ≤ maxNesting) (offset : Nat) :
    Within room (call name (args.map ofExpr) offset) (Measures (.call name args)) := by
  have same : (args.map ofExpr).map expr = args := by
    rw [List.map_map]
    exact List.map_id args
  rw [call, foldr_depth_ofExpr, same]
  exact within_bounded low offset

theorem unary_ofExpr {op : UnaryOp} {e : Expr} (low : (signed op e).depth ≤ maxNesting)
    (offset : Nat) : (ofExpr e).unary op offset = .ok (ofExpr (signed op e)) := by
  obtain ⟨m, run, measures⟩ := (within_unary (fun _ => low) offset).ok
  rw [run, measures.eq]

end Measured

namespace State
open Measured

theorem tooDeep_of_applySigns {signs : List Sign} {m : Measured} {nesting : Nat}
    {fault : SyntaxError} (run : applySigns signs m nesting = .error fault) :
    ∃ offset, fault = tooDeep offset := by
  induction signs generalizing m nesting with
  | nil => cases run
  | cons sign signs ih =>
      rw [applySigns] at run
      cases attach : m.unary sign.op sign.offset with
      | ok signed =>
          rw [attach] at run
          exact ih run
      | error fault' =>
          rw [attach] at run
          cases run
          rcases unary_cases sign.op m sign.offset with literal | node
          · cases literal.symm.trans attach
          · rw [node, bounded] at attach
            split at attach
            · exact ⟨sign.offset, (Except.error.inj attach).symm⟩
            · cases attach

def Attachable (level : Level) (nesting : Nat) (e : Expr) : Prop :=
  ∃ attached, applySigns level.signs (ofExpr e) nesting = .ok attached

theorem attachable_unsigned (least nesting : Nat) (e : Expr) : Attachable ⟨least, []⟩ nesting e :=
  ⟨_, rfl⟩

theorem Attachable.sign {level : Level} {nesting : Nat} {op : UnaryOp} {e : Expr}
    (h : Attachable level nesting (signed op e)) (low : (signed op e).depth ≤ maxNesting)
    (offset : Nat) :
    Attachable { level with signs := ⟨op, offset⟩ :: level.signs } (nesting + 1) e := by
  obtain ⟨attached, attach⟩ := h
  refine ⟨attached, ?_⟩
  rw [applySigns, unary_ofExpr low]
  exact attach

def operand? (s : State) : Option (Level × Measured) :=
  match s.phase with
  | .afterName level name _ => some (level, .leaf (.variable name))
  | .operator least m => some (⟨least, []⟩, m)
  | _ => none

def settled (precedence : Nat) (stack : List Frame) (nesting : Nat) (level : Level)
    (m : Measured) : Except SyntaxError (List Frame × Nat × Nat × Measured) := do
  let (m, nesting) ← applySigns level.signs m nesting
  settle precedence stack nesting level.least m

theorem settled_sign (precedence : Nat) (stack : List Frame) (nesting : Nat) (level : Level)
    (sign : Sign) (m : Measured) :
    settled precedence stack (nesting + 1) { level with signs := sign :: level.signs } m =
      m.unary sign.op sign.offset >>= settled precedence stack nesting level := by
  unfold settled
  rw [applySigns, bind_assoc]
  rfl

theorem settled_right {precedence least : Nat} (lt : precedence < least) (stack : List Frame)
    (nesting outer : Nat) (left : Measured) (op : BinaryOp) (offset : Nat) (m : Measured) :
    settled precedence (.right outer left op offset :: stack) (nesting + 1) ⟨least, []⟩ m =
      Measured.binary op left m offset >>= settled precedence stack nesting ⟨outer, []⟩ := by
  have go : ¬ least ≤ precedence := Nat.not_le.2 lt
  change settle precedence _ (nesting + 1) least m = _
  rw [settle, if_neg go]
  rfl

theorem settled_stop {precedence least : Nat} (le : least ≤ precedence) (stack : List Frame)
    (nesting : Nat) (m : Measured) :
    settled precedence stack nesting ⟨least, []⟩ m = .ok (stack, nesting, least, m) := by
  change settle precedence stack nesting least m = _
  unfold settle
  split
  · rw [if_pos le]
  · rfl

/-! ## The token behind an operand -/

theorem read_eq {s : State} {level : Level} {m : Measured} {t : Token}
    (operand : s.operand? = some (level, m)) (kind : t.kind.isLeftParen = false) :
    s.read t = applySigns level.signs m s.nesting >>= fun (m, nesting) =>
      { s with nesting }.afterOperand level.least m t := by
  obtain ⟨stack, nesting, phase, previous⟩ := s
  cases phase with
  | afterName level name stop =>
      cases operand
      simp only [read, kind, Bool.false_and, Bool.false_eq_true, if_false]
  | operator least m =>
      cases operand
      rfl
  | expression | operand | firstArgument => cases operand

theorem read_symbol {s : State} {level : Level} {m : Measured} {t : Token} {op : BinaryOp}
    (operand : s.operand? = some (level, m)) (kind : t.kind = .symbol op) :
    s.read t = settled op.precedence s.stack s.nesting level m >>=
      fun (stack, nesting, least, m) =>
        .ok { s with
          stack := .right least m op t.offset :: stack
          nesting
          phase := .expression (op.precedence + 1) } := by
  rw [read_eq operand (by rw [kind]; rfl), settled, bind_assoc]
  congr
  funext attached
  simp only [afterOperand, kind]

theorem read_closing {s : State} {level : Level} {m : Measured} {t : Token}
    (operand : s.operand? = some (level, m)) (kind : t.kind = .rightParen ∨ t.kind = .comma) :
    s.read t = settled 0 s.stack s.nesting level m >>=
      fun (stack, nesting, _, m) => s.leave stack nesting m t := by
  have read : s.read t = applySigns level.signs m s.nesting >>= fun (m, nesting) =>
      { s with nesting }.close level.least m t := by
    rcases kind with kind | kind
    all_goals
      rw [read_eq operand (by rw [kind]; rfl)]
      congr
      funext attached
      simp only [afterOperand, kind]
  rw [read, settled, bind_assoc]
  rfl

theorem finish_eq {s : State} {level : Level} {m : Measured}
    (operand : s.operand? = some (level, m)) (size : Nat) :
    s.finish size = settled 0 s.stack s.nesting level m >>=
      fun (stack, _, _, m) => outermost stack m := by
  obtain ⟨stack, nesting, phase, previous⟩ := s
  cases phase with
  | afterName level name stop =>
      cases operand
      rw [settled, bind_assoc]
      rfl
  | operator least m =>
      cases operand
      rfl
  | expression | operand | firstArgument => cases operand

/-! ## Opening an expression -/

def startFrom (s : State) (level : Level) : List Token → Except SyntaxError State
  | [] => .ok s
  | t :: ts => do
      let s ← s.startOperand level t
      ts.foldlM step { s with previous := some t }

theorem startFrom_append (s : State) (level : Level) {ts : List Token} (us : List Token)
    (ne : ts ≠ []) :
    s.startFrom level (ts ++ us) = s.startFrom level ts >>= (us.foldlM step ·) := by
  cases ts with
  | nil => contradiction
  | cons t ts =>
      rw [List.cons_append, startFrom, startFrom, bind_assoc]
      congr
      funext started
      exact List.foldlM_append

theorem startOperand_sign {s : State} {level : Level} {t : Token} {op : UnaryOp}
    (kind : t.kind.unaryOp? = some op) :
    s.startOperand level t =
      .ok { s with phase := .operand { level with signs := ⟨op, t.offset⟩ :: level.signs } } := by
  unfold startOperand
  split <;> rename_i token
  case h_4 | h_5 => rw [kind]
  all_goals
    rw [token] at kind
    cases kind

theorem within_enter {s : State} (low : room → s.nesting + 1 ≤ maxNesting) (offset : Nat) :
    Within room (s.enter offset) fun s' =>
      s' = { s with nesting := s.nesting + 1 } ∧ s.nesting + 1 ≤ maxNesting := by
  unfold enter
  split
  · rename_i deep
    exact ⟨fun fits => Nat.not_lt.2 (low fits) deep, offset, rfl⟩
  · rename_i shallow
    exact ⟨rfl, Nat.not_lt.1 shallow⟩

theorem startFrom_call {name opening : Token} {text : String} (kind : name.kind = .name text)
    (opens : opening.kind = .leftParen) (adjacent : opening.offset = name.stop) (s : State)
    (level : Level) (ts : List Token) :
    ∃ s' : State, s.startFrom level (name :: opening :: ts) = ts.foldlM step s' ∧
      s'.stack = s.stack ∧ s'.nesting = s.nesting ∧
      s'.phase = .firstArgument level text opening.offset := by
  have call : opening.kind.isLeftParen && decide (opening.offset = name.stop) := by
    rw [opens, decide_eq_true adjacent]
    rfl
  refine ⟨⟨s.stack, s.nesting, .firstArgument level text opening.offset, some opening⟩,
    ?_, rfl, rfl, rfl⟩
  rw [startFrom, startOperand, kind]
  change List.foldlM _ _ _ = _
  rw [List.foldlM_cons, step, read]
  dsimp only
  rw [if_pos call]
  rfl

theorem startFrom_paren {opening : Token} (opens : opening.kind = .leftParen) (s : State)
    (level : Level) (ts : List Token) :
    ∃ s' : State, s.startFrom level (opening :: ts) = ts.foldlM step s' ∧
      s'.stack = .paren level opening.offset :: s.stack ∧ s'.nesting = s.nesting ∧
      s'.phase = .expression 1 := by
  refine ⟨⟨.paren level opening.offset :: s.stack, s.nesting, .expression 1, some opening⟩,
    ?_, rfl, rfl, rfl⟩
  rw [startFrom, startOperand, opens]
  rfl

def Opens (s s' : State) (level : Level) : Prop :=
  ∀ t : Token, t.kind ≠ .rightParen →
    s.read t = s'.enter t.offset >>= fun s => s.startOperand level t

theorem opens_expression {s : State} {least : Nat} (phase : s.phase = .expression least) :
    s.Opens s ⟨least, []⟩ := by
  intro t _
  rw [read, phase]

theorem opens_operand {s : State} {level : Level} (phase : s.phase = .operand level) :
    s.Opens s level := by
  intro t _
  rw [read, phase]

theorem opens_firstArgument {s : State} {level : Level} {text : String} {opening : Nat}
    (phase : s.phase = .firstArgument level text opening) :
    s.Opens { s with stack := .call level text opening [] :: s.stack } ⟨1, []⟩ := by
  intro t ne
  rw [read, phase]
  dsimp only
  split
  · contradiction
  · rfl

theorem Opens.foldlM {s s' : State} {level : Level} {t : Token} {ts : List Token}
    {P : State → Prop} (h : s.Opens s' level) (ne : t.kind ≠ .rightParen)
    (low : room → s'.nesting + 1 ≤ maxNesting)
    (next : s'.nesting + 1 ≤ maxNesting →
      Within room ({ s' with nesting := s'.nesting + 1 }.startFrom level (t :: ts)) P) :
    Within room ((t :: ts).foldlM step s) P := by
  rw [List.foldlM_cons, step, h t ne, bind_assoc, bind_assoc]
  refine (within_enter low t.offset).bind ?_
  rintro entered ⟨rfl, low⟩
  exact next low

/-- There is room for the levels of a tree as the next operand. -/
structure Fits (nesting : Nat) (level : Level) (e : Expr) (n : Nat) : Prop where
  levels : nesting + n ≤ maxNesting
  low : e.depth ≤ maxNesting
  attach : Attachable level nesting e

end State

open Measured

/-- The state holds the tree `e`, up to the operators and signs that are still open in it:
whatever ends the open expressions down to a precedence of the level or a looser one finds `e`
at the level where it started. -/
def Delivers (room : Prop) (precedence : Nat) (stack : List Frame) (nesting : Nat) (level : Level)
    (e : Expr) (s : State) : Prop :=
  ∃ level' m x, s.operand? = some (level', m) ∧ Within room x (Measures e) ∧
    ∀ q ≤ precedence, State.settled q s.stack s.nesting level' m =
      x >>= State.settled q stack nesting level

theorem delivers_of_complete {s : State} {level : Level} {m : Measured} {e : Expr}
    (measures : Measures e m) (attach : room → State.Attachable level s.nesting e)
    (precedence : Nat) (previous : Option Token) :
    Within room (s.complete level m >>= fun s => .ok { s with previous })
      (Delivers room precedence s.stack s.nesting level e) := by
  obtain rfl := measures.eq
  unfold State.complete
  cases run : State.applySigns level.signs (ofExpr e) s.nesting with
  | error fault =>
      refine ⟨fun fits => ?_, State.tooDeep_of_applySigns run⟩
      obtain ⟨attached, attaches⟩ := attach fits
      cases run.symm.trans attaches
  | ok attached =>
      refine ⟨⟨level.least, []⟩, attached.1, .ok (ofExpr e), rfl, measures, fun q _ => ?_⟩
      have whole : State.settled q s.stack s.nesting level (ofExpr e) =
          State.settle q s.stack attached.2 level.least attached.1 := by
        rw [State.settled, run]
        rfl
      exact whole.symm

namespace Delivers

variable {precedence nesting : Nat} {stack : List Frame} {level : Level} {e : Expr} {s : State}

theorem mono {precedence' : Nat} (h : Delivers room precedence stack nesting level e s)
    (le : precedence' ≤ precedence) : Delivers room precedence' stack nesting level e s := by
  obtain ⟨level', m, x, operand, tree, settles⟩ := h
  exact ⟨level', m, x, operand, tree, fun q hq => settles q (Nat.le_trans hq le)⟩

theorem attach {precedence' nesting' : Nat} {stack' : List Frame} {level' : Level} {e' : Expr}
    (h : Delivers room precedence stack nesting level e s) (le : precedence' ≤ precedence)
    {f : Measured → Except SyntaxError Measured} (tree : Within room (f (ofExpr e)) (Measures e'))
    (settles : ∀ q ≤ precedence', ∀ m, State.settled q stack nesting level m =
      f m >>= State.settled q stack' nesting' level') :
    Delivers room precedence' stack' nesting' level' e' s := by
  obtain ⟨inner, m, x, operand, before, settled⟩ := h
  refine ⟨inner, m, x >>= f, operand, before.bind fun m measures => ?_, fun q hq => ?_⟩
  · rw [measures.eq]
    exact tree
  · rw [settled q (Nat.le_trans hq le), bind_assoc]
    congr
    funext m
    exact settles q hq m

theorem sign {sign : Sign}
    (h : Delivers room precedence stack (nesting + 1) { level with signs := sign :: level.signs }
      e s) (low : room → (signed sign.op e).depth ≤ maxNesting) :
    Delivers room precedence stack nesting level (signed sign.op e) s :=
  h.attach (Nat.le_refl _) (within_unary low sign.offset) fun q _ m =>
    State.settled_sign q stack nesting level sign m

theorem right {outer offset : Nat} {op : BinaryOp} {l : Expr}
    (h : Delivers room (precedence + 1) (.right outer (ofExpr l) op offset :: stack) (nesting + 1)
      ⟨precedence + 1, []⟩ e s) (low : room → (Expr.binary op l e).depth ≤ maxNesting) :
    Delivers room precedence stack nesting ⟨outer, []⟩ (.binary op l e) s :=
  h.attach (Nat.le_succ _) (within_binary low offset) fun _ hq m =>
    State.settled_right (Nat.lt_succ_of_le hq) stack nesting outer (ofExpr l) op offset m

theorem symbol {least : Nat} {t : Token} {op : BinaryOp}
    (h : Delivers room op.precedence stack nesting ⟨least, []⟩ e s)
    (kind : t.kind = .symbol op) (le : least ≤ op.precedence) :
    Within room (s.step t) fun s' => s'.nesting = nesting ∧
      s'.phase = .expression (op.precedence + 1) ∧
      s'.stack = .right least (ofExpr e) op t.offset :: stack := by
  obtain ⟨level', m, x, operand, tree, settles⟩ := h
  rw [State.step, State.read_symbol operand kind, settles _ (Nat.le_refl _), bind_assoc, bind_assoc]
  refine tree.bind fun left measures => ?_
  rw [State.settled_stop le, measures.eq]
  exact ⟨rfl, rfl, rfl⟩

theorem closing {t : Token} {P : State → Prop}
    (h : Delivers room precedence stack nesting ⟨1, []⟩ e s)
    (kind : t.kind = .rightParen ∨ t.kind = .comma)
    (stop : ∀ m, State.settled 0 stack nesting ⟨1, []⟩ m = .ok (stack, nesting, 1, m))
    (next : ∀ m : Measured, Measures e m →
      Within room (s.leave stack nesting m t >>= fun s => .ok { s with previous := some t }) P) :
    Within room (s.step t) P := by
  obtain ⟨level', m, x, operand, tree, settles⟩ := h
  rw [State.step, State.read_closing operand kind, settles 0 (Nat.zero_le _), bind_assoc, bind_assoc]
  refine tree.bind fun m measures => ?_
  rw [stop]
  exact next m measures

theorem closeParen {opening : Nat} {outer : Level} {t : Token}
    (h : Delivers room precedence (.paren outer opening :: stack) (nesting + 1) ⟨1, []⟩ e s)
    (kind : t.kind = .rightParen) (attach : room → State.Attachable outer nesting e)
    (precedence' : Nat) :
    Within room (s.step t) (Delivers room precedence' stack nesting outer e) := by
  refine h.closing (.inl kind) (fun _ => rfl) fun m measures => ?_
  simp only [State.leave, kind]
  exact delivers_of_complete measures attach precedence' (some t)

theorem closeCall {opening : Nat} {outer : Level} {text : String} {given : List Measured}
    {args : List Expr} {t : Token}
    (h : Delivers room precedence (.call outer text opening given :: stack) (nesting + 1)
      ⟨1, []⟩ e s)
    (kind : t.kind = .rightParen) (all : (ofExpr e :: given).reverse = args.map ofExpr)
    (low : room → (Expr.call text args).depth ≤ maxNesting)
    (attach : room → State.Attachable outer nesting (.call text args)) (precedence' : Nat) :
    Within room (s.step t) (Delivers room precedence' stack nesting outer (.call text args)) := by
  refine h.closing (.inl kind) (fun _ => rfl) fun m measures => ?_
  simp only [State.leave, kind, bind_assoc]
  rw [measures.eq, all]
  refine (within_call low _).bind fun called measures => ?_
  exact delivers_of_complete measures attach precedence' (some t)

theorem comma {opening : Nat} {outer : Level} {text : String} {given : List Measured} {t : Token}
    (h : Delivers room precedence (.call outer text opening given :: stack) (nesting + 1)
      ⟨1, []⟩ e s)
    (kind : t.kind = .comma) :
    Within room (s.step t) fun s' => s'.nesting = nesting ∧ s'.phase = .expression 1 ∧
      s'.stack = .call outer text opening (ofExpr e :: given) :: stack := by
  refine h.closing (.inr kind) (fun _ => rfl) fun m measures => ?_
  simp only [State.leave, kind]
  rw [measures.eq]
  exact ⟨rfl, rfl, rfl⟩

end Delivers

/-! ## Derivations -/

/-- From any state that awaits an operand, at a level that the operators of a derivation continue
and with signs only before its operand, the tokens deliver the tree if it fits there. -/
def Followed (room : Prop) (precedence : Nat) (ts : List Token) (e : Expr) (n : Nat) : Prop :=
  ∀ (s : State) (level : Level), level.least ≤ precedence → level.signs = [] ∨ 7 ≤ precedence →
    s.nesting ≤ maxNesting → (room → State.Fits s.nesting level e n) →
    Within room (s.startFrom level ts) fun s' =>
      Delivers room precedence s.stack s.nesting level e s' ∧ s.nesting + n ≤ maxNesting

theorem Followed.opened {precedence n : Nat} {ts : List Token} {e : Expr} {s s' : State}
    {level : Level} (h : Followed room precedence ts e n) (derives : Derives precedence ts e)
    (opens : s.Opens s' level) (le : level.least ≤ precedence)
    (unsigned : level.signs = [] ∨ 7 ≤ precedence)
    (fits : room → State.Fits (s'.nesting + 1) level e n) :
    Within room (ts.foldlM State.step s) fun s'' =>
      Delivers room precedence s'.stack (s'.nesting + 1) level e s'' ∧
        s'.nesting + 1 + n ≤ maxNesting := by
  obtain ⟨t, rest, rfl, ne⟩ := derives.head
  refine opens.foldlM ne (fun r => ?_) fun low => ?_
  · exact Nat.le_trans (Nat.le_add_right _ n) (fits r).levels
  · exact h { s' with nesting := s'.nesting + 1 } level le unsigned low fits

theorem delivers_of_separated {args : List (List Token × Expr × Nat)} {ts : List Token}
    (separated : Separated (args.map (·.1)) ts)
    (derives : ∀ arg ∈ args, Derives 1 arg.1 arg.2.1)
    (followed : ∀ arg ∈ args, Followed room 1 arg.1 arg.2.1 arg.2.2) (ne : args ≠ [])
    {outer : Level} {text : String} {opening nesting : Nat} {earlier : List Measured}
    {stack : List Frame}
    (fits : room → ∀ arg ∈ args,
      nesting + 1 + arg.2.2 ≤ maxNesting ∧ arg.2.1.depth ≤ maxNesting)
    {s s' : State} (opens : s.Opens s' ⟨1, []⟩)
    (in_call : s'.stack = .call outer text opening earlier :: stack) (here : s'.nesting = nesting) :
    Within room (ts.foldlM State.step s) fun s => (∃ given e,
      (ofExpr e :: given).reverse = earlier.reverse ++ (args.map (·.2.1)).map ofExpr ∧
      Delivers room 1 (.call outer text opening given :: stack) (nesting + 1) ⟨1, []⟩ e s) ∧
      ∀ arg ∈ args, nesting + 1 + arg.2.2 ≤ maxNesting := by
  induction args generalizing ts earlier s s' with
  | nil => contradiction
  | cons arg args ih =>
      obtain ⟨derived, derives⟩ := List.forall_mem_cons.1 derives
      obtain ⟨first, followed⟩ := List.forall_mem_cons.1 followed
      have delivered := first.opened derived opens (Nat.le_refl 1) (.inl rfl) fun r =>
        ⟨here ▸ (fits r arg List.mem_cons_self).1, (fits r arg List.mem_cons_self).2,
          State.attachable_unsigned 1 _ _⟩
      rw [in_call, here] at delivered
      cases args with
      | nil =>
          cases separated
          refine delivered.imp fun s ⟨delivers, low⟩ => ⟨⟨earlier, arg.2.1, ?_, delivers⟩, ?_⟩
          · exact List.reverse_cons
          · exact List.forall_mem_singleton.2 low
      | cons arg' args =>
          cases separated with
          | @more _ _ vs _ comma kind separated =>
              rw [List.foldlM_append]
              refine delivered.bind fun s1 ⟨delivers, low⟩ => ?_
              rw [List.foldlM_cons]
              refine (delivers.comma kind).bind ?_
              rintro s2 ⟨nesting, phase, stack⟩
              refine (ih separated derives followed (List.cons_ne_nil _ _)
                (fun r => (List.forall_mem_cons.1 (fits r)).2) (State.opens_expression phase) stack
                nesting).imp ?_
              rintro s3 ⟨⟨given, e, all, delivers⟩, lower⟩
              refine ⟨⟨given, e, ?_, delivers⟩, List.forall_mem_cons.2 ⟨low, lower⟩⟩
              rw [all]
              simp

theorem followed_call {name opening closing : Token} {text : String} {ts : List Token}
    {args : List (List Token × Expr × Nat)} (kind : name.kind = .name text)
    (opens : opening.kind = .leftParen) (adjacent : opening.offset = name.stop)
    (separated : Separated (args.map (·.1)) ts) (derives : ∀ arg ∈ args, Derives 1 arg.1 arg.2.1)
    (followed : ∀ arg ∈ args, Followed room 1 arg.1 arg.2.1 arg.2.2)
    (closes : closing.kind = .rightParen) :
    Followed room 8 (name :: opening :: ts ++ [closing]) (.call text (args.map (·.2.1)))
      (innermost (args.map (·.2.2))) := by
  intro s level le unsigned low fits
  obtain ⟨s', run, stack, nesting, phase⟩ :=
    State.startFrom_call kind opens adjacent s level (ts ++ [closing])
  rw [List.cons_append, List.cons_append, run, ← stack, ← nesting]
  rw [← nesting] at low
  cases args with
  | nil =>
      cases separated
      rw [List.nil_append, List.foldlM_cons, State.step, State.read, phase]
      dsimp only
      rw [closes]
      have attach (r : room) : State.Attachable level s'.nesting (.call text []) :=
        nesting ▸ (fits r).attach
      refine (delivers_of_complete (measures_leaf rfl) attach 8 (some closing)).bind fun s1 h => ?_
      exact ⟨h, low⟩
  | cons arg args =>
      have enough (r : room) : ∀ some ∈ arg :: args,
          s'.nesting + 1 + some.2.2 ≤ maxNesting ∧ some.2.1.depth ≤ maxNesting := by
        intro some mem
        have levels := (fits r).levels
        rw [← nesting] at levels
        have deep := Expr.depth_le_depthOfAll
          (List.mem_map_of_mem (f := fun some : List Token × Expr × Nat => some.2.1) mem)
        have whole := (fits r).low
        rw [Expr.depth] at whole
        refine ⟨(add_innermost_le low).1 levels some.2.2 (List.mem_map_of_mem mem), ?_⟩
        omega
      rw [List.foldlM_append]
      refine (delivers_of_separated separated derives followed (List.cons_ne_nil _ _) enough
        (State.opens_firstArgument phase) rfl rfl).bind ?_
      rintro s1 ⟨⟨given, e, all, delivers⟩, levels⟩
      rw [List.foldlM_cons]
      have attach (r : room) := nesting ▸ (fits r).attach
      refine (delivers.closeCall closes all (fun r => (fits r).low) attach 8).bind fun s2 h => ?_
      exact ⟨h, (add_innermost_le low).2 (List.forall_mem_map.2 levels)⟩

theorem followed_of_nested {precedence n : Nat} {ts : List Token} {e : Expr}
    (h : Nested 1 precedence ts e n) : Followed room precedence ts e n := by
  induction h with
  | tighter _ ih =>
      intro s level le unsigned low fits
      refine (ih s level (Nat.le_succ_of_le le) (unsigned.imp_right Nat.le_succ_of_le) low fits).imp ?_
      exact fun _ ⟨delivers, levels⟩ => ⟨delivers.mono (Nat.le_succ _), levels⟩
  | @join _ m n ls rs t op l r operator kind left right ihl ihr =>
      intro s level le unsigned low fits
      obtain rfl := mem_operators.1 operator
      obtain ⟨least, signs⟩ := level
      obtain rfl : signs = [] :=
        unsigned.resolve_right (Nat.not_le.2 (Nat.lt_succ_of_le (precedence_le op)))
      obtain ⟨first, rest, rfl, -⟩ := left.derives.head
      rw [State.startFrom_append s _ _ (List.cons_ne_nil first rest)]
      -- The left operand stands at the level of the whole, the right one is charged one more.
      have fitsLeft (h : room) : State.Fits s.nesting ⟨least, []⟩ l m := by
        have levels := (fits h).levels
        have whole := (fits h).low
        rw [Expr.depth] at whole
        exact ⟨by omega, by omega, State.attachable_unsigned _ _ _⟩
      refine (ihl s ⟨least, []⟩ le (.inl rfl) low fitsLeft).bind fun s1 ⟨delivers, lowLeft⟩ => ?_
      rw [List.foldlM_cons]
      refine (delivers.symbol kind le).bind ?_
      rintro s2 ⟨nesting, phase, stack⟩
      have fitsRight (h : room) : State.Fits (s2.nesting + 1) ⟨op.precedence + 1, []⟩ r n := by
        have levels := (fits h).levels
        have whole := (fits h).low
        rw [Expr.depth] at whole
        exact ⟨by omega, by omega, State.attachable_unsigned _ _ _⟩
      refine (ihr.opened right.derives (State.opens_expression phase) (Nat.le_refl _) (.inl rfl)
        fitsRight).imp fun s3 ⟨delivers, lowRight⟩ => ?_
      rw [stack, nesting] at delivers
      exact ⟨delivers.right fun h => (fits h).low, by omega⟩
  | @sign n ts t op e kind nested ih =>
      intro s level le unsigned low fits
      rw [State.startFrom, State.startOperand_sign kind]
      have signs (h : room) : State.Fits (s.nesting + 1)
          { level with signs := ⟨op, t.offset⟩ :: level.signs } e n := by
        obtain ⟨levels, whole, attach⟩ := fits h
        have low := Nat.le_trans (Expr.depth_le_signed op e) whole
        exact ⟨by omega, low, attach.sign whole t.offset⟩
      refine (ih.opened nested.derives (State.opens_operand rfl) ?_ (.inr (Nat.le_refl 7)) ?_).imp ?_
      · exact le
      · exact signs
      · intro s' ⟨delivers, levels⟩
        change s.nesting + 1 + n ≤ maxNesting at levels
        exact ⟨delivers.sign fun h => (fits h).low, by omega⟩
  | @number t value kind =>
      intro s level le unsigned low fits
      rw [State.startFrom, State.startOperand, kind]
      refine (delivers_of_complete (measures_leaf rfl) (fun h => (fits h).attach) 8 (some t)).imp ?_
      exact fun s' delivers => ⟨delivers, low⟩
  | @name t text kind =>
      intro s level le unsigned low fits
      rw [State.startFrom, State.startOperand, kind]
      exact ⟨⟨level, _, .ok (.leaf (.variable text)), rfl, measures_leaf rfl, fun _ _ => rfl⟩, low⟩
  | call kind opens adjacent separated nested closes ih =>
      exact followed_call kind opens adjacent separated (fun arg mem => (nested arg mem).derives) ih
        closes
  | @paren n opening closing ts e opens nested closes ih =>
      intro s level le unsigned low fits
      obtain ⟨s', run, stack, nesting, phase⟩ :=
        State.startFrom_paren opens s level (ts ++ [closing])
      rw [List.cons_append, run, List.foldlM_append]
      have inside (h : room) : State.Fits (s'.nesting + 1) ⟨1, []⟩ e n := by
        have levels := (fits h).levels
        exact ⟨by omega, (fits h).low, State.attachable_unsigned _ _ _⟩
      refine (ih.opened nested.derives (State.opens_expression phase) (Nat.le_refl 1) (.inl rfl)
        inside).bind fun s1 ⟨delivers, levels⟩ => ?_
      rw [stack, nesting] at delivers
      rw [List.foldlM_cons]
      refine (delivers.closeParen closes (fun h => (fits h).attach) 8).bind fun s2 delivers => ?_
      exact ⟨delivers, by omega⟩

/-! ## Whole texts -/

theorem parseTokens_within {n : Nat} {ts : List Token} {e : Expr} (h : Nested 1 1 ts e n)
    (fits : room → e.depth ≤ maxNesting ∧ n < maxNesting) (size : Nat) :
    Within room (parseTokens ts size) fun e' => e' = e ∧ e.depth ≤ maxNesting ∧ n < maxNesting := by
  have start := (followed_of_nested h).opened h.derives (s := State.initial)
    (State.opens_expression rfl) (Nat.le_refl 1) (.inl rfl) fun r =>
      ⟨Nat.add_comm n 1 ▸ (fits r).2, (fits r).1, State.attachable_unsigned _ _ _⟩
  obtain ⟨t, rest, rfl, -⟩ := h.derives.head
  change Within room (List.foldlM _ _ _ >>= _) _
  refine start.bind fun s ⟨delivers, levels⟩ => ?_
  obtain ⟨level, m, x, operand, tree, settles⟩ := delivers
  rw [State.finish_eq operand, settles 0 (Nat.zero_le 1), bind_assoc]
  refine tree.bind fun m measures => ⟨congrArg Measured.expr measures.eq, measures.low, ?_⟩
  change 0 + 1 + n ≤ maxNesting at levels
  omega

theorem parseTokens_of_nested {n : Nat} {ts : List Token} {e : Expr} (h : Nested 1 1 ts e n)
    (size : Nat) :
    if e.depth ≤ maxNesting ∧ n < maxNesting then parseTokens ts size = .ok e
    else ∃ offset, parseTokens ts size = .error (tooDeep offset) := by
  have run := parseTokens_within h id size
  cases result : parseTokens ts size with
  | ok e' =>
      rw [result] at run
      rw [if_pos run.2, run.1]
  | error fault =>
      rw [result] at run
      obtain ⟨no_room, offset, rfl⟩ := run
      rw [if_neg no_room]
      exact ⟨offset, rfl⟩

abbrev UnlessTooDeep (x : Except SyntaxError α) (P : α → Prop) : Prop :=
  Yields (fun e => ∃ offset, e = tooDeep offset) x P

theorem parseTokens_of_derives {ts : List Token} {e : Expr} (h : Derives 1 ts e) (size : Nat) :
    UnlessTooDeep (parseTokens ts size) (· = e) := by
  obtain ⟨n, nested⟩ := h.exists_nested 1
  have run := @parseTokens_within False n ts e nested False.elim size
  exact run.mono (fun _ fault => fault.2) fun _ same => same.1

/-- The parser decides the grammar, but for the nesting that it refuses, and it refuses none that
is written with fewer tokens than the limit. -/
theorem decides_grammar {text : String} {ts : List Token}
    (tokens : Lexer.tokens text.toList = .ok ts) :
    (∀ e, Expr.ofText? text = .ok e → Derives 1 ts e) ∧
    (∀ e, Derives 1 ts e → Expr.ofText? text = .ok e ∨
      256 ≤ ts.length ∧
        ∃ offset fault, Expr.ofText? text = .error (.malformedOperand offset fault) ∧
          fault.message = "expression nested deeper than 256 levels") ∧
    ((∀ e, ¬ Derives 1 ts e) → ∃ fault, Expr.ofText? text = .error fault) := by
  have grouped : Expr.ofText? text = parseTokens ts (Text.byteSize text.toList) := by
    rw [Expr.ofText?, Expr.ofChars?, tokens]
    rfl
  rw [grouped]
  refine ⟨fun e => derives_of_parseTokens, fun e derives => ?_, fun none => ?_⟩
  · have accepted := parseTokens_of_derives derives (Text.byteSize text.toList)
    have refused := parseTokens_refusedBeyond ts (Text.byteSize text.toList)
    cases result : parseTokens ts (Text.byteSize text.toList) with
    | ok e' =>
        rw [result] at accepted
        exact .inl (congrArg _ accepted)
    | error fault =>
        rw [result] at accepted refused
        obtain ⟨offset, rfl⟩ := accepted
        have long : 256 < ts.length + 1 := refused offset rfl
        exact .inr ⟨Nat.le_of_lt_succ long, offset, .tooDeep maxNesting, rfl, by decide⟩
  · cases result : parseTokens ts (Text.byteSize text.toList) with
    | ok e => exact absurd (derives_of_parseTokens result) (none e)
    | error fault => exact ⟨fault, rfl⟩

theorem decides_grammar_power : ∃ ts, Lexer.tokens "-x**f(y)".toList = .ok ts ∧
    ∃ e, e = .binary .pow (.unary .neg (.variable "x")) (.call "f" [.variable "y"]) ∧
      Derives 1 ts e ∧ Expr.ofText? "-x**f(y)" = .ok e := by
  have tokens : Lexer.tokens "-x**f(y)".toList = .ok
      [⟨.symbol .sub, ['-'], 0⟩, ⟨.name "x", ['x'], 1⟩, ⟨.symbol .pow, ['*', '*'], 2⟩,
        ⟨.name "f", ['f'], 4⟩, ⟨.leftParen, ['('], 5⟩, ⟨.name "y", ['y'], 6⟩,
        ⟨.rightParen, [')'], 7⟩] := by
    iterate 7 refine Lexer.tokensFrom_of_token rfl rfl rfl rfl ?_
    exact Lexer.tokensFrom_of_blank rfl
  have left : Derives 7 [⟨.symbol .sub, ['-'], 0⟩, ⟨.name "x", ['x'], 1⟩]
      (.unary .neg (.variable "x")) :=
    @Derives.sign _ _ .neg (.variable "x") rfl (.tighter (.name rfl))
  have arg : Derives 8 [⟨.name "y", ['y'], 6⟩] (.variable "y") := .name rfl
  have right : Derives 8 [⟨.name "f", ['f'], 4⟩, ⟨.leftParen, ['('], 5⟩, ⟨.name "y", ['y'], 6⟩,
      ⟨.rightParen, [')'], 7⟩] (.call "f" [.variable "y"]) := by
    refine @Derives.call _ _ _ "f" [⟨.name "y", ['y'], 6⟩] [(_, .variable "y")] rfl rfl rfl
      (.one _) ?_ rfl
    exact List.forall_mem_singleton.2 (arg.loosen (by decide))
  have whole := @Derives.join 6 _ _ ⟨.symbol .pow, ['*', '*'], 2⟩ .pow _ _ (by decide) rfl
    (.tighter left) (.tighter right)
  have derives := whole.loosen (Nat.le_add_left 1 5)
  refine ⟨_, tokens, _, rfl, derives, ?_⟩
  rcases (decides_grammar tokens).2.1 _ derives with accepted | ⟨long, -⟩
  · exact accepted
  · exact absurd long (by decide)

end Parser

end SpanQuery
