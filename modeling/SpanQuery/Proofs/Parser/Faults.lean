import SpanQuery.Proofs.Parser.Parentheses
import SpanQuery.Proofs.Parser.Soundness

namespace SpanQuery

def OperandFault.quoted : OperandFault → List Char
  | .noTokens | .endOfText | .tooDeep _ => []
  | .character c => [c]
  | .numeral lexeme | .unexpected lexeme | .noOperatorBefore lexeme | .noOperandBefore lexeme =>
      lexeme.toList

def SyntaxError.quoted : SyntaxError → List Char
  | .unbalancedParentheses _ => []
  | .unknownOperator operator _ => operator.toList
  | .malformedOperand _ fault => fault.quoted

namespace Parser
open Grammar

/-! ## Errors -/

/-- The errors that may be raised for tokens of a text of that many bytes. -/
inductive Blames (all : List Token) (size : Nat) : SyntaxError → Prop where
  | empty : all = [] → Blames all size (.malformedOperand 0 .noTokens)
  | token {t : Token} {fault : OperandFault} :
      t ∈ all → fault.quoted = [] ∨ fault.quoted = t.lexeme →
      Blames all size (.malformedOperand t.offset fault)
  | stop {fault : OperandFault} : fault.quoted = [] → Blames all size (.malformedOperand size fault)
  | operator {t : Token} :
      t ∈ all → t.kind.isOperator → Blames all size (.unknownOperator t.text t.offset)
  | operators {p t : Token} :
      [p, t] <:+: all → p.kind.isOperator → t.kind.isOperator → p.stop = t.offset →
      Blames all size (.unknownOperator (String.ofList (p.lexeme ++ t.lexeme)) p.offset)
  | opening {offset : Nat} {outer : List Nat} :
      unclosed [] all = some (offset :: outer) → Blames all size (.unbalancedParentheses offset)
  | closing {before behind : List Token} {t : Token} :
      all = before ++ t :: behind → unclosed [] before = some [] → t.kind = .rightParen →
      Blames all size (.unbalancedParentheses t.offset)

def Starts (all : List Token) (place : Nat) : Prop :=
  ∃ t ∈ all, t.offset = place

def Spelt (t : Token) : Prop :=
  ∀ name, t.kind = .name name → Text.byteSize t.lexeme = name.utf8ByteSize

theorem Blames.deep {all : List Token} {size place : Nat} (h : Starts all place) :
    Blames all size (tooDeep place) := by
  obtain ⟨t, mem, rfl⟩ := h
  exact .token mem (.inl rfl)

theorem Blames.lexeme {all : List Token} {size : Nat} {t : Token} {fault : OperandFault}
    (mem : t ∈ all) (quoted : fault.quoted = t.text.toList) :
    Blames all size (.malformedOperand t.offset fault) :=
  .token mem (.inr (quoted.trans String.toList_ofList))

/-! ## Places that are remembered -/

def Level.places (level : Level) : List Nat :=
  level.signs.map Sign.offset

def Frame.places : Frame → List Nat
  | .right _ _ _ offset => [offset]
  | .paren outer _ => outer.places
  | .call outer name opening _ => (opening - name.utf8ByteSize) :: outer.places

def Frame.opening? : Frame → Option Nat
  | .right _ _ _ _ => none
  | .paren _ opening | .call _ _ opening _ => some opening

def Phase.places : Phase → List Nat
  | .expression _ | .operator _ _ => []
  | .operand level | .firstArgument level _ _ => level.places
  | .afterName level name stop => (stop - name.utf8ByteSize) :: level.places

def State.frames (s : State) : List Frame :=
  match s.phase with
  | .firstArgument level name opening => .call level name opening [] :: s.stack
  | _ => s.stack

/-- After the tokens `ts` of a list, a stack remembers only places of tokens in the list, and the
parentheses that `ts` leave open. -/
structure Waits (all ts : List Token) (stack : List Frame) : Prop where
  places : ∀ frame ∈ stack, ∀ place ∈ frame.places, Starts all place
  openings : unclosed [] ts = some (stack.filterMap Frame.opening?)

structure Remembers (all ts : List Token) (s : State) : Prop where
  waits : Waits all ts s.frames
  places : ∀ place ∈ s.phase.places, Starts all place

variable {all ts rest : List Token} {size : Nat} {stack : List Frame} {t : Token}

namespace Waits

theorem other (h : Waits all ts stack) (left : t.kind ≠ .leftParen) (right : t.kind ≠ .rightParen) :
    Waits all (ts ++ [t]) stack := by
  refine ⟨h.places, ?_⟩
  rw [unclosed_append, h.openings, Option.bind_some, unclosed_cons, nest?_other left right]
  rfl

theorem opening (frame : Frame) (h : Waits all ts stack)
    (places : ∀ place ∈ frame.places, Starts all place) (kind : t.kind = .leftParen)
    (opens : frame.opening? = some t.offset) : Waits all (ts ++ [t]) (frame :: stack) := by
  refine ⟨List.forall_mem_cons.2 ⟨places, h.places⟩, ?_⟩
  rw [unclosed_append, h.openings, Option.bind_some, unclosed_cons, nest?_left kind,
    List.filterMap_cons_some opens]
  rfl

theorem closing (frame : Frame) {offset : Nat} (h : Waits all ts (frame :: stack))
    (opens : frame.opening? = some offset) (kind : t.kind = .rightParen) :
    Waits all (ts ++ [t]) stack := by
  refine ⟨(List.forall_mem_cons.1 h.places).2, ?_⟩
  rw [unclosed_append, h.openings, Option.bind_some, unclosed_cons, List.filterMap_cons_some opens,
    nest?_right kind]
  rfl

end Waits

/-! ## Trees and signs -/

namespace Measured

theorem blames_bounded (m : Measured) {place : Nat} (here : Starts all place) :
    Yields (Blames all size) (m.bounded place) fun _ => True := by
  unfold bounded
  split
  · exact .deep here
  · trivial

theorem blames_unary (op : UnaryOp) (m : Measured) {place : Nat} (here : Starts all place) :
    Yields (Blames all size) (m.unary op place) fun _ => True := by
  rcases unary_cases op m place with literal | node
  · rw [literal]
    trivial
  · rw [node]
    exact blames_bounded _ here

end Measured

namespace State

theorem blames_applySigns {signs : List Sign}
    (places : ∀ place ∈ signs.map Sign.offset, Starts all place) (m : Measured) (nesting : Nat) :
    Yields (Blames all size) (applySigns signs m nesting) fun _ => True := by
  induction signs generalizing m nesting with
  | nil => trivial
  | cons sign signs ih =>
      obtain ⟨first, places⟩ := List.forall_mem_cons.1 places
      exact (m.blames_unary sign.op first).bind fun signed _ => ih places signed (nesting - 1)

theorem waits_settle {precedence nesting least : Nat} {m : Measured} (h : Waits all ts stack) :
    Yields (Blames all size) (settle precedence stack nesting least m) fun (stack', _, _, _) =>
      Waits all ts stack' := by
  fun_induction settle precedence stack nesting least m with
  | case1 => exact h
  | case2 outer left op offset stack nesting least m go ih =>
      obtain ⟨first, places⟩ := List.forall_mem_cons.1 h.places
      have here := first offset (List.mem_singleton_self offset)
      exact (Measured.blames_bounded _ here).bind fun joined _ => ih joined ⟨places, h.openings⟩
  | case3 => exact h

theorem blames_enter (s : State) {place : Nat} (deep : Blames all size (tooDeep place)) :
    Yields (Blames all size) (s.enter place) (· = { s with nesting := s.nesting + 1 }) := by
  unfold enter
  split
  · exact deep
  · rfl

/-! ## One token -/

theorem remembers_of_complete {s : State} {level : Level} (h : Waits all ts s.stack)
    (places : ∀ place ∈ level.places, Starts all place) (m : Measured) :
    Yields (Blames all size) (s.complete level m) (Remembers all ts) :=
  (blames_applySigns places m s.nesting).bind fun _ _ => ⟨h, nofun⟩

theorem blames_misplaced (whole : all = ts ++ t :: rest) (operator : t.kind.isOperator) :
    Blames all size (misplaced ts.getLast? t) := by
  have mem : t ∈ all := by simp [whole]
  unfold misplaced
  split
  · rename_i p last
    split
    · rename_i both
      obtain ⟨former, adjacent⟩ := Bool.and_eq_true_iff.1 both
      obtain ⟨before, rfl⟩ := List.getLast?_eq_some_iff.1 last
      refine .operators ⟨before, rest, ?_⟩ former operator (of_decide_eq_true adjacent)
      simp [whole]
    · exact .lexeme mem rfl
  · exact .lexeme mem rfl

theorem remembers_of_startOperand {s : State} {level : Level} (whole : all = ts ++ t :: rest)
    (spelt : Spelt t)
    (previous : s.previous = ts.getLast?) (h : Waits all ts s.stack)
    (places : ∀ place ∈ level.places, Starts all place) :
    Yields (Blames all size) (s.startOperand level t) (Remembers all (ts ++ [t])) := by
  have mem : t ∈ all := by simp [whole]
  have here : Starts all t.offset := ⟨t, mem, rfl⟩
  unfold startOperand
  split
  · rename_i v kind
    exact remembers_of_complete (h.other (by simp [kind]) (by simp [kind])) places _
  · rename_i name kind
    have start : t.stop - name.utf8ByteSize = t.offset := by
      rw [Token.stop, spelt name kind, Nat.add_sub_cancel]
    refine ⟨h.other (by simp [kind]) (by simp [kind]), ?_⟩
    exact List.forall_mem_cons.2 ⟨start ▸ here, places⟩
  · rename_i kind
    exact ⟨h.opening (.paren level t.offset) places kind rfl, nofun⟩
  iterate 2
    rename_i kind
    split
    · exact ⟨h.other (by simp [kind]) (by simp [kind]), List.forall_mem_cons.2 ⟨here, places⟩⟩
    · rw [previous]
      exact blames_misplaced whole (by simp [kind, TokenKind.isOperator])
  · exact .lexeme mem rfl
  · exact .lexeme mem rfl

theorem remembers_of_leave {s : State} {stack : List Frame} {nesting : Nat} {m : Measured}
    (whole : all = ts ++ t :: rest) (h : Waits all ts stack) :
    Yields (Blames all size) (s.leave stack nesting m t) (Remembers all (ts ++ [t])) := by
  have mem : t ∈ all := by simp [whole]
  unfold leave
  dsimp only
  split
  · rename_i level opening stack kind
    have places := (List.forall_mem_cons.1 h.places).1
    exact remembers_of_complete (h.closing (.paren level opening) rfl kind) places m
  · rename_i level name opening args stack kind
    obtain ⟨first, places⟩ := List.forall_mem_cons.1 (List.forall_mem_cons.1 h.places).1
    have kept := h.closing (.call level name opening args) rfl kind
    exact (Measured.blames_bounded _ first).bind fun called _ =>
      remembers_of_complete kept places called
  · rename_i level name opening args stack kind
    have kept := h.other (t := t) (by simp [kind]) (by simp [kind])
    obtain ⟨first, others⟩ := List.forall_mem_cons.1 kept.places
    exact ⟨⟨List.forall_mem_cons.2 ⟨first, others⟩, kept.openings⟩, nofun⟩
  · rename_i kind
    exact .closing whole h.openings kind
  · exact .lexeme mem rfl

theorem remembers_of_afterOperand {s : State} {least : Nat} {m : Measured}
    (whole : all = ts ++ t :: rest) (h : Waits all ts s.stack) :
    Yields (Blames all size) (s.afterOperand least m t) (Remembers all (ts ++ [t])) := by
  have mem : t ∈ all := by simp [whole]
  have close : Yields (Blames all size) (s.close least m t) (Remembers all (ts ++ [t])) :=
    (waits_settle h).bind fun _ kept => remembers_of_leave whole kept
  unfold afterOperand
  split
  · rename_i op kind
    refine (waits_settle h).bind fun (stack, _, _, _) kept => ?_
    have kept := kept.other (t := t) (by simp [kind]) (by simp [kind])
    refine ⟨⟨List.forall_mem_cons.2 ⟨?_, kept.places⟩, kept.openings⟩, nofun⟩
    exact List.forall_mem_singleton.2 ⟨t, mem, rfl⟩
  · rename_i kind
    exact .operator mem (by simp [kind, TokenKind.isOperator])
  · exact close
  · exact close
  all_goals exact .lexeme mem rfl

end State

theorem Remembers.read {s : State} (whole : all = ts ++ t :: rest)
    (spelt : Spelt t)
    (previous : s.previous = ts.getLast?) (h : Remembers all ts s) :
    Yields (Blames all size) (s.read t) (Remembers all (ts ++ [t])) := by
  have mem : t ∈ all := by simp [whole]
  have here : Starts all t.offset := ⟨t, mem, rfl⟩
  obtain ⟨stack, nesting, phase, last⟩ := s
  obtain ⟨waits, places⟩ := h
  cases phase with
  | expression least =>
      refine (State.blames_enter _ (.deep here)).bind fun s same => ?_
      subst same
      exact State.remembers_of_startOperand whole spelt previous waits nofun
  | operand level =>
      refine (State.blames_enter _ (.deep here)).bind fun s same => ?_
      subst same
      exact State.remembers_of_startOperand whole spelt previous waits places
  | afterName level name stop =>
      obtain ⟨first, others⟩ := List.forall_mem_cons.1 places
      unfold State.read
      dsimp only
      split
      · rename_i opens
        obtain ⟨left, adjacent⟩ := Bool.and_eq_true_iff.1 opens
        obtain rfl : t.offset = stop := of_decide_eq_true adjacent
        have opened := waits.opening (.call level name t.offset [])
          (List.forall_mem_cons.2 ⟨first, others⟩) (eq_leftParen left) rfl
        exact ⟨opened, others⟩
      · exact (State.blames_applySigns others _ nesting).bind fun _ _ =>
          State.remembers_of_afterOperand whole waits
  | firstArgument level name opening =>
      unfold State.read
      dsimp only
      split
      · rename_i kind
        exact State.remembers_of_complete (waits.closing _ rfl kind) places _
      · refine (State.blames_enter _ (.deep here)).bind fun s same => ?_
        subst same
        exact State.remembers_of_startOperand whole spelt previous waits nofun
  | operator least m => exact State.remembers_of_afterOperand whole waits

theorem Remembers.foldlM {s : State} {us : List Token} (whole : all = ts ++ us)
    (spelt : ∀ t ∈ all, Spelt t)
    (previous : s.previous = ts.getLast?) (h : Remembers all ts s) :
    Yields (Blames all size) (us.foldlM State.step s) (Remembers all all) := by
  induction us generalizing ts s with
  | nil =>
      rw [List.append_nil] at whole
      exact whole ▸ h
  | cons t us ih =>
      rw [List.foldlM_cons, State.step, bind_assoc]
      refine (h.read whole (spelt t (by simp [whole])) previous).bind fun s' h' => ?_
      exact ih (by simp [whole]) List.getLast?_concat.symm ⟨h'.waits, h'.places⟩

/-! ## The end of the tokens -/

theorem blames_conclude {nesting least : Nat} {m : Measured} (h : Waits all all stack) :
    Yields (Blames all size) (State.conclude stack nesting least m) fun _ => True := by
  refine (State.waits_settle h).bind fun (stack, _, _, m) kept => ?_
  dsimp only [State.outermost]
  split
  · exact .opening kept.openings
  · exact .opening kept.openings
  · trivial

theorem Remembers.finish {s : State} (h : Remembers all all s) :
    Yields (Blames all size) (s.finish size) fun _ => True := by
  obtain ⟨stack, nesting, phase, last⟩ := s
  obtain ⟨waits, places⟩ := h
  cases phase with
  | expression | operand | firstArgument =>
      exact (State.blames_enter _ (.stop rfl)).bind fun _ _ => .stop rfl
  | afterName level name stop =>
      obtain ⟨-, places⟩ := List.forall_mem_cons.1 places
      exact (State.blames_applySigns places _ nesting).bind fun _ _ => blames_conclude waits
  | operator least m => exact blames_conclude waits

theorem blames_parseTokens {ts : List Token} {e : SyntaxError}
    (spelt : ∀ t ∈ ts, Spelt t)
    (h : parseTokens ts size = .error e) : Blames ts size e := by
  have run : Yields (Blames ts size) (parseTokens ts size) fun _ => True := by
    unfold parseTokens
    split
    · rename_i empty
      exact .empty (List.isEmpty_iff.1 empty)
    · have start : Remembers ts [] State.initial := ⟨⟨nofun, rfl⟩, nofun⟩
      exact (start.foldlM (List.nil_append ts).symm spelt rfl).bind fun s kept => kept.finish
  rw [h] at run
  exact run

end Parser

end SpanQuery
