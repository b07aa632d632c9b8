import Mathlib.Tactic.Choose
import SpanQuery.Proofs.Parser.Grammar

/-!
# Levels of a derivation

How far inside the innermost token of a derivation stands. A parenthesis, that of a call too, and an
operator before an operand open a level each. A right operand opens as many as a charge says: with
no charge the levels are those that a text shows, with a charge of one those that the parser counts.
-/

namespace SpanQuery.Grammar

def innermost : List Nat → Nat
  | [] => 0
  | n :: ns => max (n + 1) (innermost ns)

theorem add_innermost_le {ns : List Nat} {base bound : Nat} (le : base ≤ bound) :
    base + innermost ns ≤ bound ↔ ∀ n ∈ ns, base + 1 + n ≤ bound := by
  induction ns with
  | nil => exact ⟨fun _ => nofun, fun _ => le⟩
  | cons n ns ih =>
      rw [List.forall_mem_cons, ← ih, innermost]
      omega

theorem innermost_le {ns : List Nat} {bound : Nat} :
    innermost ns ≤ bound ↔ ∀ n ∈ ns, n < bound := by
  have apart := @add_innermost_le ns 0 bound (Nat.zero_le bound)
  simpa only [Nat.zero_add, Nat.add_comm 1, Nat.succ_le_iff] using apart

/-- A derivation with its levels. -/
inductive Nested (charge : Nat) : Nat → List Token → Expr → Nat → Prop where
  | tighter {level n : Nat} {ts : List Token} {e : Expr} :
      Nested charge (level + 1) ts e n → Nested charge level ts e n
  | join {level m n : Nat} {ls rs : List Token} {t : Token} {op : BinaryOp} {l r : Expr} :
      op ∈ operators level → t.kind = .symbol op → Nested charge level ls l m →
      Nested charge (level + 1) rs r n →
      Nested charge level (ls ++ t :: rs) (.binary op l r) (max m (charge + n))
  | sign {n : Nat} {ts : List Token} {t : Token} {op : UnaryOp} {e : Expr} :
      t.kind.unaryOp? = some op → Nested charge 7 ts e n →
      Nested charge 7 (t :: ts) (signed op e) (1 + n)
  | number {t : Token} {value : Float} :
      t.kind = .number value → Nested charge 8 [t] (.literal value) 0
  | name {t : Token} {text : String} :
      t.kind = .name text → Nested charge 8 [t] (.variable text) 0
  | call {name opening closing : Token} {text : String} {ts : List Token}
      {args : List (List Token × Expr × Nat)} :
      name.kind = .name text → opening.kind = .leftParen → opening.offset = name.stop →
      Separated (args.map (·.1)) ts → (∀ arg ∈ args, Nested charge 1 arg.1 arg.2.1 arg.2.2) →
      closing.kind = .rightParen →
      Nested charge 8 (name :: opening :: ts ++ [closing]) (.call text (args.map (·.2.1)))
        (innermost (args.map (·.2.2)))
  | paren {n : Nat} {opening closing : Token} {ts : List Token} {e : Expr} :
      opening.kind = .leftParen → Nested charge 1 ts e n → closing.kind = .rightParen →
      Nested charge 8 (opening :: ts ++ [closing]) e (1 + n)

namespace Nested

variable {charge level level' n : Nat} {ts : List Token} {e : Expr}

theorem loosen (h : Nested charge level ts e n) (le : level' ≤ level) :
    Nested charge level' ts e n := by
  obtain ⟨k, rfl⟩ := Nat.le.dest le
  induction k with
  | zero => exact h
  | succ k ih => exact ih (.tighter h) (Nat.le_add_right level' k)

theorem derives (h : Nested charge level ts e n) : Derives level ts e := by
  induction h with
  | tighter _ ih => exact .tighter ih
  | join operator kind _ _ ihl ihr => exact .join operator kind ihl ihr
  | sign kind _ ih => exact .sign kind ih
  | number kind => exact .number kind
  | name kind => exact .name kind
  | @call _ _ _ _ _ args kind opens adjacent separated _ closes ih =>
      have pairs : args.map (·.1) = (args.map fun arg => (arg.1, arg.2.1)).map Prod.fst := by simp
      have trees : args.map (·.2.1) = (args.map fun arg => (arg.1, arg.2.1)).map Prod.snd := by simp
      rw [pairs] at separated
      rw [trees]
      exact .call kind opens adjacent separated (List.forall_mem_map.2 ih) closes
  | paren opens _ closes ih => exact .paren opens ih closes

end Nested

theorem Nested.uncharged {charge level n : Nat} {ts : List Token} {e : Expr}
    (h : Nested charge level ts e n) : ∃ m ≤ n, Nested 0 level ts e m := by
  induction h with
  | tighter _ ih =>
      obtain ⟨m, le, nested⟩ := ih
      exact ⟨m, le, .tighter nested⟩
  | join operator kind _ _ ihl ihr =>
      obtain ⟨l, leLeft, left⟩ := ihl
      obtain ⟨r, leRight, right⟩ := ihr
      exact ⟨_, by omega, .join operator kind left right⟩
  | sign kind _ ih =>
      obtain ⟨m, le, nested⟩ := ih
      exact ⟨_, Nat.add_le_add_left le 1, .sign kind nested⟩
  | number kind => exact ⟨0, Nat.le_refl 0, .number kind⟩
  | name kind => exact ⟨0, Nat.le_refl 0, .name kind⟩
  | @call _ _ _ _ _ args kind opens adjacent separated _ closes ih =>
      choose! levels fewer nested using ih
      have tokens : args.map (·.1) =
          (args.map fun arg => (arg.1, arg.2.1, levels arg)).map (·.1) := by simp
      have trees : args.map (·.2.1) =
          (args.map fun arg => (arg.1, arg.2.1, levels arg)).map (·.2.1) := by simp
      rw [tokens] at separated
      rw [trees]
      refine ⟨_, ?_, .call kind opens adjacent separated (List.forall_mem_map.2 nested) closes⟩
      rw [innermost_le]
      intro n mem
      obtain ⟨arg, given, rfl⟩ := List.mem_map.1 (List.map_map ▸ mem)
      have below := innermost_le.1 (Nat.le_refl (innermost (args.map (·.2.2)))) arg.2.2
        (List.mem_map_of_mem given)
      exact Nat.lt_of_le_of_lt (fewer arg given) below
  | paren opens _ closes ih =>
      obtain ⟨m, le, nested⟩ := ih
      exact ⟨_, Nat.add_le_add_left le 1, .paren opens nested closes⟩

theorem Derives.exists_nested {level : Nat} {ts : List Token} {e : Expr} (h : Derives level ts e)
    (charge : Nat) : ∃ n, Nested charge level ts e n := by
  induction h with
  | tighter _ ih =>
      obtain ⟨n, nested⟩ := ih
      exact ⟨n, .tighter nested⟩
  | join operator kind _ _ ihl ihr =>
      obtain ⟨m, left⟩ := ihl
      obtain ⟨n, right⟩ := ihr
      exact ⟨_, .join operator kind left right⟩
  | sign kind _ ih =>
      obtain ⟨n, nested⟩ := ih
      exact ⟨_, .sign kind nested⟩
  | number kind => exact ⟨0, .number kind⟩
  | name kind => exact ⟨0, .name kind⟩
  | @call _ _ _ _ _ args kind opens adjacent separated _ closes ih =>
      choose! levels nested using ih
      have tokens : args.map Prod.fst = (args.map fun arg => (arg.1, arg.2, levels arg)).map (·.1) := by
        simp
      have trees : args.map Prod.snd =
          (args.map fun arg => (arg.1, arg.2, levels arg)).map (·.2.1) := by simp
      rw [tokens] at separated
      rw [trees]
      exact ⟨_, .call kind opens adjacent separated (List.forall_mem_map.2 nested) closes⟩
  | paren opens _ closes ih =>
      obtain ⟨n, nested⟩ := ih
      exact ⟨_, .paren opens nested closes⟩

end SpanQuery.Grammar
