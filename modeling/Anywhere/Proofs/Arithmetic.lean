import Anywhere.Proofs.Grammar

/-!
# Arithmetic without parentheses

An arithmetic expression is written with its operators between its operands and with parentheses
only where the tree has a node for them. Whoever reads the text gives `*` and `/` precedence over
`+` and `-` and combines operators of one kind from left to right, so the tree is found again
exactly when it has a node for parentheses wherever these rules need one.

What the rules need is a matter of how loosely an operator binds. The reader goes down from the
loosest operators to the operands, and is described by one recursion on that number.
-/

namespace Anywhere

/-! ## Operators -/

/-- How loosely an operator of arithmetic binds; all others do not bind at all. -/
def BinaryOp.looseness : BinaryOp → Nat
  | .add => 2
  | .sub => 2
  | .mul => 1
  | .div => 1
  | _ => 0

theorem BinaryOp.looseness_le (op : BinaryOp) : op.looseness ≤ 2 := by
  cases op <;> decide

/-- The operator is one of arithmetic. -/
def BinaryOp.IsArithmetic (op : BinaryOp) : Prop := 0 < op.looseness

instance (op : BinaryOp) : Decidable op.IsArithmetic := inferInstanceAs (Decidable (0 < _))

/-- Operators and operands, without parentheses. -/
inductive Arith (α : Type) where
  | leaf (a : α)
  | op (op : BinaryOp) (left right : Arith α)

namespace Arith

/-- The tree with `f` applied to its leaves. -/
def map (f : α → β) : Arith α → Arith β
  | leaf a => .leaf (f a)
  | op o left right => .op o (left.map f) (right.map f)

/-- The number of operators. -/
def size : Arith α → Nat
  | leaf _ => 0
  | op _ left right => left.size + right.size + 1

@[simp] theorem size_map (f : α → β) (t : Arith α) : (t.map f).size = t.size := by
  induction t with
  | leaf a => rfl
  | op o left right hleft hright => rw [map, size, size, hleft, hright]

end Arith

/-- The expression without its nodes for parentheses. -/
def Expr.tree : Expr → Arith Expr
  | .binary left op right => .op op left.tree right.tree
  | .grouping inner => inner.tree
  | e => .leaf e

/-- Trees of operators and parentheses over columns and integers that are not negative. -/
inductive Expr.Arithmetic : Expr → Prop where
  | column {table : Option String} {name : String} : Arithmetic (.column table name)
  | natural {n : Int64} (h : 0 ≤ n.toInt) : Arithmetic (.literal (.int n))
  | grouping {inner : Expr} (h : Arithmetic inner) : Arithmetic (.grouping inner)
  | binary {left right : Expr} {op : BinaryOp} (hop : op.IsArithmetic) (hleft : Arithmetic left)
      (hright : Arithmetic right) : Arithmetic (.binary left op right)

/-- How loosely an expression is held together. -/
def Expr.looseness : Expr → Nat
  | .binary _ op _ => op.looseness
  | _ => 0

/-- There are parentheses wherever they are needed: no operand is looser than its operator, and none
on the right is as loose. -/
def Expr.Grouped : Expr → Prop
  | .binary left op right =>
    left.Grouped ∧ right.Grouped ∧ left.looseness ≤ op.looseness ∧ right.looseness < op.looseness
  | .grouping inner => inner.Grouped
  | _ => True

/-! ## Reading arithmetic -/

namespace Sql

/-- The operator of arithmetic that a group is. -/
def Group.operator? : Group → Option BinaryOp
  | lexeme (.symbol '+') => some .add
  | lexeme (.symbol '-') => some .sub
  | lexeme (.symbol '*') => some .mul
  | lexeme (.symbol '/') => some .div
  | _ => none

/-- The operator that an item is, if it binds that loosely. -/
def operatorAt (looseness : Nat) (item : Item α) : Option BinaryOp :=
  item.group.operator?.filter fun op => op.looseness == looseness

/-- Reads an expression in which no operator binds more loosely: what is in parentheses, or else an
operand, and then level by level the operators between them. -/
def readAt : Nat → List (Item (Arith (List Group))) → Option (Arith (List Group))
  | 0, [] => none
  | 0, [.parens _ value] => value
  | 0, items => some (.leaf (items.map Item.group))
  | looseness + 1, items => readChain (operatorAt (looseness + 1)) (readAt looseness) .op items

/-- Reads an expression in which any operator may occur. -/
def readSum : List (Item (Arith (List Group))) → Option (Arith (List Group)) := readAt 2

/-- Reads an arithmetic expression. -/
def readArithmetic? (sql : String) : Option (Arith (List Group)) :=
  (groups? sql).bind fun gs => readSum (Group.items readSum gs)

/-- No operator among the groups binds more loosely. -/
def Within (looseness : Nat) (gs : List Group) : Prop :=
  ∀ g ∈ gs, ∀ op, g.operator? = some op → op.looseness ≤ looseness

theorem operatorAt_eq_some_iff {looseness : Nat} {i : Item α} {op : BinaryOp} :
    operatorAt looseness i = some op ↔ i.group.operator? = some op ∧ op.looseness = looseness := by
  rw [operatorAt, Option.filter_eq_some_iff, beq_iff_eq]

theorem operatorAt_item {g : Group} {op : BinaryOp} (h : g.operator? = some op) {looseness : Nat}
    (hop : op.looseness = looseness) (read : List (Item α) → Option α) :
    operatorAt looseness (g.item read) = some op := by
  rw [operatorAt_eq_some_iff, Group.group_item]
  exact ⟨h, hop⟩

theorem operatorAt_eq_none {looseness looseness' : Nat} {items : List (Item α)}
    (h : Within looseness (items.map Item.group)) (hlt : looseness < looseness') :
    ∀ i ∈ items, operatorAt looseness' i = none := by
  intro i hi
  cases hop : operatorAt looseness' i with
  | none => rfl
  | some op =>
    obtain ⟨hgroup, hlooseness⟩ := operatorAt_eq_some_iff.mp hop
    have hle := h i.group (List.mem_map_of_mem hi) op hgroup
    omega

/-- Levels without operators are passed. -/
theorem readAt_of_within {looseness : Nat} {items : List (Item (Arith (List Group)))}
    (h : Within looseness (items.map Item.group)) (more : Nat) :
    readAt (looseness + more) items = readAt looseness items := by
  induction more with
  | zero => rfl
  | succ more ih =>
    rw [← Nat.add_assoc, readAt, readChain_of_none (operatorAt_eq_none h (by omega)), ih]

theorem readAt_zero_lexeme (l : Lexeme) (rest : List (Item (Arith (List Group)))) :
    readAt 0 (.lexeme l :: rest) = some (.leaf (.lexeme l :: rest.map Item.group)) := by
  rw [readAt]
  · rfl
  · exact nofun
  · exact nofun

/-! ## The number of operators -/

mutual

/-- The number of operators in a group. -/
def Group.operatorCount : Group → Nat
  | .lexeme l => if (Group.lexeme l).operator?.isSome then 1 else 0
  | .parens inner => Group.operatorCountOfList inner

/-- The number of operators in groups. -/
def Group.operatorCountOfList : List Group → Nat
  | [] => 0
  | g :: rest => g.operatorCount + Group.operatorCountOfList rest

end

theorem Group.operatorCountOfList_append (gs hs : List Group) :
    operatorCountOfList (gs ++ hs) = operatorCountOfList gs + operatorCountOfList hs := by
  induction gs with
  | nil => rw [List.nil_append, operatorCountOfList, Nat.zero_add]
  | cons g gs ih =>
    rw [List.cons_append, operatorCountOfList, operatorCountOfList, ih, Nat.add_assoc]

theorem Group.operatorCount_of_operator? {g : Group} {op : BinaryOp} (h : g.operator? = some op) :
    g.operatorCount = 1 := by
  cases g with
  | lexeme l => rw [operatorCount, h]; rfl
  | parens inner => cases h

/-- What is read in parentheses has no more operators than stand in them. -/
def Item.Sized : Item (Arith (List Group)) → Prop
  | lexeme _ => True
  | parens inner value => ∀ t, value = some t → t.size ≤ Group.operatorCountOfList inner

/-- What is read has no more operators than there are. -/
theorem size_le_of_readAt {looseness : Nat} {items : List (Item (Arith (List Group)))}
    (hsized : ∀ i ∈ items, i.Sized) {t : Arith (List Group)}
    (h : readAt looseness items = some t) :
    t.size ≤ Group.operatorCountOfList (items.map Item.group) := by
  induction looseness generalizing items t with
  | zero =>
    unfold readAt at h
    split at h
    · cases h
    · next inner value =>
      have hle := hsized _ List.mem_cons_self t h
      simpa [Group.operatorCountOfList, Item.group, Group.operatorCount] using hle
    · cases h
      exact Nat.zero_le _
    · next heq => cases heq
  | succ looseness ih =>
    -- the part in front of the last operator is shorter
    induction hlength : items.length using Nat.strongRecOn generalizing items t with
    | ind n ihlength =>
      subst hlength
      rw [readAt] at h
      rcases operators_none_or_last (operatorAt (looseness + 1)) items with
        hnone | ⟨before, i, op, behind, rfl, hi, hbehind⟩
      · rw [readChain_of_none hnone] at h
        exact ih hsized h
      · obtain ⟨a, b, ha, hb, rfl⟩ := exists_of_readChain_append hi hbehind h
        rw [List.forall_mem_append, List.forall_mem_cons] at hsized
        have hbefore := ihlength before.length (by simp) hsized.1 (t := a) (by rw [readAt, ha]) rfl
        have hbehind' := ih hsized.2.2 hb
        have hone := Group.operatorCount_of_operator? (operatorAt_eq_some_iff.mp hi).1
        rw [List.map_append, List.map_cons, Group.operatorCountOfList_append,
          Group.operatorCountOfList, Arith.size, hone]
        omega

mutual

theorem Group.sized_item (g : Group) : (g.item readSum).Sized := by
  cases g with
  | lexeme l => exact trivial
  | parens inner =>
    intro t ht
    have hle := size_le_of_readAt (Group.sized_items inner) ht
    rwa [Group.map_group_items] at hle

theorem Group.sized_items (gs : List Group) : ∀ i ∈ Group.items readSum gs, i.Sized := by
  cases gs with
  | nil => exact nofun
  | cons g rest => exact List.forall_mem_cons.mpr ⟨g.sized_item, Group.sized_items rest⟩

end

/-! ## Two operands and an operator -/

section Binary

variable {gs hs : List Group} {g : Group} {op : BinaryOp} {looseness : Nat}

theorem within_append : Within looseness (gs ++ hs) ↔ Within looseness gs ∧ Within looseness hs :=
  List.forall_mem_append

theorem items_binary (gs hs : List Group) (g : Group) :
    Group.items readSum (gs ++ g :: hs) =
      Group.items readSum gs ++ g.item readSum :: Group.items readSum hs := by
  rw [Group.items_append, Group.items]

theorem readSum_of_within (h : Within looseness gs) (hle : looseness ≤ 2) :
    readSum (Group.items readSum gs) = readAt looseness (Group.items readSum gs) := by
  obtain ⟨more, hmore⟩ := Nat.exists_eq_add_of_le hle
  have hitems : Within looseness ((Group.items readSum gs).map Item.group) := by
    rwa [Group.map_group_items]
  have hread := readAt_of_within hitems more
  rw [← hmore] at hread
  exact hread

theorem readSum_parens (inner : List Group) :
    readSum (Group.items readSum [.parens inner]) = readSum (Group.items readSum inner) := by
  have hwithin : Within 0 [Group.parens inner] := by
    intro g hg op hop
    rw [List.mem_singleton.mp hg] at hop
    cases hop
  rw [readSum_of_within hwithin (Nat.zero_le 2), Group.items, Group.item, Group.items, readAt]

/-- Where the operands need no parentheses, they are read as they were. -/
theorem readSum_binary (hg : g.operator? = some op) (hop : op.looseness = looseness + 1)
    (hgs : Within (looseness + 1) gs) (hhs : Within looseness hs) :
    readSum (Group.items readSum (gs ++ g :: hs)) =
      (readSum (Group.items readSum gs)).bind fun a =>
        (readSum (Group.items readSum hs)).map (.op op a) := by
  have hle : looseness + 1 ≤ 2 := hop ▸ op.looseness_le
  have hwhole : Within (looseness + 1) (gs ++ g :: hs) := by
    refine within_append.mpr ⟨hgs, List.forall_mem_cons.mpr ⟨fun op' hop' => ?_, ?_⟩⟩
    · obtain rfl := Option.some.inj (hop'.symm.trans hg)
      exact hop.le
    · exact fun h hh op' hop' => (hhs h hh op' hop').trans (Nat.le_succ looseness)
  have hright : ∀ i ∈ Group.items readSum hs, operatorAt (looseness + 1) i = none := by
    refine operatorAt_eq_none ?_ (Nat.lt_succ_self looseness)
    rwa [Group.map_group_items]
  rw [readSum_of_within hwhole hle, readSum_of_within hgs hle, readSum_of_within hhs (by omega),
    items_binary]
  exact readChain_append _ (operatorAt_item hg hop readSum) hright

/-- A looser operator among the groups is combined after all others. -/
theorem exists_looser_of_not_within (hpos : 1 ≤ looseness) (h : ¬ Within looseness gs)
    {t : Arith (List Group)} (ht : readSum (Group.items readSum gs) = some t) :
    ∃ op a b, t = .op op a b ∧ looseness < op.looseness := by
  simp only [Within, not_forall, not_le] at h
  obtain ⟨g, hg, op, hop, hlt⟩ := h
  have htwo : op.looseness = 2 := by
    have hle := op.looseness_le
    omega
  rcases operators_none_or_last (operatorAt 2) (Group.items readSum gs) with
    hnone | ⟨before, i, op', behind, hitems, hi, hbehind⟩
  · -- the looser operator is among the items
    have hitem := operatorAt_item hop htwo readSum
    rw [hnone _ (Group.item_mem_items readSum hg)] at hitem
    cases hitem
  · rw [hitems] at ht
    obtain ⟨a, b, -, -, rfl⟩ := exists_of_readChain_append hi hbehind ht
    refine ⟨op', a, b, rfl, ?_⟩
    have htwo' := (operatorAt_eq_some_iff.mp hi).2
    omega

/-- An operator on the right that is as loose takes all that stands in front of it. -/
theorem exists_smaller_of_not_within (hop : op.looseness = looseness + 1)
    (hwhole : Within (looseness + 1) (gs ++ g :: hs)) (h : ¬ Within looseness hs)
    {t : Arith (List Group)} (ht : readSum (Group.items readSum (gs ++ g :: hs)) = some t) :
    ∃ op a b, t = .op op a b ∧ b.size < Group.operatorCountOfList hs := by
  have hle : looseness + 1 ≤ 2 := hop ▸ op.looseness_le
  rw [readSum_of_within hwhole hle, items_binary] at ht
  rcases operators_none_or_last (operatorAt (looseness + 1)) (Group.items readSum hs) with
    hnone | ⟨before, i, op', behind, hitems, hi, hbehind⟩
  · -- then all operators on the right bind tighter
    refine absurd (fun g' hg' op' hop' => ?_) h
    have hle' := hwhole g' (List.mem_append_right gs (List.mem_cons_of_mem g hg')) op' hop'
    have hne : op'.looseness ≠ looseness + 1 := by
      intro heq
      have hitem := operatorAt_item hop' heq readSum
      rw [hnone _ (Group.item_mem_items readSum hg')] at hitem
      cases hitem
    omega
  · -- the last operator on the right has only what is behind it to its right
    have hcount : Group.operatorCountOfList hs =
        Group.operatorCountOfList (before.map Item.group) +
          (1 + Group.operatorCountOfList (behind.map Item.group)) := by
      have hone := Group.operatorCount_of_operator? (operatorAt_eq_some_iff.mp hi).1
      rw [← Group.map_group_items readSum hs, hitems, List.map_append, List.map_cons,
        Group.operatorCountOfList_append, Group.operatorCountOfList, hone]
    have hsized : ∀ i ∈ behind, i.Sized := by
      have hall := Group.sized_items hs
      rw [hitems, List.forall_mem_append, List.forall_mem_cons] at hall
      exact hall.2.2
    rw [hitems, ← List.cons_append, ← List.append_assoc] at ht
    obtain ⟨a, b, -, hb, rfl⟩ := exists_of_readChain_append hi hbehind ht
    have hsize := size_le_of_readAt hsized hb
    exact ⟨op', a, b, rfl, by omega⟩

end Binary

end Sql

/-! ## Which trees are found again -/

namespace Expr

open Sql

/-- The groups are lexemes and none of them is an operator. -/
def Plain (gs : List Group) : Prop := ∀ g ∈ gs, (∃ l, g = .lexeme l) ∧ g.operator? = none

namespace Plain

variable {gs : List Group}

theorem within (h : Plain gs) (looseness : Nat) : Within looseness gs := by
  intro g hg op hop
  rw [(h g hg).2] at hop
  cases hop

theorem operatorCount (h : Plain gs) : Group.operatorCountOfList gs = 0 := by
  induction gs with
  | nil => rfl
  | cons g gs ih =>
    obtain ⟨⟨l, rfl⟩, hl⟩ := h g List.mem_cons_self
    rw [Group.operatorCountOfList, Group.operatorCount, hl,
      ih fun g' hg' => h g' (List.mem_cons_of_mem _ hg')]
    rfl

/-- Groups without operators are one operand. -/
theorem readSum (h : Plain gs) (hne : gs ≠ []) :
    readSum (Group.items Sql.readSum gs) = some (.leaf gs) := by
  rw [readSum_of_within (h.within 0) (Nat.zero_le 2)]
  obtain ⟨g, rest, rfl⟩ := List.exists_cons_of_ne_nil hne
  obtain ⟨⟨l, rfl⟩, -⟩ := h g List.mem_cons_self
  rw [Group.items, Group.item, readAt_zero_lexeme, Group.map_group_items]

end Plain

theorem groups_column (table : Option String) (name : String) :
    (column table name).groups ≠ [] ∧ Plain (column table name).groups ∧
      Spells (column table name).fragments.sql.toList (column table name).groups := by
  obtain ⟨gs, hne, hspells, hgs⟩ := spells_column table name
  have hgroups : (column table name).groups = gs := groups_eq hspells
  rw [hgroups]
  refine ⟨hne, fun g hg => ?_, hspells⟩
  rcases hgs g hg with ⟨content, rfl⟩ | rfl
  · exact ⟨⟨_, rfl⟩, rfl⟩
  · exact ⟨⟨_, rfl⟩, rfl⟩

theorem groups_natural {n : Int64} (h : 0 ≤ n.toInt) :
    (literal (.int n)).groups ≠ [] ∧ Plain (literal (.int n)).groups ∧
      Spells (literal (.int n)).fragments.sql.toList (literal (.int n)).groups := by
  have hsql : (literal (.int n)).fragments.sql = Number.ofNat n.toInt.natAbs := by
    have hsign : decide (n.toInt < 0) = false := by simpa using h
    simp [fragments, Fragments.ofValue, Value.literal?, Number.ofInt, Number.ofNat, hsign,
      Number.signed]
  have hspells := spells_natural n.toInt.natAbs
  rw [← hsql] at hspells
  have hgroups := groups_eq hspells
  rw [hgroups]
  refine ⟨List.cons_ne_nil _ _, fun g hg => ?_, hspells⟩
  rw [List.mem_singleton.mp hg]
  exact ⟨⟨_, rfl⟩, rfl⟩

theorem spells_grouping {inner : Expr} (h : Spells inner.fragments.sql.toList inner.groups) :
    Spells (grouping inner).fragments.sql.toList [.parens inner.groups] := by
  rw [fragments]
  exact h.parenthesizedSql.spells

/-- The group of an operator of arithmetic. -/
theorem exists_operatorGroup {op : BinaryOp} (h : op.IsArithmetic) :
    ∃ g : Group, (operatorLexemes op).map .lexeme = [g] ∧ g.operator? = some op := by
  cases op with
  | add | sub | mul | div => exact ⟨_, rfl, rfl⟩
  | _ => exact absurd h (by decide)

theorem spells_arithmetic {left right : Expr} {op : BinaryOp} (hop : op.IsArithmetic)
    (hleft : Spells left.fragments.sql.toList left.groups)
    (hright : Spells right.fragments.sql.toList right.groups) :
    ∃ g : Group, g.operator? = some op ∧
      Spells (binary left op right).fragments.sql.toList
        (left.groups ++ g :: right.groups) := by
  obtain ⟨g, hlexemes, hg⟩ := exists_operatorGroup hop
  have hspells := spells_binary op hleft hright
  rw [hlexemes] at hspells
  exact ⟨g, hg, hspells⟩

namespace Arithmetic

theorem spells {e : Expr} (h : e.Arithmetic) : Spells e.fragments.sql.toList e.groups := by
  induction h with
  | column => exact (groups_column _ _).2.2
  | natural h => exact (groups_natural h).2.2
  | grouping _ ih =>
    have hspells := spells_grouping ih
    rwa [groups_eq hspells]
  | binary hop _ _ ihleft ihright =>
    obtain ⟨g, -, hspells⟩ := spells_arithmetic hop ihleft ihright
    rwa [groups_eq hspells]

theorem groups_grouping {inner : Expr} (h : inner.Arithmetic) :
    (Expr.grouping inner).groups = [.parens inner.groups] :=
  groups_eq (spells_grouping h.spells)

theorem groups_binary {left right : Expr} {op : BinaryOp} (hop : op.IsArithmetic)
    (hleft : left.Arithmetic) (hright : right.Arithmetic) :
    ∃ g : Group, g.operator? = some op ∧
      (Expr.binary left op right).groups = left.groups ++ g :: right.groups := by
  obtain ⟨g, hg, hspells⟩ := spells_arithmetic hop hleft.spells hright.spells
  exact ⟨g, hg, groups_eq hspells⟩

theorem operatorCount {e : Expr} (h : e.Arithmetic) :
    Group.operatorCountOfList e.groups = e.tree.size := by
  induction h with
  | column => exact (groups_column _ _).2.1.operatorCount
  | natural h => exact (groups_natural h).2.1.operatorCount
  | grouping h ih =>
    rw [h.groups_grouping, tree, ← ih]
    rfl
  | binary hop hleft hright ihleft ihright =>
    obtain ⟨g, hg, hgroups⟩ := groups_binary hop hleft hright
    rw [hgroups, Group.operatorCountOfList_append, Group.operatorCountOfList,
      Group.operatorCount_of_operator? hg, ihleft, ihright, tree, Arith.size]
    omega

/-- Where parentheses stand wherever they are needed, the expression is as loose as its root. -/
theorem within_of_grouped {e : Expr} (h : e.Arithmetic) (hgrouped : e.Grouped) :
    Within e.looseness e.groups := by
  induction h with
  | column => exact (groups_column _ _).2.1.within _
  | natural h => exact (groups_natural h).2.1.within _
  | grouping h _ =>
    rw [h.groups_grouping]
    intro g hg op hop
    rw [List.mem_singleton.mp hg] at hop
    cases hop
  | binary hop hleft hright ihleft ihright =>
    obtain ⟨hl, hr, hle, hlt⟩ := hgrouped
    obtain ⟨g, hg, hgroups⟩ := groups_binary hop hleft hright
    rw [hgroups]
    refine within_append.mpr ⟨fun g' hg' op' hop' => ?_,
      List.forall_mem_cons.mpr ⟨fun op' hop' => ?_, fun g' hg' op' hop' => ?_⟩⟩
    · exact (ihleft hl g' hg' op' hop').trans hle
    · obtain rfl := Option.some.inj (hop'.symm.trans hg)
      exact le_rfl
    · exact (ihright hr g' hg' op' hop').trans hlt.le

theorem looseness_le_of_within {e : Expr} (h : e.Arithmetic) {looseness : Nat}
    (hwithin : Within looseness e.groups) : e.looseness ≤ looseness := by
  cases h with
  | binary hop hleft hright =>
    obtain ⟨g, hg, hgroups⟩ := groups_binary hop hleft hright
    rw [hgroups] at hwithin
    exact hwithin g (List.mem_append_right _ List.mem_cons_self) _ hg
  | _ => exact Nat.zero_le _

section Operands

variable {left right : Expr} {op : BinaryOp} {looseness : Nat}

/-- Where the operands need no parentheses, the tree is found again when both of them are. -/
theorem readSum_binary_iff (hop : op.looseness = looseness + 1) (hpos : op.IsArithmetic)
    (hleft : left.Arithmetic) (hright : right.Arithmetic)
    (hl : Within (looseness + 1) left.groups) (hr : Within looseness right.groups) :
    readSum (Group.items readSum (Expr.binary left op right).groups) =
        some ((Expr.binary left op right).tree.map Expr.groups) ↔
      readSum (Group.items readSum left.groups) = some (left.tree.map Expr.groups) ∧
      readSum (Group.items readSum right.groups) = some (right.tree.map Expr.groups) := by
  obtain ⟨g, hg, hgroups⟩ := groups_binary hpos hleft hright
  rw [hgroups, readSum_binary hg hop hl hr, tree, Arith.map]
  simp [Option.bind_eq_some_iff]

/-- Where an operand needs parentheses, the tree is not found again. -/
theorem readSum_binary_ne (hop : op.looseness = looseness + 1) (hpos : op.IsArithmetic)
    (hleft : left.Arithmetic) (hright : right.Arithmetic)
    (h : ¬ (Within (looseness + 1) left.groups ∧ Within looseness right.groups)) :
    readSum (Group.items readSum (Expr.binary left op right).groups) ≠
      some ((Expr.binary left op right).tree.map Expr.groups) := by
  obtain ⟨g, hg, hgroups⟩ := groups_binary hpos hleft hright
  rw [hgroups, tree, Arith.map]
  intro hread
  by_cases hwhole : Within (looseness + 1) (left.groups ++ g :: right.groups)
  · -- an operator on the right takes what belongs to the root, and leaves less on its right
    have hr : ¬ Within looseness right.groups := fun hr => h ⟨(within_append.mp hwhole).1, hr⟩
    obtain ⟨op', a, b, htree, hsize⟩ := exists_smaller_of_not_within hop hwhole hr hread
    cases htree
    rw [Arith.size_map, hright.operatorCount] at hsize
    exact Nat.lt_irrefl _ hsize
  · obtain ⟨op', a, b, htree, hlt⟩ :=
      exists_looser_of_not_within (Nat.le_add_left 1 looseness) hwhole hread
    cases htree
    omega

end Operands

theorem readSum_iff {e : Expr} (h : e.Arithmetic) :
    readSum (Group.items readSum e.groups) = some (e.tree.map Expr.groups) ↔ e.Grouped := by
  induction h with
  | column =>
    obtain ⟨hne, hplain, -⟩ := groups_column _ _
    exact iff_of_true (hplain.readSum hne) trivial
  | natural h =>
    obtain ⟨hne, hplain, -⟩ := groups_natural h
    exact iff_of_true (hplain.readSum hne) trivial
  | grouping h ih =>
    rw [h.groups_grouping, readSum_parens]
    exact ih
  | @binary left right op hpos hleft hright ihleft ihright =>
    obtain ⟨looseness, hop⟩ := Nat.exists_eq_add_of_lt hpos
    rw [Nat.zero_add] at hop
    -- the operands are read on their own exactly when none of their operators is looser
    by_cases hwithin : Within (looseness + 1) left.groups ∧ Within looseness right.groups
    · obtain ⟨hl, hr⟩ := hwithin
      have hleft' := hleft.looseness_le_of_within hl
      have hright' := hright.looseness_le_of_within hr
      rw [readSum_binary_iff hop hpos hleft hright hl hr, ihleft, ihright, Grouped]
      constructor
      · rintro ⟨hgl, hgr⟩
        exact ⟨hgl, hgr, by omega, by omega⟩
      · rintro ⟨hgl, hgr, -, -⟩
        exact ⟨hgl, hgr⟩
    · refine iff_of_false (readSum_binary_ne hop hpos hleft hright hwithin) ?_
      rintro ⟨hgl, hgr, hle, hlt⟩
      have hle' : right.looseness ≤ looseness := by omega
      exact hwithin ⟨fun g hg op' hop' => (hleft.within_of_grouped hgl g hg op' hop').trans
        (hle.trans hop.le), fun g hg op' hop' => (hright.within_of_grouped hgr g hg op' hop').trans
        hle'⟩

/-- What is read is found in the groups of the text. -/
theorem read_render {e : Expr} (h : e.Arithmetic) :
    readArithmetic? e.render.sql = Sql.readSum (Group.items Sql.readSum e.groups) := by
  have hgroups : groups? e.render.sql = some e.groups := by
    rw [render_eq_fragments]
    exact h.spells.groups?
  rw [readArithmetic?, hgroups, Option.bind_some]

end Arithmetic

/-- **Which arithmetic survives rendering.** Read by the rules of arithmetic, the text of an
expression gives back its tree exactly when there are parentheses wherever these rules need
them. -/
theorem read_render_iff {e : Expr} (h : e.Arithmetic) :
    readArithmetic? e.render.sql = some (e.tree.map Expr.groups) ↔ e.Grouped := by
  rw [h.read_render]
  exact h.readSum_iff

/-- `(a - (b - 1)) * "c"`, with both pairs of parentheses. -/
def grouped : Expr :=
  .binary
    (.grouping (.binary (.column none "a") .sub
      (.grouping (.binary (.column (some "t.u") "b - ") .sub (.literal (.int 1))))))
    .mul (.column none "c")

/-- It is found again. -/
theorem read_render_grouped :
    grouped.Arithmetic ∧
    readArithmetic? grouped.render.sql = some (grouped.tree.map Expr.groups) := by
  have harithmetic : grouped.Arithmetic :=
    .binary (by decide) (.grouping (.binary (by decide) .column
      (.grouping (.binary (by decide) .column (.natural (by decide)))))) .column
  have hgrouped : grouped.Grouped := by simp [grouped, Grouped, Expr.looseness, BinaryOp.looseness]
  exact ⟨harithmetic, (read_render_iff harithmetic).mpr hgrouped⟩

/-- `a - (b - c)` without its parentheses. -/
def ungrouped : Expr :=
  .binary (.column none "a") .sub (.binary (.column none "b") .sub (.column none "c"))

/-- Its text is read as `(a - b) - c`, from left to right. -/
theorem read_render_ungrouped_ne :
    ungrouped.Arithmetic ∧ ungrouped.render.sql = "\"a\" - \"b\" - \"c\"" ∧
    readArithmetic? ungrouped.render.sql ≠ some (ungrouped.tree.map Expr.groups) := by
  have harithmetic : ungrouped.Arithmetic :=
    .binary (by decide) .column (.binary (by decide) .column .column)
  have hgrouped : ¬ ungrouped.Grouped := by
    rintro ⟨-, -, -, hlt⟩
    exact absurd hlt (by decide)
  refine ⟨harithmetic, by decide +kernel, ?_⟩
  rw [harithmetic.read_render]
  exact mt harithmetic.readSum_iff.mp hgrouped

end Expr

end Anywhere
