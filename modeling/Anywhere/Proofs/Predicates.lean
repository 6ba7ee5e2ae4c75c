import Anywhere.Proofs.Grammar
import Anywhere.Proofs.Isolation

/-!
# Predicates mean what their text says

A predicate is a tree, and its text is not: whoever reads the text finds its structure again by the
rules of SQL, by which parentheses go first, then `NOT`, then `AND`, then `OR`. Only `OR` and `NOT`
put parentheses around what they are made of, and it is shown here that this is enough. What is read
need not be the tree that was written, for conjunctions in a conjunction leave no trace; it has the
same atoms in the same order, and the same truth value whatever the truth values of the atoms are.

The invariant that carries this through the tree is that the text of a predicate can be read as a
conjunction, so that it can stand in one.
-/

namespace Anywhere

/-! ## Truth values -/

/-- The truth values of SQL. -/
inductive Truth where
  | fails
  | unknown
  | holds
deriving DecidableEq, Repr

namespace Truth

def not : Truth → Truth
  | fails => holds
  | unknown => unknown
  | holds => fails

def and : Truth → Truth → Truth
  | holds, t => t
  | fails, _ => fails
  | unknown, fails => fails
  | unknown, _ => unknown

def or : Truth → Truth → Truth
  | fails, t => t
  | holds, _ => holds
  | unknown, holds => holds
  | unknown, _ => unknown

end Truth

/-- What connects predicates. -/
inductive Connective where
  | and
  | or
deriving DecidableEq, Repr

namespace Connective

/-- The connective in SQL. -/
def keyword : Connective → String
  | and => "AND"
  | or => "OR"

theorem keyword_mem (op : Connective) : op.keyword ∈ ["AND", "OR"] := by
  cases op <;> decide

def truth : Connective → Truth → Truth → Truth
  | and => Truth.and
  | or => Truth.or

/-- What no predicates at all amount to. -/
def neutral : Connective → Truth
  | and => .holds
  | or => .fails

theorem truth_assoc (op : Connective) (a b c : Truth) :
    op.truth (op.truth a b) c = op.truth a (op.truth b c) := by
  cases op <;> cases a <;> cases b <;> cases c <;> rfl

theorem truth_neutral (op : Connective) (a : Truth) : op.truth a op.neutral = a := by
  cases op <;> cases a <;> rfl

end Connective

/-- A predicate as it is read, with its atoms. -/
inductive Formula (α : Type) where
  | atom (a : α)
  | negation (inner : Formula α)
  | binary (op : Connective) (left right : Formula α)

namespace Formula

/-- The formula with `f` applied to its atoms. -/
def map (f : α → β) : Formula α → Formula β
  | atom a => .atom (f a)
  | negation inner => .negation (inner.map f)
  | binary op left right => .binary op (left.map f) (right.map f)

/-- The atoms from left to right. -/
def atoms : Formula α → List α
  | atom a => [a]
  | negation inner => inner.atoms
  | binary _ left right => left.atoms ++ right.atoms

/-- The truth value under given truth values of the atoms. -/
def truth (value : α → Truth) : Formula α → Truth
  | atom a => value a
  | negation inner => (inner.truth value).not
  | binary op left right => op.truth (left.truth value) (right.truth value)

end Formula

mutual

/-- The truth value of a predicate under given truth values of its atoms. -/
def Expr.truth (value : Expr → Truth) : Expr → Truth
  | .always => .holds
  | .never => .fails
  | .conj items => Expr.truthOfList value .and items
  | .disj items => Expr.truthOfList value .or items
  | .negation inner => (inner.truth value).not
  | .grouping inner => inner.truth value
  | e => value e

/-- The truth value of connected predicates. -/
def Expr.truthOfList (value : Expr → Truth) (op : Connective) : List Expr → Truth
  | [] => op.neutral
  | e :: rest => op.truth (e.truth value) (Expr.truthOfList value op rest)

end

mutual

/-- The atoms of a predicate from left to right. -/
def Expr.atoms : Expr → List Expr
  | .conj items => Expr.atomsOfList items
  | .disj items => Expr.atomsOfList items
  | .negation inner => inner.atoms
  | .grouping inner => inner.atoms
  | e => [e]

/-- The atoms of predicates. -/
def Expr.atomsOfList : List Expr → List Expr
  | [] => []
  | e :: rest => e.atoms ++ Expr.atomsOfList rest

end

/-! ## Reading predicates -/

namespace Sql

/-- The group is this word. -/
def Group.isWord (text : String) : Group → Bool
  | lexeme l => l == .word text.toList
  | parens _ => false

/-- The connective, where it stands between predicates. -/
def connective? (op : Connective) (item : Item α) : Option Unit :=
  if item.group.isWord op.keyword then some () else none

/-- Reads a predicate that is not connected: a negation, a predicate in parentheses, or else an
atom. -/
def readNegation : List (Item (Formula (List Group))) → Option (Formula (List Group))
  | [] => none
  | [.parens _ value] => value
  | item :: rest =>
    if item.group.isWord "NOT" then (readNegation rest).map .negation
    else some (.atom ((item :: rest).map Item.group))

theorem readNegation_lexeme (l : Lexeme) (rest : List (Item (Formula (List Group)))) :
    readNegation (.lexeme l :: rest) =
      if (Group.lexeme l).isWord "NOT" then (readNegation rest).map .negation
      else some (.atom (.lexeme l :: rest.map Item.group)) := by
  rw [readNegation]
  · rfl
  · exact nofun

/-- Reads predicates connected by `AND`. -/
def readConjunction : List (Item (Formula (List Group))) → Option (Formula (List Group)) :=
  readChain (connective? .and) readNegation fun _ => .binary .and

/-- Reads conjunctions connected by `OR`. -/
def readDisjunction : List (Item (Formula (List Group))) → Option (Formula (List Group)) :=
  readChain (connective? .or) readConjunction fun _ => .binary .or

/-- The groups, with the predicates that are read in parentheses. -/
def predicateItems (gs : List Group) : List (Item (Formula (List Group))) :=
  Group.items readDisjunction gs

/-- Reads a predicate. -/
def readPredicate? (sql : String) : Option (Formula (List Group)) :=
  (groups? sql).bind fun gs => readDisjunction (predicateItems gs)

end Sql

open Sql

namespace Sql

/-- The text is a predicate with these atoms and this truth value. The atoms that are found in it
are the texts of the given ones, one by one. -/
def Denotes (sql : String) (atoms : List Expr) (truth : (Expr → Truth) → Truth) : Prop :=
  ∃ f : Formula Expr, readPredicate? sql = some (f.map Expr.groups) ∧ f.atoms = atoms ∧
    ∀ value, f.truth (Expr.truth value) = truth value

/-! ## Connected predicates -/

/-- The group of a connective. -/
def connectiveGroup (op : Connective) : Group := .lexeme (.word op.keyword.toList)

/-- The groups are predicates connected by `op`, each of which `operand` reads; together they have
these atoms and this truth value. -/
def Connects (op : Connective)
    (operand : List (Item (Formula (List Group))) → Option (Formula (List Group)))
    (gs : List Group) (atoms : List Expr) (truth : (Expr → Truth) → Truth) : Prop :=
  ∃ c : Chain Unit (Formula Expr),
    (operands (connective? op) (predicateItems gs)).traverse operand =
      some (c.map (Formula.map Expr.groups)) ∧
    (c.fold fun _ => .binary op).atoms = atoms ∧
    ∀ value, (c.fold fun _ => .binary op).truth (Expr.truth value) = truth value

namespace Connects

variable {op : Connective}
  {operand : List (Item (Formula (List Group))) → Option (Formula (List Group))}
  {gs hs : List Group} {atoms atoms' : List Expr} {truth truth' : (Expr → Truth) → Truth}

/-- A predicate that is not connected. -/
theorem single (h : ∀ g ∈ gs, g.isWord op.keyword = false) {f : Formula Expr}
    (hf : operand (predicateItems gs) = some (f.map Expr.groups)) :
    Connects op operand gs f.atoms fun value => f.truth (Expr.truth value) := by
  have hitems : ∀ i ∈ predicateItems gs, connective? op i = none := by
    rw [predicateItems, Group.items_eq_map]
    intro i hi
    obtain ⟨g, hg, rfl⟩ := List.mem_map.mp hi
    rw [connective?, Group.group_item, h g hg]
    rfl
  refine ⟨.single f, ?_, rfl, fun _ => rfl⟩
  rw [operands_of_none hitems, Chain.traverse_single, hf]
  rfl

theorem congr (h : Connects op operand gs atoms truth) (hatoms : atoms = atoms')
    (htruth : ∀ value, truth value = truth' value) : Connects op operand gs atoms' truth' := by
  subst hatoms
  obtain rfl : truth = truth' := funext htruth
  exact h

theorem append (hg : Connects op operand gs atoms truth)
    (hh : Connects op operand hs atoms' truth') :
    Connects op operand (gs ++ connectiveGroup op :: hs) (atoms ++ atoms')
      fun value => op.truth (truth value) (truth' value) := by
  obtain ⟨c, hc, rfl, hctruth⟩ := hg
  obtain ⟨d, hd, rfl, hdtruth⟩ := hh
  have hop : connective? op ((connectiveGroup op).item readDisjunction) = some () :=
    if_pos (beq_self_eq_true _)
  refine ⟨c.append () d, ?_, ?_, fun value => ?_⟩
  · rw [predicateItems, Group.items_append, Group.items, operands_append _ _ hop,
      Chain.traverse_append]
    rw [predicateItems] at hc hd
    rw [hc, hd, Option.bind_some, Option.map_some, Chain.map_append]
  · -- neither atoms nor truth values depend on how the connected predicates are bracketed
    have hatoms : ∀ c : Chain Unit (Formula Expr), (c.fold fun _ => .binary op).atoms =
        (c.map Formula.atoms).fold fun _ => (· ++ ·) :=
      fun c => (Chain.fold_map (fun _ _ _ => rfl) c).symm
    rw [hatoms, hatoms, hatoms, Chain.map_append, Chain.fold_append List.append_assoc]
  · have htruth : ∀ c : Chain Unit (Formula Expr),
        (c.fold fun _ => .binary op).truth (Expr.truth value) =
          (c.map (Formula.truth (Expr.truth value))).fold fun _ => op.truth :=
      fun c => (Chain.fold_map (fun _ _ _ => rfl) c).symm
    rw [htruth, Chain.map_append, Chain.fold_append op.truth_assoc, ← htruth, ← htruth, hctruth,
      hdtruth]

/-- What connects predicates is read as one predicate. -/
theorem reads (h : Connects op operand gs atoms truth) :
    ∃ f : Formula Expr,
      readChain (connective? op) operand (fun _ => .binary op) (predicateItems gs) =
        some (f.map Expr.groups) ∧
      f.atoms = atoms ∧ ∀ value, f.truth (Expr.truth value) = truth value := by
  obtain ⟨c, hc, hatoms, htruth⟩ := h
  refine ⟨c.fold fun _ => .binary op, ?_, hatoms, htruth⟩
  rw [readChain, hc, Option.map_some]
  exact congrArg some (Chain.fold_map (fun _ _ _ => rfl) c)

theorem intercalate {es : List Expr} (hne : es ≠ [])
    (h : ∀ e ∈ es, Connects op operand e.groups e.atoms fun value => e.truth value) :
    Connects op operand ([connectiveGroup op].intercalate (es.map Expr.groups))
      (Expr.atomsOfList es) fun value => Expr.truthOfList value op es := by
  induction es with
  | nil => exact absurd rfl hne
  | cons e es ih =>
    have he := h e List.mem_cons_self
    cases es with
    | nil =>
      simpa [List.intercalate, Expr.atomsOfList, Expr.truthOfList, op.truth_neutral] using he
    | cons next es =>
      have hrest := ih (List.cons_ne_nil _ _) fun e' he' => h e' (List.mem_cons_of_mem e he')
      have happend := he.append hrest
      rw [List.map_cons] at hrest ⊢
      rw [List.map_cons, List.intercalate_cons_cons, List.append_assoc]
      exact happend

end Connects

end Sql

/-! ## Every predicate stands in a conjunction -/

/-- The expressions that atoms are about. -/
def Expr.isOperand : Expr → Bool
  | .column _ _ => true
  | .literal _ => true
  | .bind _ _ => true
  | _ => false

/-- The operator compares. -/
def BinaryOp.isComparison : BinaryOp → Bool
  | .add => false
  | .sub => false
  | .mul => false
  | .div => false
  | .concat => false
  | _ => true

/-- Trees of connectives, negations and parentheses over atoms that compare columns, values and
parameters. -/
inductive Expr.Predicate : Expr → Prop where
  | always : Predicate .always
  | never : Predicate .never
  | comparison {left right : Expr} {op : BinaryOp} (hleft : left.isOperand = true)
      (hop : op.isComparison = true) (hright : right.isOperand = true) :
      Predicate (.binary left op right)
  | isNull {inner : Expr} (h : inner.isOperand = true) : Predicate (.isNull inner)
  | isNotNull {inner : Expr} (h : inner.isOperand = true) : Predicate (.isNotNull inner)
  | inList {inner : Expr} {items : List Expr} {negated : Bool} (h : inner.isOperand = true)
      (hne : items ≠ []) (hitems : ∀ e ∈ items, e.isOperand = true) :
      Predicate (.inList inner items negated)
  | conj {items : List Expr} (hne : items ≠ []) (h : ∀ e ∈ items, Predicate e) :
      Predicate (.conj items)
  | disj {items : List Expr} (hne : items ≠ []) (h : ∀ e ∈ items, Predicate e) :
      Predicate (.disj items)
  | negation {inner : Expr} (h : Predicate inner) : Predicate (.negation inner)
  | grouping {inner : Expr} (h : Predicate inner) : Predicate (.grouping inner)

/-- The text of the expression can stand in a conjunction: it is read as one or more predicates
connected by `AND`, and there is no `OR` outside its parentheses. -/
structure Expr.Stands (e : Expr) : Prop where
  spells : Spells e.fragments.sql.toList e.groups
  noOr : ∀ g ∈ e.groups, g.isWord "OR" = false
  connects : Connects .and readNegation e.groups e.atoms fun value => e.truth value

namespace Sql

/-- The group is a lexeme and no keyword of predicates. -/
def Group.IsNeutral (g : Group) : Prop :=
  (∃ l, g = .lexeme l) ∧ ∀ text ∈ ["AND", "OR", "NOT"], g.isWord text = false

theorem Group.IsNeutral.noConnective {g : Group} (h : g.IsNeutral) :
    ∀ text ∈ ["AND", "OR"], g.isWord text = false := by
  intro text htext
  have hwords : ["AND", "OR"] ⊆ ["AND", "OR", "NOT"] := by decide
  exact h.2 text (hwords htext)

theorem Group.IsQualified.neutral {g : Group} (h : g.IsQualified) : g.IsNeutral := by
  rcases h with ⟨content, rfl⟩ | rfl
  · exact ⟨⟨_, rfl⟩, fun _ _ => rfl⟩
  · exact ⟨⟨_, rfl⟩, by decide⟩

theorem Lexeme.IsNumeric.neutral {l : Lexeme} (h : l.IsNumeric) : (Group.lexeme l).IsNeutral := by
  refine ⟨⟨_, rfl⟩, fun text htext => ?_⟩
  rcases h with ⟨digits, rfl, hdigits⟩ | rfl | rfl
  · -- no keyword is a word of digits
    rw [Group.isWord, beq_eq_false_iff_ne]
    rintro ⟨⟩
    have hkeywords : ∀ text ∈ ["AND", "OR", "NOT"], ¬ Number.AllDigits text.toList := by
      simp [Number.AllDigits]
    exact hkeywords text htext hdigits
  · rfl
  · rfl

end Sql

/-- Columns, values and parameters are read as groups that are no keywords. -/
theorem Expr.spells_operand {e : Expr} (h : e.isOperand = true) :
    ∃ gs ≠ [], Spells e.fragments.sql.toList gs ∧ ∀ g ∈ gs, g.IsNeutral := by
  cases e with
  | column table name =>
    obtain ⟨gs, hne, hspells, hgs⟩ := spells_column table name
    exact ⟨gs, hne, hspells, fun g hg => (hgs g hg).neutral⟩
  | literal value =>
    obtain ⟨gs, hne, hspells, hgs⟩ := spells_value value
    refine ⟨gs, hne, by rwa [Expr.fragments], fun g hg => ?_⟩
    rcases hgs g hg with ⟨content, rfl⟩ | ⟨l, hl, rfl⟩ | rfl | rfl
    · exact ⟨⟨_, rfl⟩, fun _ _ => rfl⟩
    · exact hl.neutral
    · exact ⟨⟨_, rfl⟩, by decide⟩
    · exact ⟨⟨_, rfl⟩, by decide⟩
  | bind name value =>
    refine ⟨_, List.cons_ne_nil _ _, spells_place _, fun g hg => ?_⟩
    rw [List.mem_singleton.mp hg]
    exact ⟨⟨_, rfl⟩, by decide⟩
  | _ => cases h

namespace Expr.Stands

/-- An atom stands in a conjunction when its text begins with something that is no keyword and has
no connective outside its parentheses. -/
theorem atom {e : Expr} {front behind : List Group}
    (hspells : Spells e.fragments.sql.toList (front ++ behind)) (hne : front ≠ [])
    (hfront : ∀ g ∈ front, g.IsNeutral)
    (hbehind : ∀ g ∈ behind, ∀ text ∈ ["AND", "OR"], g.isWord text = false)
    (hatoms : e.atoms = [e]) : e.Stands := by
  have hgroups := Expr.groups_eq hspells
  have hplain : ∀ op : Connective, ∀ g ∈ e.groups, g.isWord op.keyword = false := by
    rw [hgroups]
    intro op g hg
    rcases List.mem_append.mp hg with hg | hg
    · exact (hfront g hg).noConnective _ op.keyword_mem
    · exact hbehind g hg _ op.keyword_mem
  refine ⟨hgroups ▸ hspells, hplain .or, ?_⟩
  have hreads : readNegation (predicateItems e.groups) =
      some ((Formula.atom e).map Expr.groups) := by
    obtain ⟨g, front, rfl⟩ := List.exists_cons_of_ne_nil hne
    obtain ⟨⟨l, rfl⟩, hwords⟩ := hfront g List.mem_cons_self
    have hnot : (Group.lexeme l).isWord "NOT" = false := hwords "NOT" (by decide)
    have hitems : predicateItems e.groups =
        .lexeme l :: predicateItems (front ++ behind) := by
      rw [hgroups]
      rfl
    rw [hitems, readNegation_lexeme, hnot, predicateItems, Group.map_group_items, Formula.map,
      hgroups]
    rfl
  exact (Connects.single (hplain .and) hreads).congr hatoms.symm fun _ => rfl

/-- What stands in a conjunction stands in a disjunction too. -/
theorem connectsOr {e : Expr} (h : e.Stands) :
    Connects .or readConjunction e.groups e.atoms fun value => e.truth value := by
  obtain ⟨f, hread, hatoms, htruth⟩ := h.connects.reads
  exact (Connects.single h.noOr hread).congr hatoms htruth

/-- A predicate in parentheses stands in a conjunction, whatever it is made of. -/
theorem parenthesized {e : Expr} {inner : List Group} {atoms : List Expr}
    {truth : (Expr → Truth) → Truth}
    (hspells : Spells e.fragments.sql.toList [.parens inner])
    (hinner : Connects .or readConjunction inner atoms truth) (hatoms : atoms = e.atoms)
    (htruth : ∀ value, truth value = e.truth value) : e.Stands := by
  have hgroups := Expr.groups_eq hspells
  have hplain : ∀ g ∈ [Group.parens inner], ∀ text, g.isWord text = false := by
    intro g hg text
    rw [List.mem_singleton.mp hg]
    rfl
  obtain ⟨f, hread, hfatoms, hftruth⟩ := hinner.reads
  refine ⟨hgroups ▸ hspells, ?_, ?_⟩
  · rw [hgroups]
    exact fun g hg => hplain g hg _
  · rw [hgroups]
    exact (Connects.single (fun g hg => hplain g hg _) hread).congr (hfatoms.trans hatoms)
      fun value => (hftruth value).trans (htruth value)

end Expr.Stands

/-! ## The texts of connected predicates -/

theorem leads_connective (op : Connective) :
    Leads (" " ++ op.keyword ++ " ").toList [connectiveGroup op] := by
  cases op with
  | and => exact .ofUnquoted (by decide) [.word "AND".toList] (fun _ => rfl) (by decide)
  | or => exact .ofUnquoted (by decide) [.word "OR".toList] (fun _ => rfl) (by decide)

theorem spells_connected {es : List Expr} (op : Connective) (h : ∀ e ∈ es, e.Stands) :
    Spells (String.intercalate (" " ++ op.keyword ++ " ") (es.map (·.fragments.sql))).toList
      ([connectiveGroup op].intercalate (es.map Expr.groups)) := by
  rw [String.toList_intercalate, List.map_map]
  refine .intercalate (leads_connective op) ?_ ?_ fun e he => (h e he).spells
  · cases op <;> decide
  · cases op <;> decide

/-- Only raw SQL is put in parentheses in a conjunction. -/
theorem Expr.Predicate.isolate_eq {e : Expr} (h : e.Predicate) (fs : Fragments) :
    Fragments.isolate e fs = fs := by
  cases h <;> rfl

theorem Expr.sql_conj {es : List Expr} (h : ∀ e ∈ es, e.Predicate) :
    (Expr.conj es).fragments.sql = String.intercalate " AND " (es.map (·.fragments.sql)) := by
  rw [Expr.fragments, Fragments.conjunction_fragmentsOfList, Fragments.sql_joinWith, List.map_map]
  refine congrArg (String.intercalate " AND ") (List.map_congr_left fun e he => ?_)
  rw [Function.comp_apply, (h e he).isolate_eq, ite_self]

namespace Expr.Stands

theorem conj {es : List Expr} (hne : es ≠ []) (hes : ∀ e ∈ es, e.Predicate)
    (h : ∀ e ∈ es, e.Stands) : (Expr.conj es).Stands := by
  have hspells : Spells (Expr.conj es).fragments.sql.toList
      ([connectiveGroup .and].intercalate (es.map Expr.groups)) := by
    rw [Expr.sql_conj hes]
    exact spells_connected .and h
  have hgroups := Expr.groups_eq hspells
  refine ⟨hgroups ▸ hspells, ?_, ?_⟩
  · rw [hgroups]
    intro g hg
    rcases mem_of_mem_intercalate hg with hg | ⟨part, hpart, hg⟩
    · rw [List.mem_singleton.mp hg]
      decide
    · obtain ⟨e, he, rfl⟩ := List.mem_map.mp hpart
      exact (h e he).noOr g hg
  · rw [hgroups]
    exact .intercalate hne fun e he => (h e he).connects

theorem disj {es : List Expr} (hne : es ≠ []) (h : ∀ e ∈ es, e.Stands) :
    (Expr.disj es).Stands := by
  have hlist : Spells (Fragments.joinWith " OR " (Expr.fragmentsOfList es)).sql.toList
      ([connectiveGroup .or].intercalate (es.map Expr.groups)) := by
    rw [Fragments.sql_joinWith, Expr.fragmentsOfList_eq_map, List.map_map]
    exact spells_connected .or h
  have hspells : Spells (Expr.disj es).fragments.sql.toList
      [.parens ([connectiveGroup .or].intercalate (es.map Expr.groups))] := by
    rw [Expr.fragments]
    exact hlist.parenthesizedSql.spells
  exact .parenthesized hspells (.intercalate hne fun e he => (h e he).connectsOr) rfl fun _ => rfl

theorem grouping {inner : Expr} (h : inner.Stands) : (Expr.grouping inner).Stands := by
  have hspells : Spells (Expr.grouping inner).fragments.sql.toList [.parens inner.groups] := by
    rw [Expr.fragments]
    exact h.spells.parenthesizedSql.spells
  exact .parenthesized hspells h.connectsOr rfl fun _ => rfl

theorem negation {inner : Expr} (h : inner.Stands) : (Expr.negation inner).Stands := by
  have hnot : Leads "NOT ".toList [.lexeme (.word "NOT".toList)] :=
    .ofUnquoted (by decide) [.word "NOT".toList] (fun _ => rfl) (by decide)
  have hspells : Spells (Expr.negation inner).fragments.sql.toList
      [.lexeme (.word "NOT".toList), .parens inner.groups] := by
    rw [Expr.fragments, Fragments.sql_cons, Fragment.sql_text, String.toList_append]
    exact hnot.appendSpells h.spells.parenthesizedSql.spells
  have hgroups := Expr.groups_eq hspells
  have hplain : ∀ op : Connective, ∀ g ∈ (Expr.negation inner).groups,
      g.isWord op.keyword = false := by
    rw [hgroups]
    intro op g hg
    rcases List.mem_cons.mp hg with rfl | hg
    · cases op <;> decide
    · rw [List.mem_singleton.mp hg]
      rfl
  -- behind `NOT` there is one group, so the negation takes what is in it and nothing else
  obtain ⟨f, hread, hatoms, htruth⟩ := h.connectsOr.reads
  have hreads : readNegation (predicateItems (Expr.negation inner).groups) =
      some ((Formula.negation f).map Expr.groups) := by
    rw [hgroups]
    exact congrArg (Option.map Formula.negation) hread
  exact ⟨hgroups ▸ hspells, hplain .or, (Connects.single (hplain .and) hreads).congr hatoms
    fun value => congrArg Truth.not (htruth value)⟩

end Expr.Stands

/-! ## The texts of atoms -/

/-- No operator contains a connective. -/
theorem isWord_operator (op : BinaryOp) :
    ∀ g ∈ (operatorLexemes op).map Group.lexeme, ∀ text ∈ ["AND", "OR"],
      g.isWord text = false := by
  cases op <;> decide

/-- The lexemes of a membership test. -/
def membershipLexemes (negated : Bool) : List Lexeme :=
  if negated then [.word "NOT".toList, .word "IN".toList] else [.word "IN".toList]

theorem leads_membership (negated : Bool) :
    Leads (Writer.membership negated).toList ((membershipLexemes negated).map .lexeme) := by
  cases negated with
  | false => exact .ofUnquoted (by decide) [.word "IN".toList] (fun _ => rfl) (by decide)
  | true =>
    exact .ofUnquoted (by decide) [.word "NOT".toList, .word "IN".toList] (fun _ => rfl) (by decide)

theorem isWord_membership (negated : Bool) :
    ∀ g ∈ (membershipLexemes negated).map Group.lexeme, ∀ text ∈ ["AND", "OR"],
      g.isWord text = false := by
  cases negated <;> decide

namespace Expr.Stands

/-- A test that is written behind what is tested. -/
theorem suffixed {e inner : Expr} {suffix : String}
    (hfragments : e.fragments = inner.fragments ++ [.text suffix])
    (hinner : inner.isOperand = true) (hunquoted : Unquoted suffix.toList)
    (hbounded : Bounded suffix.toList)
    (hlexemes : ∀ l ∈ lexFrom [] (suffix.toList.map .char), l.isParenthesis = false ∧
      ∀ text ∈ ["AND", "OR"], (Group.lexeme l).isWord text = false)
    (hatoms : e.atoms = [e]) : e.Stands := by
  obtain ⟨front, hne, hspells, hfront⟩ := Expr.spells_operand hinner
  have hsuffix := spells_text hunquoted fun l hl => (hlexemes l hl).1
  have hapart : Bounded (Fragments.sql [.text suffix]).toList := by simpa using hbounded
  have hboth := hspells.append hsuffix hapart
  rw [← String.toList_append, ← Fragments.sql_append, ← hfragments] at hboth
  refine .atom hboth hne hfront (fun g hg => ?_) hatoms
  obtain ⟨l, hl, rfl⟩ := List.mem_map.mp hg
  exact (hlexemes l hl).2

theorem comparison {left right : Expr} {op : BinaryOp} (hleft : left.isOperand = true)
    (hright : right.isOperand = true) : (Expr.binary left op right).Stands := by
  obtain ⟨front, hne, hspells, hfront⟩ := Expr.spells_operand hleft
  obtain ⟨back, -, hspells', hback⟩ := Expr.spells_operand hright
  have hboth := Expr.spells_binary op hspells hspells'
  refine .atom hboth hne hfront (fun g hg => ?_) rfl
  rcases List.mem_append.mp hg with hg | hg
  · exact isWord_operator op g hg
  · exact (hback g hg).noConnective

theorem inList {inner : Expr} {items : List Expr} {negated : Bool}
    (hinner : inner.isOperand = true) (hne : items ≠ [])
    (hitems : ∀ e ∈ items, e.isOperand = true) : (Expr.inList inner items negated).Stands := by
  obtain ⟨front, hne', hspells, hfront⟩ := Expr.spells_operand hinner
  have hcomma : Leads ", ".toList [.lexeme (.symbol ',')] :=
    .ofUnquoted (by decide) [.symbol ','] (fun _ => rfl) (by decide)
  have hlist : ∃ gs,
      Spells (Fragments.joinWith ", " (Expr.fragmentsOfList items)).sql.toList gs := by
    have hspells : ∀ e ∈ items, Spells e.fragments.sql.toList e.groups := by
      intro e he
      obtain ⟨gs, -, hspells, -⟩ := Expr.spells_operand (hitems e he)
      exact Expr.groups_eq hspells ▸ hspells
    rw [Fragments.sql_joinWith, Expr.fragmentsOfList_eq_map, List.map_map,
      String.toList_intercalate, List.map_map]
    exact ⟨_, .intercalate hcomma (by decide) (by decide) hspells⟩
  obtain ⟨gs, hlist⟩ := hlist
  have hmembership : Bounded (Writer.membership negated).toList ∧
      (Writer.membership negated).toList ≠ [] := by
    cases negated <;> decide
  -- the list is one group, so no atom ends inside it whatever its items are
  have hboth := hspells.between (leads_membership negated) hmembership.1 hmembership.2
    hlist.parenthesizedSql.spells
  have hsql : (Expr.inList inner items negated).fragments.sql.toList =
      inner.fragments.sql.toList ++ ((Writer.membership negated).toList ++
        (Fragments.parenthesized
          (Fragments.joinWith ", " (Expr.fragmentsOfList items))).sql.toList) := by
    obtain ⟨item, rest, rfl⟩ := List.exists_cons_of_ne_nil hne
    rw [Expr.fragments, Fragments.sql_append, Fragments.sql_cons, Fragment.sql_membership,
      String.toList_append, String.toList_append, Expr.fragmentsOfList]
  rw [← hsql] at hboth
  refine .atom hboth hne' hfront (fun g hg => ?_) rfl
  rcases List.mem_append.mp hg with hg | hg
  · exact isWord_membership negated g hg
  · rw [List.mem_singleton.mp hg]
    exact fun _ _ => rfl

/-- A text without quotes and parentheses that begins with something that is no keyword. -/
theorem text {e : Expr} {sql : String} (hfragments : e.fragments = [.text sql])
    (hunquoted : Unquoted sql.toList) (hne : lexFrom [] (sql.toList.map .char) ≠ [])
    (hlexemes : ∀ l ∈ lexFrom [] (sql.toList.map .char), l.isParenthesis = false ∧
      ∀ text ∈ ["AND", "OR", "NOT"], (Group.lexeme l).isWord text = false)
    (hatoms : e.atoms = [e]) : e.Stands := by
  have hspells := spells_text hunquoted fun l hl => (hlexemes l hl).1
  rw [← hfragments, ← List.append_nil (List.map _ _)] at hspells
  refine .atom hspells (by simpa using hne) (fun g hg => ?_) nofun hatoms
  obtain ⟨l, hl, rfl⟩ := List.mem_map.mp hg
  exact ⟨⟨l, rfl⟩, (hlexemes l hl).2⟩

end Expr.Stands

/-- **Every predicate stands in a conjunction.** -/
theorem Expr.Predicate.stands {e : Expr} (h : e.Predicate) : e.Stands := by
  induction h with
  | always => exact .text rfl (by decide) (by decide) (by decide) rfl
  | never => exact .text rfl (by decide) (by decide) (by decide) rfl
  | comparison hleft _ hright => exact .comparison hleft hright
  | isNull h => exact .suffixed rfl h (by decide) (by decide) (by decide) rfl
  | isNotNull h => exact .suffixed rfl h (by decide) (by decide) (by decide) rfl
  | inList h hne hitems => exact .inList h hne hitems
  | conj hne hitems ih => exact .conj hne hitems ih
  | disj hne _ ih => exact .disj hne ih
  | negation _ ih => exact .negation ih
  | grouping _ ih => exact .grouping ih

namespace Expr

theorem Stands.denotes {e : Expr} (h : e.Stands) :
    Denotes e.render.sql e.atoms fun value => e.truth value := by
  obtain ⟨f, hread, hatoms, htruth⟩ := h.connectsOr.reads
  refine ⟨f, ?_, hatoms, htruth⟩
  have hgroups : groups? e.render.sql = some e.groups := by
    rw [render_eq_fragments]
    exact h.spells.groups?
  rw [readPredicate?, hgroups, Option.bind_some]
  exact hread

/-- **Predicates mean what their text says.** Read by the rules of SQL, the text of a predicate is a
predicate with the same atoms, in the same order, and with the same truth value whatever those of
the atoms are. The text that is put together from the texts of one or more predicates is their
conjunction. -/
theorem denotes_render :
    (∀ e : Expr, e.Predicate → Denotes e.render.sql e.atoms fun value => e.truth value) ∧
    ∀ es : List Expr, es ≠ [] → (∀ e ∈ es, e.Predicate) →
      Denotes (Writer.conjunction es (es.map (·.render.sql))) (atomsOfList es)
        fun value => truthOfList value .and es := by
  refine ⟨fun e h => h.stands.denotes, fun es hne h => ?_⟩
  rw [← render_conj]
  exact (Predicate.conj hne h).stands.denotes

/-- Where parentheses are left out, `AND` goes before `OR` and `NOT` before both. -/
example : ∃ a b c, readPredicate? "NOT a = 1 AND b = 2 OR c = 3" =
    some (.binary .or (.binary .and (.negation (.atom a)) (.atom b)) (.atom c)) := by
  refine ⟨[.lexeme (.word ['a']), .lexeme (.symbol '='), .lexeme (.word ['1'])],
    [.lexeme (.word ['b']), .lexeme (.symbol '='), .lexeme (.word ['2'])],
    [.lexeme (.word ['c']), .lexeme (.symbol '='), .lexeme (.word ['3'])], ?_⟩
  cbv

/-- A disjunction in a conjunction, with a negation, and a name that looks like more of it. -/
def nested : Expr :=
  .conj [
    .disj [
      .binary (.column (some "t") "a OR b") .notLike (.literal (.text "x' AND (y")),
      .conj [.isNull (.column none "c"), .negation (.grouping .never)]],
    .inList (.column none "d") [.literal (.int (-1)), .bind "p0" (.int 2)] true]

/-- It is read as it was written. -/
theorem denotes_render_nested :
    nested.Predicate ∧ Denotes nested.render.sql nested.atoms (fun value => nested.truth value) ∧
    Denotes (Writer.conjunction [nested, .always] ([nested, .always].map (·.render.sql)))
      (atomsOfList [nested, .always]) fun value => truthOfList value .and [nested, .always] := by
  have hnested : nested.Predicate := by
    refine .conj (by simp) (List.forall_mem_cons.mpr ⟨.disj (by simp) ?_, ?_⟩)
    · refine List.forall_mem_cons.mpr ⟨.comparison rfl rfl rfl, List.forall_mem_singleton.mpr ?_⟩
      refine .conj (by simp) (List.forall_mem_cons.mpr ⟨.isNull rfl, ?_⟩)
      exact List.forall_mem_singleton.mpr (.negation (.grouping .never))
    · exact List.forall_mem_singleton.mpr (.inList rfl (by simp) (by decide))
  refine ⟨hnested, denotes_render.1 nested hnested, denotes_render.2 _ (by simp) ?_⟩
  exact List.forall_mem_cons.mpr ⟨hnested, List.forall_mem_singleton.mpr .always⟩

end Expr

end Anywhere
