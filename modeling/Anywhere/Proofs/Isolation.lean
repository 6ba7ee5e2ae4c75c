import Anywhere.Proofs.Placeholders

/-!
# Where raw SQL stands alone

Raw SQL may contain an `OR`, so it is put in parentheses when other predicates stand beside it.
Whether there are any is decided for each list of predicates by its length, and conjunctions can be
nested: raw SQL that is all that a conjunction consists of gets no parentheses, although the
conjunction may stand beside others. It is shown here that nothing else goes wrong. The text of a
list of predicates is that of its leaves, with all raw SQL in parentheses, exactly when none of the
conjunctions in it consists of raw SQL alone; otherwise it is shorter.
-/

namespace Anywhere

mutual

/-- The leaves of nested conjunctions from left to right. -/
def Expr.conjuncts : Expr → List Expr
  | .conj items => Expr.conjunctsOfList items
  | e => [e]

/-- The leaves of a list of predicates that all have to hold. -/
def Expr.conjunctsOfList : List Expr → List Expr
  | [] => []
  | e :: rest => e.conjuncts ++ Expr.conjunctsOfList rest

end

/-- No conjunction is empty. -/
inductive Expr.Filled : Expr → Prop where
  | leaf {e : Expr} (h : ∀ items, e ≠ .conj items) : Filled e
  | conj {items : List Expr} (hne : items ≠ []) (h : ∀ e ∈ items, Filled e) : Filled (.conj items)

/-- Some conjunction consists of raw SQL alone. -/
inductive Expr.Exposes : Expr → Prop where
  | alone {sql : String} : Exposes (.conj [.raw sql])
  | inside {items : List Expr} {e : Expr} (he : e ∈ items) (h : Exposes e) :
      Exposes (.conj items)

namespace Expr

/-- The text of a predicate that stands beside others: raw SQL is in parentheses. -/
def isolatedSql (e : Expr) : String := Writer.isolate e e.render.sql

/-- The text of predicates that stand beside each other. -/
def joinedSql (es : List Expr) : String := String.intercalate " AND " (es.map isolatedSql)

theorem joinedSql_singleton (e : Expr) : joinedSql [e] = e.isolatedSql :=
  String.intercalate_singleton

theorem isolatedSql_of_not_raw {e : Expr} (h : ∀ sql, e ≠ .raw sql) :
    e.isolatedSql = e.render.sql := by
  cases e with
  | raw sql => exact absurd rfl (h sql)
  | _ => rfl

/-! ## Conjunctions -/

/-- The text of a conjunction is put together from those of its items. -/
theorem render_conj (items : List Expr) :
    (conj items).render.sql = Writer.conjunction items (items.map (·.render.sql)) := by
  simp only [render_eq_fragments]
  show Fragments.sql (conj items).fragments = _
  rw [fragments, Fragments.sql_conjunction, fragmentsOfList_eq_map, List.map_map]
  rfl

theorem render_conj_singleton (e : Expr) : (conj [e]).render.sql = e.render.sql := by
  rw [render_conj]
  exact String.intercalate_singleton

theorem render_conj_of_many {items : List Expr} (h : 1 < items.length) :
    (conj items).render.sql = joinedSql items := by
  rw [render_conj, Writer.conjunction, if_pos h, List.zipWith_map_right, List.zipWith_self]
  rfl

theorem conjuncts_ne_nil {e : Expr} (h : e.Filled) : e.conjuncts ≠ [] := by
  induction h with
  | @leaf e h =>
    cases e with
    | conj items => exact absurd rfl (h items)
    | _ => exact List.cons_ne_nil _ _
  | @conj items hne _ ih =>
    obtain ⟨e, rest, rfl⟩ := List.exists_cons_of_ne_nil hne
    rw [conjuncts, conjunctsOfList]
    exact List.append_ne_nil_of_left_ne_nil (ih e List.mem_cons_self) _

theorem joinedSql_append {ds es : List Expr} (hds : ds ≠ []) (hes : es ≠ []) :
    joinedSql (ds ++ es) = joinedSql ds ++ " AND " ++ joinedSql es := by
  rw [joinedSql, joinedSql, joinedSql, List.map_append, String.intercalate_append_of_ne_nil]
  · simpa using hds
  · simpa using hes

/-- Texts that were joined before are joined to one another. -/
theorem intercalate_joinedSql {es : List Expr} (h : ∀ e ∈ es, e.Filled) :
    String.intercalate " AND " (es.map fun e => joinedSql e.conjuncts) =
      joinedSql (conjunctsOfList es) := by
  induction es with
  | nil => rfl
  | cons e rest ih =>
    have he := conjuncts_ne_nil (h e List.mem_cons_self)
    have hrest := ih fun e' he' => h e' (List.mem_cons_of_mem e he')
    cases rest with
    | nil =>
      rw [conjunctsOfList, conjunctsOfList, List.append_nil]
      exact String.intercalate_singleton
    | cons next rest =>
      have hnext : conjunctsOfList (next :: rest) ≠ [] := by
        rw [conjunctsOfList]
        exact List.append_ne_nil_of_left_ne_nil
          (conjuncts_ne_nil (h next (List.mem_cons_of_mem e List.mem_cons_self))) _
      rw [List.map_cons, String.intercalate_cons_of_ne_nil (by simp), hrest,
        ← joinedSql_append he hnext]
      rfl

/-! ## Which raw SQL stands alone -/

theorem not_exposes_of_leaf {e : Expr} (h : ∀ items, e ≠ .conj items) : ¬ e.Exposes := by
  intro hexposes
  cases hexposes with
  | alone => exact h _ rfl
  | inside => exact h _ rfl

theorem conjuncts_of_leaf {e : Expr} (h : ∀ items, e ≠ .conj items) : e.conjuncts = [e] := by
  cases e with
  | conj items => exact absurd rfl (h items)
  | _ => rfl

theorem isolatedSql_of_not_exposes {e : Expr} (h : e.Filled) (hexposes : ¬ e.Exposes) :
    e.isolatedSql = joinedSql e.conjuncts := by
  induction h with
  | leaf h => rw [conjuncts_of_leaf h, joinedSql_singleton]
  | @conj items hne hitems ih =>
    have hinner : ∀ e ∈ items, e.isolatedSql = joinedSql e.conjuncts :=
      fun e he => ih e he fun hexposes' => hexposes (.inside he hexposes')
    rw [isolatedSql_of_not_raw (by simp), conjuncts, ← intercalate_joinedSql hitems,
      ← List.map_congr_left hinner]
    obtain ⟨e, rest, rfl⟩ := List.exists_cons_of_ne_nil hne
    cases rest with
    | nil =>
      -- the only item gets no parentheses, and needs none as it is no raw SQL
      have hraw : ∀ sql, e ≠ raw sql := by
        rintro sql rfl
        exact hexposes .alone
      rw [render_conj_singleton, ← isolatedSql_of_not_raw hraw]
      exact String.intercalate_singleton.symm
    | cons next rest => exact render_conj_of_many (by simp)

/-- Shorter parts make a shorter text. -/
theorem length_intercalate_le (separator : String) {f g : α → String} {xs : List α}
    (h : ∀ x ∈ xs, (f x).length ≤ (g x).length) :
    (String.intercalate separator (xs.map f)).length ≤
        (String.intercalate separator (xs.map g)).length ∧
      ((∃ x ∈ xs, (f x).length < (g x).length) →
        (String.intercalate separator (xs.map f)).length <
          (String.intercalate separator (xs.map g)).length) := by
  induction xs with
  | nil => exact ⟨Nat.le_refl _, fun ⟨x, hx, _⟩ => absurd hx List.not_mem_nil⟩
  | cons x xs ih =>
    have hx := h x List.mem_cons_self
    obtain ⟨hle, hlt⟩ := ih fun y hy => h y (List.mem_cons_of_mem x hy)
    cases xs with
    | nil =>
      simp only [List.map_cons, List.map_nil, String.intercalate_singleton]
      refine ⟨hx, ?_⟩
      rintro ⟨y, hy, hlt⟩
      rwa [List.mem_singleton.mp hy] at hlt
    | cons next xs =>
      simp only [List.map_cons, String.intercalate_cons_cons, String.length_append] at hle hlt ⊢
      refine ⟨by omega, ?_⟩
      rintro ⟨y, hy, hylt⟩
      rcases List.mem_cons.mp hy with rfl | hy
      · omega
      · have hrest := hlt ⟨y, hy, hylt⟩
        omega

/-- Without its parentheses raw SQL is shorter, and so is all that contains it. -/
theorem length_isolatedSql {e : Expr} (h : e.Filled) :
    e.isolatedSql.length ≤ (joinedSql e.conjuncts).length ∧
      (e.Exposes → e.isolatedSql.length < (joinedSql e.conjuncts).length) := by
  induction h with
  | leaf h =>
    rw [conjuncts_of_leaf h, joinedSql_singleton]
    exact ⟨Nat.le_refl _, fun hexposes => absurd hexposes (not_exposes_of_leaf h)⟩
  | @conj items hne hitems ih =>
    rw [isolatedSql_of_not_raw (by simp), conjuncts, ← intercalate_joinedSql hitems]
    obtain ⟨e, rest, rfl⟩ := List.exists_cons_of_ne_nil hne
    cases rest with
    | nil =>
      rw [render_conj_singleton, List.map_singleton, String.intercalate_singleton]
      cases e with
      | raw sql =>
        have hshorter : (raw sql).render.sql.length < (joinedSql (raw sql).conjuncts).length := by
          have hleaf : ∀ items, raw sql ≠ conj items := nofun
          rw [conjuncts_of_leaf hleaf, joinedSql_singleton, isolatedSql, Writer.isolate,
            String.length_append, String.length_append]
          have hparentheses : "(".length = 1 ∧ ")".length = 1 := by decide
          omega
        exact ⟨Nat.le_of_lt hshorter, fun _ => hshorter⟩
      | _ =>
        refine ⟨(ih _ List.mem_cons_self).1, fun hexposes => ?_⟩
        cases hexposes with
        | inside he hinside =>
          obtain rfl := List.mem_singleton.mp he
          exact (ih _ List.mem_cons_self).2 hinside
    | cons next rest =>
      obtain ⟨hle, hlt⟩ := length_intercalate_le " AND " fun e' he' => (ih e' he').1
      rw [render_conj_of_many (by simp), joinedSql]
      refine ⟨hle, fun hexposes => hlt ?_⟩
      cases hexposes with
      | inside he hinside => exact ⟨_, he, (ih _ he).2 hinside⟩

theorem isolatedSql_eq_joinedSql_iff {e : Expr} (h : e.Filled) :
    e.isolatedSql = joinedSql e.conjuncts ↔ ¬ e.Exposes := by
  constructor
  · intro heq hexposes
    have hlt := (length_isolatedSql h).2 hexposes
    rw [heq] at hlt
    exact Nat.lt_irrefl _ hlt
  · exact isolatedSql_of_not_exposes h

/-- **Raw SQL among other predicates is in parentheses of its own** exactly when no conjunction
consists of it alone. The predicates may be any that are given, and the one that is added to them
for a limit of zero. -/
theorem conjunction_eq_joinedSql_iff {es : List Expr} (h : ∀ e ∈ es, e.Filled)
    (htwo : 2 ≤ (conjunctsOfList es).length) :
    Writer.conjunction es (es.map (·.render.sql)) = joinedSql (conjunctsOfList es) ↔
      ∀ e ∈ es, ¬ e.Exposes := by
  have hne : es ≠ [] := by
    rintro rfl
    exact absurd htwo (by decide)
  -- the list itself is not raw SQL alone, for that would be one leaf
  have hexposes : (conj es).Exposes ↔ ∃ e ∈ es, e.Exposes := by
    constructor
    · intro hexposes
      cases hexposes with
      | alone => exact absurd htwo (by simp [conjunctsOfList, conjuncts])
      | inside he hinside => exact ⟨_, he, hinside⟩
    · rintro ⟨e, he, hinside⟩
      exact .inside he hinside
  have hiff := isolatedSql_eq_joinedSql_iff (.conj hne h)
  rw [isolatedSql_of_not_raw (by simp), render_conj, conjuncts, hexposes] at hiff
  rw [hiff]
  simp only [not_exists, not_and]

/-- Raw SQL in a list and in a conjunction of two, and the predicate of a zero limit. -/
def mixed : List Expr :=
  [.raw "a = 1 OR b = 2", .conj [.raw "c = 3 OR d = 4", .isNull (.column none "e")], .never]

/-- All of it is in parentheses. -/
theorem conjunction_mixed :
    (∀ e ∈ mixed, e.Filled) ∧ 2 ≤ (conjunctsOfList mixed).length ∧
    Writer.conjunction mixed (mixed.map (·.render.sql)) = joinedSql (conjunctsOfList mixed) := by
  have hfilled : ∀ e ∈ mixed, e.Filled := by
    refine List.forall_mem_cons.mpr ⟨.leaf nofun, List.forall_mem_cons.mpr ⟨?_, ?_⟩⟩
    · exact .conj (List.cons_ne_nil _ _)
        (List.forall_mem_cons.mpr ⟨.leaf nofun, List.forall_mem_singleton.mpr (.leaf nofun)⟩)
    · exact List.forall_mem_singleton.mpr (.leaf nofun)
  have htwo : 2 ≤ (conjunctsOfList mixed).length := by decide
  have hexposes : ∀ e ∈ mixed, ¬ e.Exposes := by
    refine List.forall_mem_cons.mpr ⟨nofun, List.forall_mem_cons.mpr ⟨?_, ?_⟩⟩
    · intro h
      cases h with
      | inside he hinside =>
        rcases List.mem_cons.mp he with rfl | he
        · cases hinside
        · obtain rfl := List.mem_singleton.mp he
          cases hinside
    · exact List.forall_mem_singleton.mpr nofun
  exact ⟨hfilled, htwo, (conjunction_eq_joinedSql_iff hfilled htwo).mpr hexposes⟩

/-- A query with a limit of zero, whose only predicate is a conjunction of raw SQL alone. -/
def exposed : Query :=
  { Query.ofSelect { Select.empty with
      source := some (.table "orders" none)
      wheres := [.conj [.raw "a = 1 OR b = 2"]] }
    with limit := some 0 }

/-- The `AND` in front of the predicate that is added binds stronger than the `OR` of the raw
SQL. -/
theorem toSql_exposed_ne :
    exposed.normalize.first.wheres = [.conj [.raw "a = 1 OR b = 2"], .never] ∧
    exposed.toSql = "SELECT * FROM \"orders\" WHERE a = 1 OR b = 2 AND 1=0" ∧
    joinedSql (conjunctsOfList exposed.normalize.first.wheres) = "(a = 1 OR b = 2) AND 1=0" ∧
    exposed.toSql ≠ "SELECT * FROM \"orders\" WHERE " ++
      joinedSql (conjunctsOfList exposed.normalize.first.wheres) :=
  ⟨rfl, by decide +kernel, by decide +kernel, by decide +kernel⟩

end Expr

end Anywhere
