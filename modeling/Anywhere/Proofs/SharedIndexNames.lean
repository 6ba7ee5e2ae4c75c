import Anywhere.Proofs.IndexClients
import Anywhere.Proofs.SentTexts

/-!
# Indexes that share their name

Two tables may each have an index of one name. A session asks for the indexes of a table first, and
then, by the name alone, for the members of each of them. So the second question is the same for
both tables, and what is reported of the index of one table has the members of both.

`Session.indexes_columns_eq_iff` says which indexes are reported with their own members and no
others: those that are alone with their name.
-/

namespace Anywhere

open Anywhere.Action Anywhere.Operation Schema

variable {σ κ η : Type}

namespace Session

/-- One text is sent for the table, and one for each index that is found. The table does not occur
in the latter. -/
theorem indexes_sends (client : Client σ κ η) (table : String) :
    Sends (indexes client.recorded table) fun texts result => ∀ found, result = .ok found →
      texts = indexesQuery table :: found.map fun index => indexColumnsQuery index.name := by
  refine (Sends.query _ _).bind (fun texts result htexts => ?_)
    fun texts fault _ found h => nomatch h
  have hturn : ∀ row : String × Bool, Sends (do
      let columns ← query client.recorded (indexColumnsQuery row.1) []
      return ⟨table, row.1, row.2, textsOf columns "column_name"⟩) fun texts result =>
        ∀ index : Index, result = .ok index → texts = [indexColumnsQuery index.name] := by
    intro row
    refine (Sends.query _ _).bind (fun texts columns htexts => .pure ?_)
      fun texts fault _ index h => nomatch h
    rintro _ ⟨⟩
    rw [htexts]
    rfl
  refine (Sends.mapM hturn (indexRows result)).mono fun more result hmore found hfound => ?_
  rw [htexts, hmore found hfound]
  rfl

section Clients

variable {client : Client σ κ η} {session : Session κ} {catalog : IndexCatalog}

/-- The indexes of the table are found, with the members of all indexes of their names. -/
theorem indexes_succeeds
    (server : IndexClient client session.connection session.encoding catalog)
    (hconnected : session.connected = true) (table : String) :
    Succeeds session (indexes client table) fun found =>
      (found.map (·.name)).Perm (catalog.namesIn table) ∧
        ∀ index ∈ found, catalog.Lists index.name index.columns := by
  have hrows := Succeeds.query (Q := fun result =>
    ((indexRows result).map Prod.fst).Perm (catalog.namesIn table)) server hconnected
    ⟨.indexesIn table, rfl⟩ fun answer hfits => (hfits (.indexesIn table) rfl).reads_names
  refine hrows.bind fun result hnames => ?_
  have hturn : ∀ row ∈ indexRows result, Succeeds session (do
      let columns ← query client (indexColumnsQuery row.1) []
      return ⟨table, row.1, row.2, textsOf columns "column_name"⟩) fun index : Index =>
        row.1 = index.name ∧ catalog.Lists index.name index.columns := by
    intro row _
    have hmembers := Succeeds.query (Q := fun columns =>
      catalog.Lists row.1 (textsOf columns "column_name")) server hconnected
      ⟨.membersOf row.1, rfl⟩ fun answer hfits => (hfits (.membersOf row.1) rfl).reads_members
    exact hmembers.bind fun columns hlists => .pure ⟨rfl, hlists⟩
  refine (Succeeds.mapM hturn).mono fun found hfound => ?_
  have hsame : (indexRows result).map Prod.fst = found.map (·.name) := by
    rw [← List.forall₂_eq_eq_eq, List.forall₂_map_left_iff, List.forall₂_map_right_iff]
    exact hfound.imp fun _ _ h => h.1
  refine ⟨hsame ▸ hnames, fun index hindex => ?_⟩
  obtain ⟨i, hi, rfl⟩ := List.getElem_of_mem hindex
  exact (hfound.get (hfound.length_eq ▸ hi) hi).2

variable (session)

/-- What is asked and what is found, on record. -/
theorem indexes_recorded
    (server : IndexClient client session.connection session.encoding catalog)
    (hconnected : session.connected = true) (table : String) (s : σ) :
    ∃ found q, indexes client.recorded table (session, s, []) = (.ok found, q) ∧
      sentTexts (record q).reverse =
        indexesQuery table :: found.map (fun index => indexColumnsQuery index.name) ∧
      (found.map (·.name)).Perm (catalog.namesIn table) ∧
      ∀ index ∈ found, catalog.Lists index.name index.columns := by
  obtain ⟨found, n, t, hfound, hnames, hlists⟩ :=
    indexes_succeeds server.recorded hconnected table session.affectedRows (s, [])
  obtain ⟨calls, hrecord, htexts, -⟩ := indexes_sends client table (session, s, []) hconnected
  refine ⟨found, _, hfound, ?_, hnames, hlists⟩
  have hcalls : (indexes client.recorded table (session, s, [])).2.2.2 = calls.reverse :=
    hrecord.trans (List.append_nil _)
  have hsession : { session with affectedRows := session.affectedRows } = session := rfl
  rw [hsession] at hfound
  rw [hfound] at hcalls htexts
  change sentTexts t.2.reverse = _
  rw [show t.2 = calls.reverse from hcalls, List.reverse_reverse]
  exact htexts found rfl

/-- **An index is reported with its own members exactly if no other table has one of its name,** or
only such that have no members. The texts by which the session asks for the members of an index are
the same for all tables, as only the name of the index is in them. -/
theorem indexes_columns_eq_iff
    (server : IndexClient client session.connection session.encoding catalog)
    (hconnected : session.connected = true) (table : String) (s : σ) :
    ∃ found q, indexes client.recorded table (session, s, []) = (.ok found, q) ∧
      sentTexts (record q).reverse =
        indexesQuery table :: found.map (fun index => indexColumnsQuery index.name) ∧
      (found.map (·.name)).Perm (catalog.namesIn table) ∧
      ∀ index ∈ found, ∀ own ∈ catalog.indexes, own.table = table → own.name = index.name →
        (index.columns = own.members ↔ catalog.Alone own) := by
  obtain ⟨found, q, hfound, htexts, hnames, hlists⟩ :=
    indexes_recorded session server hconnected table s
  refine ⟨found, q, hfound, htexts, hnames, fun index hindex own hown _ hname => ?_⟩
  exact IndexCatalog.lists_eq_members_iff hown (hname ▸ hlists index hindex)

end Clients

/-- Orders and customers have an index of one name. -/
def sharedDay : IndexCatalog where
  indexes := [⟨"orders", "by_day", ["day"]⟩, ⟨"orders", "by_customer", ["customer", "day"]⟩,
    ⟨"customers", "by_day", ["since"]⟩]

theorem indexes_columns_orders :
    ∃ found q, indexes (IndexServer.client sharedDay).recorded "orders"
        (AnswerServer.session, none, []) = (.ok found, q) ∧
      sentTexts (record q).reverse =
        indexesQuery "orders" :: found.map (fun index => indexColumnsQuery index.name) ∧
      (found.map (·.name)).Perm (sharedDay.namesIn "orders") ∧
      ∀ index ∈ found, ∀ own ∈ sharedDay.indexes, own.table = "orders" → own.name = index.name →
        (index.columns = own.members ↔ sharedDay.Alone own) :=
  indexes_columns_eq_iff AnswerServer.session (IndexServer.indexClient sharedDay) rfl "orders" none

/-- For both tables the session sends the same text, and the index of the orders is reported with
more than its own member. -/
theorem indexes_columns_sharedDay_ne :
    ∃ found q found' q',
      indexes (IndexServer.client sharedDay).recorded "orders" (AnswerServer.session, none, []) =
        (.ok found, q) ∧
      indexes (IndexServer.client sharedDay).recorded "customers" (AnswerServer.session, none, []) =
        (.ok found', q') ∧
      indexColumnsQuery "by_day" ∈ sentTexts (record q).reverse ∧
      indexColumnsQuery "by_day" ∈ sentTexts (record q').reverse ∧
      ∃ index ∈ found, index.name = "by_day" ∧ index.columns ≠ ["day"] := by
  have server := IndexServer.indexClient sharedDay
  obtain ⟨found, q, hfound, htexts, hnames, hlists⟩ :=
    indexes_recorded AnswerServer.session server rfl "orders" none
  obtain ⟨found', q', hfound', htexts', hnames', -⟩ :=
    indexes_recorded AnswerServer.session server rfl "customers" none
  have hmem : "by_day" ∈ found.map (·.name) := hnames.mem_iff.mpr (by decide)
  have hmem' : "by_day" ∈ found'.map (·.name) := hnames'.mem_iff.mpr (by decide)
  obtain ⟨index, hindex, hname⟩ := List.mem_map.mp hmem
  obtain ⟨index', hindex', hname'⟩ := List.mem_map.mp hmem'
  have hsent : indexColumnsQuery "by_day" ∈ sentTexts (record q).reverse := by
    rw [htexts]
    exact List.mem_cons_of_mem _ (List.mem_map.mpr ⟨index, hindex, by rw [hname]⟩)
  have hsent' : indexColumnsQuery "by_day" ∈ sentTexts (record q').reverse := by
    rw [htexts']
    exact List.mem_cons_of_mem _ (List.mem_map.mpr ⟨index', hindex', by rw [hname']⟩)
  have hlisted : sharedDay.Lists "by_day" index.columns := hname ▸ hlists index hindex
  have hown : (⟨"orders", "by_day", ["day"]⟩ : TableIndex) ∈ sharedDay.indexes := by decide
  have hother : (⟨"customers", "by_day", ["since"]⟩ : TableIndex) ∈ sharedDay.indexes := by decide
  refine ⟨found, q, found', q', hfound, hfound', hsent, hsent', index, hindex, hname, ?_⟩
  intro hcolumns
  have halone := (IndexCatalog.lists_eq_members_iff hown hlisted).mp hcolumns
  exact absurd (halone _ hother (by decide) rfl) (List.cons_ne_nil _ _)

end Session

end Anywhere
