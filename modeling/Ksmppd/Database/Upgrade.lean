import Ksmppd.Database.Schema

/-!
# Upgrade — what the tables are after any number of starts

No start takes anything away.  A start in which nothing is refused completes the tables, with the
exception of one column that no statement of the program ever creates; what was refused once, though,
is not made up for.
-/

namespace Ksmppd
namespace Database

open Lib

variable {c : InitSettings} {accepts : SchemaStatement → Bool} {db db' db'' : SqlDatabase}
  {x : Octstr × Octstr} {st : SchemaStatement} {starts : List (SchemaStatement → Bool)}
  {table column : Octstr} {columns : List Octstr}

/-! ## Nothing is lost -/

/-- The table has its columns still, and its rows have the values in them that they had. -/
structure Grows (t t' : Table) : Prop where
  columns : t.columns ⊆ t'.columns
  rows : List.Forall₂ (fun row row' => ∀ column ∈ t.columns, row' column = row column) t.rows t'.rows

def Extends (db db' : SqlDatabase) : Prop :=
  ∀ name t, db.tables name = some t → ∃ t', db'.tables name = some t' ∧ Grows t t'

theorem Grows.refl (t : Table) : Grows t t where
  columns := fun _ h => h
  rows := List.forall₂_same.mpr (fun _ _ _ _ => rfl)

theorem Grows.trans {t t' t'' : Table} (h : Grows t t') (h' : Grows t' t'') : Grows t t'' where
  columns := fun _ hcolumn => h'.columns (h.columns hcolumn)
  rows := by
    rcases h with ⟨hcolumns, hrows⟩
    rcases h' with ⟨-, hrows'⟩
    rw [List.forall₂_iff_get] at hrows hrows' ⊢
    refine ⟨hrows.1.trans hrows'.1, ?_⟩
    intro i hi hi'' column hcolumn
    have hi' : i < t'.rows.length := hrows.1 ▸ hi
    calc
      t''.rows.get ⟨i, hi''⟩ column = t'.rows.get ⟨i, hi'⟩ column :=
        hrows'.2 i hi' hi'' column (hcolumns hcolumn)
      _ = t.rows.get ⟨i, hi⟩ column := hrows.2 i hi hi' column hcolumn

theorem Extends.refl (db : SqlDatabase) : Extends db db := fun _ t h => ⟨t, h, Grows.refl t⟩

theorem Extends.trans (h : Extends db db') (h' : Extends db' db'') : Extends db db'' := by
  intro name t ht
  rcases h name t ht with ⟨t', ht', hgrows⟩
  rcases h' name t' ht' with ⟨t'', ht'', hgrows'⟩
  exact ⟨t'', ht'', hgrows.trans hgrows'⟩

theorem Extends.hasColumn (h : Extends db db') (hx : db.HasColumn x) : db'.HasColumn x := by
  rcases hx with ⟨t, ht, hcolumn⟩
  rcases h x.1 t ht with ⟨t', ht', hgrows⟩
  exact ⟨t', ht', hgrows.columns hcolumn⟩

theorem extends_createTable (db : SqlDatabase) (table : Octstr) (columns : List Octstr) :
    Extends db (db.createTable table columns) := by
  unfold SqlDatabase.createTable
  split
  · exact Extends.refl db
  · rename_i hnone
    intro name t ht
    have hname : name ≠ table := fun heq => by
      rw [heq, hnone] at ht
      cases ht
    exact ⟨t, by simpa [Function.update_of_ne hname] using ht, Grows.refl t⟩

theorem addColumn_cases {default : Option Octstr}
    (h : db.addColumn table column default = some db') :
    ∃ t, db.tables table = some t ∧ column ∉ t.columns ∧ db'.version = db.version ∧
      db'.tables = Function.update db.tables table (some
        { columns := t.columns ++ [column]
          rows := t.rows.map (fun row => Function.update row column default) }) := by
  rcases Option.bind_eq_some_iff.mp h with ⟨t, ht, hrest⟩
  split at hrest
  · cases hrest
  · rename_i hnew
    cases hrest
    exact ⟨t, ht, hnew, rfl, rfl⟩

theorem extends_addColumn {default : Option Octstr}
    (h : db.addColumn table column default = some db') : Extends db db' := by
  rcases addColumn_cases h with ⟨t, ht, hnew, -, htables⟩
  intro name t₁ ht₁
  rw [htables]
  by_cases hname : name = table
  · subst hname
    rw [ht] at ht₁
    cases ht₁
    refine ⟨_, Function.update_self .., fun _ hcolumn => List.mem_append_left _ hcolumn, ?_⟩
    rw [List.forall₂_map_right_iff]
    refine List.forall₂_same.mpr (fun row _ old hold => ?_)
    exact Function.update_of_ne (by rintro rfl; exact hnew hold) ..
  · exact ⟨t₁, by rw [Function.update_of_ne hname]; exact ht₁, Grows.refl t₁⟩

/-- A statement that fails changes nothing. -/
theorem update_cases (accepts : SchemaStatement → Bool) (db : SqlDatabase) (st : SchemaStatement) :
    (db.update accepts st).1 = db ∨ db.execute st = some (db.update accepts st).1 := by
  unfold SqlDatabase.update
  split
  · cases h : db.execute st with
    | none => exact Or.inl rfl
    | some db' => exact Or.inr rfl
  · exact Or.inl rfl

theorem extends_update (accepts : SchemaStatement → Bool) (db : SqlDatabase)
    (st : SchemaStatement) : Extends db (db.update accepts st).1 := by
  rcases update_cases accepts db st with hsame | hexecuted
  · rw [hsame]
    exact Extends.refl db
  · cases st with
    | createTable table columns =>
        rw [← Option.some.inj hexecuted]
        exact extends_createTable db table columns
    | addColumn table column default => exact extends_addColumn hexecuted
    | insertVersion version =>
        simp only [SqlDatabase.execute] at hexecuted
        split at hexecuted
        · cases hexecuted
        · rw [← Option.some.inj hexecuted]
          exact Extends.refl db
    | createIndex _ _ | selectVersion | updateVersion _ =>
        rw [← Option.some.inj hexecuted]
        exact Extends.refl db

/-! ## The statements of a start -/

def queueTables (c : InitSettings) : List (Octstr × List Octstr) :=
  (if c.storeTable = c.queueStoreTable then [(c.storeTable, storeColumns)]
    else [(c.storeTable, storeColumns), (c.queueStoreTable, storeColumns)]) ++
  [(c.sql.databasePduTable, pduColumns)] ++
  (if c.sql.databaseDlrTable = [] then [] else [(c.sql.databaseDlrTable, dlrColumns)])

/-- The tables a start creates, in its order. -/
def baseTables (c : InitSettings) : List (Octstr × List Octstr) :=
  (if c.redisQueue then [] else queueTables c) ++
    [(c.sql.databaseRouteTable, routeColumns c.sql.sqlDialect), (c.userTable, userColumns)]

theorem store_mem_queueTables : (c.storeTable, storeColumns) ∈ queueTables c := by
  unfold queueTables
  split <;> simp

theorem queueStore_mem_queueTables : (c.queueStoreTable, storeColumns) ∈ queueTables c := by
  unfold queueTables
  split
  · rename_i heq
    simp [heq]
  · simp

theorem pdu_mem_queueTables : (c.sql.databasePduTable, pduColumns) ∈ queueTables c := by
  simp [queueTables]

theorem dlr_mem_queueTables (h : c.sql.databaseDlrTable ≠ []) :
    (c.sql.databaseDlrTable, dlrColumns) ∈ queueTables c := by
  simp [queueTables, h]

theorem mem_baseTables_of_queue (hredis : c.redisQueue = false) {y : Octstr × List Octstr}
    (hy : y ∈ queueTables c) : y ∈ baseTables c :=
  List.mem_append_left _ (by simpa [hredis] using hy)

theorem route_mem_baseTables :
    (c.sql.databaseRouteTable, routeColumns c.sql.sqlDialect) ∈ baseTables c :=
  List.mem_append_right _ (by simp)

theorem user_mem_baseTables : (c.userTable, userColumns) ∈ baseTables c :=
  List.mem_append_right _ (by simp)

/-- The statements that make the tables. -/
def MakesTable (c : InitSettings) : SchemaStatement → Prop
  | .createTable table columns =>
      (table, columns) ∈ baseTables c ∨ (table, columns) = (c.databaseVersionTable, versionColumns)
  | .createIndex _ _ => True
  | _ => False

/-- The statements a start can send. -/
def Issued (c : InitSettings) : SchemaStatement → Prop
  | .addColumn table column default =>
      ∃ x ∈ newColumns c, x.table = table ∧ x.column = column ∧ x.default = default
  | .selectVersion | .insertVersion _ | .updateVersion _ => True
  | st => MakesTable c st

/-- A preorder that no statement in `S` breaks. -/
structure Respected (accepts : SchemaStatement → Bool) (S : SchemaStatement → Prop)
    (R : SqlDatabase → SqlDatabase → Prop) : Prop where
  refl : ∀ db, R db db
  trans : ∀ db db' db'', R db db' → R db' db'' → R db db''
  update : ∀ db st, S st → R db (db.update accepts st).1

theorem MakesTable.issued (h : MakesTable c st) : Issued c st := by
  cases st with
  | createTable _ _ | createIndex _ _ => exact h
  | addColumn _ _ _ | selectVersion | insertVersion _ | updateVersion _ => exact absurd h id

theorem Respected.tables {R : SqlDatabase → SqlDatabase → Prop}
    (hR : Respected accepts (Issued c) R) : Respected accepts (MakesTable c) R where
  refl := hR.refl
  trans := hR.trans
  update := fun db st hst => hR.update db st hst.issued

section Relation

variable {R : SqlDatabase → SqlDatabase → Prop}

theorem relation_createStoreTable (hR : Respected accepts (MakesTable c) R) (db : SqlDatabase)
    (table : Octstr)
    (hissued : MakesTable c (.createTable table storeColumns)) :
    R db (smppDatabaseCreateStoreTable c accepts db table).1 := by
  have hcreated := hR.update db _ hissued
  unfold smppDatabaseCreateStoreTable
  dsimp only
  split
  · exact hcreated
  · split
    · exact hR.trans _ _ _ hcreated (hR.update _ _ trivial)
    · exact hcreated

theorem relation_initQueueTables (hR : Respected accepts (MakesTable c) R) (db : SqlDatabase)
    (hredis : c.redisQueue = false) :
    R db (initQueueTables c accepts db) := by
  have hbase : ∀ y ∈ queueTables c, MakesTable c (.createTable y.1 y.2) :=
    fun y hy => Or.inl (mem_baseTables_of_queue hredis hy)
  have hfirst : R db (smppDatabaseCreateStoreTable c accepts db c.storeTable).1 :=
    relation_createStoreTable hR db c.storeTable (hbase _ store_mem_queueTables)
  unfold initQueueTables
  dsimp only
  -- first the two stores, whose results decide about the PDUs
  generalize hr : (if (smppDatabaseCreateStoreTable c accepts db c.storeTable).2 = true ∧
      c.storeTable ≠ c.queueStoreTable then
    smppDatabaseCreateStoreTable c accepts (smppDatabaseCreateStoreTable c accepts db
      c.storeTable).1 c.queueStoreTable
    else smppDatabaseCreateStoreTable c accepts db c.storeTable) = r
  have hstores : R db r.1 := by
    rw [← hr]
    split
    · exact hR.trans _ _ _ hfirst
        (relation_createStoreTable hR _ _ (hbase _ queueStore_mem_queueTables))
    · exact hfirst
  have hpdus : R db (if r.2 = true then
      (r.1.update accepts (.createTable c.sql.databasePduTable pduColumns)).1 else r.1) := by
    split
    · exact hR.trans _ _ _ hstores (hR.update _ _ (hbase _ pdu_mem_queueTables))
    · exact hstores
  split
  · rename_i hdlr
    exact hR.trans _ _ _ hpdus (hR.update _ _ (hbase _ (dlr_mem_queueTables hdlr)))
  · exact hpdus

theorem relation_initTables (hR : Respected accepts (MakesTable c) R) (db : SqlDatabase) :
    R db (initTables c accepts db) := by
  have hroute : MakesTable c
      (.createTable c.sql.databaseRouteTable (routeColumns c.sql.sqlDialect)) := Or.inl route_mem_baseTables
  have huser : MakesTable c (.createTable c.userTable userColumns) := Or.inl user_mem_baseTables
  unfold initTables
  dsimp only
  refine hR.trans _ _ _ ?_ (hR.update _ _ huser)
  refine hR.trans _ _ _ ?_ (hR.update _ _ hroute)
  cases hredis : c.redisQueue with
  | true => exact hR.refl db
  | false => exact relation_initQueueTables hR db hredis

theorem relation_migration (hR : Respected accepts (Issued c) R) {m : Migration SqlDatabase}
    (hm : m ∈ migrations c accepts) (db : SqlDatabase) : R db (m.apply db) := by
  unfold migrations at hm
  split at hm
  · rcases List.mem_map.mp hm with ⟨x, hx, rfl⟩
    exact hR.update db _ ⟨x, hx, rfl, rfl, rfl⟩
  · cases List.mem_singleton.mp hm
    exact hR.refl db

theorem relation_initVersion (hR : Respected accepts (Issued c) R) (db : SqlDatabase) :
    R db (initVersion c accepts db) := by
  unfold initVersion
  dsimp only
  generalize hd : (if (accepts .selectVersion && db.version.isNone) = true then
    (db.update accepts (.insertVersion (runningVersion accepts db))).1 else db) = d
  have hinserted : R db d := by
    rw [← hd]
    split
    · exact hR.update db _ trivial
    · exact hR.refl db
  have hmigrated : R db (migrate (migrations c accepts) (runningVersion accepts db, d)).2 :=
    hR.trans _ _ _ hinserted (migrate_relation hR.refl hR.trans
      (fun m hm db => relation_migration hR hm db) (_, d))
  split
  · exact hR.trans _ _ _ hmigrated (hR.update _ _ trivial)
  · exact hmigrated

/-- What no statement of a start can break, the start does not break. -/
theorem relation_initAll (hR : Respected accepts (Issued c) R) (db : SqlDatabase) :
    R db (smppDatabaseSqlInitTables c accepts db) := by
  have htables := relation_initTables hR.tables db
  have hversion := hR.trans _ _ _ htables (hR.update (initTables c accepts db)
    (.createTable c.databaseVersionTable versionColumns) (Or.inr rfl))
  unfold smppDatabaseSqlInitTables
  dsimp only
  split
  · exact hR.trans _ _ _ hversion (relation_initVersion hR _)
  · exact hversion

end Relation

/-! ## A column that is never created -/

theorem lacks_createTable (h : db.Lacks x) (hx : table = x.1 → x.2 ∉ columns) :
    (db.createTable table columns).Lacks x := by
  unfold SqlDatabase.createTable
  split
  · exact h
  · intro t ht
    dsimp only at ht
    by_cases hname : x.1 = table
    · rw [hname, Function.update_self] at ht
      cases ht
      exact hx hname.symm
    · rw [Function.update_of_ne hname] at ht
      exact h t ht

theorem lacks_addColumn {default : Option Octstr}
    (hadded : db.addColumn table column default = some db') (h : db.Lacks x)
    (hx : table = x.1 → column ≠ x.2) : db'.Lacks x := by
  rcases addColumn_cases hadded with ⟨t₀, ht₀, -, -, htables⟩
  intro t ht
  rw [htables] at ht
  by_cases hname : x.1 = table
  · subst hname
    rw [Function.update_self] at ht
    cases ht
    have hnew : x.2 ≠ column := fun heq => hx rfl heq.symm
    simpa [hnew] using h t₀ ht₀
  · rw [Function.update_of_ne hname] at ht
    exact h t ht

/-- The statement neither creates the table with the column nor adds the column to it. -/
def LeavesOut (x : Octstr × Octstr) : SchemaStatement → Prop
  | .createTable table columns => table = x.1 → x.2 ∉ columns
  | .addColumn table column _ => table = x.1 → column ≠ x.2
  | _ => True

theorem lacks_update (h : db.Lacks x) (hst : LeavesOut x st) :
    (db.update accepts st).1.Lacks x := by
  rcases update_cases accepts db st with hsame | hexecuted
  · rw [hsame]
    exact h
  · cases st with
    | createTable table columns =>
        rw [← Option.some.inj hexecuted]
        exact lacks_createTable h hst
    | addColumn table column default => exact lacks_addColumn hexecuted h hst
    | insertVersion version =>
        simp only [SqlDatabase.execute] at hexecuted
        split at hexecuted
        · cases hexecuted
        · rw [← Option.some.inj hexecuted]
          exact h
    | createIndex _ _ | selectVersion | updateVersion _ =>
        rw [← Option.some.inj hexecuted]
        exact h

theorem storePrimary_not_mem_columns :
    ∀ columns ∈ [storeColumns, pduColumns, dlrColumns, routeColumns .mysql, routeColumns .pgsql,
      userColumns, versionColumns], octstrImm "database_store_primary" ∉ columns := by
  decide

theorem columns_of_mem_baseTables {y : Octstr × List Octstr} (hy : y ∈ baseTables c) :
    y.2 ∈ [storeColumns, pduColumns, dlrColumns, routeColumns .mysql, routeColumns .pgsql,
      userColumns, versionColumns] := by
  have hroute : routeColumns c.sql.sqlDialect = routeColumns .mysql ∨
      routeColumns c.sql.sqlDialect = routeColumns .pgsql := by
    cases c.sql.sqlDialect
    · exact Or.inl rfl
    · exact Or.inr rfl
  unfold baseTables queueTables at hy
  rcases List.mem_append.mp hy with hqueue | hrest
  · split at hqueue
    · cases hqueue
    · rcases List.mem_append.mp hqueue with hfirst | hdlr
      · rcases List.mem_append.mp hfirst with hstore | hpdu
        · have hcolumns : y.2 = storeColumns := by
            split at hstore
            · cases List.mem_singleton.mp hstore
              rfl
            · rcases List.mem_cons.mp hstore with rfl | hsecond
              · rfl
              · cases List.mem_singleton.mp hsecond
                rfl
          simp [hcolumns]
        · cases List.mem_singleton.mp hpdu
          simp
      · split at hdlr
        · cases hdlr
        · cases List.mem_singleton.mp hdlr
          simp
  · simp only [List.mem_cons, List.not_mem_nil, or_false] at hrest
    rcases hrest with rfl | rfl
    · rcases hroute with heq | heq <;> simp [heq]
    · simp

theorem leavesOut_storePrimary (h : Issued c st) (table : Octstr) :
    LeavesOut (table, octstrImm "database_store_primary") st := by
  cases st with
  | createTable name columns =>
      intro _
      apply storePrimary_not_mem_columns columns
      rcases h with hbase | hversion
      · exact columns_of_mem_baseTables hbase
      · cases hversion
        simp
  | addColumn name column default =>
      rcases h with ⟨y, hy, -, rfl, -⟩
      intro _
      have hcolumns : ∀ z ∈ newColumns c, z.column ≠ octstrImm "database_store_primary" := by
        simp only [newColumns, List.forall_mem_cons]
        decide
      exact hcolumns y hy
  | createIndex _ _ | selectVersion | insertVersion _ | updateVersion _ => trivial

theorem lacks_startAll (h : db.Lacks (table, octstrImm "database_store_primary")) :
    (startAll c db starts).Lacks (table, octstrImm "database_store_primary") := by
  induction starts generalizing db with
  | nil => exact h
  | cons accepts starts ih =>
      have hrespected : Respected accepts (Issued c) (fun db db' =>
          db.Lacks (table, octstrImm "database_store_primary") →
            db'.Lacks (table, octstrImm "database_store_primary")) :=
        { refl := fun _ hdb => hdb
          trans := fun _ _ _ hab hbc hdb => hbc (hab hdb)
          update := fun db st hst hdb => lacks_update hdb (leavesOut_storePrimary hst table) }
      exact ih (relation_initAll hrespected db h)

theorem hasColumn_eq_true_iff : db.hasColumn x = true ↔ db.HasColumn x := by
  unfold SqlDatabase.hasColumn SqlDatabase.HasColumn
  rw [Option.any_eq_true]
  simp

/-- As long as the column is not added by hand, the database the program starts with, however often,
authenticates nobody. -/
theorem nobody_authenticated (c : InitSettings) (db : SqlDatabase)
    (h : db.Lacks (c.userTable, octstrImm "database_store_primary"))
    (starts : List (SchemaStatement → Bool)) (data : SmppEsmeData) (systemId : Octstr)
    (password : Option Octstr) (denied : Bool) (row : Option SmppEsmeAuthResult) :
    smppEsmeAuth data systemId denied
      (smppDatabaseMysqlAuthenticate c.sql (startAll c db starts) (some systemId) password row) =
        none := by
  have hlacks : (startAll c db starts).Lacks (c.userTable, octstrImm "database_store_primary") :=
    lacks_startAll h
  have hnamed : (c.userTable, octstrImm "database_store_primary") ∈
      (SqlQuery.authenticate (some systemId) password).names c.sql := by
    unfold SqlQuery.names InitSettings.userTable
    exact List.mem_map_of_mem (by decide)
  have herror : ((SqlQuery.authenticate (some systemId) password).names c.sql).all
      (startAll c db starts).hasColumn = false := by
    rw [List.all_eq_false]
    refine ⟨_, hnamed, fun hcolumn => ?_⟩
    rcases hasColumn_eq_true_iff.mp hcolumn with ⟨t, ht, hmem⟩
    exact hlacks t ht hmem
  unfold smppDatabaseMysqlAuthenticate
  rw [herror]
  rfl

/-- The settings with the default names. -/
def sampleInit (d : SqlDialect) : InitSettings where
  sql :=
    { sqlDialect := d
      store :=
        { databaseStorePrimary := false
          databaseEnableQueue := true
          databaseStoreTable := octstrImm "smpp_store"
          databaseQueueStoreTable := some (octstrImm "smpp_store_queue")
          databaseUserTable := some (octstrImm "smpp_user")
          accountStorePrimary := fun _ => none
          sameService := fun service service' => decide (service = service') }
      databasePduTable := octstrImm "smpp_queued_pdu"
      databaseRouteTable := octstrImm "smpp_route"
      databaseDlrTable := octstrImm "smpp_dlr" }
  databaseVersionTable := octstrImm "smpp_version"
  databaseQueueType := none

theorem nobody_authenticated_sample :
    smppEsmeAuth smppEsmeInit (octstrImm "test") false
      (smppDatabaseMysqlAuthenticate (sampleInit .mysql).sql
        (startAll (sampleInit .mysql) emptyDatabase [fun _ => true])
        (some (octstrImm "test")) none (some { maxBinds := 0 })) = none :=
  nobody_authenticated (sampleInit .mysql) emptyDatabase (fun t ht => by cases ht) _ _ _ _ _ _

/-! ## Complete tables -/

/-- Everything a start creates or adds is there. -/
structure Complete (c : InitSettings) (db : SqlDatabase) : Prop where
  base : ∀ y ∈ baseTables c, ∃ t, db.tables y.1 = some t ∧ y.2 ⊆ t.columns
  added : ∀ y ∈ newColumns c, db.HasColumn (y.table, y.column)

/-- The tables that are there have the columns they are created with, and on MySQL the recorded
version stands for the columns that came with it. -/
structure Consistent (c : InitSettings) (db : SqlDatabase) : Prop where
  base : ∀ y ∈ baseTables c, ∀ t, db.tables y.1 = some t → y.2 ⊆ t.columns
  recorded : c.sql.sqlDialect = .mysql → ∀ y ∈ newColumns c, y.version ≤ db.version.getD 1 →
    db.HasColumn (y.table, y.column)

theorem consistent_empty (c : InitSettings) : Consistent c emptyDatabase where
  base := fun _ _ _ ht => by cases ht
  recorded := by
    intro _ y hy hversion
    -- the first version has no new columns
    have hnewer : ∀ z ∈ newColumns c, ¬ z.version ≤ 1 := by
      simp only [newColumns, List.forall_mem_cons]
      decide
    exact absurd hversion (hnewer y hy)

/-- The statements that make the tables are accepted. -/
structure AcceptsTables (accepts : SchemaStatement → Bool) : Prop where
  createTable : ∀ table columns, accepts (.createTable table columns) = true
  createIndex : ∀ table column, accepts (.createIndex table column) = true
  addColumn : ∀ table column default, accepts (.addColumn table column default) = true

/-- No two tables of the program have the same name, except that there may be one store. -/
def DistinctTables (c : InitSettings) : Prop :=
  ((baseTables c).map Prod.fst ++ [c.databaseVersionTable]).Nodup

def createAll (l : List (Octstr × List Octstr)) (db : SqlDatabase) : SqlDatabase :=
  l.foldl (fun db y => db.createTable y.1 y.2) db

theorem update_createTable (h : AcceptsTables accepts) :
    db.update accepts (.createTable table columns) = (db.createTable table columns, true) := by
  simp [SqlDatabase.update, SqlDatabase.execute, h.createTable]

theorem createStoreTable_accepted (h : AcceptsTables accepts) :
    smppDatabaseCreateStoreTable c accepts db table = (db.createTable table storeColumns, true) := by
  unfold smppDatabaseCreateStoreTable
  rw [update_createTable h]
  cases c.sql.sqlDialect with
  | mysql => rfl
  | pgsql => simp [SqlDatabase.update, SqlDatabase.execute, h.createIndex]

theorem initTables_accepted (h : AcceptsTables accepts) :
    initTables c accepts db = createAll (baseTables c) db := by
  have hqueue : initQueueTables c accepts db = createAll (queueTables c) db := by
    unfold initQueueTables queueTables createAll
    simp only [createStoreTable_accepted h, update_createTable h]
    by_cases hstores : c.storeTable = c.queueStoreTable
    · by_cases hdlr : c.sql.databaseDlrTable = [] <;> simp [hstores, hdlr]
    · by_cases hdlr : c.sql.databaseDlrTable = [] <;> simp [hstores, hdlr]
  unfold initTables baseTables
  simp only [update_createTable h, hqueue]
  cases c.redisQueue <;> simp [createAll]

theorem extends_createAll (l : List (Octstr × List Octstr)) (db : SqlDatabase) :
    Extends db (createAll l db) := by
  induction l generalizing db with
  | nil => exact Extends.refl db
  | cons y l ih => exact (extends_createTable db y.1 y.2).trans (ih _)

theorem createTable_other {name : Octstr} (h : name ≠ table) :
    (db.createTable table columns).tables name = db.tables name := by
  unfold SqlDatabase.createTable
  split
  · rfl
  · exact Function.update_of_ne h ..

theorem createTable_version (db : SqlDatabase) (table : Octstr) (columns : List Octstr) :
    (db.createTable table columns).version = db.version := by
  unfold SqlDatabase.createTable
  split <;> rfl

theorem createAll_version (l : List (Octstr × List Octstr)) (db : SqlDatabase) :
    (createAll l db).version = db.version := by
  induction l generalizing db with
  | nil => rfl
  | cons y l ih => exact (ih _).trans (createTable_version db y.1 y.2)

/-- Tables of different names that had their columns, or were not there, have them then. -/
theorem columns_createAll {l : List (Octstr × List Octstr)} (hnames : (l.map Prod.fst).Nodup)
    (h : ∀ y ∈ l, ∀ t, db.tables y.1 = some t → y.2 ⊆ t.columns) :
    ∀ y ∈ l, ∃ t, (createAll l db).tables y.1 = some t ∧ y.2 ⊆ t.columns := by
  induction l generalizing db with
  | nil =>
      intro y hy
      cases hy
  | cons z l ih =>
      rcases List.nodup_cons.mp hnames with ⟨hfresh, hrest⟩
      intro y hy
      rcases List.mem_cons.mp hy with rfl | hlater
      · -- created now or there before, and kept by the rest
        have hcreated : ∃ t, (db.createTable y.1 y.2).tables y.1 = some t ∧ y.2 ⊆ t.columns := by
          unfold SqlDatabase.createTable
          split
          · rename_i t ht
            exact ⟨t, ht, h y List.mem_cons_self t ht⟩
          · exact ⟨_, Function.update_self .., fun _ hcolumn => hcolumn⟩
        rcases hcreated with ⟨t, ht, hcolumns⟩
        rcases extends_createAll l _ y.1 t ht with ⟨t', ht', hgrows⟩
        exact ⟨t', ht', fun _ hcolumn => hgrows.columns (hcolumns hcolumn)⟩
      · have hcreated : ∀ y ∈ l, ∀ t, (db.createTable z.1 z.2).tables y.1 = some t →
            y.2 ⊆ t.columns := by
          intro y' hy' t ht
          have hname : y'.1 ≠ z.1 := by
            intro heq
            exact hfresh (heq ▸ List.mem_map_of_mem hy')
          rw [createTable_other hname] at ht
          exact h y' (List.mem_cons_of_mem z hy') t ht
        exact ih hrest hcreated y hlater

theorem update_addColumn (h : AcceptsTables accepts) {y : NewColumn} {t : Table}
    (ht : db.tables y.table = some t) :
    (db.update accepts (.addColumn y.table y.column y.default)).1.HasColumn
      (y.table, y.column) := by
  have haccepted := h.addColumn y.table y.column y.default
  by_cases hcolumn : y.column ∈ t.columns
  · -- an error, as the column is there
    exact ⟨t, by simp [SqlDatabase.update, SqlDatabase.execute, SqlDatabase.addColumn, haccepted,
      ht, hcolumn], hcolumn⟩
  · refine ⟨{
      columns := t.columns ++ [y.column]
      rows := t.rows.map (fun row => Function.update row y.column y.default) }, ?_, by simp⟩
    simp [SqlDatabase.update, SqlDatabase.execute, SqlDatabase.addColumn, haccepted, ht, hcolumn]

theorem tables_addColumn_iff (y : NewColumn) (name : Octstr) :
    ((db.update accepts (.addColumn y.table y.column y.default)).1.tables name).isSome =
      (db.tables name).isSome := by
  rcases update_cases accepts db (.addColumn y.table y.column y.default) with hsame | hexecuted
  · rw [hsame]
  · rcases addColumn_cases hexecuted with ⟨t, ht, -, -, htables⟩
    rw [htables]
    by_cases hname : name = y.table
    · subst hname
      simp [ht]
    · rw [Function.update_of_ne hname]

theorem newColumns_sorted (c : InitSettings) (accepts : SchemaStatement → Bool) :
    (newColumns c).Pairwise (fun y z =>
      (NewColumn.migration accepts y).version < (NewColumn.migration accepts z).version) := by
  simp [newColumns, NewColumn.migration]

/-- On MySQL, the columns that are new are added; those that are not are there. -/
theorem added_of_migrate (haccepts : AcceptsTables accepts)
    (hd : c.sql.sqlDialect = .mysql) {running : Int}
    (htables : ∀ y ∈ newColumns c, (db.tables y.table).isSome)
    (hrecorded : ∀ y ∈ newColumns c, y.version ≤ running → db.HasColumn (y.table, y.column)) :
    ∀ y ∈ newColumns c,
      (migrate (migrations c accepts) (running, db)).2.HasColumn (y.table, y.column) := by
  have hmigrations : migrations c accepts = (newColumns c).map (NewColumn.migration accepts) := by
    simp [migrations, hd]
  rw [hmigrations]
  intro y hy
  -- a column can only be missing with its table
  have hensured := migrate_ensures (f := NewColumn.migration accepts) (l := newColumns c)
    (P := fun z (d : SqlDatabase) => (d.tables z.table).isSome → d.HasColumn (z.table, z.column))
    (r := (running, db)) (newColumns_sorted c accepts)
    (fun z _ d hsome => by
      have hsome' : (d.tables z.table).isSome := (tables_addColumn_iff z z.table) ▸ hsome
      rcases Option.isSome_iff_exists.mp hsome' with ⟨t, ht⟩
      exact update_addColumn haccepts ht)
    (fun z _ w _ d hz hsome => by
      have hsome' : (d.tables z.table).isSome := (tables_addColumn_iff w z.table) ▸ hsome
      exact (extends_update accepts d _).hasColumn (hz hsome'))
    (fun z hz hversion _ => hrecorded z hz hversion) y hy
  apply hensured
  refine migrate_keeps (P := fun d : SqlDatabase => (d.tables y.table).isSome) ?_ (htables y hy)
  intro m hm _ d hd'
  rcases List.mem_map.mp hm with ⟨w, -, rfl⟩
  exact (tables_addColumn_iff w y.table).trans hd'

theorem complete_init (haccepts : AcceptsTables accepts) (hdistinct : DistinctTables c)
    (h : Consistent c db) : Complete c (smppDatabaseSqlInitTables c accepts db) := by
  let created : SqlDatabase :=
    (createAll (baseTables c) db).createTable c.databaseVersionTable versionColumns
  have hinit : smppDatabaseSqlInitTables c accepts db = initVersion c accepts created := by
    simp [smppDatabaseSqlInitTables, initTables_accepted haccepts, update_createTable haccepts,
      created]
  have hrespected : Respected accepts (Issued c) Extends :=
    { refl := Extends.refl
      trans := fun _ _ _ => Extends.trans
      update := fun db st _ => extends_update accepts db st }
  have hnames : ((baseTables c).map Prod.fst).Nodup := (List.nodup_append.mp hdistinct).1
  have hbase : ∀ y ∈ baseTables c, ∃ t, created.tables y.1 = some t ∧ y.2 ⊆ t.columns := by
    intro y hy
    rcases columns_createAll hnames h.base y hy with ⟨t, ht, hcolumns⟩
    rcases extends_createTable _ c.databaseVersionTable versionColumns y.1 t ht with
      ⟨t', ht', hgrows⟩
    exact ⟨t', ht', fun _ hcolumn => hgrows.columns (hcolumns hcolumn)⟩
  have hextends : Extends created (initVersion c accepts created) :=
    relation_initVersion hrespected created
  have hversion : created.version = db.version :=
    (createTable_version _ _ _).trans (createAll_version _ _)
  rw [hinit]
  refine ⟨?_, ?_⟩
  · intro y hy
    rcases hbase y hy with ⟨t, ht, hcolumns⟩
    rcases hextends y.1 t ht with ⟨t', ht', hgrows⟩
    exact ⟨t', ht', fun _ hcolumn => hgrows.columns (hcolumns hcolumn)⟩
  · have hroute := route_mem_baseTables (c := c)
    have huser := user_mem_baseTables (c := c)
    cases hd : c.sql.sqlDialect with
    | mysql =>
        intro y hy
        unfold initVersion
        dsimp only
        generalize hins : (if (accepts .selectVersion && created.version.isNone) = true then
          (created.update accepts (.insertVersion (runningVersion accepts created))).1
          else created) = inserted
        have hinserted : Extends created inserted := by
          rw [← hins]
          split
          · exact extends_update accepts created _
          · exact Extends.refl created
        have htables : ∀ z ∈ newColumns c, (inserted.tables z.table).isSome := by
          have hsome : ∀ x ∈ baseTables c, (inserted.tables x.1).isSome := by
            intro x hx
            rcases hbase x hx with ⟨t, ht, -⟩
            rcases hinserted x.1 t ht with ⟨t', ht', -⟩
            exact Option.isSome_iff_exists.mpr ⟨t', ht'⟩
          simp only [newColumns, List.forall_mem_cons]
          exact ⟨hsome _ huser, hsome _ hroute, hsome _ hroute, hsome _ huser, by simp⟩
        have hrecorded : ∀ z ∈ newColumns c, z.version ≤ runningVersion accepts created →
            inserted.HasColumn (z.table, z.column) := by
          intro z hz hle
          have hstood : z.version ≤ db.version.getD 1 := by
            unfold runningVersion at hle
            split at hle
            · rw [hversion] at hle
              exact hle
            · -- the first version has no new columns
              have hnewer : ∀ w ∈ newColumns c, ¬ w.version ≤ 1 := by
                simp only [newColumns, List.forall_mem_cons]
                decide
              exact absurd hle (hnewer z hz)
          have hold := h.recorded hd z hz hstood
          have hkept := (extends_createAll (baseTables c) db).trans
            (extends_createTable _ c.databaseVersionTable versionColumns)
          exact hinserted.hasColumn (hkept.hasColumn hold)
        have hadded := added_of_migrate haccepts hd htables hrecorded y hy
        split
        · exact (extends_update accepts _ _).hasColumn hadded
        · exact hadded
    | pgsql =>
        -- the first tables have all columns
        have hcolumn : ∀ {table column : Octstr} {columns : List Octstr},
            (table, columns) ∈ baseTables c → column ∈ columns →
              (initVersion c accepts created).HasColumn (table, column) := by
          intro table column columns hmem hcolumn
          rcases hbase _ hmem with ⟨t, ht, hcolumns⟩
          exact hextends.hasColumn ⟨t, ht, hcolumns hcolumn⟩
        rw [hd] at hroute
        simp only [newColumns, List.forall_mem_cons]
        exact ⟨hcolumn huser (by decide), hcolumn hroute (by decide), hcolumn hroute (by decide),
          hcolumn huser (by decide), by simp⟩

theorem Complete.consistent (h : Complete c db) : Consistent c db where
  base := by
    intro y hy t ht
    rcases h.base y hy with ⟨t', ht', hcolumns⟩
    rw [ht] at ht'
    cases ht'
    exact hcolumns
  recorded := fun _ y hy _ => h.added y hy

theorem complete_startAll (hdistinct : DistinctTables c)
    (haccepts : ∀ accepts ∈ starts, AcceptsTables accepts) (hstarts : starts ≠ [])
    (h : Consistent c db) : Complete c (startAll c db starts) := by
  induction starts generalizing db with
  | nil => exact absurd rfl hstarts
  | cons accepts starts ih =>
      have hfirst := complete_init (haccepts accepts List.mem_cons_self) hdistinct h
      by_cases hlast : starts = []
      · subst hlast
        exact hfirst
      · exact ih (fun a ha => haccepts a (List.mem_cons_of_mem _ ha)) hlast hfirst.consistent

/-! ## What the statements name is there -/

theorem Complete.hasColumn (h : Complete c db) (hbase : (table, columns) ∈ baseTables c)
    (hcolumn : column ∈ columns) : db.HasColumn (table, column) := by
  rcases h.base _ hbase with ⟨t, ht, hcolumns⟩
  exact ⟨t, ht, hcolumns hcolumn⟩

theorem Complete.store (h : Complete c db) (hredis : c.redisQueue = false) (kind : StoreKind)
    (hcolumn : column ∈ storeColumns) :
    db.HasColumn (smppDatabaseStoreTableName c.sql.store kind, column) := by
  unfold smppDatabaseStoreTableName
  split
  · exact h.hasColumn (mem_baseTables_of_queue hredis queueStore_mem_queueTables) hcolumn
  · exact h.hasColumn (mem_baseTables_of_queue hredis store_mem_queueTables) hcolumn

/-- `get_stored` reads one of the two stores. -/
theorem getStoredTable_eq (s : StoreSettings) (smsType : Int) (kind : StoreKind) :
    ∃ k, getStoredTable s smsType kind = smppDatabaseStoreTableName s k := by
  unfold getStoredTable smppDatabaseGetStoredTableName
  dsimp only
  split_ifs <;> exact ⟨_, rfl⟩

theorem Complete.route (h : Complete c db)
    (hcolumn : column ∈ octstrImm "source_regex" :: octstrImm "priority" :: routeColumns .mysql) :
    db.HasColumn (c.sql.databaseRouteTable, column) := by
  have hadded := h.added
  simp only [newColumns, List.forall_mem_cons] at hadded
  rcases List.mem_cons.mp hcolumn with rfl | hrest
  · exact hadded.2.1
  · rcases List.mem_cons.mp hrest with rfl | hbase
    · exact hadded.2.2.1
    · refine h.hasColumn route_mem_baseTables ?_
      have hsubset : ∀ d, routeColumns .mysql ⊆ routeColumns d := by
        intro d
        cases d <;> decide
      exact hsubset _ hbase

/-- With complete tables, every statement of the program finds what it names, apart from the one
column that is never created. -/
theorem Complete.names (h : Complete c db) {q : SqlQuery}
    (hq : c.redisQueue = false ∨ q.ofQueue = false) (hx : x ∈ q.names c.sql)
    (hnever : x.2 ≠ octstrImm "database_store_primary") : db.HasColumn x := by
  have hmapped : ∀ {table : Octstr} {columns : List Octstr}, x ∈ columns.map (Prod.mk table) →
      (∀ column ∈ columns, column ≠ octstrImm "database_store_primary" →
        db.HasColumn (table, column)) → db.HasColumn x := by
    intro table columns hmem hall
    rcases List.mem_map.mp hmem with ⟨column, hcolumn, rfl⟩
    exact hall column hcolumn hnever
  have hqueue : q.ofQueue = true → c.redisQueue = false := by
    intro hof
    rcases hq with hredis | hother
    · exact hredis
    · exact absurd (hof.symm.trans hother) (by decide)
  have huser := user_mem_baseTables (c := c)
  cases q with
  | getStoredPdu service pending limit =>
      have hpdu := mem_baseTables_of_queue (hqueue rfl) pdu_mem_queueTables
      refine hmapped hx (fun column hcolumn _ => h.hasColumn hpdu ?_)
      revert column
      decide
  | getStored smsType service kind pending =>
      have hstore : ∀ column ∈ storeColumns,
          db.HasColumn (getStoredTable c.sql.store smsType kind, column) := by
        intro column hcolumn
        rcases getStoredTable_eq c.sql.store smsType kind with ⟨k, hk⟩
        rw [hk]
        exact h.store (hqueue rfl) k hcolumn
      rcases List.mem_append.mp hx with hstored | hjoined
      · exact hmapped hstored (fun column hcolumn _ => hstore column hcolumn)
      · split at hjoined
        · refine hmapped hjoined (fun column hcolumn hnot => h.hasColumn huser ?_)
          revert column
          decide
        · cases hjoined
  | getDlrs service limit =>
      simp only [SqlQuery.names] at hx
      split at hx
      · cases hx
      · rename_i hdlr
        have hbase := mem_baseTables_of_queue (hqueue rfl) (dlr_mem_queueTables hdlr)
        exact hmapped hx (fun column hcolumn _ => h.hasColumn hbase hcolumn)
  | getRoutes direction service =>
      refine hmapped hx (fun column hcolumn _ => h.route ?_)
      revert column
      decide
  | addMessage msg kind =>
      exact hmapped hx (fun column hcolumn _ =>
        h.store (hqueue rfl) kind (List.mem_cons_of_mem _ hcolumn))
  | addPdu systemId timeSent packed =>
      have hpdu := mem_baseTables_of_queue (hqueue rfl) pdu_mem_queueTables
      refine hmapped hx (fun column hcolumn _ => h.hasColumn hpdu ?_)
      revert column
      decide
  | deductCredit service cost =>
      refine hmapped hx (fun column hcolumn _ => h.hasColumn huser ?_)
      revert column
      decide
  | authenticate username password =>
      refine hmapped hx (fun column hcolumn hnot => h.hasColumn huser ?_)
      revert column
      decide

/-- The table is there, and the column is not. -/
def Missing (y : NewColumn) (db : SqlDatabase) : Prop :=
  ∃ t, db.tables y.table = some t ∧ y.column ∉ t.columns

variable {y z : NewColumn} {v : Int}

theorem Missing.lacks (h : Missing y db) : db.Lacks (y.table, y.column) := by
  rcases h with ⟨t, ht, hmissing⟩
  intro t' ht'
  rw [ht] at ht'
  cases ht'
  exact hmissing

/-- Only its own `ALTER` can add the column. -/
theorem missing_update (h : Missing y db)
    (hst : ∀ default, st = .addColumn y.table y.column default → accepts st = false) :
    Missing y (db.update accepts st).1 := by
  have hleft : LeavesOut (y.table, y.column) st → Missing y (db.update accepts st).1 := by
    intro hleaves
    rcases h with ⟨t, ht, hmissing⟩
    rcases extends_update accepts db st y.table t ht with ⟨t', ht', -⟩
    exact ⟨t', ht', lacks_update (Missing.lacks ⟨t, ht, hmissing⟩) hleaves t' ht'⟩
  have hunchanged : (db.update accepts st).1 = db → Missing y (db.update accepts st).1 := by
    intro hsame
    rw [hsame]
    exact h
  cases st with
  | createTable table columns =>
      by_cases hname : table = y.table
      · -- a table that is there is not created again
        apply hunchanged
        rcases h with ⟨t, ht, -⟩
        simp only [SqlDatabase.update, SqlDatabase.execute, SqlDatabase.createTable, hname, ht]
        split <;> rfl
      · exact hleft (fun heq => absurd heq hname)
  | addColumn table column default =>
      by_cases hsame : table = y.table ∧ column = y.column
      · rcases hsame with ⟨rfl, rfl⟩
        apply hunchanged
        simp [SqlDatabase.update, hst default rfl]
      · exact hleft (fun htable hcolumn => hsame ⟨htable, hcolumn⟩)
  | createIndex _ _ | selectVersion | insertVersion _ | updateVersion _ => exact hleft trivial

theorem newColumns_column_inj (hy : y ∈ newColumns c) (hz : z ∈ newColumns c)
    (h : z.column = y.column) : z = y := by
  have hnodup : ((newColumns c).map NewColumn.column).Nodup := by
    simp only [newColumns, List.map_cons, List.map_nil]
    decide
  exact List.inj_on_of_nodup_map hnodup hz hy h

/-- Making the tables leaves the recorded version alone. -/
theorem version_initTables (db : SqlDatabase) : (initTables c accepts db).version = db.version := by
  refine relation_initTables (R := fun db db' => db'.version = db.version) ?_ db
  refine { refl := fun _ => rfl, trans := fun _ _ _ h h' => h'.trans h, update := ?_ }
  intro db st hst
  rcases update_cases accepts db st with hsame | hexecuted
  · rw [hsame]
  · cases st with
    | createTable table columns =>
        rw [← Option.some.inj hexecuted]
        exact createTable_version db table columns
    | createIndex _ _ => rw [← Option.some.inj hexecuted]
    | addColumn _ _ _ | selectVersion | insertVersion _ | updateVersion _ => exact absurd hst id

theorem missing_initTables (h : Missing y db) : Missing y (initTables c accepts db) := by
  have hrespected : Respected accepts (MakesTable c) (fun db db' => Missing y db → Missing y db') := by
    refine { refl := fun _ hdb => hdb, trans := fun _ _ _ hab hbc hdb => hbc (hab hdb), update := ?_ }
    intro db st hst hdb
    refine missing_update hdb (fun default heq => ?_)
    subst heq
    exact absurd hst id
  exact relation_initTables hrespected db h

theorem version_addColumn {default : Option Octstr} (db : SqlDatabase) :
    (db.update accepts (.addColumn table column default)).1.version = db.version := by
  rcases update_cases accepts db (.addColumn table column default) with hsame | hexecuted
  · rw [hsame]
  · rcases addColumn_cases hexecuted with ⟨-, -, -, hversion, -⟩
    exact hversion

/-- The version is recorded, and what it stands for is not tried again. -/
structure Missed (y : NewColumn) (db : SqlDatabase) : Prop where
  missing : Missing y db
  recorded : ∃ v, db.version = some v ∧ y.version ≤ v

/-- A start that is told the recorded version: no `ALTER` touches the column that is missing, and the
version it goes on with is not older. -/
theorem missed_initVersion (hd : c.sql.sqlDialect = .mysql) (hy : y ∈ newColumns c)
    (hselect : accepts .selectVersion = true) (hv : db.version = some v) (h : Missing y db)
    (hkept : y.version ≤ v ∨ (∀ default, accepts (.addColumn y.table y.column default) = false) ∧
      ∀ w, accepts (.updateVersion w) = true) :
    Missed y (initVersion c accepts db) := by
  have hmigrations : migrations c accepts = (newColumns c).map (NewColumn.migration accepts) := by
    simp [migrations, hd]
  have hinit : initVersion c accepts db =
      ((migrate (migrations c accepts) (v, db)).2.update accepts
        (.updateVersion (migrate (migrations c accepts) (v, db)).1)).1 := by
    simp [initVersion, runningVersion, hselect, hv, hd]
  have hmissing : Missing y (migrate (migrations c accepts) (v, db)).2 := by
    refine migrate_keeps (r := (v, db)) ?_ h
    rw [hmigrations]
    intro m hm hnewer d hd'
    rcases List.mem_map.mp hm with ⟨z, hz, rfl⟩
    refine missing_update hd' (fun default heq => ?_)
    -- the `ALTER` of this column comes with an older version, or it is refused
    have hzy : z = y := by
      injection heq with _ hcolumn _
      exact newColumns_column_inj hy hz hcolumn
    subst hzy
    rcases hkept with hold | ⟨hrefused, -⟩
    · exact absurd hnewer (Int.not_lt.mpr hold)
    · exact hrefused _
  have hversion : (migrate (migrations c accepts) (v, db)).2.version = some v := by
    refine migrate_keeps (P := fun d : SqlDatabase => d.version = some v) (r := (v, db)) ?_ hv
    rw [hmigrations]
    intro m hm _ d hd'
    rcases List.mem_map.mp hm with ⟨z, -, rfl⟩
    exact (version_addColumn d).trans hd'
  have hreached : y.version ≤ (migrate (migrations c accepts) (v, db)).1 := by
    have hmem : NewColumn.migration accepts y ∈ migrations c accepts := by
      rw [hmigrations]
      exact List.mem_map_of_mem hy
    exact version_le_migrate hmem (v, db)
  rw [hinit]
  refine ⟨missing_update hmissing (fun default heq => by cases heq), ?_⟩
  cases hupdated : accepts (.updateVersion (migrate (migrations c accepts) (v, db)).1) with
  | true => exact ⟨_, by simp [SqlDatabase.update, SqlDatabase.execute, hupdated, hversion], hreached⟩
  | false =>
      refine ⟨v, by simp [SqlDatabase.update, hupdated, hversion], ?_⟩
      rcases hkept with hold | ⟨-, haccepted⟩
      · exact hold
      · exact absurd (hupdated.symm.trans (haccepted _)) Bool.false_ne_true

theorem missed_init (hd : c.sql.sqlDialect = .mysql) (hy : y ∈ newColumns c)
    (hselect : accepts .selectVersion = true) (h : Missed y db) :
    Missed y (smppDatabaseSqlInitTables c accepts db) := by
  rcases h with ⟨hmissing, v, hv, hle⟩
  have htables : Missing y ((initTables c accepts db).update accepts
      (.createTable c.databaseVersionTable versionColumns)).1 :=
    missing_update (missing_initTables hmissing) (fun default heq => by cases heq)
  have hversion : ((initTables c accepts db).update accepts
      (.createTable c.databaseVersionTable versionColumns)).1.version = some v := by
    rcases update_cases accepts (initTables c accepts db)
      (.createTable c.databaseVersionTable versionColumns) with hsame | hexecuted
    · rw [hsame, version_initTables, hv]
    · rw [← Option.some.inj hexecuted, createTable_version, version_initTables, hv]
  unfold smppDatabaseSqlInitTables
  dsimp only
  split
  · exact missed_initVersion hd hy hselect hversion htables (Or.inl hle)
  · exact ⟨htables, v, hversion, hle⟩

/-- On MySQL, where one start records its version although the `ALTER` for a new column was refused,
no later start that can read the version adds the column. -/
theorem refused_column_never_added (hd : c.sql.sqlDialect = .mysql) (hy : y ∈ newColumns c)
    (hmissing : Missing y db) (hrecorded : db.version.isSome)
    (hrefused : ∀ default, accepts (.addColumn y.table y.column default) = false)
    (htable : accepts (.createTable c.databaseVersionTable versionColumns) = true)
    (hselect : accepts .selectVersion = true) (hupdate : ∀ w, accepts (.updateVersion w) = true)
    (hstarts : ∀ later ∈ starts, later .selectVersion = true) :
    Missing y (startAll c db (accepts :: starts)) := by
  have hfirst : Missed y (smppDatabaseSqlInitTables c accepts db) := by
    rcases Option.isSome_iff_exists.mp hrecorded with ⟨v, hv⟩
    have hcreated : (initTables c accepts db).update accepts
        (.createTable c.databaseVersionTable versionColumns) =
          ((initTables c accepts db).createTable c.databaseVersionTable versionColumns, true) := by
      simp [SqlDatabase.update, SqlDatabase.execute, htable]
    have hversion : ((initTables c accepts db).createTable c.databaseVersionTable
        versionColumns).version = some v :=
      (createTable_version _ _ _).trans ((version_initTables db).trans hv)
    have hthere : Missing y ((initTables c accepts db).update accepts
        (.createTable c.databaseVersionTable versionColumns)).1 :=
      missing_update (missing_initTables hmissing) (fun default heq => by cases heq)
    rw [hcreated] at hthere
    unfold smppDatabaseSqlInitTables
    rw [hcreated]
    exact missed_initVersion hd hy hselect hversion hthere (Or.inr ⟨hrefused, hupdate⟩)
  have hrun : ∀ (starts : List (SchemaStatement → Bool)) (d : SqlDatabase),
      (∀ later ∈ starts, later .selectVersion = true) → Missed y d →
        Missed y (startAll c d starts) := by
    intro starts
    induction starts with
    | nil => exact fun d _ hd' => hd'
    | cons later starts ih =>
        intro d hlater hd'
        exact ih _ (fun a ha => hlater a (List.mem_cons_of_mem _ ha))
          (missed_init hd hy (hlater later List.mem_cons_self) hd')
  exact (hrun starts _ hstarts hfirst).missing

/-- A table of routes of the first version. -/
def sampleFirstVersion : SqlDatabase where
  tables := fun name =>
    if name = octstrImm "smpp_route" then some { columns := routeColumns .mysql, rows := [] }
    else none
  version := some 1

/-- One `ALTER` runs into a lock. -/
def sampleLocked : SchemaStatement → Bool
  | .addColumn _ column _ => decide (column ≠ octstrImm "source_regex")
  | _ => true

theorem refused_column_never_added_sample :
    Missing { version := 3, table := octstrImm "smpp_route", column := octstrImm "source_regex"
              default := none }
      (startAll (sampleInit .mysql) sampleFirstVersion [sampleLocked, fun _ => true]) := by
  refine refused_column_never_added (c := sampleInit .mysql) rfl ?_ ?_ rfl ?_ rfl rfl
    (fun _ => rfl) ?_
  · exact List.mem_cons_of_mem _ List.mem_cons_self
  · exact ⟨{ columns := routeColumns .mysql, rows := [] }, by simp [sampleFirstVersion], by decide⟩
  · intro default
    have hcolumn : decide (octstrImm "source_regex" ≠ octstrImm "source_regex") = false := by decide
    exact hcolumn
  · intro later h
    rw [List.mem_singleton.mp h]

end Database
end Ksmppd
