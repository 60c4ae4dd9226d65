import Mathlib.Logic.Function.Basic
import Ksmppd.Database.Statements
import Ksmppd.Lib.Migration

/-!
# Schema — the tables the program makes for itself

`smpp_database_sql_init_tables` runs at every start.  It creates the tables that are not there, and
on MySQL adds the columns that came with later versions of the program, as far as the version it has
recorded is older.  Whether a statement of this was refused is only written to the log.
-/

namespace Ksmppd
namespace Database

open Lib

/-! ## Tables -/

structure Table where
  columns : List Octstr
  rows : List Row

structure SqlDatabase where
  tables : Octstr → Option Table
  /-- The version in the row `ksmppd` of the version table. -/
  version : Option Int

def emptyDatabase : SqlDatabase where
  tables := fun _ => none
  version := none

inductive SchemaStatement
  /-- `CREATE TABLE IF NOT EXISTS`. -/
  | createTable (table : Octstr) (columns : List Octstr)
  | createIndex (table column : Octstr)
  | addColumn (table column : Octstr) (default : Option Octstr)
  | selectVersion
  | insertVersion (version : Int)
  | updateVersion (version : Int)
  deriving DecidableEq, Repr

def SqlDatabase.createTable (db : SqlDatabase) (table : Octstr) (columns : List Octstr) :
    SqlDatabase :=
  match db.tables table with
  | some _ => db
  | none =>
      { db with tables := Function.update db.tables table (some { columns := columns, rows := [] }) }

/-- `ALTER TABLE ... ADD COLUMN`, an error where there is no table or the column is there. -/
def SqlDatabase.addColumn (db : SqlDatabase) (table column : Octstr) (default : Option Octstr) :
    Option SqlDatabase :=
  (db.tables table).bind (fun t =>
    if column ∈ t.columns then none
    else
      some { db with tables := Function.update db.tables table (some
        { columns := t.columns ++ [column]
          rows := t.rows.map (fun row => Function.update row column default) }) })

/-- What the database makes of a statement; `none` is an error. -/
def SqlDatabase.execute (db : SqlDatabase) : SchemaStatement → Option SqlDatabase
  | .createTable table columns => some (db.createTable table columns)
  | .createIndex _ _ => some db
  | .addColumn table column default => db.addColumn table column default
  | .selectVersion => some db
  -- `component` is the primary key
  | .insertVersion version =>
      if db.version.isSome then none else some { db with version := some version }
  | .updateVersion version => some { db with version := db.version.map (fun _ => version) }

/-- `dbpool_conn_update`, and whether it succeeds.  What `accepts` does not accept fails for another
reason: a lost connection, a missing privilege, a lock that is held. -/
def SqlDatabase.update (accepts : SchemaStatement → Bool) (db : SqlDatabase)
    (statement : SchemaStatement) : SqlDatabase × Bool :=
  if accepts statement then
    match db.execute statement with
    | some db' => (db', true)
    | none => (db, false)
  else (db, false)

/-! ## The tables of the program -/

/-- The settings that `smpp_database_relational_setup` completes with its defaults. -/
structure InitSettings where
  sql : SqlSettings
  databaseVersionTable : Octstr
  databaseQueueType : Option Octstr

/-- The queues are kept in Redis. -/
def InitSettings.redisQueue (c : InitSettings) : Bool :=
  octstrLen c.databaseQueueType ≠ 0 &&
    octstrToLower (c.databaseQueueType.getD []) = octstrImm "redis"

def InitSettings.storeTable (c : InitSettings) : Octstr := c.sql.store.databaseStoreTable

def InitSettings.queueStoreTable (c : InitSettings) : Octstr :=
  c.sql.store.databaseQueueStoreTable.getD []

def InitSettings.userTable (c : InitSettings) : Octstr := c.sql.store.databaseUserTable.getD []

def storeColumns : List Octstr := octstrImm "global_id" :: smsColumns

def pduColumns : List Octstr := ["global_id", "system_id", "time", "pdu"].map octstrImm

def dlrColumns : List Octstr :=
  ["global_id", "message_id", "service", "status", "err_code", "submit_date", "done_date",
    "destination_addr", "source_addr", "smsc_id", "text", "processed"].map octstrImm

/-- PostgreSQL came later, and its first table of routes has all columns. -/
def routeColumns : SqlDialect → List Octstr
  | .mysql => ["route_id", "direction", "regex", "cost", "system_id", "smsc_id"].map octstrImm
  | .pgsql =>
      ["route_id", "direction", "regex", "cost", "system_id", "smsc_id", "source_regex",
        "priority"].map octstrImm

def userColumns : List Octstr :=
  ["system_id", "password", "throughput", "default_smsc", "default_cost",
    "enable_prepaid_billing", "credit", "callback_url", "simulate", "simulate_dlr_fail",
    "simulate_deliver_every", "simulate_permanent_failure_every",
    "simulate_temporary_failure_every", "simulate_mo_every", "max_binds",
    "connect_allow_ip"].map octstrImm

def versionColumns : List Octstr := ["component", "version"].map octstrImm

section Init

variable (c : InitSettings) (accepts : SchemaStatement → Bool)

/-- `smpp_database_create_store_table`; on PostgreSQL its result is that of the last index. -/
def smppDatabaseCreateStoreTable (db : SqlDatabase) (table : Octstr) : SqlDatabase × Bool :=
  let r := db.update accepts (.createTable table storeColumns)
  match c.sql.sqlDialect with
  | .mysql => r
  | .pgsql =>
      if r.2 then r.1.update accepts (.createIndex table (octstrImm "sms_type")) else r

/-- The tables of the queues. -/
def initQueueTables (db : SqlDatabase) : SqlDatabase :=
  let r := smppDatabaseCreateStoreTable c accepts db c.storeTable
  let r :=
    if r.2 ∧ c.storeTable ≠ c.queueStoreTable then
      smppDatabaseCreateStoreTable c accepts r.1 c.queueStoreTable
    else r
  let db := if r.2 then (r.1.update accepts (.createTable c.sql.databasePduTable pduColumns)).1
    else r.1
  if c.sql.databaseDlrTable ≠ [] then
    (db.update accepts (.createTable c.sql.databaseDlrTable dlrColumns)).1
  else db

def initTables (db : SqlDatabase) : SqlDatabase :=
  let db := if c.redisQueue then db else initQueueTables c accepts db
  let db := (db.update accepts
    (.createTable c.sql.databaseRouteTable (routeColumns c.sql.sqlDialect))).1
  (db.update accepts (.createTable c.userTable userColumns)).1

/-- A column that came with a version of the program. -/
structure NewColumn where
  version : Int
  table : Octstr
  column : Octstr
  default : Option Octstr

def newColumns : List NewColumn :=
  [{ version := 2, table := c.userTable, column := octstrImm "connect_allow_ip", default := none },
    { version := 3, table := c.sql.databaseRouteTable, column := octstrImm "source_regex"
      default := none },
    { version := 4, table := c.sql.databaseRouteTable, column := octstrImm "priority"
      default := some (octstrImm "0") },
    { version := 5, table := c.userTable, column := octstrImm "simulate_dlr_fail"
      default := some (octstrImm "0") }]

/-- The result of the `ALTER` is not looked at. -/
def NewColumn.migration (x : NewColumn) : Migration SqlDatabase where
  version := x.version
  apply := fun db => (db.update accepts (.addColumn x.table x.column x.default)).1

/-- The migrations of a dialect; for PostgreSQL the version is only recorded. -/
def migrations : List (Migration SqlDatabase) :=
  match c.sql.sqlDialect with
  | .mysql => (newColumns c).map (NewColumn.migration accepts)
  | .pgsql => [{ version := 5, apply := id }]

/-- The running version; without an answer it is taken to be the first. -/
def runningVersion (db : SqlDatabase) : Int :=
  if accepts .selectVersion then db.version.getD 1 else 1

/-- What follows once the version table is there. -/
def initVersion (db : SqlDatabase) : SqlDatabase :=
  let running := runningVersion accepts db
  let db := if accepts .selectVersion && db.version.isNone then
      (db.update accepts (.insertVersion running)).1
    else db
  let r := migrate (migrations c accepts) (running, db)
  -- PostgreSQL is only told of a version that is new
  if c.sql.sqlDialect = .mysql ∨ running < r.1 then
    (r.2.update accepts (.updateVersion r.1)).1
  else r.2

/-- `smpp_database_sql_init_tables`. -/
def smppDatabaseSqlInitTables (db : SqlDatabase) : SqlDatabase :=
  let r := (initTables c accepts db).update accepts
    (.createTable c.databaseVersionTable versionColumns)
  if r.2 then initVersion c accepts r.1 else r.1

end Init

/-- One start of the program after the other, each with what the database accepts then. -/
def startAll (c : InitSettings) (db : SqlDatabase) (starts : List (SchemaStatement → Bool)) :
    SqlDatabase :=
  starts.foldl (fun db accepts => smppDatabaseSqlInitTables c accepts db) db

/-! ## What the statements name -/

/-- The tables and columns a call names in its statements. -/
def SqlQuery.names (c : SqlSettings) : SqlQuery → List (Octstr × Octstr)
  | .getStoredPdu _ _ _ =>
      (["global_id", "time", "system_id", "pdu"].map octstrImm).map (Prod.mk c.databasePduTable)
  | .getStored smsType service kind _ =>
      storeColumns.map (Prod.mk (getStoredTable c.store smsType kind)) ++
        (if kind = .bearerboxMtDrain ∧ smsType = smsTypeMtPush ∧ octstrLen service = 0 ∧
            octstrLen c.store.databaseUserTable ≠ 0 then
          (["system_id", "database_store_primary"].map octstrImm).map
            (Prod.mk (c.store.databaseUserTable.getD []))
        else [])
  | .getDlrs _ _ =>
      if c.databaseDlrTable = [] then []
      else
        (["global_id", "message_id", "service", "status", "err_code", "submit_date", "done_date",
          "destination_addr", "source_addr", "smsc_id", "text", "processed"].map octstrImm).map
          (Prod.mk c.databaseDlrTable)
  | .getRoutes _ _ =>
      (["regex", "cost", "system_id", "smsc_id", "source_regex", "direction", "priority"].map
        octstrImm).map (Prod.mk c.databaseRouteTable)
  | .addMessage _ kind => smsColumns.map (Prod.mk (smppDatabaseStoreTableName c.store kind))
  | .addPdu _ _ _ =>
      (["system_id", "time", "pdu"].map octstrImm).map (Prod.mk c.databasePduTable)
  | .deductCredit _ _ =>
      (["credit", "system_id"].map octstrImm).map (Prod.mk (c.store.databaseUserTable.getD []))
  | .authenticate _ _ =>
      (["throughput", "default_smsc", "callback_url", "simulate", "simulate_dlr_fail",
        "simulate_deliver_every", "simulate_permanent_failure_every",
        "simulate_temporary_failure_every", "simulate_mo_every", "default_cost", "max_binds",
        "enable_prepaid_billing", "connect_allow_ip", "database_store_primary", "system_id",
        "password"].map octstrImm).map (Prod.mk (c.store.databaseUserTable.getD []))

/-- The call is one of the queues, which Redis may keep. -/
def SqlQuery.ofQueue : SqlQuery → Bool
  | .getRoutes _ _ | .deductCredit _ _ | .authenticate _ _ => false
  | _ => true

def SqlDatabase.HasColumn (db : SqlDatabase) (x : Octstr × Octstr) : Prop :=
  ∃ t, db.tables x.1 = some t ∧ x.2 ∈ t.columns

/-- A table without the column, or none at all. -/
def SqlDatabase.Lacks (db : SqlDatabase) (x : Octstr × Octstr) : Prop :=
  ∀ t, db.tables x.1 = some t → x.2 ∉ t.columns

def SqlDatabase.hasColumn (db : SqlDatabase) (x : Octstr × Octstr) : Bool :=
  (db.tables x.1).any (fun t => decide (x.2 ∈ t.columns))

/-- `smpp_database_mysql_authenticate`; `row` is the account that matches the user and the password,
read into a result.  A `SELECT` that names a column the table does not have is an error. -/
def smppDatabaseMysqlAuthenticate (c : SqlSettings) (db : SqlDatabase)
    (username password : Option Octstr) (row : Option SmppEsmeAuthResult) :
    Option SmppEsmeAuthResult :=
  if ((SqlQuery.authenticate username password).names c).all db.hasColumn then row else none

end Database
end Ksmppd
