import Mathlib.Algebra.Order.Ring.Rat
import Ksmppd.Database.Rows
import Ksmppd.Lib.Columns

/-!
# Statements — the SQL the database code sends

Each query is put together from texts, by helpers that know the dialect.  MySQL gets values as binds
and names between backticks; PostgreSQL gets values as literals, names as they are, and no binds.
-/

namespace Ksmppd
namespace Database

open Lib
open Redis (Field smsFields encodeMsg smppDbUrlEncodeOctstr)

/-! ## Texts and binds -/

/-- `sql_dialect`. -/
inductive SqlDialect
  | mysql
  | pgsql
  deriving DecidableEq, Repr

/-- The names of the tables are those after the setup, which fills in defaults. -/
structure SqlSettings where
  sqlDialect : SqlDialect
  store : StoreSettings
  databasePduTable : Octstr
  databaseRouteTable : Octstr
  /-- Empty where receipts are not kept. -/
  databaseDlrTable : Octstr

/-- A value that is bound, and the column whose value it is. -/
structure BoundValue where
  column : Octstr
  value : Option Octstr
  deriving DecidableEq, Repr

/-- A text with the values that go with it. -/
structure Statement where
  sql : Octstr
  binds : List BoundValue
  deriving DecidableEq, Repr

def Statement.append (s : Statement) (os : Octstr) : Statement := { s with sql := s.sql ++ os }

/-- `gwlist_produce(binds, ...)`. -/
def Statement.produce (s : Statement) (column : Octstr) (value : Option Octstr) : Statement :=
  { s with binds := s.binds ++ [{ column := column, value := value }] }

/-- A statement nothing is bound to yet. -/
def octstrFormat (os : Octstr) : Statement := { sql := os, binds := [] }

section Fields

variable (s : Statement) (os column : Octstr) (value : Option Octstr)

@[simp] theorem Statement.sql_append : (s.append os).sql = s.sql ++ os := rfl

@[simp] theorem Statement.binds_append : (s.append os).binds = s.binds := rfl

@[simp] theorem Statement.sql_produce : (s.produce column value).sql = s.sql := rfl

@[simp] theorem Statement.binds_produce :
    (s.produce column value).binds = s.binds ++ [{ column := column, value := value }] := rfl

@[simp] theorem sql_octstrFormat : (octstrFormat os).sql = os := rfl

@[simp] theorem binds_octstrFormat : (octstrFormat os).binds = [] := rfl

end Fields

/-! ## Numbers -/

/-- Round to the nearest whole number, and a half to the even one. -/
def roundHalfEven (x : Rat) : Int :=
  if x - x.floor < 1 / 2 ∨ (x - x.floor = 1 / 2 ∧ x.floor % 2 = 0) then x.floor else x.floor + 1

/-- `octstr_format("%f", x)`. -/
def octstrFormatDouble (x : Rat) : Octstr :=
  let micros := (roundHalfEven ((if x < 0 then -x else x) * 1000000)).toNat
  let digits := octstrFormatLong ((micros % 1000000 : Nat) : Int)
  (if x < 0 then [45] else []) ++ octstrFormatLong ((micros / 1000000 : Nat) : Int) ++ [46] ++
    List.replicate (6 - digits.length) 48 ++ digits

/-! ## Helpers -/

def smppDbSqlStringLiteral (value : Option Octstr) : Octstr :=
  match value with
  | none => octstrImm "NULL"
  | some os =>
      octstrImm "'" ++ os.flatMap (fun c => if c = 39 then octstrImm "''" else [c]) ++ [39]

def smppDbSqlAppendColumn (d : SqlDialect) (sql : Statement) (name : Octstr) : Statement :=
  match d with
  | .pgsql => sql.append name
  | .mysql => sql.append (octstrImm "`" ++ name ++ octstrImm "`")

def smppDbSqlAppendWhereEq (d : SqlDialect) (sql : Statement) (col : Octstr)
    (val : Option Octstr) : Statement :=
  match d with
  | .pgsql =>
      (smppDbSqlAppendColumn d sql col).append (octstrImm " = " ++ smppDbSqlStringLiteral val)
  | .mysql => ((smppDbSqlAppendColumn d sql col).append (octstrImm " = ?")).produce col val

section Comparison

variable (sql : Statement) (col : Octstr) (val : Option Octstr)

@[simp] theorem sql_whereEq_pgsql : (smppDbSqlAppendWhereEq .pgsql sql col val).sql =
    sql.sql ++ (col ++ (octstrImm " = " ++ smppDbSqlStringLiteral val)) := by
  simp [smppDbSqlAppendWhereEq, smppDbSqlAppendColumn]

@[simp] theorem sql_whereEq_mysql : (smppDbSqlAppendWhereEq .mysql sql col val).sql =
    sql.sql ++ (octstrImm "`" ++ (col ++ (octstrImm "`" ++ octstrImm " = ?"))) := by
  simp [smppDbSqlAppendWhereEq, smppDbSqlAppendColumn]

@[simp] theorem binds_whereEq_mysql : (smppDbSqlAppendWhereEq .mysql sql col val).binds =
    sql.binds ++ [{ column := col, value := val }] := by
  simp [smppDbSqlAppendWhereEq, smppDbSqlAppendColumn]

end Comparison

/-- `column` is the one whose value is inserted. -/
def smppDbSqlAppendInsertValue (d : SqlDialect) (values : Statement) (column : Octstr)
    (val : Option Octstr) : Statement :=
  match d with
  | .pgsql => values.append (smppDbSqlStringLiteral val ++ octstrImm ",")
  | .mysql => (values.produce column val).append (octstrImm "?,")

def smppDbSqlAppendInsertLong (d : SqlDialect) (values : Statement) (column : Octstr)
    (val : Int) : Statement :=
  match d with
  | .pgsql => values.append (octstrFormatLong val ++ octstrImm ",")
  | .mysql => (values.produce column (some (octstrFormatLong val))).append (octstrImm "?,")

def smppDbSqlAppendPasswordCheck (d : SqlDialect) (sql : Statement) (password : Option Octstr) :
    Statement :=
  match d with
  | .pgsql =>
      sql.append (octstrImm " AND password = encode(digest(" ++ smppDbSqlStringLiteral password ++
        octstrImm ", 'sha256'), 'hex')")
  | .mysql =>
      (sql.append (octstrImm " AND `password` = SHA2(?, 256)")).produce (octstrImm "password")
        password

/-- The clause that leaves out what is pending; the comma behind the last id is deleted. -/
def pendingClause (pending : List Nat) : Octstr :=
  if pending = [] then []
  else
    (octstrImm " AND global_id NOT IN (" ++
      pending.flatMap (fun id => octstrFormatLong id ++ octstrImm ",")).dropLast ++ octstrImm ")"

/-! ## Queries -/

def smppDatabaseMysqlGetStoredPduSql (c : SqlSettings) (service : Option Octstr)
    (pending : List Nat) (limit : Int) : Statement :=
  let sql := octstrFormat (octstrImm "SELECT global_id, time, system_id, pdu FROM " ++
    c.databasePduTable ++ octstrImm " WHERE ")
  let sql := smppDbSqlAppendWhereEq c.sqlDialect sql (octstrImm "system_id") service
  let sql := (sql.append (octstrImm " ")).append (pendingClause pending)
  sql.append (octstrImm " LIMIT " ++ octstrFormatLong limit ++ octstrImm " ")

def smppDatabaseMysqlGetRoutesSql (c : SqlSettings) (direction : Int) (service : Option Octstr) :
    Statement :=
  let sql := octstrFormat (
    octstrImm "SELECT regex, cost, system_id, smsc_id, source_regex FROM " ++
      c.databaseRouteTable ++ octstrImm " WHERE direction = " ++ octstrFormatLong direction ++
        octstrImm " ")
  let sql :=
    if octstrLen service ≠ 0 then
      smppDbSqlAppendWhereEq c.sqlDialect (sql.append (octstrImm " AND "))
        (octstrImm "system_id") service
    else sql
  sql.append (octstrImm " ORDER BY priority DESC")

/-- The columns `smpp_database_mysql_get_stored` selects, each between backticks; the comma behind
the last one is deleted. -/
def storedColumns : Octstr :=
  (octstrImm "SELECT global_id, " ++
    smsColumns.flatMap (fun name => octstrImm "`" ++ name ++ octstrImm "`,")).dropLast

def smppDatabaseMysqlGetStoredSql (c : SqlSettings) (smsType : Int) (service : Option Octstr)
    (kind : StoreKind) (pending : List Nat) : Statement :=
  let storeTable := getStoredTable c.store smsType kind
  let sql := octstrFormat storedColumns
  let sql :=
    if kind = .bearerboxMtDrain ∧ smsType = smsTypeMtPush ∧ octstrLen service = 0 ∧
        octstrLen c.store.databaseUserTable ≠ 0 then
      sql.append (octstrImm " FROM " ++ storeTable ++ octstrImm " AS s LEFT JOIN " ++
        c.store.databaseUserTable.getD [] ++
        octstrImm " AS u ON LOWER(u.`system_id`) = LOWER(s.`service`) WHERE s.`sms_type` = " ++
        octstrFormatLong smsType ++ octstrImm " AND COALESCE(u.`database_store_primary`, " ++
        octstrFormatLong (if c.store.databaseStorePrimary then 1 else 0) ++ octstrImm ") = 0 ")
    else
      let sql := sql.append (octstrImm " FROM " ++ storeTable ++ octstrImm " WHERE sms_type = " ++
        octstrFormatLong smsType ++ octstrImm " ")
      if octstrLen service ≠ 0 then
        smppDbSqlAppendWhereEq c.sqlDialect (sql.append (octstrImm " AND "))
          (octstrImm "service") service
      else sql
  -- `limit` is not looked at
  (sql.append (pendingClause pending)).append
    (octstrImm " LIMIT " ++ octstrFormatLong smppDatabaseBatchLimit)

def smppDatabaseMysqlGetDlrsSql (c : SqlSettings) (service : Option Octstr) (limit : Int) :
    Statement :=
  let limit := if limit = 0 then (smppDatabaseBatchLimit : Int) else limit
  let sql := octstrFormat (octstrImm "SELECT global_id, message_id, service, status, err_code, " ++
    octstrImm "submit_date, done_date, destination_addr, source_addr, smsc_id, text FROM " ++
      c.databaseDlrTable ++ octstrImm " WHERE ")
  match c.sqlDialect with
  | .pgsql =>
      sql.append (octstrImm "LOWER(service) = LOWER(" ++ smppDbSqlStringLiteral service ++
        octstrImm ") AND processed = 0 LIMIT " ++ octstrFormatLong limit)
  | .mysql =>
      (sql.append (octstrImm "service = ? AND processed = 0 LIMIT " ++
        octstrFormatLong limit)).produce (octstrImm "service") service

/-- The macros of `smpp_database_mysql_add_message` for one field; the state is the text with the
names and the one with the values. -/
def addMessageField (d : SqlDialect) (s : Octstr × Statement) (p : Octstr × Field) :
    Octstr × Statement :=
  match p.2 with
  | .integer n => (s.1 ++ (p.1 ++ octstrImm ","), smppDbSqlAppendInsertLong d s.2 p.1 n)
  | .octstr none => s
  | .octstr (some os) =>
      (s.1 ++ (p.1 ++ octstrImm ","), smppDbSqlAppendInsertValue d s.2 p.1 (some os))
  | .uuid u =>
      (s.1 ++ (p.1 ++ octstrImm ","),
        match d with
        | .pgsql => s.2.append (octstrImm "'" ++ smppUuidGet u ++ octstrImm "',")
        | .mysql => (s.2.produce p.1 (some (smppUuidGet u))).append (octstrImm "?,"))

def smppDatabaseMysqlAddMessageSql (c : SqlSettings) (msg : Sms) (kind : StoreKind) : Statement :=
  let s := (smsFields (encodeMsg msg)).foldl (addMessageField c.sqlDialect)
    (octstrImm "INSERT INTO " ++ smppDatabaseStoreTableName c.store kind ++ octstrImm " ( ",
      octstrFormat (octstrImm " ) VALUES ( "))
  { s.2 with sql := s.1.dropLast ++ s.2.sql.dropLast ++ octstrImm ");" }

/-- `packed` is the PDU without its length. -/
def smppDatabaseMysqlAddPduSql (c : SqlSettings) (systemId : Option Octstr) (timeSent : Int)
    (packed : Octstr) : Statement :=
  let enc := smppDbUrlEncodeOctstr packed
  match c.sqlDialect with
  | .pgsql =>
      octstrFormat (octstrImm "INSERT INTO " ++ c.databasePduTable ++
        octstrImm " (system_id, time, pdu) VALUES (" ++ smppDbSqlStringLiteral systemId ++
        octstrImm ", " ++ octstrFormatLong timeSent ++ octstrImm ", " ++
        smppDbSqlStringLiteral (some enc) ++ octstrImm ");")
  | .mysql =>
      (((octstrFormat (octstrImm "INSERT INTO " ++ c.databasePduTable ++
        octstrImm " ( `system_id`, `time`, `pdu` ) VALUES ( ?, ?, ?);")).produce
          (octstrImm "system_id") systemId).produce
          (octstrImm "time") (some (octstrFormatLong timeSent))).produce
          (octstrImm "pdu") (some enc)

/-- The `SELECT` of `smpp_database_mysql_deduct_credit`. -/
def deductCreditSelectSql (c : SqlSettings) (service : Option Octstr) : Statement :=
  let sql := octstrFormat (octstrImm "SELECT credit FROM " ++
    c.store.databaseUserTable.getD [] ++ octstrImm " WHERE ")
  (smppDbSqlAppendWhereEq c.sqlDialect sql (octstrImm "system_id") service).append
    (octstrImm " LIMIT 1")

/-- Its `UPDATE`. -/
def deductCreditUpdateSql (c : SqlSettings) (service : Option Octstr) (cost : Rat) : Statement :=
  let userTable := c.store.databaseUserTable.getD []
  match c.sqlDialect with
  | .pgsql =>
      octstrFormat (octstrImm "UPDATE " ++ userTable ++ octstrImm " SET credit = credit - " ++
        octstrFormatDouble cost ++ octstrImm " WHERE system_id = " ++
        smppDbSqlStringLiteral service)
  | .mysql =>
      ((octstrFormat (octstrImm "UPDATE " ++ userTable ++
        octstrImm " SET `credit` = `credit` - ? WHERE `system_id` = ?")).produce
          (octstrImm "credit") (some (octstrFormatDouble cost))).produce
          (octstrImm "system_id") service

def smppDatabaseMysqlAuthenticateSql (c : SqlSettings) (username password : Option Octstr) :
    Statement :=
  let sql := octstrFormat (octstrImm "SELECT throughput, default_smsc, callback_url, simulate, " ++
    octstrImm "simulate_dlr_fail, simulate_deliver_every, simulate_permanent_failure_every, " ++
    octstrImm "simulate_temporary_failure_every, simulate_mo_every, default_cost, max_binds, " ++
    octstrImm "enable_prepaid_billing, connect_allow_ip, database_store_primary  FROM " ++
      c.store.databaseUserTable.getD [] ++ octstrImm " WHERE ")
  let sql := smppDbSqlAppendWhereEq c.sqlDialect sql (octstrImm "system_id") username
  (smppDbSqlAppendPasswordCheck c.sqlDialect sql password).append (octstrImm " LIMIT 1")

/-- A call of the database code at run time. -/
inductive SqlQuery
  | getStoredPdu (service : Option Octstr) (pendingPdu : List Nat) (limit : Int)
  | getStored (smsType : Int) (service : Option Octstr) (kind : StoreKind) (pendingMsg : List Nat)
  | getDlrs (service : Option Octstr) (limit : Int)
  | getRoutes (direction : Int) (service : Option Octstr)
  | addMessage (msg : Sms) (kind : StoreKind)
  | addPdu (systemId : Option Octstr) (timeSent : Int) (packed : Octstr)
  | deductCredit (service : Option Octstr) (cost : Rat)
  | authenticate (username password : Option Octstr)
  deriving DecidableEq, Repr

/-- The statements the call may send. -/
def SqlQuery.statements (c : SqlSettings) : SqlQuery → List Statement
  | .getStoredPdu service pending limit =>
      [smppDatabaseMysqlGetStoredPduSql c service pending limit]
  | .getStored smsType service kind pending =>
      [smppDatabaseMysqlGetStoredSql c smsType service kind pending]
  -- without a table there is nothing to ask for
  | .getDlrs service limit =>
      if c.databaseDlrTable = [] then [] else [smppDatabaseMysqlGetDlrsSql c service limit]
  | .getRoutes direction service => [smppDatabaseMysqlGetRoutesSql c direction service]
  | .addMessage msg kind => [smppDatabaseMysqlAddMessageSql c msg kind]
  | .addPdu systemId timeSent packed => [smppDatabaseMysqlAddPduSql c systemId timeSent packed]
  -- the `UPDATE` only if the credit covers a cost
  | .deductCredit service cost =>
      deductCreditSelectSql c service ::
        (if cost ≠ 0 then [deductCreditUpdateSql c service cost] else [])
  | .authenticate username password => [smppDatabaseMysqlAuthenticateSql c username password]

end Database
end Ksmppd
