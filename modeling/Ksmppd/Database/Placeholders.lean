import Ksmppd.Database.Statements

/-!
# Placeholders — statements each database can read

PostgreSQL knows neither backticks nor question marks; MySQL takes one value for each question mark.
A statement is read token by token: what stands in a literal does not count.
-/

namespace Ksmppd
namespace Database

open Lib
open Redis (Field smsFields encodeMsg smppDbUrlEncodeOctstr)

/-! ## Reading SQL -/

def isSqlLetter (c : UInt8) : Bool :=
  isDigit c || (decide (65 ≤ c) && decide (c ≤ 90)) || (decide (97 ≤ c) && decide (c ≤ 122)) ||
    c == 95 || decide (128 ≤ c)

def sqlAlphabet : Alphabet UInt8 where
  quote := 39
  letter := isSqlLetter
  blank := isSpace
  quote_not_letter := by decide

def sqlClauses : Clauses UInt8 where
  mark := 63
  equals := 61
  comma := 44
  opening := 40
  closing := 41
  insert := octstrImm "INSERT"
  distinct := by decide

/-- In PostgreSQL no backtick and no placeholder stands outside literals; in MySQL the placeholders
are those of the bound values, column by column. -/
def Statement.ValidIn (d : SqlDialect) (s : Statement) : Prop :=
  match d with
  | .pgsql => ∀ t ∈ sqlAlphabet.lex s.sql, t ≠ .sign 96 ∧ t ≠ .sign 63
  | .mysql => sqlClauses.columns (sqlAlphabet.lex s.sql) = s.binds.map (fun b => some b.column)

instance (d : SqlDialect) (s : Statement) : Decidable (s.ValidIn d) :=
  match d with
  | .pgsql => inferInstanceAs (Decidable (∀ t ∈ sqlAlphabet.lex s.sql, t ≠ .sign 96 ∧ t ≠ .sign 63))
  | .mysql =>
      inferInstanceAs (Decidable
        (sqlClauses.columns (sqlAlphabet.lex s.sql) = s.binds.map (fun b => some b.column)))

def SqlQuery.ValidIn (c : SqlSettings) (q : SqlQuery) : Prop :=
  ∀ s ∈ q.statements c, s.ValidIn c.sqlDialect

/-- The signs that texts of the program must not bring in by themselves. -/
def SqlDialect.reserved : SqlDialect → Octstr
  | .pgsql => [96, 63]
  | .mysql => [63]

/-- No quote and no reserved sign. -/
def Quiet (d : SqlDialect) (os : Octstr) : Prop := ∀ c ∈ os, c ≠ sqlAlphabet.quote ∧ c ∉ d.reserved

instance (d : SqlDialect) (os : Octstr) : Decidable (Quiet d os) :=
  List.decidableBAll (fun c => c ≠ sqlAlphabet.quote ∧ c ∉ d.reserved) os

/-- The name of a table, as it is in the configuration. -/
def TableName (d : SqlDialect) (os : Octstr) : Prop := Quiet d os ∧ sqlClauses.opening ∉ os

instance (d : SqlDialect) (os : Octstr) : Decidable (TableName d os) :=
  inferInstanceAs (Decidable (Quiet d os ∧ sqlClauses.opening ∉ os))

/-- The tables have names. -/
structure SqlSettings.Named (c : SqlSettings) : Prop where
  storeTable : TableName c.sqlDialect c.store.databaseStoreTable
  queueStoreTable : ∀ os ∈ c.store.databaseQueueStoreTable, TableName c.sqlDialect os
  userTable : ∀ os ∈ c.store.databaseUserTable, TableName c.sqlDialect os
  pduTable : TableName c.sqlDialect c.databasePduTable
  routeTable : TableName c.sqlDialect c.databaseRouteTable
  dlrTable : TableName c.sqlDialect c.databaseDlrTable

variable {d : SqlDialect} {c : SqlSettings} {s : Statement} {os os' : Octstr} {val : Option Octstr}

/-! ## Quiet texts -/

theorem quiet_append : Quiet d (os ++ os') ↔ Quiet d os ∧ Quiet d os' := List.forall_mem_append

theorem octstrImm_ofList (l : List Char) :
    octstrImm (String.ofList l) = l.map (fun x => UInt8.ofNat x.toNat) := by
  simp [octstrImm]

/-- A text of the program, checked character by character. -/
theorem quiet_imm {l : List Char}
    (h : Quiet d (l.map (fun x => UInt8.ofNat x.toNat))) :
    Quiet d (octstrImm (String.ofList l)) := by
  rw [octstrImm_ofList]
  exact h

/-- Digits and the signs of numbers are not reserved. -/
theorem quiet_of_number (h : ∀ x ∈ os, x = 45 ∨ x = 46 ∨ isDigit x = true) : Quiet d os := by
  intro x hx
  have hreserved : ∀ x : UInt8, x = 45 ∨ x = 46 ∨ isDigit x = true → x ≠ 39 ∧ x ≠ 96 ∧ x ≠ 63 := by
    intro x hx
    simp only [isDigit] at hx
    grind
  rcases hreserved x (h x hx) with ⟨hquote, htick, hmark⟩
  cases d with
  | mysql => exact ⟨hquote, by simpa [SqlDialect.reserved] using hmark⟩
  | pgsql => exact ⟨hquote, by simpa [SqlDialect.reserved] using ⟨htick, hmark⟩⟩

theorem quiet_octstrFormatLong (n : Int) : Quiet d (octstrFormatLong n) := by
  apply quiet_of_number
  intro x hx
  rcases octet_of_mem_octstrFormatLong hx with rfl | hdigit
  · exact Or.inl rfl
  · exact Or.inr (Or.inr hdigit)

theorem quiet_octstrFormatDouble (x : Rat) : Quiet d (octstrFormatDouble x) := by
  have hsign : Quiet d (if x < 0 then [45] else []) := by
    apply quiet_of_number
    split_ifs <;> simp
  have hpoint : Quiet d [46] := quiet_of_number (by simp)
  have hzeros : ∀ k, Quiet d (List.replicate k 48) := by
    intro k
    apply quiet_of_number
    intro y hy
    rw [List.eq_of_mem_replicate hy]
    decide
  simp only [octstrFormatDouble, quiet_append]
  exact ⟨⟨⟨⟨hsign, quiet_octstrFormatLong _⟩, hpoint⟩, hzeros _⟩, quiet_octstrFormatLong _⟩

theorem quiet_octstrImm (h : Quiet .pgsql os) : Quiet d os := by
  cases d with
  | pgsql => exact h
  | mysql =>
      intro x hx
      rcases h x hx with ⟨hquote, hreserved⟩
      exact ⟨hquote, fun hmem => hreserved (List.mem_cons_of_mem 96 hmem)⟩

theorem Quiet.subset (h : Quiet d os) (hsub : os' ⊆ os) : Quiet d os' := fun x hx => h x (hsub hx)

theorem quiet_pendingClause (pending : List Nat) : Quiet d (pendingClause pending) := by
  have hids : Quiet d (pending.flatMap (fun id => octstrFormatLong id ++ octstrImm ",")) := by
    intro x hx
    rcases List.mem_flatMap.mp hx with ⟨id, _, hx⟩
    have hid : Quiet d (octstrFormatLong id ++ octstrImm ",") :=
      quiet_append.mpr ⟨quiet_octstrFormatLong _, quiet_octstrImm (by decide)⟩
    exact hid x hx
  unfold pendingClause
  split_ifs
  · exact quiet_octstrImm (by decide)
  · exact quiet_append.mpr
      ⟨(quiet_append.mpr ⟨quiet_octstrImm (by decide), hids⟩).subset (List.dropLast_subset _),
        quiet_octstrImm (by decide)⟩

/-! ## PostgreSQL -/

/-- Read from outside literals the text has no reserved sign. -/
def Free (os : Octstr) : Prop := sqlAlphabet.FreeOf SqlDialect.pgsql.reserved os

/-- The text may stand behind a literal, too. -/
def Readable (os : Octstr) : Prop := Free os ∧ ∀ x ∈ os.head?, x ≠ sqlAlphabet.quote

theorem validIn_pgsql_of_free (h : Free s.sql) : s.ValidIn .pgsql := by
  intro t ht
  have hfree := h .between unquoted_between t ht
  exact ⟨hfree 96 (by decide), hfree 63 (by decide)⟩

theorem Quiet.head_append (h : Quiet .pgsql os') (hne : os' ≠ []) (os : Octstr) :
    ∀ x ∈ (os' ++ os).head?, x ≠ sqlAlphabet.quote := by
  cases os' with
  | nil => exact absurd rfl hne
  | cons x os' =>
      intro y hy
      rw [← Option.mem_some_iff.mp hy]
      exact (h x List.mem_cons_self).1

theorem Readable.quiet_append (h : Readable os) (hos' : Quiet .pgsql os') :
    Readable (os' ++ os) := by
  by_cases hne : os' = []
  · simpa [hne] using h
  · exact ⟨h.1.append hos', hos'.head_append hne os⟩

theorem readable_of_quiet (h : Quiet .pgsql os) : Readable os := by
  have hnil : Readable [] := ⟨Alphabet.freeOf_nil, by simp⟩
  simpa using hnil.quiet_append h

theorem smppDbSqlStringLiteral_some (os : Octstr) :
    smppDbSqlStringLiteral (some os) = sqlAlphabet.quoted os := by
  have hdoubled : (fun c => if c = 39 then octstrImm "''" else [c]) =
      fun c => if c = sqlAlphabet.quote then [c, c] else [c] := by
    funext c
    by_cases hquote : c = sqlAlphabet.quote
    · rw [hquote]
      rfl
    · exact (if_neg hquote).trans (if_neg hquote).symm
  rw [smppDbSqlStringLiteral, hdoubled]
  rfl

/-- A literal may hold anything. -/
theorem Readable.free_literal (h : Readable os) (hos' : Quiet .pgsql os') (val : Option Octstr) :
    Free (os' ++ (smppDbSqlStringLiteral val ++ os)) := by
  cases val with
  | none =>
      have hnull : Quiet .pgsql (octstrImm "NULL") := by decide
      exact (h.1.append hnull).append hos'
  | some v =>
      rw [smppDbSqlStringLiteral_some]
      exact (h.1.quoted_append h.2 v).append hos'

theorem Readable.literal_append (h : Readable os) (hos' : Quiet .pgsql os') (hne : os' ≠ [])
    (val : Option Octstr) : Readable (os' ++ (smppDbSqlStringLiteral val ++ os)) :=
  ⟨h.free_literal hos' val, hos'.head_append hne _⟩

/-! ## PostgreSQL, query by query -/

theorem tableName_storeTableName (h : c.Named) (kind : StoreKind) :
    TableName c.sqlDialect (smppDatabaseStoreTableName c.store kind) := by
  unfold smppDatabaseStoreTableName
  split_ifs with hqueue
  · cases hname : c.store.databaseQueueStoreTable with
    | none => simp [hname, octstrLen] at hqueue
    | some name => exact h.queueStoreTable name hname
  · exact h.storeTable

theorem tableName_getStoredTable (h : c.Named) (smsType : Int) (kind : StoreKind) :
    TableName c.sqlDialect (getStoredTable c.store smsType kind) := by
  unfold getStoredTable smppDatabaseGetStoredTableName
  dsimp only
  split_ifs <;> exact tableName_storeTableName h _

theorem tableName_userTable (h : c.Named) :
    TableName c.sqlDialect (c.store.databaseUserTable.getD []) := by
  cases hname : c.store.databaseUserTable with
  | none => exact ⟨by simp [Quiet], by simp⟩
  | some name => exact h.userTable name hname

/-- A comparison with a literal, in quiet surroundings. -/
theorem free_whereEq (hs : Quiet .pgsql s.sql) {col : Octstr} (hcol : Quiet .pgsql col)
    (val : Option Octstr) (h : Readable os) :
    Free ((smppDbSqlAppendWhereEq .pgsql s col val).sql ++ os) := by
  have hequals : Quiet .pgsql (octstrImm " = ") := quiet_imm (by decide)
  have hhead : Quiet .pgsql (s.sql ++ col ++ octstrImm " = ") :=
    quiet_append.mpr ⟨quiet_append.mpr ⟨hs, hcol⟩, hequals⟩
  simpa using h.free_literal hhead val

theorem quiet_systemId : Quiet .pgsql (octstrImm "system_id") := quiet_imm (by decide)

theorem getStoredPdu_pgsql (h : c.Named) (hd : c.sqlDialect = .pgsql) (service : Option Octstr)
    (pending : List Nat) (limit : Int) :
    (smppDatabaseMysqlGetStoredPduSql c service pending limit).ValidIn .pgsql := by
  have hname : Quiet .pgsql c.databasePduTable := hd ▸ h.pduTable.1
  have hhead : Quiet .pgsql (octstrImm "SELECT global_id, time, system_id, pdu FROM " ++
      c.databasePduTable ++ octstrImm " WHERE ") :=
    quiet_append.mpr ⟨quiet_append.mpr ⟨quiet_imm (by decide), hname⟩, quiet_imm (by decide)⟩
  have htail : Quiet .pgsql (octstrImm " " ++ pendingClause pending ++
      (octstrImm " LIMIT " ++ octstrFormatLong limit ++ octstrImm " ")) :=
    quiet_append.mpr ⟨quiet_append.mpr ⟨quiet_imm (by decide), quiet_pendingClause pending⟩,
      quiet_append.mpr ⟨quiet_append.mpr ⟨quiet_imm (by decide), quiet_octstrFormatLong limit⟩,
        quiet_imm (by decide)⟩⟩
  apply validIn_pgsql_of_free
  simpa [smppDatabaseMysqlGetStoredPduSql, hd] using
    free_whereEq (s := octstrFormat _) hhead quiet_systemId service (readable_of_quiet htail)

theorem getDlrs_pgsql (h : c.Named) (hd : c.sqlDialect = .pgsql) (service : Option Octstr)
    (limit : Int) : (smppDatabaseMysqlGetDlrsSql c service limit).ValidIn .pgsql := by
  have hname : Quiet .pgsql c.databaseDlrTable := hd ▸ h.dlrTable.1
  have hhead : Quiet .pgsql
      (octstrImm "SELECT global_id, message_id, service, status, err_code, " ++
        octstrImm "submit_date, done_date, destination_addr, source_addr, smsc_id, text FROM " ++
          c.databaseDlrTable ++ octstrImm " WHERE " ++ octstrImm "LOWER(service) = LOWER(") :=
    quiet_append.mpr ⟨quiet_append.mpr ⟨quiet_append.mpr ⟨quiet_append.mpr
      ⟨quiet_imm (by decide), quiet_imm (by decide)⟩, hname⟩, quiet_imm (by decide)⟩,
        quiet_imm (by decide)⟩
  have htail : ∀ n, Quiet .pgsql (octstrImm ") AND processed = 0 LIMIT " ++ octstrFormatLong n) :=
    fun n => quiet_append.mpr ⟨quiet_imm (by decide), quiet_octstrFormatLong n⟩
  apply validIn_pgsql_of_free
  simpa [smppDatabaseMysqlGetDlrsSql, hd] using
    (readable_of_quiet (htail _)).free_literal hhead service

theorem getRoutes_pgsql (h : c.Named) (hd : c.sqlDialect = .pgsql) (direction : Int)
    (service : Option Octstr) :
    (smppDatabaseMysqlGetRoutesSql c direction service).ValidIn .pgsql := by
  have hname : Quiet .pgsql c.databaseRouteTable := hd ▸ h.routeTable.1
  have hhead : Quiet .pgsql (octstrImm "SELECT regex, cost, system_id, smsc_id, source_regex FROM "
      ++ c.databaseRouteTable ++ octstrImm " WHERE direction = " ++ octstrFormatLong direction ++
        octstrImm " ") :=
    quiet_append.mpr ⟨quiet_append.mpr ⟨quiet_append.mpr ⟨quiet_append.mpr
      ⟨quiet_imm (by decide), hname⟩, quiet_imm (by decide)⟩, quiet_octstrFormatLong direction⟩,
        quiet_imm (by decide)⟩
  have hand : Quiet .pgsql (octstrImm " AND ") := quiet_imm (by decide)
  have htail : Readable (octstrImm " ORDER BY priority DESC") :=
    readable_of_quiet (quiet_imm (by decide))
  apply validIn_pgsql_of_free
  by_cases hservice : octstrLen service = 0
  · simpa [smppDatabaseMysqlGetRoutesSql, hservice] using
      (htail.quiet_append hhead).1
  · simpa [smppDatabaseMysqlGetRoutesSql, hservice, hd] using
      free_whereEq (s := (octstrFormat _).append _) (quiet_append.mpr ⟨hhead, hand⟩)
        quiet_systemId service htail

theorem addPdu_pgsql (h : c.Named) (hd : c.sqlDialect = .pgsql) (systemId : Option Octstr)
    (timeSent : Int) (packed : Octstr) :
    (smppDatabaseMysqlAddPduSql c systemId timeSent packed).ValidIn .pgsql := by
  have hname : Quiet .pgsql c.databasePduTable := hd ▸ h.pduTable.1
  have hhead : Quiet .pgsql (octstrImm "INSERT INTO " ++ c.databasePduTable ++
      octstrImm " (system_id, time, pdu) VALUES (") :=
    quiet_append.mpr ⟨quiet_append.mpr ⟨quiet_imm (by decide), hname⟩, quiet_imm (by decide)⟩
  have htime : Quiet .pgsql (octstrImm ", " ++ octstrFormatLong timeSent ++ octstrImm ", ") :=
    quiet_append.mpr ⟨quiet_append.mpr ⟨quiet_imm (by decide), quiet_octstrFormatLong timeSent⟩,
      quiet_imm (by decide)⟩
  have htail : Quiet .pgsql (octstrImm ");") := quiet_imm (by decide)
  have hvalues := (readable_of_quiet htail).literal_append htime
    (List.append_ne_nil_of_right_ne_nil _ (by decide)) (some (smppDbUrlEncodeOctstr packed))
  apply validIn_pgsql_of_free
  simpa [smppDatabaseMysqlAddPduSql, hd] using
    hvalues.free_literal hhead systemId

theorem deductCreditSelect_pgsql (h : c.Named) (hd : c.sqlDialect = .pgsql)
    (service : Option Octstr) : (deductCreditSelectSql c service).ValidIn .pgsql := by
  have hname : Quiet .pgsql (c.store.databaseUserTable.getD []) := hd ▸ (tableName_userTable h).1
  have hhead : Quiet .pgsql (octstrImm "SELECT credit FROM " ++
      c.store.databaseUserTable.getD [] ++ octstrImm " WHERE ") :=
    quiet_append.mpr ⟨quiet_append.mpr ⟨quiet_imm (by decide), hname⟩, quiet_imm (by decide)⟩
  have htail : Quiet .pgsql (octstrImm " LIMIT 1") := quiet_imm (by decide)
  apply validIn_pgsql_of_free
  simpa [deductCreditSelectSql, hd] using
    free_whereEq (s := octstrFormat _) hhead quiet_systemId service (readable_of_quiet htail)

theorem deductCreditUpdate_pgsql (h : c.Named) (hd : c.sqlDialect = .pgsql)
    (service : Option Octstr) (cost : Rat) :
    (deductCreditUpdateSql c service cost).ValidIn .pgsql := by
  have hname : Quiet .pgsql (c.store.databaseUserTable.getD []) := hd ▸ (tableName_userTable h).1
  have hhead : Quiet .pgsql (octstrImm "UPDATE " ++ c.store.databaseUserTable.getD [] ++
      octstrImm " SET credit = credit - " ++ octstrFormatDouble cost ++
        octstrImm " WHERE system_id = ") :=
    quiet_append.mpr ⟨quiet_append.mpr ⟨quiet_append.mpr ⟨quiet_append.mpr
      ⟨quiet_imm (by decide), hname⟩, quiet_imm (by decide)⟩, quiet_octstrFormatDouble cost⟩,
        quiet_imm (by decide)⟩
  have hnil : Quiet .pgsql [] := by decide
  apply validIn_pgsql_of_free
  simpa [deductCreditUpdateSql, hd] using
    (readable_of_quiet hnil).free_literal hhead service

theorem authenticate_pgsql (h : c.Named) (hd : c.sqlDialect = .pgsql)
    (username password : Option Octstr) :
    (smppDatabaseMysqlAuthenticateSql c username password).ValidIn .pgsql := by
  have hname : Quiet .pgsql (c.store.databaseUserTable.getD []) := hd ▸ (tableName_userTable h).1
  have hhead : Quiet .pgsql
      (octstrImm "SELECT throughput, default_smsc, callback_url, simulate, " ++
        octstrImm "simulate_dlr_fail, simulate_deliver_every, simulate_permanent_failure_every, " ++
        octstrImm "simulate_temporary_failure_every, simulate_mo_every, default_cost, max_binds, " ++
        octstrImm "enable_prepaid_billing, connect_allow_ip, database_store_primary  FROM " ++
          c.store.databaseUserTable.getD [] ++ octstrImm " WHERE ") :=
    quiet_append.mpr ⟨quiet_append.mpr ⟨quiet_append.mpr ⟨quiet_append.mpr ⟨quiet_append.mpr
      ⟨quiet_imm (by decide), quiet_imm (by decide)⟩, quiet_imm (by decide)⟩,
        quiet_imm (by decide)⟩, hname⟩, quiet_imm (by decide)⟩
  -- the names of the hash and of its encoding are literals, too
  have hnames : octstrImm ", 'sha256'), 'hex')" ++ octstrImm " LIMIT 1" = octstrImm ", " ++
      (smppDbSqlStringLiteral (some (octstrImm "sha256")) ++ (octstrImm "), " ++
        (smppDbSqlStringLiteral (some (octstrImm "hex")) ++ octstrImm ") LIMIT 1"))) := by decide
  have htail : Quiet .pgsql (octstrImm ") LIMIT 1") := quiet_imm (by decide)
  have hcomma : Quiet .pgsql (octstrImm "), ") := quiet_imm (by decide)
  have hhex := (readable_of_quiet htail).literal_append hcomma (by decide)
    (some (octstrImm "hex"))
  have hhash : Readable (octstrImm ", 'sha256'), 'hex')" ++ octstrImm " LIMIT 1") := by
    rw [hnames]
    exact hhex.literal_append (by decide) (by decide) (some (octstrImm "sha256"))
  have hencode : Quiet .pgsql (octstrImm " AND password = encode(digest(") := quiet_imm (by decide)
  have hpassword := hhash.literal_append hencode (by decide) password
  apply validIn_pgsql_of_free
  simpa [smppDatabaseMysqlAuthenticateSql, smppDbSqlAppendPasswordCheck, hd]
    using free_whereEq (s := octstrFormat _) hhead quiet_systemId username hpassword

/-! ## Insertions, field by field -/

/-- What is written for the value of a field. -/
def fieldText (d : SqlDialect) (f : Field) : Octstr :=
  match d, f with
  | .mysql, _ => octstrImm "?"
  | .pgsql, .integer n => octstrFormatLong n
  | .pgsql, .octstr os => smppDbSqlStringLiteral os
  | .pgsql, .uuid u => smppDbSqlStringLiteral (some (smppUuidGet u))

/-- The fields that get a column. -/
def insertedFields (fields : List (Octstr × Field)) : List (Octstr × Field) :=
  fields.filter (fun p => (fieldValue p.2).isSome)

def boundValues (d : SqlDialect) (fields : List (Octstr × Field)) : List BoundValue :=
  match d with
  | .mysql => fields.map (fun p => { column := p.1, value := fieldValue p.2 })
  | .pgsql => []

/-- The dashes and digits of an id need no doubling. -/
theorem literal_smppUuidGet (u : Uuid) :
    smppDbSqlStringLiteral (some (smppUuidGet u)) =
      octstrImm "'" ++ smppUuidGet u ++ octstrImm "'" := by
  have hplain : ∀ x ∈ smppUuidGet u, (if x = 39 then octstrImm "''" else [x]) = [x] := by
    intro x hx
    have hne : x ≠ 39 := by
      rintro rfl
      exact absurd (octet_of_mem_smppUuidGet hx) (by decide)
    exact if_neg hne
  have hvalue : (smppUuidGet u).flatMap (fun x => if x = 39 then octstrImm "''" else [x]) =
      smppUuidGet u := by
    rw [List.flatMap_congr hplain]
    simp
  rw [smppDbSqlStringLiteral, hvalue]
  rfl

theorem addMessageField_eq (d : SqlDialect) (names : Octstr) (values : Statement)
    (p : Octstr × Field) :
    addMessageField d (names, values) p =
      (names ++ (insertedFields [p]).flatMap (fun p => p.1 ++ octstrImm ","),
        { sql := values.sql ++
            (insertedFields [p]).flatMap (fun p => fieldText d p.2 ++ octstrImm ",")
          binds := values.binds ++ boundValues d (insertedFields [p]) }) := by
  have hmark : octstrImm "?," = octstrImm "?" ++ octstrImm "," := by decide
  have hquote : octstrImm "'," = octstrImm "'" ++ octstrImm "," := by decide
  rcases p with ⟨name, f⟩
  cases f with
  | integer n =>
      have hinserted : insertedFields [(name, .integer n)] = [(name, .integer n)] := rfl
      rw [hinserted]
      cases d with
      | mysql =>
          simp [addMessageField, smppDbSqlAppendInsertLong, fieldText, boundValues, fieldValue,
            Statement.append, Statement.produce, hmark]
      | pgsql =>
          simp [addMessageField, smppDbSqlAppendInsertLong, fieldText, boundValues,
            Statement.append]
  | octstr os =>
      cases os with
      -- an absent text gets no column
      | none => cases d <;> simp [addMessageField, insertedFields, boundValues, fieldValue]
      | some v =>
          have hinserted : insertedFields [(name, .octstr (some v))] = [(name, .octstr (some v))] :=
            rfl
          rw [hinserted]
          cases d with
          | mysql =>
              simp [addMessageField, smppDbSqlAppendInsertValue, fieldText, boundValues, fieldValue,
                Statement.append, Statement.produce, hmark]
          | pgsql =>
              simp [addMessageField, smppDbSqlAppendInsertValue, fieldText, boundValues,
                Statement.append]
  | uuid u =>
      have hinserted : insertedFields [(name, .uuid u)] = [(name, .uuid u)] := rfl
      rw [hinserted]
      cases d with
      | mysql =>
          simp [addMessageField, fieldText, boundValues, fieldValue, Statement.append,
            Statement.produce, hmark]
      | pgsql =>
          simp [addMessageField, fieldText, boundValues, Statement.append, literal_smppUuidGet,
            hquote]

theorem insertedFields_cons (p : Octstr × Field) (fields : List (Octstr × Field)) :
    insertedFields (p :: fields) = insertedFields [p] ++ insertedFields fields :=
  List.filter_append [p] fields

theorem boundValues_append (d : SqlDialect) (fields fields' : List (Octstr × Field)) :
    boundValues d (fields ++ fields') = boundValues d fields ++ boundValues d fields' := by
  cases d <;> simp [boundValues]

theorem foldl_addMessageField (d : SqlDialect) (fields : List (Octstr × Field)) (names : Octstr)
    (values : Statement) :
    fields.foldl (addMessageField d) (names, values) =
      (names ++ (insertedFields fields).flatMap (fun p => p.1 ++ octstrImm ","),
        { sql := values.sql ++
            (insertedFields fields).flatMap (fun p => fieldText d p.2 ++ octstrImm ",")
          binds := values.binds ++ boundValues d (insertedFields fields) }) := by
  induction fields generalizing names values with
  | nil => cases d <;> simp [insertedFields, boundValues]
  | cons p fields ih =>
      rw [List.foldl_cons, addMessageField_eq, ih, insertedFields_cons p fields,
        boundValues_append]
      simp only [List.flatMap_append, List.append_assoc]

/-- Deleting the last comma leaves commas between the texts. -/
theorem dropLast_flatMap_comma {β : Type} (f : β → Octstr) {l : List β} (hne : l ≠ [])
    (os : Octstr) :
    (os ++ l.flatMap (fun b => f b ++ octstrImm ",")).dropLast =
      os ++ List.intercalate [sqlClauses.comma] (l.map f) := by
  have hcomma : octstrImm "," = [sqlClauses.comma] := by decide
  induction l generalizing os with
  | nil => exact absurd rfl hne
  | cons b l ih =>
      cases l with
      | nil => simp [hcomma, ← List.append_assoc]
      | cons b' l =>
          have hrest := ih (by simp) (os ++ (f b ++ octstrImm ","))
          have hjoin : List.intercalate [sqlClauses.comma] ((b :: b' :: l).map f) =
              f b ++ [sqlClauses.comma] ++ List.intercalate [sqlClauses.comma] ((b' :: l).map f) :=
            List.intercalate_cons_of_ne_nil (by simp)
          calc
            (os ++ (b :: b' :: l).flatMap (fun b => f b ++ octstrImm ",")).dropLast
                = (os ++ (f b ++ octstrImm ",") ++
                    (b' :: l).flatMap (fun b => f b ++ octstrImm ",")).dropLast := by
                  simp only [List.flatMap_cons, List.append_assoc]
            _ = os ++ (f b ++ octstrImm ",") ++
                  List.intercalate [sqlClauses.comma] ((b' :: l).map f) := hrest
            _ = os ++ List.intercalate [sqlClauses.comma] ((b :: b' :: l).map f) := by
                  rw [hjoin, hcomma, List.append_assoc]

/-- The names and the values, with commas between them. -/
theorem addMessage_eq (c : SqlSettings) (msg : Sms) (kind : StoreKind) :
    smppDatabaseMysqlAddMessageSql c msg kind =
      { sql := octstrImm "INSERT INTO " ++ (smppDatabaseStoreTableName c.store kind ++
          (octstrImm " ( " ++ (List.intercalate [sqlClauses.comma]
            ((insertedFields (smsFields (encodeMsg msg))).map Prod.fst) ++
          (octstrImm " ) VALUES ( " ++ (List.intercalate [sqlClauses.comma]
            ((insertedFields (smsFields (encodeMsg msg))).map
              (fun p => fieldText c.sqlDialect p.2)) ++ octstrImm ");")))))
        binds := boundValues c.sqlDialect (insertedFields (smsFields (encodeMsg msg))) } := by
  have hne : insertedFields (smsFields (encodeMsg msg)) ≠ [] := by
    -- the time is always inserted
    apply List.ne_nil_of_mem (a := (octstrImm "time", .integer msg.time))
    simp [insertedFields, smsFields, fieldValue, encodeMsg]
  have hnames := dropLast_flatMap_comma Prod.fst hne
    (octstrImm "INSERT INTO " ++ smppDatabaseStoreTableName c.store kind ++ octstrImm " ( ")
  have hvalues := dropLast_flatMap_comma (fun p => fieldText c.sqlDialect p.2) hne
    (octstrImm " ) VALUES ( ")
  rw [smppDatabaseMysqlAddMessageSql, foldl_addMessageField]
  simp only [octstrFormat, hnames, hvalues]
  simp only [List.append_assoc, List.nil_append]

/-! ## Insertions into PostgreSQL -/

theorem smsColumns_letters :
    ∀ name ∈ smsColumns, (∀ x ∈ name, sqlAlphabet.letter x = true) ∧ name ≠ [] := by
  intro name hname
  have hletters : smsColumns.all (fun name => name.all sqlAlphabet.letter) = true := by decide
  have hnonempty : [] ∉ smsColumns := by decide
  exact ⟨List.all_eq_true.mp (List.all_eq_true.mp hletters name hname),
    fun hnil => hnonempty (hnil ▸ hname)⟩

theorem mem_smsColumns {msg : Sms} {p : Octstr × Field}
    (hp : p ∈ insertedFields (smsFields (encodeMsg msg))) : p.1 ∈ smsColumns := by
  rw [← map_fst_smsFields (encodeMsg msg)]
  exact List.mem_map_of_mem (List.mem_filter.mp hp).1

theorem quiet_of_letters (h : ∀ x ∈ os, sqlAlphabet.letter x = true) : Quiet d os := by
  intro x hx
  have hne : ∀ y, sqlAlphabet.letter y = false → x ≠ y := by
    rintro y hy rfl
    rw [h x hx] at hy
    cases hy
  cases d with
  | mysql => exact ⟨hne 39 (by decide), by simpa [SqlDialect.reserved] using hne 63 (by decide)⟩
  | pgsql =>
      exact ⟨hne 39 (by decide),
        by simpa [SqlDialect.reserved] using ⟨hne 96 (by decide), hne 63 (by decide)⟩⟩

theorem forall_mem_intercalate (P : UInt8 → Prop) {sep : UInt8} (hsep : P sep)
    {ws : List Octstr} (h : ∀ w ∈ ws, ∀ x ∈ w, P x) : ∀ x ∈ List.intercalate [sep] ws, P x := by
  induction ws with
  | nil => simp
  | cons w ws ih =>
      have hrest := ih (fun v hv => h v (List.mem_cons_of_mem w hv))
      by_cases hne : ws = []
      · simpa [hne] using h w List.mem_cons_self
      · rw [List.intercalate_cons_of_ne_nil hne]
        simp only [List.forall_mem_append, List.forall_mem_singleton]
        exact ⟨⟨h w List.mem_cons_self, hsep⟩, hrest⟩

theorem quiet_names (msg : Sms) : Quiet d (List.intercalate [sqlClauses.comma]
    ((insertedFields (smsFields (encodeMsg msg))).map Prod.fst)) := by
  have hcomma : Quiet d [sqlClauses.comma] := by cases d <;> decide
  apply forall_mem_intercalate (fun x => x ≠ sqlAlphabet.quote ∧ x ∉ d.reserved)
    (hcomma _ List.mem_cons_self)
  intro name hname
  rcases List.mem_map.mp hname with ⟨p, hp, rfl⟩
  exact quiet_of_letters (smsColumns_letters p.1 (mem_smsColumns hp)).1

theorem Readable.field_append (h : Readable os) (hos' : Quiet .pgsql os') (hne : os' ≠ [])
    (f : Field) : Readable (os' ++ (fieldText .pgsql f ++ os)) := by
  cases f with
  | integer n => exact (h.quiet_append (quiet_octstrFormatLong n)).quiet_append hos'
  | octstr v => exact h.literal_append hos' hne v
  | uuid u => exact h.literal_append hos' hne (some (smppUuidGet u))

theorem Readable.fields_append (h : Readable os) {fields : List (Octstr × Field)} {os' : Octstr}
    (hos' : Quiet .pgsql os') (hne : os' ≠ []) :
    Readable (os' ++ (List.intercalate [sqlClauses.comma]
      (fields.map (fun p => fieldText .pgsql p.2)) ++ os)) := by
  induction fields generalizing os' with
  | nil => simpa using h.quiet_append hos'
  | cons p fields ih =>
      cases fields with
      | nil => simpa using h.field_append hos' hne p.2
      | cons q fields =>
          have hcomma : Quiet .pgsql [sqlClauses.comma] := by decide
          have hrest := ih hcomma (by simp)
          have hjoin : List.intercalate [sqlClauses.comma]
              ((p :: q :: fields).map (fun p => fieldText .pgsql p.2)) =
                fieldText .pgsql p.2 ++ [sqlClauses.comma] ++ List.intercalate [sqlClauses.comma]
                  ((q :: fields).map (fun p => fieldText .pgsql p.2)) :=
            List.intercalate_cons_of_ne_nil (by simp)
          rw [hjoin]
          simpa [List.append_assoc] using hrest.field_append hos' hne p.2

theorem addMessage_pgsql (h : c.Named) (hd : c.sqlDialect = .pgsql) (msg : Sms)
    (kind : StoreKind) : (smppDatabaseMysqlAddMessageSql c msg kind).ValidIn .pgsql := by
  have hname : Quiet .pgsql (smppDatabaseStoreTableName c.store kind) :=
    hd ▸ (tableName_storeTableName h kind).1
  have hvalues : Readable (octstrImm " ) VALUES ( " ++ (List.intercalate [sqlClauses.comma]
      ((insertedFields (smsFields (encodeMsg msg))).map (fun p => fieldText .pgsql p.2)) ++
        octstrImm ");")) :=
    (readable_of_quiet (quiet_imm (by decide))).fields_append (quiet_imm (by decide)) (by decide)
  have hopening : Quiet .pgsql (octstrImm " ( ") := quiet_imm (by decide)
  have hcolumns := (hvalues.quiet_append (quiet_names msg)).quiet_append hopening
  apply validIn_pgsql_of_free
  rw [addMessage_eq, hd]
  exact ((hcolumns.quiet_append hname).quiet_append (quiet_imm (by decide))).1

/-! ## MySQL -/

/-- The columns of the placeholders, read behind some word of the statement. -/
def Yields (os : Octstr) (names : List Octstr) : Prop := sqlClauses.Yields sqlAlphabet os names

/-- The statement starts with this text, which ends between two tokens. -/
def Opens (os : Octstr) : Prop :=
  sqlAlphabet.stateAfter .between os = .between ∧ .sign sqlClauses.mark ∉ sqlAlphabet.lex os ∧
    Clauses.Comparing ((sqlAlphabet.lex os).foldl sqlClauses.read (.comparing none none))

instance (os : Octstr) : Decidable (Opens os) :=
  inferInstanceAs (Decidable (sqlAlphabet.stateAfter .between os = .between ∧
    .sign sqlClauses.mark ∉ sqlAlphabet.lex os ∧
      Clauses.Comparing ((sqlAlphabet.lex os).foldl sqlClauses.read (.comparing none none))))

theorem opens_imm {l : List Char} (h : Opens (l.map (fun x => UInt8.ofNat x.toNat))) :
    Opens (octstrImm (String.ofList l)) := by
  rw [octstrImm_ofList]
  exact h

variable {names : List Octstr}

/-- There are as many placeholders as bound values. -/
theorem Statement.ValidIn.count_mark (h : s.ValidIn .mysql) :
    (sqlAlphabet.lex s.sql).count (.sign sqlClauses.mark) = s.binds.length := by
  calc
    (sqlAlphabet.lex s.sql).count (.sign sqlClauses.mark)
        = (sqlClauses.columns (sqlAlphabet.lex s.sql)).length := Clauses.length_columnsFrom.symm
    _ = (s.binds.map (fun b => some b.column)).length := congrArg List.length h
    _ = s.binds.length := List.length_map _

theorem validIn_mysql {p : Octstr} (hsql : s.sql = p ++ os) (hp : Opens p) (h : Yields os names)
    (hbinds : s.binds.map BoundValue.column = names) : s.ValidIn .mysql := by
  have hcolumns := Clauses.columns_of_yields h hp.1 hp.2.1 hp.2.2
  rw [← hsql, ← hbinds, List.map_map] at hcolumns
  exact hcolumns

theorem Quiet.not_mem (h : Quiet .mysql os) :
    sqlAlphabet.quote ∉ os ∧ sqlClauses.mark ∉ os :=
  ⟨fun hmem => (h _ hmem).1 rfl, fun hmem => (h _ hmem).2 (by decide)⟩

theorem yields_of_quiet (h : Quiet .mysql os) : Yields os [] :=
  Clauses.yields_of_quiet h.not_mem.1 h.not_mem.2

/-- A quiet text and a text that does not go on with its last word. -/
theorem Yields.after_quiet (h : Yields os names) (hos' : Quiet .mysql os')
    (hnext : ∀ x ∈ os.head?, sqlAlphabet.letter x = false) : Yields (os' ++ os) names :=
  Clauses.Yields.quiet_append h hos'.not_mem.1 hos'.not_mem.2 hnext

/-- The column of a comparison stands between backticks. -/
theorem yields_column {col : Octstr} (hcol : ∀ x ∈ col, sqlAlphabet.letter x = true)
    (hne : col ≠ []) (h : Yields os names) :
    Yields (octstrImm "`" ++ (col ++ (octstrImm "`" ++ (octstrImm " = ?" ++ os))))
      (col :: names) := by
  have htick : octstrImm "`" = [96] := by decide
  have hsign : sqlAlphabet.IsSign 96 := ⟨by decide, by decide, by decide⟩
  have hword : sqlAlphabet.lex (col ++ (96 :: (octstrImm " = ?" ++ os))) =
      sqlAlphabet.lex col ++ sqlAlphabet.lex (96 :: (octstrImm " = ?" ++ os)) := by
    apply Alphabet.lex_append_of_unquoted (Alphabet.quote_not_mem_of_letters hcol)
    intro x hx
    rw [← Option.mem_some_iff.mp hx]
    exact hsign.2.1
  have hequals : sqlAlphabet.lex (octstrImm " = ?" ++ os) =
      [.sign 61, .sign 63] ++ sqlAlphabet.lex os :=
    Alphabet.lex_append_of_between (by decide) os
  have htokens : sqlAlphabet.lex
      (octstrImm "`" ++ (col ++ (octstrImm "`" ++ (octstrImm " = ?" ++ os)))) =
        [.sign 96, .word col, .sign 96, .sign 61, .sign 63] ++ sqlAlphabet.lex os := by
    rw [htick, List.singleton_append, List.singleton_append, Alphabet.lex_sign hsign, hword,
      Alphabet.lex_word hcol hne, Alphabet.lex_sign hsign, hequals]
    rfl
  intro r hr
  have hcolumn : sqlClauses.columnsFrom r
      [.sign 96, .word col, .sign 96, .sign 61, .sign 63] = [some col] := by
    rcases hr with ⟨w, left, rfl⟩
    rfl
  rw [htokens, Clauses.columnsFrom_append, hcolumn]
  exact congrArg (some col :: ·) (h _ (Clauses.comparing_foldl hr))

/-- A text of the program with placeholders for these columns in it. -/
theorem Yields.after_fixed (h : Yields os names) (fixed : List Octstr) {l : List Char}
    (hcolumns : ∀ w left, sqlClauses.columnsFrom (.comparing (some w) left)
      (sqlAlphabet.lex (l.map (fun x => UInt8.ofNat x.toNat))) = fixed.map some)
    (hbetween : sqlAlphabet.stateAfter .between (l.map (fun x => UInt8.ofNat x.toNat)) =
      .between) : Yields (octstrImm (String.ofList l) ++ os) (fixed ++ names) := by
  rw [octstrImm_ofList]
  refine Clauses.Yields.append h ?_ hbetween
  rintro r ⟨w, left, rfl⟩
  exact hcolumns w left

/-! ## MySQL, query by query -/

theorem letters_systemId :
    (∀ x ∈ octstrImm "system_id", sqlAlphabet.letter x = true) ∧ octstrImm "system_id" ≠ [] :=
  ⟨List.all_eq_true.mp (by decide), by decide⟩

theorem letters_service :
    (∀ x ∈ octstrImm "service", sqlAlphabet.letter x = true) ∧ octstrImm "service" ≠ [] :=
  ⟨List.all_eq_true.mp (by decide), by decide⟩

theorem head_of_eq {x : UInt8} (hos : os.head? = some x) (hx : sqlAlphabet.letter x = false) :
    ∀ y ∈ os.head?, sqlAlphabet.letter y = false := by
  intro y hy
  rw [hos] at hy
  rw [← Option.mem_some_iff.mp hy]
  exact hx

theorem head_tick (os : Octstr) :
    ∀ x ∈ (octstrImm "`" ++ os).head?, sqlAlphabet.letter x = false :=
  head_of_eq rfl (by decide)

theorem getStoredPdu_mysql (h : c.Named) (hd : c.sqlDialect = .mysql) (service : Option Octstr)
    (pending : List Nat) (limit : Int) :
    (smppDatabaseMysqlGetStoredPduSql c service pending limit).ValidIn .mysql := by
  have hname : Quiet .mysql c.databasePduTable := hd ▸ h.pduTable.1
  have hwhere : Quiet .mysql (c.databasePduTable ++ octstrImm " WHERE ") :=
    quiet_append.mpr ⟨hname, quiet_imm (by decide)⟩
  have htail : Quiet .mysql (octstrImm " " ++ pendingClause pending ++
      (octstrImm " LIMIT " ++ octstrFormatLong limit ++ octstrImm " ")) :=
    quiet_append.mpr ⟨quiet_append.mpr ⟨quiet_imm (by decide), quiet_pendingClause pending⟩,
      quiet_append.mpr ⟨quiet_append.mpr ⟨quiet_imm (by decide), quiet_octstrFormatLong limit⟩,
        quiet_imm (by decide)⟩⟩
  have hcolumn := yields_column letters_systemId.1 letters_systemId.2 (yields_of_quiet htail)
  refine validIn_mysql (p := octstrImm "SELECT global_id, time, system_id, pdu FROM ") ?_
    (opens_imm (by decide)) (hcolumn.after_quiet hwhere (head_tick _)) ?_
  · simp [smppDatabaseMysqlGetStoredPduSql, hd]
  · simp [smppDatabaseMysqlGetStoredPduSql, hd]

theorem opens_storedColumns : Opens storedColumns := by decide +kernel

theorem getStored_mysql (h : c.Named) (hd : c.sqlDialect = .mysql) (smsType : Int)
    (service : Option Octstr) (kind : StoreKind) (pending : List Nat) :
    (smppDatabaseMysqlGetStoredSql c smsType service kind pending).ValidIn .mysql := by
  have hname : Quiet .mysql (getStoredTable c.store smsType kind) :=
    hd ▸ (tableName_getStoredTable h smsType kind).1
  have huser : Quiet .mysql (c.store.databaseUserTable.getD []) := hd ▸ (tableName_userTable h).1
  have htail : Quiet .mysql (pendingClause pending ++
      (octstrImm " LIMIT " ++ octstrFormatLong smppDatabaseBatchLimit)) :=
    quiet_append.mpr ⟨quiet_pendingClause pending,
      quiet_append.mpr ⟨quiet_imm (by decide), quiet_octstrFormatLong _⟩⟩
  by_cases hdrain : kind = .bearerboxMtDrain ∧ smsType = smsTypeMtPush ∧ octstrLen service = 0 ∧
      octstrLen c.store.databaseUserTable ≠ 0
  · have hjoin : Quiet .mysql (octstrImm " FROM " ++ getStoredTable c.store smsType kind ++
        octstrImm " AS s LEFT JOIN " ++ c.store.databaseUserTable.getD [] ++
        octstrImm " AS u ON LOWER(u.`system_id`) = LOWER(s.`service`) WHERE s.`sms_type` = " ++
        octstrFormatLong smsType ++ octstrImm " AND COALESCE(u.`database_store_primary`, " ++
        octstrFormatLong (if c.store.databaseStorePrimary then 1 else 0) ++
        octstrImm ") = 0 ") := by
      refine quiet_append.mpr ⟨quiet_append.mpr ⟨quiet_append.mpr ⟨quiet_append.mpr
        ⟨quiet_append.mpr ⟨quiet_append.mpr ⟨quiet_append.mpr ⟨quiet_append.mpr
          ⟨?_, hname⟩, ?_⟩, huser⟩, ?_⟩, quiet_octstrFormatLong smsType⟩, ?_⟩,
            quiet_octstrFormatLong _⟩, ?_⟩
      all_goals exact quiet_imm (by decide)
    refine validIn_mysql (p := storedColumns) ?_ opens_storedColumns
      (yields_of_quiet (quiet_append.mpr ⟨hjoin, htail⟩)) ?_
    · simp [smppDatabaseMysqlGetStoredSql, if_pos hdrain]
    · simp [smppDatabaseMysqlGetStoredSql, if_pos hdrain]
  · have hwhere : Quiet .mysql (octstrImm " FROM " ++ getStoredTable c.store smsType kind ++
        octstrImm " WHERE sms_type = " ++ octstrFormatLong smsType ++ octstrImm " ") :=
      quiet_append.mpr ⟨quiet_append.mpr ⟨quiet_append.mpr ⟨quiet_append.mpr
        ⟨quiet_imm (by decide), hname⟩, quiet_imm (by decide)⟩, quiet_octstrFormatLong smsType⟩,
          quiet_imm (by decide)⟩
    by_cases hservice : octstrLen service = 0
    · refine validIn_mysql (p := storedColumns) ?_ opens_storedColumns
        (yields_of_quiet (quiet_append.mpr ⟨hwhere, htail⟩)) ?_
      · simp only [smppDatabaseMysqlGetStoredSql, if_neg hdrain]
        simp [hservice]
      · simp only [smppDatabaseMysqlGetStoredSql, if_neg hdrain]
        simp [hservice]
    · have hand : Quiet .mysql (octstrImm " AND ") := quiet_imm (by decide)
      have hcolumn := yields_column letters_service.1 letters_service.2 (yields_of_quiet htail)
      refine validIn_mysql (p := storedColumns) ?_ opens_storedColumns
        (hcolumn.after_quiet (quiet_append.mpr ⟨hwhere, hand⟩) (head_tick _)) ?_
      · simp only [smppDatabaseMysqlGetStoredSql, if_neg hdrain]
        simp [hservice, hd]
      · simp only [smppDatabaseMysqlGetStoredSql, if_neg hdrain]
        simp [hservice, hd]

theorem getDlrs_mysql (h : c.Named) (hd : c.sqlDialect = .mysql) (service : Option Octstr)
    (limit : Int) : (smppDatabaseMysqlGetDlrsSql c service limit).ValidIn .mysql := by
  have hname : Quiet .mysql c.databaseDlrTable := hd ▸ h.dlrTable.1
  have htable : Quiet .mysql
      (octstrImm "submit_date, done_date, destination_addr, source_addr, smsc_id, text FROM " ++
        c.databaseDlrTable) := quiet_append.mpr ⟨quiet_imm (by decide), hname⟩
  have hcolumn : ∀ n, Yields (octstrImm "service = ? AND processed = 0 LIMIT " ++
      octstrFormatLong n) [octstrImm "service"] := fun n =>
    (yields_of_quiet (quiet_octstrFormatLong n)).after_fixed [octstrImm "service"]
      (fun _ _ => rfl) rfl
  have hwhere : ∀ n, Yields (octstrImm " WHERE " ++
      (octstrImm "service = ? AND processed = 0 LIMIT " ++ octstrFormatLong n))
        [octstrImm "service"] := fun n => (hcolumn n).after_fixed [] (fun _ _ => rfl) rfl
  have hopens : Opens (octstrImm "SELECT global_id, message_id, service, status, err_code, ") :=
    opens_imm (by decide)
  refine validIn_mysql ?_ hopens ((hwhere (if limit = 0 then (smppDatabaseBatchLimit : Int)
    else limit)).after_quiet htable (head_of_eq rfl (by decide))) ?_
  · simp [smppDatabaseMysqlGetDlrsSql, hd]
  · simp [smppDatabaseMysqlGetDlrsSql, hd]

theorem getRoutes_mysql (h : c.Named) (hd : c.sqlDialect = .mysql) (direction : Int)
    (service : Option Octstr) :
    (smppDatabaseMysqlGetRoutesSql c direction service).ValidIn .mysql := by
  have hname : Quiet .mysql c.databaseRouteTable := hd ▸ h.routeTable.1
  have hwhere : Quiet .mysql (c.databaseRouteTable ++ octstrImm " WHERE direction = " ++
      octstrFormatLong direction ++ octstrImm " ") :=
    quiet_append.mpr ⟨quiet_append.mpr ⟨quiet_append.mpr ⟨hname, quiet_imm (by decide)⟩,
      quiet_octstrFormatLong direction⟩, quiet_imm (by decide)⟩
  have htail : Quiet .mysql (octstrImm " ORDER BY priority DESC") := quiet_imm (by decide)
  have hopens : Opens (octstrImm "SELECT regex, cost, system_id, smsc_id, source_regex FROM ") :=
    opens_imm (by decide)
  by_cases hservice : octstrLen service = 0
  · refine validIn_mysql ?_ hopens (yields_of_quiet (quiet_append.mpr ⟨hwhere, htail⟩)) ?_
    · simp [smppDatabaseMysqlGetRoutesSql, hservice]
    · simp [smppDatabaseMysqlGetRoutesSql, hservice]
  · have hand : Quiet .mysql (octstrImm " AND ") := quiet_imm (by decide)
    have hcolumn := yields_column letters_systemId.1 letters_systemId.2 (yields_of_quiet htail)
    refine validIn_mysql ?_ hopens
      (hcolumn.after_quiet (quiet_append.mpr ⟨hwhere, hand⟩) (head_tick _)) ?_
    · simp [smppDatabaseMysqlGetRoutesSql, hservice, hd]
    · simp [smppDatabaseMysqlGetRoutesSql, hservice, hd]

theorem deductCreditSelect_mysql (h : c.Named) (hd : c.sqlDialect = .mysql)
    (service : Option Octstr) : (deductCreditSelectSql c service).ValidIn .mysql := by
  have hname : Quiet .mysql (c.store.databaseUserTable.getD []) := hd ▸ (tableName_userTable h).1
  have hwhere : Quiet .mysql (c.store.databaseUserTable.getD [] ++ octstrImm " WHERE ") :=
    quiet_append.mpr ⟨hname, quiet_imm (by decide)⟩
  have htail : Quiet .mysql (octstrImm " LIMIT 1") := quiet_imm (by decide)
  have hcolumn := yields_column letters_systemId.1 letters_systemId.2 (yields_of_quiet htail)
  have hopens : Opens (octstrImm "SELECT credit FROM ") := opens_imm (by decide)
  refine validIn_mysql ?_ hopens (hcolumn.after_quiet hwhere (head_tick _)) ?_
  · simp [deductCreditSelectSql, hd]
  · simp [deductCreditSelectSql, hd]

theorem deductCreditUpdate_mysql (h : c.Named) (hd : c.sqlDialect = .mysql)
    (service : Option Octstr) (cost : Rat) :
    (deductCreditUpdateSql c service cost).ValidIn .mysql := by
  have hname : Quiet .mysql (c.store.databaseUserTable.getD []) := hd ▸ (tableName_userTable h).1
  have hnil : Quiet .mysql [] := by decide
  have hcolumns : Yields (octstrImm " SET `credit` = `credit` - ? WHERE `system_id` = ?" ++ [])
      [octstrImm "credit", octstrImm "system_id"] :=
    (yields_of_quiet hnil).after_fixed [octstrImm "credit", octstrImm "system_id"]
      (fun _ _ => rfl) rfl
  have hopens : Opens (octstrImm "UPDATE ") := opens_imm (by decide)
  refine validIn_mysql ?_ hopens (hcolumns.after_quiet hname (head_of_eq rfl (by decide))) ?_
  · simp [deductCreditUpdateSql, hd]
  · simp [deductCreditUpdateSql, hd]

theorem authenticate_mysql (h : c.Named) (hd : c.sqlDialect = .mysql)
    (username password : Option Octstr) :
    (smppDatabaseMysqlAuthenticateSql c username password).ValidIn .mysql := by
  have hname : Quiet .mysql (c.store.databaseUserTable.getD []) := hd ▸ (tableName_userTable h).1
  have hwhere : Quiet .mysql
      (octstrImm "simulate_dlr_fail, simulate_deliver_every, simulate_permanent_failure_every, " ++
        octstrImm "simulate_temporary_failure_every, simulate_mo_every, default_cost, max_binds, " ++
        octstrImm "enable_prepaid_billing, connect_allow_ip, database_store_primary  FROM " ++
          c.store.databaseUserTable.getD [] ++ octstrImm " WHERE ") :=
    quiet_append.mpr ⟨quiet_append.mpr ⟨quiet_append.mpr ⟨quiet_append.mpr
      ⟨quiet_imm (by decide), quiet_imm (by decide)⟩, quiet_imm (by decide)⟩, hname⟩,
        quiet_imm (by decide)⟩
  have htail : Quiet .mysql (octstrImm " LIMIT 1") := quiet_imm (by decide)
  have hpassword : Yields (octstrImm " AND `password` = SHA2(?, 256)" ++ octstrImm " LIMIT 1")
      [octstrImm "password"] :=
    (yields_of_quiet htail).after_fixed [octstrImm "password"] (fun _ _ => rfl) rfl
  have hcolumns := yields_column letters_systemId.1 letters_systemId.2 hpassword
  have hopens : Opens (octstrImm "SELECT throughput, default_smsc, callback_url, simulate, ") :=
    opens_imm (by decide)
  refine validIn_mysql ?_ hopens (hcolumns.after_quiet hwhere (head_tick _)) ?_
  · simp [smppDatabaseMysqlAuthenticateSql, smppDbSqlAppendPasswordCheck, hd]
  · simp [smppDatabaseMysqlAuthenticateSql, smppDbSqlAppendPasswordCheck, hd]

/-! ## Insertions into MySQL -/

/-- What comes before the names of the columns. -/
theorem columns_insert {name : Octstr} (hname : TableName .mysql name)
    (hnext : ∀ x ∈ os.head?, sqlAlphabet.letter x = false) :
    sqlClauses.columns (sqlAlphabet.lex (octstrImm "INSERT INTO " ++ (name ++ os))) =
      sqlClauses.columnsFrom .inserting (sqlAlphabet.lex os) := by
  have hquote := hname.1.not_mem.1
  have hinto : sqlAlphabet.lex (octstrImm "INSERT INTO ") =
      [.word (octstrImm "INSERT"), .word (octstrImm "INTO")] := by decide
  have hmark := Clauses.sign_not_mem_lex hquote hname.1.not_mem.2
  rw [Alphabet.lex_append_of_between (by decide), Alphabet.lex_append_of_unquoted hquote hnext,
    hinto, Clauses.columns, Clauses.columnsFrom_append, Clauses.columnsFrom_append]
  have hinserting : [Token.word (octstrImm "INSERT"), .word (octstrImm "INTO")].foldl
      sqlClauses.read (.comparing none none) = .inserting := by decide
  rw [hinserting, Clauses.columnsFrom_of_not_mem hmark, Clauses.foldl_inserting hquote hname.2]
  rfl

theorem addPdu_mysql (h : c.Named) (hd : c.sqlDialect = .mysql) (systemId : Option Octstr)
    (timeSent : Int) (packed : Octstr) :
    (smppDatabaseMysqlAddPduSql c systemId timeSent packed).ValidIn .mysql := by
  have hname : TableName .mysql c.databasePduTable := hd ▸ h.pduTable
  have hnext : ∀ x ∈ (octstrImm " ( `system_id`, `time`, `pdu` ) VALUES ( ?, ?, ?);").head?,
      sqlAlphabet.letter x = false := head_of_eq rfl (by decide)
  have hcolumns : sqlClauses.columnsFrom .inserting (sqlAlphabet.lex
      (octstrImm " ( `system_id`, `time`, `pdu` ) VALUES ( ?, ?, ?);")) =
        [some (octstrImm "system_id"), some (octstrImm "time"), some (octstrImm "pdu")] := by
    decide +kernel
  have hinsert := (columns_insert hname hnext).trans hcolumns
  simpa [Statement.ValidIn, smppDatabaseMysqlAddPduSql, hd] using hinsert

theorem isSign_comma : sqlAlphabet.IsSign sqlClauses.comma := ⟨by decide, by decide, by decide⟩

theorem lex_names {fields : List (Octstr × Field)}
    (hfields : ∀ p ∈ fields, (∀ x ∈ p.1, sqlAlphabet.letter x = true) ∧ p.1 ≠ []) :
    sqlAlphabet.lex (List.intercalate [sqlClauses.comma] (fields.map Prod.fst)) =
      sqlClauses.namesOf (fields.map Prod.fst) := by
  have hwords : ∀ w ∈ fields.map Prod.fst, (∀ x ∈ w, sqlAlphabet.letter x = true) ∧ w ≠ [] := by
    intro w hw
    rcases List.mem_map.mp hw with ⟨p, hp, rfl⟩
    exact hfields p hp
  rw [Alphabet.lex_intercalate isSign_comma
    (fun w hw => Alphabet.quote_not_mem_of_letters (hwords w hw).1)]
  exact congrArg _ (List.map_congr_left
    (fun w hw => Alphabet.lex_word (hwords w hw).1 (hwords w hw).2))

theorem lex_marks (fields : List (Octstr × Field)) :
    sqlAlphabet.lex (List.intercalate [sqlClauses.comma]
      (fields.map (fun p => fieldText .mysql p.2))) =
        sqlClauses.marksOf (fields.map Prod.fst) := by
  have hmark : sqlAlphabet.lex (octstrImm "?") = [.sign sqlClauses.mark] := by decide
  have hquote : ∀ w ∈ fields.map (fun p => fieldText .mysql p.2), sqlAlphabet.quote ∉ w := by
    intro w hw
    rcases List.mem_map.mp hw with ⟨p, -, rfl⟩
    change sqlAlphabet.quote ∉ octstrImm "?"
    decide
  rw [Alphabet.lex_intercalate isSign_comma hquote, Clauses.marksOf, List.map_map, List.map_map]
  exact congrArg _ (List.map_congr_left (fun _ _ => hmark))

theorem quote_not_mem_intercalate {ws : List Octstr} (h : ∀ w ∈ ws, sqlAlphabet.quote ∉ w) :
    sqlAlphabet.quote ∉ List.intercalate [sqlClauses.comma] ws := by
  have hcomma : sqlClauses.comma ≠ sqlAlphabet.quote := by decide
  have hne := forall_mem_intercalate (fun x => x ≠ sqlAlphabet.quote) hcomma
    (fun w hw x hx heq => h w hw (heq ▸ hx))
  exact fun hmem => hne _ hmem rfl

/-- The tokens of an insertion behind the name of the table. -/
theorem columns_addMessage {fields : List (Octstr × Field)}
    (hfields : ∀ p ∈ fields, (∀ x ∈ p.1, sqlAlphabet.letter x = true) ∧ p.1 ≠ []) :
    sqlClauses.columnsFrom .inserting (sqlAlphabet.lex (octstrImm " ( " ++
      (List.intercalate [sqlClauses.comma] (fields.map Prod.fst) ++ (octstrImm " ) VALUES ( " ++
        (List.intercalate [sqlClauses.comma] (fields.map (fun p => fieldText .mysql p.2)) ++
          octstrImm ");"))))) = (fields.map Prod.fst).map some := by
  have hnames : sqlAlphabet.quote ∉ List.intercalate [sqlClauses.comma] (fields.map Prod.fst) := by
    apply quote_not_mem_intercalate
    intro w hw
    rcases List.mem_map.mp hw with ⟨p, hp, rfl⟩
    exact Alphabet.quote_not_mem_of_letters (hfields p hp).1
  have hmarks : sqlAlphabet.quote ∉ List.intercalate [sqlClauses.comma]
      (fields.map (fun p => fieldText .mysql p.2)) := by
    apply quote_not_mem_intercalate
    intro w hw
    rcases List.mem_map.mp hw with ⟨p, -, rfl⟩
    change sqlAlphabet.quote ∉ octstrImm "?"
    decide
  have hopening : sqlAlphabet.lex (octstrImm " ( ") = [.sign sqlClauses.opening] := by decide
  have hbetween : sqlAlphabet.lex (octstrImm " ) VALUES ( ") =
      [.sign sqlClauses.closing, .word (octstrImm "VALUES"), .sign sqlClauses.opening] := by decide
  have hlast : .sign sqlClauses.mark ∉ sqlAlphabet.lex (octstrImm ");") := by decide
  rw [Alphabet.lex_append_of_between (by decide), Alphabet.lex_append_of_unquoted hnames,
    Alphabet.lex_append_of_between (by decide),
    Alphabet.lex_append_of_unquoted hmarks (head_of_eq rfl (by decide)), hopening, hbetween,
    lex_names hfields, lex_marks]
  · exact Clauses.columnsFrom_insertion _ _ hlast
  · exact head_of_eq rfl (by decide)

theorem addMessage_mysql (h : c.Named) (hd : c.sqlDialect = .mysql) (msg : Sms)
    (kind : StoreKind) : (smppDatabaseMysqlAddMessageSql c msg kind).ValidIn .mysql := by
  have hname : TableName .mysql (smppDatabaseStoreTableName c.store kind) :=
    hd ▸ tableName_storeTableName h kind
  have hfields : ∀ p ∈ insertedFields (smsFields (encodeMsg msg)),
      (∀ x ∈ p.1, sqlAlphabet.letter x = true) ∧ p.1 ≠ [] :=
    fun p hp => smsColumns_letters p.1 (mem_smsColumns hp)
  rw [addMessage_eq, hd, Statement.ValidIn, columns_insert hname, columns_addMessage hfields]
  · simp [boundValues, Function.comp_def]
  · exact head_of_eq rfl (by decide)

/-- The values that are bound are those of the row. -/
theorem binds_addMessage (hd : c.sqlDialect = .mysql) (msg : Sms) (kind : StoreKind) :
    (smppDatabaseMysqlAddMessageSql c msg kind).binds =
      (insertBinds msg).map (fun b => { column := b.1, value := some b.2 }) := by
  rw [addMessage_eq, hd, insertBinds]
  change (insertedFields (smsFields (encodeMsg msg))).map _ = _
  induction smsFields (encodeMsg msg) with
  | nil => rfl
  | cons p fields ih =>
      cases hvalue : fieldValue p.2 with
      | none => simpa [insertedFields, hvalue] using ih
      | some v => simpa [insertedFields, hvalue] using ih

/-! ## All queries -/

/-- The query whose columns are always between backticks. -/
def SqlQuery.IsGetStored : SqlQuery → Prop
  | .getStored _ _ _ _ => True
  | _ => False

theorem storedColumns_isPrefix (c : SqlSettings) (smsType : Int) (service : Option Octstr)
    (kind : StoreKind) (pending : List Nat) :
    storedColumns <+: (smppDatabaseMysqlGetStoredSql c smsType service kind pending).sql := by
  unfold smppDatabaseMysqlGetStoredSql
  cases c.sqlDialect <;> dsimp only <;> split_ifs <;> simp

/-- The columns bypass `smpp_db_sql_append_column`. -/
theorem getStored_pgsql (c : SqlSettings) (smsType : Int) (service : Option Octstr)
    (kind : StoreKind) (pending : List Nat) :
    ¬ (smppDatabaseMysqlGetStoredSql c smsType service kind pending).ValidIn .pgsql := by
  intro hvalid
  rcases storedColumns_isPrefix c smsType service kind pending with ⟨os, hsql⟩
  have htick : .sign 96 ∈ sqlAlphabet.lex storedColumns := by decide +kernel
  refine (hvalid (.sign 96) ?_).1 rfl
  rw [← hsql, Alphabet.lex_append_of_between opens_storedColumns.1]
  exact List.mem_append_left _ htick

theorem query_mysql (h : c.Named) (hd : c.sqlDialect = .mysql) (q : SqlQuery) : q.ValidIn c := by
  intro s hs
  rw [hd]
  cases q with
  | getStoredPdu service pending limit =>
      rw [List.mem_singleton.mp hs]
      exact getStoredPdu_mysql h hd service pending limit
  | getStored smsType service kind pending =>
      rw [List.mem_singleton.mp hs]
      exact getStored_mysql h hd smsType service kind pending
  | getDlrs service limit =>
      simp only [SqlQuery.statements] at hs
      split_ifs at hs
      · cases hs
      · rw [List.mem_singleton.mp hs]
        exact getDlrs_mysql h hd service limit
  | getRoutes direction service =>
      rw [List.mem_singleton.mp hs]
      exact getRoutes_mysql h hd direction service
  | addMessage msg kind =>
      rw [List.mem_singleton.mp hs]
      exact addMessage_mysql h hd msg kind
  | addPdu systemId timeSent packed =>
      rw [List.mem_singleton.mp hs]
      exact addPdu_mysql h hd systemId timeSent packed
  | deductCredit service cost =>
      rcases List.mem_cons.mp hs with rfl | hs
      · exact deductCreditSelect_mysql h hd service
      · split_ifs at hs
        · rw [List.mem_singleton.mp hs]
          exact deductCreditUpdate_mysql h hd service cost
        · cases hs
  | authenticate username password =>
      rw [List.mem_singleton.mp hs]
      exact authenticate_mysql h hd username password

theorem query_pgsql (h : c.Named) (hd : c.sqlDialect = .pgsql) (q : SqlQuery)
    (hq : ¬ q.IsGetStored) : q.ValidIn c := by
  intro s hs
  rw [hd]
  cases q with
  | getStoredPdu service pending limit =>
      rw [List.mem_singleton.mp hs]
      exact getStoredPdu_pgsql h hd service pending limit
  | getStored smsType service kind pending => exact absurd trivial hq
  | getDlrs service limit =>
      simp only [SqlQuery.statements] at hs
      split_ifs at hs
      · cases hs
      · rw [List.mem_singleton.mp hs]
        exact getDlrs_pgsql h hd service limit
  | getRoutes direction service =>
      rw [List.mem_singleton.mp hs]
      exact getRoutes_pgsql h hd direction service
  | addMessage msg kind =>
      rw [List.mem_singleton.mp hs]
      exact addMessage_pgsql h hd msg kind
  | addPdu systemId timeSent packed =>
      rw [List.mem_singleton.mp hs]
      exact addPdu_pgsql h hd systemId timeSent packed
  | deductCredit service cost =>
      rcases List.mem_cons.mp hs with rfl | hs
      · exact deductCreditSelect_pgsql h hd service
      · split_ifs at hs
        · rw [List.mem_singleton.mp hs]
          exact deductCreditUpdate_pgsql h hd service cost
        · cases hs
  | authenticate username password =>
      rw [List.mem_singleton.mp hs]
      exact authenticate_pgsql h hd username password

/-- The statements of a query suit the database exactly if it is MySQL or the query is another than
the one for stored messages. -/
theorem statements_suit_database_iff (h : c.Named) (q : SqlQuery) :
    q.ValidIn c ↔ c.sqlDialect = .mysql ∨ ¬ q.IsGetStored := by
  constructor
  · intro hvalid
    by_contra hnone
    rcases not_or.mp hnone with ⟨hmysql, hstored⟩
    have hd : c.sqlDialect = .pgsql := by
      cases hd : c.sqlDialect with
      | mysql => exact absurd hd hmysql
      | pgsql => rfl
    cases q with
    | getStored smsType service kind pending =>
        have hsent := hvalid _ List.mem_cons_self
        rw [hd] at hsent
        exact getStored_pgsql c smsType service kind pending hsent
    | _ => exact hstored id
  · rintro (hd | hq)
    · exact query_mysql h hd q
    · cases hd : c.sqlDialect with
      | mysql => exact query_mysql h hd q
      | pgsql => exact query_pgsql h hd q hq

/-! ## Samples -/

/-- The default tables. -/
def sampleSql (d : SqlDialect) : SqlSettings where
  sqlDialect := d
  store :=
    { databaseStorePrimary := true
      databaseEnableQueue := true
      databaseStoreTable := octstrImm "smpp_store"
      databaseQueueStoreTable := none
      databaseUserTable := some (octstrImm "smpp_user")
      accountStorePrimary := fun _ => none
      sameService := fun service service' => decide (service = service') }
  databasePduTable := octstrImm "smpp_queued_pdu"
  databaseRouteTable := octstrImm "smpp_route"
  databaseDlrTable := octstrImm "smpp_dlr"

theorem sampleSql_named (d : SqlDialect) : (sampleSql d).Named where
  storeTable := by cases d <;> decide
  queueStoreTable := fun _ hos => nomatch hos
  userTable := by
    intro os hos
    rw [← Option.mem_some_iff.mp hos]
    cases d <;> decide
  pduTable := by cases d <;> decide
  routeTable := by cases d <;> decide
  dlrTable := by cases d <;> decide

/-- A password with a quote and a question mark. -/
theorem statements_suit_database_sample : SqlQuery.ValidIn (sampleSql .pgsql)
    (.authenticate (some (octstrImm "esme")) (some (octstrImm "it's `me`?"))) :=
  (statements_suit_database_iff (sampleSql_named .pgsql) _).mpr (Or.inr id)

/-- PostgreSQL gets the names of the columns between backticks. -/
theorem stored_messages_not_selected : (sampleSql .pgsql).Named ∧
    ¬ SqlQuery.ValidIn (sampleSql .pgsql)
      (.getStored smsTypeMo (some (octstrImm "esme")) .primary []) := by
  refine ⟨sampleSql_named .pgsql, ?_⟩
  intro hvalid
  exact getStored_pgsql (sampleSql .pgsql) smsTypeMo (some (octstrImm "esme")) .primary []
    (hvalid _ List.mem_cons_self)

end Database
end Ksmppd
