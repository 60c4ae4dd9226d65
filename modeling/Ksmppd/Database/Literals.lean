import Ksmppd.Database.Placeholders

/-!
# Literals — values from outside in statements for PostgreSQL

PostgreSQL gets system ids and passwords in the text itself.  Whatever they hold, each is one literal,
and what stands around it is read as it would be with any other value.
-/

namespace Ksmppd
namespace Database

open Lib

/-- A step in putting a statement together: a text of the program, or a helper with a value. -/
inductive SqlCall
  | append (os : Octstr)
  | whereEq (col val : Octstr)
  | insertValue (column val : Octstr)
  | passwordCheck (password : Octstr)
  deriving DecidableEq, Repr

def SqlCall.run (sql : Statement) : SqlCall → Statement
  | .append os => sql.append os
  | .whereEq col val => smppDbSqlAppendWhereEq .pgsql sql col (some val)
  | .insertValue column val => smppDbSqlAppendInsertValue .pgsql sql column (some val)
  | .passwordCheck password => smppDbSqlAppendPasswordCheck .pgsql sql (some password)

def builtBy (calls : List SqlCall) : Statement := calls.foldl SqlCall.run (octstrFormat [])

/-- The same call with another value. -/
inductive SqlCall.SameBut : SqlCall → SqlCall → Prop
  | append (os : Octstr) : SameBut (.append os) (.append os)
  | whereEq (col val val' : Octstr) : SameBut (.whereEq col val) (.whereEq col val')
  | insertValue (column val val' : Octstr) :
      SameBut (.insertValue column val) (.insertValue column val')
  | passwordCheck (password password' : Octstr) :
      SameBut (.passwordCheck password) (.passwordCheck password')

/-- What the call appends. -/
def SqlCall.pieces : SqlCall → List (Piece UInt8)
  | .append os => [.fixed os]
  | .whereEq col val => [.fixed (col ++ octstrImm " = "), .value val]
  | .insertValue _ val => [.value val, .fixed (octstrImm ",")]
  | .passwordCheck password =>
      [.fixed (octstrImm " AND password = encode(digest("), .value password,
        .fixed (octstrImm ", "), .value (octstrImm "sha256"),
        .fixed (octstrImm "), "), .value (octstrImm "hex"), .fixed (octstrImm ")")]

/-- The texts and names have no quotes, and a text other than a literal comes next to each literal. -/
def WellPlaced (calls : List SqlCall) : Prop := sqlAlphabet.Apart (calls.flatMap SqlCall.pieces)

/-- Nothing or a text that is not empty comes next. -/
def StartsFixed (calls : List SqlCall) : Prop :=
  calls.flatMap SqlCall.pieces = [] ∨
    ∃ x os ps, calls.flatMap SqlCall.pieces = .fixed (x :: os) :: ps

variable {calls calls' : List SqlCall} {c : SqlSettings}

/-! ## Calls put together -/

theorem Quiet.quote_not_mem {os : Octstr} (h : Quiet .pgsql os) : sqlAlphabet.quote ∉ os :=
  fun hmem => (h sqlAlphabet.quote hmem).1 rfl

theorem wellPlaced_append {os : Octstr} (hos : Quiet .pgsql os) (h : WellPlaced calls) :
    WellPlaced (.append os :: calls) := ⟨hos.quote_not_mem, h⟩

theorem wellPlaced_whereEq {col : Octstr} (hcol : Quiet .pgsql col) (val : Octstr)
    (hstart : StartsFixed calls) (h : WellPlaced calls) :
    WellPlaced (.whereEq col val :: calls) := by
  have hequals : Quiet .pgsql (octstrImm " = ") := quiet_imm (by decide)
  exact ⟨(quiet_append.mpr ⟨hcol, hequals⟩).quote_not_mem, hstart, h⟩

theorem wellPlaced_insertValue (column val : Octstr) (h : WellPlaced calls) :
    WellPlaced (.insertValue column val :: calls) := by
  have hcomma : octstrImm "," = [44] := by decide
  refine ⟨Or.inr ⟨44, [], _, congrArg (Piece.fixed · :: _) hcomma⟩, ?_, h⟩
  rw [hcomma]
  decide

theorem wellPlaced_passwordCheck (password : Octstr) (h : WellPlaced calls) :
    WellPlaced (.passwordCheck password :: calls) := by
  have hcheck : Quiet .pgsql (octstrImm " AND password = encode(digest(") := quiet_imm (by decide)
  have hcomma : octstrImm ", " = [44, 32] := by decide
  have hbetween : octstrImm "), " = [41, 44, 32] := by decide
  have hlast : octstrImm ")" = [41] := by decide
  change sqlAlphabet.Apart (.fixed _ :: .value _ :: .fixed (octstrImm ", ") :: .value _ ::
    .fixed (octstrImm "), ") :: .value _ :: .fixed (octstrImm ")") :: _)
  rw [hcomma, hbetween, hlast]
  -- a literal ends at its quote because no fixed text after one starts with a quote
  exact ⟨hcheck.quote_not_mem, Or.inr ⟨44, [32], _, rfl⟩, by decide,
    Or.inr ⟨41, [44, 32], _, rfl⟩, by decide, Or.inr ⟨41, [], _, rfl⟩, by decide, h⟩

theorem sql_run (sql : Statement) (call : SqlCall) :
    (call.run sql).sql = sql.sql ++ sqlAlphabet.render call.pieces := by
  cases call with
  | append os => simp [SqlCall.run, SqlCall.pieces, Alphabet.render]
  | whereEq col val =>
      simp [SqlCall.run, SqlCall.pieces, Alphabet.render, smppDbSqlStringLiteral_some]
  | insertValue column val =>
      simp [SqlCall.run, SqlCall.pieces, Alphabet.render, smppDbSqlAppendInsertValue,
        smppDbSqlStringLiteral_some]
  | passwordCheck password =>
      -- the two words of the digest are quoted by the source itself and count as values
      have hdigest : octstrImm ", 'sha256'), 'hex')" = octstrImm ", " ++
          (sqlAlphabet.quoted (octstrImm "sha256") ++ (octstrImm "), " ++
            (sqlAlphabet.quoted (octstrImm "hex") ++ octstrImm ")"))) := by decide
      simp [SqlCall.run, SqlCall.pieces, Alphabet.render, smppDbSqlAppendPasswordCheck, hdigest,
        smppDbSqlStringLiteral_some]

theorem sql_foldl_run (sql : Statement) (calls : List SqlCall) :
    (calls.foldl SqlCall.run sql).sql =
      sql.sql ++ sqlAlphabet.render (calls.flatMap SqlCall.pieces) := by
  induction calls generalizing sql with
  | nil => simp [Alphabet.render]
  | cons call calls ih =>
      rw [List.foldl_cons, ih, sql_run, List.flatMap_cons, Alphabet.render_append, List.append_assoc]

theorem sql_builtBy (calls : List SqlCall) :
    (builtBy calls).sql = sqlAlphabet.render (calls.flatMap SqlCall.pieces) :=
  sql_foldl_run (octstrFormat []) calls

theorem sameFixed_pieces {call call' : SqlCall} (h : call.SameBut call') :
    SameFixed call.pieces call'.pieces := by
  cases h with
  | append os => exact .fixed .nil
  | whereEq col val val' => exact .fixed (.value .nil)
  | insertValue column val val' => exact .value (.fixed .nil)
  | passwordCheck password password' =>
      exact .fixed (.value (.fixed (.value (.fixed (.value (.fixed .nil))))))

theorem sameFixed_flatMap (h : List.Forall₂ SqlCall.SameBut calls calls') :
    SameFixed (calls.flatMap SqlCall.pieces) (calls'.flatMap SqlCall.pieces) := by
  induction h with
  | nil => exact .nil
  | cons hcall _ ih => exact (sameFixed_pieces hcall).append ih

/-- The tokens are the same but for the values of literals. -/
theorem shape_builtBy (h : List.Forall₂ SqlCall.SameBut calls calls') (hplaced : WellPlaced calls) :
    (sqlAlphabet.lex (builtBy calls).sql).map Token.shape =
      (sqlAlphabet.lex (builtBy calls').sql).map Token.shape := by
  rw [sql_builtBy, sql_builtBy]
  exact Alphabet.shape_lexFrom_render (sameFixed_flatMap h) hplaced unquoted_between

/-! ## What a client logs in with -/

/-- How `smpp_database_mysql_authenticate` puts its query together. -/
def authenticateCalls (c : SqlSettings) (username password : Octstr) : List SqlCall :=
  [.append (octstrImm "SELECT throughput, default_smsc, callback_url, simulate, " ++
      octstrImm "simulate_dlr_fail, simulate_deliver_every, simulate_permanent_failure_every, " ++
      octstrImm "simulate_temporary_failure_every, simulate_mo_every, default_cost, max_binds, " ++
      octstrImm "enable_prepaid_billing, connect_allow_ip, database_store_primary  FROM " ++
        c.store.databaseUserTable.getD [] ++ octstrImm " WHERE "),
    .whereEq (octstrImm "system_id") username, .passwordCheck password,
    .append (octstrImm " LIMIT 1")]

theorem authenticate_builtBy (hd : c.sqlDialect = .pgsql) (username password : Octstr) :
    smppDatabaseMysqlAuthenticateSql c (some username) (some password) =
      builtBy (authenticateCalls c username password) := by
  simp only [smppDatabaseMysqlAuthenticateSql, hd]
  rfl

theorem wellPlaced_authenticate (hname : Quiet .pgsql (c.store.databaseUserTable.getD []))
    (username password : Octstr) : WellPlaced (authenticateCalls c username password) := by
  have hhead : Quiet .pgsql
      (octstrImm "SELECT throughput, default_smsc, callback_url, simulate, " ++
      octstrImm "simulate_dlr_fail, simulate_deliver_every, simulate_permanent_failure_every, " ++
      octstrImm "simulate_temporary_failure_every, simulate_mo_every, default_cost, max_binds, " ++
      octstrImm "enable_prepaid_billing, connect_allow_ip, database_store_primary  FROM " ++
        c.store.databaseUserTable.getD [] ++ octstrImm " WHERE ") :=
    quiet_append.mpr ⟨quiet_append.mpr ⟨quiet_append.mpr ⟨quiet_append.mpr ⟨quiet_append.mpr
      ⟨quiet_imm (by decide), quiet_imm (by decide)⟩, quiet_imm (by decide)⟩,
        quiet_imm (by decide)⟩, hname⟩, quiet_imm (by decide)⟩
  have hstart : StartsFixed [.passwordCheck password, .append (octstrImm " LIMIT 1")] :=
    Or.inr ⟨32, octstrImm "AND password = encode(digest(", _, rfl⟩
  exact wellPlaced_append hhead (wellPlaced_whereEq quiet_systemId username hstart
    (wellPlaced_passwordCheck password (wellPlaced_append (quiet_imm (by decide)) trivial)))

/-- A value in a literal is read back as it is, up to the end of the literal, and no statement is
read differently with another value in it. -/
theorem literals_keep_structure :
    (∀ v t : Octstr, (∀ x ∈ t.head?, x ≠ 39) →
      readLiteral 39 (smppDbSqlStringLiteral (some v) ++ t) = some (v, t) ∧
        sqlAlphabet.lex (smppDbSqlStringLiteral (some v) ++ t) =
          .literal v :: sqlAlphabet.lex t) ∧
      (∀ calls calls', List.Forall₂ SqlCall.SameBut calls calls' → WellPlaced calls →
        (sqlAlphabet.lex (builtBy calls).sql).map Token.shape =
          (sqlAlphabet.lex (builtBy calls').sql).map Token.shape) ∧
      ∀ c : SqlSettings, c.Named → c.sqlDialect = .pgsql →
        ∀ username password username' password' : Octstr,
          (sqlAlphabet.lex (smppDatabaseMysqlAuthenticateSql c (some username)
              (some password)).sql).map Token.shape =
            (sqlAlphabet.lex (smppDatabaseMysqlAuthenticateSql c (some username')
              (some password')).sql).map Token.shape := by
  refine ⟨?_, ?_, ?_⟩
  · intro v t ht
    rw [smppDbSqlStringLiteral_some]
    exact ⟨readLiteral_quoted sqlAlphabet v ht, Alphabet.lex_quoted_append v ht⟩
  · intro calls calls' hsame hplaced
    exact shape_builtBy hsame hplaced
  · intro c hc hd username password username' password'
    have hname : Quiet .pgsql (c.store.databaseUserTable.getD []) := hd ▸ (tableName_userTable hc).1
    rw [authenticate_builtBy hd, authenticate_builtBy hd]
    exact shape_builtBy
      (.cons (.append _) (.cons (.whereEq _ _ _) (.cons (.passwordCheck _ _)
        (.cons (.append _) .nil))))
      (wellPlaced_authenticate hname username password)

/-! ## Samples -/

/-- Two values in a row, as in an insertion. -/
def sampleInsertion (service msgdata : Octstr) : List SqlCall :=
  [.append (octstrImm "INSERT INTO smpp_store"),
    .append (octstrImm " ( service,msgdata ) VALUES ( "),
    .insertValue (octstrImm "service") service, .insertValue (octstrImm "msgdata") msgdata]

/-- Quotes at either end, and a password that would let anyone in. -/
theorem literals_keep_structure_sample :
    readLiteral 39 (smppDbSqlStringLiteral (some (octstrImm "'it''s'")) ++ octstrImm " LIMIT 1") =
        some (octstrImm "'it''s'", octstrImm " LIMIT 1") ∧
      (sqlAlphabet.lex
          (builtBy (sampleInsertion (octstrImm "esme") (octstrImm "'); --"))).sql).map Token.shape =
        (sqlAlphabet.lex (builtBy (sampleInsertion [] [])).sql).map Token.shape ∧
      (sqlAlphabet.lex (smppDatabaseMysqlAuthenticateSql (sampleSql .pgsql)
          (some (octstrImm "esme")) (some (octstrImm "' OR '1'='1"))).sql).map Token.shape =
        (sqlAlphabet.lex (smppDatabaseMysqlAuthenticateSql (sampleSql .pgsql)
          (some (octstrImm "esme")) (some (octstrImm "secret"))).sql).map Token.shape := by
  have hinsert : Quiet .pgsql (octstrImm "INSERT INTO smpp_store") := quiet_imm (by decide)
  have hcolumns : Quiet .pgsql (octstrImm " ( service,msgdata ) VALUES ( ") := quiet_imm (by decide)
  have hblank : ∀ x ∈ (octstrImm " LIMIT 1").head?, x ≠ 39 := by
    have hhead : (octstrImm " LIMIT 1").head? = some 32 := by decide
    rw [hhead]
    rintro x ⟨⟩
    decide
  refine ⟨(literals_keep_structure.1 _ _ hblank).1, literals_keep_structure.2.1 _ _ ?_ ?_,
    literals_keep_structure.2.2 _ (sampleSql_named .pgsql) rfl _ _ _ _⟩
  · exact .cons (.append _) (.cons (.append _) (.cons (.insertValue _ _ _)
      (.cons (.insertValue _ _ _) .nil)))
  · exact wellPlaced_append hinsert (wellPlaced_append hcolumns
      (wellPlaced_insertValue _ _ (wellPlaced_insertValue _ _ trivial)))

end Database
end Ksmppd
