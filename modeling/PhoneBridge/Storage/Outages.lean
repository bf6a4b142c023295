import PhoneBridge.Storage.Pool

/-!
# Statements that the database cannot execute

A statement also fails when no connection is free in time, when the database stays locked, or when
the disk does not take the change. Such a failure has nothing to do with the rows and changes none.
-/

namespace PhoneBridge.Storage

/-- What keeps the database from executing a statement, if anything does. -/
abbrev Outage := Option String

/-- Why a statement has failed. -/
inductive StatementError
  | constraint (e : DbError)
  | outage (message : String)
  deriving DecidableEq, Repr

/-- Execute a statement. -/
def execute {α : Type} (outage : Outage) (result : Except DbError α) : Except StatementError α :=
  match outage with
  | some message => .error (.outage message)
  | none => result.mapError .constraint

/-- The database after a statement: a failed one changes nothing. -/
def Db.afterStatement (db : Db) (result : Except StatementError Db) : Db := result.toOption.getD db

@[simp]
theorem execute_some {α : Type} (message : String) (result : Except DbError α) :
    execute (some message) result = .error (.outage message) := rfl

@[simp]
theorem execute_ok {α : Type} (value : α) : execute none (.ok value) = .ok value := rfl

@[simp]
theorem execute_error {α : Type} (e : DbError) :
    execute none (.error e : Except DbError α) = .error (.constraint e) := rfl

@[simp]
theorem afterStatement_error (db : Db) (e : StatementError) : db.afterStatement (.error e) = db :=
  rfl

@[simp]
theorem afterStatement_ok (db after : Db) : db.afterStatement (.ok after) = after := rfl

/-- A statement that is executed fails only by its constraints. -/
theorem afterStatement_none (db : Db) (result : Except DbError Db) :
    db.afterStatement (execute none result) = result.toOption.getD db := by
  cases result <;> rfl

end PhoneBridge.Storage
