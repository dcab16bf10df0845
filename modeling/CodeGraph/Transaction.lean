namespace CodeGraph

/-- Work on tables: statements one after another, up to the first that fails. What was written before
it is in the tables then. -/
abbrev TableWork (Failure Tables : Type) := ExceptT Failure (StateM Tables)

namespace TableWork

variable {Failure Tables α : Type}

/-- A statement that writes. It does all of its work or nothing. -/
def statement (write : Tables → Except Failure (α × Tables)) : TableWork Failure Tables α :=
  fun tables =>
    match write tables with
    | .ok (a, written) => (.ok a, written)
    | .error failure => (.error failure, tables)

/-- A statement that reads. -/
def query (read : Tables → Except Failure α) : TableWork Failure Tables α :=
  fun tables => (read tables, tables)

/-- Does work as a transaction. What it has written is kept if it comes to its end, and taken back if
it fails. -/
def transact (work : TableWork Failure Tables α) (tables : Tables) : Except Failure α × Tables :=
  match work tables with
  | (.ok a, written) => (.ok a, written)
  | (.error failure, _) => (.error failure, tables)

/-- A transaction that fails leaves the tables as they were, whatever has been written in it. -/
theorem transact_error {work : TableWork Failure Tables α} {tables : Tables} {failure : Failure}
    (failed : (work.transact tables).1 = .error failure) : (work.transact tables).2 = tables := by
  unfold transact at failed ⊢
  split at failed
  · contradiction
  · rfl

theorem transact_query (read : Tables → Except Failure α) (tables : Tables) :
    (query read).transact tables = (read tables, tables) := by
  unfold transact query
  cases read tables <;> rfl

theorem transact_of_ok {write : Tables → Except Failure (α × Tables)} {tables written : Tables} {a : α}
    (done : write tables = .ok (a, written)) : (statement write).transact tables = (.ok a, written) := by
  unfold transact statement
  rw [done]

theorem transact_of_error {write : Tables → Except Failure (α × Tables)} {tables : Tables}
    {failure : Failure} (failed : write tables = .error failure) :
    (statement write).transact tables = (.error failure, tables) := by
  unfold transact statement
  rw [failed]

end TableWork

end CodeGraph
