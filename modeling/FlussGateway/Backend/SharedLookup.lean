import FlussGateway.Backend.SharedTable
import FlussGateway.Backend.StoredRows

/-!
# A table that is read while it is written to

A lookup sees what the table holds when it gets there, which is what the writers have sent by then. The
client reads the key from the front of the row it is handed, so the key columns have to be the first
columns of the table. A table in memory behaves so.
-/
namespace FlussGateway.Backend

open FlussGateway.Foundation

/-- What the gateway relies on when it looks keys up in a table that many requests write to. -/
structure SharedLookup (σ ι : Type) [DecidableEq ι] extends SharedTable σ ι where
  distinct : (schema.columns.map (·.name)).Nodup
  leads : schema.Leads
  answered : ∀ t row s result batch, t.path = path → (service (.lookup t row) s).1 = .ok result →
    result.toRecordBatch = .ok batch → batch.Answers schema ((view s).stored (schema.lookupKey row))

/-- The client reads the key of a whole row. -/
theorem SharedLookup.lookupKey_eq_key {σ ι : Type} [DecidableEq ι] (table : SharedLookup σ ι)
    {row : GenericRow} (whole : row.fields.length = table.schema.columns.length) :
    table.schema.lookupKey row = table.schema.key row := by
  refine Schema.lookupKey_eq_key table.leads (table.leads.sublist.nodup table.distinct) ?_
  simpa [whole] using table.leads.length_le

/-! ## In memory -/

/-- A service with one table and one buffer for each connection. -/
structure Buffered where
  memory : Memory
  state : TableState Unit

namespace Buffered

def empty : Buffered := ⟨.empty, ⟨fun _ => none, fun _ => []⟩⟩

/-- The row under a key, if rows of this table look like it. -/
def found (schema : Schema) (held : Option GenericRow) : LookupResult where
  toRecordBatch :=
    if held.all fun row => row.fields.length == schema.columns.length then .ok (schema.batch held)
    else .error Memory.unknownTable

variable (path : TablePath) (info : TableInfo)

def service : Service Buffered
  | .upsert t row, s =>
    if t.path = path then
      (.ok (), { s with state := s.state.put (t.conn, ()) (.set (info.schema.key row) row) })
    else (.error Memory.unknownTable, s)
  | .delete t row, s =>
    if t.path = path then
      (.ok (), { s with state := s.state.put (t.conn, ()) (.remove (info.schema.key row)) })
    else (.error Memory.unknownTable, s)
  | .flushUpserts t, s =>
    (.ok (), { s with state := s.state.settle (t.conn, ()) (s.state.queued (t.conn, ())).length })
  | .lookup t row, s =>
    if t.path = path then (.ok (found info.schema (s.state.stored (info.schema.lookupKey row))), s)
    else (.error Memory.unknownTable, s)
  | op, s =>
    let (reply, memory) := Memory.service path info op s.memory
    (reply, { s with memory := memory })

theorem answers_of_found {schema : Schema} {held : Option GenericRow} {batch : Batch}
    (ok : (found schema held).toRecordBatch = .ok batch) : batch.Answers schema held := by
  unfold found at ok
  simp only at ok
  split at ok
  next fits =>
    cases ok
    refine schema.batch_answers fun row member => ?_
    rw [Option.mem_def] at member
    simpa [member] using fits
  next => cases ok

def table (primary : info.schema.primaryKey.isSome = true)
    (distinct : (info.schema.columns.map (·.name)).Nodup) (leads : info.schema.Leads) :
    SharedLookup Buffered Unit where
  service := service path info
  path := path
  schema := info.schema
  lane _ := ()
  primary := primary
  view := Buffered.state
  described conn s i returned := by
    simp only [service, Memory.service, if_true, Except.ok.injEq] at returned
    rw [returned]
  steps op s _ := by
    cases op with
    | upsert t row | delete t row =>
      simp only [service]
      split
      next here =>
        simp only [tableEvent, if_pos here]
        exact .put _ _ .refl
      next => exact .quiet .refl
    | flushUpserts t =>
      refine .flush _ (.settle _ _ .refl) fun b own => ?_
      obtain rfl : b = (t.conn, ()) := Prod.ext own rfl
      simp [service, WriteBehind.State.settle]
    | lookup t row =>
      simp only [service]
      split <;> exact .quiet .refl
    | _ => exact .quiet .refl
  distinct := distinct
  leads := leads
  answered t row s result batch here returned ok := by
    simp only [service, if_pos here, Except.ok.injEq] at returned
    subst returned
    exact answers_of_found ok

end Buffered

end FlussGateway.Backend
