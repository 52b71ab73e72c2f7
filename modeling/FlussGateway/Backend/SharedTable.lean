import FlussGateway.Backend.Catalogue
import FlussGateway.Backend.Scope
import FlussGateway.Foundation.WriteBehind

/-!
# A table that many connections write to

Every connection has a writer of its own, which holds back the rows it is handed. It sends the rows of
one key in order, together with those of other keys, on its own or when it is flushed. The table
takes each change as it arrives.
-/
namespace FlussGateway.Backend

open FlussGateway.Foundation

/-- The buffers are the lanes of the connections. -/
abbrev TableState (ι : Type) := WriteBehind.State (Connection × ι) (List Codec.Datum) GenericRow

abbrev TableEvent (ι : Type) := WriteBehind.Event (Connection × ι) (List Codec.Datum) GenericRow

instance : Inhabited Connection := ⟨0, connectionConfig "" "" ""⟩

/-- What a call with its reply does to a table. -/
def tableEvent {ι : Type} (path : TablePath) (schema : Schema) (lane : List Codec.Datum → ι) :
    Exchange → TableEvent ι
  | ⟨.upsert t row, .ok ()⟩ =>
    if t.path = path then .put (t.conn, lane (schema.key row)) (.set (schema.key row) row) else .quiet
  | ⟨.delete t row, .ok ()⟩ =>
    if t.path = path then .put (t.conn, lane (schema.key row)) (.remove (schema.key row)) else .quiet
  -- A writer sends all it holds, for whatever table.
  | ⟨.flushUpserts t, .ok ()⟩ => .flush fun b => b.1 = t.conn
  | _ => .quiet

/-- What the gateway relies on when many requests write to one primary-key table. -/
structure SharedTable (σ ι : Type) [DecidableEq ι] where
  service : Service σ
  path : TablePath
  schema : Schema
  /-- The bucket that a key is sent to. -/
  lane : List Codec.Datum → ι
  primary : schema.primaryKey.isSome = true
  view : σ → TableState ι
  described : ∀ conn s info, (service (.getTable conn path) s).1 = .ok info → info.schema = schema
  steps : ∀ op s, op.redefines path = false →
    WriteBehind.Step (view s) (tableEvent path schema lane ⟨op, (service op s).1⟩) (view (service op s).2)

namespace SharedTable

variable {σ ι : Type} [DecidableEq ι] (table : SharedTable σ ι)

/-- What an exchange is to the table. -/
def event (e : Exchange) : TableEvent ι := tableEvent table.path table.schema table.lane e

/-- The table's events in a history. -/
def events (history : List (Nat × Exchange)) : List (Nat × TableEvent ι) :=
  history.map fun e => (e.1, table.event e.2)

/-- The changes that a request's calls put into buffers. -/
def putChanges (trace : List Exchange) : List RowChange :=
  (trace.map table.event).filterMap WriteBehind.Event.change

theorem own_events (id : Nat) (history : List (Nat × Exchange)) :
    Schedule.own id (table.events history) =
      (Schedule.own id history).map table.event := by
  rw [events, Schedule.own, Schedule.own, List.filterMap_map, List.map_filterMap]
  refine List.filterMap_congr fun e _ => ?_
  by_cases own : e.1 = id <;> simp [own]

/-- A schedule that leaves the table in its place is a run of its buffers. -/
theorem runs {calls : List (Nat × Call)} (kept : ∀ call ∈ calls, call.2.redefines table.path = false)
    (s : σ) : WriteBehind.Runs (table.view s) (table.events (Schedule.recorded table.service calls s))
      (table.view (Schedule.after table.service calls s)) := by
  induction calls generalizing s with
  | nil => exact .nil
  | cons call calls ih =>
    obtain ⟨id, op⟩ := call
    have first := table.steps op s (kept _ List.mem_cons_self)
    exact (WriteBehind.Runs.single id first).trans
      (ih (fun c member => kept c (List.mem_cons_of_mem _ member)) _)

/-- The metadata in a history is the table's. -/
def Described (trace : List Exchange) : Prop :=
  ∀ conn info, (⟨.getTable conn table.path, .ok info⟩ : Exchange) ∈ trace → info.schema = table.schema

theorem described_own (calls : List (Nat × Call)) (s : σ) (id : Nat) :
    table.Described (Schedule.own id (Schedule.recorded table.service calls s)) := by
  intro conn info member
  obtain ⟨xs, ys, split⟩ := List.append_of_mem member
  obtain ⟨before, later, _, given, _⟩ := Schedule.split_of_own split
  exact table.described conn _ info given.symm

/-! ## What calls put -/

theorem putChanges_append (before after : List Exchange) :
    table.putChanges (before ++ after) = table.putChanges before ++ table.putChanges after := by
  rw [putChanges, List.map_append, List.filterMap_append]
  rfl

theorem event_quiet {e : Exchange} (quiet : e.1.effect ≠ some .rows) :
    table.event e = .quiet := by
  obtain ⟨op, reply⟩ := e
  cases op <;> first | rfl | exact absurd rfl quiet

theorem putChanges_quiet {trace : List Exchange} (quiet : ∀ e ∈ trace, e.1.effect ≠ some .rows) :
    table.putChanges trace = [] := by
  refine List.filterMap_eq_nil_iff.mpr fun event member => ?_
  obtain ⟨e, inside, rfl⟩ := List.mem_map.mp member
  rw [table.event_quiet (quiet e inside)]
  rfl

theorem putChanges_silent {trace : List Exchange}
    (silent : ∀ e ∈ trace, ∀ b c, table.event e ≠ .put b c) : table.putChanges trace = [] := by
  refine List.filterMap_eq_nil_iff.mpr fun event member => ?_
  obtain ⟨e, inside, rfl⟩ := List.mem_map.mp member
  have none := silent e inside
  cases same : table.event e with
  | put b c => exact absurd same (none b c)
  | flush | quiet => rfl

end SharedTable

/-- The change a row is sent as. -/
def WriteKind.change (kind : WriteKind) (schema : Schema) (row : GenericRow) : Option RowChange :=
  match kind with
  | append => none
  | upsert => some (.set (schema.key row) row)
  | delete => some (.remove (schema.key row))

namespace SharedTable

variable {σ ι : Type} [DecidableEq ι] (table : SharedTable σ ι) {kind : WriteKind} {t : FlussTable}

theorem putChanges_send (here : t.path = table.path) (rows : List GenericRow) :
    table.putChanges (rows.map fun row => kind.send t row (.ok ())) =
      rows.filterMap (kind.change table.schema) := by
  rw [putChanges, List.map_map, List.filterMap_map]
  refine List.filterMap_congr fun row _ => ?_
  cases kind <;> simp [WriteKind.send, event, tableEvent, here, WriteBehind.Event.change, WriteKind.change]

theorem putChanges_flush (reply : Except FlussError Unit) :
    table.putChanges [kind.flush t reply] = [] := by
  cases kind <;> cases reply <;> rfl

/-! ## What a write puts -/

/-- A put goes through a connection, is about the table, and changes rows. -/
theorem of_put {e : Exchange} {b : Connection × ι} {c : RowChange} (put : table.event e = .put b c) :
    (e.1.connection = some b.1 ∧ b.2 = table.lane c.key) ∧ e.1.scope = some (.table table.path) ∧
    e.1.effect = some .rows := by
  obtain ⟨op, reply⟩ := e
  cases op with
  | upsert t row | delete t row =>
    cases reply with
    | error e => cases put
    | ok u =>
      simp only [event, tableEvent] at put
      split at put
      next here => cases put; exact ⟨⟨rfl, rfl⟩, by rw [Call.scope, here], rfl⟩
      next => cases put
  | flushUpserts t => cases reply <;> cases put
  | _ => cases put

/-- All puts of a trace go through this connection. -/
def PutsThrough (conn : Connection) (trace : List Exchange) : Prop :=
  ∀ e ∈ trace, ∀ b c, table.event e = .put b c → b.1 = conn

/-- An operation puts through the connection it has taken. -/
theorem putsThrough_of_keeps {α : Type} {sha256 : Sha256} {backend : FlussBackend}
    {creds : Option Auth.BasicAuthCredentials} {op : Operation} {p : Gateway α} {trace : List Exchange}
    (keeps : Keeps sha256 backend creds (fun _ _ => True) op p) (follows : p.Follows trace) :
    ∃ conn, table.PutsThrough conn trace := by
  obtain ⟨rest, same, uses⟩ := keeps
  rw [same] at follows
  have taking : ∀ {part : List Exchange}, (backend.conn sha256 creds).Follows part →
      ∀ e ∈ part, ∀ b c, table.event e ≠ .put b c := by
    intro part taken e member b c put
    have silent := ((conn_takes sha256 backend creds).of_follows taken e member).silent.1
    rw [(table.of_put put).1.1] at silent
    cases silent
  rcases Program.follows_bind follows with taken | ⟨conn, before, after, taken, used, rfl⟩
  · exact ⟨default, fun e member b c put => absurd put (taking taken e member b c)⟩
  · refine ⟨conn, fun e member b c put => ?_⟩
    rcases List.mem_append.mp member with early | late
    · exact absurd put (taking taken.follows e early b c)
    · have through := ((uses conn).always.of_follows used e late).1
      rcases through with here | ⟨descriptor, built⟩
      · rw [(table.of_put put).1.1] at here
        exact Option.some.inj here
      · have connection := (table.of_put put).1.1
        rw [built] at connection
        cases connection

/-- What the loop has sent so far are the first of the rows. -/
theorem sendEach_puts (here : t.path = table.path) {rows : List GenericRow} {trace : List Exchange}
    (follows : (sendEach (kind.writer.send t) rows).Follows trace) :
    table.putChanges trace <+: rows.filterMap (kind.change table.schema) := by
  induction rows generalizing trace with
  | nil => cases follows; exact List.nil_prefix
  | cons row rows ih =>
    have one : ∀ {part : List Exchange}, (kind.writer.send t row).Follows part →
        table.putChanges part <+: [row].filterMap (kind.change table.schema) := by
      intro part sent
      cases kind <;> cases sent with
      | here => exact List.nil_prefix
      | @call _ _ reply _ rest =>
        rw [Program.follows_lift rest]
        cases reply with
        | ok u => exact (table.putChanges_send here [row]).symm ▸ List.prefix_refl _
        | error e => exact List.nil_prefix
    have split : (row :: rows).filterMap (kind.change table.schema) =
        [row].filterMap (kind.change table.schema) ++ rows.filterMap (kind.change table.schema) := by
      rw [← List.filterMap_append, List.singleton_append]
    rw [split]
    rcases Program.follows_bind follows with first | ⟨_, before, after, first, rest, rfl⟩
    · exact (one first).trans (List.prefix_append ..)
    · -- The row before has been accepted, so it is put as a whole.
      obtain ⟨reply, rfl, same⟩ := ends_send first
      cases reply with
      | error e => cases same
      | ok u =>
        rw [table.putChanges_append]
        have whole : table.putChanges [kind.send t row (.ok ())] =
            [row].filterMap (kind.change table.schema) := table.putChanges_send here [row]
        rw [whole]
        exact List.prefix_append_right_inj _ |>.mpr (ih rest)

section Write

variable {sha256 : Sha256} {backend : FlussBackend} {creds : Option Auth.BasicAuthCredentials}
  {rows : List GenericRow} {trace : List Exchange}

theorem putChanges_always {α : Type} {p : Gateway α} (quiet : p.Always fun op => op.writes = false)
    (follows : p.Follows trace) : table.putChanges trace = [] := by
  exact table.putChanges_quiet fun e member => effect_of_quiet (quiet.of_follows follows e member)

theorem rows_keeps : Keeps sha256 backend creds (fun _ _ => True)
    (.upsertRows table.path.database table.path.table rows)
    (kind.rows sha256 backend table.path.database table.path.table rows creds) :=
  writeRows_keeps sha256 backend creds kind table.path.database table.path.table rows rfl rfl

/-- What a write has put so far are the first of its rows. -/
theorem rows_puts (follows : (kind.rows sha256 backend table.path.database table.path.table rows
    creds).Follows trace) :
    table.putChanges trace <+: rows.filterMap (kind.change table.schema) := by
  rw [WriteKind.rows_eq, writeRows] at follows
  rcases Program.follows_bind follows with taken | ⟨conn, before, after, taken, used, rfl⟩
  · rw [table.putChanges_always (getOrCreate_quiet sha256 backend.pool _) taken]
    exact List.nil_prefix
  rw [table.putChanges_append,
    table.putChanges_always (getOrCreate_quiet sha256 backend.pool _) taken.follows, List.nil_append]
  rcases Program.follows_bind used with read | ⟨t, before, after, read, wrote, rfl⟩
  · rw [table.putChanges_always (KvTable.getTable_quiet conn _) read]
    exact List.nil_prefix
  rw [table.putChanges_append, table.putChanges_always (KvTable.getTable_quiet conn _) read.follows,
    List.nil_append]
  have here : t.path = table.path := (getTable_ends read).2.1
  split at wrote
  · cases wrote
    exact List.nil_prefix
  · -- The writer is created before any row, and flushed after all of them.
    rcases Program.follows_bind wrote with created | ⟨_, before, after, created, sending, rfl⟩
    · rw [table.putChanges_always (create_quiet kind t) created]
      exact List.nil_prefix
    rw [table.putChanges_append, table.putChanges_always (create_quiet kind t) created.follows,
      List.nil_append]
    rcases Program.follows_bind sending with sent | ⟨_, before, after, sent, last, rfl⟩
    · exact table.sendEach_puts here sent
    have flushed : table.putChanges after = [] := by
      rcases Program.follows_bind last with flushing | ⟨_, during, rest, flushing, returned, rfl⟩
      · cases kind <;> cases flushing with
        | here => rfl
        | @call _ _ reply _ rest =>
          rw [Program.follows_lift rest]
          cases reply <;> rfl
      · obtain ⟨reply, rfl, _⟩ := ends_flush flushing
        cases returned
        rw [List.append_nil]
        exact table.putChanges_flush reply
    rw [table.putChanges_append, flushed, List.append_nil]
    exact table.sendEach_puts here sent.follows

/-- A write that returns has put all its rows, and has flushed the buffer after the last. -/
theorem rows_put {w : WriteResult} (keyed : kind ≠ .append)
    (ended : (kind.rows sha256 backend table.path.database table.path.table rows creds).Ends trace
      (.ok w)) :
    table.putChanges trace = rows.filterMap (kind.change table.schema) ∧
    ∃ before conn, trace.map table.event = before ++ [.flush fun b => b.1 = conn] ∧
      table.PutsThrough conn trace := by
  have scope : ∀ e ∈ trace, e.1.scope = none ∨ e.1.scope = some (.table table.path) := by
    have always : (kind.rows sha256 backend table.path.database table.path.table rows creds).Always
        fun call => call.scope = none ∨ call.scope = some (.table table.path) := by
      obtain ⟨rest, same, uses⟩ := table.rows_keeps
      rw [same]
      refine Program.always_bind ((conn_takes sha256 backend creds).mono fun call takes =>
        .inl takes.silent.2.1) fun conn => (uses conn).always.mono fun call used => ?_
      cases part : call.scope with
      | none => exact .inl rfl
      | some part' => exact .inr (by rw [used.2.scope part' part]; rfl)
    exact always.of_ends ended
  have wrote := writeRows_trace ended
  generalize same : (Except.ok w : Outcome GatewayError WriteResult) = result at wrote
  cases wrote with
  | early | rejected | unflushed => cases same
  | @flushed setup t quiet =>
    -- The flush names the table, and so does every row before it.
    have here : t.path = table.path := by
      have flush := scope (kind.flush t (.ok ())) (by simp)
      cases kind with
      | append => exact absurd rfl keyed
      | upsert | delete =>
        rcases flush with none | some
        · cases none
        · simpa [WriteKind.flush, Call.scope] using some
    have silent : table.putChanges setup = [] := table.putChanges_quiet fun e member =>
      effect_of_quiet (quiet e member)
    refine ⟨?_, (setup ++ rows.map fun row => kind.send t row (.ok ())).map
      table.event, t.conn, ?_, ?_⟩
    · rw [table.putChanges_append, table.putChanges_append, silent, table.putChanges_send here,
        table.putChanges_flush, List.nil_append, List.append_nil]
    · rw [← List.append_assoc, List.map_append]
      cases kind with
      | append => exact absurd rfl keyed
      | upsert | delete => rfl
    · intro e member b c put
      rcases List.mem_append.mp member with early | late
      · exact absurd (table.of_put put).2.2 (effect_of_quiet (quiet e early))
      · have through := (table.of_put put).1.1
        rcases List.mem_append.mp late with sent | last
        · obtain ⟨row, _, rfl⟩ := List.mem_map.mp sent
          cases kind <;> exact (Option.some.inj through).symm
        · obtain rfl := List.mem_singleton.mp last
          cases kind <;> exact (Option.some.inj through).symm

end Write

end SharedTable

end FlussGateway.Backend
