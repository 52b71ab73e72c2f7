import FlussGateway.Backend.Outage
import FlussGateway.Foundation.Outbox
import FlussGateway.Foundation.Schedule

/-!
# A write that fails

Rows handed to a writer wait on its connection until some writer of the connection is
flushed. The connection stays in the pool when a write returns early, and the rows already
handed over stay with it.
-/
namespace FlussGateway.Backend

open FlussGateway.Foundation

/-! ## Calls about rows -/

/-- A call of the client and its reply. -/
abbrev Exchange := (op : Call) × op.Reply

inductive WriteKind where
  | append
  | upsert
  | delete
deriving DecidableEq

/-- A row handed to the writer of a table. -/
structure Handover where
  kind : WriteKind
  table : FlussTable
  row : GenericRow

namespace WriteKind

def writer : WriteKind → Writer
  | append => appender
  | upsert => upserter
  | delete => deleter

def send (kind : WriteKind) (t : FlussTable) (row : GenericRow)
    (reply : Except FlussError Unit) : Exchange :=
  match kind with
  | append => ⟨.append t row, reply⟩
  | upsert => ⟨.upsert t row, reply⟩
  | delete => ⟨.delete t row, reply⟩

def flush (kind : WriteKind) (t : FlussTable) (reply : Except FlussError Unit) : Exchange :=
  match kind with
  | append => ⟨.flushAppends t, reply⟩
  | upsert | delete => ⟨.flushUpserts t, reply⟩

def rows (kind : WriteKind) (sha256 : Sha256) (backend : FlussBackend) (db table : String)
    (rows : List GenericRow) (creds : Option Auth.BasicAuthCredentials) : Gateway WriteResult :=
  match kind with
  | append => appendRows sha256 backend db table rows creds
  | upsert => upsertRows sha256 backend db table rows creds
  | delete => deleteRows sha256 backend db table rows creds

theorem rows_eq (kind : WriteKind) (sha256 : Sha256) (backend : FlussBackend) (db table : String)
    (rows : List GenericRow) (creds : Option Auth.BasicAuthCredentials) :
    kind.rows sha256 backend db table rows creds =
    writeRows sha256 backend db table kind.writer rows creds := by
  cases kind <;> rfl

end WriteKind

/-- The row a call hands over, with the writer's answer. -/
def handover : Exchange → Option (Handover × Except FlussError Unit)
  | ⟨.append t row, reply⟩ => some (⟨.append, t, row⟩, reply)
  | ⟨.upsert t row, reply⟩ => some (⟨.upsert, t, row⟩, reply)
  | ⟨.delete t row, reply⟩ => some (⟨.delete, t, row⟩, reply)
  | _ => none

def handovers (trace : List Exchange) : List (Handover × Except FlussError Unit) :=
  trace.filterMap handover

/-- What a request's call does to the queue of its connection. -/
def effect (request : Nat) : Exchange → Outbox.Event Connection (Nat × Handover)
  | ⟨.append t row, .ok ()⟩ => .put t.conn (request, ⟨.append, t, row⟩)
  | ⟨.upsert t row, .ok ()⟩ => .put t.conn (request, ⟨.upsert, t, row⟩)
  | ⟨.delete t row, .ok ()⟩ => .put t.conn (request, ⟨.delete, t, row⟩)
  | ⟨.flushAppends t, .ok ()⟩ => .flush t.conn
  | ⟨.flushUpserts t, .ok ()⟩ => .flush t.conn
  -- A flush that fails may have written a part.
  | ⟨.flushAppends t, .error _⟩ => .drain t.conn
  | ⟨.flushUpserts t, .error _⟩ => .drain t.conn
  | _ => .other

def effects (history : List (Nat × Exchange)) : List (Outbox.Event Connection (Nat × Handover)) :=
  history.map fun e => effect e.1 e.2

namespace WriteKind

variable (kind : WriteKind) (t : FlussTable) (row : GenericRow) (reply : Except FlussError Unit)

@[simp] theorem handover_send : handover (kind.send t row reply) =
    some (⟨kind, t, row⟩, reply) := by cases kind <;> rfl

@[simp] theorem handover_flush : handover (kind.flush t reply) = none := by cases kind <;> rfl

end WriteKind

theorem handover_quiet {e : Exchange} (quiet : e.1.writes = false) : handover e = none := by
  obtain ⟨op, reply⟩ := e
  cases op <;> first | rfl | cases quiet

theorem handovers_quiet {trace : List Exchange} (quiet : ∀ e ∈ trace, e.1.writes = false) :
    handovers trace = [] :=
  List.filterMap_eq_nil_iff.mpr fun e member => handover_quiet (quiet e member)

theorem handovers_append (before after : List Exchange) :
    handovers (before ++ after) = handovers before ++ handovers after := List.filterMap_append

theorem handovers_send (kind : WriteKind) (t : FlussTable) (reply : Except FlussError Unit)
    (rows : List GenericRow) :
    handovers (rows.map fun row => kind.send t row reply) =
    rows.map fun row => (⟨kind, t, row⟩, reply) := by
  simp [handovers, List.filterMap_map]

/-- Only an accepted row enters a queue. -/
theorem handover_of_put {request : Nat} {e : Exchange} {conn : Connection} {item : Nat × Handover}
    (put : effect request e = .put conn item) : item.1 = request ∧
    handover e = some (item.2, .ok ()) := by
  obtain ⟨op, reply⟩ := e
  cases op with
  | append t row | upsert t row | delete t row =>
    cases reply with
    | ok u => cases put; exact ⟨rfl, rfl⟩
    -- A rejected row has no effect on the queue.
    | error e => cases put
  | flushAppends t | flushUpserts t => cases reply <;> cases put
  | _ => cases put

theorem put_of_handover {e : Exchange} {x : Handover} (accepted : handover e = some (x, .ok ()))
    (request : Nat) :
    effect request e = .put x.table.conn (request, x) := by
  obtain ⟨op, reply⟩ := e
  cases op with
  | append t row | upsert t row | delete t row => cases accepted; rfl
  | _ => cases accepted

/-! ## The calls of a write -/

theorem ends_send {kind : WriteKind} {t : FlussTable} {row : GenericRow} {trace : List Exchange}
    {result : Outcome GatewayError Unit} (ended : (kind.writer.send t row).Ends trace result) :
    ∃ reply, trace = [kind.send t row reply] ∧ result = Outcome.ofExcept flussErr reply := by
  cases kind <;> cases ended <;> next rest => exact
    ⟨_, by rw [(Program.ends_lift rest).1]; rfl, (Program.ends_lift rest).2.symm⟩

theorem ends_flush {kind : WriteKind} {t : FlussTable} {trace : List Exchange}
    {result : Outcome GatewayError Unit} (ended : (kind.writer.flush t).Ends trace result) :
    ∃ reply, trace = [kind.flush t reply] ∧ result = Outcome.ofExcept flussErr reply := by
  cases kind <;> cases ended <;> next rest => exact
    ⟨_, by rw [(Program.ends_lift rest).1]; rfl, (Program.ends_lift rest).2.symm⟩

/-- The loop hands over every row, or stops at the first that is rejected. -/
theorem sendEach_ends {kind : WriteKind} {t : FlussTable} {rows : List GenericRow}
    {trace : List Exchange} {result : Outcome GatewayError Unit}
    (ended : (sendEach (kind.writer.send t) rows).Ends trace result) :
    (trace = rows.map (fun row => kind.send t row (.ok ())) ∧ result = .ok ()) ∨
    ∃ k row e, rows[k]? = some row ∧ result = Outcome.fail (flussErr e) ∧
      trace = (rows.take k).map (fun row => kind.send t row (.ok ())) ++
      [kind.send t row (.error e)] := by
  induction rows generalizing trace with
  | nil =>
    cases ended
    exact .inl ⟨rfl, rfl⟩
  | cons row rows ih =>
    rcases Program.ends_bind ended with ⟨fault, first, rfl⟩ | ⟨_, before, after, first, rest, rfl⟩
    · obtain ⟨reply, rfl, same⟩ := ends_send first
      cases reply with
      | ok u => cases same
      -- The loop ends with this row, so it is the one rejected.
      | error e => exact .inr ⟨0, row, e, rfl, same, rfl⟩
    · obtain ⟨reply, rfl, same⟩ := ends_send first
      cases reply with
      | error e => cases same
      | ok u =>
        -- This row is accepted; the others are as the induction says, one position further on.
        rcases ih rest with ⟨rfl, returned⟩ | ⟨k, row', e, found, returned, rfl⟩
        · exact .inl ⟨rfl, returned⟩
        · exact .inr ⟨k + 1, row', e, found, returned, rfl⟩

/-- How a write can go, by its calls. -/
inductive WriteTrace (kind : WriteKind) (rows : List GenericRow) :
    List Exchange → Outcome GatewayError WriteResult → Prop where
  | early {setup : List Exchange} {fault : Fault GatewayError}
      (quiet : ∀ e ∈ setup, e.1.writes = false) :
    WriteTrace kind rows setup (.error fault)
  | rejected {setup : List Exchange} {t : FlussTable} {k : Nat} {row : GenericRow} {e : FlussError}
      (quiet : ∀ e ∈ setup, e.1.writes = false) (found : rows[k]? = some row) :
    WriteTrace kind rows
      (setup ++ ((rows.take k).map (fun row => kind.send t row (.ok ())) ++ [kind.send t row (.error e)]))
      (Outcome.fail (flussErr e))
  | unflushed {setup : List Exchange} {t : FlussTable} {e : FlussError}
      (quiet : ∀ e ∈ setup, e.1.writes = false) :
    WriteTrace kind rows
      (setup ++ (rows.map (fun row => kind.send t row (.ok ())) ++ [kind.flush t (.error e)]))
      (Outcome.fail (flussErr e))
  | flushed {setup : List Exchange} {t : FlussTable} (quiet : ∀ e ∈ setup, e.1.writes = false) :
    WriteTrace kind rows
      (setup ++ (rows.map (fun row => kind.send t row (.ok ())) ++ [kind.flush t (.ok ())]))
      (.ok ⟨rows.length⟩)

theorem create_quiet (kind : WriteKind) (t : FlussTable) :
    (kind.writer.create t).Always fun op => op.writes = false := by
  cases kind with
  | append =>
    exact Program.always_bind (p := t.newAppend) ⟨rfl, orFlussErr_always⟩ fun _ =>
      ⟨rfl, orFlussErr_always⟩
  | upsert | delete => exact upsertWriter_quiet t

theorem writeRows_trace {sha256 : Sha256} {backend : FlussBackend} {db table : String}
    {kind : WriteKind}
    {rows : List GenericRow} {creds : Option Auth.BasicAuthCredentials} {trace : List Exchange}
    {result : Outcome GatewayError WriteResult}
    (ended : (kind.rows sha256 backend db table rows creds).Ends trace result) :
    WriteTrace kind rows trace result := by
  rw [WriteKind.rows_eq, writeRows] at ended
  -- Up to the loop every call is quiet, so `quiet` grows with each step that succeeds.
  rcases Program.ends_bind ended with ⟨fault, opened, rfl⟩ | ⟨conn, opening, _, opened, used, rfl⟩
  · exact .early ((getOrCreate_quiet sha256 backend.pool _).of_ends opened)
  have quiet := (getOrCreate_quiet sha256 backend.pool _).of_ends opened
  rcases Program.ends_bind used with ⟨fault, read, rfl⟩ | ⟨t, reading, _, read, wrote, rfl⟩
  · exact .early (List.forall_mem_append.mpr ⟨quiet, (KvTable.getTable_quiet conn _).of_ends read⟩)
  replace quiet := List.forall_mem_append.mpr ⟨quiet, (KvTable.getTable_quiet conn _).of_ends read⟩
  rw [← List.append_assoc]
  split at wrote
  · -- A table of the wrong kind is refused before a writer exists.
    cases wrote
    exact .early (by simpa using quiet)
  · rcases Program.ends_bind wrote with ⟨fault, created, rfl⟩ |
      ⟨_, creating, _, created, looped, rfl⟩
    · exact .early (List.forall_mem_append.mpr ⟨quiet, (create_quiet kind t).of_ends created⟩)
    replace quiet := List.forall_mem_append.mpr ⟨quiet, (create_quiet kind t).of_ends created⟩
    rw [← List.append_assoc]
    rcases Program.ends_bind looped with ⟨fault, sent, rfl⟩ | ⟨_, sending, _, sent, last, rfl⟩
    · -- The error leaves the function at once: no flush, and no undoing of the rows before.
      rcases sendEach_ends sent with ⟨_, returned⟩ | ⟨k, row, e, found, returned, rfl⟩
      · cases returned
      · cases returned
        exact .rejected quiet found
    · rcases sendEach_ends sent with ⟨rfl, _⟩ | ⟨k, row, e, found, returned, _⟩
      · rcases Program.ends_bind last with ⟨fault, flushed, rfl⟩ |
          ⟨_, flushing, _, flushed, returned, rfl⟩
        · obtain ⟨reply, rfl, same⟩ := ends_flush flushed
          cases reply with
          | ok u => cases same
          | error e => cases same; exact .unflushed quiet
        · obtain ⟨reply, rfl, same⟩ := ends_flush flushed
          cases returned
          cases reply with
          | ok u => exact .flushed quiet
          | error e => cases same
      · cases returned

/-- The writer for `t` has rejected the row at position `k` of the batch, and the write has returned
its error. -/
def RejectedAt (kind : WriteKind) (trace : List Exchange)
    (result : Outcome GatewayError WriteResult) (k : Nat)
    (t : FlussTable) : Prop :=
  ∃ row e, (handovers trace)[k]? = some (⟨kind, t, row⟩, .error e) ∧
    result = Outcome.fail (flussErr e)

theorem last_of_ne {α : Type} {xs : List α} {y z : α} {k : Nat} (found : (xs ++ [y])[k]? = some z)
    (other : z ∉ xs) : k = xs.length ∧ z = y := by
  have bound := (List.getElem?_eq_some_iff.mp found).1
  rw [List.length_append, List.length_singleton] at bound
  rcases Nat.lt_or_eq_of_le (Nat.lt_succ_iff.mp bound) with before | last
  · rw [List.getElem?_append_left before] at found
    exact absurd (List.mem_of_getElem? found) other
  · subst last
    rw [List.getElem?_concat_length] at found
    exact ⟨rfl, (Option.some.inj found).symm⟩

/-- The rows before the rejected one have been accepted, by the same writer; nothing else has been
handed over. -/
theorem WriteTrace.handovers_of_rejected {kind : WriteKind} {rows : List GenericRow}
    {trace : List Exchange}
    {result : Outcome GatewayError WriteResult} (wrote : WriteTrace kind rows trace result)
    {k : Nat} {t : FlussTable}
    (rejected : RejectedAt kind trace result k t) : ∃ row e, rows[k]? = some row ∧
      handovers trace = (rows.take k).map (fun row => (⟨kind, t, row⟩, .ok ())) ++
      [(⟨kind, t, row⟩, .error e)] := by
  obtain ⟨row, e, answer, _⟩ := rejected
  cases wrote with
  | early quiet =>
    -- Nothing was handed over, so nothing was rejected.
    rw [handovers_quiet quiet] at answer
    cases answer
  | @rejected setup t' k' row' e' quiet found =>
    have here : handovers [kind.send t' row' (.error e')] = [(⟨kind, t', row'⟩, .error e')] := by
      simp [handovers]
    rw [handovers_append, handovers_append, handovers_quiet quiet, handovers_send, here,
      List.nil_append] at answer ⊢
    have size : (rows.take k').length = k' := by
      have small := (List.getElem?_eq_some_iff.mp found).1
      rw [List.length_take]
      omega
    -- The answers before the last are acceptances, so the rejection is the last.
    have other : ((⟨kind, t, row⟩ : Handover), (.error e : Except FlussError Unit)) ∉
        (rows.take k').map fun row => (⟨kind, t', row⟩, .ok ()) := by
      intro accepted
      obtain ⟨_, _, same⟩ := List.mem_map.mp accepted
      cases same
    obtain ⟨place, same⟩ := last_of_ne answer other
    rw [List.length_map, size] at place
    subst place
    cases same
    exact ⟨row, e, found, rfl⟩
  | unflushed quiet | flushed quiet =>
    rw [handovers_append, handovers_append, handovers_quiet quiet, handovers_send,
      List.nil_append] at answer
    simp [handovers] at answer

theorem WriteTrace.handovers_of_ok {kind : WriteKind} {rows : List GenericRow}
    {trace : List Exchange}
    {w : WriteResult} (wrote : WriteTrace kind rows trace (.ok w)) : w.rowCount = rows.length ∧
      ∃ t before, trace = before ++ [kind.flush t (.ok ())] ∧
        handovers before = rows.map fun row => (⟨kind, t, row⟩, .ok ()) := by
  generalize same : (Except.ok w : Outcome GatewayError WriteResult) = result at wrote
  cases wrote with
  | early | rejected | unflushed => cases same
  | @flushed setup t quiet =>
    cases same
    refine ⟨rfl, t, _, (List.append_assoc _ _ _).symm, ?_⟩
    rw [handovers_append, handovers_quiet quiet, handovers_send, List.nil_append]

/-! ## What is left behind -/

section LeftBehind

variable (sha256 : Sha256) (formats : Codec.Formats) (debug : Codec.Debug) (backend : FlussBackend)

/-- Requests other than `request` with the credentials `pair`, side by side; the pool has given each
of them the connection `conn`. -/
structure Later (pair : String × String) (conn : Connection) (request : Nat)
    (later : List (Nat × Exchange)) : Prop where
  others : ∀ e ∈ later, e.1 ≠ request
  requests : ∀ id, Schedule.own id later = [] ∨ ∃ creds op trace, backend.pair creds = pair ∧
    Schedule.own id later = ⟨.cacheGet (backend.key sha256 creds), some conn⟩ :: trace ∧
    (backend.perform sha256 formats debug creds op).Follows (Schedule.own id later)

/-- After a rejected row nothing of the batch is written, then or later; a write that returns has
handed over each row once, in order, before its flush. -/
structure AllOrNothing (kind : WriteKind) (rows : List GenericRow)
    (creds : Option Auth.BasicAuthCredentials) (request : Nat) (history : List (Nat × Exchange))
    (result : Outcome GatewayError WriteResult) : Prop where
  failed : ∀ k t, RejectedAt kind (Schedule.own request history) result k t →
    ∀ later, Later sha256 formats debug backend (backend.pair creds) t.conn request later →
    ∀ world, Outbox.Runs .empty (effects (history ++ later)) world →
      ∀ item ∈ world.written, item.1 ≠ request
  succeeded : ∀ w, result = .ok w → w.rowCount = rows.length ∧
    ∃ t before, Schedule.own request history = before ++ [kind.flush t (.ok ())] ∧
      handovers before = rows.map fun row => (⟨kind, t, row⟩, .ok ())

variable {sha256 formats debug backend}

/-- What is written of a request it has handed over itself, and the writer has accepted it. -/
theorem accepted_of_written {request : Nat} {history later : List (Nat × Exchange)}
    (others : ∀ e ∈ later, e.1 ≠ request) {world : Outbox.State Connection (Nat × Handover)}
    (run : Outbox.Runs .empty (effects (history ++ later)) world)
    {item : Nat × Handover} (written : item ∈ world.written) (own : item.1 = request) :
    (item.2, .ok ()) ∈ handovers (Schedule.own request history) := by
  obtain ⟨conn, put⟩ := run.put_of_written written
  obtain ⟨⟨id, e⟩, member, effect⟩ := List.mem_map.mp put
  obtain ⟨tag, accepted⟩ := handover_of_put effect
  rw [own] at tag
  -- The queues are empty before the history, so the row was put into one by a call on record.
  rcases List.mem_append.mp member with before | after
  · exact List.mem_filterMap.mpr ⟨e, Schedule.mem_own.mpr (tag ▸ before), accepted⟩
  · exact absurd tag.symm (others _ after)

/-- A log table of the connection. -/
def logTable (conn : Connection) : FlussTable := ⟨conn, ⟨"", ""⟩, ⟨⟨[], none⟩, false, 0, 0⟩⟩

/-- The calls of a request that appends no rows to a log table. -/
def emptyAppend (key : CredentialKey) (conn : Connection) : List Exchange :=
  [⟨.cacheGet key, some conn⟩, ⟨.getTable conn ⟨"", ""⟩, .ok (logTable conn).info⟩,
    ⟨.newAppend (logTable conn), .ok ()⟩,
   ⟨.createAppendWriter (logTable conn), .ok ()⟩, ⟨.flushAppends (logTable conn), .ok ()⟩]

theorem own_map_self (id : Nat) (trace : List Exchange) :
    Schedule.own id (trace.map fun e => (id, e)) = trace := by
  simp [Schedule.own, List.filterMap_map]

theorem emptyAppend_later (creds : Option Auth.BasicAuthCredentials) (conn : Connection)
    (request : Nat) :
    Later sha256 formats debug backend (backend.pair creds) conn request
      ((emptyAppend (backend.key sha256 creds) conn).map fun e => (request + 1, e)) := by
  refine ⟨fun e member => ?_, fun id => ?_⟩
  · obtain ⟨_, _, rfl⟩ := List.mem_map.mp member
    exact Nat.succ_ne_self request
  · by_cases same : id = request + 1
    · subst same
      rw [own_map_self]
      exact .inr ⟨creds, .appendRows "" "" [], _, rfl, rfl,
        .call (.call (.call (.call (.call (.here _)))))⟩
    · refine .inl (List.filterMap_eq_nil_iff.mpr fun e member => ?_)
      obtain ⟨_, _, rfl⟩ := List.mem_map.mp member
      exact if_neg (Ne.symm same)

/-- A row accepted before another is rejected is written by the next flush of the user. -/
theorem written_of_accepted {creds : Option Auth.BasicAuthCredentials} {request : Nat}
    {history : List (Nat × Exchange)} {x : Handover}
    (accepted : (x, .ok ()) ∈ handovers (Schedule.own request history)) :
    ∃ later, Later sha256 formats debug backend (backend.pair creds) x.table.conn request later ∧
      ∃ world, Outbox.Runs .empty (effects (history ++ later)) world ∧
      (request, x) ∈ world.written := by
  -- It need not write a row of its own: the flush of an empty batch is enough.
  refine ⟨_, emptyAppend_later creds x.table.conn request, ?_⟩
  obtain ⟨world, run⟩ := Outbox.Runs.possible .empty (effects (history ++
    (emptyAppend (backend.key sha256 creds) x.table.conn).map fun e => (request + 1, e)))
  refine ⟨world, run, ?_⟩
  obtain ⟨e, member, taken⟩ := List.mem_filterMap.mp accepted
  rw [effects, List.map_append] at run
  have put : .put x.table.conn (request, x) ∈ effects history :=
    List.mem_map.mpr ⟨(request, e), Schedule.mem_own.mp member, put_of_handover taken request⟩
  have flushed : ⟨.flushAppends (logTable x.table.conn), .ok ()⟩ ∈ emptyAppend
    (backend.key sha256 creds) x.table.conn := by
    simp [emptyAppend]
  exact run.put_flushed put (List.mem_map.mpr ⟨_, List.mem_map_of_mem flushed, rfl⟩)

/-- Whatever else is going on at the service: a write keeps its promise exactly when its writer
rejects no row but the first of the batch. -/
theorem allOrNothing_iff {kind : WriteKind} {db table : String} {rows : List GenericRow}
    {creds : Option Auth.BasicAuthCredentials} {request : Nat} {history : List (Nat × Exchange)}
    {result : Outcome GatewayError WriteResult}
    (ended : (kind.rows sha256 backend db table rows creds).Ends (Schedule.own request history) result) :
    AllOrNothing sha256 formats debug backend kind rows creds request history result ↔
      ∀ k t, RejectedAt kind (Schedule.own request history) result k t → k = 0 := by
  have wrote := writeRows_trace ended
  constructor
  · rintro promise k t rejected
    obtain ⟨row, e, found, handed⟩ := wrote.handovers_of_rejected rejected
    by_contra late
    -- The first row of the batch was accepted, so a later flush writes it.
    have small := (List.getElem?_eq_some_iff.mp found).1
    have first : rows[0] ∈ rows.take k := List.mem_take_iff_getElem.mpr ⟨0, by omega, rfl⟩
    have accepted : ((⟨kind, t, rows[0]⟩ : Handover), .ok ()) ∈ handovers
      (Schedule.own request history) := by
      rw [handed]
      exact List.mem_append_left _ (List.mem_map.mpr ⟨rows[0], first, rfl⟩)
    obtain ⟨later, after, world, run, written⟩ := written_of_accepted accepted
    exact promise.failed k t rejected later after world run _ written rfl
  · intro first
    refine ⟨fun k t rejected later after world run item written own => ?_, fun w returned => ?_⟩
    · -- No row comes before the rejected one, so its connection holds nothing of the batch.
      obtain rfl := first k t rejected
      obtain ⟨row, e, _, handed⟩ := wrote.handovers_of_rejected rejected
      have accepted := accepted_of_written after.others run written own
      rw [handed] at accepted
      have answers := congrArg Prod.snd (List.mem_singleton.mp accepted)
      cases answers
    · subst returned
      exact wrote.handovers_of_ok

end LeftBehind

/-! ## A batch of two rows -/

/-- A log table on the connection of `user`. -/
def eventLog : FlussTable :=
  ⟨sampleConnection, ⟨"app", "events"⟩, ⟨⟨[⟨"id", .int⟩], none⟩, false, 2, 1⟩⟩

def sampleUser : Option Auth.BasicAuthCredentials := some ⟨"user", ""⟩

def twoRows : List GenericRow := [⟨[.int32 1]⟩, ⟨[.null]⟩]

/-- The appender takes the first row and rejects the second. -/
def secondRejected : List (Nat × Exchange) := List.map (fun e => (0, e))
  [⟨.cacheGet (sampleBackend.key sampleSha256 sampleUser), some sampleConnection⟩,
   ⟨.getTable sampleConnection ⟨"app", "events"⟩, .ok eventLog.info⟩, ⟨.newAppend eventLog, .ok ()⟩,
   ⟨.createAppendWriter eventLog, .ok ()⟩, ⟨.append eventLog ⟨[.int32 1]⟩, .ok ()⟩,
   ⟨.append eventLog ⟨[.null]⟩, .error ⟨-1, "column id is not nullable"⟩⟩]

def notNullable : Outcome GatewayError WriteResult :=
  Outcome.fail (.flussError "column id is not nullable")

theorem secondRejected_ended :
    (WriteKind.append.rows sampleSha256 sampleBackend "app" "events" twoRows sampleUser).Ends
    (Schedule.own 0 secondRejected) notNullable := by
  rw [secondRejected, own_map_self]
  exact .call (.call (.call (.call (.call (.call (.done _))))))

theorem secondRejected_at : RejectedAt .append
    (Schedule.own 0 secondRejected) notNullable 1 eventLog := by
  rw [secondRejected, own_map_self]
  exact ⟨_, ⟨-1, "column id is not nullable"⟩, rfl, rfl⟩

theorem allOrNothing_iff_secondRejected :
    AllOrNothing sampleSha256 ⟨fun _ => "", fun _ => "", fun _ => ""⟩
      (fun _ _ => "") sampleBackend .append twoRows
      sampleUser 0 secondRejected notNullable ↔
    ∀ k t, RejectedAt .append (Schedule.own 0 secondRejected) notNullable k t → k = 0 :=
  allOrNothing_iff secondRejected_ended

/-- The write returns the error of the second row, and a later request of the user writes the
first. -/
theorem first_row_left_behind :
    (WriteKind.append.rows sampleSha256 sampleBackend "app" "events" twoRows sampleUser).Ends
      (Schedule.own 0 secondRejected) notNullable ∧
    ¬AllOrNothing sampleSha256 ⟨fun _ => "", fun _ => "", fun _ => ""⟩
      (fun _ _ => "") sampleBackend .append twoRows
      sampleUser 0 secondRejected notNullable := by
  refine ⟨secondRejected_ended, fun promise => ?_⟩
  have accepted : ((⟨.append, eventLog, ⟨[.int32 1]⟩⟩ : Handover), .ok ()) ∈ handovers
    (Schedule.own 0 secondRejected) := by
    rw [secondRejected, own_map_self]
    exact List.mem_cons_self
  obtain ⟨later, after, world, run, written⟩ := written_of_accepted accepted
  exact promise.failed 1 eventLog secondRejected_at later after world run _ written rfl

end FlussGateway.Backend
