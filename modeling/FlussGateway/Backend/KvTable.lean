import FlussGateway.Backend.Fluss
import FlussGateway.Foundation.KeyedContent

/-!
# A table with a primary key

What the gateway relies on when it writes to a primary-key table: changes queue up in call
order, an upsert sets its row at the row's key, a deletion removes the key, and a flush
settles what is queued. `Queues` and `Settles` state what a program does to the table.
-/
namespace FlussGateway.Backend

open FlussGateway.Foundation

abbrev RowChange := Change (List Codec.Datum) GenericRow

/-- A service seen as one primary-key table: its settled content and the queued changes. -/
structure KvTable (σ : Type) where
  service : Service σ
  path : TablePath
  schema : Schema
  stored : σ → Content (List Codec.Datum) GenericRow
  queued : σ → List RowChange
  described : ∀ conn s info, (service (.getTable conn path) s).1 = .ok info → info.schema = schema
  upserted : ∀ t row s, t.path = path → (service (.upsert t row) s).1 = .ok () →
    stored (service (.upsert t row) s).2 = stored s ∧
    queued (service (.upsert t row) s).2 = queued s ++ [.set (schema.key row) row]
  deleted : ∀ t row s, t.path = path → (service (.delete t row) s).1 = .ok () →
    stored (service (.delete t row) s).2 = stored s ∧
    queued (service (.delete t row) s).2 = queued s ++ [.remove (schema.key row)]
  flushed : ∀ t s, t.path = path → (service (.flushUpserts t) s).1 = .ok () →
    stored (service (.flushUpserts t) s).2 = (stored s).replay (queued s) ∧
    queued (service (.flushUpserts t) s).2 = []
  quiet : ∀ op s, op.writes = false →
    stored (service op s).2 = stored s ∧ queued (service op s).2 = queued s

namespace KvTable

variable {σ α β : Type} (kv : KvTable σ)

/-- What the table holds once everything queued has been settled. -/
def content (s : σ) : Content (List Codec.Datum) GenericRow := (kv.stored s).replay (kv.queued s)

/-- The change a call asks for. -/
def change : Call → Option RowChange
  | .upsert _ row => some (.set (kv.schema.key row) row)
  | .delete _ row => some (.remove (kv.schema.key row))
  | _ => none

/-- The changes asked for by the calls of a run, in order. -/
def issued (cs : List Call) : List RowChange := cs.filterMap kv.change

/-- A program that, when it returns, has queued just these changes. -/
def Queues (p : Gateway α) (Q : α → Prop) (changes : List RowChange) : Prop :=
  p.Post kv.service fun s cs a s' =>
    Q a ∧ kv.stored s' = kv.stored s ∧ kv.queued s' = kv.queued s ++ changes ∧ kv.issued cs = changes

/-- A program that, when it returns, has queued these changes and settled everything. -/
def Settles (p : Gateway α) (Q : α → Prop) (changes : List RowChange) : Prop :=
  p.Post kv.service fun s cs a s' =>
    Q a ∧ kv.stored s' = (kv.content s).replay changes ∧ kv.queued s' = [] ∧ kv.issued cs = changes

variable {kv}

theorem issued_quiet {cs : List Call} (silent : ∀ op ∈ cs, op.writes = false) : kv.issued cs = [] := by
  refine List.filterMap_eq_nil_iff.mpr fun op member => ?_
  cases op <;> first | rfl | cases silent _ member

theorem queues_quiet {p : Gateway α} (silent : p.Always fun op => op.writes = false) :
    kv.Queues p (fun _ => True) [] := by
  intro s a s' returned
  -- No call of the run writes, so each step leaves both parts of the table as they are.
  have kept : kv.stored (p.run kv.service s).2 = kv.stored s ∧ kv.queued (p.run kv.service s).2 = kv.queued s :=
    silent.run_preserves (I := fun s' => kv.stored s' = kv.stored s ∧ kv.queued s' = kv.queued s)
      (fun op mid quiet inv => ⟨(kv.quiet op mid quiet).1.trans inv.1, (kv.quiet op mid quiet).2.trans inv.2⟩)
      ⟨rfl, rfl⟩
  rw [returned] at kept
  exact ⟨trivial, kept.1, by rw [kept.2, List.append_nil], issued_quiet fun _ => silent.of_mem_calls⟩

/-- What is known of the values a program returns may be strengthened apart from its effect. -/
theorem Queues.value {p : Gateway α} {Q R : α → Prop} {cs : List RowChange} (queues : kv.Queues p Q cs)
    (known : ∀ s a s', p.run kv.service s = (.ok a, s') → R a) : kv.Queues p R cs :=
  fun s a s' returned => ⟨known s a s' returned, (queues s a s' returned).2⟩

theorem queues_lift (result : Outcome GatewayError α) :
    kv.Queues (Program.lift result) (fun a => result = .ok a) [] := by
  refine (Program.Post.lift result).mono ?_
  rintro s cs a s' ⟨returned, rfl, rfl⟩
  exact ⟨returned, rfl, (List.append_nil _).symm, rfl⟩

theorem Queues.weaken {p : Gateway α} {Q R : α → Prop} {cs : List RowChange}
    (queues : kv.Queues p Q cs) (weaker : ∀ a, Q a → R a) : kv.Queues p R cs :=
  queues.mono fun _ _ _ _ ⟨value, rest⟩ => ⟨weaker _ value, rest⟩

theorem issued_append (cs ds : List Call) : kv.issued (cs ++ ds) = kv.issued cs ++ kv.issued ds :=
  List.filterMap_append

theorem Queues.bind {p : Gateway α} {f : α → Gateway β} {Q : α → Prop} {R : β → Prop}
    {cs ds : List RowChange} (first : kv.Queues p Q cs) (rest : ∀ a, Q a → kv.Queues (f a) R ds) :
    kv.Queues (p >>= f) R (cs ++ ds) := by
  refine Program.Post.bind first rest ?_
  rintro s cs' mid ds' b s' ⟨stored, queued, calls⟩ ⟨value', stored', queued', calls'⟩
  exact ⟨value', stored'.trans stored, by rw [queued', queued, List.append_assoc],
    by rw [issued_append, calls, calls']⟩

/-- What is queued first is settled with the rest. -/
theorem Queues.settles {p : Gateway α} {f : α → Gateway β} {Q : α → Prop} {R : β → Prop}
    {cs ds : List RowChange} (first : kv.Queues p Q cs) (rest : ∀ a, Q a → kv.Settles (f a) R ds) :
    kv.Settles (p >>= f) R (cs ++ ds) := by
  refine Program.Post.bind first rest ?_
  rintro s cs' mid ds' b s' ⟨stored, queued, calls⟩ ⟨value', stored', queued', calls'⟩
  refine ⟨value', ?_, queued', by rw [issued_append, calls, calls']⟩
  -- Replaying the queue, then the new changes, is replaying all of them in order.
  rw [stored', content, stored, queued, Content.replay_append, Content.replay_append, content]

theorem Queues.quietly {p : Gateway α} {f : α → Gateway β} {Q : α → Prop} {R : β → Prop}
    {ds : List RowChange} (first : kv.Queues p Q []) (rest : ∀ a, Q a → kv.Settles (f a) R ds) :
    kv.Settles (p >>= f) R ds :=
  first.settles rest

theorem Settles.weaken {p : Gateway α} {Q R : α → Prop} {cs : List RowChange}
    (settles : kv.Settles p Q cs) (weaker : ∀ a, Q a → R a) : kv.Settles p R cs :=
  settles.mono fun _ _ _ _ ⟨value, rest⟩ => ⟨weaker _ value, rest⟩

/-- A value computed after everything has been settled. -/
theorem Settles.returns {p : Gateway α} {Q : α → Prop} {cs : List RowChange} (settles : kv.Settles p Q cs)
    (b : β) : kv.Settles (p >>= fun _ => Program.done (.ok b)) (fun b' => b' = b) cs := by
  intro s b' s' returned
  obtain ⟨a, mid, ran, ended⟩ := Program.run_bind_ok returned
  rw [Program.calls_bind_ok _ ran]
  obtain ⟨_, stored, queued, calls⟩ := settles s a mid ran
  cases ended
  exact ⟨rfl, stored, queued, by rw [issued_append, calls, Program.calls_done]; exact List.append_nil _⟩

theorem settles_fail (e : GatewayError) (Q : α → Prop) (cs : List RowChange) :
    kv.Settles (Program.lift (Outcome.fail e)) Q cs := by
  intro s a s' returned
  cases returned

/-! ## The client's calls -/

/-- One call with a reply that is a value or an error of the client. -/
theorem run_fallible {σ : Type} {h : Service σ} {op : Call} {reply : Except FlussError α}
    {f : op.Reply → Gateway α} {s s' : σ} {a : α} (answer : f (h op s).1 = orFlussErr reply)
    (returned : (Program.call op f).run h s = (.ok a, s')) : reply = .ok a ∧ s' = (h op s).2 := by
  rw [Program.run_call, answer, run_orFlussErr, Prod.mk.injEq] at returned
  exact ⟨by simpa using returned.1, returned.2.symm⟩

theorem getTable_quiet (conn : Connection) (path : TablePath) :
    (conn.getTable path).Always fun op => op.writes = false :=
  Program.always_bind ⟨rfl, orFlussErr_always⟩ fun _ => trivial

theorem queues_getTable (conn : Connection) {path : TablePath} (here : path = kv.path) :
    kv.Queues (conn.getTable path) (fun t => t.path = kv.path ∧ t.info.schema = kv.schema) [] := by
  subst here
  refine (queues_quiet (getTable_quiet conn kv.path)).value fun s t s' returned => ?_
  obtain ⟨info, mid, asked, ended⟩ := Program.run_bind_ok returned
  obtain ⟨reply, _⟩ := run_fallible rfl asked
  cases ended
  exact ⟨rfl, kv.described conn s info reply⟩

theorem queues_upsert {t : FlussTable} (here : t.path = kv.path) (row : GenericRow) :
    kv.Queues (t.upsert row) (fun _ => True) [.set (kv.schema.key row) row] := by
  intro s _ s' returned
  obtain ⟨reply, rfl⟩ := run_fallible rfl returned
  obtain ⟨stored, queued⟩ := kv.upserted t row s here reply
  exact ⟨trivial, stored, queued, rfl⟩

theorem queues_delete {t : FlussTable} (here : t.path = kv.path) (row : GenericRow) :
    kv.Queues (t.delete row) (fun _ => True) [.remove (kv.schema.key row)] := by
  intro s _ s' returned
  obtain ⟨reply, rfl⟩ := run_fallible rfl returned
  obtain ⟨stored, queued⟩ := kv.deleted t row s here reply
  exact ⟨trivial, stored, queued, rfl⟩

theorem settles_flushUpserts {t : FlussTable} (here : t.path = kv.path) :
    kv.Settles t.flushUpserts (fun _ => True) [] := by
  intro s _ s' returned
  obtain ⟨reply, rfl⟩ := run_fallible rfl returned
  obtain ⟨stored, queued⟩ := kv.flushed t s here reply
  exact ⟨trivial, stored, queued, rfl⟩

end KvTable

/-! ## A service in memory -/

/-- A cluster with one primary-key table, and a cache that keeps every connection. -/
structure Memory where
  cache : CredentialKey → Option Connection
  connections : Nat
  stored : Content (List Codec.Datum) GenericRow
  queued : List RowChange

namespace Memory

def empty : Memory := ⟨fun _ => none, 0, fun _ => none, []⟩

def unknownTable : FlussError := ⟨7, "table does not exist"⟩

def enqueue (s : Memory) (c : RowChange) : Memory := { s with queued := s.queued ++ [c] }

def settle (s : Memory) : Memory := { s with stored := s.stored.replay s.queued, queued := [] }

variable (path : TablePath) (info : TableInfo)

def service : Service Memory
  | .cacheGet key, s => (s.cache key, s)
  | .cacheInsert key conn, s => ((), { s with cache := Function.update s.cache key (some conn) })
  | .connect _, s => (.ok s.connections, { s with connections := s.connections + 1 })
  | .getTable _ p, s => (if p = path then .ok info else .error unknownTable, s)
  | .newUpsert _, s => (.ok (), s)
  | .createUpsertWriter _, s => (.ok (), s)
  | .upsert t row, s =>
    if t.path = path then (.ok (), s.enqueue (.set (info.schema.key row) row)) else (.error unknownTable, s)
  | .delete t row, s =>
    if t.path = path then (.ok (), s.enqueue (.remove (info.schema.key row))) else (.error unknownTable, s)
  | .flushUpserts t, s => if t.path = path then (.ok (), s.settle) else (.error unknownTable, s)
  | .newAppend _, s => (.error unknownTable, s)
  | .createAppendWriter _, s => (.error unknownTable, s)
  | .append _ _, s => (.error unknownTable, s)
  | .flushAppends _, s => (.error unknownTable, s)
  | .newLookup _, s => (.ok (), s)
  | .createLookuper _, s => (.ok (), s)
  | .lookup _ _, s => (.ok ⟨.ok ⟨[], ⟨0, fun j => j.elim0, fun j => j.elim0⟩⟩⟩, s)
  | .project _ _, s => (.ok (), s)
  | .createScanner _, s => (.ok (), s)
  | .subscribe _ _, s => (.ok (), s)
  | .poll _ _, s => (.ok [], s)
  | .getAdmin _, s => (.ok (), s)
  | .listDatabases _, s => (.ok [path.database], s)
  | .listTables _ _, s => (.ok [path.table], s)
  | .createDatabase _ _ _ _, s => (.error unknownTable, s)
  | .dropDatabase _ _ _ _, s => (.error unknownTable, s)
  | .buildTable _, s => (.ok (), s)
  | .createTable _ _ _ _, s => (.error unknownTable, s)
  | .dropTable _ _ _, s => (.error unknownTable, s)
  | .listOffsets _ _ _ _, s => (.ok [], s)
  | .listPartitionInfos _ _, s => (.ok [], s)

def table : KvTable Memory where
  service := service path info
  path := path
  schema := info.schema
  stored := stored
  queued := queued
  described conn s i returned := by
    simp only [service, if_true, Except.ok.injEq] at returned
    rw [returned]
  upserted t row s here _ := by simp [service, here, enqueue]
  deleted t row s here _ := by simp [service, here, enqueue]
  flushed t s here _ := by simp [service, here, settle]
  quiet op s silent := by cases op <;> first | exact ⟨rfl, rfl⟩ | cases silent

end Memory

end FlussGateway.Backend
