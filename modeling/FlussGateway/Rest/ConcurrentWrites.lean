import FlussGateway.Backend.SharedLookup
import FlussGateway.Rest.ChangeTypes
import FlussGateway.Rest.ErrorOrigin
import FlussGateway.Rest.WriteSchema

/-!
# Requests that write to one table

Any requests are served at once, their calls in any order. What they leave in a table is what some
one sequence of changes leaves, in which every request appears with a first part of its own
changes, in order, and with all of them once it has been answered with success.
-/
namespace FlussGateway.Rest

open FlussGateway.Foundation FlussGateway.Backend FlussGateway.Codec

/-- The changes a write request asks of a table with this schema. -/
def requestChanges (formats : Formats) (schema : Schema) (req : ProduceRequest) : List RowChange :=
  match convertRows formats schema.columns 0 req.rows with
  | .ok rows => batchChanges schema req.rows rows
  | .error _ => []

/-- The changes a request asks of the table at a path; only writes to that table ask for any. -/
def Server.changes (server : Server) (path : TablePath) (schema : Schema) (req : Request) :
    List RowChange :=
  match server.receive req with
  | .ok (.produce db table body) =>
    if ⟨db, table⟩ = path then requestChanges server.library.formats schema body else []
  | _ => []

/-- Those of the changes that name a key. -/
def Server.changesAt (server : Server) (path : TablePath) (schema : Schema) (req : Request)
    (k : List Datum) : List RowChange := Change.naming k (server.changes path schema req)

section Produce

variable {σ ι : Type} [DecidableEq ι] (table : SharedTable σ ι) {sha256 : Sha256} {formats : Formats} {state : AppState}
  {ext : Option Auth.BasicAuthCredentials} {req : ProduceRequest} {trace : List Exchange}

/-- The rows are sent as the changes of the batch. -/
theorem writeKind_changes {info : TableInfo} (keyed : info.schema.primaryKey.isSome = true)
    (schema : Schema) (rows : List GenericRow) :
    rows.filterMap ((writeKind info req).change schema) = batchChanges schema req.rows rows := by
  unfold writeKind batchChanges
  rw [if_pos keyed]
  split <;> exact congrFun (List.filterMap_eq_map (f := _)) rows

/-- What `produce` has put so far are the first changes of the request, all through one connection. -/
theorem produce_puts (follows : (produce sha256 formats state table.path.database table.path.table ext
      req).Follows trace) (described : table.Described trace) :
    table.putChanges trace <+: requestChanges formats table.schema req ∧
    ∃ conn, table.PutsThrough conn trace := by
  have silent : ∀ {part : List Exchange}, table.putChanges part = [] →
      table.putChanges part <+: requestChanges formats table.schema req := by
    intro part none
    rw [none]
    exact List.nil_prefix
  rw [produce_eq] at follows
  rcases Program.follows_bind follows with refused | ⟨creds, _, _, admitted, asked, rfl⟩
  · rw [Program.follows_lift refused]
    exact ⟨List.nil_prefix, default, nofun⟩
  rw [(Program.ends_lift admitted).1, List.nil_append] at described ⊢
  rcases Program.follows_bind asked with reading | ⟨info, first, rest, read, converting, rfl⟩
  · have quiet := (getTableInfo_quiet creds).of_follows reading
    refine ⟨silent (table.putChanges_always (getTableInfo_quiet creds) reading), default, ?_⟩
    exact fun e member b c put => absurd (table.of_put put).2.2 (effect_of_quiet (quiet e member))
  have quiet := (getTableInfo_quiet creds).of_ends read
  have none := table.putChanges_always (getTableInfo_quiet creds) read.follows
  -- The columns the rows are converted with are the table's own.
  have known : info.schema = table.schema := by
    obtain ⟨before, conn, rfl⟩ := getTableInfo_ends read
    exact described conn info (by simp)
  rcases Program.follows_bind converting with failed | ⟨rows, _, _, converted, writing, rfl⟩
  · rw [Program.follows_lift failed, List.append_nil]
    refine ⟨silent none, default, ?_⟩
    exact fun e member b c put => absurd (table.of_put put).2.2 (effect_of_quiet (quiet e member))
  obtain ⟨rfl, result⟩ := Program.ends_lift converted
  rw [List.nil_append]
  have keyed : info.schema.primaryKey.isSome = true := by rw [known]; exact table.primary
  have asks : requestChanges formats table.schema req = batchChanges table.schema req.rows rows := by
    rw [requestChanges, ← known, result]
  obtain ⟨conn, through⟩ := table.putsThrough_of_keeps table.rows_keeps writing
  refine ⟨?_, conn, fun e member b c put => ?_⟩
  · rw [table.putChanges_append, none, List.nil_append, asks, ← writeKind_changes keyed]
    exact table.rows_puts writing
  · rcases List.mem_append.mp member with early | late
    · exact absurd (table.of_put put).2.2 (effect_of_quiet (quiet e early))
    · exact through e late b c put

/-- A `produce` that returns has put all of the request's changes, and flushed them. -/
theorem produce_put {w : WriteResult} (ended : (produce sha256 formats state table.path.database
      table.path.table ext req).Ends trace (.ok w)) (described : table.Described trace) :
    table.putChanges trace = requestChanges formats table.schema req ∧
    ∃ before conn, trace.map table.event = before ++ [.flush fun b => b.1 = conn] ∧
      table.PutsThrough conn trace := by
  rw [produce_eq] at ended
  rcases Program.ends_bind ended with ⟨_, _, same⟩ | ⟨creds, _, _, admitted, asked, rfl⟩
  · cases same
  rw [(Program.ends_lift admitted).1, List.nil_append] at described ⊢
  rcases Program.ends_bind asked with ⟨_, _, same⟩ | ⟨info, first, rest, read, converting, rfl⟩
  · cases same
  rcases Program.ends_bind converting with ⟨_, _, same⟩ | ⟨rows, _, _, converted, wrote, rfl⟩
  · cases same
  obtain ⟨rfl, result⟩ := Program.ends_lift converted
  rw [List.nil_append] at described ⊢
  have known : info.schema = table.schema := by
    obtain ⟨before, conn, rfl⟩ := getTableInfo_ends read
    exact described conn info (by simp)
  have keyed : info.schema.primaryKey.isSome = true := by rw [known]; exact table.primary
  have notAppend : writeKind info req ≠ .append := by
    unfold writeKind
    rw [if_pos keyed]
    split <;> nofun
  have quiet := (getTableInfo_quiet creds).of_ends read
  obtain ⟨all, before, conn, last, through⟩ := table.rows_put notAppend wrote
  refine ⟨?_, first.map table.event ++ before, conn, ?_, ?_⟩
  · rw [table.putChanges_append, table.putChanges_always (getTableInfo_quiet creds) read.follows,
      List.nil_append, all, writeKind_changes keyed, requestChanges, ← known, result]
  · rw [List.map_append, last, List.append_assoc]
  · intro e member b c put
    rcases List.mem_append.mp member with early | late
    · exact absurd (table.of_put put).2.2 (effect_of_quiet (quiet e early))
    · exact through e late b c put

end Produce

/-! ## Any request -/

section Requests

variable {σ ι : Type} [DecidableEq ι] (table : SharedTable σ ι) {server : Server} {sha256 : Sha256}
  {debug : Debug} {backend : FlussBackend} {req : Request} {trace : List Exchange}

/-- The calls of a request that got to its handler are the handler's. -/
theorem program_follows {invocation : Invocation} (received : server.receive req = .ok invocation)
    (follows : (server.program sha256 debug backend req).Follows trace) :
    ((invocation.run server.library server.authType (req.credentials server.base64)).translate
      (BackendCall.impl sha256 server.library.formats debug backend)).Follows trace := by
  unfold Server.program at follows
  rw [serve_eq, received] at follows
  simp only [Invocation.answer, Program.translate_bind,
    Program.translate_attempt (impl_caught server.library.formats)] at follows
  rcases Program.follows_bind follows with answering | ⟨response, _, after, answered, finished, rfl⟩
  · rcases Program.follows_bind answering with running | ⟨reply, _, _, ran, responded, rfl⟩
    · exact Program.follows_attempt running
    · cases reply <;> rw [Program.follows_lift responded, List.append_nil] <;>
        exact Program.follows_attempt ran.follows
  · rw [Program.follows_lift finished, List.append_nil]
    rcases Program.ends_bind answered with ⟨_, _, same⟩ | ⟨reply, _, _, ran, responded, rfl⟩
    · cases same
    · cases reply <;> cases responded <;> rw [List.append_nil] <;>
        exact Program.follows_attempt ran.follows

/-- Only a write to the table puts anything there. -/
theorem request_silent (others : ∀ body, server.receive req ≠
      .ok (.produce table.path.database table.path.table body))
    (follows : (server.program sha256 debug backend req).Follows trace) :
    ∀ e ∈ trace, ∀ b c, table.event e ≠ .put b c := by
  intro e member b c put
  obtain ⟨_, scope, effect⟩ := table.of_put put
  cases received : server.receive req with
  | error refusal =>
    unfold Server.program at follows
    rw [serve_eq, received] at follows
    cases follows
    cases member
  | ok invocation =>
    cases identified : server.identity req with
    | error fault =>
      obtain ⟨response, same⟩ := serve_anonymous identified
      unfold Server.program at follows
      rw [same] at follows
      cases follows
      cases member
    | ok creds =>
      have always := program_always sha256 debug backend received identified
      rcases always.of_follows follows e member with takes | ⟨part, here, within⟩
      · rw [takes.silent.2.1] at scope
        cases scope
      · -- The request changes rows of this table, and so is a write to it.
        rw [← within.scope _ scope] at here
        have rows := within.effect _ effect
        cases invocation with
        | produce db name body =>
          have same : (⟨db, name⟩ : TablePath) = table.path := by simpa [Invocation.scope] using here
          exact others body (by rw [received, ← same])
        | _ => cases rows

theorem run_produce (library : Library) (authType : Config.AuthType)
    (ext : Option Auth.BasicAuthCredentials) (db name : String) (body : ProduceRequest) :
    ((Invocation.produce db name body).run library authType ext).translate
      (BackendCall.impl sha256 library.formats debug backend) =
    (produce sha256 library.formats ⟨backend, authType⟩ db name ext body >>= fun w =>
      pure (.json 200 (writeResult w))) := by
  rw [← produce_translate]
  exact Program.translate_bind ..

theorem changes_produce {body : ProduceRequest}
    (received : server.receive req = .ok (.produce table.path.database table.path.table body)) :
    server.changes table.path table.schema req =
      requestChanges server.library.formats table.schema body := by
  simp [Server.changes, received]

theorem changes_others (others : ∀ body, server.receive req ≠
      .ok (.produce table.path.database table.path.table body)) :
    server.changes table.path table.schema req = [] := by
  unfold Server.changes
  split
  next db name body received =>
    refine if_neg fun same => others body ?_
    rw [received, ← same]
  next => rfl

/-- What a request has put so far are the first of the changes it asks for. -/
theorem request_puts (follows : (server.program sha256 debug backend req).Follows trace)
    (described : table.Described trace) :
    (∃ conn, table.PutsThrough conn trace) ∧
    table.putChanges trace <+: server.changes table.path table.schema req := by
  by_cases writes : ∃ body, server.receive req =
    .ok (.produce table.path.database table.path.table body)
  · obtain ⟨body, received⟩ := writes
    have calls := program_follows received follows
    rw [run_produce] at calls
    have asking : (produce sha256 server.library.formats ⟨backend, server.authType⟩
        table.path.database table.path.table (req.credentials server.base64) body).Follows trace := by
      rcases Program.follows_bind calls with asking | ⟨_, _, _, asked, responded, rfl⟩
      · exact asking
      · rw [Program.follows_lift responded, List.append_nil]
        exact asked.follows
    obtain ⟨first, through⟩ := produce_puts table asking described
    rw [changes_produce table received]
    exact ⟨through, first⟩
  · have silent := request_silent table (fun body received => writes ⟨body, received⟩) follows
    exact ⟨⟨default, fun e member b c put => absurd put (silent e member b c)⟩,
      by rw [table.putChanges_silent silent]; exact List.nil_prefix⟩

/-- Everything the events put is flushed later. -/
def Flushed (events : List (TableEvent ι)) : Prop :=
  ∀ front b c back, events = front ++ .put b c :: back → .flush (fun b' => b'.1 = b.1) ∈ back

theorem flushed_of_last {conn : Connection} {before : List (TableEvent ι)}
    (last : trace.map table.event = before ++ [.flush fun b => b.1 = conn])
    (through : table.PutsThrough conn trace) : Flushed (trace.map table.event) := by
  intro front b c back split
  obtain ⟨e, member, put⟩ := List.mem_map.mp (split ▸ List.mem_append_right front List.mem_cons_self :
    .put b c ∈ trace.map table.event)
  have own : b.1 = conn := through e member b c put
  rw [last] at split
  rcases List.eq_nil_or_concat back with rfl | ⟨back, final, rfl⟩
  · cases (List.append_inj' split rfl).2
  · rw [List.concat_eq_append, ← List.cons_append, ← List.append_assoc] at split
    cases (List.append_inj' split rfl).2
    rw [own, List.concat_eq_append]
    exact List.mem_append_right _ (List.mem_singleton_self _)

/-- A response that is a success is what the handler has returned. -/
theorem handler_returned {α : Type} {invocation : Invocation} {handler : Gateway α}
    {respond : α → Response} (received : server.receive req = .ok invocation)
    (runs : (invocation.run server.library server.authType (req.credentials server.base64)).translate
      (BackendCall.impl sha256 server.library.formats debug backend) =
        handler >>= fun value => pure (respond value)) {response : Response}
    (ended : (server.program sha256 debug backend req).Ends trace (.ok response))
    (success : response.status = 200) :
    ∃ value, handler.Ends trace (.ok value) ∧ response = Server.finish req.method (respond value) := by
  obtain ⟨inner, ran, same⟩ := program_ends received ended
  rw [runs] at ran
  rcases Program.ends_bind ran with ⟨fault, _, rfl⟩ | ⟨value, _, _, returned, responded, rfl⟩
  · -- An error's response is no success.
    cases fault with
    | panic msg => cases same
    | err e =>
      cases same
      rw [status_finish] at success
      exact absurd success (by cases e <;> nofun)
  · cases responded
    cases same
    rw [List.append_nil]
    exact ⟨value, returned, rfl⟩

/-- A request answered with success has put all the changes it asks for, and flushed them. -/
theorem request_put {response : Response}
    (ended : (server.program sha256 debug backend req).Ends trace (.ok response))
    (success : response.status = 200) (described : table.Described trace) :
    table.putChanges trace = server.changes table.path table.schema req ∧
    Flushed (trace.map table.event) := by
  by_cases writes : ∃ body, server.receive req =
    .ok (.produce table.path.database table.path.table body)
  · obtain ⟨body, received⟩ := writes
    obtain ⟨w, wrote, _⟩ := handler_returned received (run_produce ..) ended success
    obtain ⟨all, before, conn, last, through⟩ := produce_put table wrote described
    rw [changes_produce table received]
    exact ⟨all, flushed_of_last table last through⟩
  · have others := fun body received => writes ⟨body, received⟩
    have silent := request_silent table others ended.follows
    refine ⟨by rw [table.putChanges_silent silent, changes_others table others], ?_⟩
    intro front b c back split
    obtain ⟨e, member, put⟩ := List.mem_map.mp (split ▸ List.mem_append_right front
      List.mem_cons_self : .put b c ∈ trace.map table.event)
    exact absurd put (silent e member b c)

end Requests

/-! ## Requests side by side -/

section Interleaving

variable {σ ι : Type} [DecidableEq ι] (table : SharedTable σ ι) {server : Server} {sha256 : Sha256}
  {debug : Debug} {backend : FlussBackend}

theorem not_waits {id : Nat} {b : Connection × ι} {history : List (Nat × Exchange)}
    (flushed : Flushed ((Schedule.own id history).map table.event)) :
    ¬WriteBehind.Waits (table.events history) id b := by
  rintro ⟨front, c, back, split, unflushed⟩
  have own := table.own_events id history
  rw [split, Schedule.own_append, Schedule.own_cons_self] at own
  have later := flushed _ b c _ own.symm
  exact unflushed id _ (Schedule.mem_own.mp later) rfl

/-- In this schedule the request has been answered with success. -/
def Succeeded (table : SharedTable σ ι) (server : Server) (sha256 : Sha256) (debug : Debug)
    (backend : FlussBackend) (calls : List (Nat × Call)) (s : σ) (id : Nat) (req : Request) : Prop :=
  ∃ response, response.status = 200 ∧ (server.program sha256 debug backend req).Ends
    (Schedule.own id (Schedule.recorded table.service calls s)) (.ok response)

/-- A sequence of changes that explains what a schedule leaves in the table. -/
structure Explains (table : SharedTable σ ι) (server : Server) (sha256 : Sha256) (debug : Debug)
    (backend : FlussBackend) (reqs : Nat → Request) (calls : List (Nat × Call)) (s : σ)
    (log : List (Nat × RowChange)) : Prop where
  stored : (table.view (Schedule.after table.service calls s)).stored =
    (table.view s).stored.replay (log.map Prod.snd)
  /-- Under every key it has a first part of the changes that a request asks for, in their order. -/
  first : ∀ id k, Change.naming k (Schedule.own id log) <+:
    server.changesAt table.path table.schema (reqs id) k
  /-- It has all of them once the request has been answered with success. -/
  all : ∀ id, Succeeded table server sha256 debug backend calls s id (reqs id) →
    ∀ k, Change.naming k (Schedule.own id log) =
      server.changesAt table.path table.schema (reqs id) k

theorem explained {s : σ} (empty : ∀ b, (table.view s).queued b = []) {calls : List (Nat × Call)}
    (kept : ∀ call ∈ calls, call.2.redefines table.path = false) {reqs : Nat → Request}
    (served : ∀ id, (server.program sha256 debug backend (reqs id)).Follows
      (Schedule.own id (Schedule.recorded table.service calls s))) :
    ∃ log, Explains table server sha256 debug backend reqs calls s log := by
  have puts := fun id => request_puts table (served id) (table.described_own calls s id)
  choose home through using fun id => (puts id).1
  have atHome : ∀ id b c, (id, .put b c) ∈ table.events (Schedule.recorded table.service calls s) →
      b = (home id, table.lane c.key) := by
    intro id b c member
    obtain ⟨⟨id', e⟩, inside, same⟩ := List.mem_map.mp member
    obtain ⟨rfl, put⟩ := Prod.mk.inj same
    exact Prod.ext (through _ e (Schedule.mem_own.mpr inside) b c put) (table.of_put put).1.2
  obtain ⟨log, stored, each⟩ :=
    (table.runs kept s).interleaves empty (fun id k => (home id, table.lane k)) atHome
  have own : ∀ id, ((Schedule.own id (table.events (Schedule.recorded table.service calls s))).filterMap
      WriteBehind.Event.change) =
      table.putChanges (Schedule.own id (Schedule.recorded table.service calls s)) := by
    intro id
    rw [table.own_events]
    rfl
  refine ⟨log, stored, fun id k => ?_, fun id ⟨response, success, ended⟩ k => ?_⟩
  · obtain ⟨first, _⟩ := each id k
    rw [own] at first
    exact first.trans ((puts id).2.filter _)
  · obtain ⟨whole, flushed⟩ := request_put table ended success (table.described_own calls s id)
    obtain ⟨_, all⟩ := each id k
    rw [all (not_waits table flushed), own, whole]
    rfl

/-- What is left under a key is what was there, or what the last of a request's changes leaves. -/
def LastWord (table : SharedTable σ ι) (server : Server) (reqs : Nat → Request)
    (before after : Content (List Datum) GenericRow) (k : List Datum) : Prop :=
  (∀ id, server.changesAt table.path table.schema (reqs id) k = []) ∧ after k = before k ∨
  ∃ id front c, server.changesAt table.path table.schema (reqs id) k = front ++ [c] ∧
    after k = c.leaves

theorem Explains.last_word {reqs : Nat → Request} {calls : List (Nat × Call)} {s : σ}
    {log : List (Nat × RowChange)}
    (explains : Explains table server sha256 debug backend reqs calls s log) {k : List Datum}
    (answered : ∀ id, server.changesAt table.path table.schema (reqs id) k ≠ [] →
      Succeeded table server sha256 debug backend calls s id (reqs id)) :
    LastWord table server reqs (table.view s).stored
      (table.view (Schedule.after table.service calls s)).stored k := by
  have whole : ∀ id, server.changesAt table.path table.schema (reqs id) k =
      Change.naming k (Schedule.own id log) := by
    intro id
    by_cases none : server.changesAt table.path table.schema (reqs id) k = []
    · have first := explains.first id k
      rw [none] at first ⊢
      exact (List.prefix_nil.mp first).symm
    · exact (explains.all id (answered id none) k).symm
  unfold LastWord
  rw [explains.stored]
  by_cases named : ∃ c ∈ log.map Prod.snd, c.key = k
  · obtain ⟨front, c, back, split, here, last, left⟩ :=
      Content.replay_named (table.view s).stored named
    obtain ⟨before, rest, rfl, _, tail⟩ := List.map_eq_append_iff.mp split
    obtain ⟨⟨id, c'⟩, later, rfl, rfl, rfl⟩ := List.map_eq_cons_iff.mp tail
    -- Of the request that made this change nothing at the key follows.
    have done : Change.naming k (Schedule.own id later) = [] := by
      refine List.filter_eq_nil_iff.mpr fun d member named => ?_
      exact last d (List.mem_map_of_mem (Schedule.mem_own.mp member)) (of_decide_eq_true named)
    refine .inr ⟨id, Change.naming k (Schedule.own id before), c', ?_, left⟩
    rw [whole, Schedule.own_append, Schedule.own_cons_self]
    unfold Change.naming at done ⊢
    rw [List.filter_append, List.filter_cons, if_pos (decide_eq_true here), done]
  · refine .inl ⟨fun id => ?_, ?_⟩
    · rw [whole]
      refine List.filter_eq_nil_iff.mpr fun d member here => named ⟨d, ?_, of_decide_eq_true here⟩
      exact List.mem_map_of_mem (Schedule.mem_own.mp member)
    · exact Content.replay_untouched _ _ _ fun c member here => named ⟨c, member, here⟩

/-- Requests on one primary-key table, served side by side in any order of their calls: some one sequence
of changes, made up of first parts of what each asks for, leaves the table as they leave it. Under
a key whose writers have all been answered with success, one of these has the last word. -/
theorem writes_interleave {s : σ} (empty : ∀ b, (table.view s).queued b = [])
    {calls : List (Nat × Call)} (kept : ∀ call ∈ calls, call.2.redefines table.path = false)
    {reqs : Nat → Request}
    (served : ∀ id, (server.program sha256 debug backend (reqs id)).Follows
      (Schedule.own id (Schedule.recorded table.service calls s))) :
    (∃ log, Explains table server sha256 debug backend reqs calls s log) ∧
    ∀ k, (∀ id, server.changesAt table.path table.schema (reqs id) k ≠ [] →
        Succeeded table server sha256 debug backend calls s id (reqs id)) →
      LastWord table server reqs (table.view s).stored
        (table.view (Schedule.after table.service calls s)).stored k := by
  obtain ⟨log, explains⟩ := explained table empty kept served
  exact ⟨⟨log, explains⟩, fun k answered => explains.last_word table answered⟩

end Interleaving

/-! ## Two writers of one row -/

def usersBody (name : String) : String :=
  "\x7b\"rows\":[\x7b\"values\":[1,\"" ++ name ++ "\"]\x7d]\x7d"

/-- A gateway whose write handler reads a row of two names, and whose lookups ask for one key. -/
def usersServer : Server :=
  { scanServer 100 with
    extractors := { (scanServer 100).extractors with
      query := fun query =>
        if query = some (utf8 "id=1") then .ok [("id", "1")] else .error (.ofStatus 400)
      produce := fun body =>
        if body = utf8 (usersBody "ada") then .ok ⟨[⟨[.number (.posInt 1), .string "ada"], none⟩]⟩
        else if body = utf8 (usersBody "bob") then
          .ok ⟨[⟨[.number (.posInt 1), .string "bob"], none⟩]⟩
        else .error (.ofStatus 422) } }

/-- `POST /v1/app/users/rows`. -/
def writeRequest (name : String) : Request where
  method := .post
  path := render [utf8 "v1", utf8 "app", utf8 "users", utf8 "rows"]
  query := none
  headers := [("content-type", utf8 "application/json")]
  body := utf8 (usersBody name)

def sharedUsers : SharedLookup Buffered Unit :=
  Buffered.table samplePath sampleInfo rfl (by decide) (by decide)

/-- No table is written yet, and one connection is in the pool. -/
def usersStart : Buffered :=
  { Buffered.empty with memory := { Memory.empty with cache := fun _ => some sampleConnection } }

def usersHandle : FlussTable := ⟨sampleConnection, samplePath, sampleInfo⟩

/-- The calls of a writer before it is done with its row, and the flush. -/
def writerCalls (id : Nat) (name : String) : List (Nat × Call) :=
  let key := sampleBackend.key sampleSha256 none
  [(id, .cacheGet key), (id, .getTable sampleConnection samplePath),
   (id, .cacheGet key), (id, .getTable sampleConnection samplePath),
   (id, .newUpsert usersHandle), (id, .createUpsertWriter usersHandle),
   (id, .upsert usersHandle ⟨[.int32 1, .string name]⟩)]

/-- Both rows are put before either writer flushes. -/
def twoWriters : List (Nat × Call) :=
  writerCalls 0 "ada" ++ writerCalls 1 "bob" ++ [(0, .flushUpserts usersHandle), (1, .flushUpserts usersHandle)]

def twoRequests : Nat → Request
  | 0 => writeRequest "ada"
  | 1 => writeRequest "bob"
  | _ => scanRequest 0 none

theorem writeRequest_received (name : String) (known : name = "ada" ∨ name = "bob") :
    usersServer.receive (writeRequest name) =
      .ok (.produce "app" "users" ⟨[⟨[.number (.posInt 1), .string name], none⟩]⟩) := by
  rcases known with rfl | rfl <;> rfl

theorem twoWriters_ends {id : Nat} (writer : id < 2) : ∃ response : Response, response.status = 200 ∧
    (usersServer.program sampleSha256 (fun _ _ => "") sampleBackend (twoRequests id)).Ends
      (Schedule.own id (Schedule.recorded sharedUsers.service twoWriters usersStart)) (.ok response) := by
  unfold Server.program
  match id with
  | 0 =>
    rw [serve_eq, show usersServer.receive (twoRequests 0) = _ from writeRequest_received _ (.inl rfl)]
    exact ⟨_, rfl, .call (.call (.call (.call (.call (.call (.call (.call (.done _))))))))⟩
  | 1 =>
    rw [serve_eq, show usersServer.receive (twoRequests 1) = _ from writeRequest_received _ (.inr rfl)]
    exact ⟨_, rfl, .call (.call (.call (.call (.call (.call (.call (.call (.done _))))))))⟩

theorem twoWriters_served (id : Nat) :
    (usersServer.program sampleSha256 (fun _ _ => "") sampleBackend (twoRequests id)).Follows
      (Schedule.own id (Schedule.recorded sharedUsers.service twoWriters usersStart)) := by
  by_cases writer : id < 2
  · obtain ⟨_, _, ended⟩ := twoWriters_ends writer
    exact ended.follows
  · obtain ⟨n, rfl⟩ := Nat.exists_eq_add_of_le' (Nat.le_of_not_lt writer)
    exact .here _

/-- The one row that is left is either writer's. -/
theorem writes_interleave_twoWriters :
    LastWord sharedUsers.toSharedTable usersServer twoRequests (sharedUsers.view usersStart).stored
      (sharedUsers.view (Schedule.after sharedUsers.service twoWriters usersStart)).stored [.int32 1] := by
  refine (writes_interleave sharedUsers.toSharedTable (fun _ => rfl) (by decide) twoWriters_served).2 _
    fun id asks => ?_
  by_cases writer : id < 2
  · exact twoWriters_ends writer
  · obtain ⟨n, rfl⟩ := Nat.exists_eq_add_of_le' (Nat.le_of_not_lt writer)
    exact absurd rfl asks

end FlussGateway.Rest
