import FlussGateway.Rest.ConcurrentWrites

/-!
# Lookups while others write

A lookup is answered with what the table holds at the moment its call gets there. By then every request
that has been answered with success has taken effect, and any other has as far as it has got.
-/
namespace FlussGateway.Rest

open FlussGateway.Foundation FlussGateway.Backend FlussGateway.Codec

/-- The key a lookup request asks the table for. -/
def Server.lookedUp (server : Server) (path : TablePath) (schema : Schema) (req : Request) :
    Option (List Datum) :=
  match server.receive req with
  | .ok (.lookup db table params) =>
    if ⟨db, table⟩ = path then
      match lookupRow server.library.formats schema ⟨params⟩ (schema.primaryKey.getD []) with
      | .ok row => some (schema.key row)
      | .error _ => none
    else none
  | _ => none

section Lookup

variable {sha256 : Sha256} {formats : Formats} {debug : Debug} {backend : FlussBackend}
  {creds : Option Auth.BasicAuthCredentials} {trace : List Exchange}

/-- A lookup that returns has asked for its row last, and shows the batch it was answered with. -/
theorem lookup_asked {db table : String} {params : LookupParams} {values : List Value}
    (ended : (backend.lookup sha256 formats debug db table params creds).Ends trace (.ok values)) :
    ∃ before conn info names row result batch,
      trace = before ++ [⟨.lookup ⟨conn, ⟨db, table⟩, info⟩ row, .ok result⟩] ∧
      ⟨.getTable conn ⟨db, table⟩, .ok info⟩ ∈ before ∧ info.schema.primaryKey = some names ∧
      lookupRow formats info.schema params names = .ok row ∧ result.toRecordBatch = .ok batch ∧
      values = recordBatchToJson debug batch.rows := by
  obtain ⟨conn, taken, _, _, reading, rfl⟩ := Program.ends_bind_ok ended
  obtain ⟨⟨conn', path, info⟩, read, _, got, asking, rfl⟩ := Program.ends_bind_ok reading
  obtain ⟨rfl, rfl, rfl⟩ := getTable_ends got
  simp only at asking
  split at asking
  · cases asking
  cases primary : info.schema.primaryKey with
  | none =>
    rw [primary] at asking
    cases asking
  | some names =>
    rw [primary] at asking
    obtain ⟨row, _, _, made, opening, rfl⟩ := Program.ends_bind_ok asking
    obtain ⟨rfl, filled⟩ := Program.ends_lift made
    obtain ⟨_, opened, _, _, creating, rfl⟩ := Program.ends_bind_ok opening
    obtain ⟨_, created, _, _, looking, rfl⟩ := Program.ends_bind_ok creating
    obtain ⟨result, _, _, looked, unpacking, rfl⟩ := Program.ends_bind_ok looking
    obtain ⟨reply, rfl, replied⟩ := Program.ends_call looked
    obtain rfl := (Outcome.ofExcept_ok_iff flussErr _ result).mp replied
    obtain ⟨batch, _, _, unpacked, shown, rfl⟩ := Program.ends_bind_ok unpacking
    obtain ⟨rfl, delivered⟩ := Program.ends_lift unpacked
    cases shown
    refine ⟨taken ++ [⟨.getTable conn' ⟨db, table⟩, .ok info⟩] ++ opened ++ created, conn', info, names,
      row, result, batch, by simp, by simp, primary, filled, ?_, rfl⟩
    exact (Outcome.ofExcept_ok_iff flussErr _ batch).mp delivered

end Lookup

section Runs

variable {sha256 : Sha256} {debug : Debug} {backend : FlussBackend} (library : Library)
  (authType : Config.AuthType) (ext : Option Auth.BasicAuthCredentials) (db table : String)

theorem run_lookup (params : List (String × String)) :
    ((Invocation.lookup db table params).run library authType ext).translate
      (BackendCall.impl sha256 library.formats debug backend) =
    (lookup sha256 library.formats debug ⟨backend, authType⟩ db table ⟨params⟩ ext >>= fun rows =>
      pure (.json 200 (.array rows))) := by
  rw [← lookup_translate]
  exact Program.translate_bind ..

theorem run_batchLookup (req : BatchLookupRequest) :
    ((Invocation.batchLookup db table req).run library authType ext).translate
      (BackendCall.impl sha256 library.formats debug backend) =
    (batchLookup sha256 library.formats debug ⟨backend, authType⟩ db table
      (req.keys.map LookupParams.mk) ext >>= fun rows => pure (.json 200 (.array rows))) := by
  rw [← batchLookup_translate]
  exact Program.translate_bind ..

end Runs

section Reading

variable {σ ι : Type} [DecidableEq ι] (table : SharedLookup σ ι) {server : Server} {sha256 : Sha256}
  {debug : Debug} {backend : FlussBackend} {req : Request} {trace : List Exchange}

/-- A lookup request that is answered with success asks for its key last. -/
theorem lookup_answered {k : List Datum} (asks : server.lookedUp table.path table.schema req = some k)
    {response : Response} (success : response.status = 200)
    (ended : (server.program sha256 debug backend req).Ends trace (.ok response))
    (described : table.Described trace) :
    ∃ before t row result batch, trace = before ++ [⟨.lookup t row, .ok result⟩] ∧
      t.path = table.path ∧ table.schema.lookupKey row = k ∧ result.toRecordBatch = .ok batch ∧
      response = Server.finish req.method (.json 200 (.array (recordBatchToJson debug batch.rows))) := by
  unfold Server.lookedUp at asks
  split at asks
  next db name params received =>
    split at asks
    next here =>
      obtain ⟨rfl, rfl⟩ : db = table.path.database ∧ name = table.path.table := by rw [← here]; simp
      split at asks
      next row made =>
        obtain ⟨values, looked, rfl⟩ := handler_returned received (run_lookup ..) ended success
        obtain ⟨creds, _, _, admitted, asked, rfl⟩ := Program.ends_bind_ok looked
        obtain ⟨rfl, _⟩ := Program.ends_lift admitted
        rw [List.nil_append] at described ⊢
        obtain ⟨before, conn, info, names, row', result, batch, rfl, read, primary, filled, unpacked,
          rfl⟩ := lookup_asked asked
        have known : info.schema = table.schema :=
          described conn info (List.mem_append_left _ read)
        rw [known] at primary filled
        rw [primary, Option.getD_some, filled] at made
        cases made
        -- The row made has a field for every column.
        have whole := table.lookupKey_eq_key (fillKey_ok (GenericRow.length_new _) filled).1
        exact ⟨before, _, row, result, batch, rfl, rfl, whole.trans (Option.some.inj asks), unpacked, rfl⟩
      next => cases asks
    next => cases asks
  next => cases asks

/-- The answer to a lookup call is what the table holds at that moment. -/
theorem lookup_shows {s : σ} {reqs : Nat → Request} {calls : List (Nat × Call)}
    {log : List (Nat × RowChange)}
    (explains : Explains table.toSharedTable server sha256 debug backend reqs calls s log)
    {t : FlussTable} {row : GenericRow} {result : LookupResult} {batch : Batch}
    (here : t.path = table.path)
    (given : .ok result = (table.service (.lookup t row) (Schedule.after table.service calls s)).1)
    (unpacked : result.toRecordBatch = .ok batch) :
    Shows table.schema (recordBatchToJson debug batch.rows)
      ((table.view s).stored.replay (log.map Prod.snd) (table.schema.lookupKey row)) := by
  have answers := table.answered t row _ result batch here given.symm unpacked
  rw [explains.stored] at answers
  exact answers.shows debug table.distinct

/-- Before any moment the requests have followed their programs as far as they have got. -/
theorem explained_before {s : σ} (empty : ∀ b, (table.view s).queued b = [])
    {before later : List (Nat × Call)}
    (kept : ∀ call ∈ before ++ later, call.2.redefines table.path = false) {reqs : Nat → Request}
    (served : ∀ id, (server.program sha256 debug backend (reqs id)).Follows
      (Schedule.own id (Schedule.recorded table.service (before ++ later) s))) :
    ∃ log, Explains table.toSharedTable server sha256 debug backend reqs before s log := by
  refine explained table.toSharedTable empty
    (fun call member => kept call (List.mem_append_left _ member)) fun id => ?_
  have whole := served id
  rw [Schedule.recorded_append, Schedule.own_append] at whole
  exact whole.of_append

/-- Requests on one primary-key table, served side by side in any order of their calls: a lookup that
is answered with success shows, for its key, what some one sequence of changes leaves there, which
explains the schedule up to the moment of its call. Every write answered with success before that
moment is in it as a whole, and any other with a first part. -/
theorem lookups_see {s : σ} (empty : ∀ b, (table.view s).queued b = []) {calls : List (Nat × Call)}
    (kept : ∀ call ∈ calls, call.2.redefines table.path = false) {reqs : Nat → Request}
    (served : ∀ id, (server.program sha256 debug backend (reqs id)).Follows
      (Schedule.own id (Schedule.recorded table.service calls s)))
    {reader : Nat} {k : List Datum}
    (asks : server.lookedUp table.path table.schema (reqs reader) = some k) {response : Response}
    (success : response.status = 200)
    (ended : (server.program sha256 debug backend (reqs reader)).Ends
      (Schedule.own reader (Schedule.recorded table.service calls s)) (.ok response)) :
    ∃ before t row later log values, calls = before ++ (reader, .lookup t row) :: later ∧
      response = Server.finish (reqs reader).method (.json 200 (.array values)) ∧
      Explains table.toSharedTable server sha256 debug backend reqs before s log ∧
      Shows table.schema values ((table.view s).stored.replay (log.map Prod.snd) k) := by
  obtain ⟨xs, t, row, result, batch, own, here, key, unpacked, rfl⟩ :=
    lookup_answered table asks success ended (table.described_own calls s reader)
  obtain ⟨before, later, rfl, given, _⟩ := Schedule.split_of_own own
  obtain ⟨log, explains⟩ := explained_before table empty kept served
  refine ⟨before, t, row, later, log, _, rfl, rfl, explains, ?_⟩
  rw [← key]
  exact lookup_shows table explains here given unpacked

end Reading

/-! ## A reader beside a writer -/

/-- `GET /v1/app/users?id=1`. -/
def readRequest : Request where
  method := .get
  path := render [utf8 "v1", utf8 "app", utf8 "users"]
  query := some (utf8 "id=1")
  headers := []
  body := []

theorem readRequest_received :
    usersServer.receive readRequest = .ok (.lookup "app" "users" [("id", "1")]) := rfl

def besideRequests : Nat → Request
  | 0 => writeRequest "ada"
  | 1 => readRequest
  | _ => scanRequest 0 none

/-- The row is flushed between the reader's first call and its lookup. -/
def besideCalls : List (Nat × Call) :=
  writerCalls 0 "ada" ++
  [(1, .cacheGet (sampleBackend.key sampleSha256 none)), (0, .flushUpserts usersHandle),
   (1, .getTable sampleConnection samplePath), (1, .newLookup usersHandle),
   (1, .createLookuper usersHandle), (1, .lookup usersHandle ⟨[.int32 1, .null]⟩)]

theorem besideCalls_ends : ∃ response : Response, response.status = 200 ∧
    (usersServer.program sampleSha256 (fun _ _ => "") sampleBackend readRequest).Ends
      (Schedule.own 1 (Schedule.recorded sharedUsers.service besideCalls usersStart)) (.ok response) := by
  unfold Server.program
  rw [serve_eq, readRequest_received]
  exact ⟨_, rfl, .call (.call (.call (.call (.call (.done _)))))⟩

theorem besideCalls_served (id : Nat) :
    (usersServer.program sampleSha256 (fun _ _ => "") sampleBackend (besideRequests id)).Follows
      (Schedule.own id (Schedule.recorded sharedUsers.service besideCalls usersStart)) := by
  match id with
  | 0 =>
    unfold Server.program
    rw [serve_eq, show usersServer.receive (besideRequests 0) = _ from
      writeRequest_received _ (.inl rfl)]
    exact .call (.call (.call (.call (.call (.call (.call (.call (.here _))))))))
  | 1 =>
    obtain ⟨_, _, ended⟩ := besideCalls_ends
    exact ended.follows
  | _ + 2 => exact .here _

theorem lookups_see_besideCalls : ∃ response before t row later log values,
    besideCalls = before ++ (1, .lookup t row) :: later ∧
    response = Server.finish .get (.json 200 (.array values)) ∧
    Explains sharedUsers.toSharedTable usersServer sampleSha256 (fun _ _ => "") sampleBackend
      besideRequests before usersStart log ∧
    Shows sampleInfo.schema values (Content.replay (fun _ => none) (log.map Prod.snd) [.int32 1]) := by
  obtain ⟨response, success, ended⟩ := besideCalls_ends
  exact ⟨response, lookups_see sharedUsers (fun _ => rfl) (by decide) besideCalls_served rfl success ended⟩

/-! ## Batches of lookups -/

section Batches

variable {σ ι : Type} [DecidableEq ι] (table : SharedLookup σ ι) {server : Server} {sha256 : Sha256}
  {debug : Debug} {backend : FlussBackend} {reqs : Nat → Request} {s : σ} {reader : Nat}
  {passed left : List (Nat × Call)}

/-- What a lookup with these parameters may show after these calls. -/
def Sees (table : SharedLookup σ ι) (server : Server) (sha256 : Sha256) (debug : Debug)
    (backend : FlussBackend) (reqs : Nat → Request) (s : σ) (calls : List (Nat × Call))
    (params : LookupParams) (values : List Value) : Prop :=
  ∃ row log, lookupRow server.library.formats table.schema params
      (table.schema.primaryKey.getD []) = .ok row ∧
    Explains table.toSharedTable server sha256 debug backend reqs calls s log ∧
    Shows table.schema values
      ((table.view s).stored.replay (log.map Prod.snd) (table.schema.key row))

/-- Each of the keys is seen at a moment of its own in what is left of the schedule, the moments in
the order of the keys. -/
inductive InTurn (Sees : List (Nat × Call) → LookupParams → List Value → Prop) (reader : Nat) :
    List (Nat × Call) → List (Nat × Call) → List LookupParams → List Value → Prop where
  | nil (passed left : List (Nat × Call)) : InTurn Sees reader passed left [] []
  | cons {passed before later : List (Nat × Call)} {t : FlussTable} {row : GenericRow}
      {params : LookupParams} {keys : List LookupParams} {shown values : List Value}
      (sees : Sees (passed ++ before) params shown)
      (rest : InTurn Sees reader (passed ++ before ++ [(reader, .lookup t row)]) later keys values) :
      InTurn Sees reader passed (before ++ (reader, .lookup t row) :: later) (params :: keys)
        (shown ++ values)

theorem lookupEach_sees {creds : Option Auth.BasicAuthCredentials} {keys : List LookupParams}
    {values : List Value}
    (explain : ∀ before later, passed ++ left = before ++ later →
      ∃ log, Explains table.toSharedTable server sha256 debug backend reqs before s log)
    (ended : (lookupEach sha256 server.library.formats debug ⟨backend, server.authType⟩
      table.path.database table.path.table creds keys).Ends
      (Schedule.own reader (Schedule.recorded table.service left
        (Schedule.after table.service passed s))) (.ok values)) :
    InTurn (Sees table server sha256 debug backend reqs s) reader passed left keys values := by
  induction keys generalizing passed left values with
  | nil =>
    generalize Schedule.own reader _ = trace at ended
    cases ended
    exact .nil passed left
  | cons params keys ih =>
    obtain ⟨rows, asked, _, looked, others, split⟩ := Program.ends_bind_ok ended
    obtain ⟨results, more, _, rest, finished, rfl⟩ := Program.ends_bind_ok others
    cases finished
    obtain ⟨first, conn, info, names, row, result, batch, rfl, read, primary, filled, unpacked, rfl⟩ :=
      lookup_asked looked
    have known : info.schema = table.schema := by
      refine table.described_own left (Schedule.after table.service passed s) reader conn info ?_
      rw [split]
      exact List.mem_append_left _ (List.mem_append_left _ read)
    rw [List.append_nil, List.append_assoc, List.singleton_append] at split
    obtain ⟨before, later, rfl, given, own⟩ := Schedule.split_of_own split
    rw [← Schedule.after_append] at given own
    obtain ⟨log, explains⟩ := explain (passed ++ before) _ (List.append_assoc ..).symm
    rw [known] at primary filled
    refine .cons ⟨row, log, ?_, explains, ?_⟩ (ih (fun front back same => ?_) ?_)
    · rw [primary]
      exact filled
    · rw [← table.lookupKey_eq_key (fillKey_ok (GenericRow.length_new _) filled).1]
      exact lookup_shows table explains rfl given unpacked
    · refine explain front back ?_
      rw [← same]
      simp
    · rw [Schedule.after_append, Schedule.after, Schedule.after, own]
      exact rest

/-- A batch of lookups that is answered with success shows, for each of its keys, what the table holds
at the moment of that key's call. The moments come in the order of the keys, and others may
write between them. -/
theorem batches_see (empty : ∀ b, (table.view s).queued b = []) {calls : List (Nat × Call)}
    (kept : ∀ call ∈ calls, call.2.redefines table.path = false)
    (served : ∀ id, (server.program sha256 debug backend (reqs id)).Follows
      (Schedule.own id (Schedule.recorded table.service calls s)))
    {body : BatchLookupRequest} (received : server.receive (reqs reader) =
      .ok (.batchLookup table.path.database table.path.table body)) {response : Response}
    (success : response.status = 200)
    (ended : (server.program sha256 debug backend (reqs reader)).Ends
      (Schedule.own reader (Schedule.recorded table.service calls s)) (.ok response)) :
    ∃ values, response = Server.finish (reqs reader).method (.json 200 (.array values)) ∧
      InTurn (Sees table server sha256 debug backend reqs s) reader [] calls
        (body.keys.map LookupParams.mk) values := by
  obtain ⟨values, looked, rfl⟩ := handler_returned received (run_batchLookup ..) ended success
  obtain ⟨creds, _, rest, admitted, each, same⟩ := Program.ends_bind_ok looked
  rw [(Program.ends_lift admitted).1, List.nil_append] at same
  subst same
  refine ⟨values, rfl, lookupEach_sees table (fun before later split => ?_) each⟩
  rw [List.nil_append] at split
  subst split
  exact explained_before table empty kept served

end Batches

/-! ## A batch with a writer in between -/

def batchBody : String := "\x7b\"keys\":[\x7b\"id\":\"1\"\x7d,\x7b\"id\":\"1\"\x7d]\x7d"

def batchServer : Server :=
  { usersServer with
    extractors := { usersServer.extractors with
      batchLookup := fun body =>
        if body = utf8 batchBody then .ok ⟨[[("id", "1")], [("id", "1")]]⟩
        else .error (.ofStatus 422) } }

/-- `POST /v1/app/users/batch`, for one key twice. -/
def batchRequest : Request where
  method := .post
  path := render [utf8 "v1", utf8 "app", utf8 "users", utf8 "batch"]
  query := none
  headers := [("content-type", utf8 "application/json")]
  body := utf8 batchBody

theorem batchRequest_received : batchServer.receive batchRequest =
    .ok (.batchLookup "app" "users" ⟨[[("id", "1")], [("id", "1")]]⟩) := rfl

def betweenRequests : Nat → Request
  | 0 => writeRequest "ada"
  | 1 => batchRequest
  | _ => scanRequest 0 none

def keyCalls : List (Nat × Call) :=
  [(1, .cacheGet (sampleBackend.key sampleSha256 none)), (1, .getTable sampleConnection samplePath),
   (1, .newLookup usersHandle), (1, .createLookuper usersHandle),
   (1, .lookup usersHandle ⟨[.int32 1, .null]⟩)]

/-- The row is written after the first lookup and before the second. -/
def betweenCalls : List (Nat × Call) :=
  keyCalls ++ writerCalls 0 "ada" ++ (0, .flushUpserts usersHandle) :: keyCalls

theorem betweenCalls_ends : ∃ response : Response, response.status = 200 ∧
    (batchServer.program sampleSha256 (fun _ _ => "") sampleBackend batchRequest).Ends
      (Schedule.own 1 (Schedule.recorded sharedUsers.service betweenCalls usersStart))
      (.ok response) := by
  unfold Server.program
  rw [serve_eq, batchRequest_received]
  exact ⟨_, rfl, .call (.call (.call (.call (.call (.call (.call (.call (.call (.call
    (.done _))))))))))⟩

theorem betweenCalls_served (id : Nat) :
    (batchServer.program sampleSha256 (fun _ _ => "") sampleBackend (betweenRequests id)).Follows
      (Schedule.own id (Schedule.recorded sharedUsers.service betweenCalls usersStart)) := by
  match id with
  | 0 =>
    unfold Server.program
    rw [serve_eq, show batchServer.receive (betweenRequests 0) = _ from
      writeRequest_received _ (.inl rfl)]
    exact .call (.call (.call (.call (.call (.call (.call (.call (.here _))))))))
  | 1 =>
    obtain ⟨_, _, ended⟩ := betweenCalls_ends
    exact ended.follows
  | _ + 2 => exact .here _

theorem batches_see_between : ∃ response values,
    response = Server.finish .post (.json 200 (.array values)) ∧
    InTurn (Sees sharedUsers batchServer sampleSha256 (fun _ _ => "") sampleBackend betweenRequests
      usersStart) 1 [] betweenCalls [⟨[("id", "1")]⟩, ⟨[("id", "1")]⟩] values := by
  obtain ⟨response, success, ended⟩ := betweenCalls_ends
  have received : batchServer.receive (betweenRequests 1) =
      .ok (.batchLookup sharedUsers.path.database sharedUsers.path.table _) := batchRequest_received
  exact ⟨response, batches_see sharedUsers (fun _ => rfl) (by decide) betweenCalls_served received
    success ended⟩

end FlussGateway.Rest
