import FlussGateway.Rest.Server

/-!
# The limit on bodies

Two checks look at the size of a body. The middleware compares the `Content-Length` of a POST or
PUT with the configured limit; the JSON extractor, when it comes to reading the body at all,
stops at a limit of its own. Together they are the configured limit under a condition.
-/
namespace FlussGateway.Rest

open FlussGateway.Foundation FlussGateway.Codec

/-- The handler reads its body as JSON. -/
def Target.takesJson : Target → Bool
  | .createDatabase | .dropDatabase | .createTable | .dropTable | .batchLookup | .scan | .produce | .listOffsets => true
  | _ => false

def Target.arity : Target → Nat
  | .listDatabases | .createDatabase => 0
  | .dropDatabase | .listTables | .createTable => 1
  | _ => 2

/-- The length of the body as the client announces it. -/
def Request.announced (req : Request) : Option (Except Decimal.IntError Nat) :=
  ((req.header "content-length").bind Auth.headerText).map parseUsize

/-- A body with a `Content-Length` has that length; a chunked one comes without the header. -/
def Framed (req : Request) : Prop :=
  req.header "content-length" = none ∨ req.announced = some (.ok req.body.length)

def Refusal.ForSize : Refusal → Prop
  | .bodyLimit _ | .lengthLimit _ => True
  | _ => False

def RefusedForSize (server : Server) (req : Request) : Prop :=
  ∃ refusal, server.receive req = .error refusal ∧ refusal.ForSize

/-- The middleware sees the size of this request. -/
def Checked (req : Request) : Prop :=
  (req.method = .post ∨ req.method = .put) ∧ (req.header "content-length").isSome = true

/-- The JSON extractor gets as far as the body. -/
def BodyRead (server : Server) (req : Request) (raw : List Bytes) : Prop :=
  (decodeParams raw).isSome = true ∧ server.extractors.isJson (req.header "content-type") = true

/-- A body within the limit is not read, or is within the extractor's limit too; a larger one is
seen by the middleware, or is read and beyond the extractor's limit. -/
def LimitHolds (server : Server) (req : Request) (raw : List Bytes) : Prop :=
  (req.body.length ≤ server.maxBodySize → BodyRead server req raw →
    req.body.length ≤ defaultBodyLimit) ∧
  (server.maxBodySize < req.body.length → Checked req ∨
    (BodyRead server req raw ∧ defaultBodyLimit < req.body.length))

/-! ## Parameters of a dispatched request -/

theorem routes_arity : ∀ e ∈ routes, Routing.arity e.1 = e.2.target.arity := by decide

/-- A handler gets as many parameters as it has. -/
theorem dispatch_arity {method : Method} {path : Bytes} {target : Target} {raw : List Bytes}
    (found : dispatch method path = .handler target raw) : raw.length = target.arity := by
  unfold dispatch at found
  split at found
  next => cases found
  next entries params here =>
    split at found
    next => cases found
    next route first =>
      cases found
      obtain ⟨segs, _, searched⟩ := Option.bind_eq_some_iff.mp here
      obtain ⟨template, member, fits⟩ :=
        Routing.search_sound searched route (List.mem_of_find?_eq_some first)
      exact fits.count.trans (routes_arity _ member)

theorem decodeParams_length {raw : List Bytes} {names : List String}
    (read : decodeParams raw = some names) :
    names.length = raw.length := by
  induction raw generalizing names with
  | nil => cases read; rfl
  | cons segment raw ih =>
    obtain ⟨text, _, rest⟩ := Option.bind_eq_some_iff.mp read
    obtain ⟨texts, read', same⟩ := Option.bind_eq_some_iff.mp rest
    cases same
    simp [ih read']

/-! ## The two checks -/

/-- The middleware refuses what it sees to be too large. -/
theorem bodyLimitMiddleware_eq {req : Request} (framed : Framed req) (maxBodySize : Nat) :
    (Checked req ∧ maxBodySize < req.body.length ∧
      bodyLimitMiddleware maxBodySize req = .error (.bodyLimit maxBodySize)) ∨
    (¬(Checked req ∧ maxBodySize < req.body.length) ∧
      bodyLimitMiddleware maxBodySize req = .ok ()) := by
  unfold bodyLimitMiddleware Checked
  by_cases method : req.method = .post ∨ req.method = .put
  · rw [if_pos method]
    rcases framed with chunked | announced
    · -- Without the header the middleware has nothing to compare.
      exact .inr ⟨by simp [chunked], by simp [chunked]⟩
    · obtain ⟨len, text, parsed⟩ := Option.map_eq_some_iff.mp announced
      obtain ⟨value, present, _⟩ := Option.bind_eq_some_iff.mp text
      simp only [text, parsed]
      by_cases large : maxBodySize < req.body.length
      · exact .inl ⟨⟨method, by simp [present]⟩, large, if_pos large⟩
      · exact .inr ⟨fun both => large both.2, if_neg large⟩
  · rw [if_neg method]
    exact .inr ⟨fun both => method both.1.1, rfl⟩

/-- A result that is a refusal for size. -/
def SizeError {α : Type} (result : Except Refusal α) : Prop :=
  ∃ refusal, result = .error refusal ∧ refusal.ForSize

theorem readJson_sizeError_iff (ax : Extractors) (req : Request) {T : Type}
    (decode : Bytes → Except Response T) :
    SizeError (ax.readJson req decode) ↔ ax.isJson (req.header "content-type") = true ∧
    defaultBodyLimit < req.body.length := by
  unfold Extractors.readJson SizeError
  cases json : ax.isJson (req.header "content-type") with
  | false => simp [Refusal.ForSize]
  | true =>
    by_cases large : defaultBodyLimit < req.body.length
    · simp [large, Refusal.ForSize]
    · cases decoded : decode req.body <;> simp [large, Except.mapError, Refusal.ForSize]

theorem sizeError_map_iff {α β : Type} (result : Except Refusal α) (f : α → β) :
    SizeError (result >>= fun a => pure (f a)) ↔ SizeError result := by
  cases result <;> simp [SizeError, bind, Except.bind, pure, Except.pure]

section Paths

variable {ax : Extractors} {raw : List Bytes}

/-- The path comes before the body, and is never refused for size. -/
theorem path1_sizeError_iff (sized : raw.length = 1) {α : Type}
    (rest : String → Except Refusal α) {P : Prop} (then_ : ∀ name, SizeError (rest name) ↔ P) :
    SizeError (ax.path1 raw >>= rest) ↔ (decodeParams raw).isSome = true ∧ P := by
  unfold Extractors.path1
  cases read : decodeParams raw with
  | none => simp [SizeError, Refusal.ForSize, bind, Except.bind]
  | some names =>
    have count := (decodeParams_length read).trans sized
    match names, count with
    | [name], _ => simpa [bind, Except.bind] using then_ name

theorem path2_sizeError_iff (sized : raw.length = 2) {α : Type}
    (rest : String × String → Except Refusal α) {P : Prop}
    (then_ : ∀ names, SizeError (rest names) ↔ P) :
    SizeError (ax.path2 raw >>= rest) ↔ (decodeParams raw).isSome = true ∧ P := by
  unfold Extractors.path2
  cases read : decodeParams raw with
  | none => simp [SizeError, Refusal.ForSize, bind, Except.bind]
  | some names =>
    have count := (decodeParams_length read).trans sized
    match names, count with
    | [db, table], _ => simpa [bind, Except.bind] using then_ (db, table)

end Paths

theorem extract_sizeError_iff (server : Server) (req : Request) {target : Target} {raw : List Bytes}
    (json : target.takesJson = true) (sized : raw.length = target.arity) :
    SizeError (server.extractors.extract req raw target) ↔ BodyRead server req raw ∧
    defaultBodyLimit < req.body.length := by
  have body : ∀ {T α : Type} (decode : Bytes → Except Response T) (f : T → α),
      SizeError (server.extractors.readJson req decode >>= fun a => pure (f a)) ↔
        server.extractors.isJson (req.header "content-type") = true ∧
          defaultBodyLimit < req.body.length :=
    fun decode f => (sizeError_map_iff _ f).trans
      (readJson_sizeError_iff server.extractors req decode)
  unfold BodyRead
  rw [and_assoc]
  -- What comes before the body: no parameters, one, or two.
  cases target with
  | createDatabase =>
    obtain rfl := List.length_eq_zero_iff.mp sized
    exact (body server.extractors.createDatabase _).trans (by simp [decodeParams])
  | dropDatabase | createTable => exact path1_sizeError_iff sized _ fun name => body _ _
  | dropTable | batchLookup | scan | produce | listOffsets =>
    exact path2_sizeError_iff sized _ fun names => body _ _
  | _ => cases json

/-! ## When the limit is the limit -/

section Limit

variable {server : Server} {req : Request} {target : Target} {raw : List Bytes}

theorem refusedForSize_iff (routed : dispatch req.method req.path = .handler target raw)
    (json : target.takesJson = true) (framed : Framed req) : RefusedForSize server req ↔
      (Checked req ∧ server.maxBodySize < req.body.length) ∨
      (BodyRead server req raw ∧ defaultBodyLimit < req.body.length) := by
  have reads := extract_sizeError_iff server req json (dispatch_arity routed)
  unfold RefusedForSize Server.receive
  rw [routed]
  rcases bodyLimitMiddleware_eq framed server.maxBodySize with ⟨checked, large, refused⟩ |
    ⟨passed, quiet⟩
  · rw [refused]
    exact iff_of_true ⟨_, rfl, trivial⟩ (.inl ⟨checked, large⟩)
  · rw [quiet, or_iff_right passed]
    exact reads

/-- For every limit, every request to a handler that reads JSON and either framing: the request is
refused for its size exactly when its body is larger than the limit, if and only if the condition
holds. -/
theorem bodyLimit_iff (routed : dispatch req.method req.path = .handler target raw)
    (json : target.takesJson = true) (framed : Framed req) :
    (RefusedForSize server req ↔ server.maxBodySize < req.body.length) ↔
    LimitHolds server req raw := by
  rw [refusedForSize_iff routed json framed]
  unfold LimitHolds
  -- A large body is missed by both checks or by neither; a small one only the extractor can refuse.
  by_cases large : server.maxBodySize < req.body.length
  · have notSmall : ¬req.body.length ≤ server.maxBodySize := Nat.not_le.mpr large
    simp only [large, notSmall, and_true, iff_true, false_imp_iff, true_and, true_imp_iff]
  · have small : req.body.length ≤ server.maxBodySize := Nat.not_lt.mp large
    simp only [large, small, and_false, false_or, iff_false, true_imp_iff, false_imp_iff, and_true,
      not_and, Nat.not_lt]

end Limit

/-! ## Three bodies -/

/-- A gateway whose scan handler reads the empty object with blanks after it. -/
def scanServer (maxBodySize : Nat) : Server where
  authType := .none
  maxBodySize := maxBodySize
  base64 _ := none
  extractors := {
    query := fun _ => .ok []
    invalidPath := .ofStatus 400
    wrongNumberOfParameters := .ofStatus 500
    isJson := fun value => value == some (utf8 "application/json")
    unsupportedMediaType := .ofStatus 415
    lengthLimit := .ofStatus 413
    createDatabase := fun _ => .error (.ofStatus 422)
    dropDatabase :=
      fun body => if body = utf8 "\x7b\x7d" then .ok ⟨false, false⟩ else .error (.ofStatus 422)
    createTable := fun _ => .error (.ofStatus 422)
    dropTable := fun body => if body = utf8 "\x7b\x7d" then .ok ⟨false⟩ else .error (.ofStatus 422)
    batchLookup := fun _ => .error (.ofStatus 422)
    scan := fun body =>
      if body.take 2 = utf8 "\x7b\x7d" ∧ (body.drop 2).all (· == 0x20) then .ok
        ⟨none, none, none⟩ else .error (.ofStatus 422)
    produce := fun _ => .error (.ofStatus 422)
    listOffsets :=
      fun body => if body = utf8 "\x7b\x7d" then .ok ⟨none, none, none⟩ else .error
      (.ofStatus 422) }
  library := ⟨⟨fun _ => "", fun _ => "", fun _ => ""⟩, id, fun _ => .ok ()⟩

def scanPath : Bytes := render [utf8 "v1", utf8 "shop", utf8 "orders", utf8 "scan"]

/-- The empty object, then blanks; with or without its length. -/
def scanRequest (blanks : Nat) (length : Option String) : Request where
  method := .post
  path := scanPath
  query := none
  headers := ("content-type", utf8 "application/json") ::
    (length.map fun text => ("content-length", utf8 text)).toList
  body := utf8 "\x7b\x7d" ++ List.replicate blanks 0x20

theorem scan_routed : dispatch .post scanPath =
    .handler .scan [utf8 "shop", utf8 "orders"] := by decide

theorem bodyLimit_iff_scan :
    (RefusedForSize (scanServer 16) (scanRequest 0 (some "2")) ↔
      16 < (scanRequest 0 (some "2")).body.length) ↔
      LimitHolds (scanServer 16) (scanRequest 0 (some "2")) [utf8 "shop", utf8 "orders"] :=
  bodyLimit_iff scan_routed rfl (.inr (by decide))

/-- `DELETE /v1/shop/_tables/orders` with the empty object and its length. -/
def dropRequest : Request where
  method := .delete
  path := render [utf8 "v1", utf8 "shop", utf8 "_tables", utf8 "orders"]
  query := none
  headers := [("content-type", utf8 "application/json"), ("content-length", utf8 "2")]
  body := utf8 "\x7b\x7d"

theorem scanRequest_length (blanks : Nat) (length : Option String) :
    (scanRequest blanks length).body.length = blanks + 2 := by
  have start : (utf8 "\x7b\x7d").length = 2 := by decide
  simp only [scanRequest, List.length_append, start, List.length_replicate]
  omega

/-- Under a limit of one byte two bytes are processed, chunked or by DELETE; under the default limit
three million bytes are refused. -/
theorem bodyLimit_missed :
    (Framed (scanRequest 0 none) ∧ 1 < (scanRequest 0 none).body.length ∧
      ∃ params, (scanServer 1).receive (scanRequest 0 none) = .ok (.scan "shop" "orders" params)) ∧
    (Framed dropRequest ∧ 1 < dropRequest.body.length ∧
      ∃ req, (scanServer 1).receive dropRequest = .ok (.dropTable "shop" "orders" req)) ∧
    Framed (scanRequest 2999998 (some "3000000")) ∧
    (scanRequest 2999998 (some "3000000")).body.length ≤
      (default : Config.ServerConfig).maxBodySize ∧
    RefusedForSize (scanServer (default : Config.ServerConfig).maxBodySize)
      (scanRequest 2999998 (some "3000000")) := by
  refine ⟨⟨.inl (by decide), by decide, ⟨none, none, none⟩, rfl⟩,
    ⟨.inr (by decide), by decide, ⟨false⟩, rfl⟩, ?_⟩
  · have size := scanRequest_length 2999998 (some "3000000")
    have framed : Framed (scanRequest 2999998 (some "3000000")) := by
      refine .inr ?_
      rw [size]
      decide
    refine ⟨framed, by rw [size]; decide, (refusedForSize_iff scan_routed rfl framed).mpr
      (.inr ⟨?_, ?_⟩)⟩
    · exact ⟨by decide, by decide⟩
    · rw [size]
      decide

end FlussGateway.Rest
