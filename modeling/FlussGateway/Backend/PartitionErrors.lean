import FlussGateway.Backend.FailedWrite

/-!
# Errors of a partition listing

`list_partitions` recognises the error of a table without partitions by phrases in the error's
display text. The text quotes the message, and with it whatever the request named, so the phrases
can be there for another reason.
-/
namespace FlussGateway.Backend

open FlussGateway.Foundation FlussBackend

/-- The code of the client's error for a table that is not partitioned. -/
def notPartitionedCode : Int := 37

/-- The display text has the decimal code after `code: ` and quotes the message. -/
structure Displays (e : FlussError) (message : String) : Prop where
  code : ("code: " ++ toString e.code).toList <:+: e.text.toList
  message : message.toList <:+: e.text.toList

/-- Whenever the client answers a listing with the error: only the error of a table without
partitions may become the empty list, and any other is returned as it is. -/
structure ReturnsOtherErrors (sha256 : Sha256) (backend : FlussBackend)
    (creds : Option Auth.BasicAuthCredentials) (db table : String) (e : FlussError) : Prop where
  empty : ∀ conn trace, (⟨.listPartitionInfos conn ⟨db, table⟩, .error e⟩ : Exchange) ∈ trace →
    (backend.listPartitions sha256 creds db table).Ends trace (.ok []) →
    e.code = notPartitionedCode
  returned : e.code ≠ notPartitionedCode → ∀ conn trace result,
    (⟨.listPartitionInfos conn ⟨db, table⟩, .error e⟩ : Exchange) ∈ trace →
    (backend.listPartitions sha256 creds db table).Ends trace result →
    result = Outcome.fail (flussErr e)

theorem notPartitioned_iff (e : FlussError) : notPartitioned e = true ↔
    "not a partitioned table".toList <:+: e.text.toList ∨
    "code: 37".toList <:+: e.text.toList := by
  unfold notPartitioned
  simp only [Bool.or_eq_true, decide_eq_true_eq]

section Kinds

variable {e : FlussError} {message : String} (shown : Displays e message)
include shown

/-- An error whose message quotes a phrase is taken for code 37. -/
theorem notPartitioned_of_message (quoted : "not a partitioned table".toList <:+: message.toList ∨
    "code: 37".toList <:+: message.toList) : notPartitioned e = true := by
  rw [notPartitioned_iff]
  exact quoted.imp (fun phrase => phrase.trans shown.message)
    fun phrase => phrase.trans shown.message

end Kinds

/-! ## Runs of a listing -/

section Runs

variable {sha256 : Sha256} {backend : FlussBackend} {creds : Option Auth.BasicAuthCredentials}
  {db table : String} {e : FlussError}

/-- What `list_partitions` makes of a reply. -/
def partitionsOf :
    Except FlussError (List PartitionInfo) → Outcome GatewayError (List PartitionInfo)
  | .ok parts => .ok parts
  | .error e => if notPartitioned e then .ok [] else Outcome.fail (flussErr e)

/-- The client's error decides what the listing returns. -/
theorem listPartitions_endsOn (conn : Connection) :
    (backend.listPartitions sha256 creds db table).EndsOn
      ⟨.listPartitionInfos conn ⟨db, table⟩, .error e⟩ (partitionsOf (.error e)) := by
  -- Neither the pool nor the admin handle asks for partitions.
  have pooled : (backend.conn sha256 creds).Always (· ≠ .listPartitionInfos conn ⟨db, table⟩) :=
    getOrCreate_always _ _ _ nofun nofun nofun
  have admin : ∀ c : Connection, c.getAdmin.Always (· ≠ .listPartitionInfos conn ⟨db, table⟩) :=
    fun _ => ⟨nofun, orFlussErr_always⟩
  refine .bind pooled (not_not_intro rfl) fun c => ?_
  refine .bind (admin c) (not_not_intro rfl) fun _ => ?_
  apply Program.EndsOn.last partitionsOf
  · rintro (e | parts)
    · exact (apply_ite Program.done _ _ _).symm
    · rfl
  · rintro reply same
    cases same
    rfl

theorem listPartitions_error {conn : Connection} {trace : List Exchange}
    {result : Outcome GatewayError (List PartitionInfo)}
    (answered : ⟨.listPartitionInfos conn ⟨db, table⟩, .error e⟩ ∈ trace)
    (ended : (backend.listPartitions sha256 creds db table).Ends trace result) :
    result = partitionsOf (.error e) :=
  ended.unique (listPartitions_endsOn conn trace ended.follows answered)

/-- The listing with a cached connection, answered with the error. -/
def listed (sha256 : Sha256) (backend : FlussBackend) (creds : Option Auth.BasicAuthCredentials)
    (conn : Connection) (db table : String) (e : FlussError) : List Exchange :=
  [⟨.cacheGet (backend.key sha256 creds), some conn⟩, ⟨.getAdmin conn, .ok ()⟩,
   ⟨.listPartitionInfos conn ⟨db, table⟩, .error e⟩]

theorem mem_listed (conn : Connection) :
    ⟨.listPartitionInfos conn ⟨db, table⟩, .error e⟩ ∈
      listed sha256 backend creds conn db table e := by
  simp [listed]

variable (sha256 backend creds db table e) in
theorem listed_ends (conn : Connection) :
    (backend.listPartitions sha256 creds db table).Ends
      (listed sha256 backend creds conn db table e) (partitionsOf (.error e)) := by
  apply Program.Ends.call
  apply Program.Ends.call
  apply Program.Ends.call
  unfold partitionsOf
  dsimp only
  split
  · exact .done _
  · exact .done _

end Runs

/-- Other errors are returned as they are exactly when their text has neither phrase. -/
theorem partition_errors_iff (sha256 : Sha256) (backend : FlussBackend)
    (creds : Option Auth.BasicAuthCredentials) (db table : String) (e : FlussError) :
    ReturnsOtherErrors sha256 backend creds db table e ↔ e.code = notPartitionedCode ∨
      (¬"not a partitioned table".toList <:+: e.text.toList ∧
        ¬"code: 37".toList <:+: e.text.toList) := by
  rw [← not_or, ← notPartitioned_iff]
  constructor
  · intro returns
    -- A run in which the error is taken for the other one shows that its code is 37.
    by_cases misread : notPartitioned e = true
    · have ended := listed_ends sha256 backend creds db table e ⟨0, ⟨"", "", "", "", ""⟩⟩
      rw [partitionsOf, if_pos misread] at ended
      exact .inl (returns.empty _ _ (mem_listed _) ended)
    · exact .inr misread
  · rintro (known | read)
    · exact ⟨fun _ _ _ _ => known, fun other => absurd known other⟩
    · have fails : partitionsOf (.error e) = Outcome.fail (flussErr e) := if_neg read
      constructor
      · intro conn trace answered ended
        have same := listPartitions_error answered ended
        rw [fails] at same
        cases same
      · intro _ conn trace result answered ended
        rw [listPartitions_error answered ended, fails]

/-- The error of a table that does not exist, of the name `code: 37`. -/
def missingTable : FlussError := ⟨7, "code: 7, message: table app.code: 37 does not exist"⟩

/-- It becomes the empty list. -/
theorem other_errors_emptied :
    Displays missingTable "table app.code: 37 does not exist" ∧
    (sampleBackend.listPartitions sampleSha256 none "app" "code: 37").Ends
      (listed sampleSha256 sampleBackend none sampleConnection "app" "code: 37" missingTable)
      (.ok []) ∧
    ¬ReturnsOtherErrors sampleSha256 sampleBackend none "app" "code: 37" missingTable := by
  have table : Displays missingTable "table app.code: 37 does not exist" :=
    ⟨by decide, by decide⟩
  have quoted : notPartitioned missingTable = true :=
    notPartitioned_of_message table (.inr (by decide))
  have ended := listed_ends sampleSha256 sampleBackend none "app" "code: 37" missingTable
    sampleConnection
  rw [partitionsOf, if_pos quoted] at ended
  refine ⟨table, ended, fun returns => ?_⟩
  cases returns.empty _ _ (mem_listed _) ended

end FlussGateway.Backend
