import FlussGateway.Rest.Produce

/-!
# Change types of a batch

What each row of a request asks for by its own change type, and what the one decision taken
for the whole batch does instead. Once some row is marked as a deletion every row is sent
as one.
-/
namespace FlussGateway.Rest

open FlussGateway.Foundation FlussGateway.Backend FlussGateway.Codec

/-- The change a row asks for. -/
def ownChange (schema : Schema) (prow : ProduceRow) (row : GenericRow) : RowChange :=
  if isDelete prow then .remove (schema.key row) else .set (schema.key row) row

def ownChanges (schema : Schema) (prows : List ProduceRow) (rows : List GenericRow) : List RowChange :=
  List.zipWith (ownChange schema) prows rows

/-- The changes the batch is sent as. -/
def batchChanges (schema : Schema) (prows : List ProduceRow) (rows : List GenericRow) : List RowChange :=
  if prows.any isDelete then rows.map fun row => .remove (schema.key row)
  else rows.map fun row => .set (schema.key row) row

/-- The rows take effect one by one, each by its own change type. Row `i` is sent by call `i`. -/
structure OwnEffect {σ : Type} (kv : KvTable σ) (prows : List ProduceRow) (rows : List GenericRow)
    (s s' : σ) (cs : List Call) : Prop where
  content : kv.stored s' = (kv.content s).replay (ownChanges kv.schema prows rows)
  unmarked : ∀ (i : Nat) prow, prows[i]? = some prow → isDelete prow = false →
    ¬(kv.content s).RemovesAt (kv.issued cs) i
  marked : ∀ (i : Nat) prow, prows[i]? = some prow → isDelete prow = true →
    ∀ k row, (kv.issued cs)[i]? ≠ some (.set k row)

/-! ## The decision -/

variable {σ : Type} {kv : KvTable σ}

theorem produce_settles (sha256 : Sha256) {formats : Formats} (state : AppState) {db table : String}
    (here : ⟨db, table⟩ = kv.path) (primary : kv.schema.primaryKey.isSome)
    (ext : Option Auth.BasicAuthCredentials) {req : ProduceRequest} {rows : List GenericRow}
    (converted : convertRows formats kv.schema.columns 0 req.rows = .ok rows) :
    kv.Settles (produce sha256 formats state db table ext req)
      (fun result => result.rowCount = rows.length) (batchChanges kv.schema req.rows rows) := by
  refine (KvTable.queues_lift _).quietly fun creds _ => ?_
  refine (getTableInfo_queues sha256 state.backend here creds).quietly fun info described => ?_
  refine (KvTable.queues_lift _).quietly fun rows' converted' => ?_
  rw [described, converted, Except.ok.injEq] at converted'
  subst rows'
  rw [described, if_pos primary, batchChanges]
  split
  · exact deleteRows_settles sha256 state.backend here rows creds
  · exact upsertRows_settles sha256 state.backend here rows creds

section Rows

variable {schema : Schema} {prows : List ProduceRow} {rows : List GenericRow}

theorem ownChange_key (prow : ProduceRow) (row : GenericRow) :
    (ownChange schema prow row).key = schema.key row := by
  unfold ownChange
  split <;> rfl

/-- A change that sets comes from a row that is not marked. -/
theorem ownChanges_set {i : Nat} {k : List Datum} {row : GenericRow}
    (found : (ownChanges schema prows rows)[i]? = some (.set k row)) :
    ∃ prow, prows[i]? = some prow ∧ isDelete prow = false := by
  rw [ownChanges, List.getElem?_zipWith] at found
  split at found
  next prow row' sent _ =>
    refine ⟨prow, sent, ?_⟩
    rw [Option.some.injEq, ownChange] at found
    split at found
    next => cases found
    next unmarked => simpa using unmarked
  next => cases found

theorem ownChanges_get (lengths : prows.length = rows.length) {i : Nat} {prow : ProduceRow}
    (sent : prows[i]? = some prow) :
    ∃ row, (ownChanges schema prows rows)[i]? = some (ownChange schema prow row) := by
  have small := (List.getElem?_eq_some_iff.mp sent).1
  refine ⟨rows[i], ?_⟩
  rw [ownChanges, List.getElem?_zipWith, sent, List.getElem?_eq_getElem (lengths ▸ small)]

theorem batchChanges_unmarked (lengths : prows.length = rows.length) (unmarked : prows.any isDelete = false) :
    batchChanges schema prows rows = ownChanges schema prows rows := by
  rw [batchChanges, unmarked, if_neg Bool.false_ne_true]
  induction prows generalizing rows with
  | nil => cases rows with
    | nil => rfl
    | cons _ _ => cases lengths
  | cons prow prows ih => cases rows with
    | nil => cases lengths
    | cons row rows =>
      simp only [List.any_cons, Bool.or_eq_false_iff] at unmarked
      have rest := ih (Nat.succ.inj lengths) unmarked.2
      simp only [List.map_cons, rest, ownChanges, List.zipWith_cons_cons, ownChange, unmarked.1, Bool.false_eq_true,
        if_false]

theorem batchChanges_marked (lengths : prows.length = rows.length) (marked : prows.any isDelete = true) :
    batchChanges schema prows rows = (ownChanges schema prows rows).map Change.removal := by
  rw [batchChanges, marked, if_pos rfl, ownChanges, List.map_zipWith]
  have same : (fun prow row => (ownChange schema prow row).removal) =
      fun _ row => (.remove (schema.key row) : RowChange) := by
    funext prow row
    rw [Change.removal, ownChange_key]
  rw [same]
  clear marked same
  induction prows generalizing rows with
  | nil => cases rows with
    | nil => rfl
    | cons _ _ => cases lengths
  | cons prow prows ih => cases rows with
    | nil => cases lengths
    | cons row rows => simp [ih (Nat.succ.inj lengths)]

end Rows

/-! ## When every row takes its own effect -/

section Effect

variable {prows : List ProduceRow} {rows : List GenericRow} {s s' : σ} {cs : List Call}

theorem ownEffect_unmarked (lengths : prows.length = rows.length) (unmarked : prows.any isDelete = false)
    (settled : kv.stored s' = (kv.content s).replay (batchChanges kv.schema prows rows))
    (sent : kv.issued cs = batchChanges kv.schema prows rows) : OwnEffect kv prows rows s s' cs := by
  have same : batchChanges kv.schema prows rows = ownChanges kv.schema prows rows :=
    batchChanges_unmarked lengths unmarked
  refine ⟨by rw [settled, same], fun i prow _ _ removes => ?_, fun i prow found mark => ?_⟩
  · obtain ⟨k, removed, _⟩ := removes
    rw [sent, batchChanges, unmarked, if_neg Bool.false_ne_true, List.getElem?_map] at removed
    obtain ⟨row, _, equal⟩ := Option.map_eq_some_iff.mp removed
    cases equal
  · have marked := List.any_eq_false.mp unmarked prow (List.mem_of_getElem? found)
    exact absurd mark marked

theorem ownEffect_marked_iff (lengths : prows.length = rows.length) (marked : prows.any isDelete = true)
    (settled : kv.stored s' = (kv.content s).replay (batchChanges kv.schema prows rows))
    (sent : kv.issued cs = batchChanges kv.schema prows rows) :
    OwnEffect kv prows rows s s' cs ↔ (kv.content s).Covered (ownChanges kv.schema prows rows) := by
  rw [batchChanges_marked lengths marked] at settled sent
  constructor
  · intro effect i k row set
    refine ⟨(Content.replay_removals_eq_iff _ _).mp (settled.symm.trans effect.content) i k row set, ?_⟩
    intro held
    obtain ⟨prow, found, unmarked⟩ := ownChanges_set set
    have kept := effect.unmarked i prow found unmarked
    -- The row must not be the one that removes its key, so an earlier row names it.
    rw [sent, Content.removesAt_removals_iff _ set] at kept
    by_contra first
    exact kept ⟨held, fun j c before found named => first ⟨j, c, before, found, named⟩⟩
  -- The first removal of an unmarked row's key belongs to another row.
  · intro covered
    refine ⟨?_, fun i prow found unmarked removes => ?_, fun i prow _ _ k row set => ?_⟩
    · rw [settled]
      exact (Content.replay_removals_eq_iff _ _).mpr fun i k row set => (covered i k row set).1
    · obtain ⟨row, change⟩ : ∃ row, (ownChanges kv.schema prows rows)[i]? = some (ownChange kv.schema prow row) :=
        ownChanges_get lengths found
      rw [ownChange, unmarked, if_neg Bool.false_ne_true] at change
      rw [sent, Content.removesAt_removals_iff _ change] at removes
      obtain ⟨j, c, before, named, same⟩ := (covered i _ row change).2 removes.1
      exact removes.2 j c before named same
    · rw [sent, List.getElem?_map] at set
      obtain ⟨c, _, equal⟩ := Option.map_eq_some_iff.mp set
      cases equal

end Effect

/-- On a primary-key table a successful request gives each row its own effect exactly when no row is
marked as a deletion, or every unmarked row is followed by a marked one with the same key and,
if that key was stored, preceded by a row with the same key. -/
theorem produce_ownEffect_iff (kv : KvTable σ) (sha256 : Sha256) {formats : Formats} (state : AppState)
    {db table : String} (here : ⟨db, table⟩ = kv.path) (primary : kv.schema.primaryKey.isSome)
    (ext : Option Auth.BasicAuthCredentials) {req : ProduceRequest} {rows : List GenericRow}
    (converted : convertRows formats kv.schema.columns 0 req.rows = .ok rows) {s s' : σ} {result : WriteResult}
    (returned : (produce sha256 formats state db table ext req).run kv.service s = (.ok result, s')) :
    OwnEffect kv req.rows rows s s' ((produce sha256 formats state db table ext req).calls kv.service s) ↔
      (∀ prow ∈ req.rows, isDelete prow = false) ∨
      (kv.content s).Covered (ownChanges kv.schema req.rows rows) := by
  obtain ⟨_, settled, _, sent⟩ := produce_settles sha256 state here primary ext converted s result s' returned
  have lengths := convertRows_length converted
  -- Without a mark the batch is sent as it was meant; with one, every row is a removal.
  cases marks : req.rows.any isDelete with
  | false =>
    have unmarked : ∀ prow ∈ req.rows, isDelete prow = false := by simpa using marks
    exact iff_of_true (ownEffect_unmarked lengths marks settled sent) (.inl unmarked)
  | true =>
    rw [ownEffect_marked_iff lengths marks settled sent]
    refine ⟨.inr, fun either => either.resolve_left fun unmarked => ?_⟩
    obtain ⟨prow, member, mark⟩ := List.any_eq_true.mp marks
    rw [unmarked prow member] at mark
    cases mark

/-! ## A batch with an insertion and a deletion -/

/-- The first row is to be stored, the second removed. -/
def mixedBatch : ProduceRequest where
  rows := [⟨[.number (.posInt 1), .string "ada"], some "Insert"⟩, ⟨[.number (.posInt 2)], some "Delete"⟩]

def mixedRows : List GenericRow := [⟨[.int32 1, .string "ada"]⟩, ⟨[.int32 2, .null]⟩]

def mixedProduce : Gateway WriteResult :=
  produce sampleSha256 ⟨fun _ => "", fun _ => "", fun _ => ""⟩ localState "app" "users" none mixedBatch

/-- The table afterwards. -/
def mixedEnd : Memory := (mixedProduce.run (Memory.service samplePath sampleInfo) .empty).2

theorem mixedProduce_returns :
    mixedProduce.run (Memory.service samplePath sampleInfo) .empty = (.ok ⟨2⟩, mixedEnd) := rfl

theorem produce_ownEffect_iff_mixed :
    OwnEffect (Memory.table samplePath sampleInfo) mixedBatch.rows mixedRows .empty mixedEnd
      (mixedProduce.calls (Memory.service samplePath sampleInfo) .empty) ↔
    (∀ prow ∈ mixedBatch.rows, isDelete prow = false) ∨
      ((Memory.table samplePath sampleInfo).content .empty).Covered
        (ownChanges sampleInfo.schema mixedBatch.rows mixedRows) := by
  have converted : convertRows ⟨fun _ => "", fun _ => "", fun _ => ""⟩ sampleInfo.schema.columns 0 mixedBatch.rows =
      .ok mixedRows := rfl
  exact produce_ownEffect_iff (Memory.table samplePath sampleInfo) sampleSha256 localState rfl rfl none converted
    mixedProduce_returns

/-- The row to be stored is not there afterwards. -/
theorem mixedProduce_not_ownEffect :
    mixedEnd.stored [.int32 1] = none ∧
    Content.replay (fun _ => none) (ownChanges sampleInfo.schema mixedBatch.rows mixedRows) [.int32 1] =
      some ⟨[.int32 1, .string "ada"]⟩ ∧
    ¬OwnEffect (Memory.table samplePath sampleInfo) mixedBatch.rows mixedRows .empty mixedEnd
      (mixedProduce.calls (Memory.service samplePath sampleInfo) .empty) := by
  refine ⟨rfl, rfl, fun effect => ?_⟩
  have gone : mixedEnd.stored [.int32 1] = none := rfl
  have kept : Content.replay (fun _ => none) (ownChanges sampleInfo.schema mixedBatch.rows mixedRows) [.int32 1] =
      some ⟨[.int32 1, .string "ada"]⟩ := rfl
  have same := congrFun effect.content [.int32 1]
  exact absurd (gone.symm.trans (same.trans kept)) (by simp)

end FlussGateway.Rest
