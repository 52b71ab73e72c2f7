import FlussGateway.Rest.RowConversion

/-!
# Keys of written rows

`lookup` refuses a request without a value for a key column; `produce` fills such a column with
null and writes the row. So does a JSON null, which converts to any type.
-/
namespace FlussGateway.Rest

open FlussGateway.Foundation FlussGateway.Backend FlussGateway.Codec

/-- The row has a value in every key column. -/
def KeyComplete (schema : Schema) (names : List String) (row : GenericRow) : Prop :=
  ∀ name ∈ names, ∃ j d, schema.position name = some j ∧ row.fields[j]? = some d ∧ d ≠ .null

/-- The request's row has a value other than null for every key column. -/
def KeyGiven (schema : Schema) (names : List String) (prow : ProduceRow) : Prop :=
  ∀ name ∈ names, ∃ j v, schema.position name = some j ∧ prow.values[j]? = some v ∧ v ≠ .null

/-- Only null converts to null. -/
theorem jsonToDatum_null_iff {v : Value} {T : DataType} {d : Datum}
    (converted : jsonToDatum v T = .ok d) : d = .null ↔ v = .null := by
  constructor
  · rintro rfl
    rcases jsonToDatum_type converted with ⟨null, _⟩ | typed
    · exact null
    · cases T <;> cases typed
  · rintro rfl
    cases converted
    rfl

/-- Once the table has been read: a request whose rows do not all give their keys is refused as a
bad request, and any other is refused so or upserts or deletes rows with complete keys only. -/
structure WritesWholeKeys (sha256 : Sha256) (formats : Formats) (state : AppState)
    (db table : String) (ext creds : Option Auth.BasicAuthCredentials) (req : ProduceRequest)
    (trace : List Exchange) (info : TableInfo) (names : List String) : Prop where
  complete :
    (∃ msg, (produce sha256 formats state db table ext req).Becomes trace
      (.done (Outcome.fail (.badRequest msg)))) ∨
    ∃ kind rows, kind ≠ WriteKind.append ∧
      (produce sha256 formats state db table ext req).Becomes trace
        (kind.rows sha256 state.backend db table rows creds) ∧
      ∀ row ∈ rows, KeyComplete info.schema names row
  refused : (∃ prow ∈ req.rows, ¬KeyGiven info.schema names prow) →
    ∃ msg, (produce sha256 formats state db table ext req).Becomes trace
      (.done (Outcome.fail (.badRequest msg)))

section Keys

variable {schema : Schema} {names : List String}

theorem keyComplete_iff {prow : ProduceRow} {row : GenericRow}
    (matched : RowMatches schema.columns prow row) :
    KeyComplete schema names row ↔ KeyGiven schema names prow := by
  unfold KeyComplete KeyGiven
  refine forall₂_congr fun name _ => exists_congr fun j => ?_
  constructor
  · rintro ⟨d, placed, field, filled⟩
    obtain ⟨column, found, _, _⟩ := position_spec placed
    cases given : prow.values[j]? with
    -- A field without a value of the request is null.
    | none =>
      have inside := (List.getElem?_eq_some_iff.mp found).1
      have missing := matched.missing j inside (List.getElem?_eq_none_iff.mp given)
      rw [field, Option.some.injEq] at missing
      exact absurd missing filled
    | some v =>
      obtain ⟨d', converted, field', _⟩ := matched.given j v column given found
      rw [field, Option.some.injEq] at field'
      subst field'
      exact ⟨v, placed, rfl, fun null => filled ((jsonToDatum_null_iff converted).mpr null)⟩
  · rintro ⟨v, placed, given, filled⟩
    obtain ⟨column, found, _, _⟩ := position_spec placed
    obtain ⟨d, converted, field, _⟩ := matched.given j v column given found
    exact ⟨d, placed, field, fun null => filled ((jsonToDatum_null_iff converted).mp null)⟩

end Keys

theorem rows_ne_done (kind : WriteKind) (sha256 : Sha256) (backend : FlussBackend)
    (db table : String) (rows : List GenericRow) (creds : Option Auth.BasicAuthCredentials)
    (result : Outcome GatewayError WriteResult) :
    kind.rows sha256 backend db table rows creds ≠ .done result := by
  intro same
  cases kind <;> cases same

/-- Writes never lack a key exactly when the request gives all keys, or holds a value that does not
convert. -/
theorem writes_whole_keys_iff {sha256 : Sha256} {formats : Formats} {state : AppState}
    {db table : String} {ext creds : Option Auth.BasicAuthCredentials} {req : ProduceRequest}
    {trace : List Exchange} {info : TableInfo} {names : List String}
    (admitted : Auth.extractCreds state.authType ext = .ok creds)
    (read : (getTableInfo sha256 state.backend db table creds).Ends trace (.ok info))
    (keyed : info.schema.primaryKey = some names) :
    WritesWholeKeys sha256 formats state db table ext creds req trace info names ↔
      (∀ prow ∈ req.rows, KeyGiven info.schema names prow) ∨
      ∃ i j e, ValueFails info.schema.columns req.rows i j e := by
  obtain ⟨stops, converts⟩ := produce_conversion formats req admitted read
  constructor
  · intro whole
    by_contra neither
    obtain ⟨lacking, none⟩ := not_or.mp neither
    obtain ⟨prow, rest⟩ := not_forall.mp lacking
    obtain ⟨member, lacks⟩ := Classical.not_imp.mp rest
    -- Every value converts, so the rows are handed on, and are not refused.
    obtain ⟨rows, _, writes⟩ := converts fun i j e fails => none ⟨i, j, e, fails⟩
    obtain ⟨msg, refused⟩ := whole.refused ⟨prow, member, lacks⟩
    exact rows_ne_done _ _ _ _ _ _ _ _ (writes.unique refused)
  · intro given
    -- A value that does not convert stops the whole request before any write.
    by_cases fails : ∃ i j e, ValueFails info.schema.columns req.rows i j e
    · obtain ⟨i, j, e, _, refused⟩ := stops fails
      exact ⟨.inl ⟨_, refused⟩, fun _ => ⟨_, refused⟩⟩
    · have all := given.resolve_right fails
      obtain ⟨rows, matched, writes⟩ := converts fun i j e here => fails ⟨i, j, e, here⟩
      refine ⟨.inr ⟨_, rows, ?_, writes, fun row member => ?_⟩, ?_⟩
      · rw [writeKind, keyed]
        cases req.rows.any isDelete <;> simp
      · obtain ⟨i, inside, rfl⟩ := List.getElem_of_mem member
        have small : i < req.rows.length := by
          rw [matched.length_eq]
          exact inside
        exact (keyComplete_iff (matched.get small inside)).mpr (all _ (List.getElem_mem small))
      · rintro ⟨prow, member, lacks⟩
        exact absurd (all prow member) lacks

/-! ## A row without its key -/

/-- Nothing for the key `id`, and for the name neither. -/
def keyless : ProduceRequest := ⟨[⟨[], none⟩, ⟨[.null, .string "a"], some "Delete"⟩]⟩

theorem writes_whole_keys_iff_badName :
    WritesWholeKeys sampleSha256 sampleLibrary.formats localState "app" "users" none none badName
      usersRead sampleInfo ["id"] ↔
      (∀ prow ∈ badName.rows, KeyGiven sampleInfo.schema ["id"] prow) ∨
      ∃ i j e, ValueFails sampleInfo.schema.columns badName.rows i j e :=
  writes_whole_keys_iff rfl usersRead_ends rfl

def usersTableRead : FlussTable := ⟨sampleConnection, samplePath, sampleInfo⟩

/-- The first row is handed to the client with a null key. The client refuses it, and the response is
the client's error and no bad request. -/
theorem keyless_handed :
    (∃ trace, (produce sampleSha256 sampleLibrary.formats localState "app" "users" none
        keyless).Ends trace (Outcome.fail (flussErr Shelf.nullKey)) ∧
      (⟨.delete usersTableRead ⟨[.null, .null]⟩, .error Shelf.nullKey⟩ : Exchange) ∈ trace) ∧
    (flussErr Shelf.nullKey).statusCode = 500 ∧
    ¬WritesWholeKeys sampleSha256 sampleLibrary.formats localState "app" "users" none none keyless
      usersRead sampleInfo ["id"] := by
  refine ⟨?_, rfl, ?_⟩
  · refine ⟨usersRead ++ usersRead ++ [⟨.newUpsert usersTableRead, .ok ()⟩,
      ⟨.createUpsertWriter usersTableRead, .ok ()⟩,
      ⟨.delete usersTableRead ⟨[.null, .null]⟩, .error Shelf.nullKey⟩], ?_, by simp⟩
    exact .call (.call (.call (.call (.call (.call (.call (.done _)))))))
  · intro whole
    obtain ⟨msg, refused⟩ := whole.refused ⟨_, List.mem_cons_self, fun given => by
      obtain ⟨j, v, _, absent, _⟩ := given "id" List.mem_cons_self
      cases absent⟩
    cases refused with
    | call rest =>
      cases rest with
      | call rest => cases rest

end FlussGateway.Rest
