import FlussGateway.Backend.Lookup
import FlussGateway.Codec.ColumnTypes
import FlussGateway.Rest.IntegerCells

/-!
# Addressing a written row by its key

A lookup gives key values as text. The text of a written value reads back as the datum that
was written, except at `TINYINT` and `SMALLINT` columns, which read no text at all, and
for a number that was cut to the width of an `INT` column.
-/
namespace FlussGateway.Rest

open FlussGateway.Foundation FlussGateway.Backend FlussGateway.Codec

/-! ## The lookup endpoints -/

section Endpoints

variable (sha256 : Sha256) (formats : Formats) (debug : Debug) (state : AppState) (db table : String)

def lookup (params : LookupParams) (ext : Option Auth.BasicAuthCredentials) : Gateway (List Value) := do
  let creds ← Program.lift (Auth.extractCreds state.authType ext)
  state.backend.lookup sha256 formats debug db table params creds

/-- One lookup for each key, the rows of all of them in order. -/
def lookupEach (creds : Option Auth.BasicAuthCredentials) : List LookupParams → Gateway (List Value)
  | [] => pure []
  | key :: keys => do
    let rows ← state.backend.lookup sha256 formats debug db table key creds
    let results ← lookupEach creds keys
    pure (rows ++ results)

def batchLookup (keys : List LookupParams) (ext : Option Auth.BasicAuthCredentials) : Gateway (List Value) := do
  let creds ← Program.lift (Auth.extractCreds state.authType ext)
  lookupEach sha256 formats debug state db table creds keys

end Endpoints

/-! ## Values as text -/

/-- The plain text of a value: digits of an integer, the literal of a boolean, a string itself. -/
def plainText : Value → Option String
  | .bool b => some (toString b)
  | .number n => (Value.number n).integer.map toString
  | .string s => some s
  | _ => none

/-- The types a key column may have: those that can be created, without the floating ones. -/
def keyable : DataType → Bool
  | .boolean | .tinyInt | .smallInt | .int | .bigInt | .string | .bytes => true
  | _ => false

/-- A value whose text the lookup path does not take for what was written. -/
def Unreadable (v : Value) (T : DataType) : Prop :=
  T = .tinyInt ∨ T = .smallInt ∨ (T = .int ∧ Cut v 32)

/-- An accepted number is an integer, and its cell holds that integer cut to the width. -/
theorem accepted_number {n : Number} {T : DataType} {bits : Nat} (width : T.intBits = some bits) {d : Datum}
    (accepted : jsonToDatum (.number n) T = .ok d) :
    ∃ z, (Value.number n).integer = some z ∧ InRange 64 z ∧ d.integer = some (z.bmod (2 ^ bits)) := by
  rcases number_at_int_column n T bits width with ⟨_, e, refused⟩ | ⟨i, d', read, stored, cell⟩
  · rw [refused] at accepted
    cases accepted
  · rw [stored, Except.ok.injEq] at accepted
    subst d'
    exact ⟨i.toInt, integer_of_asI64 read, int64_range i, cell⟩

theorem cut_iff {n : Number} {z : Int} (sent : (Value.number n).integer = some z) (inside : InRange 64 z)
    (bits : Nat) : Cut (.number n) bits ↔ ¬InRange bits z := by
  constructor
  · rintro ⟨_, z', _, sent', _, outside⟩
    rw [sent, Option.some.injEq] at sent'
    exact sent' ▸ outside
  · intro outside
    exact ⟨n, z, rfl, sent, inside, outside⟩

theorem int_text_iff (s : String) (m : Int32) :
    jsonToDatum (.string s) .int = .ok (.int32 m) ↔ Decimal.reading s.toList = some m.toInt := by
  rw [← parseI32_ok_iff]
  cases read : parseI32 s <;> simp [jsonToDatum, read, Except.map, Except.mapError]

theorem bigInt_text_iff (s : String) (m : Int64) :
    jsonToDatum (.string s) .bigInt = .ok (.int64 m) ↔ Decimal.reading s.toList = some m.toInt := by
  rw [← parseI64_ok_iff]
  cases read : parseI64 s <;> simp [jsonToDatum, read, Except.map, Except.mapError]

/-- The digits of a number read back at an `INT` column unless the number was cut. -/
theorem int_digits_iff {n : Number} {d : Datum} (accepted : jsonToDatum (.number n) .int = .ok d) {z : Int}
    (sent : (Value.number n).integer = some z) :
    jsonToDatum (.string (toString z)) .int = .ok d ↔ ¬Cut (.number n) 32 := by
  obtain ⟨z', sent', inside, cell⟩ := accepted_number (show DataType.int.intBits = some 32 from rfl) accepted
  rw [sent, Option.some.injEq] at sent'
  subst z'
  obtain ⟨m, rfl⟩ : ∃ m, d = .int32 m := by
    cases read : n.asI64 <;> simp [jsonToDatum, read, expect] at accepted
    exact ⟨_, accepted.symm⟩
  -- The digits read as the integer sent, the cell holds it cut to 32 bits.
  rw [int_text_iff, Decimal.reading_toString, cut_iff sent inside, not_not, ← bmod_eq_self_iff (by decide)]
  simp only [Datum.integer, Option.some.injEq] at cell
  rw [cell, Option.some.injEq, eq_comm]

theorem bigInt_digits {n : Number} {d : Datum} (accepted : jsonToDatum (.number n) .bigInt = .ok d) {z : Int}
    (sent : (Value.number n).integer = some z) : jsonToDatum (.string (toString z)) .bigInt = .ok d := by
  obtain ⟨z', sent', inside, cell⟩ := accepted_number (show DataType.bigInt.intBits = some 64 from rfl) accepted
  rw [sent, Option.some.injEq] at sent'
  subst z'
  obtain ⟨m, rfl⟩ : ∃ m, d = .int64 m := by
    cases read : n.asI64 <;> simp [jsonToDatum, read, expect] at accepted
    exact ⟨_, accepted.symm⟩
  simp only [Datum.integer, (bmod_eq_self_iff (by decide) z).mpr inside, Option.some.injEq] at cell
  rw [bigInt_text_iff, Decimal.reading_toString, cell]

theorem bool_text (b : Bool) : jsonToDatum (.string (toString b)) .boolean = .ok (.bool b) := by
  cases b <;> rfl

/-- Over every key type and every accepted value that is not null: the value has a plain text, and the
text is taken for what was written exactly when it is not unreadable. -/
theorem text_readable_iff {T : DataType} (key : keyable T = true) {v : Value} {d : Datum}
    (filled : v ≠ .null) (accepted : jsonToDatum v T = .ok d) :
    ∃ t, plainText v = some t ∧ (jsonToDatum (.string t) T = .ok d ↔ ¬Unreadable v T) := by
  cases v with
  | null => exact absurd rfl filled
  | bool b =>
    cases T <;> cases accepted
    exact ⟨_, rfl, iff_of_true (bool_text b) (by simp [Unreadable])⟩
  | number n =>
    cases T with
    | tinyInt =>
      obtain ⟨z, sent, _⟩ := accepted_number (show DataType.tinyInt.intBits = some 8 from rfl) accepted
      exact ⟨toString z, by simp [plainText, sent], iff_of_false nofun (by simp [Unreadable])⟩
    | smallInt =>
      obtain ⟨z, sent, _⟩ := accepted_number (show DataType.smallInt.intBits = some 16 from rfl) accepted
      exact ⟨toString z, by simp [plainText, sent], iff_of_false nofun (by simp [Unreadable])⟩
    | int =>
      obtain ⟨z, sent, _⟩ := accepted_number (show DataType.int.intBits = some 32 from rfl) accepted
      exact ⟨toString z, by simp [plainText, sent], by simpa [Unreadable] using int_digits_iff accepted sent⟩
    | bigInt =>
      obtain ⟨z, sent, _⟩ := accepted_number (show DataType.bigInt.intBits = some 64 from rfl) accepted
      exact ⟨toString z, by simp [plainText, sent], iff_of_true (bigInt_digits accepted sent) (by simp [Unreadable])⟩
    | float => cases key
    | double => cases key
    | _ => cases accepted
  | string s =>
    -- The text of a string is the string, and is converted as it was on the write.
    have whole : ¬Cut (.string s) 32 := not_cut_of_other nofun
    refine ⟨s, rfl, iff_of_true accepted ?_⟩
    rintro (rfl | rfl | ⟨rfl, cut⟩)
    · cases accepted
    · cases accepted
    · exact whole cut
  | array items => cases T <;> cases accepted
  | object entries => cases T <;> cases accepted

/-! ## Rows -/

theorem filterMap_eq_iff {α β : Type} {f g : α → Option β} {xs : List α} (left : ∀ x ∈ xs, ∃ y, f x = some y)
    (right : ∀ x ∈ xs, ∃ y, g x = some y) : xs.filterMap f = xs.filterMap g ↔ ∀ x ∈ xs, f x = g x := by
  induction xs with
  | nil => simp
  | cons x xs ih =>
    obtain ⟨y, fx⟩ := left x (List.mem_cons_self ..)
    obtain ⟨z, gx⟩ := right x (List.mem_cons_self ..)
    have rest := ih (fun a member => left a (List.mem_cons_of_mem _ member))
      fun a member => right a (List.mem_cons_of_mem _ member)
    simp [fx, gx, rest]

/-- Every key column is a column of a key type, holds a value that is not null in the request's row, and
has the plain text of that value among the parameters. -/
def GivesKey (schema : Schema) (names : List String) (prow : ProduceRow) (params : LookupParams) : Prop :=
  ∀ name ∈ names, ∃ (j : Nat) (column : Column) (v : Value), schema.position name = some j ∧
    schema.columns[j]? = some column ∧ keyable column.dataType = true ∧ prow.values[j]? = some v ∧ v ≠ .null ∧
    params.get name = plainText v

/-- No key value of the request's row is unreadable. -/
def KeyReadable (schema : Schema) (names : List String) (prow : ProduceRow) : Prop :=
  ∀ name ∈ names, ∀ (j : Nat) (column : Column) (v : Value), schema.position name = some j →
    schema.columns[j]? = some column → prow.values[j]? = some v → ¬Unreadable v column.dataType

/-- The row handed over is made, and has the fields of the written row in the key columns. -/
def Addressed (formats : Formats) (schema : Schema) (names : List String) (params : LookupParams)
    (row : GenericRow) : Prop :=
  ∃ found, lookupRow formats schema params names = .ok found ∧ ∀ name ∈ names,
    (schema.position name).bind (found.fields[·]?) = (schema.position name).bind (row.fields[·]?)

/-- What the client reads as the key in the row handed over is the key of the written row. -/
def ReadsKey (formats : Formats) (schema : Schema) (names : List String) (params : LookupParams)
    (row : GenericRow) : Prop :=
  ∃ found, lookupRow formats schema params names = .ok found ∧ schema.lookupKey found = schema.key row

section Row

variable {formats : Formats} {schema : Schema} {names : List String} {prow : ProduceRow} {row : GenericRow}
  {params : LookupParams} {i : Nat}

/-- At a key column, the field a lookup makes is the written one exactly when the value is readable. -/
theorem keyField_written_iff (converted : convertRow formats schema.columns i prow = .ok row) {name : String}
    {j : Nat} {column : Column} {v : Value} (place : schema.position name = some j)
    (here : schema.columns[j]? = some column) (key : keyable column.dataType = true)
    (value : prow.values[j]? = some v) (filled : v ≠ .null) (given : params.get name = plainText v) :
    ∃ d, row.fields[j]? = some d ∧
      (keyField formats schema params name = .ok (j, d) ↔ ¬Unreadable v column.dataType) := by
  obtain ⟨d, accepted, field⟩ := ((convertRow_ok converted).2 j column here).2 v value
  obtain ⟨t, text, reads⟩ := text_readable_iff key filled accepted
  refine ⟨d, field, ?_⟩
  rw [keyField_ok_iff place here, given, text, ← reads]
  constructor
  · rintro ⟨_, t', same, converts⟩
    cases same
    exact converts
  · intro converts
    exact ⟨rfl, t, rfl, converts⟩

theorem looked_up {found : GenericRow}
    (made : lookupRow formats schema params names = .ok found) :
    ∀ name ∈ names, ∃ j d, keyField formats schema params name = .ok (j, d) ∧
      (schema.position name).bind (found.fields[·]?) = some d := by
  intro name member
  obtain ⟨_, fields, _⟩ := fillKey_ok (GenericRow.length_new _) made
  obtain ⟨j, d, field, there⟩ := fields name member
  exact ⟨j, d, field, by simp [keyField_position field, there]⟩

/-- Conversion stores every key cell of the row. -/
theorem written_fields (converted : convertRow formats schema.columns i prow = .ok row)
    (gives : GivesKey schema names prow params) :
    ∀ name ∈ names, ∃ d, (schema.position name).bind (row.fields[·]?) = some d := by
  intro name member
  obtain ⟨j, column, v, place, here, key, value, filled, given⟩ := gives name member
  obtain ⟨d, field, _⟩ := keyField_written_iff converted place here key value filled given
  exact ⟨d, by simp [place, field]⟩

theorem addressed_iff (converted : convertRow formats schema.columns i prow = .ok row)
    (gives : GivesKey schema names prow params) :
    Addressed formats schema names params row ↔ KeyReadable schema names prow := by
  constructor
  -- The field handed over is the one that was written, so it has been read back as that.
  · rintro ⟨found, made, same⟩ name member j column v place here value
    obtain ⟨j', column', v', place', here', key, value', filled, given⟩ := gives name member
    cases place.symm.trans place'
    cases here.symm.trans here'
    cases value.symm.trans value'
    obtain ⟨d, stored, reads⟩ := keyField_written_iff converted place here key value filled given
    obtain ⟨j', d', field, there⟩ := looked_up made name member
    cases place.symm.trans (keyField_position field)
    rw [same name member] at there
    simp only [place, Option.bind_some, stored, Option.some.injEq] at there
    exact reads.mp (there ▸ field)
  · intro readable
    have each : ∀ name ∈ names, ∃ j d, keyField formats schema params name = .ok (j, d) ∧
        (schema.position name).bind (row.fields[·]?) = some d := by
      intro name member
      obtain ⟨j, column, v, place, here, key, value, filled, given⟩ := gives name member
      obtain ⟨d, field, reads⟩ := keyField_written_iff converted place here key value filled given
      exact ⟨j, d, reads.mpr (readable name member j column v place here value), by simp [place, field]⟩
    -- No key field fails, so the whole key is built.
    have convertible : ∀ name ∈ names, ∃ found, keyField formats schema params name = .ok found := by
      intro name member
      obtain ⟨j, d, field, _⟩ := each name member
      exact ⟨(j, d), field⟩
    obtain ⟨found, made⟩ := fillKey_total (GenericRow.length_new schema.columns.length) convertible
    refine ⟨found, made, fun name member => ?_⟩
    obtain ⟨j, d, field, here⟩ := each name member
    obtain ⟨j', d', field', there⟩ := looked_up made name member
    cases field.symm.trans field'
    rw [here, there]

/-- Where the key columns lead the schema, the client reads them. -/
theorem readsKey_iff (primary : schema.primaryKey = some names) (leads : schema.Leads)
    (distinct : names.Nodup) (converted : convertRow formats schema.columns i prow = .ok row)
    (gives : GivesKey schema names prow params) :
    ReadsKey formats schema names params row ↔ KeyReadable schema names prow := by
  rw [← addressed_iff converted gives]
  refine exists_congr fun found => and_congr_right fun made => ?_
  have long : (schema.primaryKey.getD []).length ≤ found.fields.length := by
    rw [(fillKey_ok (GenericRow.length_new _) made).1]
    simpa using leads.length_le
  have looked : ∀ name ∈ names, ∃ d, (schema.position name).bind (found.fields[·]?) = some d := by
    intro name member
    obtain ⟨_, d, _, there⟩ := looked_up made name member
    exact ⟨d, there⟩
  rw [schema.lookupKey_eq_key leads (by simpa [primary] using distinct) long]
  -- No key column is skipped on either side, so equal keys are equal column by column.
  simp only [Schema.key, primary, Option.getD_some]
  exact filterMap_eq_iff looked (written_fields converted gives)

end Row

theorem lookupEach_always (sha256 : Sha256) (formats : Formats) (debug : Debug) (state : AppState)
    (db table : String) (creds : Option Auth.BasicAuthCredentials) {all : List LookupParams}
    (keys : List LookupParams) (inside : ∀ key ∈ keys, key ∈ all) :
    (lookupEach sha256 formats debug state db table creds keys).Always (LooksUp formats all) := by
  induction keys with
  | nil => trivial
  | cons key keys ih =>
    refine Program.always_bind (lookup_always sha256 formats debug state.backend db table
      (inside key (List.mem_cons_self ..)) creds) fun rows => ?_
    exact Program.always_bind (ih fun key member => inside key (List.mem_cons_of_mem _ member)) fun _ => trivial

/-- Addressing by text. A value is read back as what was written exactly when it is not unreadable;
the two lookup endpoints look up nothing but the rows made from the keys they were given; and
such a row has the key fields of the row that was written exactly when every key value is readable.
Where the key columns lead the schema, that is when the client reads the written key. -/
theorem written_addressed_iff (sha256 : Sha256) (formats : Formats) (debug : Debug) (state : AppState)
    (db table : String) (ext : Option Auth.BasicAuthCredentials) :
    (∀ T v d, keyable T = true → v ≠ .null → jsonToDatum v T = .ok d →
      ∃ t, plainText v = some t ∧ (jsonToDatum (.string t) T = .ok d ↔ ¬Unreadable v T)) ∧
    (∀ params, (lookup sha256 formats debug state db table params ext).Always (LooksUp formats [params])) ∧
    (∀ keys, (batchLookup sha256 formats debug state db table keys ext).Always (LooksUp formats keys)) ∧
    (∀ schema names i prow row params, convertRow formats schema.columns i prow = .ok row →
      GivesKey schema names prow params →
      (Addressed formats schema names params row ↔ KeyReadable schema names prow) ∧
      (schema.primaryKey = some names → schema.Leads → names.Nodup →
        (ReadsKey formats schema names params row ↔ KeyReadable schema names prow))) := by
  refine ⟨fun T v d key filled accepted => text_readable_iff key filled accepted, fun params => ?_,
    fun keys => ?_, fun schema names i prow row params converted gives => ⟨addressed_iff converted gives,
      fun primary leads distinct => readsKey_iff primary leads distinct converted gives⟩⟩
  · exact Program.always_bind trivial fun creds =>
      lookup_always sha256 formats debug state.backend db table (List.mem_singleton_self _) creds
  · exact Program.always_bind trivial fun creds =>
      lookupEach_always sha256 formats debug state db table creds keys fun _ member => member

/-! ## A key column of a small type -/

def levels : Schema := ⟨[⟨"level", .tinyInt⟩, ⟨"name", .string⟩], some ["level"]⟩

def levelRow : ProduceRow := ⟨[.number (.posInt 5), .string "low"], none⟩

def levelParams : LookupParams := ⟨[("level", "5")]⟩

theorem levelRow_converted :
    convertRow plainFormats levels.columns 0 levelRow = .ok ⟨[.int8 5, .string "low"]⟩ := rfl

theorem levelRow_given : GivesKey levels ["level"] levelRow levelParams := by
  intro name member
  obtain rfl := List.mem_singleton.mp member
  exact ⟨0, ⟨"level", .tinyInt⟩, .number (.posInt 5), rfl, rfl, rfl, rfl, nofun, rfl⟩

theorem written_addressed_iff_level :
    (∃ t, plainText (.number (.posInt 5)) = some t ∧
      (jsonToDatum (.string t) .bigInt = .ok (.int64 5) ↔ ¬Unreadable (.number (.posInt 5)) .bigInt)) ∧
    (Addressed plainFormats levels ["level"] levelParams ⟨[.int8 5, .string "low"]⟩ ↔
      KeyReadable levels ["level"] levelRow) ∧
    (ReadsKey plainFormats levels ["level"] levelParams ⟨[.int8 5, .string "low"]⟩ ↔
      KeyReadable levels ["level"] levelRow) := by
  obtain ⟨values, _, _, rows⟩ :=
    written_addressed_iff sampleSha256 plainFormats (fun _ _ => "") localState "app" "levels" none
  have row := rows levels ["level"] 0 levelRow _ levelParams levelRow_converted levelRow_given
  exact ⟨values .bigInt _ _ rfl nofun rfl, row.1, row.2 rfl (by decide) (by decide)⟩

/-- The level 5 is written, and a lookup of the text `5` is refused. -/
theorem written_not_addressed :
    jsonToDatum (.number (.posInt 5)) .tinyInt = .ok (.int8 5) ∧
    jsonToDatum (.string "5") .tinyInt = .error (.cannotConvert (.string "5") .tinyInt) ∧
    ¬Addressed plainFormats levels ["level"] levelParams ⟨[.int8 5, .string "low"]⟩ := by
  refine ⟨rfl, rfl, ?_⟩
  rintro ⟨found, made, _⟩
  have refused : lookupRow plainFormats levels levelParams ["level"] =
      .error (.err (.badRequest "cannot convert value to type")) := rfl
  rw [refused] at made
  cases made

end FlussGateway.Rest
