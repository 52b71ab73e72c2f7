import FlussGateway.Rest.Produce

/-!
# Integer cells

An integer cell holds the integer the client sent unless the client sent a JSON number that
the cast to the column's width cuts. Text is never cut: it is range-checked or refused.
-/
namespace FlussGateway.Rest

open FlussGateway.Foundation FlussGateway.Backend FlussGateway.Codec

def InRange (bits : Nat) (z : Int) : Prop := minOf bits ≤ z ∧ z ≤ maxOf bits

/-- A JSON number that is a 64-bit integer outside the range of the given width. -/
def Cut (v : Value) (bits : Nat) : Prop :=
  ∃ n z, v = .number n ∧ v.integer = some z ∧ InRange 64 z ∧ ¬InRange bits z

/-- Whatever integer the conversion stores is the one the value denotes. -/
def StoresExactly (v : Value) (T : DataType) : Prop :=
  ∀ d z, jsonToDatum v T = .ok d → d.integer = some z → v.integer = some z

/-- Every integer outside the range of the width is refused. -/
def RefusesOutside (v : Value) (T : DataType) (bits : Nat) : Prop :=
  ∀ z, v.integer = some z → ¬InRange bits z → ∃ e, jsonToDatum v T = .error e

/-- Every integer cell of the rows holds the integer at its place in the request. -/
def RowsExact (columns : List Column) (prows : List ProduceRow) (rows : List GenericRow) : Prop :=
  ∀ (i j : Nat) prow row column v d z, prows[i]? = some prow → rows[i]? = some row →
    columns[j]? = some column → column.dataType.intBits.isSome → prow.values[j]? = some v →
    row.fields[j]? = some d → d.integer = some z → v.integer = some z

/-- No value at an integer column of the request is cut. -/
def NoneCut (columns : List Column) (prows : List ProduceRow) : Prop :=
  ∀ (i j : Nat) prow column v bits, prows[i]? = some prow → columns[j]? = some column →
    column.dataType.intBits = some bits → prow.values[j]? = some v → ¬Cut v bits

/-! ## Casts -/

theorem bmod_eq_self_iff {bits : Nat} (positive : 0 < bits) (z : Int) :
    z.bmod (2 ^ bits) = z ↔ InRange bits z := by
  obtain ⟨k, rfl⟩ : ∃ k, bits = k + 1 := ⟨bits - 1, by omega⟩
  have double : ((2 ^ (k + 1) : Nat) : Int) = 2 * 2 ^ k := by push_cast; ring
  rw [Int.bmod_eq_iff (by positivity), double, InRange, minOf, maxOf, Nat.add_sub_cancel]
  simp only [sub_self, dvd_zero, and_true]
  omega

theorem intBits_pos {T : DataType} {bits : Nat} (width : T.intBits = some bits) : 0 < bits := by
  cases T <;> cases width <;> decide

/-- What conversion does with a value at an integer column. -/
inductive AtIntColumn (v : Value) (T : DataType) (bits : Nat) : Prop where
  | refused (e : ConvertError) (returned : jsonToDatum v T = .error e) (whole : ¬Cut v bits)
  | null (returned : jsonToDatum v T = .ok .null) (absent : v = .null)
  | stored (d : Datum) (z : Int) (returned : jsonToDatum v T = .ok d) (cell : d.integer = some z)
      (sent : v.integer = some z) (inside : InRange bits z)
  | cut (d : Datum) (z : Int) (returned : jsonToDatum v T = .ok d)
      (cell : d.integer = some (z.bmod (2 ^ bits))) (sent : v.integer = some z) (cut : Cut v bits)
      (outside : ¬InRange bits z)

theorem not_cut_of_inside {v : Value} {bits : Nat} {z : Int} (sent : v.integer = some z)
    (inside : InRange bits z) : ¬Cut v bits := by
  rintro ⟨n, z', _, sent', _, outside⟩
  rw [sent, Option.some.injEq] at sent'
  exact outside (sent' ▸ inside)

theorem not_cut_of_other {v : Value} {bits : Nat} (other : ∀ n, v ≠ .number n) : ¬Cut v bits := by
  rintro ⟨n, _, number, _⟩
  exact other n number

theorem atIntColumn (v : Value) {T : DataType} {bits : Nat} (width : T.intBits = some bits) :
    AtIntColumn v T bits := by
  cases v with
  | null => exact .null rfl rfl
  | number n =>
    rcases number_at_int_column n T bits width with ⟨unread, e, returned⟩ | ⟨i, d, read, returned, cell⟩
    · refine .refused e returned ?_
      -- What `as_i64` rejects lies beyond 64 bits, and so is not cut but refused.
      rintro ⟨_, z, _, sent, ⟨_, upper⟩, _⟩
      have large := large_of_asI64_none unread sent
      simp only [maxOf] at upper
      omega
    · have sent := integer_of_asI64 read
      -- The cast changes the integer exactly when it lies outside the width.
      by_cases inside : InRange bits i.toInt
      · rw [(bmod_eq_self_iff (intBits_pos width) _).mpr inside] at cell
        exact .stored d i.toInt returned cell sent inside
      · exact .cut d i.toInt returned cell sent ⟨n, i.toInt, rfl, sent, int64_range i, inside⟩ inside
  | string s =>
    cases returned : jsonToDatum (.string s) T with
    | error e => exact .refused e returned (not_cut_of_other (by simp))
    | ok d =>
      obtain ⟨z, cell, reads, lower, upper⟩ := string_at_int_column s T bits width d returned
      exact .stored d z returned cell reads ⟨lower, upper⟩
  | bool b => cases T <;> cases width <;> exact .refused _ rfl (not_cut_of_other (by simp))
  | array items => cases T <;> cases width <;> exact .refused _ rfl (not_cut_of_other (by simp))
  | object entries => cases T <;> cases width <;> exact .refused _ rfl (not_cut_of_other (by simp))

theorem storesExactly_of_ok {v : Value} {T : DataType} {d : Datum} (returned : jsonToDatum v T = .ok d) :
    StoresExactly v T ↔ ∀ z, d.integer = some z → v.integer = some z := by
  constructor
  · intro whole z cell
    exact whole d z returned cell
  · intro whole d' z returned' cell
    rw [returned, Except.ok.injEq] at returned'
    subst d'
    exact whole z cell

theorem storesExactly_iff (v : Value) {T : DataType} {bits : Nat} (width : T.intBits = some bits) :
    StoresExactly v T ↔ ¬Cut v bits := by
  cases atIntColumn v width with
  | refused e returned whole => simp [StoresExactly, returned, whole]
  | null returned absent =>
    subst absent
    rw [storesExactly_of_ok returned]
    simp [Cut, Datum.integer]
  | stored d z returned cell sent inside =>
    rw [storesExactly_of_ok returned, cell, sent]
    simp [not_cut_of_inside sent inside]
  | cut d z returned cell sent cut outside =>
    rw [storesExactly_of_ok returned, cell, sent]
    have changed : z ≠ z.bmod (2 ^ bits) := fun same =>
      outside ((bmod_eq_self_iff (intBits_pos width) z).mp same.symm)
    simp [cut, changed]

theorem refusesOutside_iff (v : Value) {T : DataType} {bits : Nat} (width : T.intBits = some bits) :
    RefusesOutside v T bits ↔ ¬Cut v bits := by
  cases atIntColumn v width with
  | refused e returned whole => simp [RefusesOutside, returned, whole]
  | null returned absent =>
    subst absent
    simp [RefusesOutside, Cut, Value.integer]
  | stored d z returned cell sent inside =>
    simp [RefusesOutside, sent, inside, not_cut_of_inside sent inside]
  | cut d z returned cell sent cut outside => simp [RefusesOutside, returned, sent, cut, outside]

/-! ## Rows -/

theorem row_of_rows {formats : Formats} {columns : List Column} {prows : List ProduceRow}
    {rows : List GenericRow} (converted : convertRows formats columns 0 prows = .ok rows) {i : Nat}
    {prow : ProduceRow} (sent : prows[i]? = some prow) :
    ∃ row k, rows[i]? = some row ∧ convertRow formats columns k prow = .ok row := by
  obtain ⟨lengths, each⟩ := List.forall₂_iff_get.mp (convertRows_ok converted)
  obtain ⟨small, rfl⟩ := List.getElem?_eq_some_iff.mp sent
  obtain ⟨k, returned⟩ := each i small (lengths ▸ small)
  exact ⟨_, k, List.getElem?_eq_getElem (lengths ▸ small), returned⟩

/-- The cell at a place of the request is what conversion makes of the value there. -/
theorem cell_of_rows {formats : Formats} {columns : List Column} {prows : List ProduceRow}
    {rows : List GenericRow} (converted : convertRows formats columns 0 prows = .ok rows) {i j : Nat}
    {prow : ProduceRow} {column : Column} {v : Value} (sent : prows[i]? = some prow)
    (here : columns[j]? = some column) (value : prow.values[j]? = some v) :
    ∃ row d, rows[i]? = some row ∧ jsonToDatum v column.dataType = .ok d ∧ row.fields[j]? = some d := by
  obtain ⟨row, k, handed, returned⟩ := row_of_rows converted sent
  obtain ⟨d, stored, field⟩ := ((convertRow_ok returned).2 j column here).2 v value
  exact ⟨row, d, handed, stored, field⟩

theorem rowsExact_iff {formats : Formats} {columns : List Column} {prows : List ProduceRow}
    {rows : List GenericRow} (converted : convertRows formats columns 0 prows = .ok rows) :
    RowsExact columns prows rows ↔ NoneCut columns prows := by
  constructor
  · intro whole i j prow column v bits sent here width value
    obtain ⟨row, d, handed, stored, field⟩ := cell_of_rows converted sent here value
    rw [← storesExactly_iff v width, storesExactly_of_ok stored]
    exact fun z cell => whole i j prow row column v d z sent handed here (by simp [width]) value field cell
  · intro none i j prow row column v d z sent handed here width value field cell
    obtain ⟨bits, width⟩ := Option.isSome_iff_exists.mp width
    obtain ⟨row', d', handed', stored, field'⟩ := cell_of_rows converted sent here value
    rw [handed, Option.some.injEq] at handed'
    subst row'
    rw [field, Option.some.injEq] at field'
    subst d'
    exact (storesExactly_iff v width).mpr (none i j prow column v bits sent here width value) d z stored cell

/-- Integers on write. A value at an integer column is stored exactly, and out of range is refused,
exactly when it is not a 64-bit JSON number that the width cuts; so every integer cell that a
request hands on is the integer sent exactly when the request has no such value. -/
theorem integers_exact_iff (formats : Formats) :
    (∀ v T bits, T.intBits = some bits →
      (StoresExactly v T ↔ ¬Cut v bits) ∧ (RefusesOutside v T bits ↔ ¬Cut v bits)) ∧
    (∀ columns prows rows, convertRows formats columns 0 prows = .ok rows →
      (RowsExact columns prows rows ↔ NoneCut columns prows)) :=
  ⟨fun v _ _ width => ⟨storesExactly_iff v width, refusesOutside_iff v width⟩,
   fun _ _ _ converted => rowsExact_iff converted⟩

/-! ## A row that is cut -/

def plainFormats : Formats := ⟨fun _ => "number", fun _ => "value", fun _ => "type"⟩

def smallColumn : List Column := [⟨"age", .tinyInt⟩]

/-- The one value of the row is the number 300. -/
def overfullRow : ProduceRow := ⟨[.number (.posInt 300)], none⟩

theorem overfullRow_converted :
    convertRows plainFormats smallColumn 0 [overfullRow] = .ok [⟨[.int8 44]⟩] := rfl

theorem integers_exact_iff_overfull :
    (StoresExactly (.number (.posInt 300)) .tinyInt ↔ ¬Cut (.number (.posInt 300)) 8) ∧
    (RowsExact smallColumn [overfullRow] [⟨[.int8 44]⟩] ↔ NoneCut smallColumn [overfullRow]) :=
  ⟨((integers_exact_iff plainFormats).1 _ .tinyInt 8 rfl).1,
   (integers_exact_iff plainFormats).2 _ _ _ overfullRow_converted⟩

/-- The number 300 is accepted for a `TINYINT` column and stored as 44. -/
theorem integers_not_exact :
    jsonToDatum (.number (.posInt 300)) .tinyInt = .ok (.int8 44) ∧
    convertRows plainFormats smallColumn 0 [overfullRow] = .ok [⟨[.int8 44]⟩] ∧
    ¬∀ v T bits, T.intBits = some bits → StoresExactly v T := by
  refine ⟨rfl, rfl, fun always => ?_⟩
  have sent := always (.number (.posInt 300)) .tinyInt 8 rfl (.int8 44) 44 rfl rfl
  cases sent

end FlussGateway.Rest
