import FlussGateway.Codec.ArrowToJson

/-!
# What a cell's JSON depends on

The arms for the listed types read one cell. The remaining arm renders the whole array,
so under it the JSON of a cell also tells how many other rows there are and what they hold.
-/
namespace FlussGateway.Codec

open FlussGateway.Foundation

/-- The types that have an arm of their own in `arrow_value_to_json`. -/
def ArrowDataType.hasArm : ArrowDataType → Bool
  | .boolean | .int8 | .int16 | .int32 | .int64 | .float32 | .float64
  | .utf8 | .largeUtf8 | .binary | .largeBinary => true
  | .date32 | .time32 _ | .time64 _ | .timestamp _ _ | .decimal128 _ _ | .fixedSizeBinary _
  | .nested _ => false

theorem valueToJson_of_hasArm {T : ArrowDataType} (arm : T.hasArm = true) (f g : Value) (v : T.Native) :
    valueToJson f T v = valueToJson g T v := by
  cases T <;> first | rfl | cases arm

theorem valueToJson_fallback {T : ArrowDataType} (arm : T.hasArm = false) (f : Value) (v : T.Native) :
    valueToJson f T v = f := by
  cases T <;> first | rfl | cases arm

/-- Arrays that hold this cell at an index give equal JSON there, whatever else they hold. -/
def CellLocal (debug : Debug) (T : ArrowDataType) (cell : Option T.Native) : Prop :=
  ∀ (a b : ArrowArray T) (i : Nat) (ha : i < a.cells.length) (hb : i < b.cells.length),
    a.cells[i] = cell → b.cells[i] = cell →
      arrowValueToJson debug a ⟨i, ha⟩ = arrowValueToJson debug b ⟨i, hb⟩

/-- Batches that hold this row at an index give equal objects there, whatever their other rows. -/
def RowLocal (debug : Debug) (fields : List (String × ArrowDataType))
    (row : (j : Fin fields.length) → Option (fields.get j).2.Native) : Prop :=
  ∀ (a b : RecordBatch fields) (i : Nat),
    (∀ j, (a.column j).cells[i]? = some (row j)) → (∀ j, (b.column j).cells[i]? = some (row j)) →
    i < a.numRows → i < b.numRows → (recordBatchToJson debug a)[i]? = (recordBatchToJson debug b)[i]?

theorem cellLocal_of_hasArm (debug : Debug) {T : ArrowDataType} {cell : Option T.Native}
    (arm : T.hasArm = true ∨ cell = none) : CellLocal debug T cell := by
  intro a b i ha hb atA atB
  simp only [arrowValueToJson, List.get_eq_getElem, atA, atB]
  cases cell with
  | none => rfl
  | some v =>
    rcases arm with arm | absent
    · exact valueToJson_of_hasArm arm _ _ v
    · cases absent

theorem recordBatchToJson_get (debug : Debug) {fields : List (String × ArrowDataType)}
    (batch : RecordBatch fields) (i : Nat) (small : i < batch.numRows) :
    (recordBatchToJson debug batch)[i]? = some (rowToJson debug batch ⟨i, small⟩) := by
  simp [recordBatchToJson, small]

/-- The entry of the column is in the object: no later column has its name. -/
def Shown (fields : List (String × ArrowDataType)) (j : Fin fields.length) : Prop :=
  ∀ k, j < k → (fields.get k).1 ≠ (fields.get j).1

/-- The objects of two rows are equal exactly when their shown entries are. -/
theorem rowToJson_eq_iff (debug : Debug) {fields : List (String × ArrowDataType)} (a b : RecordBatch fields)
    (i : Fin a.numRows) (i' : Fin b.numRows) :
    rowToJson debug a i = rowToJson debug b i' ↔
      ∀ j, Shown fields j → a.json debug i j = b.json debug i' j := by
  rw [rowToJson, rowToJson, Value.object.injEq, SortedMap.insertAll_eq_iff]
  have sorted := List.pairwise_lt_finRange fields.length
  constructor
  · intro same j shown
    obtain ⟨front, back, split⟩ := List.append_of_mem (List.mem_finRange j)
    rw [split, List.pairwise_append, List.pairwise_cons] at sorted
    exact same front j back split fun k member => shown k (sorted.2.1.1 k member)
  · intro same front j back split last
    refine same j fun k later => ?_
    -- What comes after `j` in the loop is what is greater.
    have member := List.mem_finRange k
    rw [split, List.mem_append, List.mem_cons] at member
    rw [split, List.pairwise_append] at sorted
    rcases member with before | rfl | after
    · exact absurd (sorted.2.2 k before j (List.mem_cons_self ..)) (not_lt.mpr later.le)
    · exact absurd later (lt_irrefl k)
    · exact last k after

theorem rowLocal_of_hasArm (debug : Debug) {fields : List (String × ArrowDataType)}
    {row : (j : Fin fields.length) → Option (fields.get j).2.Native}
    (arms : ∀ j, Shown fields j → (fields.get j).2.hasArm = true ∨ row j = none) : RowLocal debug fields row := by
  intro a b i atA atB smallA smallB
  rw [recordBatchToJson_get debug a i smallA, recordBatchToJson_get debug b i smallB, Option.some.injEq,
    rowToJson_eq_iff]
  intro j shown
  obtain ⟨ia, cellA⟩ := List.getElem?_eq_some_iff.mp (atA j)
  obtain ⟨ib, cellB⟩ := List.getElem?_eq_some_iff.mp (atB j)
  exact cellLocal_of_hasArm debug (arms j shown) _ _ i ia ib cellA cellB

/-! ## Copies of one row -/

def copies {T : ArrowDataType} (cell : Option T.Native) (n : Nat) : ArrowArray T :=
  ⟨List.replicate n cell⟩

theorem copies_json (debug : Debug) {T : ArrowDataType} (arm : T.hasArm = false) (v : T.Native) (n : Nat)
    (i : Fin (copies (some v) n).cells.length) :
    arrowValueToJson debug (copies (some v) n) i = .string (debug T (copies (some v) n)) := by
  have cell : (copies (some v) n).cells.get i = some v := List.getElem_replicate ..
  simp only [arrowValueToJson, cell, valueToJson_fallback arm]

section Rows

variable {fields : List (String × ArrowDataType)} (row : (j : Fin fields.length) → Option (fields.get j).2.Native)

def rowCopies (n : Nat) : RecordBatch fields where
  numRows := n
  column j := copies (row j) n
  rows _ := List.length_replicate

theorem rowCopies_get (n i : Nat) (small : i < n) (j : Fin fields.length) :
    ((rowCopies row n).column j).cells[i]? = some (row j) := by
  simp [rowCopies, copies, small]

theorem rowCopies_json (debug : Debug) {j : Fin fields.length} (arm : (fields.get j).2.hasArm = false)
    {v : (fields.get j).2.Native} (filled : row j = some v) (n : Nat) (i : Fin (rowCopies row n).numRows) :
    (rowCopies row n).json debug i j = .string (debug _ (copies (some v) n)) := by
  have column : (rowCopies row n).column j = copies (some v) n := congrArg (copies · n) filled
  have json : ∀ (array : ArrowArray (fields.get j).2) (k : Fin array.cells.length),
      array = copies (some v) n → arrowValueToJson debug array k = .string (debug _ (copies (some v) n)) := by
    rintro _ k rfl
    exact copies_json debug arm v n k
  exact json _ _ column

end Rows

section Rendering

/- Up to twenty cells Arrow prints one line for each, so that the text tells their number. -/
variable (debug : Debug)
  (lengths : ∀ T (a b : ArrowArray T), a.cells.length ≤ 20 → b.cells.length ≤ 20 →
    a.cells.length ≠ b.cells.length → debug T a ≠ debug T b)

include lengths in
theorem copies_differ {T : ArrowDataType} (cell : Option T.Native) :
    debug T (copies cell 1) ≠ debug T (copies cell 2) := by
  apply lengths <;> simp [copies]

include lengths in
/-- A type without an arm shows the length of the array in every cell that is not null. -/
theorem hasArm_of_cellLocal {T : ArrowDataType} {cell : Option T.Native}
    (isLocal : CellLocal debug T cell) : T.hasArm = true ∨ cell = none := by
  by_contra neither
  obtain ⟨arm, filled⟩ := not_or.mp neither
  have arm : T.hasArm = false := by simpa using arm
  obtain ⟨v, rfl⟩ := Option.ne_none_iff_exists'.mp filled
  -- One copy of the cell and two copies agree at index 0, and are rendered differently.
  have equal := isLocal (copies (some v) 1) (copies (some v) 2) 0 (by simp [copies]) (by simp [copies]) rfl rfl
  rw [copies_json debug arm, copies_json debug arm, Value.string.injEq] at equal
  exact copies_differ debug lengths _ equal

include lengths in
theorem hasArm_of_rowLocal {fields : List (String × ArrowDataType)}
    {row : (j : Fin fields.length) → Option (fields.get j).2.Native} (isLocal : RowLocal debug fields row)
    {j : Fin fields.length} (shown : Shown fields j) : (fields.get j).2.hasArm = true ∨ row j = none := by
  by_contra neither
  obtain ⟨arm, filled⟩ := not_or.mp neither
  have arm : (fields.get j).2.hasArm = false := by simpa using arm
  obtain ⟨v, filled⟩ := Option.ne_none_iff_exists'.mp filled
  -- The same with one and two copies of the row, seen through the entry of column `j`.
  have equal := isLocal (rowCopies row 1) (rowCopies row 2) 0 (rowCopies_get row 1 0 (by decide))
    (rowCopies_get row 2 0 (by decide)) Nat.one_pos Nat.two_pos
  rw [recordBatchToJson_get debug _ 0 Nat.one_pos, recordBatchToJson_get debug _ 0 Nat.two_pos,
    Option.some.injEq, rowToJson_eq_iff] at equal
  have values := equal j shown
  rw [rowCopies_json row debug arm filled, rowCopies_json row debug arm filled, Value.string.injEq] at values
  exact copies_differ debug lengths _ values

include lengths in
/-- The JSON of a cell depends on the cell alone exactly when the cell is null or of a type that has
an arm of its own; the object of a row depends on the row alone exactly when every cell that
has an entry in it is such a cell. -/
theorem json_local_iff :
    (∀ T cell, CellLocal debug T cell ↔ T.hasArm = true ∨ cell = none) ∧
    (∀ fields row, RowLocal debug fields row ↔
      ∀ j, Shown fields j → (fields.get j).2.hasArm = true ∨ row j = none) :=
  ⟨fun _ _ => ⟨hasArm_of_cellLocal debug lengths, cellLocal_of_hasArm debug⟩,
   fun _ _ => ⟨fun isLocal _ shown => hasArm_of_rowLocal debug lengths isLocal shown, rowLocal_of_hasArm debug⟩⟩

end Rendering

/-! ## A rendering -/

def withoutBreaks (text : String) : List Char := text.toList.filter (· ≠ '\n')

/-- One line of Arrow's layout. -/
def printCell {α : Type} (item : α → String) : Option α → List Char
  | none => "  null,\n".toList
  | some v => "  ".toList ++ withoutBreaks (item v) ++ ",\n".toList

/-- The lines of an array; of more than twenty only the first and the last ten. -/
def printLong (lines : List (List Char)) : List Char :=
  if lines.length ≤ 20 then lines.flatten
  else (lines.take 10).flatten ++ ("  ..." ++ toString (lines.length - 20) ++ " elements...,\n").toList ++
    (lines.drop (lines.length - 10)).flatten

/-- Arrow's layout of an array: a header, then its lines between brackets. -/
def printArray (header : ArrowDataType → String) (item : (T : ArrowDataType) → T.Native → String) : Debug :=
  fun T array => String.ofList
    (withoutBreaks (header T) ++ "\n[\n".toList ++
      printLong (array.cells.map (printCell (item T))) ++ "]".toList)

theorem count_withoutBreaks (text : String) : (withoutBreaks text).count '\n' = 0 :=
  List.count_eq_zero_of_not_mem fun member => by simp [withoutBreaks] at member

theorem printCell_lines {α : Type} (item : α → String) (cell : Option α) :
    (printCell item cell).count '\n' = 1 := by
  cases cell with
  | none =>
    have line : "  null,\n".toList.count '\n' = 1 := by decide
    exact line
  | some v =>
    have indent : "  ".toList.count '\n' = 0 := by decide
    have ending : ",\n".toList.count '\n' = 1 := by decide
    have shape : printCell item (some v) = "  ".toList ++ withoutBreaks (item v) ++ ",\n".toList := rfl
    rw [shape, List.count_append, List.count_append, indent, count_withoutBreaks, ending]

theorem printArray_lines (header : ArrowDataType → String)
    (item : (T : ArrowDataType) → T.Native → String) (T : ArrowDataType) (array : ArrowArray T)
    (short : array.cells.length ≤ 20) :
    (printArray header item T array).toList.count '\n' = array.cells.length + 2 := by
  have body : (printLong (array.cells.map (printCell (item T)))).count '\n' = array.cells.length := by
    rw [printLong, if_pos (by simpa using short), List.count_flatten, List.map_map]
    simp [Function.comp_def, printCell_lines]
  have opening : "\n[\n".toList.count '\n' = 2 := by decide
  have closing : "]".toList.count '\n' = 0 := by decide
  simp only [printArray, String.toList_ofList, List.count_append, count_withoutBreaks, body, opening, closing]
  omega

theorem printArray_lengths (header : ArrowDataType → String)
    (item : (T : ArrowDataType) → T.Native → String) (T : ArrowDataType) (a b : ArrowArray T)
    (shortA : a.cells.length ≤ 20) (shortB : b.cells.length ≤ 20)
    (differ : a.cells.length ≠ b.cells.length) :
    printArray header item T a ≠ printArray header item T b := by
  intro equal
  have counts := congrArg (fun text => text.toList.count '\n') equal
  simp only [printArray_lines header item T _ shortA, printArray_lines header item T _ shortB] at counts
  omega

/-- `FixedSizeBinaryArray` as Arrow prints it. -/
def fixedSizeBinaryDebug : Debug :=
  printArray
    (fun T => match T with
      | .fixedSizeBinary n => "FixedSizeBinaryArray<" ++ toString n ++ ">"
      | _ => "Array")
    (fun T => match T with
      | .fixedSizeBinary _ => fun v => "[" ++ ", ".intercalate (v.1.map toString) ++ "]"
      | _ => fun _ => "value")

theorem json_local_iff_fixedSizeBinary :
    ¬CellLocal fixedSizeBinaryDebug (.fixedSizeBinary 2) (some ⟨[1, 2], rfl⟩) ∧
    ¬RowLocal fixedSizeBinaryDebug [("mac", .fixedSizeBinary 2)]
      (fun | ⟨0, _⟩ => some (⟨[1, 2], rfl⟩ : { bytes : List UInt8 // bytes.length = 2 })) := by
  obtain ⟨cells, rows⟩ := json_local_iff fixedSizeBinaryDebug (printArray_lengths _ _)
  constructor
  · rw [cells]
    simp [ArrowDataType.hasArm]
  · rw [rows]
    intro arms
    have first := arms ⟨0, by decide⟩ fun k later => absurd later (by simp)
    simp [ArrowDataType.hasArm] at first

/-- The cell of the first row shows the second row's bytes. -/
theorem json_not_local :
    arrowValueToJson fixedSizeBinaryDebug (T := .fixedSizeBinary 2) ⟨[some ⟨[1, 2], rfl⟩]⟩ ⟨0, by decide⟩ =
      .string "FixedSizeBinaryArray<2>\n[\n  [1, 2],\n]" ∧
    arrowValueToJson fixedSizeBinaryDebug (T := .fixedSizeBinary 2)
        ⟨[some ⟨[1, 2], rfl⟩, some ⟨[3, 4], rfl⟩]⟩ ⟨0, by decide⟩ =
      .string "FixedSizeBinaryArray<2>\n[\n  [1, 2],\n  [3, 4],\n]" ∧
    ¬∀ T cell, CellLocal fixedSizeBinaryDebug T cell := by
  refine ⟨?_, ?_, ?_⟩
  · exact congrArg Value.string (by decide)
  · exact congrArg Value.string (by decide)
  · intro everywhere
    have equal := everywhere (.fixedSizeBinary 2) (some ⟨[1, 2], rfl⟩) ⟨[some ⟨[1, 2], rfl⟩]⟩
      ⟨[some ⟨[1, 2], rfl⟩, some ⟨[3, 4], rfl⟩]⟩ 0 (by decide) (by decide) rfl rfl
    have texts : fixedSizeBinaryDebug (.fixedSizeBinary 2) ⟨[some ⟨[1, 2], rfl⟩]⟩ =
        fixedSizeBinaryDebug (.fixedSizeBinary 2) ⟨[some ⟨[1, 2], rfl⟩, some ⟨[3, 4], rfl⟩]⟩ := by
      simpa [arrowValueToJson, valueToJson] using equal
    exact printArray_lengths _ _ _ _ _ (by decide) (by decide) (by decide) texts

end FlussGateway.Codec
