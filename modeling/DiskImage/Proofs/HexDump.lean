import DiskImage.Except
import DiskImage.HexDump
import DiskImage.Proofs.Bytes
import DiskImage.Proofs.Text.Numeral
import Mathlib.Data.List.Basic

/-! What a listing says. It has one line for every sixteen bytes or fewer, each under its address, and it
can be read back, whatever the characters at the end of its lines look like. -/
namespace DiskImage.HexDump

open Text (LowerHex)

def chunk (bytes : List UInt8) (i : Nat) : List UInt8 := (bytes.drop (i * lineWidth)).take lineWidth

def lineCount (size : Nat) : Nat := (size + (lineWidth - 1)) / lineWidth

def row (address : Nat) (bytes : List UInt8) : List Char :=
  Text.hexPadded 8 address ++ ':' :: bytes.flatMap (fun b => ' ' :: Text.hexByte b)
    ++ ' ' :: ' ' :: bytes.map glyph

theorem line_eq (address : Nat) (bytes : List UInt8) :
    line address bytes = row address bytes ++ ['\n'] := rfl

theorem chunk_zero (b : UInt8) (bytes : List UInt8) :
    chunk (b :: bytes) 0 = b :: bytes.take (lineWidth - 1) := rfl

theorem chunk_succ (b : UInt8) (bytes : List UInt8) (i : Nat) :
    chunk (b :: bytes) (i + 1) = chunk (bytes.drop (lineWidth - 1)) i := by
  have start : (i + 1) * lineWidth = lineWidth - 1 + i * lineWidth + 1 := by
    simp only [lineWidth]
    omega
  rw [chunk, chunk, start, List.drop_succ_cons, List.drop_drop]

theorem lineCount_succ (bytes : List UInt8) :
    lineCount (bytes.length + 1) = lineCount (bytes.drop (lineWidth - 1)).length + 1 := by
  rw [List.length_drop]
  simp only [lineCount, lineWidth]
  omega

theorem lines_eq_ok {base i : Nat} {bytes : List UInt8} {listed : List (List Char)} :
    lines base i bytes = .ok listed ↔
      (∀ k < lineCount bytes.length, base + (i + k) * lineWidth < Word.limit) ∧
      listed = (List.range (lineCount bytes.length)).map fun k =>
        line (base + (i + k) * lineWidth) (chunk bytes k) := by
  fun_induction lines base i bytes generalizing listed with
  | case1 => simp [lineCount, lineWidth, eq_comm]
  | case2 i b bytes ih =>
    simp only [Nat.add_assoc i 1, Nat.add_comm 1] at ih
    rw [List.length_cons, lineCount_succ, Nat.forall_lt_succ_left, List.range_succ_eq_map]
    simp only [List.map_cons, List.map_map, Function.comp_def, Nat.succ_eq_add_one, chunk_zero,
      chunk_succ, Nat.add_zero]
    by_cases fits : base + i * lineWidth < Word.limit
    · rw [Word.add_of_lt fits, ok_bind, bind_eq_ok]
      constructor
      · rintro ⟨rest, found, made⟩
        obtain ⟨words, rfl⟩ := ih.mp found
        exact ⟨⟨fits, words⟩, (Except.ok.inj made).symm⟩
      · rintro ⟨⟨-, words⟩, rfl⟩
        exact ⟨_, ih.mpr ⟨words, rfl⟩, rfl⟩
    · rw [Word.add_of_ge (Nat.le_of_not_lt fits)]
      constructor
      · intro found
        cases found
      · rintro ⟨⟨first, -⟩, -⟩
        exact absurd first fits

def rows (base : Nat) (bytes : List UInt8) : List (List Char) :=
  (List.range (lineCount bytes.length)).map fun i => row (base + i * lineWidth) (chunk bytes i)

theorem dump_eq_ok {base : Nat} {bytes : Bytes} {text : String} : dump base bytes = .ok text ↔
    (∀ i < lineCount bytes.size, base + i * lineWidth < Word.limit) ∧
      text = String.ofList ((rows base bytes.toList).flatMap (· ++ ['\n'])) := by
  have joined : ((List.range (lineCount bytes.size)).map fun i =>
      line (base + i * lineWidth) (chunk bytes.toList i)).flatten =
        (rows base bytes.toList).flatMap (· ++ ['\n']) := by
    simp only [rows, line_eq, List.flatMap_def, List.map_map, Function.comp_def,
      Bytes.length_toList]
  rw [dump, map_eq_ok]
  simp only [lines_eq_ok, Bytes.length_toList, Nat.zero_add, eq_comm (a := text), ← joined]
  constructor
  · rintro ⟨listed, ⟨words, rfl⟩, made⟩
    exact ⟨words, made⟩
  · rintro ⟨words, made⟩
    exact ⟨_, ⟨words, rfl⟩, made⟩

theorem exists_dump {base : Nat} {bytes : Bytes} (room : base + bytes.size ≤ Word.limit) :
    ∃ text, dump base bytes = .ok text := by
  refine ⟨_, dump_eq_ok.mpr ⟨fun i inside => ?_, rfl⟩⟩
  simp only [lineCount, lineWidth] at inside ⊢
  omega

/-- A line under an address: two lower-case digits for each byte, and behind two blanks any picture of
them. -/
inductive Row (address : Nat) (bytes : List UInt8) : List Char → Prop
  | of {column picture : List Char} {group : UInt8 → List Char} (start : LowerHex 8 address column)
    (spelled : ∀ b, LowerHex 2 b.toNat (group b)) (pair : ∀ b, (group b).length = 2) :
    Row address bytes
      (column ++ ':' :: (bytes.flatMap (' ' :: group ·) ++ ' ' :: ' ' :: picture))

theorem row_row (address : Nat) (bytes : List UInt8) : Row address bytes (row address bytes) := by
  have parts : row address bytes = Text.hexPadded 8 address ++ ':' ::
      (bytes.flatMap (' ' :: Text.hexByte ·) ++ ' ' :: ' ' :: bytes.map glyph) := by
    simp [row]
  rw [parts]
  exact .of (Text.lowerHex_hexPadded 8 address (by decide)) Text.lowerHex_hexByte fun _ => rfl

theorem glyph_ne_newline (b : UInt8) : glyph b ≠ '\n' := by
  unfold glyph
  split
  · next visible =>
    intro same
    have low : 0x20 ≤ b.toNat := visible.1
    have high : b.toNat ≤ 0x7e := visible.2
    have code : (Char.ofNat b.toNat).toNat = 10 := congrArg Char.toNat same
    rw [Char.ofNat, dif_pos (.inl (by omega))] at code
    change b.toNat = 10 at code
    omega
  · decide

theorem newline_not_mem_row (address : Nat) (bytes : List UInt8) : '\n' ∉ row address bytes := by
  have column := (Text.lowerHex_hexPadded 8 address (by decide)).numeral.not_mem (by decide)
    (rfl : Text.digitOf 16 '\n' = none)
  have groups (b : UInt8) := (Text.lowerHex_hexByte b).numeral.not_mem (by decide)
    (rfl : Text.digitOf 16 '\n' = none)
  have picture (b : UInt8) := glyph_ne_newline b
  simp [row, column, groups, picture]

def readGroups : List Char → List UInt8
  | ' ' :: high :: low :: rest =>
    match Text.readUnsigned 16 255 [high, low] with
    | .ok n => .ofNat n :: readGroups rest
    | .error _ => []
  | _ => []

def readRow (text : List Char) : Option (Nat × List UInt8) :=
  match Text.readUnsigned 16 (Word.limit - 1) (text.takeWhile (· ≠ ':')) with
  | .ok address => some (address, readGroups ((text.dropWhile (· ≠ ':')).drop 1))
  | .error _ => none

/-- The bytes of a listing, and its first address if it has a line. -/
def readBack (text : String) : Option Nat × Bytes :=
  let entries := (text.toList.splitOn '\n').filterMap readRow
  (entries.head?.map Prod.fst, (entries.flatMap Prod.snd).toByteArray)

theorem readGroups_append {group : UInt8 → List Char}
    (spelled : ∀ b, LowerHex 2 b.toNat (group b)) (pair : ∀ b, (group b).length = 2)
    (bytes : List UInt8) (picture : List Char) :
    readGroups (bytes.flatMap (' ' :: group ·) ++ ' ' :: ' ' :: picture) = bytes := by
  induction bytes with
  | nil =>
    cases picture with
    | nil => rfl
    | cons c picture =>
      -- the second blank is no digit, whatever comes behind it
      have blank : ∀ n, Text.readUnsigned 16 255 [' ', c] ≠ .ok n := by
        intro n found
        obtain ⟨unsigned, -⟩ := (Text.readUnsigned_eq_ok (by decide)).mp found
        have numeral := (Text.unsigned_of_ne (by simp)).mp unsigned
        exact numeral.not_mem (by decide) rfl List.mem_cons_self
      simp only [List.flatMap_nil, List.nil_append, readGroups]
      split
      · next n found => exact absurd found (blank n)
      · rfl
  | cons b bytes ih =>
    obtain ⟨high, low, digits⟩ := List.length_eq_two.mp (pair b)
    have unsigned := Text.Unsigned.plain (spelled b).numeral
    have found := (Text.readUnsigned_eq_ok (by decide)).mpr
      ⟨unsigned, Nat.le_of_lt_succ b.toNat_lt⟩
    rw [digits] at found
    simp only [List.flatMap_cons, digits, List.cons_append, List.nil_append, readGroups, found, ih,
      UInt8.ofNat_toNat]

theorem readRow_of_row {address : Nat} {bytes : List UInt8} {text : List Char}
    (shown : Row address bytes text) (word : address < Word.limit) :
    readRow text = some (address, bytes) := by
  cases shown with
  | @of column picture group start spelled pair =>
    have clear : ∀ c ∈ column, decide (c ≠ ':') = true := by
      intro c member
      have absent := start.numeral.not_mem (by decide) (rfl : Text.digitOf 16 ':' = none)
      simpa using fun same : c = ':' => absent (same ▸ member)
    have found := (Text.readUnsigned_eq_ok (by decide)).mpr
      ⟨.plain start.numeral, Nat.le_sub_one_of_lt word⟩
    simp only [readRow, List.takeWhile_append_of_pos clear, List.dropWhile_append_of_pos clear]
    simp [found, readGroups_append spelled pair]

theorem splitOn_lines {lines : List (List Char)} (closed : ∀ line ∈ lines, '\n' ∉ line) :
    (lines.flatMap (· ++ ['\n'])).splitOn '\n' = lines ++ [[]] := by
  induction lines with
  | nil => rfl
  | cons line lines ih =>
    obtain ⟨first, others⟩ := List.forall_mem_cons.mp closed
    rw [List.flatMap_cons, List.append_assoc, List.singleton_append,
      List.splitOn_append_cons_self_of_not_mem first, ih others, List.cons_append]

theorem flatMap_chunk (bytes : List UInt8) (n : Nat) :
    (List.range n).flatMap (chunk bytes) = bytes.take (n * lineWidth) := by
  induction n with
  | zero => simp
  | succ n ih =>
    rw [List.range_succ, List.flatMap_append, ih, Nat.succ_mul, List.take_add]
    simp [chunk]

theorem readBack_of_dump {base : Nat} {bytes : Bytes} {text : String}
    (listed : dump base bytes = .ok text) :
    readBack text = (if bytes.size = 0 then none else some base, bytes) := by
  obtain ⟨words, rfl⟩ := dump_eq_ok.mp listed
  have closed : ∀ line ∈ rows base bytes.toList, '\n' ∉ line := by
    simp only [rows, List.forall_mem_map]
    exact fun _ _ => newline_not_mem_row _ _
  have read : (rows base bytes.toList).filterMap readRow =
      (List.range (lineCount bytes.size)).map fun i =>
        (base + i * lineWidth, chunk bytes.toList i) := by
    rw [rows, Bytes.length_toList, List.filterMap_map, ← List.filterMap_eq_map]
    apply List.filterMap_congr
    intro i inside
    exact readRow_of_row (row_row _ _) (words i (List.mem_range.mp inside))
  have all : bytes.toList.length ≤ lineCount bytes.size * lineWidth := by
    rw [Bytes.length_toList]
    simp only [lineCount, lineWidth]
    omega
  have empty : lineCount bytes.size = 0 ↔ bytes.size = 0 := by
    simp only [lineCount, lineWidth]
    omega
  have nothing : readRow [] = none := rfl
  simp only [readBack, String.toList_ofList, splitOn_lines closed, List.filterMap_append, read,
    List.filterMap_cons, nothing, List.filterMap_nil, List.append_nil, List.head?_map,
    List.head?_range, empty, List.flatMap_map, flatMap_chunk, List.take_of_length_le all,
    Bytes.toByteArray_toList]
  split
  · rfl
  · simp

/-- Bytes are listed sixteen to a line, each line under its address, and the listing can be read back,
so no two that are not empty look alike. -/
theorem listing_read_back {base : Nat} {bytes : Bytes} (room : base + bytes.size ≤ Word.limit) :
    ∃ (text : String) (lines : List (List Char)), dump base bytes = .ok text ∧
      text.toList = lines.flatMap (· ++ ['\n']) ∧ lines.length = (bytes.size + 15) / 16 ∧
      (∀ (i : Nat) (inside : i < lines.length), '\n' ∉ lines[i] ∧
        Row (base + 16 * i) (bytes.slice (16 * i) 16).toList lines[i]) ∧
      readBack text = (if bytes.size = 0 then none else some base, bytes) ∧
      ∀ (base' : Nat) (bytes' : Bytes), dump base' bytes' = .ok text →
        bytes' = bytes ∧ (bytes.size ≠ 0 → base' = base) := by
  obtain ⟨text, listed⟩ := exists_dump room
  have back := readBack_of_dump listed
  refine ⟨text, rows base bytes.toList, listed, ?_, ?_, ?_, back, ?_⟩
  · rw [(dump_eq_ok.mp listed).2, String.toList_ofList]
  · rw [rows, List.length_map, List.length_range, Bytes.length_toList]
    rfl
  · intro i inside
    simp only [rows, List.getElem_map, List.getElem_range]
    refine ⟨newline_not_mem_row _ _, ?_⟩
    rw [Bytes.toList_slice, Nat.mul_comm 16 i]
    exact row_row _ _
  · intro base' bytes' listed'
    have same := (readBack_of_dump listed').symm.trans back
    obtain ⟨start, rfl⟩ := Prod.mk.inj same
    refine ⟨rfl, fun some => ?_⟩
    rw [if_neg some, if_neg some] at start
    exact Option.some.inj start

/-- Bytes whose picture reads as more digits and a second address, at the end of the address space. -/
theorem misleading_picture_read_back :
    let base := Word.limit - 16
    let bytes := "  41 42  00: 43 ".toUTF8
    ∃ text, dump base bytes = .ok text ∧ readBack text = (some base, bytes) := by
  intro base bytes
  have size : bytes.size = 16 := rfl
  have room : base + bytes.size ≤ Word.limit := by
    rw [size]
    decide
  obtain ⟨text, lines, listed, -, -, -, back, -⟩ := listing_read_back room
  exact ⟨text, listed, back⟩

end DiskImage.HexDump
