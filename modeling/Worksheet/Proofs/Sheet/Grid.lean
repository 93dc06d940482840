import Worksheet.Sheet.Change

namespace Worksheet.Sheet

variable {sheet before middle after : Sheet} {address other : Address}

theorem forall_contains_iff {p : Address → Prop} :
    (∀ row < sheet.rows, ∀ col < sheet.columns, p ⟨row, col⟩) ↔
      ∀ address, sheet.contains address → p address := by
  constructor
  · intro h address hcontains
    simp only [contains, Bool.and_eq_true, decide_eq_true_eq] at hcontains
    exact h _ hcontains.1 _ hcontains.2
  · intro h row hrow col hcol
    exact h ⟨row, col⟩ (by simp [contains, hrow, hcol])

theorem index_lt (h : sheet.contains address) : sheet.index address < sheet.rows * sheet.columns := by
  simp only [contains, Bool.and_eq_true, decide_eq_true_eq] at h
  calc address.row * sheet.columns + address.col
      < address.row * sheet.columns + sheet.columns := Nat.add_lt_add_left h.2 _
    _ = (address.row + 1) * sheet.columns := (Nat.succ_mul _ _).symm
    _ ≤ sheet.rows * sheet.columns := Nat.mul_le_mul_right _ h.1

theorem index_injective (ha : sheet.contains address) (hb : sheet.contains other)
    (h : sheet.index address = sheet.index other) : address = other := by
  obtain ⟨r, c⟩ := address
  obtain ⟨r', c'⟩ := other
  simp only [contains, Bool.and_eq_true, decide_eq_true_eq] at ha hb
  simp only [index] at h
  have hc : c = c' := by
    have := congrArg (· % sheet.columns) h
    simpa only [Nat.mul_add_mod', Nat.mod_eq_of_lt ha.2, Nat.mod_eq_of_lt hb.2] using this
  subst hc
  have hr : r = r' := by
    have hpos : 0 < sheet.columns := by omega
    exact Nat.eq_of_mul_eq_mul_right hpos (by omega)
  rw [hr]

theorem cell?_modifyCell (sheet : Sheet) (address other : Address) (f : Cell → Cell) :
    (sheet.modifyCell address f).cell? other =
      if address = other then (sheet.cell? other).map f else sheet.cell? other := by
  unfold modifyCell
  by_cases ha : sheet.contains address
  · rw [if_pos ha]
    by_cases hb : sheet.contains other
    · have hindex : sheet.index address = sheet.index other ↔ address = other :=
        ⟨index_injective ha hb, congrArg sheet.index⟩
      simp only [cell?, contains, index] at hb hindex ⊢
      simp only [hb, ↓reduceIte, Array.getElem?_modify, hindex]
    · have hb' : sheet.contains other = false := by simpa using hb
      simp only [cell?, contains] at hb' ⊢
      simp [hb']
  · rw [if_neg ha]
    split
    · subst other
      simp [cell?, ha]
    · rfl

theorem exists_index_eq {i : Nat} (h : i < sheet.rows * sheet.columns) :
    ∃ address, sheet.contains address ∧ sheet.index address = i := by
  refine ⟨⟨i / sheet.columns, i % sheet.columns⟩, ?_, ?_⟩
  · have hcol : i % sheet.columns < sheet.columns := Nat.mod_lt _ (Nat.pos_of_lt_mul_left h)
    have hrow : i / sheet.columns < sheet.rows := Nat.div_lt_of_lt_mul (by rwa [Nat.mul_comm])
    simp [contains, hrow, hcol]
  · rw [index, Nat.mul_comm, Nat.div_add_mod]

theorem compare_of_index_lt (hother : sheet.contains other)
    (h : sheet.index address < sheet.index other) : compare address other = .lt := by
  simp only [contains, Bool.and_eq_true, decide_eq_true_eq] at hother
  simp only [index] at h
  have hrow : address.row ≤ other.row := by
    apply Nat.le_of_not_lt
    intro hrow
    have hbelow : (other.row + 1) * sheet.columns ≤ address.row * sheet.columns :=
      Nat.mul_le_mul_right _ hrow
    rw [Nat.succ_mul] at hbelow
    omega
  change (compare address.row other.row).then (compare address.col other.col) = .lt
  rw [Ordering.then_eq_lt, Nat.compare_eq_lt, Nat.compare_eq_eq, Nat.compare_eq_lt]
  rcases Nat.lt_or_eq_of_le hrow with hrow | hrow
  · exact .inl hrow
  · rw [hrow] at h
    exact .inr ⟨hrow, by omega⟩

def text? (sheet : Sheet) (address : Address) : Option String :=
  (sheet.cell? address).map Cell.text

def color? (sheet : Sheet) (address : Address) : Option Color :=
  (sheet.cell? address).map Cell.color

theorem value?_eq_map (sheet : Sheet) (address : Address) :
    sheet.value? address = (sheet.cell? address).bind Cell.value := rfl

theorem cell?_writeText (sheet : Sheet) (address other : Address) (text : String) :
    (sheet.writeText address text).cell? other =
      if address = other then (sheet.cell? other).map fun cell => { cell with text }
      else sheet.cell? other :=
  cell?_modifyCell sheet address other _

theorem cell?_writeValue (sheet : Sheet) (address other : Address) (value : Option String) :
    (sheet.writeValue address value).cell? other =
      if address = other then (sheet.cell? other).map fun cell => { cell with value }
      else sheet.cell? other :=
  cell?_modifyCell sheet address other _

theorem cell?_writeColor (sheet : Sheet) (address other : Address) (color : Color) :
    (sheet.writeColor address color).cell? other =
      if address = other then (sheet.cell? other).map fun cell => { cell with color }
      else sheet.cell? other :=
  cell?_modifyCell sheet address other _

structure SameShape (before after : Sheet) : Prop where
  rows : after.rows = before.rows
  columns : after.columns = before.columns
  size : after.cells.size = before.cells.size

namespace SameShape

theorem refl (sheet : Sheet) : SameShape sheet sheet := ⟨rfl, rfl, rfl⟩

theorem trans (h : SameShape before middle) (h' : SameShape middle after) :
    SameShape before after :=
  ⟨h'.rows.trans h.rows, h'.columns.trans h.columns, h'.size.trans h.size⟩

theorem cell?_eq_none_iff (h : SameShape before after) (address : Address) :
    after.cell? address = none ↔ before.cell? address = none := by
  have hcontains : after.contains address = before.contains address := by
    simp only [contains, h.rows, h.columns]
  have hindex : after.index address = before.index address := by
    simp only [index, h.columns]
  rw [cell?, cell?, hcontains, hindex]
  split
  · rw [Array.getElem?_eq_none_iff, Array.getElem?_eq_none_iff, h.size]
  · rfl

theorem text?_eq_none_iff (h : SameShape before after) (address : Address) :
    after.text? address = none ↔ before.text? address = none := by
  simp only [text?, Option.map_eq_none_iff]
  exact h.cell?_eq_none_iff address

end SameShape

structure SameFrame (before after : Sheet) : Prop where
  rows : after.rows = before.rows
  columns : after.columns = before.columns
  size : after.cells.size = before.cells.size
  graph : after.graph = before.graph
  history : after.history = before.history

theorem sameFrame_modifyCell (sheet : Sheet) (address : Address) (f : Cell → Cell) :
    SameFrame sheet (sheet.modifyCell address f) := by
  unfold modifyCell
  split <;> constructor <;> simp

theorem sameFrame_writeText (sheet : Sheet) (address : Address) (text : String) :
    SameFrame sheet (sheet.writeText address text) :=
  have h := sheet.sameFrame_modifyCell address fun cell => { cell with text }
  ⟨h.rows, h.columns, h.size, h.graph, h.history⟩

theorem sameFrame_writeValue (sheet : Sheet) (address : Address) (value : Option String) :
    SameFrame sheet (sheet.writeValue address value) :=
  have h := sheet.sameFrame_modifyCell address fun cell => { cell with value }
  ⟨h.rows, h.columns, h.size, h.graph, h.history⟩

theorem sameFrame_writeColor (sheet : Sheet) (address : Address) (color : Color) :
    SameFrame sheet (sheet.writeColor address color) :=
  have h := sheet.sameFrame_modifyCell address fun cell => { cell with color }
  ⟨h.rows, h.columns, h.size, h.graph, h.history⟩

end Worksheet.Sheet
