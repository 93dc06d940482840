import Mathlib.Data.List.TakeWhile
import Worksheet.Text.Word

namespace Worksheet

theorem of_mem_splitOnP {α : Type} {p : α → Bool} {items part : List α}
    (h : part ∈ items.splitOnP p) : ∀ item ∈ part, item ∈ items ∧ p item = false := by
  induction items generalizing part with
  | nil =>
    obtain rfl : part = [] := by simpa using h
    exact List.forall_mem_nil _
  | cons first items ih =>
    have hlater {part : List α} (h : part ∈ items.splitOnP p) :
        ∀ item ∈ part, item ∈ first :: items ∧ p item = false :=
      fun item hitem => ⟨List.mem_cons_of_mem _ (ih h item hitem).1, (ih h item hitem).2⟩
    rw [List.splitOnP_cons_eq_if_modifyHead] at h
    by_cases hfirst : p first = true
    · rw [if_pos hfirst] at h
      rcases List.mem_cons.mp h with rfl | h
      · exact List.forall_mem_nil _
      · exact hlater h
    · rw [if_neg hfirst] at h
      cases hsplit : items.splitOnP p with
      | nil =>
        rw [hsplit] at h
        cases h
      | cons head tail =>
        rw [hsplit] at hlater h
        rcases List.mem_cons.mp h with rfl | h
        · intro item hitem
          rcases List.mem_cons.mp hitem with rfl | hitem
          · exact ⟨List.mem_cons_self, eq_false_of_ne_true hfirst⟩
          · exact hlater List.mem_cons_self item hitem
        · exact hlater (List.mem_cons_of_mem _ h)

def OneLine (text : String) : Prop := '\n' ∉ text.toList

instance : DecidablePred OneLine := fun text => inferInstanceAs (Decidable ('\n' ∉ text.toList))

section OneLine

variable {text before after : String} {chars : List Char}

theorem OneLine.append (hbefore : OneLine before) (hafter : OneLine after) :
    OneLine (before ++ after) := by
  rw [OneLine, String.toList_append, List.mem_append, not_or]
  exact ⟨hbefore, hafter⟩

theorem OneLine.within (h : OneLine text) (hbefore : OneLine before) (hafter : OneLine after) :
    OneLine (before ++ text ++ after) :=
  (hbefore.append h).append hafter

theorem oneLine_ofList_iff : OneLine (String.ofList chars) ↔ '\n' ∉ chars := by
  rw [OneLine, String.toList_ofList]

theorem oneLine_toString (n : Nat) : OneLine (toString n) := by
  intro h
  rw [Nat.toString_eq_repr, Nat.toList_repr] at h
  exact absurd (Nat.isDigit_of_mem_toDigits (by decide) (by decide) h) (by decide)

end OneLine

namespace Text

variable {text word : List Char}

theorem trimStart_subset (text : List Char) : trimStart text ⊆ text :=
  (List.dropWhile_suffix _).subset

theorem trim_subset (text : List Char) : trim text ⊆ text := by
  intro c hc
  rw [trim, trimEnd, List.mem_reverse] at hc
  exact trimStart_subset text (List.mem_reverse.mp (trimStart_subset _ hc))

theorem splitWord_subset (text : List Char) :
    (splitWord text).1 ⊆ text ∧ (splitWord text).2 ⊆ text := by
  constructor
  · exact fun c hc => trimStart_subset text ((List.takeWhile_prefix _).subset hc)
  · intro c hc
    exact trimStart_subset text ((List.dropWhile_suffix _).subset (trimStart_subset _ hc))

theorem subset_of_mem_words (h : word ∈ words text) : word ⊆ text :=
  fun c hc => (of_mem_splitOnP (List.mem_filter.mp h).1 c hc).1

theorem not_mem_of_mem_lines (h : word ∈ lines text) : '\n' ∉ word := by
  intro hc
  have hnot := (of_mem_splitOnP h '\n' hc).2
  simp at hnot

end Text

end Worksheet
