import Mathlib.Data.List.TakeWhile
import Worksheet.Text.Word

namespace Worksheet.Text

variable {text word before between after tail spaced : List Char} {words : List (List Char)}

def Blanks (text : List Char) : Prop := ∀ c ∈ text, isBlank c = true

structure Gap (text : List Char) : Prop where
  ne_nil : text ≠ []
  blanks : Blanks text

structure IsWord (text : List Char) : Prop where
  ne_nil : text ≠ []
  plain : ∀ c ∈ text, isBlank c = false

structure Trimmed (text : List Char) : Prop where
  first : ∀ c ∈ text.head?, isBlank c = false
  last : ∀ c ∈ text.getLast?, isBlank c = false

inductive Spaced : List (List Char) → List Char → Prop
  | nil : Spaced [] []
  | cons {gap word spaced : List Char} {words : List (List Char)} (hgap : Gap gap)
      (hword : IsWord word) (hspaced : Spaced words spaced) :
      Spaced (word :: words) (gap ++ word ++ spaced)

theorem trimStart_append (hbefore : Blanks before) (text : List Char) :
    trimStart (before ++ text) = trimStart text :=
  List.dropWhile_append_of_pos hbefore

theorem trimStart_of_first (h : ∀ c ∈ text.head?, isBlank c = false) : trimStart text = text := by
  cases text with
  | nil => rfl
  | cons c text =>
    have hc : isBlank c = false := h c rfl
    rw [trimStart, List.dropWhile_cons_of_neg (by simp [hc])]

theorem first_trimStart (text : List Char) :
    ∀ c ∈ (trimStart text).head?, isBlank c = false := by
  have hhead := List.head?_dropWhile_not isBlank text
  intro c hc
  rw [trimStart] at hc
  rw [hc] at hhead
  simpa using hhead

theorem withoutBlanks_trimStart (text : List Char) :
    withoutBlanks (trimStart text) = withoutBlanks text := by
  have hblanks : (text.takeWhile isBlank).filter (fun c => ! isBlank c) = [] := by
    apply List.filter_eq_nil_iff.mpr
    intro c hc
    simp [List.mem_takeWhile_imp hc]
  calc withoutBlanks (trimStart text)
      = withoutBlanks (text.takeWhile isBlank ++ text.dropWhile isBlank) := by
        rw [withoutBlanks, withoutBlanks, List.filter_append, hblanks, List.nil_append, trimStart]
    _ = withoutBlanks text := by rw [List.takeWhile_append_dropWhile]

theorem trimEnd_append (hafter : Blanks after) (text : List Char) :
    trimEnd (text ++ after) = trimEnd text := by
  have hreverse : Blanks after.reverse := fun c hc => hafter c (List.mem_reverse.mp hc)
  rw [trimEnd, List.reverse_append, trimStart_append hreverse, trimEnd]

theorem trimEnd_of_last (h : ∀ c ∈ text.getLast?, isBlank c = false) : trimEnd text = text := by
  have hfirst : ∀ c ∈ text.reverse.head?, isBlank c = false := by
    rwa [List.head?_reverse]
  rw [trimEnd, trimStart_of_first hfirst, List.reverse_reverse]

theorem trim_of_trimmed (hbefore : Blanks before) (htext : Trimmed text) (hafter : Blanks after) :
    trim (before ++ text ++ after) = text := by
  cases text with
  | nil =>
    rw [List.append_nil, trim, trimStart_append hbefore, ← List.append_nil after,
      trimStart_append hafter]
    rfl
  | cons c text =>
    have hfirst : ∀ d ∈ (c :: text ++ after).head?, isBlank d = false := htext.first
    rw [List.append_assoc, trim, trimStart_append hbefore, trimStart_of_first hfirst,
      trimEnd_append hafter, trimEnd_of_last htext.last]

theorem isWord_of_isAlphanum (hne : word ≠ []) (h : ∀ c ∈ word, c.isAlphanum = true) :
    IsWord word :=
  ⟨hne, fun c hc => isBlank_of_isAlphanum (h c hc)⟩

theorem IsWord.first (h : IsWord word) (tail : List Char) :
    ∀ c ∈ (word ++ tail).head?, isBlank c = false := by
  obtain ⟨c, word, rfl⟩ := List.exists_cons_of_ne_nil h.ne_nil
  intro d hd
  obtain rfl : c = d := Option.some.inj hd
  exact h.plain c List.mem_cons_self

theorem trimmed_of_plain (h : ∀ c ∈ text, isBlank c = false) : Trimmed text where
  first c hc := h c (List.mem_of_head? hc)
  last c hc := h c (List.mem_of_getLast? hc)

theorem trim_eq_self (h : ∀ c ∈ text, isBlank c = false) : trim text = text := by
  have htrim := trim_of_trimmed (List.forall_mem_nil _) (trimmed_of_plain h) (List.forall_mem_nil _)
  rwa [List.nil_append, List.append_nil] at htrim

theorem last_append (hne : tail ≠ []) (h : ∀ c ∈ tail.getLast?, isBlank c = false)
    (text : List Char) : ∀ c ∈ (text ++ tail).getLast?, isBlank c = false := by
  rwa [List.getLast?_append, List.getLast?_eq_some_getLast hne, Option.some_or,
    ← List.getLast?_eq_some_getLast hne]

theorem IsWord.trimmed (h : IsWord word) : Trimmed word := trimmed_of_plain h.plain

theorem IsWord.trimmed_append (h : IsWord word) (hne : tail ≠ [])
    (hlast : ∀ c ∈ tail.getLast?, isBlank c = false) : Trimmed (word ++ tail) where
  first := h.first tail
  last := last_append hne hlast word

theorem Gap.first (h : Gap between) (tail : List Char) :
    ∀ c ∈ (between ++ tail).head?, isBlank c = true := by
  obtain ⟨c, between, rfl⟩ := List.exists_cons_of_ne_nil h.ne_nil
  intro d hd
  obtain rfl : c = d := Option.some.inj hd
  exact h.blanks c List.mem_cons_self

theorem splitWord_append (hword : IsWord word) (htail : ∀ c ∈ tail.head?, isBlank c = true) :
    splitWord (word ++ tail) = (word, trimStart tail) := by
  have hplain : ∀ c ∈ word, (! isBlank c) = true := fun c hc => by simp [hword.plain c hc]
  have hend : tail.takeWhile (fun c => ! isBlank c) = [] ∧
      tail.dropWhile (fun c => ! isBlank c) = tail := by
    cases tail with
    | nil => exact ⟨rfl, rfl⟩
    | cons c tail =>
      have hc : isBlank c = true := htail c rfl
      simp [hc]
  simp only [splitWord, trimStart_of_first (hword.first tail)]
  rw [List.takeWhile_append_of_pos hplain, List.dropWhile_append_of_pos hplain, hend.1, hend.2,
    List.append_nil]

theorem words_cons_of_isBlank {c : Char} (h : isBlank c = true) (text : List Char) :
    Text.words (c :: text) = Text.words text := by
  have hsplit := List.splitOnP_append_cons [] text h
  rw [List.nil_append] at hsplit
  rw [Text.words, hsplit]
  rfl

theorem words_append_of_blanks (h : Blanks before) (text : List Char) :
    Text.words (before ++ text) = Text.words text := by
  induction before with
  | nil => rfl
  | cons c before ih =>
    obtain ⟨hc, hbefore⟩ := List.forall_mem_cons.mp h
    rw [List.cons_append, words_cons_of_isBlank hc, ih hbefore]

theorem words_trimStart (text : List Char) : Text.words (trimStart text) = Text.words text := by
  have hblanks : Blanks (text.takeWhile isBlank) := fun c hc => List.mem_takeWhile_imp hc
  calc Text.words (trimStart text)
      = Text.words (text.takeWhile isBlank ++ text.dropWhile isBlank) :=
        (words_append_of_blanks hblanks _).symm
    _ = Text.words text := by rw [List.takeWhile_append_dropWhile]

theorem words_append (hword : IsWord word) (htail : ∀ c ∈ tail.head?, isBlank c = true) :
    Text.words (word ++ tail) = word :: Text.words tail := by
  have hsingle : word.splitOnP isBlank = [word] :=
    List.splitOnP_eq_singleton fun c hc => by simp [hword.plain c hc]
  have hne := hword.ne_nil
  cases tail with
  | nil =>
    rw [List.append_nil, Text.words, hsingle]
    simp [hne, Text.words]
  | cons c tail =>
    have hc : isBlank c = true := htail c rfl
    rw [words_cons_of_isBlank hc, Text.words, List.splitOnP_append_cons word tail hc, hsingle]
    simp [hne, Text.words]

theorem Spaced.ne_nil (h : Spaced words spaced) (hne : words ≠ []) : spaced ≠ [] := by
  cases h with
  | nil => exact absurd rfl hne
  | cons hgap _ _ =>
    rw [List.append_assoc]
    exact List.append_ne_nil_of_left_ne_nil hgap.ne_nil _

theorem Spaced.first (h : Spaced words spaced) : ∀ c ∈ spaced.head?, isBlank c = true := by
  cases h with
  | nil => exact fun c hc => nomatch hc
  | cons hgap _ _ =>
    rw [List.append_assoc]
    exact hgap.first _

theorem Spaced.last (h : Spaced words spaced) : ∀ c ∈ spaced.getLast?, isBlank c = false := by
  induction h with
  | nil => exact fun c hc => nomatch hc
  | @cons gap word spaced words _ hword _ ih =>
    cases spaced with
    | nil =>
      rw [List.append_nil]
      exact last_append hword.ne_nil hword.trimmed.last gap
    | cons c spaced => exact last_append (List.cons_ne_nil c spaced) ih _

theorem words_of_spaced (h : Spaced words spaced) : Text.words spaced = words := by
  induction h with
  | nil => rfl
  | cons hgap hword hspaced ih =>
    rw [List.append_assoc, words_append_of_blanks hgap.blanks, words_append hword hspaced.first, ih]

end Worksheet.Text
