import Worksheet.CommandLine.Execution
import Worksheet.Proofs.Expression.Leaves
import Worksheet.Proofs.Text.Line

namespace Worksheet

theorem bind_eq_error_iff {ε α β : Type} {x : Except ε α} {f : α → Except ε β} {error : ε} :
    (x >>= f) = .error error ↔
      x = .error error ∨ ∃ middle, x = .ok middle ∧ f middle = .error error := by
  cases x with
  | error cause => simp [Bind.bind, Except.bind]
  | ok middle => simp [Bind.bind, Except.bind]

theorem mapError_eq_error_iff {ε δ α : Type} {x : Except ε α} {f : ε → δ} {error : δ} :
    x.mapError f = .error error ↔ ∃ cause, x = .error cause ∧ f cause = error := by
  cases x <;> simp [Except.mapError]

theorem exists_of_foldlM_eq_error {ε α β : Type} {f : β → α → Except ε β} {start : β}
    {items : List α} {error : ε} (h : items.foldlM f start = .error error) :
    ∃ state, ∃ item ∈ items, f state item = .error error := by
  induction items generalizing start with
  | nil => cases h
  | cons item items ih =>
    rw [List.foldlM_cons] at h
    rcases bind_eq_error_iff.mp h with h | ⟨middle, -, h⟩
    · exact ⟨start, item, List.mem_cons_self, h⟩
    · obtain ⟨state, other, hother, h⟩ := ih h
      exact ⟨state, other, List.mem_cons_of_mem _ hother, h⟩

theorem exists_of_mapM_eq_error {ε α β : Type} {f : α → Except ε β} {items : List α} {error : ε}
    (h : items.mapM f = .error error) : ∃ item ∈ items, f item = .error error := by
  induction items with
  | nil => cases h
  | cons item items ih =>
    rw [List.mapM_cons] at h
    rcases bind_eq_error_iff.mp h with h | ⟨middle, -, h⟩
    · exact ⟨item, List.mem_cons_self, h⟩
    · rcases bind_eq_error_iff.mp h with h | ⟨rest, -, h⟩
      · obtain ⟨other, hother, h⟩ := ih h
        exact ⟨other, List.mem_cons_of_mem _ hother, h⟩
      · cases h

namespace ExpressionError

def subject : ExpressionError → String
  | noOperator expression | unbalanced expression _ | malformed expression
  | tooDeep expression _ => expression
  | invalidName name | unknownVariable name | unsetVariable name => name

theorem oneLine_message {cause : ExpressionError} (h : OneLine cause.subject) :
    OneLine cause.message := by
  have hquoted : OneLine (quoted cause.subject) := h.within (by decide +kernel) (by decide +kernel)
  cases cause with
  | unbalanced expression excess =>
    have hexcess : OneLine excess.excessMessage := by cases excess <;> decide +kernel
    have hhas : OneLine ("the expression " ++ quoted expression ++ " has ") :=
      hquoted.within (by decide +kernel) (by decide +kernel)
    exact hexcess.within hhas (by decide +kernel)
  | tooDeep expression limit =>
    have hnests : OneLine
        ("the expression " ++ quoted expression ++ " nests operators deeper than ") :=
      hquoted.within (by decide +kernel) (by decide +kernel)
    exact (oneLine_toString limit).within hnests (by decide +kernel)
  | noOperator | invalidName | malformed | unknownVariable | unsetVariable =>
    exact hquoted.within (by decide +kernel) (by decide +kernel)

end ExpressionError

section Parsing

variable {expression : String} {cause : ExpressionError}

theorem PostfixItem.subject_of_finish {pending : List Pending} {items : List PostfixItem}
    (h : finish expression pending items = .error cause) : cause.subject = expression := by
  fun_induction finish expression pending items with
  | case1 => cases h
  | case2 =>
    cases h
    rfl
  | case3 top pending items ih => exact ih h

theorem Expr.subject_of_assemble {stack : List (Expr × Nat)} {items : List PostfixItem}
    (h : assemble expression stack items = .error cause) : cause.subject = expression := by
  fun_induction assemble expression stack items with
  | case1 => cases h
  | case2 | case4 | case6 =>
    cases h
    rfl
  | case3 stack node items ih => exact ih h
  | case5 right j left i stack op items hdepth ih => exact ih h

theorem Token.subset_of_mem_scan {text chars : List Char} (h : .operand text ∈ scan chars) :
    text ⊆ chars := by
  have hrun : text ∈ runs chars := by
    rw [← filterMap_run?_scan]
    exact List.mem_filterMap.mpr ⟨_, h, rfl⟩
  exact fun c hc => (of_mem_splitOnP (List.mem_filter.mp hrun).1 c hc).1

theorem PostfixItem.subject_of_ofExpression (h : ofExpression expression = .error cause) :
    cause.subject.toList ⊆ expression.toList := by
  unfold ofExpression at h
  simp only at h
  split at h
  · rcases bind_eq_error_iff.mp h with h | ⟨state, -, h⟩
    · obtain ⟨state, token, htoken, hstep⟩ := exists_of_foldlM_eq_error h
      cases token with
      | operand text =>
        rcases bind_eq_error_iff.mp hstep with hclassify | ⟨operand, -, hnext⟩
        · obtain rfl := Operand.eq_invalidName_of_classify hclassify
          rw [ExpressionError.subject, String.toList_ofList]
          exact Token.subset_of_mem_scan htoken
        · cases hnext
      | operator | opening => cases hstep
      | closing =>
        rw [step] at hstep
        split at hstep
        · cases hstep
        · cases hstep
          exact List.Subset.refl _
    · rw [subject_of_finish h]
      exact List.Subset.refl _
  · cases h
    exact List.Subset.refl _

theorem Expr.subject_of_parse (h : parse expression = .error cause) :
    cause.subject.toList ⊆ expression.toList := by
  rcases bind_eq_error_iff.mp h with h | ⟨items, -, h⟩
  · exact PostfixItem.subject_of_ofExpression h
  · rw [subject_of_assemble h]
    exact List.Subset.refl _

theorem Formula.parse_eq_error_iff : parse expression = .error cause ↔
    Expr.parse expression = .error cause := by
  unfold parse
  cases Expr.parse expression <;> simp [Except.map]

theorem oneLine_of_parse (h : Expr.parse expression = .error cause) (hline : OneLine expression) :
    OneLine cause.message :=
  ExpressionError.oneLine_message fun hc => hline (Expr.subject_of_parse h hc)

end Parsing

namespace Address

theorem oneLine_of_readColumn {letters : List Char} {cause : AddressError}
    (hline : '\n' ∉ letters) (h : readColumn letters = .error cause) : OneLine cause.message := by
  unfold readColumn at h
  split at h
  · cases h
    decide +kernel
  · cases hfold : letters.foldlM extendColumn 0 with
    | ok number =>
      rw [hfold] at h
      cases h
    | error error =>
      rw [hfold] at h
      obtain rfl := Except.error.inj h
      obtain ⟨number, letter, hletter, hstep⟩ := exists_of_foldlM_eq_error hfold
      unfold extendColumn at hstep
      simp only at hstep
      split at hstep
      · split at hstep
        · cases hstep
        · cases hstep
          decide +kernel
      · cases hstep
        have hne : '\n' ≠ letter := by
          rintro rfl
          exact hline hletter
        have hletter : OneLine letter.toString := by
          simpa [OneLine] using hne
        exact hletter.within (by decide +kernel) (by decide +kernel)

theorem oneLine_of_readRow {text : String} {digits : List Char} {cause : AddressError}
    (hline : OneLine text) (h : readRow text digits = .error cause) : OneLine cause.message := by
  unfold readRow at h
  simp only at h
  split at h
  · cases h
    exact hline.within (by decide +kernel) (by decide +kernel)
  · split at h
    · cases h
      exact hline.within (by decide +kernel) (by decide +kernel)
    · split at h
      · cases h
        exact hline.within (by decide +kernel) (by decide +kernel)
      · split at h
        · cases h
          exact hline.within (by decide +kernel) (by decide +kernel)
        · split at h
          · cases h
            have hmax : OneLine (toString (maxRows - 1)) := oneLine_toString _
            exact hmax.within ((oneLine_toString _).within (by decide +kernel) (by decide +kernel))
              (by decide +kernel)
          · cases h

theorem oneLine_of_parse {text : String} {cause : AddressError} (hline : OneLine text)
    (h : parse text = .error cause) : OneLine cause.message := by
  unfold parse at h
  simp only at h
  split at h
  · cases h
    decide +kernel
  · split at h
    · cases h
      exact hline.within (by decide +kernel) (by decide +kernel)
    · rcases bind_eq_error_iff.mp h with h | ⟨col, -, h⟩
      · apply oneLine_of_readColumn _ h
        exact fun hc => hline ((List.takeWhile_prefix _).subset hc)
      · rcases bind_eq_error_iff.mp h with h | ⟨row, -, h⟩
        · exact oneLine_of_readRow hline h
        · cases h

end Address

namespace Statement

variable {text : List Char} {error : StatementError}

theorem oneLine_of_readAddress (hline : '\n' ∉ text) (h : readAddress text = .error error) :
    ∀ message ∈ error.messages, OneLine message := by
  obtain ⟨cause, hcause, rfl⟩ := mapError_eq_error_iff.mp h
  have hname : OneLine (String.ofList text) := oneLine_ofList_iff.mpr hline
  have hmessage := Address.oneLine_of_parse hname hcause
  simp only [StatementError.messages, List.forall_mem_cons]
  exact ⟨hname.within (by decide +kernel) (by decide +kernel), hmessage, List.forall_mem_nil _⟩

theorem oneLine_of_readColor (hline : '\n' ∉ text) (h : readColor text = .error error) :
    ∀ message ∈ error.messages, OneLine message := by
  obtain ⟨cause, hcause, rfl⟩ := mapError_eq_error_iff.mp h
  unfold Color.parse at hcause
  split at hcause
  · cases hcause
  · cases hcause
    have hname : OneLine (String.ofList text) := oneLine_ofList_iff.mpr hline
    have hinvalid : OneLine "Invalid color: " := by decide +kernel
    simp only [StatementError.messages, List.forall_mem_cons]
    exact ⟨hname.within (by decide +kernel) (by decide +kernel), hinvalid.append hname,
      List.forall_mem_nil _⟩

theorem oneLine_of_parseSet (hline : '\n' ∉ text) (h : parseSet text = .error error) :
    ∀ message ∈ error.messages, OneLine message := by
  have hname : '\n' ∉ (Text.splitWord text).1 := fun hc => hline ((Text.splitWord_subset text).1 hc)
  unfold parseSet at h
  simp only at h
  split at h
  · cases h
    exact List.forall_mem_singleton.mpr (by decide +kernel)
  · rcases bind_eq_error_iff.mp h with h | ⟨cell, -, h⟩
    · exact oneLine_of_readAddress hname h
    · cases h

theorem oneLine_of_parseColor (hline : '\n' ∉ text) (h : parseColor text = .error error) :
    ∀ message ∈ error.messages, OneLine message := by
  obtain ⟨hshown, hnames⟩ := Text.splitWord_subset text
  rcases bind_eq_error_iff.mp h with h | ⟨color, -, h⟩
  · exact oneLine_of_readColor (fun hc => hline (hshown hc)) h
  · rcases bind_eq_error_iff.mp h with h | ⟨cells, -, h⟩
    · obtain ⟨name, hname, h⟩ := exists_of_mapM_eq_error h
      exact oneLine_of_readAddress
        (fun hc => hline (hnames (Text.subset_of_mem_words hname hc))) h
    · split at h
      · cases h
        exact List.forall_mem_singleton.mpr (by decide +kernel)
      · cases h

theorem oneLine_of_parseWords (hline : '\n' ∉ text) (h : parseWords text = .error error) :
    ∀ message ∈ error.messages, OneLine message := by
  have hrest : '\n' ∉ (Text.splitWord text).2 := fun hc => hline ((Text.splitWord_subset text).2 hc)
  unfold parseWords at h
  simp only at h
  split at h
  · exact oneLine_of_parseSet hrest h
  · split at h
    · exact oneLine_of_parseColor hrest h
    · split at h
      · cases h
      · split at h
        · cases h
        · cases h
          have hname : OneLine (String.ofList text) := oneLine_ofList_iff.mpr hline
          exact List.forall_mem_singleton.mpr
            (hname.within (by decide +kernel) (by decide +kernel))

theorem oneLine_of_parseLine (hline : '\n' ∉ text) (h : parseLine text = .error error) :
    ∀ message ∈ error.messages, OneLine message := by
  have htrim : '\n' ∉ Text.trim text := fun hc => hline (Text.trim_subset text hc)
  unfold parseLine at h
  split at h
  · cases h
  · cases h
  · cases hwords : parseWords (Text.trim text) with
    | ok statement =>
      rw [hwords] at h
      cases h
    | error cause =>
      rw [hwords] at h
      obtain rfl := Except.error.inj h
      exact oneLine_of_parseWords htrim hwords

end Statement

namespace CommandLine

variable {error cause first second : String}

theorem indented_of_oneLine (h : OneLine cause) (margin : String) :
    indented margin cause = cause := by
  have hchars : (cause.toList.flatMap fun c => if c = '\n' then '\n' :: margin.toList else [c]) =
      cause.toList.flatMap fun c => [c] := by
    apply List.flatMap_congr
    intro c hc
    rw [if_neg]
    rintro rfl
    exact h hc
  rw [indented, hchars, List.flatMap_singleton', String.ofList_toList]

theorem report_cause (h : OneLine cause) :
    report [error, cause] = "Error: " ++ error ++ "\n\nCaused by:\n    " ++ cause ++ "\n" := by
  apply String.toList_inj.mp
  simp [report, causeLines, indented_of_oneLine h]

theorem report_causes (hfirst : OneLine first) (hsecond : OneLine second) :
    report [error, first, second] =
      "Error: " ++ error ++ "\n\nCaused by:\n    0: " ++ first ++ "\n    1: " ++ second ++ "\n" := by
  apply String.toList_inj.mp
  have hzero : rightAligned 5 (Nat.repr 0) = "    0" := by decide +kernel
  have hone : rightAligned 5 (Nat.repr 1) = "    1" := by decide +kernel
  simp [report, causeLines, hzero, hone, indented_of_oneLine hfirst, indented_of_oneLine hsecond]

end CommandLine

end Worksheet
