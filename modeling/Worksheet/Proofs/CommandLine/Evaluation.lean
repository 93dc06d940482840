import Worksheet.CommandLine.Execution
import Worksheet.CommandLine.Request
import Worksheet.Proofs.Decimal.Numeral
import Worksheet.Proofs.Expression.Table
import Worksheet.Proofs.Text.Word

namespace Worksheet

theorem exists_mapM {α β : Type} {f : α → Option β} {list : List α}
    (h : ∀ a ∈ list, ∃ b, f a = some b) :
    ∃ results, list.mapM f = some results ∧ ∀ b, b ∈ results ↔ ∃ a ∈ list, f a = some b := by
  induction list with
  | nil => exact ⟨[], rfl, by simp⟩
  | cons a list ih =>
    obtain ⟨⟨b, hb⟩, hlist⟩ := List.forall_mem_cons.mp h
    obtain ⟨results, hresults, hmem⟩ := ih hlist
    refine ⟨b :: results, ?_, ?_⟩
    · rw [List.mapM_cons, hb, hresults]
      rfl
    · intro other
      simp [hmem, hb, eq_comm]

namespace CommandLine

variable {expression name text : String} {value : Float} {formula : Formula} {tree : Expr}
  {bindings : List (String × Float)} {arguments : List String}

theorem binding?_eq (hname : ∀ c ∈ name.toList, c.isAlphanum = true)
    (h : Decimal.ofText? text = some value) :
    binding? (name ++ "=" ++ text) = some (name, value) := by
  have htext : (name ++ "=" ++ text).toList = name.toList ++ '=' :: text.toList := by simp
  have hne : ∀ c ∈ name.toList, decide (c ≠ '=') = true := by
    intro c hc
    rw [decide_eq_true_eq]
    rintro rfl
    exact absurd (hname _ hc) (by decide)
  have hblank : ∀ c ∈ name.toList, Text.isBlank c = false :=
    fun c hc => Text.isBlank_of_isAlphanum (hname c hc)
  have hvalue : ∀ c ∈ text.toList, Text.isBlank c = false :=
    fun c hc => Decimal.isBlank_of_isMark (Decimal.isMark_of_ofChars? h c hc)
  have htake : (name.toList ++ '=' :: text.toList).takeWhile (· ≠ '=') = name.toList := by
    rw [List.takeWhile_append_of_pos hne, List.takeWhile_cons_of_neg (by decide), List.append_nil]
  have hdrop : (name.toList ++ '=' :: text.toList).dropWhile (· ≠ '=') = '=' :: text.toList := by
    rw [List.dropWhile_append_of_pos hne, List.dropWhile_cons_of_neg (by decide)]
  rw [Decimal.ofText?] at h
  simp only [binding?, htext, htake, hdrop, Text.trim_eq_self hblank, Text.trim_eq_self hvalue, h,
    Option.map_some, String.ofList_toList]

def assigned (chosen : String → Option String) (name : String) : Option Float :=
  (chosen name).bind Decimal.ofText?

variable {chosen : String → Option String} {names : List String}

theorem exists_bindings (hnames : ∀ name ∈ names, ∀ c ∈ name.toList, c.isAlphanum = true)
    (hchosen : ∀ name ∈ names, ∀ text, chosen name = some text → (Decimal.ofText? text).isSome)
    (harguments : arguments.Perm
      (names.filterMap fun name => (chosen name).map fun text => name ++ "=" ++ text)) :
    ∃ bindings, arguments.mapM binding? = some bindings ∧
      (∀ binding ∈ bindings, binding.1 ∈ names) ∧
        ∀ name ∈ names, Formula.lastValue? bindings name = assigned chosen name := by
  have hargument (argument : String) : argument ∈ arguments ↔
      ∃ name ∈ names, ∃ text, chosen name = some text ∧ argument = name ++ "=" ++ text := by
    simp only [harguments.mem_iff, List.mem_filterMap, Option.map_eq_some_iff, eq_comm]
  have hread {name text : String} (hname : name ∈ names) (htext : chosen name = some text) :
      ∃ value, assigned chosen name = some value ∧
        binding? (name ++ "=" ++ text) = some (name, value) := by
    obtain ⟨value, hvalue⟩ := Option.isSome_iff_exists.mp (hchosen name hname text htext)
    refine ⟨value, ?_, binding?_eq (hnames name hname) hvalue⟩
    rw [assigned, htext, Option.bind_some, hvalue]
  obtain ⟨bindings, hbindings, hmem⟩ : ∃ bindings, arguments.mapM binding? = some bindings ∧
      ∀ binding, binding ∈ bindings ↔ ∃ argument ∈ arguments, binding? argument = some binding := by
    apply exists_mapM
    intro argument hmem
    obtain ⟨name, hname, text, htext, rfl⟩ := (hargument argument).mp hmem
    obtain ⟨value, -, hbinding⟩ := hread hname htext
    exact ⟨_, hbinding⟩
  have hiff (name : String) (value : Float) : (name, value) ∈ bindings ↔
      name ∈ names ∧ assigned chosen name = some value := by
    rw [hmem]
    constructor
    · rintro ⟨argument, hargument', hbinding⟩
      obtain ⟨other, hother, text, htext, rfl⟩ := (hargument argument).mp hargument'
      obtain ⟨x, hx, hread'⟩ := hread hother htext
      rw [hbinding, Option.some.injEq, Prod.mk.injEq] at hread'
      rw [hread'.1, hread'.2]
      exact ⟨hother, hx⟩
    · rintro ⟨hname, hvalue⟩
      obtain ⟨text, htext, -⟩ := Option.bind_eq_some_iff.mp hvalue
      obtain ⟨x, hx, hbinding⟩ := hread hname htext
      rw [hvalue, Option.some.injEq] at hx
      rw [hx]
      exact ⟨_, (hargument _).mpr ⟨name, hname, text, htext, rfl⟩, hbinding⟩
  refine ⟨bindings, hbindings, fun binding hbinding => ((hiff _ _).mp hbinding).1, ?_⟩
  intro name hname
  apply lookup_eq_of_mem_iff
  intro value
  rw [List.mem_reverse, hiff, and_iff_right hname]

theorem foldlM_bindVariable (h : ∀ binding ∈ bindings, binding.1 ∈ formula.names) :
    bindings.foldlM bindVariable formula = .ok (formula.after bindings) := by
  induction bindings generalizing formula with
  | nil => rfl
  | cons binding bindings ih =>
    obtain ⟨hfirst, hrest⟩ := List.forall_mem_cons.mp h
    rw [List.foldlM_cons, bindVariable, Formula.attempt_eq_of_mem hfirst]
    apply ih
    rw [Formula.names_attempt]
    exact hrest

theorem evaluate_eq (hparse : Expr.parse (expressionBody expression) = .ok tree)
    (hbindings : ∀ binding ∈ bindings, binding.1 ∈ tree.names.eraseDups) :
    evaluate expression bindings =
      (tree.assign (Formula.lastValue? bindings)).evaluate.mapError
        fun name => .evaluate (.unsetVariable name) := by
  have hformula : Formula.parse (expressionBody expression) = .ok (.ofExpr tree) := by
    rw [Formula.parse, hparse]
    rfl
  rw [← Formula.names_ofExpr] at hbindings
  rw [evaluate, hformula]
  change (do
    let bound ← bindings.foldlM bindVariable (.ofExpr tree)
    bound.evaluate.mapError fun name => Failure.evaluate (.unsetVariable name)) = _
  rw [foldlM_bindVariable hbindings, Formula.after_ofExpr]
  rfl

end CommandLine

end Worksheet
