import Worksheet.Proofs.CommandLine.Evaluation
import Worksheet.Proofs.CommandLine.Report
import Worksheet.Proofs.Sheet.Resolution
import Worksheet.Proofs.Sheet.Shallow

namespace Worksheet.CommandLine

open Sheet

/-- The names that need values; an expression that is malformed has none. -/
def unknowns (expression : String) : List String :=
  match Formula.parse (expressionBody expression) with
  | .ok formula => formula.names
  | .error _ => []

inductive Agrees (expression : String) : Output → Option String → Except SheetError Unit → Prop
  | number (text : String) : Agrees expression ⟨0, text ++ "\n", ""⟩ (some text) (.ok ())
  | unset (name : String) :
    Agrees expression ⟨1, "", "Error: Failed to evaluate expression\n\nCaused by:\n" ++
      "    the variable \"" ++ name ++ "\" is not instantiated\n"⟩ (some "REF ERROR") (.ok ())
  | malformed (cause : ExpressionError) :
    Agrees expression ⟨1, "", "Error: Failed to parse '" ++ expression ++ "'\n\nCaused by:\n" ++
      "    " ++ cause.message ++ "\n"⟩ (some "REF ERROR") (.error (.expression cause))

variable {expression name : String} {sheet : Sheet} {source cell : Address} {tree : Expr}
  {chosen : String → Option String} {arguments : List String}

theorem expressionBody_eq (h : (Text.withoutBlanks expression.toList).head? ≠ some '=') :
    expressionBody expression = String.ofList (Text.withoutBlanks expression.toList) := by
  unfold expressionBody
  split
  · rename_i body hbody
    rw [hbody] at h
    exact absurd rfl h
  · rfl

theorem read_equals (h : (Text.withoutBlanks expression.toList).head? ≠ some '=') :
    sheet.read ("=" ++ expression) = sheet.readBody (expressionBody expression) := by
  rw [Sheet.read, Content.ofText_equals, expressionBody_eq h]

theorem oneLine_expressionBody (h : (Text.withoutBlanks expression.toList).head? ≠ some '=') :
    OneLine (expressionBody expression) := by
  rw [expressionBody_eq h, oneLine_ofList_iff]
  intro hc
  have hblank := (List.mem_filter.mp hc).2
  exact absurd hblank (by decide)

theorem oneLine_of_named? (h : (sheet.named? name).isSome) : OneLine name := by
  intro hc
  unfold named? at h
  cases hparse : Address.parse name with
  | error => simp [hparse] at h
  | ok address => exact absurd (Address.isAlphanum_of_parse hparse _ hc) (by decide)

theorem fail_unset (h : OneLine name) :
    fail (Failure.evaluate (.unsetVariable name)).messages =
      ⟨1, "", "Error: Failed to evaluate expression\n\nCaused by:\n" ++
        "    the variable \"" ++ name ++ "\" is not instantiated\n"⟩ := by
  have hline : OneLine (ExpressionError.unsetVariable name).message :=
    ExpressionError.oneLine_message h
  have hmessage : (ExpressionError.unsetVariable name).message =
      "the variable " ++ ("\"" ++ name ++ "\"") ++ " is not instantiated" := rfl
  rw [fail, Failure.messages, report_cause hline, hmessage]
  congr 1
  apply String.toList_inj.mp
  simp

theorem fail_malformed {cause : ExpressionError} (h : OneLine cause.message) :
    fail (Failure.parse expression cause).messages =
      ⟨1, "", "Error: Failed to parse '" ++ expression ++ "'\n\nCaused by:\n" ++
        "    " ++ cause.message ++ "\n"⟩ := by
  rw [fail, Failure.messages, report_cause h]
  congr 1
  apply String.toList_inj.mp
  simp

theorem exists_parse_eq_error (hequals : (Text.withoutBlanks expression.toList).head? ≠ some '=')
    (hoperator : ∃ c ∈ expression.toList, (Operator.ofSymbol? c).isSome) :
    ∃ cause, Address.parse (expressionBody expression) = .error cause := by
  obtain ⟨c, hc, hsymbol⟩ := hoperator
  have hblank : Text.isBlank c = false := by
    unfold Operator.ofSymbol? at hsymbol
    split at hsymbol
    · decide
    · decide
    · decide
    · decide
    · cases hsymbol
  cases hparse : Address.parse (expressionBody expression) with
  | error cause => exact ⟨cause, rfl⟩
  | ok address =>
    have hmem : c ∈ (expressionBody expression).toList := by
      rw [expressionBody_eq hequals, String.toList_ofList]
      exact List.mem_filter.mpr ⟨hc, by rw [hblank, Bool.not_false]⟩
    have halphanum := Address.isAlphanum_of_parse hparse c hmem
    rw [Operator.ofSymbol?_of_isAlphanum halphanum] at hsymbol
    cases hsymbol

theorem number?_eq_assigned (hname : sheet.named? name = some source)
    (hvalue : sheet.value? source = chosen name)
    (hchosen : ∀ text, chosen name = some text → (Decimal.ofText? text).isSome) :
    sheet.number? name = assigned chosen name := by
  rw [Sheet.number?, hname, Option.bind_some, hvalue, assigned]
  cases htext : chosen name with
  | none => rfl
  | some text =>
    obtain ⟨value, hread⟩ := Option.isSome_iff_exists.mp (hchosen text htext)
    have hne : text ≠ "REF ERROR" := by
      rintro rfl
      have hnone : Decimal.ofText? "REF ERROR" = none := by decide +kernel
      rw [hnone] at hread
      cases hread
    simp only [if_neg hne, hread, Option.getD_some, Option.bind_some]

theorem answer_readFormula (h : ∀ name ∈ tree.names, (sheet.named? name).isSome) :
    (sheet.readFormula (.ofExpr tree)).answer = .ok () := by
  have hspec := sheet.references_spec (.ofExpr tree)
  unfold readFormula
  cases hreferences : sheet.references (.ofExpr tree) with
  | error cause =>
    rw [hreferences] at hspec
    obtain ⟨name, hname, hnone⟩ := hspec
    rw [Formula.names_ofExpr, List.mem_eraseDups] at hname
    have hsome := h name hname
    rw [hnone] at hsome
    cases hsome
  | ok references =>
    simp only
    split <;> rfl

theorem eval_of_ok {bindings : List (String × Float)} {value : Float}
    (h : evaluate expression bindings = .ok value) :
    eval expression bindings = ⟨0, Decimal.format value ++ "\n", ""⟩ := by
  rw [eval, h]

theorem eval_of_error {bindings : List (String × Float)} {failure : Failure}
    (h : evaluate expression bindings = .error failure) :
    eval expression bindings = fail failure.messages := by
  rw [eval, h]

theorem agrees_readFormula {bindings : List (String × Float)}
    (hparse : Expr.parse (expressionBody expression) = .ok tree)
    (hbindings : ∀ binding ∈ bindings, binding.1 ∈ tree.names.eraseDups)
    (hnamed : ∀ name ∈ tree.names, (sheet.named? name).isSome)
    (hnumber : ∀ name ∈ tree.names, sheet.number? name = Formula.lastValue? bindings name) :
    Agrees expression (eval expression bindings) (sheet.readFormula (.ofExpr tree)).value
      (sheet.readFormula (.ofExpr tree)).answer := by
  have hunbound := Expr.unbound_of_parse hparse
  have hevaluate := evaluate_eq hparse hbindings
  have hunder : (tree.assign (Formula.lastValue? bindings)).evaluate.toOption =
      tree.valueUnder (Formula.lastValue? bindings) := Expr.evaluate_assign hunbound
  rw [answer_readFormula hnamed, readFormula_value sheet hunbound, Expr.valueUnder_congr hnumber,
    ← hunder]
  cases hunset : tree.names.find? fun name => (Formula.lastValue? bindings name).isNone with
  | none =>
    obtain ⟨value, -, hvalue⟩ := Expr.exists_of_find?_eq_none hunbound hunset
    rw [hvalue] at hevaluate ⊢
    rw [eval_of_ok hevaluate]
    exact .number (Decimal.format value)
  | some name =>
    rw [Expr.evaluate_assign_of_find? hunbound hunset] at hevaluate ⊢
    have hname := hnamed name (List.mem_of_find?_eq_some hunset)
    rw [eval_of_error hevaluate, fail_unset (oneLine_of_named? hname)]
    exact .unset name

theorem agrees_read (hequals : (Text.withoutBlanks expression.toList).head? ≠ some '=')
    (hoperator : ∃ c ∈ expression.toList, (Operator.ofSymbol? c).isSome)
    (hchosen : ∀ name ∈ unknowns expression, ∀ text, chosen name = some text →
      (Decimal.ofText? text).isSome)
    (harguments : arguments.Perm ((unknowns expression).filterMap fun name =>
      (chosen name).map fun text => name ++ "=" ++ text))
    (hsources : ∀ name ∈ unknowns expression, ∃ source, sheet.named? name = some source ∧
      sheet.value? source = chosen name) :
    ∃ bindings, arguments.mapM binding? = some bindings ∧
      Agrees expression (eval expression bindings) (sheet.read ("=" ++ expression)).value
        (sheet.read ("=" ++ expression)).answer := by
  rw [read_equals hequals, readBody]
  rw [unknowns] at hchosen harguments hsources
  cases hformula : Formula.parse (expressionBody expression) with
  | error cause =>
    simp only [hformula, List.filterMap_nil, List.perm_nil] at harguments
    obtain ⟨other, hother⟩ := exists_parse_eq_error hequals hoperator
    have hevaluate : evaluate expression [] = .error (.parse expression cause) := by
      rw [evaluate, hformula]
      rfl
    refine ⟨[], ?_, ?_⟩
    · rw [harguments]
      rfl
    · have hmessage : OneLine cause.message :=
        oneLine_of_parse (Formula.parse_eq_error_iff.mp hformula) (oneLine_expressionBody hequals)
      simp only [eval_of_error hevaluate, fail_malformed hmessage, readName, hother]
      exact .malformed cause
  | ok formula =>
    obtain ⟨tree, htree, rfl⟩ := Formula.exists_of_parse hformula
    simp only [hformula] at hchosen harguments hsources
    have hmem (name : String) : name ∈ (Formula.ofExpr tree).names ↔ name ∈ tree.names := by
      rw [Formula.names_ofExpr, List.mem_eraseDups]
    have hnamed : ∀ name ∈ (Formula.ofExpr tree).names, ∀ c ∈ name.toList, c.isAlphanum = true := by
      intro name hname
      obtain ⟨source, hsource, -⟩ := hsources name hname
      cases hparse : Address.parse name with
      | error => simp [named?, hparse] at hsource
      | ok address => exact Address.isAlphanum_of_parse hparse
    obtain ⟨bindings, hread, hbindings, hvalues⟩ := exists_bindings hnamed hchosen harguments
    refine ⟨bindings, hread, ?_⟩
    apply agrees_readFormula htree
    · rwa [Formula.names_ofExpr] at hbindings
    · intro name hname
      obtain ⟨source, hsource, -⟩ := hsources name ((hmem name).mpr hname)
      rw [hsource]
      rfl
    · intro name hname
      have hname' := (hmem name).mpr hname
      obtain ⟨source, hsource, hvalue⟩ := hsources name hname'
      rw [hvalues name hname']
      exact number?_eq_assigned hsource hvalue (hchosen name hname')

section Run

open Operation

variable {options : Options} {enumeration : Graph.Enumeration} {entered : Outcome Unit}
  {before after : List (Graph.Enumeration × Operation)} {text : String} {value : Float}

theorem ofText_number (h : Decimal.ofText? text = some value) :
    Content.ofText text = .literal text := by
  have hmark := Decimal.isMark_of_ofChars? h
  obtain ⟨c, rest, htext⟩ := List.exists_cons_of_ne_nil (Decimal.ne_nil_of_ofChars? h)
  have hempty : ¬ text.isEmpty = true := by
    intro hempty
    rw [String.isEmpty_iff.mp hempty] at htext
    cases htext
  have hstart : Text.trimStart text.toList = text.toList :=
    Text.trimStart_of_first fun c hc =>
      Decimal.isBlank_of_isMark (hmark c (List.mem_of_head? hc))
  have hne : c ≠ '=' := by
    apply Decimal.ne_equals_of_isMark
    apply hmark
    rw [htext]
    exact List.mem_cons_self
  rw [Content.ofText, if_neg hempty, hstart, htext]
  split
  · rename_i heq
    exact absurd (List.cons.inj heq).1 hne
  · rfl

theorem value?_supplied (hsettled : Settled sheet source)
    (htext : sheet.text? source = some ((chosen name).getD ""))
    (hchosen : ∀ text, chosen name = some text → (Decimal.ofText? text).isSome) :
    sheet.value? source = chosen name := by
  rw [Settled, reading, htext, Option.getD_some] at hsettled
  rw [hsettled]
  cases hname : chosen name with
  | none => rfl
  | some text =>
    obtain ⟨value, hvalue⟩ := Option.isSome_iff_exists.mp (hchosen text hname)
    rw [Option.getD_some, Sheet.read, ofText_number hvalue]

theorem isPlain_supplied
    (hchosen : ∀ text, chosen name = some text → (Decimal.ofText? text).isSome) :
    Content.isPlain ((chosen name).getD "") = true := by
  cases hname : chosen name with
  | none => rfl
  | some text =>
    obtain ⟨value, hvalue⟩ := Option.isSome_iff_exists.mp (hchosen text hname)
    rw [Option.getD_some, Content.isPlain, ofText_number hvalue]
    rfl

theorem result_entered (hnew : sheet.text? cell ≠ some text)
    (hwritten : (sheet.setTextBy enumeration cell text).sheet.text? cell = some text) :
    (sheet.setTextBy enumeration cell text).result = (sheet.read text).answer := by
  cases hcell : sheet.cell? cell with
  | none =>
    rw [text?_setTextBy, if_pos rfl, text?, hcell] at hwritten
    cases hwritten
  | some old =>
    rw [result_setTextBy hcell, if_neg]
    intro htext
    apply hnew
    rw [text?, hcell, Option.map_some, htext]

/--
The formula is entered where it does not stand yet, and stands there from then on, over cells that
have no formulas; in the end these have the chosen texts, or none. What is done before and after,
and in which order the texts are entered, makes no difference, nor does the order of the arguments.
-/
theorem agrees_run (hequals : (Text.withoutBlanks expression.toList).head? ≠ some '=')
    (hoperator : ∃ c ∈ expression.toList, (Operator.ofSymbol? c).isSome)
    (hchosen : ∀ name ∈ unknowns expression, ∀ text, chosen name = some text →
      (Decimal.ofText? text).isSome)
    (harguments : arguments.Perm ((unknowns expression).filterMap fun name =>
      (chosen name).map fun text => name ++ "=" ++ text))
    (hentered : entered =
      (runBy before (fresh options)).setTextBy enumeration cell ("=" ++ expression))
    (hnew : (runBy before (fresh options)).text? cell ≠ some ("=" ++ expression))
    (hshallow : ∀ first, first <+: after →
      Shallow (runBy first entered.sheet) cell ("=" ++ expression))
    (hsupplied : ∀ name ∈ unknowns expression,
      ((runBy after entered.sheet).named? name).bind (runBy after entered.sheet).text? =
        some ((chosen name).getD "")) :
    ∃ bindings, arguments.mapM binding? = some bindings ∧
      Agrees expression (eval expression bindings) ((runBy after entered.sheet).value? cell)
        entered.result := by
  subst hentered
  have hwired := wired_runBy (wired_fresh options) before
  obtain ⟨steps, hsteps⟩ : ∃ steps, runBy after ((runBy before (fresh options)).setTextBy
      enumeration cell ("=" ++ expression)).sheet = runBy steps (fresh options) := by
    refine ⟨before ++ (enumeration, .setText cell ("=" ++ expression)) :: after, ?_⟩
    rw [runBy_append]
    rfl
  have hsettled := settled_of_shallow hwired hnew hshallow
  have hwritten := (hshallow after (List.prefix_refl after)).written
  have hshape := (sameShape_setTextBy (runBy before (fresh options)) enumeration cell
    ("=" ++ expression)).trans (sameShape_runBy after _)
  have hresult := result_entered hnew (hshallow [] List.nil_prefix).written
  generalize runBy after _ = sheet at hsteps hsettled hwritten hshape hsupplied ⊢
  have hanswer : (sheet.read ("=" ++ expression)).answer =
      ((runBy before (fresh options)).setTextBy enumeration cell ("=" ++ expression)).result := by
    rw [hresult, Reading.answer, Reading.answer, error_read_congr hshape.rows hshape.columns]
  rw [Settled, reading, hwritten, Option.getD_some] at hsettled
  rw [hsettled, ← hanswer]
  apply agrees_read hequals hoperator hchosen harguments
  intro name hname
  obtain ⟨source, hsource, htext⟩ := Option.bind_eq_some_iff.mp (hsupplied name hname)
  refine ⟨source, hsource, value?_supplied ?_ htext (hchosen name hname)⟩
  rw [hsteps] at htext ⊢
  exact settled_of_isPlain steps options htext (isPlain_supplied (hchosen name hname))

def waiting : Outcome Unit :=
  (runBy [(.sorted, .setText ⟨0, 0⟩ "3")] (fresh ⟨2, 2, none⟩)).setText ⟨1, 1⟩ "=a1 * (B1+2)"

def unclosed : Outcome Unit := (runBy [] (fresh ⟨2, 2, none⟩)).setText ⟨1, 1⟩ "=(a1 *2"

theorem agrees_waiting :
    (∃ bindings, ["B1=-.5", "a1=3"].mapM binding? = some bindings ∧
      Agrees "a1 * (B1+2)" (eval "a1 * (B1+2)" bindings)
        ((runBy [(.sorted, .setText ⟨0, 1⟩ "-.5")] waiting.sheet).value? ⟨1, 1⟩) waiting.result) ∧
      (∃ bindings, ["a1=3"].mapM binding? = some bindings ∧
        Agrees "a1 * (B1+2)" (eval "a1 * (B1+2)" bindings) (waiting.sheet.value? ⟨1, 1⟩)
          waiting.result) ∧
      (∃ bindings, [].mapM binding? = some bindings ∧
        Agrees "(a1 *2" (eval "(a1 *2" bindings) (unclosed.sheet.value? ⟨1, 1⟩) unclosed.result) ∧
      ((runBy [(.sorted, .setText ⟨0, 1⟩ "-.5")] waiting.sheet).value? ⟨1, 1⟩ = some "4.5" ∧
        eval "a1 * (B1+2)" [("B1", -0.5), ("a1", 3)] = ⟨0, "4.5\n", ""⟩) ∧
      (waiting.sheet.value? ⟨1, 1⟩ = some "REF ERROR" ∧ waiting.result = .ok () ∧
        eval "a1 * (B1+2)" [("a1", 3)] =
          ⟨1, "", "Error: Failed to evaluate expression\n\nCaused by:\n" ++
            "    the variable \"B1\" is not instantiated\n"⟩) ∧
      unclosed.sheet.value? ⟨1, 1⟩ = some "REF ERROR" ∧
        unclosed.result = .error (.expression (.unbalanced "(a1*2" .opening)) ∧
        eval "(a1 *2" [] = ⟨1, "", "Error: Failed to parse '(a1 *2'\n\nCaused by:\n" ++
          "    the expression \"(a1*2\" has more '(' than ')' and is therefore invalid\n"⟩ := by
  have hunknowns : unknowns "a1 * (B1+2)" = ["a1", "B1"] := by decide +kernel
  have hchosen : ∀ name ∈ unknowns "a1 * (B1+2)", ∀ text,
      [("a1", "3"), ("B1", "-.5")].lookup name = some text → (Decimal.ofText? text).isSome := by
    intro name hname text htext
    rw [hunknowns, List.mem_pair] at hname
    rcases hname with rfl | rfl
    · obtain rfl : "3" = text := Option.some.inj htext
      decide +kernel
    · obtain rfl : "-.5" = text := Option.some.inj htext
      decide +kernel
  have hpartly : ∀ name ∈ unknowns "a1 * (B1+2)", ∀ text,
      [("a1", "3")].lookup name = some text → (Decimal.ofText? text).isSome := by
    intro name hname text htext
    rw [hunknowns, List.mem_pair] at hname
    rcases hname with rfl | rfl
    · obtain rfl : "3" = text := Option.some.inj htext
      decide +kernel
    · cases htext
  have hnothing : ∀ name ∈ unknowns "(a1 *2", ∀ text,
      ([] : List (String × String)).lookup name = some text → (Decimal.ofText? text).isSome := by
    intro name hname text htext
    cases htext
  have hshallow : ∀ first ∈ [(Graph.Enumeration.sorted, Operation.setText ⟨0, 1⟩ "-.5")].inits,
      Shallow (runBy first waiting.sheet) ⟨1, 1⟩ "=a1 * (B1+2)" := by decide +kernel
  have hpending : ∀ first ∈ ([] : List (Graph.Enumeration × Operation)).inits,
      Shallow (runBy first waiting.sheet) ⟨1, 1⟩ "=a1 * (B1+2)" := by decide +kernel
  have halone : ∀ first ∈ ([] : List (Graph.Enumeration × Operation)).inits,
      Shallow (runBy first unclosed.sheet) ⟨1, 1⟩ "=(a1 *2" := by decide +kernel
  refine ⟨?_, ?_, ?_, by decide +kernel, by decide +kernel, by decide +kernel⟩
  · exact agrees_run (by decide +kernel) ⟨'*', by decide +kernel, by decide⟩ hchosen
      (by decide +kernel) rfl (by decide +kernel)
      (fun first hfirst => hshallow first ((List.mem_inits _ _).mpr hfirst)) (by decide +kernel)
  · exact agrees_run (by decide +kernel) ⟨'*', by decide +kernel, by decide⟩ hpartly
      (by decide +kernel) rfl (by decide +kernel)
      (fun first hfirst => hpending first ((List.mem_inits _ _).mpr hfirst)) (by decide +kernel)
  · exact agrees_run (by decide +kernel) ⟨'*', by decide +kernel, by decide⟩ hnothing
      (by decide +kernel) rfl (by decide +kernel)
      (fun first hfirst => halone first ((List.mem_inits _ _).mpr hfirst)) (by decide +kernel)

end Run

end Worksheet.CommandLine
