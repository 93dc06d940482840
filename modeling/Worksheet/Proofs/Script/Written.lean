import Worksheet.Proofs.Address.Notation
import Worksheet.Proofs.Color.Codec
import Worksheet.Proofs.Script.Course
import Worksheet.Proofs.Text.Word

namespace Worksheet

open Text

theorem mapM_eq_ok_iff {ε α β : Type} {f : α → Except ε β} {list : List α} {results : List β} :
    list.mapM f = .ok results ↔ List.Forall₂ (fun a b => f a = .ok b) list results := by
  induction list generalizing results with
  | nil =>
    rw [List.mapM_nil, List.forall₂_nil_left_iff]
    change Except.ok [] = Except.ok results ↔ _
    rw [Except.ok.injEq, eq_comm]
  | cons a list ih =>
    rw [List.mapM_cons, List.forall₂_cons_left_iff]
    constructor
    · intro h
      obtain ⟨b, hb, h⟩ := bind_eq_ok_iff.mp h
      obtain ⟨rest, hrest, h⟩ := bind_eq_ok_iff.mp h
      exact ⟨b, rest, hb, ih.mp hrest, (Except.ok.inj h).symm⟩
    · rintro ⟨b, rest, hb, hrest, rfl⟩
      rw [hb, ih.mpr hrest]
      rfl

theorem Address.isWord_name (cell : Address) : IsWord cell.name.toList := by
  obtain ⟨first, rest, htext, -, -⟩ := (names_name cell).exists_cons
  have hne : cell.name.toList ≠ [] := htext ▸ List.cons_ne_nil first rest
  exact isWord_of_isAlphanum hne (names_name cell).isAlphanum

theorem Color.isAlphanum_of_isHexDigit {digit : Char} (h : IsHexDigit digit) :
    digit.isAlphanum = true := by
  rcases h with ⟨hlow, hhigh⟩ | ⟨hlow, hhigh⟩ | ⟨hlow, hhigh⟩
  · have hdigit : digit.isDigit = true := by
      rw [Char.isDigit, Bool.and_eq_true, decide_eq_true_eq, decide_eq_true_eq]
      exact ⟨hlow, hhigh⟩
    rw [Char.isAlphanum, hdigit, Bool.or_true]
  · have hupper : digit.isUpper = true := by
      have hlast : 'F' ≤ 'Z' := by decide
      rw [Char.isUpper, decide_eq_true_eq]
      exact ⟨hlow, Char.le_trans hhigh hlast⟩
    rw [Char.isAlphanum, Char.isAlpha, hupper, Bool.true_or, Bool.true_or]
  · have hlower : digit.isLower = true := by
      have hlast : 'f' ≤ 'z' := by decide
      rw [Char.isLower, Bool.and_eq_true, decide_eq_true_eq, decide_eq_true_eq]
      exact ⟨hlow, Char.le_trans hhigh hlast⟩
    rw [Char.isAlphanum, Char.isAlpha, hlower, Bool.or_true, Bool.true_or]

theorem Color.isWord_hex (color : Color) : IsWord color.hex.toList := by
  have hdigits := forall_isHexDigit_of_writes (writes_hexDigits color)
  rw [hex, String.toList_ofList]
  exact isWord_of_isAlphanum (List.cons_ne_nil _ _)
    fun c hc => isAlphanum_of_isHexDigit (hdigits c hc)

theorem Color.isWord_shown (color : Color) : IsWord color.shown.toList := by
  have hhex := (isWord_hex color).plain
  rw [hex, String.toList_ofList] at hhex
  rw [shown, String.toList_ofList]
  exact ⟨List.cons_ne_nil _ _, List.forall_mem_cons.mpr ⟨rfl, hhex⟩⟩

namespace Statement

variable {statement : Statement} {painted : Color} {cell : Address} {cells : List Address}
  {line before after keyword gap names rest : List Char} {shown : String}

/-- How a statement can be written; only an empty text needs no gap in front of it. -/
inductive Written : Statement → List Char → Prop
  | set {cell : Address} {text : String} {gap space : List Char} (hgap : Gap gap)
      (hspace : Blanks space) (hapart : space ≠ [] ∨ text = "") (htext : Trimmed text.toList) :
      Written (.set cell text) ("set".toList ++ gap ++ cell.name.toList ++ space ++ text.toList)
  | color {painted : Color} {cells : List Address} {gap names : List Char} {shown : String}
      (hgap : Gap gap) (hshown : shown = painted.hex ∨ shown = painted.shown)
      (hnames : Spaced (cells.map fun cell => cell.name.toList) names) (hne : cells ≠ []) :
      Written (.color painted cells) ("color".toList ++ gap ++ shown.toList ++ names)
  | undo : Written .undo "undo".toList
  | redo : Written .redo "redo".toList

theorem readAddress_name_eq_ok_iff : readAddress cell.name.toList = .ok cell ↔ cell.InLimits := by
  rw [readAddress, String.ofList_toList]
  constructor
  · intro h
    cases hparse : Address.parse cell.name with
    | error cause =>
      rw [hparse] at h
      cases h
    | ok found =>
      rw [hparse] at h
      obtain rfl : found = cell := Except.ok.inj h
      exact (Address.names_of_parse hparse).2
  · intro h
    rw [Address.parse_of_inLimits (Address.names_name cell) h]
    rfl

theorem mapM_readAddress_eq_ok_iff :
    (cells.map fun cell => cell.name.toList).mapM readAddress = .ok cells ↔
      ∀ cell ∈ cells, cell.InLimits := by
  rw [mapM_eq_ok_iff, List.forall₂_map_left_iff, List.forall₂_same]
  simp only [readAddress_name_eq_ok_iff]

theorem readColor_of_spells (h : Color.Spells shown painted) :
    readColor shown.toList = .ok painted := by
  rw [readColor, String.ofList_toList, Color.parse, Color.ofHex?_of_spells h]
  rfl

theorem splitWord_keyword (hkeyword : IsWord keyword) (hgap : Gap gap)
    (hrest : ∀ c ∈ rest.head?, isBlank c = false) :
    splitWord (keyword ++ (gap ++ rest)) = (keyword, rest) := by
  rw [splitWord_append hkeyword (hgap.first rest), trimStart_append hgap.blanks,
    trimStart_of_first hrest]

theorem parseSet_eq_ok_iff (hblank : ∀ c ∈ rest.head?, isBlank c = true) :
    parseSet (cell.name.toList ++ rest) = .ok (.set cell (String.ofList (trimStart rest))) ↔
      cell.InLimits := by
  have hname := Address.isWord_name cell
  have hsome : ¬ cell.name.toList.isEmpty = true := by simpa using hname.ne_nil
  rw [parseSet, splitWord_append hname hblank, ← readAddress_name_eq_ok_iff]
  simp only [if_neg hsome]
  constructor
  · intro h
    obtain ⟨found, hfound, h⟩ := bind_eq_ok_iff.mp h
    cases h
    exact hfound
  · intro h
    rw [h]
    rfl

theorem parseColor_eq_ok_iff (hshown : IsWord shown.toList) (hcolor : Color.Spells shown painted)
    (hnames : Spaced (cells.map fun cell => cell.name.toList) names) (hne : cells ≠ []) :
    parseColor (shown.toList ++ names) = .ok (.color painted cells) ↔
      ∀ cell ∈ cells, cell.InLimits := by
  rw [parseColor, splitWord_append hshown hnames.first, ← mapM_readAddress_eq_ok_iff]
  simp only [words_trimStart, words_of_spaced hnames, readColor_of_spells hcolor]
  constructor
  · intro h
    obtain ⟨same, hsame, h⟩ := bind_eq_ok_iff.mp h
    cases hsame
    obtain ⟨found, hfound, h⟩ := bind_eq_ok_iff.mp h
    split at h
    · cases h
    · cases h
      exact hfound
  · intro h
    have hsome : ¬ cells.isEmpty = true := by simpa using hne
    rw [h]
    change (if cells.isEmpty = true then _ else _) = _
    rw [if_neg hsome]
    rfl

theorem isWord_keyword : ∀ word ∈ ["set", "color", "undo", "redo"], IsWord word.toList := by
  have hplain : ∀ word ∈ ["set", "color", "undo", "redo"],
      word.toList ≠ [] ∧ word.toList.all Char.isAlphanum = true := by
    decide +kernel
  intro word hword
  obtain ⟨hne, hall⟩ := hplain word hword
  exact isWord_of_isAlphanum hne (List.all_eq_true.mp hall)

theorem parseWords_set (h : splitWord line = ("set".toList, rest)) :
    parseWords line = parseSet rest := by
  rw [parseWords, h]
  rfl

theorem parseWords_color (h : splitWord line = ("color".toList, rest)) :
    parseWords line = parseColor rest := by
  rw [parseWords, h]
  rfl

theorem parseLine_eq_ok_iff (hbefore : Blanks before) (htrimmed : Trimmed line)
    (hafter : Blanks after) (hfirst : ∃ c ∈ line.head?, c ≠ '#') :
    parseLine (before ++ line ++ after) = .ok (some statement) ↔
      parseWords line = .ok statement := by
  obtain ⟨c, hc, hne⟩ := hfirst
  rw [parseLine, trim_of_trimmed hbefore htrimmed hafter]
  split
  · cases hc
  · exact absurd (Option.some.inj hc).symm hne
  · cases parseWords line with
    | error error => simp [Except.map]
    | ok found => simp [Except.map]

theorem parseLine_set_iff (hbefore : Blanks before) (hgap : Gap gap)
    (hblank : ∀ c ∈ rest.head?, isBlank c = true)
    (hlast : ∀ c ∈ (cell.name.toList ++ rest).getLast?, isBlank c = false) (hafter : Blanks after) :
    parseLine (before ++ ("set".toList ++ (gap ++ (cell.name.toList ++ rest))) ++ after) =
        .ok (some (.set cell (String.ofList (trimStart rest)))) ↔ cell.InLimits := by
  have hkeyword := isWord_keyword "set" (by simp)
  have hname := Address.isWord_name cell
  have hne : cell.name.toList ++ rest ≠ [] := List.append_ne_nil_of_left_ne_nil hname.ne_nil rest
  have htrimmed : Trimmed ("set".toList ++ (gap ++ (cell.name.toList ++ rest))) :=
    hkeyword.trimmed_append (List.append_ne_nil_of_right_ne_nil gap hne)
      (last_append hne hlast gap)
  rw [parseLine_eq_ok_iff hbefore htrimmed hafter ⟨'s', rfl, by decide⟩,
    parseWords_set (splitWord_keyword hkeyword hgap (hname.first rest)),
    parseSet_eq_ok_iff hblank]

theorem parseLine_color_iff (hbefore : Blanks before) (hgap : Gap gap)
    (hshown : IsWord shown.toList) (hcolor : Color.Spells shown painted)
    (hnames : Spaced (cells.map fun cell => cell.name.toList) names) (hne : cells ≠ [])
    (hafter : Blanks after) :
    parseLine (before ++ ("color".toList ++ (gap ++ (shown.toList ++ names))) ++ after) =
      .ok (some (.color painted cells)) ↔ ∀ cell ∈ cells, cell.InLimits := by
  have hkeyword := isWord_keyword "color" (by simp)
  have hnonempty : names ≠ [] := hnames.ne_nil (by simpa using hne)
  have hrest : shown.toList ++ names ≠ [] := List.append_ne_nil_of_right_ne_nil _ hnonempty
  have htrimmed : Trimmed ("color".toList ++ (gap ++ (shown.toList ++ names))) :=
    hkeyword.trimmed_append (List.append_ne_nil_of_right_ne_nil gap hrest)
      (last_append hrest (last_append hnonempty hnames.last _) gap)
  rw [parseLine_eq_ok_iff hbefore htrimmed hafter ⟨'c', rfl, by decide⟩,
    parseWords_color (splitWord_keyword hkeyword hgap (hshown.first names)),
    parseColor_eq_ok_iff hshown hcolor hnames hne]

/-- Cells beyond the limits have names as well, but these are not read back. -/
theorem parseLine_eq_iff_inLimits (h : Written statement line) (hbefore : Blanks before)
    (hafter : Blanks after) :
    parseLine (before ++ line ++ after) = .ok (some statement) ↔
      ∀ cell ∈ statement.cells, cell.InLimits := by
  cases h with
  | @set cell text gap space hgap hspace hapart htext =>
    have hname := Address.isWord_name cell
    rw [cells, List.forall_mem_singleton]
    by_cases hempty : text = ""
    · subst hempty
      -- The blanks behind the name are then those at the end of the line.
      have hblanks : Blanks (space ++ after) := List.forall_mem_append.mpr ⟨hspace, hafter⟩
      have hblank : ∀ c ∈ ([] : List Char).head?, isBlank c = true := fun c hc => nomatch hc
      have hlast : ∀ c ∈ (cell.name.toList ++ []).getLast?, isBlank c = false := by
        rw [List.append_nil]
        exact hname.trimmed.last
      have hline := parseLine_set_iff hbefore hgap hblank hlast hblanks
      change _ = Except.ok (some (set cell "")) ↔ _ at hline
      simpa only [List.append_assoc, List.append_nil, String.toList_empty, List.nil_append]
        using hline
    · have htoList : text.toList ≠ [] := fun h => hempty (String.toList_eq_nil_iff.mp h)
      have hspace : Gap space := ⟨hapart.resolve_right hempty, hspace⟩
      have hlast := last_append (List.append_ne_nil_of_right_ne_nil space htoList)
        (last_append htoList htext.last space) cell.name.toList
      have hline := parseLine_set_iff hbefore hgap (hspace.first text.toList) hlast hafter
      rw [trimStart_append hspace.blanks, trimStart_of_first htext.first,
        String.ofList_toList] at hline
      simpa only [List.append_assoc] using hline
  | @color painted cells gap names shown hgap hshown hnames hne =>
    have hspells : IsWord shown.toList ∧ Color.Spells shown painted := by
      rcases hshown with rfl | rfl
      · exact ⟨Color.isWord_hex painted, Color.spells_hex painted⟩
      · exact ⟨Color.isWord_shown painted, Color.spells_shown painted⟩
    have hline := parseLine_color_iff hbefore hgap hspells.1 hspells.2 hnames hne hafter
    simpa only [Statement.cells, List.append_assoc] using hline
  | undo =>
    have hkeyword := isWord_keyword "undo" (by simp)
    rw [parseLine_eq_ok_iff hbefore hkeyword.trimmed hafter ⟨'u', rfl, by decide⟩]
    exact iff_of_true rfl (List.forall_mem_nil _)
  | redo =>
    have hkeyword := isWord_keyword "redo" (by simp)
    rw [parseLine_eq_ok_iff hbefore hkeyword.trimmed hafter ⟨'r', rfl, by decide⟩]
    exact iff_of_true rfl (List.forall_mem_nil _)

theorem parseLine_blanksInside :
    parseLine "\u2003set\tXFD1048576 \u00a0= A1\t #  x\n ".toList =
        .ok (some (.set ⟨1048575, 16383⟩ "= A1\t #  x")) ∧
      parseLine "color #80FF0000\u3000B2  A1".toList =
        .ok (some (.color ⟨128, 255, 0, 0⟩ [⟨1, 1⟩, ⟨0, 0⟩])) := by
  constructor
  · have hline : "\u2003set\tXFD1048576 \u00a0= A1\t #  x\n ".toList =
        ['\u2003'] ++ ("set".toList ++ ['\t'] ++ (Address.mk 1048575 16383).name.toList ++
          [' ', '\u00a0'] ++ "= A1\t #  x".toList) ++ ['\n', ' '] := by
      decide +kernel
    have hbefore : Blanks ['\u2003'] := List.all_eq_true.mp rfl
    have hgap : Gap ['\t'] := ⟨List.cons_ne_nil _ _, List.all_eq_true.mp rfl⟩
    have hspace : Gap [' ', '\u00a0'] := ⟨List.cons_ne_nil _ _, List.all_eq_true.mp rfl⟩
    have htext : Trimmed "= A1\t #  x".toList := ⟨by rintro _ ⟨⟩; rfl, by rintro _ ⟨⟩; rfl⟩
    have hafter : Blanks ['\n', ' '] := List.all_eq_true.mp rfl
    rw [hline]
    exact (parseLine_eq_iff_inLimits (.set hgap hspace.blanks (.inl hspace.ne_nil) htext)
      hbefore hafter).mpr (by decide)
  · have hline : "color #80FF0000\u3000B2  A1".toList =
        [] ++ ("color".toList ++ [' '] ++ (Color.mk 128 255 0 0).shown.toList ++
          (['\u3000'] ++ (Address.mk 1 1).name.toList ++
            ([' ', ' '] ++ (Address.mk 0 0).name.toList ++ []))) ++ [] := by
      decide +kernel
    have hgap : Gap [' '] := ⟨List.cons_ne_nil _ _, List.all_eq_true.mp rfl⟩
    have hwide : Gap ['\u3000'] := ⟨List.cons_ne_nil _ _, List.all_eq_true.mp rfl⟩
    have hdouble : Gap [' ', ' '] := ⟨List.cons_ne_nil _ _, List.all_eq_true.mp rfl⟩
    have hnames : Spaced ([⟨1, 1⟩, ⟨0, 0⟩].map fun cell : Address => cell.name.toList) _ :=
      .cons hwide (Address.isWord_name _) (.cons hdouble (Address.isWord_name _) .nil)
    rw [hline]
    exact (parseLine_eq_iff_inLimits (.color hgap (.inr rfl) hnames (List.cons_ne_nil _ _))
      (List.forall_mem_nil _) (List.forall_mem_nil _)).mpr (by decide)

end Statement

end Worksheet
