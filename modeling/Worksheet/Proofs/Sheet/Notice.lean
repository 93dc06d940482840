import Worksheet.Proofs.History.Coherence

/-!
Notices of change. An operation announces every property of a cell that it changes, and nothing
else, once each; so whoever reads just the announced properties again knows the whole sheet.
-/

namespace Worksheet

inductive Detail where
  | text (entered : Option String)
  | value (shown : Option String)
  | color (painted : Option Color)

namespace Sheet

variable {sheet before middle after : Sheet} {address : Address} {cell : Cell} {text : String}
  {queued first last : List Event} {event : Event} {enumeration : Graph.Enumeration}

def detail (sheet : Sheet) (event : Event) : Detail :=
  match event.property with
  | .text => .text (sheet.text? event.address)
  | .value => .value (sheet.value? event.address)
  | .color => .color (sheet.color? event.address)

structure Announced (before after : Sheet) (queued : List Event) : Prop where
  events : after.events.toList = before.events.toList ++ queued
  nodup : queued.Nodup
  mem : ∀ event, event ∈ queued ↔ after.detail event ≠ before.detail event

theorem announced_nil (hevents : after.events = before.events)
    (hdetail : ∀ event, after.detail event = before.detail event) : Announced before after [] := by
  refine ⟨?_, List.nodup_nil, fun event => ?_⟩
  · rw [hevents, List.append_nil]
  · simp [hdetail event]

theorem announced_refl (sheet : Sheet) : Announced sheet sheet [] :=
  announced_nil rfl fun _ => rfl

theorem announced_singleton (hevents : after.events = before.events.push event)
    (hself : after.detail event ≠ before.detail event)
    (hothers : ∀ other, other ≠ event → after.detail other = before.detail other) :
    Announced before after [event] := by
  refine ⟨?_, List.nodup_singleton event, fun other => ?_⟩
  · rw [hevents, Array.toList_push]
  · rw [List.mem_singleton]
    constructor
    · rintro rfl
      exact hself
    · intro hother
      by_contra hne
      exact hother (hothers other hne)

/-- What has been announced must not change again, or it would be announced twice. -/
theorem Announced.trans (h : Announced before middle first) (h' : Announced middle after last)
    (honce : ∀ event, middle.detail event ≠ before.detail event →
      after.detail event = middle.detail event) : Announced before after (first ++ last) := by
  refine ⟨?_, ?_, fun event => ?_⟩
  · rw [h'.events, h.events, List.append_assoc]
  · apply List.nodup_append'.mpr ⟨h.nodup, h'.nodup, _⟩
    intro event hfirst hlast
    exact (h'.mem event).mp hlast (honce event ((h.mem event).mp hfirst))
  · rw [List.mem_append, h.mem, h'.mem]
    by_cases hmiddle : middle.detail event = before.detail event
    · simp [hmiddle]
    · simp [hmiddle, honce event hmiddle]

theorem SameInput.detail_eq (h : SameInput before after)
    (hvalue : event.property = .value → after.value? event.address = before.value? event.address) :
    after.detail event = before.detail event := by
  unfold detail
  cases hproperty : event.property with
  | text => exact congrArg Detail.text (h.text _)
  | value => exact congrArg Detail.value (hvalue hproperty)
  | color => exact congrArg Detail.color (h.color _)

theorem SameContent.detail_eq (h : SameContent before after)
    (hcolor : event.property = .color → after.color? event.address = before.color? event.address) :
    after.detail event = before.detail event := by
  unfold detail
  cases hproperty : event.property with
  | text => exact congrArg Detail.text (h.text _)
  | value => exact congrArg Detail.value (h.value _)
  | color => exact congrArg Detail.color (hcolor hproperty)

theorem events_modifyCell (sheet : Sheet) (address : Address) (f : Cell → Cell) :
    (sheet.modifyCell address f).events = sheet.events := by
  unfold modifyCell
  split <;> rfl

theorem events_writeText (sheet : Sheet) (address : Address) (text : String) :
    (sheet.writeText address text).events = sheet.events.push ⟨address, .text⟩ :=
  congrArg (Array.push · _) (events_modifyCell _ _ _)

theorem events_writeValue (sheet : Sheet) (address : Address) (value : Option String) :
    (sheet.writeValue address value).events = sheet.events.push ⟨address, .value⟩ :=
  congrArg (Array.push · _) (events_modifyCell _ _ _)

theorem events_writeColor (sheet : Sheet) (address : Address) (color : Color) :
    (sheet.writeColor address color).events = sheet.events.push ⟨address, .color⟩ :=
  congrArg (Array.push · _) (events_modifyCell _ _ _)

theorem announced_writeText (hcell : sheet.cell? address = some cell) (htext : cell.text ≠ text) :
    Announced sheet (sheet.writeText address text) [⟨address, .text⟩] := by
  have hheld : sheet.text? address = some cell.text := by
    rw [text?, hcell]
    rfl
  apply announced_singleton (events_writeText sheet address text)
  · simpa [detail, text?_writeText hcell, hheld] using Ne.symm htext
  · rintro ⟨other, property⟩ hne
    cases property with
    | text =>
      have hother : address ≠ other := by
        rintro rfl
        exact hne rfl
      simp only [detail, text?_writeText hcell, if_neg hother]
    | value => simp only [detail, value?_writeText]
    | color => simp only [detail, color?_writeText]

theorem events_recompute (sheet : Sheet) (address : Address) :
    (sheet.recompute address).sheet.events =
      if (sheet.recompute address).changed then sheet.events.push ⟨address, .value⟩
      else sheet.events := by
  cases hcell : sheet.cell? address with
  | none =>
    rw [recompute_of_cell?_none hcell]
    rfl
  | some cell =>
    simp only [recompute, hcell]
    split
    · rfl
    · exact events_writeValue _ _ _

theorem detail_recompute_of_ne (sheet : Sheet) (address : Address)
    (hne : event ≠ ⟨address, .value⟩) :
    (sheet.recompute address).sheet.detail event = sheet.detail event := by
  apply (sameInput_recompute sheet address).detail_eq
  intro hproperty
  rw [value?_recompute, if_neg]
  rintro rfl
  apply hne
  rw [← hproperty]

theorem announced_recompute (sheet : Sheet) (address : Address) :
    ∃ queued, Announced sheet (sheet.recompute address).sheet queued := by
  have hevents := events_recompute sheet address
  by_cases hchanged : (sheet.recompute address).changed
  · rw [if_pos hchanged] at hevents
    refine ⟨_, announced_singleton hevents ?_ fun other hne => ?_⟩
    · rw [changed_recompute] at hchanged
      simpa [detail, value?_recompute] using hchanged
    · exact detail_recompute_of_ne sheet address hne
  · rw [if_neg hchanged] at hevents
    refine ⟨_, announced_nil hevents fun event => ?_⟩
    rw [changed_recompute, not_not] at hchanged
    apply (sameInput_recompute sheet address).detail_eq
    intro
    rw [value?_recompute]
    split
    · rename_i hself
      rw [hchanged, hself]
    · rfl

theorem announced_propagateStep (state : Sheet × AddressSet) (address : Address) :
    ∃ queued, Announced state.1 (propagateStep state address).1 queued := by
  unfold propagateStep
  split
  · exact announced_recompute state.1 address
  · exact ⟨[], announced_refl state.1⟩

theorem detail_foldl_propagateStep_of_not_mem (state : Sheet × AddressSet) {order : List Address}
    (h : event.address ∉ order) :
    (order.foldl propagateStep state).1.detail event = state.1.detail event :=
  (sameInput_foldl_propagateStep state order).detail_eq
    fun _ => value?_foldl_propagateStep state h

theorem announced_foldl_propagateStep (state : Sheet × AddressSet) {order : List Address}
    (hnodup : order.Nodup) :
    ∃ queued, Announced state.1 (order.foldl propagateStep state).1 queued := by
  induction order generalizing state with
  | nil => exact ⟨[], announced_refl state.1⟩
  | cons address order ih =>
    obtain ⟨hfresh, hnodup⟩ := List.nodup_cons.mp hnodup
    obtain ⟨first, hfirst⟩ := announced_propagateStep state address
    obtain ⟨last, hlast⟩ := ih (propagateStep state address) hnodup
    refine ⟨first ++ last, hfirst.trans hlast fun event hevent => ?_⟩
    rw [List.foldl_cons]
    apply detail_foldl_propagateStep_of_not_mem
    intro hmem
    apply hevent
    -- The step only touches the cell at the head, which comes up once.
    apply (sameInput_propagateStep state address).detail_eq
    intro
    apply value?_propagateStep
    rintro rfl
    exact hfresh hmem

theorem announced_refresh (h : Wired (sheet.recompute address).sheet)
    (enumeration : Graph.Enumeration) :
    ∃ queued, Announced sheet (sheet.refresh enumeration address) queued := by
  obtain ⟨hself, hnodup⟩ := List.nodup_cons.mp (nodup_visited h enumeration)
  obtain ⟨first, hfirst⟩ := announced_recompute sheet address
  obtain ⟨last, hlast⟩ := announced_foldl_propagateStep (sheet.started address) hnodup
  refine ⟨first ++ last, hfirst.trans hlast fun event hevent => ?_⟩
  apply detail_foldl_propagateStep_of_not_mem
  intro hmem
  apply hevent
  apply detail_recompute_of_ne
  rintro rfl
  exact hself hmem

theorem announced_setTextBy (h : Wired sheet) (enumeration : Graph.Enumeration)
    (address : Address) (text : String) :
    ∃ queued, Announced sheet (sheet.setTextBy enumeration address text).sheet queued := by
  rcases sheet.setTextBy_sheet_cases enumeration address text with
    ⟨-, hsheet⟩ | ⟨cell, hcell, htext, hsheet⟩
  · rw [hsheet]
    exact ⟨[], announced_refl sheet⟩
  · rw [hsheet]
    obtain ⟨last, hlast⟩ :=
      announced_refresh (wired_recompute_writeText h hcell text) enumeration
    have hfirst := announced_writeText hcell htext
    refine ⟨_, hfirst.trans hlast fun event hevent => ?_⟩
    obtain rfl := List.mem_singleton.mp ((hfirst.mem event).mpr hevent)
    apply (sameInput_refresh _ enumeration address).detail_eq
    exact nofun

theorem color?_eq_map_snapshot (sheet : Sheet) (address : Address) :
    sheet.color? address = (sheet.snapshot address).map Prod.snd := by
  rw [snapshot, Option.map_map]
  rfl

theorem color?_paint (color : Color) (sheet : Sheet) (address other : Address) :
    (sheet.paint color address).color? other =
      if address = other then (sheet.color? other).map fun _ => color else sheet.color? other := by
  rw [color?_eq_map_snapshot, color?_eq_map_snapshot, snapshot_paint, Command.applyTo]
  simp only [Command.cells, List.mem_singleton, eq_comm (a := other)]
  split <;> cases sheet.snapshot other <;> rfl

theorem detail_paint_of_ne (color : Color) (sheet : Sheet) (address : Address)
    (hne : event ≠ ⟨address, .color⟩) :
    (sheet.paint color address).detail event = sheet.detail event := by
  apply (sameContent_paint color sheet address).detail_eq
  intro hproperty
  rw [color?_paint, if_neg]
  rintro rfl
  apply hne
  rw [← hproperty]

theorem announced_paint (color : Color) (sheet : Sheet) (address : Address) :
    ∃ queued, Announced sheet (sheet.paint color address) queued := by
  by_cases hsame : (sheet.color? address).map (fun _ => color) = sheet.color? address
  · have hpaint : sheet.paint color address = sheet := by
      unfold paint
      cases hcell : sheet.cell? address with
      | none => rfl
      | some cell =>
        have hcolor : color = cell.color := by simpa [color?, hcell] using hsame
        simp [hcolor]
    rw [hpaint]
    exact ⟨[], announced_refl sheet⟩
  · have hevents : (sheet.paint color address).events = sheet.events.push ⟨address, .color⟩ := by
      unfold paint
      cases hcell : sheet.cell? address with
      | none => simp [color?, hcell] at hsame
      | some cell =>
        have hcolor : cell.color ≠ color := by simpa [color?, hcell, eq_comm] using hsame
        simp only [if_neg hcolor, events_writeColor]
    refine ⟨_, announced_singleton hevents ?_ fun other hne => ?_⟩
    · simpa [detail, color?_paint] using hsame
    · exact detail_paint_of_ne color sheet address hne

theorem color?_foldl_paint {color : Color} (h : sheet.color? address = some color)
    (cells : List Address) : (cells.foldl (paint color) sheet).color? address = some color := by
  induction cells generalizing sheet with
  | nil => exact h
  | cons other cells ih =>
    apply ih
    rw [color?_paint, h, Option.map_some, ite_self]

theorem announced_foldl_paint (color : Color) (sheet : Sheet) (cells : List Address) :
    ∃ queued, Announced sheet (cells.foldl (paint color) sheet) queued := by
  induction cells generalizing sheet with
  | nil => exact ⟨[], announced_refl sheet⟩
  | cons address cells ih =>
    obtain ⟨first, hfirst⟩ := announced_paint color sheet address
    obtain ⟨last, hlast⟩ := ih (sheet.paint color address)
    refine ⟨first ++ last, hfirst.trans hlast fun event hevent => ?_⟩
    rw [List.foldl_cons]
    apply (sameContent_foldl_paint color _ cells).detail_eq
    intro
    -- A cell that comes up again has the color already.
    have hself : event = ⟨address, .color⟩ := by
      by_contra hne
      exact hevent (detail_paint_of_ne color sheet address hne)
    subst hself
    cases hcolor : sheet.color? address with
    | none => simp [detail, color?_paint, hcolor] at hevent
    | some old =>
      have hpainted : (sheet.paint color address).color? address = some color := by
        rw [color?_paint, if_pos rfl, hcolor, Option.map_some]
      rw [hpainted, color?_foldl_paint hpainted]

end Sheet

open Sheet

theorem Operation.announced_performBy {sheet : Sheet} (h : Wired sheet) (operation : Operation)
    (enumeration : Graph.Enumeration) :
    ∃ queued, Announced sheet (operation.performBy enumeration sheet).sheet queued := by
  have hresult := operation.result_performBy enumeration sheet
  generalize (operation.performBy enumeration sheet).sheet = after at hresult ⊢
  cases hresult with
  | colored history cells color =>
    obtain ⟨queued, hqueued⟩ := announced_foldl_paint color { sheet with history } cells
    exact ⟨queued, hqueued.events, hqueued.nodup, hqueued.mem⟩
  | entered history address text =>
    obtain ⟨queued, hqueued⟩ := announced_setTextBy
      ((sameContent_withHistory sheet history).wired h) enumeration address text
    exact ⟨queued, hqueued.events, hqueued.nodup, hqueued.mem⟩

abbrev View := Event → Detail

namespace View

def reread (sheet : Sheet) (view : View) (event : Event) : View :=
  Function.update view event (sheet.detail event)

def after (view : View) (step : Step) (sheet : Sheet) : View :=
  match step with
  | .perform _ _ => view
  | .takeEvents => sheet.takeEvents.1.foldl (reread sheet) view

def follow (view : View) : List Step → Sheet → View
  | [], _ => view
  | step :: steps, sheet => (view.after step sheet).follow steps (step.next sheet)

variable {view : View} {sheet : Sheet}

theorem foldl_reread (view : View) (sheet : Sheet) (events : List Event) (event : Event) :
    events.foldl (reread sheet) view event =
      if event ∈ events then sheet.detail event else view event := by
  induction events generalizing view with
  | nil => rfl
  | cons other events ih =>
    rw [List.foldl_cons, ih]
    simp only [List.mem_cons, reread, Function.update_apply]
    by_cases hself : event = other
    · subst other
      simp
    · simp only [hself, false_or, ↓reduceIte]

def Current (view : View) (sheet : Sheet) : Prop :=
  ∀ event, event ∉ sheet.events.toList → view event = sheet.detail event

theorem current_detail (sheet : Sheet) : Current sheet.detail sheet := fun _ _ => rfl

theorem Current.eq_detail_of_nil (h : Current view sheet) (hevents : sheet.events = #[]) :
    view = sheet.detail := by
  funext event
  apply h
  rw [hevents]
  exact List.not_mem_nil

theorem Current.after (h : Current view sheet) (hwired : Wired sheet) (step : Step) :
    Current (view.after step sheet) (step.next sheet) := by
  intro event hevent
  cases step with
  | perform enumeration operation =>
    obtain ⟨queued, hqueued⟩ := operation.announced_performBy hwired enumeration
    rw [Step.next, hqueued.events, List.mem_append, not_or, hqueued.mem, not_not] at hevent
    calc view event = sheet.detail event := h event hevent.1
      _ = (operation.performBy enumeration sheet).sheet.detail event := hevent.2.symm
  | takeEvents =>
    calc sheet.events.toList.foldl (reread sheet) view event
        = if event ∈ sheet.events.toList then sheet.detail event else view event :=
          foldl_reread view sheet _ event
      _ = sheet.detail event := by
          split
          · rfl
          · exact h event ‹_›

theorem Current.follow (h : Current view sheet) (hcoherent : Coherent sheet) (steps : List Step) :
    Current (view.follow steps sheet) (Step.run steps sheet) := by
  induction steps generalizing view sheet with
  | nil => exact h
  | cons step steps ih =>
    apply ih (h.after hcoherent.wired step)
    cases step with
    | perform enumeration operation => exact hcoherent.performBy operation enumeration
    | takeEvents => exact hcoherent.takeEvents

end View

structure Telling (sheet : Sheet) : Prop where
  announced : ∀ (operation : Operation) (enumeration : Graph.Enumeration),
    ∃ queued, Announced sheet (operation.performBy enumeration sheet).sheet queued
  follow : ∀ steps : List Step,
    View.follow sheet.detail (steps ++ [.takeEvents]) sheet = (Step.run steps sheet).detail

theorem telling_run (steps : List Step) (options : Options) :
    Telling (Step.run steps (fresh options)) := by
  have h := coherent_run steps options
  generalize Step.run steps (fresh options) = sheet at h ⊢
  constructor
  · exact fun operation enumeration => operation.announced_performBy h.wired enumeration
  · intro later
    have hcurrent := (View.current_detail sheet).follow h (later ++ [.takeEvents])
    rw [Step.run_concat] at hcurrent
    exact hcurrent.eq_detail_of_nil rfl

end Worksheet
