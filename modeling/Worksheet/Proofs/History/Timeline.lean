import Worksheet.Sheet.Operation

namespace Worksheet

abbrev Snapshot := Address → Option (String × Color)

namespace Command

variable {command : Command} {present earlier : Snapshot} {address : Address}

def rewrite : Command → String × Color → String × Color
  | text _ entered, old => (entered, old.2)
  | color _ painted, old => (old.1, painted)

def applyTo (command : Command) (present : Snapshot) : Snapshot := fun address =>
  if address ∈ command.cells then (present address).map command.rewrite else present address

theorem applyTo_eq_self_iff : command.applyTo present = present ↔
    ∀ address ∈ command.cells, (present address).map command.rewrite = present address := by
  constructor
  · intro h address hmem
    have haddress := congrFun h address
    rwa [applyTo, if_pos hmem] at haddress
  · intro h
    funext address
    rw [applyTo]
    split
    · exact h address ‹_›
    · rfl

def Fits (command : Command) (present : Snapshot) : Prop :=
  ∀ address ∈ command.cells, (present address).isSome

def Changes (command : Command) (present : Snapshot) : Prop :=
  command.Fits present ∧ command.applyTo present ≠ present

instance (command : Command) (present : Snapshot) : Decidable (command.Fits present) :=
  inferInstanceAs (Decidable (∀ address ∈ command.cells, _))

instance (command : Command) (present : Snapshot) : Decidable (command.Changes present) :=
  have := decidable_of_iff' _ (@applyTo_eq_self_iff command present)
  inferInstanceAs (Decidable (_ ∧ _))

def Uniform (command : Command) (present : Snapshot) : Prop :=
  match command with
  | text _ _ => True
  | color cells _ => ∃ old, ∀ address ∈ cells, (present address).map Prod.snd = some old

def inverseAt (command : Command) (present : Snapshot) : Command :=
  match command with
  | text address entered => text address (((present address).map Prod.fst).getD entered)
  | color [] painted => color [] painted
  | color (first :: rest) painted =>
    color (first :: rest) (((present first).map Prod.snd).getD painted)

@[simp]
theorem cells_inverseAt (command : Command) (present : Snapshot) :
    (command.inverseAt present).cells = command.cells := by
  match command with
  | text _ _ => rfl
  | color [] _ => rfl
  | color (_ :: _) _ => rfl

theorem isSome_applyTo (command : Command) (present : Snapshot) (address : Address) :
    (command.applyTo present address).isSome = (present address).isSome := by
  rw [applyTo]
  split
  · rw [Option.isSome_map]
  · rfl

theorem applyTo_color_cons (cell : Address) (others : List Address) (painted : Color)
    (present : Snapshot) :
    (color others painted).applyTo ((color [cell] painted).applyTo present) =
      (color (cell :: others) painted).applyTo present := by
  funext address
  simp only [applyTo, cells, List.mem_cons, List.not_mem_nil, or_false]
  by_cases hcell : address = cell
  · have heither : address = cell ∨ address ∈ others := .inl hcell
    rw [if_pos hcell, if_pos heither]
    split <;> cases present address <;> rfl
  · simp only [hcell, false_or, ↓reduceIte]
    rfl

theorem inverseAt_inverseAt (h : command.Fits present) :
    (command.inverseAt present).inverseAt (command.applyTo present) = command := by
  match command with
  | text address entered =>
    obtain ⟨old, hold⟩ := Option.isSome_iff_exists.mp (h address (List.mem_singleton_self address))
    simp [inverseAt, applyTo, cells, rewrite, hold]
  | color [] painted => rfl
  | color (first :: rest) painted =>
    obtain ⟨old, hold⟩ := Option.isSome_iff_exists.mp (h first List.mem_cons_self)
    simp [inverseAt, applyTo, cells, rewrite, hold]

theorem applyTo_inverseAt (h : command.Fits present) (huniform : command.Uniform present) :
    (command.inverseAt present).applyTo (command.applyTo present) = present := by
  funext address
  rw [applyTo, cells_inverseAt, applyTo]
  by_cases hmem : address ∈ command.cells
  · rw [if_pos hmem, if_pos hmem]
    obtain ⟨old, hold⟩ := Option.isSome_iff_exists.mp (h address hmem)
    match command with
    | text entry entered =>
      obtain rfl := List.mem_singleton.mp hmem
      simp [inverseAt, rewrite, hold]
    | color (first :: rest) painted =>
      obtain ⟨one, hone⟩ := huniform
      have hfirst := hone first List.mem_cons_self
      have hsame := hone address hmem
      rw [hold, Option.map_some, Option.some.injEq] at hsame
      simp [inverseAt, rewrite, hold, hfirst, ← hsame]
  · rw [if_neg hmem, if_neg hmem]

structure Links (command : Command) (present earlier : Snapshot) : Prop where
  fits : command.Fits present
  forth : command.applyTo present = earlier
  back : (command.inverseAt present).applyTo earlier = present

theorem links_applyTo (h : command.Fits present) (huniform : command.Uniform present) :
    command.Links present (command.applyTo present) :=
  ⟨h, rfl, applyTo_inverseAt h huniform⟩

theorem Links.symm (h : command.Links present earlier) :
    (command.inverseAt present).Links earlier present := by
  obtain ⟨hfits, rfl, hback⟩ := h
  refine ⟨fun address hmem => ?_, hback, ?_⟩
  · rw [isSome_applyTo]
    exact hfits address (by rwa [cells_inverseAt] at hmem)
  · rw [inverseAt_inverseAt hfits]

def Trace : Snapshot → List Command → List Snapshot → Prop
  | _, [], [] => True
  | present, command :: commands, moment :: moments =>
    command.Links present moment ∧ Trace moment commands moments
  | _, _, _ => False

theorem trace_nil_right {commands : List Command} (h : Trace present commands []) :
    commands = [] := by
  cases commands with
  | nil => rfl
  | cons command commands => exact h.elim

theorem trace_cons_right {commands : List Command} {moments : List Snapshot}
    (h : Trace present commands (earlier :: moments)) :
    ∃ command rest, commands = command :: rest ∧ command.Links present earlier ∧
      Trace earlier rest moments := by
  cases commands with
  | nil => exact h.elim
  | cons command rest => exact ⟨command, rest, rfl, h⟩

theorem Trace.length_eq {commands : List Command} {moments : List Snapshot}
    (h : Trace present commands moments) : commands.length = moments.length := by
  fun_induction Trace present commands moments with
  | case1 => rfl
  | case2 _ _ _ _ _ ih => rw [List.length_cons, List.length_cons, ih h.2]
  | case3 => exact h.elim

theorem Trace.take {commands : List Command} {moments : List Snapshot}
    (h : Trace present commands moments) (n : Nat) :
    Trace present (commands.take n) (moments.take n) := by
  induction n generalizing present commands moments with
  | zero => trivial
  | succ n ih =>
    match commands, moments, h with
    | [], [], _ => trivial
    | _ :: _, _ :: _, h => exact ⟨h.1, ih h.2⟩

end Command

inductive Action where
  | edit (command : Command)
  | undo
  | redo
deriving DecidableEq, Repr

/-- The newest moment of the past and the next one of the future come first. -/
structure Timeline where
  past : List Snapshot
  present : Snapshot
  future : List Snapshot
  limit : Option Nat

def Action.operation : Action → Operation
  | .edit (.text cell text) => .editText cell text
  | .edit (.color cells color) => .editColor cells color
  | .undo => .undo
  | .redo => .redo

namespace Timeline

def start (present : Snapshot) (limit : Option Nat) : Timeline := ⟨[], present, [], limit⟩

def latest (limit : Option Nat) (moments : List Snapshot) : List Snapshot :=
  match limit with
  | none => moments
  | some limit => moments.take limit

theorem trace_latest {present : Snapshot} {commands : List Command} {moments : List Snapshot}
    (h : Command.Trace present commands moments) (limit : Option Nat) :
    Command.Trace present (History.keep limit commands) (latest limit moments) := by
  cases limit with
  | none => exact h
  | some limit => exact h.take limit

def edit (timeline : Timeline) (command : Command) : Timeline :=
  if command.Changes timeline.present then
    { timeline with
      past := latest timeline.limit (timeline.present :: timeline.past)
      present := command.applyTo timeline.present
      future := [] }
  else timeline

def undo (timeline : Timeline) : Timeline :=
  match timeline.past with
  | [] => timeline
  | moment :: past =>
    { timeline with past, present := moment, future := timeline.present :: timeline.future }

def redo (timeline : Timeline) : Timeline :=
  match timeline.future with
  | [] => timeline
  | moment :: future =>
    { timeline with past := timeline.present :: timeline.past, present := moment, future }

def perform (timeline : Timeline) : Action → Timeline
  | .edit command => timeline.edit command
  | .undo => timeline.undo
  | .redo => timeline.redo

def run (actions : List Action) (timeline : Timeline) : Timeline := actions.foldl perform timeline

end Timeline

end Worksheet
