import Mathlib.Data.List.Basic
import Mathlib.Data.List.Induction
import TextDesk.Proofs.Dialogue

/-! # Dialogues over any events

A dialogue reads one event after the other, and what an event does depends on what it is delivered to: a
command line is wanted, or a line of a text area.  A text area that is open is the one that an earlier input
command wants, and all that has happened since is that lines were gathered; so an event that breaks it off
leaves the dialogue as it was before that command.  Main statement: `course_of_events`.
-/

namespace TextDesk

/-- Whether an effect is a read. -/
def Effect.isRead : Effect → Bool
  | .readCommand _ | .readArea _ => true
  | _ => false

/-- The line that an effect adds to the history. -/
def Effect.remembered? : Effect → Option String
  | .remember line => some line
  | _ => none

/-- The failure of a text area that an event breaks off.  A line does not break it off. -/
def Event.areaFailure? : Event → Option Failure
  | .line _ => none
  | .interrupt => some cancelledArea
  | .eof => some cutOffArea
  | .broken failure => some failure

/-- A read: the dialogue before it and the event that it delivers. -/
structure Delivery where
  dialogue : Dialogue
  event : Event

namespace Delivery

/-- The read of a delivery, with the prompt that the settings have for it. -/
def read (settings : DialogueSettings) (x : Delivery) : Effect :=
  match x.dialogue.mode with
  | .area .. => .readArea settings.continuationPrompt
  | _ => .readCommand settings.prompt

/-- The line of a delivery that belongs to the history: a command line that is not blank. -/
def remembered? (x : Delivery) : Option String :=
  match x.dialogue.mode, x.event with
  | .command, .line line => if isBlankLine line then none else some line
  | _, _ => none

end Delivery

namespace Dialogue

variable {d : Dialogue} {event : Event} {effects : List Effect}

/-- The reads of a dialogue on some events, as long as it is not over. -/
def deliveries (d : Dialogue) : List Event → List Delivery
  | [] => []
  | event :: events =>
    match d.mode with
    | .closed _ => []
    | _ => ⟨d, event⟩ :: (d.step event).1.deliveries events

/-- The dialogue is not over. -/
def IsOpen (d : Dialogue) : Prop :=
  ∀ result, d.mode ≠ .closed result

/-- The dialogue `d` is in the text area `name`, which the last of the given deliveries but for some lines has
opened, and `lines` are those lines. -/
def InAreaSince (past : List Delivery) (d : Dialogue) (name : String) (lines : List String)
    (opening : Dialogue) : Prop :=
  ∃ earlier line gathered, past = earlier ++ ⟨opening, .line line⟩ :: gathered
    ∧ opening.mode = .command ∧ Instruction.ofLine line = .obey (.input name none)
    ∧ gathered.map Delivery.event = lines.map .line
    ∧ d = { opening with mode := .area name lines }

/-! ## What an event answers -/

/-- Effects that neither read nor add to the history. -/
def Quiet (effects : List Effect) : Prop :=
  ∀ effect ∈ effects, effect.isRead = false ∧ effect.remembered? = none

theorem Quiet.filter_isRead (h : Quiet effects) : effects.filter Effect.isRead = [] := by
  apply List.filter_eq_nil_iff.2
  intro effect heffect
  rw [(h effect heffect).1]
  decide

theorem Quiet.filterMap_remembered? (h : Quiet effects) :
    effects.filterMap Effect.remembered? = [] := by
  apply List.filterMap_eq_nil_iff.2
  intro effect heffect
  exact (h effect heffect).2

theorem quiet_nil : Quiet [] := by
  intro effect heffect
  cases heffect

theorem quiet_print (text : String) : Quiet [.print text] := by
  intro effect heffect
  obtain rfl := List.mem_singleton.1 heffect
  exact ⟨rfl, rfl⟩

theorem quiet_complain (d : Dialogue) (failure : Failure) : Quiet (d.complain failure).2 := by
  intro effect heffect
  obtain rfl := List.mem_singleton.1 heffect
  exact ⟨rfl, rfl⟩

theorem quiet_obey (d : Dialogue) (c : Command) : Quiet (d.obey c).2 := by
  unfold obey
  cases d.store.obey c with
  | error failure => exact quiet_complain d failure
  | ok result =>
    rcases result with ⟨reply, store⟩
    cases reply with
    | done => exact quiet_nil
    | listing texts => exact quiet_print _
    | wantsArea name existing => exact quiet_print _

theorem quiet_answer (d : Dialogue) (line : String) : Quiet (d.answer line).2 := by
  unfold answer
  cases Instruction.ofLine line with
  | nothing => exact quiet_nil
  | quit => exact quiet_print _
  | reject failure => exact quiet_complain d failure
  | obey c => exact quiet_obey d c

theorem quiet_onArea (d : Dialogue) (name : String) (lines : List String) (event : Event) :
    Quiet (d.onArea name lines event).2 := by
  cases event with
  | line line =>
    unfold onArea
    dsimp only
    split
    · exact quiet_nil
    · exact quiet_nil
  | interrupt => exact quiet_complain d _
  | eof => exact quiet_complain d _
  | broken failure => exact quiet_complain d _

/-- What an open dialogue answers: it reads once, and only a command line goes to the history. -/
theorem snd_step_of_isOpen (hopen : d.IsOpen) (event : Event) :
    ∃ answers, Quiet answers ∧ (d.step event).2
      = Delivery.read d.settings ⟨d, event⟩
        :: ((Delivery.remembered? ⟨d, event⟩).toList.map .remember ++ answers) := by
  unfold step Delivery.read Delivery.remembered?
  cases hmode : d.mode with
  | closed result => exact absurd hmode (hopen result)
  | area name lines => exact ⟨_, quiet_onArea d name lines event, rfl⟩
  | command =>
    cases event with
    | line line =>
      unfold onCommand
      dsimp only
      by_cases hblank : isBlankLine line = true
      · rw [if_pos hblank, if_pos hblank]
        exact ⟨[], quiet_nil, rfl⟩
      · rw [if_neg hblank, if_neg hblank]
        exact ⟨_, quiet_answer d line, rfl⟩
    | interrupt => exact ⟨_, quiet_print _, rfl⟩
    | eof => exact ⟨_, quiet_print _, rfl⟩
    | broken failure => exact ⟨[], quiet_nil, rfl⟩

theorem filter_isRead_step (hopen : d.IsOpen) (event : Event) :
    (d.step event).2.filter Effect.isRead = [Delivery.read d.settings ⟨d, event⟩] := by
  obtain ⟨answers, hquiet, heffects⟩ := snd_step_of_isOpen hopen event
  have hread : (Delivery.read d.settings ⟨d, event⟩).isRead = true := by
    unfold Delivery.read
    split <;> rfl
  have hremember : ((Delivery.remembered? ⟨d, event⟩).toList.map Effect.remember).filter
      Effect.isRead = [] := by
    cases Delivery.remembered? ⟨d, event⟩ <;> rfl
  rw [heffects, List.filter_cons_of_pos hread, List.filter_append, hremember, hquiet.filter_isRead]
  rfl

theorem filterMap_remembered?_step (hopen : d.IsOpen) (event : Event) :
    (d.step event).2.filterMap Effect.remembered?
      = (Delivery.remembered? ⟨d, event⟩).toList := by
  obtain ⟨answers, hquiet, heffects⟩ := snd_step_of_isOpen hopen event
  have hread : (Delivery.read d.settings ⟨d, event⟩).remembered? = none := by
    unfold Delivery.read
    split <;> rfl
  have hremember : ((Delivery.remembered? ⟨d, event⟩).toList.map Effect.remember).filterMap
      Effect.remembered? = (Delivery.remembered? ⟨d, event⟩).toList := by
    cases Delivery.remembered? ⟨d, event⟩ <;> rfl
  rw [heffects, List.filterMap_cons_none hread, List.filterMap_append, hremember,
    hquiet.filterMap_remembered?, List.append_nil]

/-- What breaks off a text area is only reported. -/
theorem step_of_areaFailure? {name : String} {lines : List String} {failure : Failure}
    (hmode : d.mode = .area name lines) (hevent : event.areaFailure? = some failure) :
    d.step event
      = (d.toCommand, [.readArea d.settings.continuationPrompt, .complain failure.report]) := by
  unfold step
  rw [hmode]
  cases event with
  | line line => cases hevent
  | interrupt =>
    obtain rfl := Option.some.inj hevent
    rfl
  | eof =>
    obtain rfl := Option.some.inj hevent
    rfl
  | broken reason =>
    obtain rfl := Option.some.inj hevent
    rfl

/-! ## Where an event leads -/

/-- What an event makes of an open dialogue. -/
inductive Turn (d : Dialogue) (event : Event) (next : Dialogue) : Prop
  /-- Command lines go on, or the dialogue ends in good order. -/
  | answered : next.settings = d.settings →
      next.mode = .command ∨ next.mode = .closed (.ok ()) → Turn d event next
  /-- A command line cannot be read. -/
  | broken {failure : Failure} : d.mode = .command → event = .broken failure →
      next = { d with mode := .closed (.error failure) } → Turn d event next
  /-- A command wants the data of a text. -/
  | opened {line name : String} : d.mode = .command → event = .line line →
      Instruction.ofLine line = .obey (.input name none) →
      next = { d with mode := .area name [] } → Turn d event next
  /-- A text area gets a line. -/
  | gathered {name line : String} {lines : List String} : d.mode = .area name lines →
      event = .line line → next = { d with mode := .area name (lines ++ [line]) } →
      Turn d event next

/-- A command line is answered, or it opens a text area. -/
theorem turn_answer (hmode : d.mode = .command) (line : String) :
    Turn d (.line line) (d.answer line).1 := by
  unfold answer
  cases hinstruction : Instruction.ofLine line with
  | nothing => exact .answered rfl (.inl hmode)
  | quit => exact .answered rfl (.inr rfl)
  | reject failure => exact .answered rfl (.inl rfl)
  | obey c =>
    dsimp only
    unfold obey
    cases hobey : d.store.obey c with
    | error failure => exact .answered rfl (.inl rfl)
    | ok result =>
      rcases result with ⟨reply, store⟩
      cases reply with
      | done => exact .answered rfl (.inl hmode)
      | listing texts => exact .answered rfl (.inl hmode)
      | wantsArea name existing =>
        obtain ⟨rfl, hstore, -⟩ := Store.obey_eq_wantsArea hobey
        refine .opened hmode rfl hinstruction ?_
        rw [hstore]

/-- What an event can do. -/
theorem turn_step (hopen : d.IsOpen) (event : Event) : Turn d event (d.step event).1 := by
  unfold step
  cases hmode : d.mode with
  | closed result => exact absurd hmode (hopen result)
  | area name lines =>
    cases event with
    | line line =>
      unfold onArea
      dsimp only
      split
      · exact .answered rfl (.inl rfl)
      · exact .gathered hmode rfl rfl
    | interrupt => exact .answered rfl (.inl rfl)
    | eof => exact .answered rfl (.inl rfl)
    | broken failure => exact .answered rfl (.inl rfl)
  | command =>
    cases event with
    | line line =>
      unfold onCommand
      dsimp only
      split
      · exact .answered rfl (.inl hmode)
      · exact turn_answer hmode line
    | interrupt => exact .answered rfl (.inl hmode)
    | eof => exact .answered rfl (.inr rfl)
    | broken failure => exact .broken hmode rfl rfl

/-! ## Runs -/

theorem isOpen_or_closed (d : Dialogue) : d.IsOpen ∨ ∃ result, d.mode = .closed result := by
  by_cases hclosed : ∃ result, d.mode = .closed result
  · exact .inr hclosed
  · left
    intro result hmode
    exact hclosed ⟨result, hmode⟩

/-- A dialogue that is over does nothing. -/
theorem step_of_closed {result : Except Failure Unit} (hmode : d.mode = .closed result)
    (event : Event) : d.step event = (d, []) := by
  unfold step
  rw [hmode]

theorem steps_of_closed {result : Except Failure Unit} (hmode : d.mode = .closed result)
    (events : List Event) : d.steps events = (d, []) := by
  induction events with
  | nil => rfl
  | cons event events ih =>
    unfold steps
    rw [step_of_closed hmode]
    dsimp only
    rw [ih]
    rfl

/-- A dialogue keeps its settings. -/
theorem settings_step (d : Dialogue) (event : Event) : (d.step event).1.settings = d.settings := by
  rcases d.isOpen_or_closed with hopen | ⟨result, hmode⟩
  · cases turn_step hopen event with
    | answered hsettings _ => exact hsettings
    | broken _ _ hnext => rw [hnext]
    | opened _ _ _ hnext => rw [hnext]
    | gathered _ _ hnext => rw [hnext]
  · rw [step_of_closed hmode]

theorem settings_steps (d : Dialogue) (events : List Event) :
    (d.steps events).1.settings = d.settings := by
  induction events generalizing d with
  | nil => rfl
  | cons event events ih => exact (ih (d.step event).1).trans (settings_step d event)

theorem deliveries_of_closed {result : Except Failure Unit} (hmode : d.mode = .closed result)
    (events : List Event) : d.deliveries events = [] := by
  cases events with
  | nil => rfl
  | cons event events =>
    unfold deliveries
    rw [hmode]

theorem deliveries_cons (hopen : d.IsOpen) (event : Event) (events : List Event) :
    d.deliveries (event :: events) = ⟨d, event⟩ :: (d.step event).1.deliveries events := by
  rw [deliveries]
  split
  · rename_i result hmode
    exact absurd hmode (hopen result)
  · rfl

theorem deliveries_append (d : Dialogue) (events more : List Event) :
    d.deliveries (events ++ more) = d.deliveries events ++ (d.steps events).1.deliveries more := by
  induction events generalizing d with
  | nil => rfl
  | cons event events ih =>
    rcases d.isOpen_or_closed with hopen | ⟨result, hmode⟩
    · rw [List.cons_append, deliveries_cons hopen, deliveries_cons hopen, ih]
      rfl
    · rw [deliveries_of_closed hmode, deliveries_of_closed hmode, steps_of_closed hmode,
        deliveries_of_closed hmode]
      rfl

/-- Until the dialogue is over, every event is delivered. -/
theorem exists_unread (d : Dialogue) (events : List Event) :
    ∃ unread, (d.deliveries events).map Delivery.event ++ unread = events
      ∧ (unread = [] ∨ ∃ result, (d.steps events).1.mode = .closed result) := by
  induction events generalizing d with
  | nil => exact ⟨[], rfl, .inl rfl⟩
  | cons event events ih =>
    rcases d.isOpen_or_closed with hopen | ⟨result, hmode⟩
    · obtain ⟨unread, hevents, hunread⟩ := ih (d.step event).1
      refine ⟨unread, ?_, hunread⟩
      rw [deliveries_cons hopen, List.map_cons, List.cons_append, hevents]
    · refine ⟨event :: events, ?_, .inr ⟨result, ?_⟩⟩
      · rw [deliveries_of_closed hmode]
        rfl
      · rw [steps_of_closed hmode]
        exact hmode

/-- The reads of a dialogue are its deliveries, each with its prompt. -/
theorem filter_isRead_steps (d : Dialogue) (events : List Event) :
    (d.steps events).2.filter Effect.isRead
      = (d.deliveries events).map (Delivery.read d.settings) := by
  induction events generalizing d with
  | nil => rfl
  | cons event events ih =>
    rcases d.isOpen_or_closed with hopen | ⟨result, hmode⟩
    · have hmore := ih (d.step event).1
      rw [settings_step] at hmore
      show ((d.step event).2 ++ ((d.step event).1.steps events).2).filter Effect.isRead = _
      rw [List.filter_append, filter_isRead_step hopen, hmore, deliveries_cons hopen]
      rfl
    · rw [steps_of_closed hmode, deliveries_of_closed hmode]
      rfl

/-- The history of a dialogue is made of the lines of its deliveries that belong there. -/
theorem filterMap_remembered?_steps (d : Dialogue) (events : List Event) :
    (d.steps events).2.filterMap Effect.remembered?
      = (d.deliveries events).filterMap Delivery.remembered? := by
  induction events generalizing d with
  | nil => rfl
  | cons event events ih =>
    rcases d.isOpen_or_closed with hopen | ⟨result, hmode⟩
    · have hmore := ih (d.step event).1
      show ((d.step event).2 ++ ((d.step event).1.steps events).2).filterMap Effect.remembered? = _
      rw [List.filterMap_append, filterMap_remembered?_step hopen, hmore, deliveries_cons hopen]
      cases hline : Delivery.remembered? ⟨d, event⟩ with
      | none => rw [List.filterMap_cons_none hline]; rfl
      | some line => rw [List.filterMap_cons_some hline]; rfl
    · rw [steps_of_closed hmode, deliveries_of_closed hmode]
      rfl

/-! ## Failing -/

/-- An event ends an open dialogue with a failure if it is the failure of a command line. -/
theorem mode_step_eq_failed_iff (hopen : d.IsOpen) {failure : Failure} :
    (d.step event).1.mode = .closed (.error failure)
      ↔ d.mode = .command ∧ event = .broken failure := by
  constructor
  · intro hfailed
    cases turn_step hopen event with
    | answered _ hnext =>
      rcases hnext with hnext | hnext
      · rw [hnext] at hfailed
        cases hfailed
      · rw [hnext] at hfailed
        cases hfailed
    | broken hmode hevent hnext =>
      rw [hnext] at hfailed
      cases hfailed
      exact ⟨hmode, hevent⟩
    | opened _ _ _ hnext =>
      rw [hnext] at hfailed
      cases hfailed
    | gathered _ _ hnext =>
      rw [hnext] at hfailed
      cases hfailed
  · intro h
    obtain ⟨hmode, rfl⟩ := h
    unfold step
    rw [hmode]
    rfl

/-- A dialogue that is open fails just if it meets the failure of a command line. -/
theorem mode_steps_eq_failed_iff (hopen : d.IsOpen) (events : List Event) {failure : Failure} :
    (d.steps events).1.mode = .closed (.error failure)
      ↔ ∃ x ∈ d.deliveries events, x.dialogue.mode = .command ∧ x.event = .broken failure := by
  induction events generalizing d with
  | nil =>
    constructor
    · intro hfailed
      exact absurd hfailed (hopen _)
    · intro h
      obtain ⟨x, hx, -⟩ := h
      cases hx
  | cons event events ih =>
    rw [deliveries_cons hopen, List.exists_mem_cons_iff]
    show ((d.step event).1.steps events).1.mode = _ ↔ _
    have hfirst : (d.step event).1.mode = .closed (.error failure)
        ↔ d.mode = .command ∧ event = .broken failure := mode_step_eq_failed_iff hopen
    rcases (d.step event).1.isOpen_or_closed with hnext | ⟨result, hnext⟩
    · -- the first event did not end the dialogue
      rw [ih hnext]
      constructor
      · exact .inr
      · rintro (hhead | hlater)
        · exact absurd (hfirst.2 hhead) (hnext _)
        · exact hlater
    · -- it did, and there are no further deliveries
      rw [steps_of_closed hnext, deliveries_of_closed hnext, hfirst]
      constructor
      · exact .inl
      · rintro (hhead | ⟨x, hx, -⟩)
        · exact hhead
        · cases hx

/-! ## Text areas -/

/-- A text area gets a further line. -/
theorem InAreaSince.gather {past : List Delivery} {name line : String} {lines : List String}
    {opening : Dialogue} (h : InAreaSince past d name lines opening) :
    InAreaSince (past ++ [⟨d, .line line⟩]) { d with mode := .area name (lines ++ [line]) } name
      (lines ++ [line]) opening := by
  obtain ⟨earlier, first, gathered, hpast, hopening, hfirst, hgathered, hd⟩ := h
  refine ⟨earlier, first, gathered ++ [⟨d, .line line⟩], ?_, hopening, hfirst, ?_, ?_⟩
  · rw [hpast, List.append_assoc, List.cons_append]
  · rw [List.map_append, hgathered, List.map_append]
    rfl
  · rw [hd]

/-- A text area that a dialogue comes to was opened in it. -/
theorem exists_inAreaSince (hstart : d.mode = .command) (events : List Event) {name : String}
    {lines : List String} (hmode : (d.steps events).1.mode = .area name lines) :
    ∃ opening, InAreaSince (d.deliveries events) (d.steps events).1 name lines opening := by
  -- by induction on the events that were read, from the last one back
  induction events using List.reverseRecOn generalizing name lines with
  | nil =>
    rw [steps, hstart] at hmode
    cases hmode
  | append_singleton events event ih =>
    let here := (d.steps events).1
    have hlast : (d.steps (events ++ [event])).1 = (here.step event).1 := fst_steps_append d events _
    rw [hlast] at hmode
    rcases here.isOpen_or_closed with hopen | ⟨result, hclosed⟩
    · have hdeliveries : d.deliveries (events ++ [event]) = d.deliveries events ++ [⟨here, event⟩] := by
        rw [deliveries_append, deliveries_cons hopen]
        rfl
      rw [hlast, hdeliveries]
      cases turn_step hopen event with
      | answered _ hnext =>
        rw [hmode] at hnext
        rcases hnext with hnext | hnext
        · cases hnext
        · cases hnext
      | broken _ _ hnext =>
        rw [hnext] at hmode
        cases hmode
      | @opened line wanted hhere hevent hline hnext =>
        rw [hnext] at hmode ⊢
        cases hmode
        rw [hevent]
        exact ⟨here, d.deliveries events, line, [], rfl, hhere, hline, rfl, rfl⟩
      | gathered hhere hevent hnext =>
        rw [hnext] at hmode ⊢
        cases hmode
        rw [hevent]
        obtain ⟨opening, hsince⟩ := ih hhere
        exact ⟨opening, hsince.gather⟩
    · rw [step_of_closed hclosed, hclosed] at hmode
      cases hmode

/-- Without its text area, a dialogue is as it was when the area was opened. -/
theorem InAreaSince.toCommand_eq {past : List Delivery} {name : String} {lines : List String}
    {opening : Dialogue} (h : InAreaSince past d name lines opening) : d.toCommand = opening := by
  obtain ⟨-, -, -, -, hopening, -, -, rfl⟩ := h
  unfold toCommand
  dsimp only
  rw [← hopening]

/-! ## Whole dialogues -/

/-- How a dialogue goes on some events, and how it comes out. -/
structure Course (start : Dialogue) (events : List Event) (outcome : Dialogue × List Effect) :
    Prop where
  /-- Every event is delivered, until the dialogue is over. -/
  consumed : ∃ unread, (start.deliveries events).map Delivery.event ++ unread = events
    ∧ (unread = [] ∨ ∃ result, outcome.1.mode = .closed result)
  /-- There is one read for each delivery, with the prompt of what is wanted. -/
  reads : outcome.2.filter Effect.isRead
    = (start.deliveries events).map (Delivery.read start.settings)
  /-- The history gets the command lines that are not blank. -/
  remembered : outcome.2.filterMap Effect.remembered?
    = (start.deliveries events).filterMap Delivery.remembered?
  /-- The result is a failure if that failure is delivered in place of a command line. -/
  failed : ∀ failure, outcome.1.result = .error failure
    ↔ ∃ x ∈ start.deliveries events, x.dialogue.mode = .command ∧ x.event = .broken failure
  /-- What breaks off a text area is reported, and the dialogue in which the area was opened goes on with
  the next event. -/
  cancelled : ∀ seen event rest name lines failure, events = seen ++ event :: rest →
    (start.steps seen).1.mode = .area name lines → event.areaFailure? = some failure →
    ∃ opening, InAreaSince (start.deliveries seen) (start.steps seen).1 name lines opening
      ∧ (start.steps seen).1.step event
        = (opening, [.readArea start.settings.continuationPrompt, .complain failure.report])
      ∧ outcome.1 = (opening.steps rest).1
      ∧ .readArea start.settings.continuationPrompt :: .complain failure.report
        :: (opening.steps rest).2 <:+ outcome.2

theorem result_eq_error_iff {failure : Failure} :
    d.result = .error failure ↔ d.mode = .closed (.error failure) := by
  unfold result
  cases d.mode with
  | command => exact ⟨nofun, nofun⟩
  | area name lines => exact ⟨nofun, nofun⟩
  | closed result =>
    constructor
    · intro h
      exact congrArg DialogueMode.closed h
    · intro h
      cases h
      rfl

/-- The course of a dialogue that is to read a command line first, also if something is shown before. -/
theorem course_of_quiet {start : Dialogue} (hstart : start.mode = .command) {shown : List Effect}
    (hshown : Quiet shown) (events : List Event) :
    Course start events ((start.steps events).1, shown ++ (start.steps events).2) where
  consumed := exists_unread start events
  reads := by
    rw [List.filter_append, hshown.filter_isRead, filter_isRead_steps]
    rfl
  remembered := by
    rw [List.filterMap_append, hshown.filterMap_remembered?, filterMap_remembered?_steps]
    rfl
  failed := by
    intro failure
    have hopen : start.IsOpen := by
      intro result hmode
      rw [hstart] at hmode
      cases hmode
    rw [result_eq_error_iff]
    exact mode_steps_eq_failed_iff hopen events
  cancelled := by
    intro seen event rest name lines failure hevents hmode hevent
    obtain ⟨opening, hsince⟩ := exists_inAreaSince hstart seen hmode
    have hsettings := settings_steps start seen
    have hstep := step_of_areaFailure? hmode hevent
    rw [hsince.toCommand_eq, hsettings] at hstep
    refine ⟨opening, hsince, hstep, ?_⟩
    have hrest : (start.steps seen).1.steps (event :: rest) = ((opening.steps rest).1,
        .readArea start.settings.continuationPrompt :: .complain failure.report
          :: (opening.steps rest).2) := by
      rw [steps, hstep]
      rfl
    rw [hevents, steps_append, hrest]
    refine ⟨rfl, shown ++ (start.steps seen).2, ?_⟩
    exact List.append_assoc _ _ _

/-- When the input has ended twice, a dialogue is over: a text area that is open is broken off first. -/
theorem exists_closed_of_eof (d : Dialogue) :
    ∃ result, (d.steps [.eof, .eof]).1.mode = .closed result := by
  show ∃ result, ((d.step .eof).1.step .eof).1.mode = .closed result
  cases hmode : d.mode with
  | closed result =>
    rw [step_of_closed hmode, step_of_closed hmode]
    exact ⟨result, hmode⟩
  | command =>
    have hleave : (d.step .eof).1.mode = .closed (.ok ()) := by
      unfold step
      rw [hmode]
      rfl
    rw [step_of_closed hleave]
    exact ⟨_, hleave⟩
  | area name lines =>
    rw [step_of_areaFailure? hmode (rfl : Event.areaFailure? .eof = some cutOffArea)]
    exact ⟨_, rfl⟩

theorem quiet_opening (settings : DialogueSettings) : Quiet (opening settings) := by
  unfold opening
  split
  · exact quiet_print _
  · exact quiet_nil

/-- How a dialogue goes on any events, and how a whole dialogue goes, which comes to its end. -/
theorem course_of_events (settings : DialogueSettings) (store : Store) (events : List Event) :
    let start : Dialogue := { settings, store }
    Course start events (start.steps events)
      ∧ Course start (events ++ [.eof, .eof]) (hold settings store events)
      ∧ ∃ result, (hold settings store events).1.mode = .closed result := by
  intro start
  refine ⟨course_of_quiet rfl quiet_nil events,
    course_of_quiet rfl (quiet_opening settings) (events ++ [.eof, .eof]), ?_⟩
  show ∃ result, (start.steps (events ++ [.eof, .eof])).1.mode = .closed result
  rw [fst_steps_append]
  exact exists_closed_of_eof _

/-- An interrupted text area leaves no text, and the dialogue goes on until a command line cannot be read. -/
example : ∃ last effects,
    hold {} {} [.line "input a", .line "lost", .interrupt, .line "input b", .line "kept", .line ".",
        .broken cutOffArea, .line "input c"]
      = (last, effects)
    ∧ last.store.texts = [{ name := "b", data := "kept" }]
    ∧ last.result = .error cutOffArea
    ∧ effects.filterMap Effect.remembered? = ["input a", "input b"] :=
  ⟨_, _, rfl, by decide +kernel⟩

end Dialogue

end TextDesk
