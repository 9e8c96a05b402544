import Worksheet.Proofs.Effects

namespace Worksheet.Sheet

structure Unsettled (sheet : Sheet) (contents : Contents) (policy : Policy)
    (selection : Option Slot) : Prop where
  contents : sheet.grid.contents = contents
  uncached : ∀ slot, sheet.grid.cached slot = none
  unclean : sheet.grid.clean = false
  policy : sheet.grid.policy = policy
  selection : sheet.selection = selection

structure FailsSafely (sheet : Sheet) : Prop where
  outside : ∀ request address, (sheet.perform request).1 = .error (.outOfBounds address) ↔
    request.outside? = some address
  unselected : ∀ request, (sheet.perform request).1 = .error .noSelection ↔
    request.NeedsSelection ∧ sheet.selection = none
  selected : ∀ request address, request.NeedsSelection →
    (sheet.perform request).1 ≠ .error (.outOfBounds address)
  refused : ∀ request error, (sheet.perform request).1 = .error error →
    (∀ fault, error ≠ .fault fault) → (sheet.perform request).2 = sheet
  written : ∀ request fault, request.Writes → (sheet.perform request).1 = .error (.fault fault) →
    ∃ contents, request.written? sheet = some contents ∧
      (sheet.perform request).2.Unsettled contents sheet.grid.policy sheet.selection
  read : ∀ request fault, ¬ request.Writes → (sheet.perform request).1 = .error (.fault fault) →
    (sheet.perform request).2.Unsettled sheet.grid.contents sheet.grid.policy sheet.selection

variable {sheet : Sheet} {request : Request} {contents : Contents} {policy : Policy}
  {given : Answer} {error : SheetError} {fault : Fault} {address : Address}

theorem unsettled_of_settle
    (failed : (answer (fun _ => given) (sheet.settle (.ofContents policy contents))).1 =
      .error error) :
    (∃ fault, error = .fault fault) ∧
      (answer (fun _ => given) (sheet.settle (.ofContents policy contents))).2.Unsettled contents
        policy sheet.selection := by
  cases evaluated : contents.evaluate policy with
  | ok values =>
    simp only [settle, Grid.recalculate_ofContents_of_ok evaluated] at failed
    cases failed
  | error fault =>
    simp only [settle, Grid.recalculate_ofContents_of_error evaluated] at failed ⊢
    cases failed
    exact ⟨⟨fault, rfl⟩, rfl, fun slot => Slots.read_all none slot, rfl, rfl, rfl⟩

theorem evaluated?_of_writes (writes : request.Writes) :
    request.evaluated? sheet = request.written? sheet := by
  cases request with
  | setContent | clear | load | setSelectedContent => rfl
  | _ => cases writes

theorem eq_of_stale? {grid : Grid} (stale : grid.stale? = some contents) :
    contents = grid.contents := by
  unfold Grid.stale? at stale
  split at stale
  · cases stale
  · exact (Option.some.inj stale).symm

theorem evaluated?_of_reads (reads : ¬ request.Writes)
    (evaluated : request.evaluated? sheet = some contents) : contents = sheet.grid.contents := by
  cases request with
  | setContent | clear | load | setSelectedContent => exact absurd trivial reads
  | getValue | selectedValue =>
    obtain ⟨_, _, stale⟩ := Option.bind_eq_some_iff.mp evaluated
    exact eq_of_stale? stale
  | values => exact eq_of_stale? evaluated
  | content | setPolicy | select | selected => cases evaluated

theorem outside?_of_needsSelection (needs : request.NeedsSelection) : request.outside? = none := by
  cases request with
  | setSelectedContent | selectedValue => rfl
  | _ => cases needs

theorem unsettled_of_fault (coherent : sheet.grid.Coherent)
    (failed : (sheet.perform request).1 = .error (.fault fault)) :
    ∃ contents, request.evaluated? sheet = some contents ∧
      (sheet.perform request).2.Unsettled contents sheet.grid.policy sheet.selection := by
  have effect := perform_effect coherent request
  generalize sheet.perform request = outcome at effect failed
  cases effect with
  | outside | unselected | kept => cases failed
  | recalculated evaluated given => exact ⟨_, evaluated, (unsettled_of_settle failed).2⟩

theorem outside_of_error (coherent : sheet.grid.Coherent)
    (failed : (sheet.perform request).1 = .error (.outOfBounds address)) :
    request.outside? = some address := by
  have effect := perform_effect coherent request
  generalize sheet.perform request = outcome at effect failed
  cases effect with
  | outside _ outside =>
    cases failed
    exact outside
  | unselected | kept => cases failed
  | recalculated evaluated given =>
    obtain ⟨⟨fault, same⟩, _⟩ := unsettled_of_settle failed
    cases same

theorem unselected_of_error (coherent : sheet.grid.Coherent)
    (failed : (sheet.perform request).1 = .error .noSelection) :
    request.NeedsSelection ∧ sheet.selection = none := by
  have effect := perform_effect coherent request
  generalize sheet.perform request = outcome at effect failed
  cases effect with
  | outside | kept => cases failed
  | unselected _ needs unselected => exact ⟨needs, unselected⟩
  | recalculated evaluated given =>
    obtain ⟨⟨fault, same⟩, _⟩ := unsettled_of_settle failed
    cases same

/-- A request that is refused changes nothing, and it is refused only for a cell it names or
    because no cell is selected. One that meets a fault has its texts stored, and no cell keeps a
    value. -/
theorem reached_fails_safely {last : Option Policy} (reached : Reached sheet last) :
    sheet.FailsSafely := by
  -- That the sheet was reached is needed only for this: its values can be trusted if it is clean.
  have coherent := reached.coherent
  constructor
  case outside =>
    intro request address
    constructor
    · exact outside_of_error coherent
    · intro outside
      rw [perform_refused outside]
  case unselected =>
    intro request
    constructor
    · exact unselected_of_error coherent
    · intro ⟨needs, unselected⟩
      rw [perform_unselected needs unselected]
  case selected =>
    intro request address needs failed
    have outside := outside_of_error coherent failed
    rw [outside?_of_needsSelection needs] at outside
    cases outside
  case refused =>
    intro request error failed innocent
    cases error with
    | fault fault => exact absurd rfl (innocent fault)
    | outOfBounds address => rw [perform_refused (outside_of_error coherent failed)]
    | noSelection =>
      obtain ⟨needs, unselected⟩ := unselected_of_error coherent failed
      rw [perform_unselected needs unselected]
  case written =>
    intro request fault writes failed
    rw [← evaluated?_of_writes writes]
    exact unsettled_of_fault coherent failed
  case read =>
    intro request fault reads failed
    obtain ⟨contents, evaluated, unsettled⟩ := unsettled_of_fault coherent failed
    rw [evaluated?_of_reads reads evaluated] at unsettled
    exact unsettled

def spoiled : Sheet :=
  (((empty .zero).perform (.select ⟨0, 0⟩)).2.perform (.setSelectedContent "x")).2

theorem spoiled_fails_safely : Reached spoiled none ∧
    (spoiled.perform (.getValue ⟨1, 2⟩)).1.toOption = none ∧ spoiled.FailsSafely := by
  have reached := ((Reached.start .zero).request (.select ⟨0, 0⟩)).request
    (.setSelectedContent "x")
  have never : (Request.setSelectedContent "x").passed
      ((empty .zero).perform (.select ⟨0, 0⟩)).2
      ((Request.select ⟨0, 0⟩).passed (empty .zero) none) = none := by decide +kernel
  rw [never] at reached
  exact ⟨reached, by decide +kernel, reached_fails_safely reached⟩

end Worksheet.Sheet
