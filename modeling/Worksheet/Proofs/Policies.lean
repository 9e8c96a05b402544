import Worksheet.Proofs.Evaluation
import Worksheet.Proofs.Resolution

namespace Worksheet

namespace Contents

def LeadsToBlank (contents : Contents) (text : String) (address : Address) : Prop :=
  ∃ path, Route contents text address path "" ∧ 1 < path.length

structure Contrast (contents : Contents) (text : String) (address : Address) : Prop where
  walk : contents.LeadsToBlank text address ↔
    (Walk.ofText contents text address).ending = .blank true
  blank : contents.LeadsToBlank text address →
    contents.resolveText .zero text address = .ok .zero ∧
      contents.resolveText .reject text address = .error (.badValue "")
  other : ¬ contents.LeadsToBlank text address →
    contents.resolveText .reject text address = contents.resolveText .zero text address

variable {contents : Contents} {policy : Policy} {text : String} {address : Address}
  {slot first : Slot} {fault refusal : Fault} {value : Binary64} {values : Slots Binary64}

theorem LeadsToBlank.resolveText_eq (leads : contents.LeadsToBlank text address)
    (policy : Policy) : contents.resolveText policy text address =
      if policy = .zero then .ok .zero else .error (.badValue "") := by
  obtain ⟨path, route, longer⟩ := leads
  have empty : Content.ofText "" = .empty := rfl
  have complete : CompleteRoute contents text address path "" := by
    apply route.complete_of_no_target
    intro target names
    rw [Content.ofText_of_ofFormula names] at empty
    cases empty
  have several : path.length ≠ 1 := Nat.ne_of_gt longer
  rw [resolveText_of_complete complete, Route.outcome]
  simp only [empty, several, false_or]

theorem resolveText_of_not_leadsToBlank (other : ¬ contents.LeadsToBlank text address) :
    contents.resolveText .reject text address = contents.resolveText .zero text address := by
  obtain ⟨path, last, complete, _, outcome⟩ := Walk.ofText_route contents text address
  rw [outcome, outcome]
  unfold Route.outcome
  cases content : Content.ofText last with
  | literal | formula => rfl
  | empty =>
    have same := Content.ofText_eq_empty_iff.mp content
    subst same
    -- The empty cell is the one that the walk began with.
    have positive := complete.route.length_pos
    have single : path.length = 1 := by
      by_contra several
      exact other ⟨path, complete.route, by omega⟩
    simp only [single, true_or, if_true]

theorem ending_of_resolveText_ne
    (apart : contents.resolveText .reject text address ≠ contents.resolveText .zero text address) :
    (Walk.ofText contents text address).ending = .blank true := by
  unfold resolveText Walk.verdict at apart
  cases ending : (Walk.ofText contents text address).ending with
  | blank referenced =>
    cases referenced with
    | true => rfl
    | false => simp [ending] at apart
  | literal | broken | closed | outside => simp [ending] at apart

theorem contrast (contents : Contents) (text : String) (address : Address) :
    contents.Contrast text address where
  walk := by
    constructor
    · intro leads
      apply ending_of_resolveText_ne
      simp [leads.resolveText_eq]
    · intro ending
      by_contra other
      have same := resolveText_of_not_leadsToBlank other
      simp [resolveText, Walk.verdict, ending] at same
  blank leads := ⟨leads.resolveText_eq .zero, leads.resolveText_eq .reject⟩
  other := resolveText_of_not_leadsToBlank

def Charged (contents : Contents) (slot : Slot) : Prop :=
  contents.LeadsToBlank (contents.read slot) (Address.ofSlot slot)

theorem Charged.resolve_zero (charged : contents.Charged slot) :
    contents.resolve .zero slot = .ok .zero := charged.resolveText_eq .zero

theorem Charged.resolve_reject (charged : contents.Charged slot) :
    contents.resolve .reject slot = .error (.badValue "") := charged.resolveText_eq .reject

theorem resolve_of_not_charged (free : ¬ contents.Charged slot) :
    contents.resolve .reject slot = contents.resolve .zero slot :=
  resolveText_of_not_leadsToBlank free

theorem resolve_zero_of_ok (fine : contents.resolve .reject slot = .ok value) :
    contents.resolve .zero slot = .ok value := by
  by_cases charged : contents.Charged slot
  · rw [charged.resolve_reject] at fine
    cases fine
  · rw [← resolve_of_not_charged charged]
    exact fine

theorem resolve_reject_of_error (failed : contents.resolve .zero slot = .error fault) :
    contents.resolve .reject slot = .error fault := by
  by_cases charged : contents.Charged slot
  · rw [charged.resolve_zero] at failed
    cases failed
  · rw [resolve_of_not_charged charged]
    exact failed

theorem evaluate_zero_of_ok (evaluated : contents.evaluate .reject = .ok values) :
    contents.evaluate .zero = .ok values :=
  evaluate_eq_ok_iff.mpr fun slot => resolve_zero_of_ok (resolve_of_evaluate evaluated slot)

theorem first_fault_cases (lenient : contents.evaluate .zero = .error fault)
    (strict : contents.evaluate .reject = .error refusal) :
    refusal = fault ∨ refusal = .badValue "" ∧ ∃ earlier first, earlier < first ∧
      contents.Charged earlier ∧ contents.resolve .zero first = .error fault := by
  obtain ⟨first, failed, before⟩ := evaluate_eq_error_iff.mp lenient
  obtain ⟨earlier, refused, fine⟩ := evaluate_eq_error_iff.mp strict
  have fails := resolve_reject_of_error failed
  rcases Nat.lt_trichotomy earlier first with less | same | more
  · obtain ⟨value, former⟩ := before earlier less
    have charged : contents.Charged earlier := by
      by_contra free
      rw [resolve_of_not_charged free, former] at refused
      cases refused
    rw [charged.resolve_reject, Except.error.injEq] at refused
    exact .inr ⟨refused.symm, earlier, first, less, charged, failed⟩
  · have here : earlier = first := Fin.ext same
    rw [here, fails, Except.error.injEq] at refused
    exact .inl refused.symm
  · obtain ⟨value, valued⟩ := fine first more
    rw [fails] at valued
    cases valued

end Contents

namespace Grid

structure Tightens (lenient strict : Grid) : Prop where
  succeeds : strict.recalculate.1 = .ok () → lenient.recalculate.1 = .ok () ∧
    ∀ slot, ∃ value, strict.recalculate.2.cached slot = some value ∧
      lenient.recalculate.2.cached slot = some value
  refuses : ∀ refusal, lenient.recalculate.1 = .ok () → strict.recalculate.1 = .error refusal →
    refusal = .badValue ""
  fails : ∀ fault, lenient.recalculate.1 = .error fault → strict.recalculate.1 = .error fault ∨
    strict.recalculate.1 = .error (.badValue "") ∧ ∃ earlier first, earlier < first ∧
      lenient.contents.Charged earlier ∧ lenient.contents.resolve .zero first = .error fault

variable {lenient strict : Grid}

theorem tightens (contents : strict.contents = lenient.contents) (zero : lenient.policy = .zero)
    (reject : strict.policy = .reject) : lenient.Tightens strict := by
  have evaluates : strict.contents.evaluate strict.policy = lenient.contents.evaluate .reject := by
    rw [contents, reject]
  have evaluatesToo : lenient.contents.evaluate lenient.policy =
      lenient.contents.evaluate .zero := by rw [zero]
  constructor
  case succeeds =>
    intro fine
    obtain ⟨values, evaluated⟩ := recalculate_eq_ok_iff.mp fine
    have alike : lenient.contents.evaluate lenient.policy = .ok values := by
      rw [evaluates] at evaluated
      rw [evaluatesToo]
      exact Contents.evaluate_zero_of_ok evaluated
    rw [recalculate_of_ok evaluated, recalculate_of_ok alike]
    exact ⟨rfl, fun slot => ⟨values.read slot, cached_filled .., cached_filled ..⟩⟩
  case refuses =>
    intro refusal fine refused
    obtain ⟨values, evaluated⟩ := recalculate_eq_ok_iff.mp fine
    rw [recalculate_eq_error_iff, evaluates] at refused
    obtain ⟨first, refused, _⟩ := Contents.evaluate_eq_error_iff.mp refused
    rw [evaluatesToo] at evaluated
    by_cases charged : lenient.contents.Charged first
    · rw [charged.resolve_reject, Except.error.injEq] at refused
      exact refused.symm
    · rw [Contents.resolve_of_not_charged charged, Contents.resolve_of_evaluate evaluated] at refused
      cases refused
  case fails =>
    intro fault failed
    rw [recalculate_eq_error_iff, evaluatesToo] at failed
    rw [recalculate_eq_error_iff, recalculate_eq_error_iff, evaluates]
    cases refused : lenient.contents.evaluate .reject with
    | ok values =>
      rw [Contents.evaluate_zero_of_ok refused] at failed
      cases failed
    | error refusal =>
      rcases Contents.first_fault_cases failed refused with same | ⟨empty, earlier⟩
      · exact .inl (congrArg _ same)
      · exact .inr ⟨congrArg _ empty, earlier⟩

/-- A text is worth the same under both policies, unless formulas lead from it to an empty cell.
    Rejecting empty cells can make a recalculation fail that would succeed, and move a failure to
    an earlier cell, but it does not change a value. -/
theorem recalculate_under_policies (lenient strict : Grid)
    (texts : ∀ slot, strict.contents.read slot = lenient.contents.read slot)
    (zero : lenient.policy = .zero) (reject : strict.policy = .reject) :
    (∀ (cell : Cell) address, lenient.contents.Contrast cell.raw address) ∧
      lenient.Tightens strict :=
  ⟨fun cell address => lenient.contents.contrast cell.raw address,
    tightens (Contents.ext_of texts) zero reject⟩

def forestalled (policy : Policy) : Grid := ((empty policy).write 0 "=B0").write 2 "x"

theorem forestalled_under_policies :
    (forestalled .zero).recalculate.1 = .error (.badValue "x") ∧
      (forestalled .reject).recalculate.1 = .error (.badValue "") ∧
      (forestalled .zero).contents.Charged 0 ∧
      (forestalled .zero).Tightens (forestalled .reject) := by
  obtain ⟨contrast, tightens⟩ :=
    recalculate_under_policies (forestalled .zero) (forestalled .reject) (fun _ => rfl) rfl rfl
  have charged : (forestalled .zero).contents.Charged 0 :=
    (contrast ⟨"=B0", none⟩ ⟨0, 0⟩).walk.mpr (by decide +kernel)
  exact ⟨by decide +kernel, by decide +kernel, charged, tightens⟩

end Grid

end Worksheet
