import Worksheet.Proofs.References

namespace Worksheet

open Relation

namespace Route

variable {policy : Policy} {path other : List Address} {last : String}

theorem outcome_of_nonempty (nonempty : last ≠ "") :
    outcome policy path last = outcome policy other last := by
  unfold outcome
  cases content : Content.ofText last with
  | empty => exact absurd (Content.ofText_eq_empty_iff.mp content) nonempty
  | literal | formula => rfl

theorem outcome_of_empty (longer : path.length ≠ 1) :
    outcome policy path "" = if policy = .zero then .ok .zero else .error (.badValue "") := by
  simp only [outcome, Content.ofText_eq_empty_iff.mpr, longer, false_or]

end Route

namespace Contents

def Circles (contents : Contents) (slot : Slot) : Prop :=
  ∃ via, ReflTransGen contents.Refers slot via ∧ TransGen contents.Refers via via

structure Cycle (contents : Contents) (slot other : Slot) : Prop where
  there : TransGen contents.Refers slot other
  back : TransGen contents.Refers other slot

variable {contents : Contents} {policy : Policy} {slot stop via target : Slot}

theorem Cycle.symm (cycle : contents.Cycle slot stop) : contents.Cycle stop slot :=
  ⟨cycle.back, cycle.there⟩

theorem cycle_of_onwards (cycle : TransGen contents.Refers via via)
    (onwards : ReflTransGen contents.Refers via stop) : contents.Cycle via stop :=
  ⟨cycle.trans_left onwards, back_of_reached (refers_unique contents) cycle onwards⟩

theorem cycle_of_both (toVia : ReflTransGen contents.Refers slot via)
    (toStop : ReflTransGen contents.Refers slot stop) (viaCycle : TransGen contents.Refers via via)
    (stopCycle : TransGen contents.Refers stop stop) : contents.Cycle via stop := by
  rcases toVia.total_of_right_unique (refers_unique contents) toStop with onwards | back
  · exact cycle_of_onwards viaCycle onwards
  · exact (cycle_of_onwards stopCycle back).symm

theorem eq_of_both (toVia : ReflTransGen contents.Refers slot via)
    (toStop : ReflTransGen contents.Refers slot stop) (viaEnd : ∀ next, ¬ contents.Refers via next)
    (stopEnd : ∀ next, ¬ contents.Refers stop next) : via = stop := by
  rcases toVia.total_of_right_unique (refers_unique contents) toStop with onwards | back
  · exact (eq_of_reached viaEnd onwards).symm
  · exact eq_of_reached stopEnd back

theorem Circles.not_ended (circles : contents.Circles slot)
    (reached : ReflTransGen contents.Refers slot stop) :
    ¬ ∀ next, ¬ contents.Refers stop next := by
  intro ended
  obtain ⟨via, toVia, cycle⟩ := circles
  have again : TransGen contents.Refers stop stop := by
    rcases toVia.total_of_right_unique (refers_unique contents) reached with onwards | back
    · exact cycle_of_reached (refers_unique contents) cycle onwards
    · exact eq_of_reached ended back ▸ cycle
  obtain ⟨next, refers, _⟩ := TransGen.head'_iff.mp again
  exact ended next refers

theorem resolve_of_circles (circles : contents.Circles slot) (policy : Policy) :
    ∃ stop, ReflTransGen contents.Refers slot stop ∧ TransGen contents.Refers stop stop ∧
      contents.resolve policy slot = .error (.badFormula (contents.read stop)) := by
  obtain ⟨path, stop, reached, _, ended | cycle, outcome⟩ := contents.resolve_at_end slot
  · exact absurd ended (circles.not_ended reached)
  · obtain ⟨next, refers, _⟩ := TransGen.head'_iff.mp cycle
    refine ⟨stop, reached, cycle, ?_⟩
    rw [outcome, Route.outcome, refers.content]

theorem Refers.onwards (refers : contents.Refers slot target)
    (reached : ReflTransGen contents.Refers slot stop)
    (ended : ∀ next, ¬ contents.Refers stop next) :
    stop ≠ slot ∧ ReflTransGen contents.Refers target stop := by
  rcases reached.cases_head with same | ⟨next, step, onwards⟩
  · subst same
    exact absurd refers (ended target)
  · have same := refers_unique contents refers step
    subst same
    refine ⟨?_, onwards⟩
    intro same
    subst same
    exact ended _ refers

theorem resolve_of_refers_empty (refers : contents.Refers slot target)
    (empty : contents.read target = "") (policy : Policy) :
    contents.resolve policy slot =
      if policy = .zero then .ok .zero else .error (.badValue "") := by
  have targetEnd := (holds_of_empty empty).not_refers
  obtain ⟨path, stop, reached, single, ended | cycle, outcome⟩ := contents.resolve_at_end slot
  · obtain ⟨different, onwards⟩ := refers.onwards reached ended
    have same := eq_of_reached targetEnd onwards
    subst same
    have longer : path.length ≠ 1 := fun one => different (single.mp one)
    rw [outcome, empty, Route.outcome_of_empty longer]
  · have circles : contents.Circles slot := ⟨stop, reached, cycle⟩
    exact absurd targetEnd (circles.not_ended (.single refers))

theorem Refers.circles_iff (refers : contents.Refers slot target) :
    contents.Circles slot ↔ contents.Circles target := by
  constructor
  · intro ⟨via, reached, cycle⟩
    rcases reached.cases_head with same | ⟨next, step, onwards⟩
    · -- The cell is on the cycle itself, so the one that it refers to is on it as well.
      subst same
      obtain ⟨next, step, back⟩ := TransGen.head'_iff.mp cycle
      have same := refers_unique contents refers step
      subst same
      exact ⟨_, back, cycle⟩
    · have same := refers_unique contents refers step
      subst same
      exact ⟨via, onwards, cycle⟩
  · intro ⟨via, reached, cycle⟩
    exact ⟨via, .head refers reached, cycle⟩

theorem resolve_of_refers_nonempty (refers : contents.Refers slot target)
    (nonempty : contents.read target ≠ "") (straight : ¬ contents.Circles target)
    (policy : Policy) : contents.resolve policy slot = contents.resolve policy target := by
  obtain ⟨path, stop, reached, single, ended | cycle, outcome⟩ := contents.resolve_at_end slot
  · obtain ⟨other, last, toLast, alone, lastEnded | cycle, targetOutcome⟩ :=
      contents.resolve_at_end target
    · obtain ⟨different, onwards⟩ := refers.onwards reached ended
      have same := eq_of_both onwards toLast ended lastEnded
      subst same
      rw [outcome, targetOutcome]
      by_cases empty : contents.read stop = ""
      · -- An empty cell at the end is referred to from both cells.
        have longer : path.length ≠ 1 := fun one => different (single.mp one)
        have alsoLonger : other.length ≠ 1 := fun one => nonempty (alone.mp one ▸ empty)
        rw [empty, Route.outcome_of_empty longer, Route.outcome_of_empty alsoLonger]
      · exact Route.outcome_of_nonempty empty
    · exact absurd ⟨last, toLast, cycle⟩ straight
  · exact absurd (refers.circles_iff.mp ⟨stop, reached, cycle⟩) straight

structure Unfolds (contents : Contents) (policy : Policy) (slot target : Slot) : Prop where
  zero : contents.read target = "" → policy = .zero → contents.resolve policy slot = .ok .zero
  reject : contents.read target = "" → policy = .reject →
    contents.resolve policy slot = .error (.badValue "")
  straight : contents.read target ≠ "" → ¬ contents.Circles target →
    contents.resolve policy slot = contents.resolve policy target
  circles : contents.Circles target → ∃ near far,
    contents.resolve policy slot = .error (.badFormula (contents.read near)) ∧
      contents.resolve policy target = .error (.badFormula (contents.read far)) ∧
      ∀ via, ReflTransGen contents.Refers target via → TransGen contents.Refers via via →
        contents.Cycle via near ∧ contents.Cycle via far

/-- A formula can be replaced by what the cell that it names resolves to. Only on the way into a
    cycle the two may blame different formulas, and both of these are on that cycle. -/
theorem resolve_unfolds {contents : Contents} {slot : Slot} {address : Address}
    (names : Address.ofFormula (contents.read slot) = .ok address) (policy : Policy) :
    ∃ target, address = Address.ofSlot target ∧ contents.Unfolds policy slot target := by
  obtain ⟨target, same⟩ := Address.exists_slot_of_ofFormula names
  subst same
  have refers : contents.Refers slot target := names
  refine ⟨target, rfl, ?_⟩
  constructor
  case zero =>
    intro empty zero
    rw [resolve_of_refers_empty refers empty, if_pos zero]
  case reject =>
    intro empty reject
    rw [resolve_of_refers_empty refers empty, reject, if_neg (by decide)]
  case straight =>
    exact fun nonempty straight => resolve_of_refers_nonempty refers nonempty straight policy
  case circles =>
    intro circles
    obtain ⟨near, toNear, nearCycle, nearFault⟩ :=
      resolve_of_circles (refers.circles_iff.mpr circles) policy
    obtain ⟨far, toFar, farCycle, farFault⟩ := resolve_of_circles circles policy
    refine ⟨near, far, nearFault, farFault, ?_⟩
    intro via toVia viaCycle
    exact ⟨cycle_of_both (.head refers toVia) toNear viaCycle nearCycle,
      cycle_of_both toVia toFar viaCycle farCycle⟩

def circular : Contents := (Contents.blank.write 0 "=B0").write 1 "=A0"

theorem circular_unfolds : Address.ofFormula (circular.read 0) = .ok ⟨1, 0⟩ ∧
    circular.Unfolds .zero 0 1 ∧
    circular.resolve .zero 0 = .error (.badFormula "=A0") ∧
    circular.resolve .zero 1 = .error (.badFormula "=B0") := by
  have names : Address.ofFormula (circular.read 0) = .ok ⟨1, 0⟩ := by decide
  obtain ⟨target, same, unfolds⟩ := resolve_unfolds names .zero
  have second : target = 1 := Address.ofSlot_injective same.symm
  subst second
  exact ⟨names, unfolds, by decide +kernel, by decide +kernel⟩

end Contents

end Worksheet
