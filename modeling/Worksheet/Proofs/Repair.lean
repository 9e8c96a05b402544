import Worksheet.Grid.Repair
import Worksheet.Proofs.Evaluation
import Worksheet.Proofs.References

namespace Worksheet

open Relation

theorem Literal.content_of_read {text : String} {value : Binary64}
    (read : Literal.read text = .ok value) : Content.ofText text = .literal text := by
  cases chars : text.toList with
  | nil => simp [Literal.read, chars, ofChars?, splitSign] at read
  | cons first rest =>
    have noSign : first ≠ '=' := by
      intro same
      subst same
      simp [Literal.read, chars, ofChars?, splitSign] at read
    rw [Content.ofText_eq_literal_iff, ne_eq, ← String.toList_eq_nil_iff, chars]
    simpa using noSign

theorem Literal.fault_of_read {text : String} {fault : Fault}
    (refused : Literal.read text = .error fault) : fault = .badValue text := by
  unfold Literal.read at refused
  split at refused
  · cases refused
  · exact (Except.error.inj refused).symm

section

variable {α : Type} {r : α → α → Prop} {start stop : α}

theorem reached_without_leaving (reached : ReflTransGen r start stop) :
    ReflTransGen (fun item next => item ≠ stop ∧ r item next) start stop := by
  induction reached using ReflTransGen.head_induction_on with
  | refl => exact .refl
  | @head item next step _ ih =>
    by_cases same : item = stop
    · exact same ▸ .refl
    · exact .head ⟨same, step⟩ ih

end

theorem Walk.ending_ne_outside (contents : Contents) (text : String) (referenced : Bool)
    (trail : Trail) (formula : String) :
    (Walk.extend contents text referenced trail).ending ≠ .outside formula := by
  fun_induction Walk.extend contents text referenced trail with
  | case1 | case2 | case3 | case4 => exact Ending.noConfusion
  | case5 text referenced trail formula content target names longer entered missing =>
    obtain ⟨slot, same⟩ :=
      Address.exists_slot_of_ofFormula (Address.ofFormula_eq_ok_iff.mpr names)
    subst same
    rw [contents.get?_ofSlot] at missing
    cases missing
  | case6 text referenced trail formula content target names longer entered next found ih =>
    exact ih

namespace Contents

/-- What is wrong with a cell by itself, apart from the cells that its formula leads to. -/
inductive AtFault (contents : Contents) (policy : Policy) (slot : Slot) : Fault → Prop where
  | literal (content : Content.ofText (contents.read slot) = .literal (contents.read slot))
      (refused : Literal.read (contents.read slot) = .error (.badValue (contents.read slot))) :
      AtFault contents policy slot (.badValue (contents.read slot))
  | formula (content : Content.ofText (contents.read slot) = .formula (contents.read slot))
      (refused : Address.ofFormula (contents.read slot) =
        .error (.badFormula (contents.read slot))) :
      AtFault contents policy slot (.badFormula (contents.read slot))
  | cycle (cycle : TransGen contents.Refers slot slot) :
      AtFault contents policy slot (.badFormula (contents.read slot))
  | blank (empty : contents.read slot = "") (reject : policy = .reject) {source : Slot}
      (refers : contents.Refers source slot) : AtFault contents policy slot (.badValue "")

variable {contents : Contents} {policy : Policy} {slot culprit target : Slot} {fault : Fault}
  {text : String} {value former : Binary64}

theorem AtFault.text_eq (blame : contents.AtFault policy slot fault) :
    fault.text = contents.read slot := by
  cases blame with
  | literal | formula | cycle => rfl
  | blank empty => exact empty.symm

theorem examined_walk (contents : Contents) (slot : Slot) :
    (contents.walk slot).examined = (contents.walk slot).trail.seen := by
  have inside := Walk.ending_ne_outside contents (contents.read slot) false
    (Trail.start (Address.ofSlot slot))
  unfold Walk.examined
  split
  · rename_i formula outside
    exact absurd outside (inside formula)
  · rfl

theorem atFault_of_outcome {path : List Address} {stop : Slot}
    (complete : CompleteRoute contents (contents.read slot) (Address.ofSlot slot) path
      (contents.read stop))
    (single : path.length = 1 ↔ stop = slot)
    (reaches : ∀ via, Address.ofSlot via ∈ path → ReflTransGen contents.Refers via stop)
    (failed : Route.outcome policy path (contents.read stop) = .error fault) :
    contents.AtFault policy stop fault := by
  unfold Route.outcome at failed
  cases content : Content.ofText (contents.read stop) with
  | empty =>
    simp only [content] at failed
    split at failed
    · cases failed
    · rename_i charged
      rw [single, not_or] at charged
      obtain ⟨different, policyRejects⟩ := charged
      have reject : policy = .reject := by cases policy <;> simp_all
      rcases (reaches slot complete.route.address_mem).cases_tail with
        same | ⟨source, _, refers⟩
      · exact absurd same different
      · rw [← Except.error.inj failed]
        exact .blank (Content.ofText_eq_empty_iff.mp content) reject refers
  | literal literal =>
    obtain ⟨_, _, same⟩ := Content.ofText_eq_literal_iff.mp content
    subst same
    simp only [content] at failed
    have named := Literal.fault_of_read failed
    subst named
    exact .literal content failed
  | formula formula =>
    obtain ⟨_, same⟩ := Content.ofText_eq_formula_iff.mp content
    subst same
    simp only [content] at failed
    rw [← Except.error.inj failed]
    cases names : Address.ofFormula? (contents.read stop) with
    | none => exact .formula content (Address.ofFormula?_eq_none_iff.mp names)
    | some address =>
      have named := Address.ofFormula_eq_ok_iff.mpr names
      obtain ⟨target, same⟩ := Address.exists_slot_of_ofFormula named
      subst same
      exact .cycle (complete.cycle_of_refers reaches rfl named)

theorem atFault_of_resolve (failed : contents.resolve policy slot = .error fault) :
    ∃ stop, (contents.walk slot).examined.head? = some (Address.ofSlot stop) ∧
      ReflTransGen contents.Refers slot stop ∧ contents.AtFault policy stop fault := by
  obtain ⟨path, last, complete, seen, outcome⟩ :=
    Walk.ofText_route contents (contents.read slot) (Address.ofSlot slot)
  obtain ⟨stop, arrived, final, single, reaches⟩ := complete.route.arrives
  subst final
  rw [resolve, outcome policy] at failed
  refine ⟨stop, ?_, reaches slot complete.route.address_mem,
    atFault_of_outcome complete single reaches failed⟩
  have examined : (contents.walk slot).examined = path.reverse :=
    (examined_walk contents slot).trans seen
  rw [examined, List.head?_reverse, arrived]

theorem AtFault.ended_or_cycle (blame : contents.AtFault policy slot fault) :
    (∀ next, ¬ contents.Refers slot next) ∨ TransGen contents.Refers slot slot := by
  cases blame with
  | literal content =>
    left
    intro next refers
    rw [refers.content] at content
    cases content
  | formula _ refused =>
    left
    intro next refers
    rw [Refers, refused] at refers
    cases refers
  | cycle cycle => exact .inr cycle
  | blank empty => exact .inl (holds_of_empty empty).not_refers

theorem AtFault.empty_of_holds (blame : contents.AtFault policy slot fault)
    (holds : contents.Holds slot value) : contents.read slot = "" ∧ policy = .reject := by
  cases blame with
  | literal content refused =>
    simp only [Holds, content, refused] at holds
    cases holds
  | formula content => simp only [Holds, content] at holds
  | cycle cycle =>
    obtain ⟨next, refers, _⟩ := TransGen.head'_iff.mp cycle
    exact absurd refers (holds.not_refers next)
  | blank empty reject => exact ⟨empty, reject⟩

theorem AtFault.eq_of_reached (blame : contents.AtFault policy culprit fault)
    (fine : contents.resolve policy slot = .ok former)
    (reached : ReflTransGen contents.Refers slot culprit) : slot = culprit := by
  obtain ⟨stop, ended, holds, allowed⟩ := resolve_eq_ok_iff.mp fine
  have onwards : ReflTransGen contents.Refers culprit stop := by
    rcases reached.total_of_right_unique (refers_unique contents) ended with onwards | back
    · exact onwards
    · have same := Worksheet.eq_of_reached holds.not_refers back
      exact same ▸ .refl
  -- The culprit is on the way to the end, and from a cycle there is no way to an end.
  rcases blame.ended_or_cycle with noTarget | cycle
  · have same := Worksheet.eq_of_reached noTarget onwards
    subst same
    obtain ⟨empty, reject⟩ := blame.empty_of_holds holds
    rcases allowed empty with same | zero
    · exact same.symm
    · rw [reject] at zero
      cases zero
  · have again := cycle_of_reached (refers_unique contents) cycle onwards
    obtain ⟨next, refers, _⟩ := TransGen.head'_iff.mp again
    exact absurd refers (holds.not_refers next)

section Write

variable (accepted : Literal.read text = .ok value)

include accepted

theorem holds_write (contents : Contents) (slot : Slot) :
    (contents.write slot text).Holds slot value := by
  simp only [Holds, read_write, if_pos, Literal.content_of_read accepted, accepted]

theorem ne_empty_of_read : text ≠ "" := by
  have content := Literal.content_of_read accepted
  exact (Content.ofText_eq_literal_iff.mp content).1

theorem refers_write_iff : (contents.write culprit text).Refers slot target ↔
    slot ≠ culprit ∧ contents.Refers slot target := by
  by_cases same : slot = culprit
  · subst same
    simp only [ne_eq, not_true_eq_false, false_and, iff_false]
    exact (holds_write accepted contents slot).not_refers target
  · simp only [Refers, read_write, Ne.symm same, if_false, ne_eq, same, not_false_eq_true,
      true_and]

theorem resolve_write_of_reached (reached : ReflTransGen contents.Refers slot culprit) :
    (contents.write culprit text).resolve policy slot = .ok value := by
  -- A number refers to nothing, so the path must end where it comes to the culprit first.
  have kept : ReflTransGen (contents.write culprit text).Refers slot culprit :=
    ReflTransGen.mono (fun _ _ => (refers_write_iff accepted).mpr) _ _
      (reached_without_leaving reached)
  refine resolve_eq_ok_iff.mpr ⟨culprit, kept, holds_write accepted contents culprit, ?_⟩
  intro empty
  rw [read_write, if_pos rfl] at empty
  exact absurd empty (ne_empty_of_read accepted)

theorem resolve_write_of_fine (blame : contents.AtFault policy culprit fault)
    (different : slot ≠ culprit) (fine : contents.resolve policy slot = .ok former) :
    (contents.write culprit text).resolve policy slot = .ok former := by
  obtain ⟨stop, ended, holds, allowed⟩ := resolve_eq_ok_iff.mp fine
  have apart : ∀ via, ReflTransGen contents.Refers slot via → via ≠ culprit := by
    intro via reached same
    subst same
    exact different (blame.eq_of_reached fine reached)
  have kept : ReflTransGen (contents.write culprit text).Refers slot stop := by
    clear holds allowed
    induction ended with
    | refl => exact .refl
    | tail before step ih => exact ih.tail ((refers_write_iff accepted).mpr ⟨apart _ before, step⟩)
  have same : (contents.write culprit text).read stop = contents.read stop := by
    rw [read_write, if_neg (apart stop ended).symm]
  refine resolve_eq_ok_iff.mpr ⟨stop, kept, ?_, same ▸ allowed⟩
  rw [Holds, same]
  exact holds

theorem length_failing_write_lt (blame : contents.AtFault policy culprit fault)
    (failed : contents.resolve policy slot = .error fault)
    (reached : ReflTransGen contents.Refers slot culprit) :
    ((contents.write culprit text).failing policy).length < (contents.failing policy).length := by
  simp only [failing, ← List.countP_eq_length_filter]
  -- No cell loses its value, and the one that led to the culprit gains one.
  refine Trail.countP_lt_of_mem (List.mem_finRange slot) ?_ ?_ ?_
  · intro other fails
    cases fine : contents.resolve policy other with
    | error => rfl
    | ok former =>
      rcases eq_or_ne other culprit with same | different
      · subst same
        rw [resolve_write_of_reached accepted .refl] at fails
        cases fails
      · rw [resolve_write_of_fine accepted blame different fine] at fails
        cases fails
  · rw [failed]
    rfl
  · rw [resolve_write_of_reached accepted reached]
    rfl

end Write

theorem mem_failing : slot ∈ contents.failing policy ↔
    ∃ fault, contents.resolve policy slot = .error fault := by
  simp only [failing, List.mem_filter, List.mem_finRange, true_and]
  cases contents.resolve policy slot <;> simp [faultOf?]

theorem length_failing_le (contents : Contents) (policy : Policy) :
    (contents.failing policy).length ≤ rows * cols := by
  have bound := List.length_filter_le (fun slot => (faultOf? (contents.resolve policy slot)).isSome)
    (List.finRange (rows * cols))
  rwa [List.length_finRange] at bound

theorem head?_failing (failed : contents.resolve policy slot = .error fault)
    (before : ∀ earlier < slot, ∃ value, contents.resolve policy earlier = .ok value) :
    (contents.failing policy).head? = some slot := by
  rw [failing, List.head?_filter, List.find?_eq_some_iff_getElem]
  refine ⟨by rw [failed]; rfl, slot, by simp, by simp, ?_⟩
  intro j less
  obtain ⟨value, fine⟩ := before ⟨j, by omega⟩ less
  simp [fine, faultOf?]

theorem failing_eq_nil_iff : contents.failing policy = [] ↔
    ∃ values, contents.evaluate policy = .ok values := by
  rw [exists_evaluate_iff, List.eq_nil_iff_forall_not_mem]
  simp only [mem_failing]
  refine forall_congr' fun slot => ?_
  cases contents.resolve policy slot <;> simp

end Contents

namespace Grid

theorem culprit_of_recalculate {grid : Grid} {fault : Fault}
    (failed : grid.recalculate.1 = .error fault) :
    ∃ first culprit, grid.contents.resolve grid.policy first = .error fault ∧
      (∀ earlier < first, ∃ value, grid.contents.resolve grid.policy earlier = .ok value) ∧
      (grid.contents.walk first).examined.head? = some (Address.ofSlot culprit) ∧
      ReflTransGen grid.contents.Refers first culprit ∧
      grid.contents.AtFault grid.policy culprit fault ∧
      grid.contents.culprit? grid.policy = some culprit := by
  obtain ⟨first, failed, before⟩ :=
    Contents.evaluate_eq_error_iff.mp (recalculate_eq_error_iff.mp failed)
  obtain ⟨culprit, examined, reached, blame⟩ := Contents.atFault_of_resolve failed
  refine ⟨first, culprit, failed, before, examined, reached, blame, ?_⟩
  simp only [Contents.culprit?, Contents.head?_failing failed before, examined,
    Option.bind_eq_bind, Option.bind_some, Address.slot?_ofSlot]

theorem length_failing_repair (grid : Grid) {text : String} {value : Binary64}
    (accepted : Literal.read text = .ok value) :
    ((grid.repair text).contents.failing (grid.repair text).policy).length ≤
      (grid.contents.failing grid.policy).length - 1 := by
  cases result : grid.recalculate.1 with
  | ok =>
    have none := Contents.failing_eq_nil_iff.mpr (recalculate_eq_ok_iff.mp result)
    simp [repair, Contents.culprit?, none]
  | error fault =>
    obtain ⟨first, culprit, failed, _, _, reached, blame, found⟩ := culprit_of_recalculate result
    have less := Contents.length_failing_write_lt accepted blame failed reached
    simp only [repair, found]
    exact Nat.le_sub_one_of_lt less

theorem length_failing_repairAll (grid : Grid) {texts : List String}
    (accepted : ∀ text ∈ texts, ∃ value, Literal.read text = .ok value) :
    ((grid.repairAll texts).contents.failing (grid.repairAll texts).policy).length ≤
      (grid.contents.failing grid.policy).length - texts.length := by
  induction texts generalizing grid with
  | nil => exact Nat.le_refl _
  | cons text rest ih =>
    obtain ⟨value, read⟩ := accepted text List.mem_cons_self
    have once := length_failing_repair grid read
    have others := ih (grid.repair text) fun text member =>
      accepted text (List.mem_cons_of_mem _ member)
    simp only [repairAll, List.foldl_cons, List.length_cons] at others ⊢
    omega

theorem repairAll_succeeds (grid : Grid) {texts : List String}
    (accepted : ∀ text ∈ texts, ∃ value, Literal.read text = .ok value)
    (enough : rows * cols ≤ texts.length) : (grid.repairAll texts).recalculate.1 = .ok () := by
  have bound := Contents.length_failing_le grid.contents grid.policy
  have left := length_failing_repairAll grid accepted
  have none : (grid.repairAll texts).contents.failing (grid.repairAll texts).policy = [] := by
    rw [← List.length_eq_zero_iff]
    omega
  exact recalculate_eq_ok_iff.mpr (Contents.failing_eq_nil_iff.mp none)

structure Blame (grid : Grid) (fault : Fault) (first culprit : Slot) : Prop where
  failed : grid.contents.resolve grid.policy first = .error fault
  before : ∀ earlier < first, ∃ value, grid.contents.resolve grid.policy earlier = .ok value
  examined : (grid.contents.walk first).examined.head? = some (Address.ofSlot culprit)
  found : grid.contents.culprit? grid.policy = some culprit
  text : fault.text = grid.contents.read culprit
  atFault : grid.contents.AtFault grid.policy culprit fault
  mended : ∀ text value, Literal.read text = .ok value →
    (grid.write culprit text).contents.resolve grid.policy first = .ok value
  undisturbed : ∀ text value, Literal.read text = .ok value → ∀ slot ≠ culprit, ∀ former,
    grid.contents.resolve grid.policy slot = .ok former →
      (grid.write culprit text).contents.resolve grid.policy slot = .ok former
  fewer : ∀ text value, Literal.read text = .ok value →
    ((grid.write culprit text).contents.failing grid.policy).length <
      (grid.contents.failing grid.policy).length

/-- When a recalculation fails, the walk from the first cell without a value ends in a cell that is
    at fault itself, and its text is reported. A number typed there mends the first cell, takes no
    value from another one and leaves fewer cells without, so there is an end to such repairs
    after as many as the grid has cells. -/
theorem recalculate_blames_culprit (grid : Grid) (fault : Fault)
    (failed : grid.recalculate.1 = .error fault) :
    (∃ first culprit, grid.Blame fault first culprit) ∧
      ∀ texts : List String, (∀ text ∈ texts, ∃ value, Literal.read text = .ok value) →
        texts.length = rows * cols → (grid.repairAll texts).recalculate.1 = .ok () := by
  constructor
  · obtain ⟨first, culprit, fails, before, examined, reached, blame, found⟩ :=
      culprit_of_recalculate failed
    exact ⟨first, culprit, {
      failed := fails
      before := before
      examined := examined
      found := found
      text := blame.text_eq
      atFault := blame
      mended := fun _ _ accepted => Contents.resolve_write_of_reached accepted reached
      undisturbed := fun _ _ accepted _ different _ =>
        Contents.resolve_write_of_fine accepted blame different
      fewer := fun _ _ accepted => Contents.length_failing_write_lt accepted blame fails reached }⟩
  · intro texts accepted enough
    exact repairAll_succeeds grid accepted (Nat.le_of_eq enough.symm)

def looped : Grid :=
  (((empty .zero).write 0 "=B0").write 1 "=C0").write 2 "=B0"

theorem looped_blames_culprit : looped.recalculate.1 = .error (.badFormula "=B0") ∧
    (∃ first, looped.Blame (.badFormula "=B0") first 2) ∧
    (looped.repairAll (List.replicate (rows * cols) "7")).recalculate.1 = .ok () := by
  have failed : looped.recalculate.1 = .error (.badFormula "=B0") := by decide +kernel
  have last : looped.contents.culprit? looped.policy = some 2 := by decide +kernel
  have seven : ∃ value, Literal.read "7" = .ok value := ⟨_, rfl⟩
  obtain ⟨⟨first, culprit, blame⟩, repaired⟩ := recalculate_blames_culprit looped _ failed
  have same : culprit = 2 := Option.some.inj (blame.found.symm.trans last)
  subst same
  refine ⟨failed, ⟨first, blame⟩, repaired _ ?_ List.length_replicate⟩
  intro text member
  rw [(List.mem_replicate.mp member).2]
  exact seven

end Grid

end Worksheet
