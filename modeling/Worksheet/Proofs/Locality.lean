import Worksheet.Proofs.Repair
import Worksheet.Proofs.Visiting

namespace Worksheet

/-- The addresses in the grid whose cells a walk looked into, the last one first. The text that it
    began with stands at none of them. -/
def Walk.visited (walk : Walk) : List Address := walk.examined.dropLast

def Contents.AgreeAt (left right : Contents) (addresses : List Address) : Prop :=
  ∀ address ∈ addresses, left.get? address = right.get? address

instance (left right : Contents) (addresses : List Address) :
    Decidable (left.AgreeAt right addresses) :=
  inferInstanceAs (Decidable (∀ address ∈ addresses, left.get? address = right.get? address))

namespace Walk

variable {contents other : Contents} {text formula next : String} {address target : Address}
  {trail longer : Trail}

theorem exists_seen (contents : Contents) (text : String) (referenced : Bool) (trail : Trail) :
    ∃ slots : List Slot, (extend contents text referenced trail).trail.seen =
      slots.map Address.ofSlot ++ trail.seen := by
  obtain ⟨count, walk, ends, _⟩ :=
    Visit.exists_ends (.ofContents .zero contents) ⟨.ofText text, referenced, trail⟩
  obtain ⟨slots, seen, _⟩ := ends.seen_eq
  have same : extend contents text referenced trail = walk := ends.walk_eq
  exact ⟨slots, same ▸ seen⟩

theorem extend_of_found (content : Content.ofText text = .formula formula)
    (names : Address.ofFormula? formula = some target)
    (entered : trail.enter target = (true, longer)) (found : contents.get? target = some next)
    (referenced : Bool) :
    extend contents text referenced trail = extend contents next true longer := by
  rw [extend]
  simp only [content, names]
  split
  · rename_i again
    cases entered.symm.trans again
  · rename_i again
    cases entered.symm.trans again
    split
    · rename_i missing
      cases found.symm.trans missing
    · rename_i again
      cases found.symm.trans again
      rfl

theorem extend_congr (text : String) (referenced : Bool) (trail : Trail)
    (agree : ∀ via ∈ (extend contents text referenced trail).trail.seen, via ∉ trail.seen →
      other.get? via = contents.get? via) :
    extend other text referenced trail = extend contents text referenced trail := by
  fun_induction extend contents text referenced trail with
  | case1 text referenced trail content =>
    rw [extend]
    simp only [content]
  | case2 text referenced trail literal content =>
    rw [extend]
    simp only [content]
  | case3 text referenced trail formula content broken =>
    rw [extend]
    simp only [content, broken]
  | case4 text referenced trail formula content target names longer entered =>
    rw [extend]
    simp only [content, names]
    split
    · rename_i again
      cases entered.symm.trans again
      rfl
    · rename_i again
      cases entered.symm.trans again
  | case5 text referenced trail formula content target names longer entered missing =>
    -- A formula can only name cells of the grid.
    obtain ⟨slot, same⟩ :=
      Address.exists_slot_of_ofFormula (Address.ofFormula_eq_ok_iff.mpr names)
    subst same
    rw [contents.get?_ofSlot] at missing
    cases missing
  | case6 text referenced trail formula content target names longer entered next found ih =>
    obtain ⟨absent, rest⟩ := Trail.enter_eq_true_iff.mp entered
    obtain ⟨slots, seen⟩ := exists_seen contents next true longer
    have arrived : target ∈ (extend contents next true longer).trail.seen := by
      rw [seen, rest]
      exact List.mem_append_right _ List.mem_cons_self
    have alike : other.get? target = some next := (agree target arrived absent).trans found
    rw [extend_of_found content names entered alike]
    apply ih
    intro via member unseen
    rw [rest] at unseen
    exact agree via member fun earlier => unseen (List.mem_cons_of_mem target earlier)

theorem visited_ofText (contents : Contents) (text : String) (address : Address) :
    ∃ slots : List Slot, (ofText contents text address).visited = slots.map Address.ofSlot ∧
      (ofText contents text address).trail.seen = slots.map Address.ofSlot ++ [address] ∧
      address ∉ slots.map Address.ofSlot := by
  obtain ⟨slots, seen⟩ := exists_seen contents text false (.start address)
  obtain ⟨path, last, complete, walked, _⟩ := ofText_route contents text address
  have seen : (ofText contents text address).trail.seen =
      slots.map Address.ofSlot ++ [address] := seen
  have once : (slots.map Address.ofSlot ++ [address]).Nodup := by
    rw [← seen, walked, List.nodup_reverse]
    exact complete.route.nodup
  have examined : (ofText contents text address).examined =
      (ofText contents text address).trail.seen :=
    examined_of_inside (ending_ne_outside contents text false (.start address))
  refine ⟨slots, ?_, seen, ?_⟩
  · rw [visited, examined, seen, List.dropLast_concat]
  · intro member
    exact (List.nodup_append.mp once).2.2 address member address (List.mem_singleton_self _) rfl

theorem ofText_congr
    (agree : other.AgreeAt contents (ofText contents text address).visited) :
    ofText other text address = ofText contents text address := by
  obtain ⟨slots, visited, seen, _⟩ := visited_ofText contents text address
  rw [visited] at agree
  apply extend_congr
  intro via member fresh
  change via ∈ (ofText contents text address).trail.seen at member
  rw [seen, List.mem_append] at member
  rcases member with later | first
  · exact agree via later
  · exact absurd first fresh

end Walk

namespace Grid

def visited (grid : Grid) (cell : Cell) (address : Address) : List Address :=
  (Walk.ofText grid.contents cell.raw address).visited

def resolved (grid : Grid) (cell : Cell) (address : Address) : Except Fault Binary64 :=
  grid.contents.resolveText grid.policy cell.raw address

variable {grid other : Grid} {cell : Cell} {address : Address}

theorem resolved_congr (policy : other.policy = grid.policy)
    (agree : other.contents.AgreeAt grid.contents (grid.visited cell address)) :
    other.visited cell address = grid.visited cell address ∧
      other.resolved cell address = grid.resolved cell address := by
  have same := Walk.ofText_congr agree
  constructor
  · rw [visited, same, visited]
  · rw [resolved, Contents.resolveText, same, policy]
    rfl

theorem agreeAt_write {addresses : List Address} {slot : Slot}
    (apart : Address.ofSlot slot ∉ addresses) (text : String) :
    (grid.contents.write slot text).AgreeAt grid.contents addresses := by
  intro via member
  cases place : via.slot? with
  | none => simp only [Contents.get?, place, Option.map_none]
  | some there =>
    have same := Address.slot?_eq_some_iff.mp place
    subst same
    have different : slot ≠ there := fun same => apart (same ▸ member)
    simp only [Contents.get?, place, Option.map_some, Contents.read_write, different, if_false]

/-- Only the texts of the cells that a walk visits count, which the address that it begins at is
    never one of. A text typed anywhere else has no effect on it. -/
theorem resolved_from_visited (grid : Grid) (cell : Cell) (address : Address) :
    (∀ via ∈ grid.visited cell address, via.InBounds ∧ via ≠ address) ∧
      (∀ position, position.InBounds → position ∉ grid.visited cell address → ∀ text,
        ∃ former written, grid.put? position text = some (former, written) ∧
          written.resolved cell address = grid.resolved cell address) ∧
      ∀ other : Grid, other.policy = grid.policy →
        other.contents.AgreeAt grid.contents (grid.visited cell address) →
          other.visited cell address = grid.visited cell address ∧
            other.resolved cell address = grid.resolved cell address := by
  obtain ⟨slots, visited, _, apart⟩ := Walk.visited_ofText grid.contents cell.raw address
  refine ⟨?_, ?_, fun other => resolved_congr⟩
  · intro via member
    rw [Grid.visited, visited] at member
    obtain ⟨slot, _, same⟩ := List.mem_map.mp member
    exact ⟨same ▸ Address.ofSlot_inBounds slot, fun here => apart (here ▸ member)⟩
  · intro position inside absent text
    obtain ⟨slot, place⟩ := Address.exists_slot_of_inBounds inside
    have same := Address.slot?_eq_some_iff.mp place
    subst same
    have policy : (grid.write slot text).policy = grid.policy := rfl
    have written : grid.put? (Address.ofSlot slot) text =
        some (grid.contents.read slot, grid.write slot text) := by
      rw [put?, place, Option.map_some]
    exact ⟨_, _, written, (resolved_congr policy (agreeAt_write absent text)).2⟩

def lone : Grid := (empty .reject).write 1 "=A0"

def surrounded : Grid := (ofContents .reject ⟨.all "x"⟩).write 1 "=A0"

theorem surrounded_from_visited : lone.visited ⟨"=B0", none⟩ ⟨0, 0⟩ = [⟨1, 0⟩] ∧
    (∀ slot ≠ 1, surrounded.contents.read slot ≠ lone.contents.read slot) ∧
    surrounded.resolved ⟨"=B0", none⟩ ⟨0, 0⟩ = lone.resolved ⟨"=B0", none⟩ ⟨0, 0⟩ ∧
    lone.resolved ⟨"=B0", none⟩ ⟨0, 0⟩ = .error (.badFormula "=A0") := by
  have visited : lone.visited ⟨"=B0", none⟩ ⟨0, 0⟩ = [⟨1, 0⟩] := by decide +kernel
  obtain ⟨_, _, elsewhere⟩ := resolved_from_visited lone ⟨"=B0", none⟩ ⟨0, 0⟩
  rw [visited] at elsewhere
  obtain ⟨_, same⟩ := elsewhere surrounded rfl (by decide +kernel)
  exact ⟨visited, by decide +kernel, same, by decide +kernel⟩

end Grid

end Worksheet
