import Worksheet.Proofs.Effects
import Worksheet.Proofs.Visiting

namespace Worksheet

namespace Grid

variable {grid : Grid} {slot : Slot} {result : Except Fault Unit} {next : Grid}

theorem setAllCached_eq (grid : Grid) (values : Slot → Option Binary64) (slots : List Slot) :
    ∃ cache, grid.setAllCached values slots = { grid with cache } ∧
      (∀ slot ∈ slots, cache.read slot = values slot) ∧
      ∀ slot ∉ slots, cache.read slot = grid.cached slot := by
  induction slots generalizing grid with
  | nil => exact ⟨grid.cache, rfl, fun _ member => absurd member List.not_mem_nil, fun _ _ => rfl⟩
  | cons first rest ih =>
    obtain ⟨cache, same, inside, outside⟩ := ih (grid.setCached first (values first))
    have written : ∀ slot, (grid.setCached first (values first)).cached slot =
        if first = slot then values first else grid.cached slot :=
      fun slot => Slots.read_write ..
    refine ⟨cache, same, ?_, ?_⟩
    · intro slot member
      by_cases later : slot ∈ rest
      · exact inside slot later
      · have here := (List.mem_cons.mp member).resolve_right later
        rw [outside slot later, written, if_pos here.symm, here]
    · intro slot absent
      rw [List.mem_cons, not_or] at absent
      rw [outside slot absent.2, written, if_neg (Ne.symm absent.1)]

theorem setAllCached_finRange {values : Slot → Option Binary64} {cache : Slots (Option Binary64)}
    (read : ∀ slot, cache.read slot = values slot) (grid : Grid) :
    grid.setAllCached values (List.finRange (rows * cols)) = { grid with cache } := by
  obtain ⟨written, same, inside, _⟩ := grid.setAllCached_eq values (List.finRange (rows * cols))
  have all : written = cache := by
    apply Slots.ext_of
    intro slot
    rw [inside slot (List.mem_finRange slot), read]
  rw [same, all]

theorem setAllCached_filled (grid : Grid) (values : Slots Binary64) :
    { grid.setAllCached (fun slot => some (values.read slot)) (List.finRange (rows * cols)) with
      clean := true } = grid.filled values := by
  rw [setAllCached_finRange (Slots.read_map some values)]
  rfl

theorem setAllCached_drained (grid : Grid) :
    { grid.setAllCached (fun _ => none) (List.finRange (rows * cols)) with clean := false } =
      grid.drained := by
  rw [setAllCached_finRange (Slots.read_all none)]
  rfl

theorem resolves_iff {result : Except Fault Binary64} :
    grid.Resolves slot result ↔ grid.contents.resolve grid.policy slot = result := by
  constructor
  · intro ⟨cell, count, walk, found, ends, verdict⟩
    rw [grid.cell?_ofSlot, Option.some.injEq] at found
    subst found
    rw [← verdict, ← ends.walk_eq]
    rfl
  · intro resolved
    obtain ⟨count, walk, ends, _⟩ := Visit.exists_ends_of_start grid
      ⟨grid.contents.read slot, grid.cached slot⟩ (Address.ofSlot slot)
    refine ⟨_, count, walk, grid.cell?_ofSlot slot, ends, ?_⟩
    rw [← resolved, ← ends.walk_eq]
    rfl

theorem passes_iff : grid.Passes result next ↔ grid.recalculate = (result, next) := by
  constructor
  · intro passes
    cases passes with
    | succeeds fine =>
      have evaluated := Contents.evaluate_eq_ok_iff.mpr fun slot => resolves_iff.mp (fine slot)
      rw [recalculate_of_ok evaluated, setAllCached_filled]
    | fails failed before =>
      have evaluated := Contents.evaluate_eq_error_iff.mpr ⟨_, resolves_iff.mp failed,
        fun earlier less => (before earlier less).imp fun _ => resolves_iff.mp⟩
      rw [recalculate_of_error evaluated, setAllCached_drained]
  · intro same
    cases evaluated : grid.contents.evaluate grid.policy with
    | ok values =>
      rw [recalculate_of_ok evaluated, ← setAllCached_filled] at same
      cases same
      exact .succeeds fun slot => resolves_iff.mpr (Contents.resolve_of_evaluate evaluated slot)
    | error fault =>
      rw [recalculate_of_error evaluated, ← setAllCached_drained] at same
      cases same
      obtain ⟨first, failed, before⟩ := Contents.evaluate_eq_error_iff.mp evaluated
      exact .fails (resolves_iff.mpr failed) fun earlier less =>
        (before earlier less).imp fun _ => resolves_iff.mpr

theorem recalculate_congr {left right : Grid} (contents : left.contents = right.contents)
    (policy : left.policy = right.policy) : left.recalculate = right.recalculate := by
  rw [← left.recalculate_ofContents, ← right.recalculate_ofContents, contents, policy]

structure Recalculated (grid : Grid) (result : Except Fault Unit) (next : Grid) : Prop where
  passes : ∀ other last, grid.Passes other last ↔ other = result ∧ last = next
  filled : result = .ok () → next.clean = true ∧ ∀ slot, ∃ value, next.cached slot = some value
  drained : ∀ fault, result = .error fault →
    next.clean = false ∧ ∀ slot, next.cached slot = none
  contents : next.contents = grid.contents
  policy : next.policy = grid.policy
  again : next.recalculate = (result, next)

theorem recalculated (grid : Grid) : grid.Recalculated grid.recalculate.1 grid.recalculate.2 where
  passes := by
    intro other last
    rw [passes_iff, Prod.ext_iff]
    exact and_congr eq_comm eq_comm
  filled := by
    intro fine
    obtain ⟨values, evaluated⟩ := recalculate_eq_ok_iff.mp fine
    rw [recalculate_of_ok evaluated]
    exact ⟨rfl, fun slot => ⟨_, grid.cached_filled values slot⟩⟩
  drained := by
    intro fault failed
    rw [recalculate_of_error (recalculate_eq_error_iff.mp failed)]
    exact ⟨rfl, grid.cached_drained⟩
  contents := grid.contents_recalculate
  policy := grid.policy_recalculate
  again := by rw [recalculate_congr grid.contents_recalculate grid.policy_recalculate]

/-- Grids with the same texts and the same policy are the same after a recalculation, whatever
    values they were left with and whether or not they passed for clean. -/
theorem recalculate_forgets_cache (left right : Grid)
    (texts : ∀ slot, left.contents.read slot = right.contents.read slot)
    (policy : left.policy = right.policy) :
    left.recalculate = right.recalculate ∧
      left.Recalculated left.recalculate.1 left.recalculate.2 ∧
      right.Recalculated left.recalculate.1 left.recalculate.2 := by
  have same := recalculate_congr (Contents.ext_of texts) policy
  refine ⟨same, left.recalculated, ?_⟩
  rw [same]
  exact right.recalculated

def feigned : Grid :=
  ⟨(Contents.blank.write 0 "=B0").write 1 "x", .all (some .zero), .reject, true⟩

theorem feigned_forgets_cache :
    feigned.clean = true ∧ feigned.recalculate.1 = .error (.badValue "x") ∧
      feigned.recalculate = (ofContents .reject feigned.contents).recalculate ∧
      feigned.Recalculated feigned.recalculate.1 feigned.recalculate.2 ∧
      (ofContents .reject feigned.contents).Recalculated feigned.recalculate.1
        feigned.recalculate.2 := by
  have failed : feigned.recalculate.1 = .error (.badValue "x") := by decide +kernel
  exact ⟨rfl, failed, recalculate_forgets_cache feigned (ofContents .reject feigned.contents)
    (fun _ => rfl) rfl⟩

end Grid

end Worksheet
