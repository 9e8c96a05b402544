import Worksheet.Proofs.Effects

namespace Worksheet

namespace Contents

variable {entries before after : List (Address × String)} {order : List Slot} {address : Address}
  {text : String} {slot : Slot}

def blanks (order : List Slot) : List (Address × String) :=
  order.map fun slot => (Address.ofSlot slot, "")

theorem inside_blanks (order : List Slot) : ∀ entry ∈ blanks order, entry.1.InBounds := by
  intro entry member
  obtain ⟨slot, _, same⟩ := List.mem_map.mp member
  exact same ▸ Address.ofSlot_inBounds slot

theorem overlaid_blanks (covers : ∀ slot, slot ∈ order) (contents : Contents) :
    contents.overlaid (blanks order) = blank := by
  apply ext_of
  intro slot
  rw [read_overlaid, read_blank]
  cases found : (blanks order).reverse.lookup (Address.ofSlot slot) with
  | none =>
    have member : (Address.ofSlot slot, "") ∈ (blanks order).reverse :=
      List.mem_reverse.mpr (List.mem_map.mpr ⟨slot, covers slot, rfl⟩)
    have different := List.lookup_eq_none_iff.mp found _ member
    rw [bne_self_eq_false] at different
    cases different
  | some text =>
    obtain ⟨later, earlier, same, _⟩ := List.lookup_eq_some_iff.mp found
    have member : (Address.ofSlot slot, text) ∈ (blanks order).reverse := by
      rw [same]
      exact List.mem_append_right _ List.mem_cons_self
    obtain ⟨_, _, entry⟩ := List.mem_map.mp (List.mem_reverse.mp member)
    exact (congrArg Prod.snd entry).symm

theorem read_listed_of_last (last : ∀ entry ∈ after, entry.1 ≠ Address.ofSlot slot) :
    (listed (before ++ (Address.ofSlot slot, text) :: after)).read slot = text := by
  rw [read_listed, lookup_reverse_of_last last, Option.getD_some]

theorem read_listed_of_absent (absent : ∀ entry ∈ entries, entry.1 ≠ Address.ofSlot slot) :
    (listed entries).read slot = "" := by
  have missing : entries.reverse.lookup (Address.ofSlot slot) = none := by
    rw [List.lookup_eq_none_iff]
    intro entry member
    exact bne_iff_ne.mpr (absent entry (List.mem_reverse.mp member)).symm
  rw [read_listed, missing, Option.getD_none]

end Contents

namespace Sheet

variable {sheet : Sheet} {entries : List (Address × String)} {order : List Slot}
  {address : Address} {slot : Slot}

def edit (entry : Address × String) : Request := .setContent entry.1 entry.2

def stepwise (order : List Slot) (entries : List (Address × String)) : List Request :=
  order.map (fun slot => .clear (Address.ofSlot slot)) ++ entries.map edit

def rewritten (sheet : Sheet) (contents : Contents) : Except SheetError Answer × Sheet :=
  answer (fun _ => .done) (sheet.settle (.ofContents sheet.grid.policy contents))

theorem rewritten_keeps (sheet : Sheet) (contents : Contents) :
    (sheet.rewritten contents).2.grid.contents = contents ∧
      (sheet.rewritten contents).2.grid.policy = sheet.grid.policy ∧
      (sheet.rewritten contents).2.selection = sheet.selection := by
  simp only [rewritten, answer, settle_eq, Grid.contents_recalculate, Grid.policy_recalculate]
  exact ⟨rfl, rfl, trivial⟩

theorem rewritten_congr {other : Sheet} (policy : other.grid.policy = sheet.grid.policy)
    (selection : other.selection = sheet.selection) (contents : Contents) :
    other.rewritten contents = sheet.rewritten contents := by
  simp only [rewritten, settle_eq, policy, selection]

theorem perform_edit (place : address.slot? = some slot) (sheet : Sheet) (text : String) :
    sheet.perform (edit (address, text)) =
      sheet.rewritten (sheet.grid.contents.write slot text) := by
  simp only [edit, perform, setContent, place, store_eq, rewritten]

theorem perform_load (inside : ∀ entry ∈ entries, entry.1.InBounds) (sheet : Sheet) :
    sheet.perform (.load entries) = sheet.rewritten (.listed entries) := by
  have loaded : Contents.ofEntries entries = .ok (.listed entries) := by
    rw [Contents.listed_eq_overlaid]
    exact Contents.putAll_of_inside inside .blank
  simp only [perform, load, loaded, rewritten]

theorem performAll_nil (sheet : Sheet) : sheet.performAll [] = ([], sheet) := rfl

theorem performAll_cons (sheet : Sheet) (request : Request) (rest : List Request) :
    sheet.performAll (request :: rest) =
      ((sheet.perform request).1 :: ((sheet.perform request).2.performAll rest).1,
        ((sheet.perform request).2.performAll rest).2) := by
  rw [performAll]

theorem performAll_append (sheet : Sheet) (first second : List Request) :
    sheet.performAll (first ++ second) =
      ((sheet.performAll first).1 ++ ((sheet.performAll first).2.performAll second).1,
        ((sheet.performAll first).2.performAll second).2) := by
  induction first generalizing sheet with
  | nil => rfl
  | cons request rest ih => simp only [List.cons_append, performAll_cons, ih]

theorem performAll_clear (sheet : Sheet) (order : List Slot) :
    sheet.performAll (order.map fun slot => .clear (Address.ofSlot slot)) =
      sheet.performAll ((Contents.blanks order).map edit) := by
  induction order generalizing sheet with
  | nil => rfl
  | cons slot rest ih =>
    simp only [Contents.blanks, List.map_cons, performAll_cons, edit, perform, clear] at ih ⊢
    rw [ih]

theorem performAll_stepwise (sheet : Sheet) (order : List Slot)
    (entries : List (Address × String)) :
    sheet.performAll (stepwise order entries) =
      sheet.performAll ((Contents.blanks order ++ entries).map edit) := by
  rw [stepwise, List.map_append, performAll_append, performAll_append, performAll_clear]

theorem performAll_edits (sheet : Sheet) (inside : ∀ entry ∈ entries, entry.1.InBounds) :
    (sheet.performAll (entries.map edit)).2.grid.contents =
        sheet.grid.contents.overlaid entries ∧
      (sheet.performAll (entries.map edit)).2.grid.policy = sheet.grid.policy ∧
      (sheet.performAll (entries.map edit)).2.selection = sheet.selection := by
  induction entries generalizing sheet with
  | nil => exact ⟨(Contents.overlaid_nil _).symm, rfl, rfl⟩
  | cons entry rest ih =>
    obtain ⟨address, text⟩ := entry
    obtain ⟨here, later⟩ := List.forall_mem_cons.mp inside
    obtain ⟨slot, place⟩ := Address.exists_slot_of_inBounds here
    obtain ⟨contents, policy, selection⟩ :=
      sheet.rewritten_keeps (sheet.grid.contents.write slot text)
    rw [List.map_cons, performAll_cons, perform_edit place, Contents.overlaid_cons place]
    have others := ih (sheet.rewritten (sheet.grid.contents.write slot text)).2 later
    rwa [contents, policy, selection] at others

theorem performAll_edits_last (inside : ∀ entry ∈ entries, entry.1.InBounds)
    (nonempty : entries ≠ []) (sheet : Sheet) :
    ∃ earlier, sheet.performAll (entries.map edit) =
      (earlier ++ [(sheet.rewritten (sheet.grid.contents.overlaid entries)).1],
        (sheet.rewritten (sheet.grid.contents.overlaid entries)).2) := by
  -- Those before the last may fail or not. Only the texts they leave matter for the last one.
  obtain ⟨before, ⟨address, text⟩, same⟩ :=
    (List.eq_nil_or_concat entries).resolve_left nonempty
  rw [List.concat_eq_append] at same
  subst same
  obtain ⟨insideBefore, insideLast⟩ := List.forall_mem_append.mp inside
  obtain ⟨slot, place⟩ := Address.exists_slot_of_inBounds (insideLast _ List.mem_cons_self)
  obtain ⟨contents, policy, selection⟩ := sheet.performAll_edits insideBefore
  have written : sheet.grid.contents.overlaid (before ++ [(address, text)]) =
      (sheet.grid.contents.overlaid before).write slot text := by
    rw [Contents.overlaid_append, Contents.overlaid_cons place, Contents.overlaid_nil]
  refine ⟨(sheet.performAll (before.map edit)).1, ?_⟩
  rw [List.map_append, performAll_append, List.map_singleton, performAll_cons, perform_edit place,
    contents, rewritten_congr policy selection, written, performAll_nil]

/-- Loading entries does the same to a sheet, and answers the same, as emptying all cells in any
    order and making the entries one by one, whatever fails on the way. The last entry for a cell
    counts, and a cell without an entry is empty. -/
theorem load_eq_stepwise (sheet : Sheet) {order : List Slot} {entries : List (Address × String)}
    (covers : ∀ slot, slot ∈ order) (inside : ∀ entry ∈ entries, entry.1.InBounds) :
    (∃ earlier, sheet.performAll (stepwise order entries) =
        (earlier ++ [(sheet.perform (.load entries)).1], (sheet.perform (.load entries)).2)) ∧
      (∀ before after address text, entries = before ++ (address, text) :: after →
        (∀ entry ∈ after, entry.1 ≠ address) →
          (sheet.perform (.load entries)).2.content address = .ok text) ∧
      ∀ slot, (∀ entry ∈ entries, entry.1 ≠ Address.ofSlot slot) →
        (sheet.perform (.load entries)).2.content (Address.ofSlot slot) = .ok "" := by
  rw [perform_load inside]
  obtain ⟨contents, _, _⟩ := sheet.rewritten_keeps (.listed entries)
  refine ⟨?_, ?_, ?_⟩
  · have written : sheet.grid.contents.overlaid (Contents.blanks order ++ entries) =
        .listed entries := by
      rw [Contents.overlaid_append, Contents.overlaid_blanks covers, Contents.listed_eq_overlaid]
    have nonempty : Contents.blanks order ++ entries ≠ [] :=
      List.append_ne_nil_of_left_ne_nil (List.ne_nil_of_mem (List.mem_map_of_mem (covers 0))) _
    rw [performAll_stepwise, ← written]
    exact performAll_edits_last
      (List.forall_mem_append.mpr ⟨Contents.inside_blanks order, inside⟩) nonempty sheet
  · intro before after address text same last
    subst same
    obtain ⟨slot, place⟩ := Address.exists_slot_of_inBounds
      (inside (address, text) (List.mem_append_right _ List.mem_cons_self))
    have same := Address.slot?_eq_some_iff.mp place
    subst same
    rw [content, contents, Contents.get?_ofSlot, Contents.read_listed_of_last last]
  · intro slot absent
    rw [content, contents, Contents.get?_ofSlot, Contents.read_listed_of_absent absent]

def amended : List (Address × String) := [(⟨0, 0⟩, "x"), (⟨1, 0⟩, "=A0"), (⟨0, 0⟩, "7")]

theorem amended_eq_stepwise :
    (∀ slot, slot ∈ (List.finRange (rows * cols)).reverse) ∧
      (∀ entry ∈ amended, entry.1.InBounds) ∧
      ∃ earlier, (empty .reject).performAll
          (stepwise (List.finRange (rows * cols)).reverse amended) =
        (earlier ++ [((empty .reject).perform (.load amended)).1],
          ((empty .reject).perform (.load amended)).2) := by
  have covers : ∀ slot, slot ∈ (List.finRange (rows * cols)).reverse :=
    fun slot => List.mem_reverse.mpr (List.mem_finRange slot)
  have inside : ∀ entry ∈ amended, entry.1.InBounds := by decide
  exact ⟨covers, inside, (load_eq_stepwise (empty .reject) covers inside).1⟩

end Sheet

end Worksheet
