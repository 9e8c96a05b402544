import Worksheet.CommandLine.Page

namespace Worksheet

def Inked (chars : List Char) : Prop := ∀ c ∈ chars, ' ' < c

instance (chars : List Char) : Decidable (Inked chars) := List.decidableBAll (' ' < ·) chars

namespace Inked

variable {left right chars : List Char}

theorem append (inkedLeft : Inked left) (inkedRight : Inked right) : Inked (left ++ right) := by
  intro c member
  rcases List.mem_append.mp member with member | member
  · exact inkedLeft c member
  · exact inkedRight c member

theorem cons {c : Char} (head : ' ' < c) (tail : Inked chars) : Inked (c :: chars) := by
  intro other member
  rcases List.mem_cons.mp member with same | member
  · exact same ▸ head
  · exact tail other member

theorem sublist (inked : Inked right) (sub : left.Sublist right) : Inked left :=
  fun c member => inked c (sub.subset member)

theorem not_mem {c : Char} (inked : Inked chars) (blank : ¬ ' ' < c) : c ∉ chars :=
  fun member => blank (inked c member)

end Inked

theorem inked_replicate (count : Nat) : Inked (List.replicate count '0') := by
  intro c member
  rw [(List.mem_replicate.mp member).2]
  decide

theorem inked_toDigits (number : Nat) : Inked (Nat.toDigits 10 number) := by
  intro c member
  have digit := Nat.isDigit_of_mem_toDigits (by decide) (Nat.le_refl 10) member
  exact Nat.lt_of_lt_of_le (by decide) (Char.isDigit_iff_toNat.mp digit).1

theorem inked_pointed {digits : List Char} (inked : Inked digits) (places : Nat) :
    Inked (pointed digits places) := by
  have padded := (inked_replicate (places + 1 - digits.length)).append inked
  exact (padded.sublist (List.take_sublist _ _)).append
    (.cons (by decide) (padded.sublist (List.drop_sublist _ _)))

theorem inked_signed (exponent : Int) : Inked (signed exponent) := by
  refine .append ?_ (inked_toDigits _)
  split <;> decide

namespace Decimal

theorem inked_positional (decimal : Decimal) : Inked decimal.positional := by
  have digits := inked_toDigits decimal.digits
  unfold positional
  dsimp only
  split
  · exact inked_pointed digits _
  · exact (digits.append (inked_replicate _)).append (by decide)

theorem inked_scientific (decimal : Decimal) : Inked decimal.scientific := by
  have digits := inked_toDigits decimal.digits
  have tail : Inked (Nat.toDigits 10 decimal.digits).tail := digits.sublist (List.tail_sublist _)
  unfold scientific
  dsimp only
  refine .cons ?_ (.cons (by decide) (.append ?_ (.cons (by decide) (inked_signed _))))
  · cases written : Nat.toDigits 10 decimal.digits with
    | nil => decide
    | cons first rest => exact digits first (written ▸ List.mem_cons_self)
  · split
    · decide
    · exact tail

theorem positional_ne_nil (decimal : Decimal) : decimal.positional ≠ [] := by
  unfold positional pointed
  dsimp only
  split <;> simp

end Decimal

namespace Binary64

theorem inked_unsigned (magnitude : Nat) : Inked (unsigned magnitude) := by
  unfold unsigned
  split
  · decide
  · split
    · decide
    · split
      · exact (shortest magnitude).inked_positional
      · exact (shortest magnitude).inked_scientific

theorem unsigned_ne_nil (magnitude : Nat) : unsigned magnitude ≠ [] := by
  unfold unsigned
  split
  · decide
  · split
    · decide
    · split
      · exact (shortest magnitude).positional_ne_nil
      · exact List.cons_ne_nil _ _

theorem inked_text (x : Binary64) : Inked x.text.toList := by
  unfold text
  split
  · decide
  · rw [String.toList_ofList]
    refine .append ?_ (inked_unsigned _)
    split <;> decide

theorem text_ne_empty (x : Binary64) : x.text ≠ "" := by
  unfold text
  split
  · decide
  · have shown := unsigned_ne_nil x.magnitude
    simp [← String.toList_eq_nil_iff, shown]

end Binary64

theorem Contents.inked_shown (contents : Contents) (policy : Policy) (address : Address) :
    Inked (contents.shown policy address).toList := by
  unfold shown
  split
  · exact Binary64.inked_text _
  · decide

namespace CommandLine

variable {lines fields : List String}

theorem toList_written_cons (line : String) (lines : List String) :
    (written (line :: lines)).toList = line.toList ++ '\n' :: (written lines).toList := by
  simp [written, String.toList_join]

theorem linesOf_written (unbroken : ∀ line ∈ lines, '\n' ∉ line.toList) :
    linesOf (written lines) = lines := by
  have parts : (written lines).toList.splitOn '\n' = lines.map String.toList ++ [[]] := by
    induction lines with
    | nil => rfl
    | cons line rest ih =>
      rw [toList_written_cons,
        List.splitOn_append_cons_self_of_not_mem (unbroken line List.mem_cons_self),
        ih fun other member => unbroken other (List.mem_cons_of_mem _ member)]
      rfl
  simp [linesOf, String.toList_split_char, parts, Function.comp_def]

theorem written_singleton (line : String) : written [line] = line ++ "\n" := by
  simp [written, String.join]

theorem written_append (first second : List String) :
    written (first ++ second) = written first ++ written second := by
  apply String.toList_injective
  simp [written, String.toList_join]

theorem stderr_warned (outcome : Outcome) (warning : Option String) :
    (outcome.warned warning).stderr = warningText warning ++ outcome.stderr := by
  rw [Outcome.stderr, Outcome.warned, List.flatMap_append, written_append]
  cases warning with
  | none => rfl
  | some text => simp [Report.lines, written, warningText, Outcome.stderr]

theorem fieldsOf_tabbed (nonempty : fields ≠ []) (inked : ∀ field ∈ fields, Inked field.toList) :
    fieldsOf (tabbed fields) = fields := by
  have whole : ∀ field ∈ fields, '\t' ∉ field.toList :=
    fun field member => (inked field member).not_mem (by decide)
  have parts := String.toList_split_intercalate whole
  rw [if_neg nonempty] at parts
  exact parts

theorem newline_not_mem_tabbed (inked : ∀ field ∈ fields, Inked field.toList) :
    '\n' ∉ (tabbed fields).toList := by
  unfold tabbed
  rw [String.toList_intercalate]
  induction fields with
  | nil => simp
  | cons first rest ih =>
    have here := (inked first List.mem_cons_self).not_mem (c := '\n') (by decide)
    have later := ih fun field member => inked field (List.mem_cons_of_mem _ member)
    cases rest with
    | nil => simpa using here
    | cons second rest =>
      simp only [List.map_cons, List.intercalate_cons_cons, List.mem_append, not_or] at later ⊢
      exact ⟨⟨here, by decide⟩, later⟩

theorem range_eq_ofFn {α : Type} (n : Nat) (item : Nat → α) :
    (List.range n).map item = List.ofFn fun i : Fin n => item i := by
  apply List.ext_getElem
  · simp only [List.length_map, List.length_range, List.length_ofFn]
  · intro i _ _
    simp only [List.getElem_map, List.getElem_range, List.getElem_ofFn]

theorem map_addressRows (shown : Address → String) :
    addressRows.map (List.map shown) =
      List.ofFn fun row : Fin rows => List.ofFn fun col : Fin cols => shown ⟨col, row⟩ := by
  simp only [addressRows, range_eq_ofFn, List.map_ofFn, Function.comp_def]

def rowFields (shown : Address → String) (row : Fin rows) : List String :=
  row.val.repr :: List.ofFn fun col : Fin cols => shown ⟨col, row⟩

def heading : String := tabbed ("" :: Address.columnLetters.map Char.toString)

theorem tableLines_addressRows (shown : Address → String) :
    tableLines (addressRows.map (List.map shown)) =
      heading :: List.ofFn fun row => tabbed (rowFields shown row) := by
  rw [map_addressRows, tableLines]
  refine congrArg _ (List.ext_getElem (by simp) fun i _ _ => ?_)
  simp [rowFields]

theorem getElem?_rowFields (shown : Address → String) (row : Fin rows) (col : Fin cols) :
    (rowFields shown row)[col.val + 1]? = some (shown ⟨col, row⟩) := by
  rw [rowFields, List.getElem?_cons_succ, List.getElem?_ofFn, dif_pos col.isLt]

section Inked

variable {shown : Address → String} (inked : ∀ address, Inked (shown address).toList)

include inked

theorem inked_rowFields (row : Fin rows) : ∀ field ∈ rowFields shown row, Inked field.toList := by
  intro field member
  rcases List.mem_cons.mp member with same | member
  · rw [same, Nat.toList_repr]
    exact inked_toDigits row
  · obtain ⟨col, same⟩ := List.mem_ofFn.mp member
    exact same ▸ inked _

theorem fieldsOf_row (row : Fin rows) :
    fieldsOf (tabbed (rowFields shown row)) = rowFields shown row :=
  fieldsOf_tabbed (List.cons_ne_nil _ _) (inked_rowFields inked row)

theorem linesOf_page (gets : List Address) (table : Bool) :
    linesOf (written (page shown gets table)) = gets.map shown ++
      if table then heading :: List.ofFn fun row => tabbed (rowFields shown row) else [] := by
  rw [page, tableLines_addressRows]
  apply linesOf_written
  intro line member
  rcases List.mem_append.mp member with read | tabled
  · obtain ⟨address, _, same⟩ := List.mem_map.mp read
    exact same ▸ (inked address).not_mem (by decide)
  · cases table with
    | false => cases tabled
    | true =>
      rcases List.mem_cons.mp tabled with same | row
      · exact same ▸ newline_not_mem_tabbed (by decide)
      · obtain ⟨row, same⟩ := List.mem_ofFn.mp row
        exact same ▸ newline_not_mem_tabbed (inked_rowFields inked row)

end Inked

end CommandLine

end Worksheet
