import Worksheet.Proofs.Scalars

namespace Worksheet.Json

open Relation (TransGen)
open Scanner (Moves result_seqRight result_map result_giving result_orElse result_filterMap
  result_after result_repeating)

variable {before chars rest piece : List Char} {c : Char} {outer brackets : List Bracket}
  {bracket : Bracket}

namespace Bracket

def item : Bracket → Expected
  | .array => .value
  | .object => .name

def first : Bracket → Expected
  | .array => .firstItem
  | .object => .firstName

end Bracket

theorem skipClose_eq (bracket : Bracket) (outer : List Bracket) : skipClose (bracket :: outer) =
    (symbol bracket.closeMark).giving (.separator, outer) := by
  cases bracket <;> rfl

theorem skipComma_eq (bracket : Bracket) (outer : List Bracket) : skipComma (bracket :: outer) =
    (symbol ',').giving (bracket.item, bracket :: outer) := by
  cases bracket <;> rfl

theorem result_skipString_blank (blank : Blank before) (chars : List Char) :
    skipString.result (before ++ chars) = skipString.result chars := by
  rw [skipString, result_seqRight, result_seqRight, Scanner.itemsAfter, result_map, result_map,
    result_repeating, result_repeating, result_giving, result_giving, result_symbol_blank blank]

theorem result_step_blank (blank : Blank before) (progress : Progress) (chars : List Char) :
    (step progress).result (before ++ chars) = (step progress).result chars := by
  have scalar : skipScalar.result (before ++ chars) = skipScalar.result chars := by
    simp only [skipScalar, result_orElse, result_seqRight, result_after, skip_blanks blank,
      result_symbol_blank blank, result_skipString_blank blank]
  obtain ⟨expected, brackets⟩ := progress
  have value : (beginValue brackets).result (before ++ chars) =
      (beginValue brackets).result chars := by
    simp only [beginValue, result_orElse, result_giving, result_symbol_blank blank, scalar]
  have close : (skipClose brackets).result (before ++ chars) =
      (skipClose brackets).result chars := by
    cases brackets with
    | nil => rfl
    | cons bracket outer => simp only [skipClose_eq, result_giving, result_symbol_blank blank]
  have comma : (skipComma brackets).result (before ++ chars) =
      (skipComma brackets).result chars := by
    cases brackets with
    | nil => rfl
    | cons bracket outer => simp only [skipComma_eq, result_giving, result_symbol_blank blank]
  cases expected <;>
    simp only [step, result_orElse, skipName, result_giving, result_symbol_blank blank,
      result_skipString_blank blank, value, close, comma]

theorem moves_blank {reached : Progress × List Char} {progress : Progress} (blank : Blank before)
    (moves : TransGen (Moves step) (progress, chars) reached) :
    TransGen (Moves step) (progress, before ++ chars) reached := by
  obtain ⟨middle, first, others⟩ := Relation.TransGen.head'_iff.mp moves
  refine Relation.TransGen.head'_iff.mpr ⟨middle, ?_, others⟩
  exact (result_step_blank blank progress chars).trans first

theorem result_step_first (bracket : Bracket) (brackets : List Bracket) (chars : List Char) :
    (step (bracket.first, brackets)).result chars =
      ((skipClose brackets).result chars).or ((step (bracket.item, brackets)).result chars) := by
  cases bracket <;> exact result_orElse _ _ _

theorem result_skipClose (bracket : Bracket) (outer : List Bracket) (rest : List Char) :
    (skipClose (bracket :: outer)).result (bracket.closeMark :: rest) =
      some ((.separator, outer), rest) := by
  rw [skipClose_eq, result_giving]
  cases bracket <;> rw [result_symbol rfl, if_pos rfl] <;> rfl

theorem moves_open (bracket : Bracket) (outer : List Bracket) (rest : List Char) :
    Moves step ((.value, outer), bracket.openMark :: rest)
      ((bracket.first, bracket :: outer), rest) := by
  cases bracket <;>
    simp [Moves, step, beginValue, result_orElse, result_giving, Bracket.openMark, result_symbol,
      isBlank, Bracket.first]

theorem moves_hollow (bracket : Bracket) (outer : List Bracket) (blank : Blank before)
    (rest : List Char) :
    Moves step ((bracket.first, bracket :: outer), before ++ bracket.closeMark :: rest)
      ((.separator, outer), rest) := by
  rw [Moves, result_step_blank blank, result_step_first, result_skipClose]
  rfl

theorem moves_close (bracket : Bracket) (outer : List Bracket) (blank : Blank before)
    (rest : List Char) :
    Moves step ((.separator, bracket :: outer), before ++ bracket.closeMark :: rest)
      ((.separator, outer), rest) := by
  have comma : (skipComma (bracket :: outer)).result (bracket.closeMark :: rest) = none := by
    rw [skipComma_eq, result_giving]
    cases bracket <;> rw [result_symbol rfl] <;> rfl
  rw [Moves, result_step_blank blank, step, result_orElse, comma, result_skipClose]
  rfl

theorem moves_comma (bracket : Bracket) (outer : List Bracket) (blank : Blank before)
    (rest : List Char) :
    Moves step ((.separator, bracket :: outer), before ++ ',' :: rest)
      ((bracket.item, bracket :: outer), rest) := by
  rw [Moves, result_step_blank blank, step, result_orElse, skipComma_eq, result_giving,
    result_symbol rfl, if_pos rfl]
  rfl

def Opens (chars : List Char) : Prop :=
  ∃ before c rest, chars = before ++ c :: rest ∧ Blank before ∧ isBlank c = false ∧
    c ∉ [']', '\x7d']

theorem Opens.append (opens : Opens chars) (rest : List Char) : Opens (chars ++ rest) := by
  obtain ⟨before, c, more, same, blank, solid, open'⟩ := opens
  exact ⟨before, c, more ++ rest, by simp [same], blank, solid, open'⟩

theorem Begins.opens (begins : Begins chars) : Opens chars := by
  obtain ⟨c, rest, same, solid, noBracket⟩ := begins
  refine ⟨[], c, rest, same, blank_nil, solid, ?_⟩
  simp only [List.mem_cons, List.not_mem_nil, or_false, not_or] at noBracket ⊢
  exact ⟨noBracket.2.1, noBracket.2.2.2⟩

theorem result_closeMark_of_opens (opens : Opens chars) (bracket : Bracket) :
    (symbol bracket.closeMark).result chars = none := by
  obtain ⟨before, c, rest, same, blank, solid, open'⟩ := opens
  have ne : c ≠ bracket.closeMark := by
    rintro rfl
    cases bracket <;> exact absurd (by decide) open'
  rw [same, result_symbol_blank blank, result_symbol solid, if_neg ne]

theorem result_skipClose_of_opens (opens : Opens chars) (bracket : Bracket)
    (outer : List Bracket) : (skipClose (bracket :: outer)).result chars = none := by
  rw [skipClose_eq, result_giving, result_closeMark_of_opens opens]
  rfl

theorem Opens.padded (opens : Opens chars) (blank : Blank before) : Opens (before ++ chars) := by
  obtain ⟨more, c, rest, same, blank', solid, open'⟩ := opens
  exact ⟨before ++ more, c, rest, by simp [same], blank_append blank blank', solid, open'⟩

theorem opens_enclosed (bracket : Bracket) (chars : List Char) : Opens (bracket.enclosed chars) :=
  ⟨[], bracket.openMark, _, rfl, blank_nil, by cases bracket <;> rfl, by cases bracket <;> decide⟩

theorem ValueText.opens (value : ValueText chars) : Opens chars := by
  induction value with
  | padded front _ back ih => exact (ih.padded front).append _
  | word listed => exact (begins_word listed).opens
  | number number => exact (begins_number number).opens
  | string string => exact (begins_string string).opens
  | hollow bracket => exact opens_enclosed bracket _
  | array => exact opens_enclosed .array _
  | object => exact opens_enclosed .object _

theorem NameText.opens (name : NameText chars) : Opens chars := by
  obtain ⟨before, quoted, after, front, string, -, same⟩ := name
  rw [same, List.append_assoc]
  exact ((begins_string string).opens.padded front).append _

theorem moves_first {reached : Progress × List Char} (opens : Opens chars)
    (moves : TransGen (Moves step) ((bracket.item, bracket :: outer), chars) reached) :
    TransGen (Moves step) ((bracket.first, bracket :: outer), chars) reached := by
  obtain ⟨middle, first, others⟩ := Relation.TransGen.head'_iff.mp moves
  refine Relation.TransGen.head'_iff.mpr ⟨middle, ?_, others⟩
  rw [Moves, result_step_first, result_skipClose_of_opens opens]
  exact first

theorem moves_scalar (begins : Begins chars)
    (taken : skipScalar.result (chars ++ rest) = some ((), rest)) :
    Moves step ((.value, brackets), chars ++ rest) ((.separator, brackets), rest) := by
  obtain ⟨c, more, same, solid, noBracket⟩ := begins
  subst same
  simp only [List.mem_cons, List.not_mem_nil, or_false, not_or] at noBracket
  rw [List.cons_append] at taken ⊢
  simp only [Moves, step, beginValue, result_orElse, result_giving, result_symbol solid,
    if_neg noBracket.1, if_neg noBracket.2.2.1, taken]
  rfl

theorem moves_name (name : NameText chars) :
    TransGen (Moves step) ((.name, brackets), chars ++ rest) ((.value, brackets), rest) := by
  obtain ⟨before, quoted, after, front, string, back, same⟩ := name
  have passed := string.result front (after ++ ':' :: rest)
  have colon : (symbol ':').result (after ++ ':' :: rest) = some ((), rest) := by
    rw [result_symbol_blank back, result_symbol rfl, if_pos rfl]
  have name : Moves step ((.name, brackets), chars ++ rest)
      ((.colon, brackets), after ++ ':' :: rest) := by
    rw [Moves, step, skipName, result_giving, same, List.append_assoc, List.append_assoc,
      List.singleton_append, passed]
    rfl
  refine .tail (.single name) ?_
  rw [Moves, step, result_giving, colon]
  rfl

/-- Whatever brackets are open, steps lead past this much of a text, except for blanks at its
    end. -/
def Passes (expected : Expected) (piece : List Char) : Prop :=
  ∀ brackets rest, Follows rest → ∃ after, Blank after ∧
    TransGen (Moves step) ((expected, brackets), piece ++ rest)
      ((.separator, brackets), after ++ rest)

theorem passes_scalar (begins : Begins chars)
    (taken : ∀ rest, Follows rest → skipScalar.result (chars ++ rest) = some ((), rest)) :
    Passes .value chars :=
  fun _ rest follows => ⟨[], blank_nil, .single (moves_scalar begins (taken rest follows))⟩

theorem passes_member {name value : List Char} (named : NameText name)
    (passes : Passes .value value) : Passes .name (name ++ value) := by
  intro brackets rest follows
  obtain ⟨after, blank, moves⟩ := passes brackets rest follows
  refine ⟨after, blank, ?_⟩
  rw [List.append_assoc]
  exact (moves_name named).trans moves

theorem follows_blank {after : List Char} (blank : Blank after) (follows : Follows rest) :
    Follows (after ++ rest) := by
  intro c first
  cases after with
  | nil => exact follows c first
  | cons other after =>
    obtain rfl : other = c := Option.some_inj.mp first
    have listed := blank other List.mem_cons_self
    simp only [isBlank, Bool.or_eq_true, decide_eq_true_eq] at listed
    simp only [followers, List.mem_cons]
    tauto

theorem passes_padded {after : List Char} (front : Blank before) (passes : Passes .value chars)
    (back : Blank after) : Passes .value (before ++ chars ++ after) := by
  intro brackets rest follows
  obtain ⟨left, blank, moves⟩ := passes brackets (after ++ rest) (follows_blank back follows)
  refine ⟨left ++ after, blank_append blank back, ?_⟩
  rw [List.append_assoc, List.append_assoc, List.append_assoc]
  exact moves_blank front moves

theorem separated_cons (first : List Char) (others : List (List Char)) :
    separated (first :: others) = first ++ others.flatMap (',' :: ·) := by
  induction others generalizing first with
  | nil => simp [separated, List.intercalate]
  | cons other others ih =>
    have more : separated (first :: other :: others) =
        first ++ ',' :: separated (other :: others) := by
      simp [separated, List.intercalate]
    rw [more, ih, List.flatMap_cons]
    rfl

theorem follows_others (bracket : Bracket) (others : List (List Char)) (rest : List Char) :
    Follows (others.flatMap (',' :: ·) ++ bracket.closeMark :: rest) := by
  intro c first
  cases others with
  | nil =>
    obtain rfl : bracket.closeMark = c := Option.some_inj.mp first
    cases bracket <;> decide
  | cons other others =>
    obtain rfl : ',' = c := Option.some_inj.mp first
    decide

theorem moves_others (bracket : Bracket) (outer : List Bracket) {others : List (List Char)}
    (passes : ∀ piece ∈ others, Passes bracket.item piece) (blank : Blank before)
    (rest : List Char) :
    TransGen (Moves step) ((.separator, bracket :: outer),
      before ++ (others.flatMap (',' :: ·) ++ bracket.closeMark :: rest))
      ((.separator, outer), rest) := by
  induction others generalizing before with
  | nil => exact .single (moves_close bracket outer blank rest)
  | cons piece others ih =>
    obtain ⟨first, others'⟩ := List.forall_mem_cons.mp passes
    obtain ⟨after, blank', moves⟩ := first (bracket :: outer) _ (follows_others bracket others rest)
    have comma := moves_comma bracket outer blank
      (piece ++ (others.flatMap (',' :: ·) ++ bracket.closeMark :: rest))
    rw [List.flatMap_cons, List.cons_append, List.cons_append, List.append_assoc]
    exact (Relation.TransGen.head comma moves).trans (ih others' blank')

theorem passes_enclosed (bracket : Bracket) {pieces : List (List Char)} (nonempty : pieces ≠ [])
    (opens : ∀ piece ∈ pieces, Opens piece) (passes : ∀ piece ∈ pieces, Passes bracket.item piece) :
    Passes .value (bracket.enclosed (separated pieces)) := by
  obtain ⟨first, others, rfl⟩ := List.exists_cons_of_ne_nil nonempty
  obtain ⟨first', others'⟩ := List.forall_mem_cons.mp passes
  intro outer rest _
  obtain ⟨after, blank, moves⟩ := first' (bracket :: outer) _ (follows_others bracket others rest)
  have front : Opens (first ++ (others.flatMap (',' :: ·) ++ bracket.closeMark :: rest)) :=
    (opens first List.mem_cons_self).append _
  refine ⟨[], blank_nil, ?_⟩
  rw [Bracket.enclosed, separated_cons, List.cons_append, List.cons_append, List.append_assoc,
    List.append_assoc, List.singleton_append]
  exact (Relation.TransGen.head (moves_open bracket outer _) (moves_first front moves)).trans
    (moves_others bracket outer others' blank rest)

theorem ValueText.passes (value : ValueText chars) : Passes .value chars := by
  -- An item stands below one bracket more than its array, which is why `Passes` is about all of
  -- the open brackets there may be.
  induction value with
  | padded front _ back ih => exact passes_padded front ih back
  | word listed =>
    exact passes_scalar (begins_word listed) fun rest _ => result_skipScalar_word listed rest
  | number number =>
    exact passes_scalar (begins_number number) fun _ => result_skipScalar_number number
  | string string =>
    exact passes_scalar (begins_string string) fun rest _ => result_skipScalar_string string rest
  | @hollow bracket chars blank =>
    intro outer rest _
    refine ⟨[], blank_nil, ?_⟩
    rw [Bracket.enclosed, List.cons_append, List.cons_append, List.append_assoc,
      List.singleton_append]
    exact .head (moves_open bracket outer _) (.single (moves_hollow bracket outer blank rest))
  | array nonempty values ih =>
    exact passes_enclosed .array nonempty (fun item member => (values item member).opens) ih
  | object nonempty names values ih =>
    refine passes_enclosed .object (by simpa using nonempty) ?_ ?_
    · intro piece member
      obtain ⟨parts, listed, rfl⟩ := List.mem_map.mp member
      exact (names parts listed).opens.append _
    · intro piece member
      obtain ⟨parts, listed, rfl⟩ := List.mem_map.mp member
      exact passes_member (names parts listed) (ih parts listed)

theorem ValueText.result (value : ValueText chars) (follows : Follows rest) :
    ∃ after, Blank after ∧ skip.result (chars ++ rest) = some ((), after ++ rest) := by
  obtain ⟨after, blank, moves⟩ := value.passes [] rest follows
  obtain ⟨⟨progress, left⟩, first, others⟩ := Relation.TransGen.head'_iff.mp moves
  have stuck : (step (.separator, [])).result (after ++ rest) = none := by
    rw [step, result_orElse]
    rfl
  have reached : repeatedly step progress left = ((.separator, []), after ++ rest) :=
    (Scanner.repeatedly_of_moves others).trans (Scanner.repeatedly_of_none stuck)
  have first : (step (.value, [])).result (chars ++ rest) = some (progress, left) := first
  refine ⟨after, blank, ?_⟩
  rw [skip, result_filterMap, result_repeating, first, Option.map_some, reached]
  rfl

end Worksheet.Json
