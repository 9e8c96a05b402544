import Worksheet.Proofs.Skipping

namespace Worksheet

namespace Json

open Scanner (result_seqRight result_seqLeft result_map result_giving result_orElse result_bind
  result_filterMap result_after result_repeating)

variable {α β : Type} {before chars rest : List Char} {text : String}

/-- A scanner reads this much of a text where a value may stand, and blanks in front of it, but not
    all of the blanks at its end. -/
def Reads (scanner : Scanner α) (piece : List Char) (value : α) : Prop :=
  ∀ before rest, Blank before → Follows rest → ∃ after, Blank after ∧
    scanner.result (before ++ piece ++ rest) = some (value, after ++ rest)

namespace Reads

variable {scanner : Scanner α} {piece : List Char} {value : α}

theorem padded {Text : List Char → Prop} (reads : ∀ piece, Text piece → Reads scanner piece value)
    (given : Padded Text chars) : Reads scanner chars value := by
  obtain ⟨before, inner, after, front, written, back, rfl⟩ := given
  intro before' rest front' follows
  obtain ⟨left, blank, read⟩ := reads inner written (before' ++ before) (after ++ rest)
    (blank_append front' front) (follows_blank back follows)
  refine ⟨left ++ after, blank_append blank back, ?_⟩
  simpa only [List.append_assoc] using read

theorem map (f : α → β) (reads : Reads scanner piece value) :
    Reads (f <$> scanner) piece (f value) := by
  intro before rest front follows
  obtain ⟨after, blank, read⟩ := reads before rest front follows
  refine ⟨after, blank, ?_⟩
  rw [result_map, read]
  rfl

theorem filterMap {f : α → Option β} {made : β} (reads : Reads scanner piece value)
    (makes : f value = some made) : Reads (scanner.filterMap f) piece made := by
  intro before rest front follows
  obtain ⟨after, blank, read⟩ := reads before rest front follows
  refine ⟨after, blank, ?_⟩
  rw [result_filterMap, read, Option.bind_some, makes]
  rfl

theorem orElse (reads : Reads scanner piece value) (other : Scanner α) :
    Reads (scanner <|> other) piece value := by
  intro before rest front follows
  obtain ⟨after, blank, read⟩ := reads before rest front follows
  refine ⟨after, blank, ?_⟩
  rw [result_orElse, read]
  rfl

theorem read? (reads : Reads scanner text.toList value) : read? scanner text = some value := by
  have follows : Follows [] := fun c first => by cases first
  obtain ⟨after, blank, read⟩ := reads [] [] blank_nil follows
  rw [List.nil_append, List.append_nil, List.append_nil] at read
  have skipped : blanks.skip after = [] := by
    have all := skip_blanks blank []
    rwa [List.append_nil] at all
  rw [Json.read?, Scanner.whole_eq, read, Option.bind_some, if_pos skipped]

end Reads

theorem Quoted.reads (quoted : Quoted chars text) : Reads string chars text :=
  fun _ rest front _ => ⟨[], blank_nil, quoted.result front rest⟩

theorem ValueText.reads (value : ValueText chars) : Reads skip chars () := by
  intro before rest front follows
  have padded : ValueText (before ++ chars ++ []) := .padded front value blank_nil
  rw [List.append_nil] at padded
  exact padded.result follows

theorem toDigits_unpadded {number : Nat} (zero : (Nat.toDigits 10 number).head? = some '0') :
    Nat.toDigits 10 number = ['0'] := by
  rcases Nat.eq_zero_or_pos number with none | positive
  · rw [none]
    rfl
  · exact absurd zero (toDigits_head positive)

theorem reads_natural {number : Nat} (bounded : number < 0x10000000000000000) :
    Reads natural (Nat.toDigits 10 number) number := by
  intro before rest front follows
  have solid : blanks.skip (Nat.toDigits 10 number ++ rest) = Nat.toDigits 10 number ++ rest := by
    obtain ⟨c, more, written⟩ :=
      List.exists_cons_of_ne_nil (Nat.toDigits_ne_nil (b := 10) (n := number))
    have listed : c ∈ Nat.toDigits 10 number := written ▸ List.mem_cons_self
    have digit := (Digits.ofNat number).digital c listed
    rw [written, List.cons_append, skip_of_not_blank (isBlank_of_isDigit digit)]
  have read : wholePart.result (Nat.toDigits 10 number ++ rest) =
      some (Nat.toDigits 10 number, rest) := by
    have nonempty : (Digits.ofNat number).chars ≠ [] := Nat.toDigits_ne_nil
    exact result_wholePart nonempty toDigits_unpadded follows.stops
  refine ⟨[], blank_nil, ?_⟩
  rw [natural, result_filterMap, result_after, List.append_assoc, skip_blanks front, solid, read,
    Option.bind_some]
  simp only [Nat.ofDigitChars_ten_toDigits, if_pos bounded]
  rfl

section Objects

variable {Means : String → List Char → α → Prop} {value : String → Scanner α}

theorem MemberText.reads {piece : List Char} {meaning : α}
    (reads : ∀ name chars meaning, Means name chars meaning → Reads (value name) chars meaning)
    (member : MemberText Means piece meaning) :
    Reads (string >>= fun name => symbol ':' *> value name) piece meaning := by
  cases member with
  | @mk before quoted after chars name _ front named back means =>
  intro before' rest front' follows
  obtain ⟨left, blank, read⟩ := reads name chars meaning means [] rest blank_nil follows
  have name := named.result (blank_append front' front) (after ++ (':' :: (chars ++ rest)))
  have colon : (symbol ':').result (after ++ (':' :: (chars ++ rest))) =
      some ((), chars ++ rest) := by
    rw [result_symbol_blank back, result_symbol rfl, if_pos rfl]
  refine ⟨left, blank, ?_⟩
  simp only [List.append_assoc, List.cons_append] at name ⊢
  rw [result_bind, name, Option.bind_some, result_seqRight, colon]
  exact read

theorem repeatedly_reads {item : Scanner α} {others : List (List Char)} {values : List α}
    (reads : List.Forall₂ (Reads item) others values) (bracket : Bracket) (read : List α)
    (blank : Blank before) (rest : List Char) :
    ∃ after, Blank after ∧
      repeatedly (fun items => symbol ',' *> (· :: items) <$> item) read
        (before ++ (others.flatMap (',' :: ·) ++ bracket.closeMark :: rest)) =
      (values.reverse ++ read, after ++ bracket.closeMark :: rest) := by
  induction reads generalizing before read with
  | nil =>
    refine ⟨before, blank, Scanner.repeatedly_of_none ?_⟩
    rw [List.flatMap_nil, List.nil_append, result_seqRight, result_symbol_blank blank]
    cases bracket <;> rw [result_symbol rfl] <;> rfl
  | @cons piece value others values first _ ih =>
    obtain ⟨after, blank', taken⟩ :=
      first [] _ blank_nil (follows_others bracket others rest)
    obtain ⟨left, blank'', reached⟩ := ih (value :: read) blank'
    refine ⟨left, blank'', ?_⟩
    have next : (symbol ',' *> (· :: read) <$> item).result
        (before ++ ((piece :: others).flatMap (',' :: ·) ++ bracket.closeMark :: rest)) =
          some (value :: read,
            after ++ (others.flatMap (',' :: ·) ++ bracket.closeMark :: rest)) := by
      rw [List.nil_append] at taken
      rw [result_seqRight, result_symbol_blank blank, List.flatMap_cons, List.cons_append,
        List.cons_append, result_symbol rfl, if_pos rfl, Option.bind_some, result_map,
        List.append_assoc, taken]
      rfl
    rw [Scanner.repeatedly_of_some next, reached]
    simp

theorem result_separatedBy {item : Scanner α} {first : List Char} {value : α}
    {others : List (List Char)} {values : List α} (head : Reads item first value)
    (tail : List.Forall₂ (Reads item) others values) (bracket : Bracket) (rest : List Char) :
    ∃ after, Blank after ∧ (item.separatedBy (symbol ',')).result
      (separated (first :: others) ++ bracket.closeMark :: rest) =
        some (value :: values, after ++ bracket.closeMark :: rest) := by
  obtain ⟨after, blank, taken⟩ := head [] _ blank_nil (follows_others bracket others rest)
  obtain ⟨left, blank', reached⟩ := repeatedly_reads tail bracket [value] blank rest
  refine ⟨left, blank', ?_⟩
  rw [List.nil_append] at taken
  rw [Scanner.separatedBy, result_map, result_repeating, result_map, separated_cons,
    List.append_assoc, taken]
  simp only [Option.map_some]
  rw [reached]
  simp

theorem MemberText.opens {piece : List Char} {meaning : α}
    (member : MemberText Means piece meaning) : Opens piece := by
  cases member with
  | mk front named =>
    obtain ⟨pieces, -, rfl⟩ := named
    rw [List.append_assoc]
    exact Opens.padded ⟨[], '"', _, rfl, blank_nil, rfl, by decide⟩ front

theorem ObjectText.reads {meanings : List α}
    (reads : ∀ name chars meaning, Means name chars meaning → Reads (value name) chars meaning)
    (given : ObjectText Means chars meanings) : Reads (object value) chars meanings := by
  intro before rest front _
  have opened (inner : List Char) :
      (symbol '\x7b').result (before ++ Bracket.object.enclosed inner ++ rest) =
        some ((), inner ++ '\x7d' :: rest) := by
    rw [Bracket.enclosed, List.append_assoc, result_symbol_blank front, List.cons_append,
      List.cons_append, Bracket.openMark, result_symbol rfl, if_pos rfl, List.append_assoc]
    rfl
  refine ⟨[], blank_nil, ?_⟩
  rw [object, bracketed, result_seqRight]
  cases given with
  | hollow blank =>
    rw [opened, Option.bind_some, result_orElse, result_giving, result_symbol_blank blank,
      result_symbol rfl, if_pos rfl]
    rfl
  | @members pieces _ nonempty members =>
    cases members with
    | nil => exact absurd rfl nonempty
    | @cons first _ others _ head tail =>
      have more := tail.imp fun _ _ => MemberText.reads reads
      obtain ⟨after, blank, read⟩ :=
        result_separatedBy (head.reads reads) more .object rest
      have front : Opens (separated (first :: others) ++ '\x7d' :: rest) := by
        rw [separated_cons, List.append_assoc]
        exact head.opens.append _
      have unclosed := result_closeMark_of_opens front .object
      rw [Bracket.closeMark] at unclosed read
      rw [opened, Option.bind_some, result_orElse, result_giving, unclosed, result_seqLeft, read,
        Option.bind_some, result_symbol_blank blank, result_symbol rfl, if_pos rfl]
      rfl

theorem ObjectFor.reads {Means : String → List Char → Option α → Prop}
    {value : String → Scanner (Option α)} {given : List α} (document : ObjectFor Means text given)
    (reads : ∀ name chars meaning, Means name chars meaning → Reads (value name) chars meaning) :
    ∃ meanings, Reads (object value) text.toList meanings ∧ meanings.filterMap id = given := by
  obtain ⟨meanings, written, same⟩ := document
  exact ⟨meanings, Reads.padded (fun _ => ObjectText.reads reads) written, same⟩

end Objects

end Json

end Worksheet
