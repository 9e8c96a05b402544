import Worksheet.Proofs.Reading

namespace Worksheet

open Json

theorem single?_perm {α : Type} {items others : List α} (perm : items.Perm others) :
    single? items = single? others := by
  match items, perm with
  | [], perm => rw [perm.nil_eq]
  | [item], perm => rw [List.singleton_perm.mp perm]
  | _ :: _ :: _, perm =>
    match others, perm.length_eq with
    | _ :: _ :: _, _ => rfl

theorem memberText_quote {α : Type} {Means : String → List Char → α → Prop} {name : String}
    {chars : List Char} {meaning : α} (means : Means name chars meaning) :
    MemberText Means (quote name ++ ':' :: chars) meaning := by
  have member := MemberText.mk blank_nil (quoted_quote name) blank_nil means
  rwa [List.nil_append, List.nil_append] at member

theorem padded_of {Text : List Char → Prop} {chars : List Char} (given : Text chars) :
    Padded Text chars :=
  ⟨[], chars, [], blank_nil, given, blank_nil, by rw [List.nil_append, List.append_nil]⟩

namespace Cell

variable {document : String} {texts : List String} {name : String} {chars : List Char}
  {meaning : Option String}

theorem Means.reads (means : Means name chars meaning) : Reads (rawMember name) chars meaning := by
  cases means with
  | raw given =>
    rw [rawMember, if_pos rfl]
    exact (Reads.padded (fun _ => Quoted.reads) given).map some
  | other foreign value =>
    rw [rawMember, if_neg foreign]
    exact value.reads.map fun _ => none

theorem decode?_of_object (given : ObjectFor Means document texts) :
    decode? document = (single? texts).map Cell.ofText := by
  obtain ⟨meanings, members, rfl⟩ := given.reads fun _ _ _ => Means.reads
  have read := ((members.map (List.filterMap id)).orElse (array string)).read?
  rw [decode?, scan, read]
  rfl

theorem toList_encode (cell : Cell) : cell.encode.toList =
    Bracket.object.enclosed (separated [quote "raw" ++ ':' :: quote cell.raw]) := by
  have opening : "\x7b\"raw\":".toList = '\x7b' :: quote "raw" ++ [':'] := rfl
  refine String.toList_ofList.trans ?_
  rw [opening, separated_cons, Bracket.enclosed, Bracket.openMark, Bracket.closeMark]
  simp

theorem objectFor_encode (cell : Cell) : ObjectFor Means cell.encode [cell.raw] := by
  have raw : MemberText Means _ (some cell.raw) :=
    memberText_quote (.raw (padded_of (quoted_quote cell.raw)))
  refine ⟨[some cell.raw], padded_of ?_, rfl⟩
  rw [toList_encode]
  exact .members (List.cons_ne_nil _ _) (.cons raw .nil)

def forged (raw : String) (value : List Char) : String :=
  String.ofList ("\x7b\"cached_value\":".toList ++ value ++ ",\"raw\":".toList ++ quote raw ++
    ['\x7d'])

theorem toList_forged (raw : String) (value : List Char) : (forged raw value).toList =
    Bracket.object.enclosed
      (separated [quote "cached_value" ++ ':' :: value, quote "raw" ++ ':' :: quote raw]) := by
  have opening : "\x7b\"cached_value\":".toList = '\x7b' :: quote "cached_value" ++ [':'] := rfl
  have second : ",\"raw\":".toList = ',' :: quote "raw" ++ [':'] := rfl
  refine String.toList_ofList.trans ?_
  rw [opening, second, separated_cons, Bracket.enclosed, Bracket.openMark, Bracket.closeMark]
  simp

theorem objectFor_forged (raw : String) (value : ValueText chars) :
    ObjectFor Means (forged raw chars) [raw] := by
  have foreign : Means "cached_value" chars none := .other (by decide) value
  have cached : MemberText Means _ none := memberText_quote foreign
  have text : MemberText Means _ (some raw) :=
    memberText_quote (.raw (padded_of (quoted_quote raw)))
  refine ⟨[none, some raw], padded_of ?_, rfl⟩
  rw [toList_forged]
  exact .members (List.cons_ne_nil _ _) (.cons cached (.cons text .nil))

theorem cached_of_decode? {cell : Cell} (decoded : decode? document = some cell) :
    cell.cached = none := by
  obtain ⟨text, -, rfl⟩ := Option.map_eq_some_iff.mp decoded
  rfl

end Cell

namespace Address

variable {document : String} {name : String} {chars : List Char} {meaning : Option Coordinate}
  {coordinates : List Coordinate}

theorem Means.reads (means : Means name chars meaning) :
    Reads (coordinateMember name) chars meaning := by
  cases means with
  | row bounded given =>
    rw [coordinateMember, if_pos rfl]
    exact (Reads.padded (fun _ written => written ▸ reads_natural bounded) given).map _
  | col bounded given =>
    rw [coordinateMember, if_neg (by decide), if_pos rfl]
    exact (Reads.padded (fun _ written => written ▸ reads_natural bounded) given).map _
  | other row col value =>
    rw [coordinateMember, if_neg row, if_neg col]
    exact value.reads.map fun _ => none

theorem ofCoordinates?_of_perm {row col : Nat}
    (given : coordinates.Perm [.row row, .col col]) :
    ofCoordinates? coordinates = some ⟨col, row⟩ := by
  unfold ofCoordinates?
  rw [single?_perm (given.filterMap Coordinate.row?),
    single?_perm (given.filterMap Coordinate.col?)]
  rfl

theorem decode?_of_object {row col : Nat} (given : ObjectFor Means document coordinates)
    (both : coordinates.Perm [.row row, .col col]) :
    decode? document = some ⟨col, row⟩ := by
  obtain ⟨meanings, members, rfl⟩ := given.reads fun _ _ _ => Means.reads
  have made : (ofCoordinates? ∘ List.filterMap id) meanings = some ⟨col, row⟩ :=
    ofCoordinates?_of_perm both
  exact ((members.filterMap made).orElse _).read?

theorem toList_encode (address : Address) : address.encode.toList =
    Bracket.object.enclosed (separated [quote "row" ++ ':' :: Nat.toDigits 10 address.row,
      quote "col" ++ ':' :: Nat.toDigits 10 address.col]) := by
  have opening : "\x7b\"row\":".toList = '\x7b' :: quote "row" ++ [':'] := rfl
  have second : ",\"col\":".toList = ',' :: quote "col" ++ [':'] := rfl
  refine String.toList_ofList.trans ?_
  rw [opening, second, separated_cons, Bracket.enclosed, Bracket.openMark, Bracket.closeMark]
  simp

theorem objectFor_encode {address : Address} (row : address.row < 0x10000000000000000)
    (col : address.col < 0x10000000000000000) :
    ObjectFor Means address.encode [.row address.row, .col address.col] := by
  have first : MemberText Means _ _ := memberText_quote (.row row (padded_of rfl))
  have second : MemberText Means _ _ := memberText_quote (.col col (padded_of rfl))
  refine ⟨[some (.row address.row), some (.col address.col)], padded_of ?_, rfl⟩
  rw [toList_encode]
  exact .members (List.cons_ne_nil _ _) (.cons first (.cons second .nil))

end Address

theorem Policy.decode?_encode (policy : Policy) : Policy.decode? policy.encode = some policy := by
  have reads : Reads string policy.encode.toList policy.name := by
    rw [encode, String.toList_ofList]
    exact (quoted_quote policy.name).reads
  have read := ((reads.map fun name => [name]).orElse (object fun name => null.giving name)).read?
  rw [decode?, scan, read]
  exact ofName?_name policy

/-- What comes back of what has been stored, and what comes of texts that someone else has
    written. -/
structure ReadBack : Prop where
  cell : ∀ cell : Cell, Cell.decode? cell.encode = some ⟨cell.raw, none⟩
  address : ∀ address : Address, address.row < 0x10000000000000000 →
    address.col < 0x10000000000000000 → Address.decode? address.encode = some address
  policy : ∀ policy : Policy, Policy.decode? policy.encode = some policy
  uncached : ∀ document cell, Cell.decode? document = some cell → cell.cached = none
  foreign : ∀ document raw, ObjectFor Cell.Means document [raw] →
    Cell.decode? document = some ⟨raw, none⟩
  forged : ∀ raw value, ValueText value → Cell.decode? (Cell.forged raw value) = some ⟨raw, none⟩
  unordered : ∀ document document' texts texts', ObjectFor Cell.Means document texts →
    ObjectFor Cell.Means document' texts' → texts.Perm texts' →
    Cell.decode? document = Cell.decode? document'
  coordinates : ∀ document row col coordinates, ObjectFor Address.Means document coordinates →
    coordinates.Perm [.row row, .col col] → Address.decode? document = some ⟨col, row⟩

theorem stored_read_back : ReadBack where
  cell cell := Cell.decode?_of_object cell.objectFor_encode
  address address row col :=
    Address.decode?_of_object (Address.objectFor_encode row col) (List.Perm.refl _)
  policy := Policy.decode?_encode
  uncached _ _ := Cell.cached_of_decode?
  foreign _ _ given := Cell.decode?_of_object given
  forged raw _ value := Cell.decode?_of_object (Cell.objectFor_forged raw value)
  unordered _ _ _ _ given given' perm := by
    rw [Cell.decode?_of_object given, Cell.decode?_of_object given', single?_perm perm]
  coordinates _ _ _ _ := Address.decode?_of_object

end Worksheet
