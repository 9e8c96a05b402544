import Worksheet.Proofs.Effects
import Worksheet.Proofs.Printing
import Worksheet.Table.Request

namespace Worksheet

theorem complaint?_answer {α : Type} (make : α → Sheet.Answer)
    (outcome : Except SheetError α × Sheet) :
    complaint? (Sheet.answer make outcome).1 = complaint? outcome.1 := by
  unfold Sheet.answer
  cases outcome.1 <;> rfl

theorem Sheet.text_ne_empty_of_getValue {sheet : Sheet} {address : Address} {text : String}
    (shown : (sheet.getValue address).1 = .ok text) : text ≠ "" := by
  unfold getValue read at shown
  split at shown
  · split at shown
    · cases shown
    · split at shown
      · cases shown
        exact Binary64.text_ne_empty _
      · cases shown
  · cases shown

namespace Table

variable {σ : Type} [MessageSink σ]

section Absorb

variable {α : Type} (table : Table σ) (default : α) (outcome : Except SheetError α × Sheet)

theorem sink_absorb : (table.absorb default outcome).2.sink =
    (complaint? outcome.1).toList.foldl MessageSink.send table.sink := by
  obtain ⟨result, sheet⟩ := outcome
  cases result <;> rfl

theorem value_absorb : (table.absorb default outcome).1 = outcome.1.toOption.getD default := by
  obtain ⟨result, sheet⟩ := outcome
  cases result <;> rfl

end Absorb

theorem served_setValueAt (table : Table σ) (address : Address) (text : String) :
    table.Served (.setValueAt address text) .done (table.setValueAt address text) := by
  have owed : (Request.setValueAt address text).complaint? table.sheet =
      complaint? (table.sheet.setContent address text).1 :=
    complaint?_answer (fun _ => .done) _
  constructor
  case sheet => exact table.sheet_setValueAt address text
  case sent =>
    rw [owed]
    exact table.sink_absorb () _
  case value | empty =>
    intro _
    simp

theorem served_valueAt (table : Table σ) (address : Address) :
    table.Served (.valueAt address) (.text (table.valueAt address).1)
      (table.valueAt address).2 := by
  have owed : (Request.valueAt address).complaint? table.sheet =
      complaint? (table.sheet.getValue address).1 :=
    complaint?_answer .text _
  have value : (table.valueAt address).1 = (table.sheet.getValue address).1.toOption.getD "" :=
    table.value_absorb "" _
  constructor
  case sheet => exact table.sheet_valueAt address
  case sent =>
    rw [owed]
    exact table.sink_absorb "" _
  case value =>
    intro _ text same fine
    cases same
    rw [value, fine]
    rfl
  case empty =>
    intro _ same
    cases same
    rw [owed, value]
    cases shown : (table.sheet.getValue address).1 with
    | ok text =>
      -- No number is displayed as nothing, so an empty text cannot be a value.
      have visible := Sheet.text_ne_empty_of_getValue shown
      simp [complaint?, Except.toOption, visible]
    | error error => simp [complaint?, Except.toOption]

theorem perform_served (table : Table σ) (request : Request) :
    table.Served request (table.perform request).1 (table.perform request).2 := by
  cases request with
  | setValueAt address text => exact table.served_setValueAt address text
  | valueAt address => exact table.served_valueAt address
  | heading | rowCount | columnCount | editable =>
    constructor
    case sheet | sent => rfl
    case value | empty =>
      intro _
      simp

theorem performAll_append (table : Table σ) (first second : List Request) :
    table.performAll (first ++ second) =
      ((table.performAll first).1 ++ ((table.performAll first).2.performAll second).1,
        ((table.performAll first).2.performAll second).2) := by
  induction first generalizing table with
  | nil => rfl
  | cons request rest ih => simp only [List.cons_append, performAll, ih]

theorem length_performAll (table : Table σ) (requests : List Request) :
    (table.performAll requests).1.length = requests.length := by
  induction requests generalizing table with
  | nil => rfl
  | cons request rest ih => exact congrArg _ (ih (table.perform request).2)

theorem performAll_split (table : Table σ) (before : List Request) (request : Request)
    (after : List Request) : ∃ answer,
      (table.performAll (before ++ request :: after)).1[before.length]? = some answer ∧
        (table.performAll before).2.Served request answer
          (table.performAll (before ++ [request])).2 := by
  refine ⟨((table.performAll before).2.perform request).1, ?_, ?_⟩
  · have short := Nat.le_of_eq (table.length_performAll before)
    rw [performAll_append, List.getElem?_append_right short, length_performAll, Nat.sub_self]
    rfl
  · rw [performAll_append]
    exact perform_served _ request

theorem performAll_direct (table : Table σ) (requests : List Request) :
    (table.performAll requests).2 =
      let (answers, sheet) := table.sheet.performAll (requests.filterMap Request.direct?)
      ⟨sheet, (answers.filterMap complaint?).foldl MessageSink.send table.sink⟩ := by
  induction requests generalizing table with
  | nil => rfl
  | cons request rest ih =>
    obtain ⟨sheet, sent, _, _⟩ := table.perform_served request
    simp only [performAll, ih, sheet, sent, Request.complaint?]
    cases asked : request.direct? with
    | none => simp [List.filterMap_cons_none asked]
    | some direct =>
      rw [List.filterMap_cons_some asked]
      simp only [Sheet.performAll, List.filterMap_cons, Option.bind_some, Option.elim_some]
      cases complaint? (table.sheet.perform direct).1 <;> rfl

/-- A table is a faithful front of its sheet. The sheet ends where requests made of it directly
    would have led, and the sink is sent the messages of those that fail, in their order. -/
theorem performAll_fronts (sheet : Sheet) (sink : σ) (requests : List Request) :
    let start : Table σ := ⟨sheet, sink⟩
    let (answers, table) := start.performAll requests
    let (outcomes, last) := sheet.performAll (requests.filterMap Request.direct?)
    table.sheet = last ∧
      table.sink = (outcomes.filterMap complaint?).foldl MessageSink.send sink ∧
      ∀ before request after, requests = before ++ request :: after →
        ∃ answer, answers[before.length]? = some answer ∧
          (start.performAll before).2.Served request answer
            (start.performAll (before ++ [request])).2 := by
  intro start
  have direct := performAll_direct start requests
  refine ⟨congrArg Table.sheet direct, congrArg Table.sink direct, ?_⟩
  rintro before request after rfl
  exact performAll_split start before request after

end Table

end Worksheet
