import PagedCatalogue.Proofs.Negotiation.Record
import PagedCatalogue.Proofs.Text.Line

namespace PagedCatalogue

open Text

/-! ## Faults on one line -/

theorem isLine_fieldName (field : Field) : isLine field.name = true := by
  cases field <;> exact isLine_wording (by simp [Field.name, isWording])

theorem isLine_numeralMessage (fault : Decimal.Fault) : isLine (numeralMessage fault) = true := by
  unfold numeralMessage
  split
  · have front : isLine "not an integer: " = true := isLine_wording (by simp [isWording])
    rw [isLine_append, front, isLine_encode, Bool.and_self]
  · have front : isLine "Exceeds the limit (" = true := isLine_wording (by simp [isWording])
    have middle : isLine " digits) for integer string conversion: value has " = true :=
      isLine_wording (by simp [isWording])
    have back : isLine " digits; use sys.set_int_max_str_digits() to increase the limit" = true :=
      isLine_wording (by simp [isWording])
    simp only [isLine_append, isLine_text, front, middle, back, Bool.and_self]

-- The kind of a value may have any name, so a fault of the kind need not be a line.
theorem isLine_faultMessage {fault : Fault} (ofValue : fault.ofValue = true) :
    isLine fault.message = true := by
  have low : isLine " must be >= 0" = true := isLine_wording (by simp [isWording])
  have high : isLine " must be <= " = true := isLine_wording (by simp [isWording])
  cases fault with
  | notInteger field kind => cases ofValue
  | negative field => rw [Fault.message, isLine_append, isLine_fieldName, low, Bool.and_self]
  | tooLarge field =>
    simp only [Fault.message, isLine_append, isLine_fieldName, high, isLine_text, Bool.and_self]
  | offsetUnset => exact isLine_wording (by simp [Fault.message, isWording])
  | numeral fault => exact isLine_numeralMessage fault

namespace Event

theorem isLine_causeText {cause : Option Fault}
    (ofValue : ∀ fault, cause = some fault → fault.ofValue = true) :
    isLine (causeText cause) = true := by
  have word : isLine " error=" = true := isLine_wording (by simp [isWording])
  cases cause with
  | none => rfl
  | some fault =>
    rw [causeText, isLine_append, word, isLine_faultMessage (ofValue fault rfl), Bool.and_self]

/-! ## Openings -/

def opening : Event → String
  | .parametersRefused .. => "Отклонены параметры пагинации. limit="
  | .rangeUnreadable _ => "Заголовок Range не распознан. Range="
  | .rangeOutOfBounds _ => "Заголовок Range вне допустимых границ. Range="
  | .limitKept _ => "Конец диапазона раньше начала, limit не изменён. Range="
  | .pageServed .. => "Отдана страница "

def rest : Event → String
  | .parametersRefused limit offset cause =>
    quotedOrNone limit ++ (" offset=" ++ (quotedOrNone offset ++ causeText cause))
  | .rangeUnreadable header => quoted header
  | .rangeOutOfBounds header => quoted header
  | .limitKept header => quoted header
  | .pageServed contentRange returned =>
    contentRange ++ (". returned=" ++ Decimal.text returned)

theorem message_eq (event : Event) : event.message = event.opening ++ event.rest := by
  have assoc (s t u v w : String) : s ++ t ++ u ++ v ++ w = s ++ (t ++ (u ++ (v ++ w))) := by
    simp only [String.append_assoc]
  cases event with
  | parametersRefused limit offset cause => exact assoc ..
  | pageServed contentRange returned =>
    exact (String.append_assoc ..).trans (String.append_assoc ..)
  | _ => rfl

def openings : List String :=
  [opening (.parametersRefused none none none), opening (.rangeUnreadable ""),
    opening (.rangeOutOfBounds ""), opening (.limitKept ""), opening (.pageServed "" 0)]

theorem opening_mem (event : Event) : event.opening ∈ openings := by
  cases event <;> simp [openings, opening]

theorem openings_wording : openings.all (fun a => a.toList.all isWording) = true := by
  simp [openings, opening, isWording]

theorem openings_prefixFree :
    openings.all (fun a => openings.all fun b => !a.toList.isPrefixOf b.toList || a == b) =
      true := by
  simp [openings, opening, List.isPrefixOf]

theorem isLine_opening (event : Event) : isLine event.opening = true :=
  isLine_wording (List.all_eq_true.1 openings_wording _ event.opening_mem)

theorem opening_eq_of_isPrefix {event event' : Event}
    (h : event.opening.toList <+: event'.opening.toList) : event.opening = event'.opening := by
  have apart := List.all_eq_true.1 (List.all_eq_true.1 openings_prefixFree _ event.opening_mem)
    _ event'.opening_mem
  simpa [List.isPrefixOf_iff_prefix.2 h] using apart

theorem opening_inj {event event' : Event} (same : event.message = event'.message) :
    event.opening = event'.opening ∧ event.rest = event'.rest := by
  rw [message_eq, message_eq] at same
  have whole := congrArg String.toList same
  rw [String.toList_append, String.toList_append] at whole
  have front : event.opening.toList <+: event.opening.toList ++ event.rest.toList :=
    List.prefix_append _ _
  have front' : event'.opening.toList <+: event.opening.toList ++ event.rest.toList := by
    rw [whole]
    exact List.prefix_append _ _
  have opening_eq : event.opening = event'.opening := by
    rcases List.prefix_or_prefix_of_prefix front front' with h | h
    · exact opening_eq_of_isPrefix h
    · exact (opening_eq_of_isPrefix h).symm
  rw [opening_eq, List.append_cancel_left_eq] at whole
  exact ⟨opening_eq, String.toList_inj.1 whole⟩

end Event

namespace Negotiation

variable {source source' : Source} {event event' : Event} {header header' : String}

theorem Quotes.isLine_rest (quotes : Quotes source event) : isLine event.rest = true := by
  cases quotes with
  | parameters spoken ofValue =>
    have word : isLine " offset=" = true := isLine_wording (by simp [isWording])
    simp only [Event.rest, isLine_append, isLine_quotedOrNone, word,
      Event.isLine_causeText ofValue, Bool.and_self]
  | unreadable decided => exact isLine_encode _
  | outOfBounds decided => exact isLine_encode _
  | kept decided => exact isLine_encode _

theorem Quotes.isLine_message (quotes : Quotes source event) : isLine event.message = true := by
  rw [Event.message_eq, isLine_append, Event.isLine_opening, quotes.isLine_rest, Bool.and_self]

/-! ## What a message tells -/

inductive SaysSame (source source' : Source) : Prop
  | parameters (spoken : (heard (source .limit)).isSome ∨ (heard (source .offset)).isSome)
      (limit : source .limit = source' .limit) (offset : source .offset = source' .offset)
  | range {header : String} (decided : DecidedByRange source header)
      (decided' : DecidedByRange source' header)

theorem parameters_of_rest_eq {limit offset limit' offset' : Option String}
    {cause cause' : Option Fault}
    (same : (Event.parametersRefused limit offset cause).rest =
      (Event.parametersRefused limit' offset' cause').rest) :
    limit = limit' ∧ offset = offset' := by
  have whole := congrArg String.toList same
  simp only [Event.rest, String.toList_append] at whole
  obtain ⟨limit_eq, whole⟩ := quotedOrNone_append_inj whole
  obtain ⟨offset_eq, -⟩ := quotedOrNone_append_inj (List.append_cancel_left whole)
  exact ⟨limit_eq, offset_eq⟩

theorem saysSame_of_quoted_eq (decided : DecidedByRange source header)
    (decided' : DecidedByRange source' header') (same : quoted header = quoted header') :
    SaysSame source source' := by
  obtain rfl := quoted_inj same
  exact .range decided decided'

theorem saysSame_of_message_eq (quotes : Quotes source event) (quotes' : Quotes source' event')
    (same : event.message = event'.message) : SaysSame source source' := by
  obtain ⟨opening_eq, rest_eq⟩ := Event.opening_inj same
  -- Events of two kinds open with different words.
  cases quotes with
  | parameters spoken ofValue =>
    cases quotes' with
    | parameters spoken' ofValue' =>
      obtain ⟨limit, offset⟩ := parameters_of_rest_eq rest_eq
      exact .parameters spoken limit offset
    | _ => exact absurd opening_eq (by simp [Event.opening])
  | unreadable decided =>
    cases quotes' with
    | unreadable decided' => exact saysSame_of_quoted_eq decided decided' rest_eq
    | _ => exact absurd opening_eq (by simp [Event.opening])
  | outOfBounds decided =>
    cases quotes' with
    | outOfBounds decided' => exact saysSame_of_quoted_eq decided decided' rest_eq
    | _ => exact absurd opening_eq (by simp [Event.opening])
  | kept decided =>
    cases quotes' with
    | kept decided' => exact saysSame_of_quoted_eq decided decided' rest_eq
    | _ => exact absurd opening_eq (by simp [Event.opening])

theorem records_are_telling_lines {w w' : Window} (reachable : w.Reachable)
    (reachable' : w'.Reachable) (source source' : Source) :
    (∀ event ∈ (apply source w).events, ∀ c ∈ event.message.toList,
      isPrintable c = true ∧ (isBlank c = true → c = ' ')) ∧
    ∀ event ∈ (apply source w).events, ∀ event' ∈ (apply source' w').events,
      event.message = event'.message → SaysSame source source' := by
  have record := recorded reachable.inBounds source
  have record' := recorded reachable'.inBounds source'
  constructor
  · intro event mem c char
    have line := (record.quotes mem).isLine_message
    have printable := List.all_eq_true.1 line c char
    exact ⟨printable, eq_space_of_isPrintable printable⟩
  · intro event mem event' mem'
    exact saysSame_of_message_eq (record.quotes mem) (record'.quotes mem')

-- A range that does not decide leaves no trace in the record.
theorem records_are_telling_lines_broken :
    Window.Reachable .unset ∧
    ∃ event, (apply (saying (some "1\n2") none none) .unset).events = [event] ∧
      (∀ c ∈ event.message.toList, isPrintable c = true ∧ (isBlank c = true → c = ' ')) ∧
      (apply (saying (some "1\n2") none (some "items=0-9")) .unset).events = [event] ∧
      SaysSame (saying (some "1\n2") none none)
        (saying (some "1\n2") none (some "items=0-9")) := by
  have unset : Window.Reachable .unset := @Window.Reachable.made none none _ rfl
  let event : Event := .parametersRefused (some "1\n2") none
    (some (.numeral (.notNumeral ['1', '\n', '2'])))
  have alone : (apply (saying (some "1\n2") none none) .unset).events = [event] := by decide
  have beside : (apply (saying (some "1\n2") none (some "items=0-9")) .unset).events = [event] := by
    decide
  obtain ⟨lines, telling⟩ := records_are_telling_lines unset unset
    (saying (some "1\n2") none none) (saying (some "1\n2") none (some "items=0-9"))
  rw [alone] at lines telling
  rw [beside] at telling
  have mem : event ∈ [event] := List.mem_singleton_self event
  exact ⟨unset, event, alone, lines event mem, beside, telling event mem event mem rfl⟩

end Negotiation

end PagedCatalogue
