import NicFlow.Address.Pci
import NicFlow.Proofs.HexTexts

/-! The grammar of PCI addresses. A text is an address exactly if it is the written form of one up to the
case of its letters, and every other text is refused for its form or for the first component at fault. -/

namespace NicFlow

open Text

namespace PciAddress

/-- Device and function fit into their five and three bits. -/
def InRange (address : PciAddress) : Prop :=
  address.device.toNat ≤ maxDevice ∧ address.function.toNat ≤ maxFunction

def number (address : PciAddress) : PciComponent → Nat
  | .domain => address.domain.toNat
  | .bus => address.bus.toNat
  | .device => address.device.toNat
  | .function => address.function.toNat

/-- What a text has in the place of each component. -/
structure Parts where
  domain : List Char
  bus : List Char
  device : List Char
  function : List Char

namespace Parts

def digits (parts : Parts) : PciComponent → List Char
  | .domain => parts.domain
  | .bus => parts.bus
  | .device => parts.device
  | .function => parts.function

def written (address : PciAddress) : Parts where
  domain := hexDigits 4 address.domain.toNat
  bus := hexDigits 2 address.bus.toNat
  device := hexDigits 2 address.device.toNat
  function := Nat.toDigits 16 address.function.toNat

def join (parts : Parts) : List Char :=
  parts.domain ++ ':' :: (parts.bus ++ ':' :: (parts.device ++ '.' :: parts.function))

/-- The text is ASCII, its two colons cut it into three parts, and the first dot of the last part cuts that
into two. -/
structure Forms (parts : Parts) (text : List Char) : Prop where
  ascii : ∀ character ∈ text, character.toNat < 128
  cut : text = parts.join
  colons : ∀ component, ':' ∉ parts.digits component
  dot : '.' ∉ parts.device
  domain : parts.domain.length = 4
  bus : parts.bus.length = 2
  device : parts.device.length = 2
  function : parts.function.length = 1

/-- The component that a refusal names: the first that is not made of digits, else the device if it is too
large, else the function. -/
inductive Blames (parts : Parts) : PciComponent → Prop where
  | letter {before component after} (order : [.domain, .bus, .device, .function] = before ++ component :: after)
      (earlier : ∀ other ∈ before, ∀ character ∈ parts.digits other, IsHexDigit character)
      (foreign : ∃ character ∈ parts.digits component, ¬ IsHexDigit character) : parts.Blames component
  | device {value} (digits : ∀ component, ∀ character ∈ parts.digits component, IsHexDigit character)
      (denoted : Denotes parts.device value) (large : maxDevice < value) : parts.Blames .device
  | function {device value} (digits : ∀ component, ∀ character ∈ parts.digits component, IsHexDigit character)
      (fitting : Denotes parts.device device) (small : device ≤ maxDevice)
      (denoted : Denotes parts.function value) (large : maxFunction < value) : parts.Blames .function

end Parts

section Cutting

variable {text : List Char} {parts : Parts}

private theorem components?_cases :
    components? text = some (parts.domain, parts.bus, parts.device, parts.function) ↔
      ((∀ character ∈ text, character.toNat < 128) ∧ text.length = 12) ∧
      ∃ rest, splitAll ':' text = [parts.domain, parts.bus, rest] ∧
        splitFirst '.' rest = some (parts.device, parts.function) ∧
        parts.domain.length = 4 ∧ parts.bus.length = 2 ∧ parts.device.length = 2 ∧ parts.function.length = 1 := by
  unfold components?
  simp only [List.all_eq_true, decide_eq_true_eq]
  constructor
  · intro found
    split at found
    next whole =>
      refine ⟨whole, ?_⟩
      split at found
      next domain bus rest colons =>
        split at found
        next device function dot =>
          split at found
          next lengths =>
            cases found
            exact ⟨rest, colons, dot, lengths⟩
          · cases found
        · cases found
      · cases found
    · cases found
  · intro ⟨whole, rest, colons, dot, lengths⟩
    rw [if_pos whole, colons]
    simp only [dot]
    rw [if_pos lengths]

theorem components?_eq_some_iff :
    components? text = some (parts.domain, parts.bus, parts.device, parts.function) ↔ parts.Forms text := by
  rw [components?_cases]
  simp only [splitAll_eq_iff (List.cons_ne_nil _ _), splitFirst_eq_some_iff]
  constructor
  · intro ⟨⟨ascii, _⟩, rest, ⟨joined, clean⟩, ⟨free, cut⟩, domain, bus, device, function⟩
    subst cut
    have inRest := clean _ (List.mem_cons_of_mem _ (List.mem_cons_of_mem _ List.mem_cons_self))
    rw [List.mem_append, List.mem_cons, not_or, not_or] at inRest
    refine ⟨ascii, ?_, ?_, free, domain, bus, device, function⟩
    · simpa [Parts.join] using joined
    · intro component
      cases component with
      | domain => exact clean _ List.mem_cons_self
      | bus => exact clean _ (List.mem_cons_of_mem _ List.mem_cons_self)
      | device => exact inRest.1
      | function => exact inRest.2.2
  · intro forms
    have length : text.length = 12 := by
      rw [forms.cut, Parts.join]
      simp only [List.length_append, List.length_cons, forms.domain, forms.bus, forms.device, forms.function]
    refine ⟨⟨forms.ascii, length⟩, _, ⟨?_, ?_⟩, ⟨forms.dot, rfl⟩, forms.domain, forms.bus, forms.device,
      forms.function⟩
    · simpa [Parts.join] using forms.cut
    · have device := forms.colons .device
      have function := forms.colons .function
      intro part member
      simp only [List.mem_cons, List.not_mem_nil, or_false] at member
      rcases member with rfl | rfl | rfl
      · exact forms.colons .domain
      · exact forms.colons .bus
      · rw [List.mem_append, List.mem_cons, not_or, not_or]
        exact ⟨device, by decide, function⟩

private theorem components?_toLower (text : List Char) : components? (text.map Char.toLower) =
    (components? text).map fun (domain, bus, device, function) =>
      (domain.map Char.toLower, bus.map Char.toLower, device.map Char.toLower, function.map Char.toLower) := by
  have ascii : (text.map Char.toLower).all (fun character => character.toNat < 128) =
      text.all fun character => character.toNat < 128 := by
    simp only [List.all_map, Function.comp_def, toLower_ascii_iff]
  have colon : ':'.toNat < 65 := by decide
  have dot : '.'.toNat < 65 := by decide
  unfold components?
  rw [ascii, List.length_map, splitAll_toLower colon]
  split
  · rcases splitAll ':' text with _ | ⟨domain, _ | ⟨bus, _ | ⟨rest, _ | ⟨_, _⟩⟩⟩⟩ <;> try rfl
    simp only [List.map_cons, List.map_nil, splitFirst_toLower dot]
    cases splitFirst '.' rest with
    | none => rfl
    | some cut =>
      simp only [Option.map_some, Prod.map, List.length_map]
      split <;> rfl
  · rfl

end Cutting

section Reading

variable {text : String} {parts : Parts} {address : PciAddress} {error : PciError}

theorem parse_of_not_forms (formless : ∀ parts : Parts, ¬ parts.Forms text.toList) :
    parse text = .error (.malformed text) := by
  have absent : components? text.toList = none := by
    apply Option.eq_none_iff_forall_ne_some.mpr
    intro (domain, bus, device, function) found
    exact formless ⟨domain, bus, device, function⟩ (components?_eq_some_iff.mp found)
  rw [parse, absent]

theorem parse_of_denotes (forms : parts.Forms text.toList)
    (denotes : ∀ component, Denotes (parts.digits component) (address.number component))
    (inRange : address.InRange) : parse text = .ok address := by
  have cut := components?_eq_some_iff.mpr forms
  have domain : ofHex? parts.domain = some address.domain.toNat := ofHex?_eq_some_iff.mpr (denotes .domain)
  have bus : ofHex? parts.bus = some address.bus.toNat := ofHex?_eq_some_iff.mpr (denotes .bus)
  have device : ofHex? parts.device = some address.device.toNat := ofHex?_eq_some_iff.mpr (denotes .device)
  have function : ofHex? parts.function = some address.function.toNat := ofHex?_eq_some_iff.mpr (denotes .function)
  simp only [parse, cut, domain, bus, device, function, if_neg (Nat.not_lt_of_le inRange.1),
    if_neg (Nat.not_lt_of_le inRange.2), UInt16.ofNat_toNat, UInt8.ofNat_toNat]

theorem parse_of_blames {component : PciComponent} (forms : parts.Forms text.toList)
    (blames : parts.Blames component) :
    parse text = .error (.invalid text component (String.ofList (parts.digits component))) := by
  have cut := components?_eq_some_iff.mpr forms
  cases blames with
  | @letter before _ after order earlier foreign =>
    have absent := ofHex?_eq_none_iff.mpr foreign
    have reads (other : PciComponent) (inside : other ∈ before) : ∃ value, ofHex? (parts.digits other) = some value :=
      exists_ofHex?_iff.mpr (earlier other inside)
    rcases before with _ | ⟨first, _ | ⟨second, _ | ⟨third, before⟩⟩⟩
    · cases order
      simp only [parse, cut, show ofHex? parts.domain = none from absent, Parts.digits]
    · cases order
      obtain ⟨domain, domainRead⟩ := reads .domain (by simp)
      simp only [Parts.digits] at domainRead absent
      simp only [parse, cut, domainRead, absent, Parts.digits]
    · cases order
      obtain ⟨domain, domainRead⟩ := reads .domain (by simp)
      obtain ⟨bus, busRead⟩ := reads .bus (by simp)
      simp only [Parts.digits] at domainRead busRead absent
      simp only [parse, cut, domainRead, busRead, absent, Parts.digits]
    · obtain ⟨rfl, rfl, rfl, last⟩ : PciComponent.domain = first ∧ PciComponent.bus = second ∧
          PciComponent.device = third ∧ [.function] = before ++ component :: after := by
        simpa using order
      obtain ⟨rfl, rfl, rfl⟩ : before = [] ∧ component = .function ∧ after = [] := by
        cases before with
        | nil => simpa [eq_comm] using last
        | cons other others => simp at last
      obtain ⟨domain, domainRead⟩ := reads .domain (by simp)
      obtain ⟨bus, busRead⟩ := reads .bus (by simp)
      obtain ⟨device, deviceRead⟩ := reads .device (by simp)
      simp only [Parts.digits] at domainRead busRead deviceRead absent
      simp only [parse, cut, domainRead, busRead, deviceRead, absent, Parts.digits]
  | device digits denoted large =>
    obtain ⟨domain, domainRead⟩ := exists_ofHex?_iff.mpr (digits .domain)
    obtain ⟨bus, busRead⟩ := exists_ofHex?_iff.mpr (digits .bus)
    obtain ⟨function, functionRead⟩ := exists_ofHex?_iff.mpr (digits .function)
    simp only [Parts.digits] at domainRead busRead functionRead
    simp only [parse, cut, domainRead, busRead, functionRead, ofHex?_eq_some_iff.mpr denoted, if_pos large, Parts.digits]
  | function digits fitting small denoted large =>
    obtain ⟨domain, domainRead⟩ := exists_ofHex?_iff.mpr (digits .domain)
    obtain ⟨bus, busRead⟩ := exists_ofHex?_iff.mpr (digits .bus)
    simp only [Parts.digits] at domainRead busRead
    simp only [parse, cut, domainRead, busRead, ofHex?_eq_some_iff.mpr fitting, ofHex?_eq_some_iff.mpr denoted,
      if_neg (Nat.not_lt_of_le small), if_pos large, Parts.digits]

private theorem exists_blames {component : PciComponent} {character : Char} (inside : character ∈ parts.digits component)
    (foreign : ¬ IsHexDigit character) : ∃ component, parts.Blames component := by
  classical
  let clean (component : PciComponent) : Prop := ∀ character ∈ parts.digits component, IsHexDigit character
  have listed : component ∈ [PciComponent.domain, .bus, .device, .function] := by cases component <;> simp
  have found : ([PciComponent.domain, .bus, .device, .function].find? fun other => ¬ clean other).isSome := by
    apply List.find?_isSome.mpr
    exact ⟨component, listed, by simpa [clean] using ⟨character, inside, foreign⟩⟩
  obtain ⟨first, here⟩ := Option.isSome_iff_exists.mp found
  obtain ⟨unclean, before, after, order, earlier⟩ := List.find?_eq_some_iff_append.mp here
  refine ⟨first, .letter order ?_ ?_⟩
  · intro other member
    simpa [clean] using earlier other member
  · simpa [clean] using unclean

/-- A text of the right form denotes an address or has a component to blame. -/
theorem denotes_or_blames (forms : parts.Forms text.toList) :
    (∃ address : PciAddress, (∀ component, Denotes (parts.digits component) (address.number component)) ∧
      address.InRange) ∨ ∃ component, parts.Blames component := by
  by_cases digits : ∀ component, ∀ character ∈ parts.digits component, IsHexDigit character
  · have denoted (component : PciComponent) := exists_denotes_iff.mpr (digits component)
    obtain ⟨domain, domainDenoted⟩ := denoted .domain
    obtain ⟨bus, busDenoted⟩ := denoted .bus
    obtain ⟨device, deviceDenoted⟩ := denoted .device
    obtain ⟨function, functionDenoted⟩ := denoted .function
    by_cases deviceFits : device ≤ maxDevice
    · by_cases functionFits : function ≤ maxFunction
      · left
        have domainSmall : domain < 16 ^ 4 := forms.domain ▸ domainDenoted.2
        have busSmall : bus < 16 ^ 2 := forms.bus ▸ busDenoted.2
        have domainKept : (UInt16.ofNat domain).toNat = domain := UInt16.toNat_ofNat_of_lt' domainSmall
        have busKept : (UInt8.ofNat bus).toNat = bus := UInt8.toNat_ofNat_of_lt' busSmall
        have deviceKept : (UInt8.ofNat device).toNat = device :=
          UInt8.toNat_ofNat_of_lt' (Nat.lt_of_le_of_lt deviceFits (by decide))
        have functionKept : (UInt8.ofNat function).toNat = function :=
          UInt8.toNat_ofNat_of_lt' (Nat.lt_of_le_of_lt functionFits (by decide))
        refine ⟨⟨UInt16.ofNat domain, UInt8.ofNat bus, UInt8.ofNat device, UInt8.ofNat function⟩, ?_, ?_⟩
        · intro component
          cases component with
          | domain => simpa only [number, domainKept] using domainDenoted
          | bus => simpa only [number, busKept] using busDenoted
          | device => simpa only [number, deviceKept] using deviceDenoted
          | function => simpa only [number, functionKept] using functionDenoted
        · simpa only [InRange, deviceKept, functionKept] using ⟨deviceFits, functionFits⟩
      · exact Or.inr ⟨.function, .function digits deviceDenoted deviceFits functionDenoted (Nat.lt_of_not_le functionFits)⟩
    · exact Or.inr ⟨.device, .device digits deviceDenoted (Nat.lt_of_not_le deviceFits)⟩
  · obtain ⟨component, foreign⟩ := Classical.not_forall.mp digits
    obtain ⟨character, foreign⟩ := Classical.not_forall.mp foreign
    obtain ⟨inside, foreign⟩ := Classical.not_imp.mp foreign
    exact Or.inr (exists_blames inside foreign)

private theorem parse_ok_iff : parse text = .ok address ↔ ∃ parts : Parts, parts.Forms text.toList ∧
    (∀ component, Denotes (parts.digits component) (address.number component)) ∧ address.InRange := by
  constructor
  · intro read
    by_cases formed : ∃ parts : Parts, parts.Forms text.toList
    · obtain ⟨parts, forms⟩ := formed
      rcases denotes_or_blames forms with ⟨other, denotes, inRange⟩ | ⟨component, blames⟩
      · rw [parse_of_denotes forms denotes inRange] at read
        cases read
        exact ⟨parts, forms, denotes, inRange⟩
      · rw [parse_of_blames forms blames] at read
        cases read
    · rw [parse_of_not_forms (not_exists.mp formed)] at read
      cases read
  · intro ⟨parts, forms, denotes, inRange⟩
    exact parse_of_denotes forms denotes inRange

private theorem parse_error_iff : parse text = .error error ↔
    (error = .malformed text ∧ ∀ parts : Parts, ¬ parts.Forms text.toList) ∨
    ∃ (parts : Parts) (component : PciComponent), parts.Forms text.toList ∧ parts.Blames component ∧
      error = .invalid text component (String.ofList (parts.digits component)) := by
  constructor
  · intro read
    by_cases formed : ∃ parts : Parts, parts.Forms text.toList
    · obtain ⟨parts, forms⟩ := formed
      rcases denotes_or_blames forms with ⟨other, denotes, inRange⟩ | ⟨component, blames⟩
      · rw [parse_of_denotes forms denotes inRange] at read
        cases read
      · rw [parse_of_blames forms blames] at read
        cases read
        exact Or.inr ⟨parts, component, forms, blames, rfl⟩
    · rw [parse_of_not_forms (not_exists.mp formed)] at read
      cases read
      exact Or.inl ⟨rfl, not_exists.mp formed⟩
  · rintro (⟨rfl, formless⟩ | ⟨parts, component, forms, blames, rfl⟩)
    · exact parse_of_not_forms formless
    · exact parse_of_blames forms blames

end Reading

section Writing

variable {text : String} {address left right : PciAddress}

theorem toDigits_function (function : UInt8) : ∃ width, 0 < width ∧ function.toNat < 16 ^ width ∧
    Nat.toDigits 16 function.toNat = hexDigits width function.toNat := by
  have bound := function.toNat_lt
  by_cases small : function.toNat < 16
  · refine ⟨1, Nat.one_pos, small, ?_⟩
    rw [Nat.toDigits_of_lt_base small]
    simp [hexDigits, Nat.mod_eq_of_lt small]
  · refine ⟨2, Nat.two_pos, bound, ?_⟩
    have high : function.toNat / 16 < 16 := by omega
    rw [Nat.toDigits_of_base_le (by decide) (Nat.le_of_not_lt small), Nat.toDigits_of_lt_base high]
    simp [hexDigits, Nat.mod_eq_of_lt high]

theorem written_function (inRange : address.InRange) :
    (Parts.written address).function = hexDigits 1 address.function.toNat := by
  have small : address.function.toNat < 16 := Nat.lt_of_le_of_lt inRange.2 (by decide)
  rw [Parts.written, Nat.toDigits_of_lt_base small]
  simp [hexDigits, Nat.mod_eq_of_lt small]

theorem toList_render (address : PciAddress) : address.render.toList = (Parts.written address).join := by
  have given := Nat.length_toDigits_pos (b := 16) (n := address.function.toNat)
  have unpadded : 1 - (Nat.toDigits 16 address.function.toNat).length = 0 := by omega
  have function : Text.hex 1 address.function.toNat = String.ofList (Nat.toDigits 16 address.function.toNat) := by
    rw [Text.hex, String.length_ofList, unpadded]
    exact String.empty_append
  simp [render, function, Parts.join, Parts.written]

private theorem toLower_render (address : PciAddress) : address.render.toLower = address.render := by
  obtain ⟨width, _, _, function⟩ := toDigits_function address.function
  have colon : ':'.toLower = ':' := rfl
  have dot : '.'.toLower = '.' := rfl
  apply String.toList_inj.mp
  rw [toList_toLower, toList_render, Parts.join]
  simp only [Parts.written, function, List.map_append, List.map_cons, toLower_hexDigits, colon, dot]

theorem render_inj (same : left.render = right.render) : left = right := by
  have joined := congrArg String.toList same
  rw [toList_render, toList_render] at joined
  obtain ⟨domain, joined⟩ := List.append_inj joined (by simp only [Parts.written, length_hexDigits])
  obtain ⟨bus, joined⟩ := List.append_inj (List.cons.inj joined).2 (by simp only [Parts.written, length_hexDigits])
  obtain ⟨device, joined⟩ := List.append_inj (List.cons.inj joined).2 (by simp only [Parts.written, length_hexDigits])
  have function : Nat.toDigits 16 left.function.toNat = Nat.toDigits 16 right.function.toNat := (List.cons.inj joined).2
  obtain ⟨leftWidth, _, leftSmall, leftDigits⟩ := toDigits_function left.function
  obtain ⟨rightWidth, _, rightSmall, rightDigits⟩ := toDigits_function right.function
  rw [leftDigits, rightDigits] at function
  have width := congrArg List.length function
  rw [length_hexDigits, length_hexDigits] at width
  subst width
  obtain ⟨leftDomain, leftBus, leftDevice, leftFunction⟩ := left
  obtain ⟨rightDomain, rightBus, rightDevice, rightFunction⟩ := right
  congr 1
  · exact UInt16.toNat.inj (hexDigits_inj leftDomain.toNat_lt rightDomain.toNat_lt domain)
  · exact UInt8.toNat.inj (hexDigits_inj leftBus.toNat_lt rightBus.toNat_lt bus)
  · exact UInt8.toNat.inj (hexDigits_inj leftDevice.toNat_lt rightDevice.toNat_lt device)
  · exact UInt8.toNat.inj (hexDigits_inj leftSmall rightSmall function)

private theorem forms_render (inRange : address.InRange) : (Parts.written address).Forms address.render.toList := by
  have function := written_function inRange
  have digit : ∀ digit < 16, (Nat.digitChar digit).toNat < 128 := by decide
  have ascii {width value : Nat} {character : Char} (member : character ∈ hexDigits width value) :
      character.toNat < 128 := by
    obtain ⟨place, small, rfl⟩ := mem_hexDigits member
    exact digit place small
  refine ⟨?_, toList_render address, ?_, not_mem_hexDigits rfl _ _, length_hexDigits _ _, length_hexDigits _ _,
    length_hexDigits _ _, ?_⟩
  · intro character member
    rw [toList_render, Parts.join, function] at member
    simp only [Parts.written, List.mem_append, List.mem_cons] at member
    rcases member with inside | rfl | inside | rfl | inside | rfl | inside
    · exact ascii inside
    · decide
    · exact ascii inside
    · decide
    · exact ascii inside
    · decide
    · exact ascii inside
  · intro component
    cases component with
    | domain => exact not_mem_hexDigits rfl _ _
    | bus => exact not_mem_hexDigits rfl _ _
    | device => exact not_mem_hexDigits rfl _ _
    | function =>
      rw [Parts.digits, function]
      exact not_mem_hexDigits rfl _ _
  · rw [function, length_hexDigits]

private theorem denotes_written (inRange : address.InRange) (component : PciComponent) :
    Denotes ((Parts.written address).digits component) (address.number component) := by
  cases component with
  | domain => exact denotes_hexDigits address.domain.toNat_lt
  | bus => exact denotes_hexDigits address.bus.toNat_lt
  | device => exact denotes_hexDigits address.device.toNat_lt
  | function =>
    rw [Parts.digits, written_function inRange]
    exact denotes_hexDigits (Nat.lt_of_le_of_lt inRange.2 (by decide))

private theorem parse_render (inRange : address.InRange) : parse address.render = .ok address :=
  parse_of_denotes (forms_render inRange) (denotes_written inRange) inRange

/-- A text that is read is the written form of what is read, but for the case of its letters. -/
theorem toLower_of_parse (read : parse text = .ok address) : text.toLower = address.render := by
  obtain ⟨parts, forms, denotes, inRange⟩ := parse_ok_iff.mp read
  have domain := (denotes .domain).1
  have bus := (denotes .bus).1
  have device := (denotes .device).1
  have function := (denotes .function).1
  simp only [Parts.digits, number, forms.domain, forms.bus, forms.device, forms.function] at domain bus device function
  have colon : ':'.toLower = ':' := rfl
  have dot : '.'.toLower = '.' := rfl
  apply String.toList_inj.mp
  rw [toList_toLower, forms.cut, toList_render, Parts.join, Parts.join, written_function inRange]
  simp only [List.map_append, List.map_cons, domain, bus, device, function, colon, dot, Parts.written]

private theorem parse_of_toLower (lowered : text.toLower = address.render) (inRange : address.InRange) :
    parse text = .ok address := by
  have found := components?_eq_some_iff.mpr (forms_render inRange)
  rw [← lowered, toList_toLower, components?_toLower] at found
  obtain ⟨⟨domain, bus, device, function⟩, cut, same⟩ := Option.map_eq_some_iff.mp found
  simp only [Prod.mk.injEq] at same
  have forms : Parts.Forms ⟨domain, bus, device, function⟩ text.toList := components?_eq_some_iff.mp cut
  apply parse_of_denotes forms ?_ inRange
  intro component
  have written := denotes_written inRange component
  rw [← ofHex?_eq_some_iff] at written ⊢
  cases component with
  | domain => rwa [Parts.digits, ← same.1, ofHex?_toLower] at written
  | bus => rwa [Parts.digits, ← same.2.1, ofHex?_toLower] at written
  | device => rwa [Parts.digits, ← same.2.2.1, ofHex?_toLower] at written
  | function => rwa [Parts.digits, ← same.2.2.2, ofHex?_toLower] at written

theorem ofComponents_ok_iff {domain : UInt16} {bus device function : UInt8} :
    ofComponents domain bus device function = .ok address ↔ address = ⟨domain, bus, device, function⟩ ∧ address.InRange := by
  unfold ofComponents InRange
  constructor
  · intro built
    simp only at built
    split at built
    · cases built
    next deviceFits =>
      split at built
      · cases built
      next functionFits =>
        cases built
        exact ⟨rfl, Nat.le_of_not_lt deviceFits, Nat.le_of_not_lt functionFits⟩
  · intro ⟨same, deviceFits, functionFits⟩
    subst same
    simp only [if_neg (Nat.not_lt_of_le deviceFits), if_neg (Nat.not_lt_of_le functionFits)]

end Writing

/-- A text is read as an address exactly if it is, up to the case of its letters, the written form of that
address and the address is in range; no two addresses share a written form. So what is built of components is
read back, and components are refused exactly if their written form is. Every other text is refused for its
form, or for the component that is to blame. -/
theorem pci_addresses_exact :
    (∀ text address, parse text = .ok address ↔ text.toLower = address.render ∧ address.InRange) ∧
    (∀ left right : PciAddress, left.render = right.render → left = right) ∧
    (∀ domain bus device function,
      (∀ address, ofComponents domain bus device function = .ok address → parse address.render = .ok address) ∧
      ((∃ address, ofComponents domain bus device function = .ok address) ↔
        ∃ address, parse (render ⟨domain, bus, device, function⟩) = .ok address)) ∧
    ∀ text error, parse text = .error error ↔
      (error = .malformed text ∧ ∀ parts : Parts, ¬ parts.Forms text.toList) ∨
      ∃ (parts : Parts) (component : PciComponent), parts.Forms text.toList ∧ parts.Blames component ∧
        error = .invalid text component (String.ofList (parts.digits component)) := by
  have exact : ∀ text address, parse text = .ok address ↔ text.toLower = address.render ∧ address.InRange := by
    intro text address
    constructor
    · intro read
      obtain ⟨_, _, _, inRange⟩ := parse_ok_iff.mp read
      exact ⟨toLower_of_parse read, inRange⟩
    · intro ⟨lowered, inRange⟩
      exact parse_of_toLower lowered inRange
  refine ⟨exact, fun left right => render_inj, ?_, fun text error => parse_error_iff⟩
  intro domain bus device function
  constructor
  · intro address built
    exact parse_render (ofComponents_ok_iff.mp built).2
  · constructor
    · intro ⟨address, built⟩
      obtain ⟨same, inRange⟩ := ofComponents_ok_iff.mp built
      exact ⟨address, same ▸ parse_render inRange⟩
    · intro ⟨address, read⟩
      obtain ⟨lowered, inRange⟩ := (exact _ _).mp read
      rw [toLower_render] at lowered
      have same := render_inj lowered
      exact ⟨address, ofComponents_ok_iff.mpr ⟨same.symm, inRange⟩⟩

/-- Capital letters are read, and a function that is no digit is blamed before a device that is too large. -/
theorem pci_addresses_exact_capitals :
    ofComponents 0 0xaf 0x1f 7 = .ok ⟨0, 0xaf, 0x1f, 7⟩ ∧ parse "0000:af:1f.7" = .ok ⟨0, 0xaf, 0x1f, 7⟩ ∧
      parse "0000:AF:1F.7" = .ok ⟨0, 0xaf, 0x1f, 7⟩ ∧
      parse "0000:af:20.x" = .error (.invalid "0000:af:20.x" .function "x") := by
  obtain ⟨exact, _, built, refused⟩ := pci_addresses_exact
  have components : ofComponents 0 0xaf 0x1f 7 = .ok ⟨0, 0xaf, 0x1f, 7⟩ := rfl
  have written : render ⟨0, 0xaf, 0x1f, 7⟩ = "0000:af:1f.7" := by decide +kernel
  have capitals : "0000:AF:1F.7".toLower = render ⟨0, 0xaf, 0x1f, 7⟩ := by decide +kernel
  have readBack := (built 0 0xaf 0x1f 7).1 _ components
  rw [written] at readBack
  refine ⟨components, readBack, (exact _ _).mpr ⟨capitals, by decide, by decide⟩, (refused _ _).mpr (Or.inr ?_)⟩
  let parts : Parts := ⟨['0', '0', '0', '0'], ['a', 'f'], ['2', '0'], ['x']⟩
  have earlier : ∀ other ∈ [PciComponent.domain, .bus, .device], ∀ character ∈ parts.digits other, IsHexDigit character := by
    simp only [List.forall_mem_cons, ← exists_ofHex?_iff]
    exact ⟨⟨_, rfl⟩, ⟨_, rfl⟩, ⟨_, rfl⟩, nofun⟩
  have foreign : ∃ character ∈ parts.digits .function, ¬ IsHexDigit character := ofHex?_eq_none_iff.mp rfl
  have colons : ∀ component, ':' ∉ parts.digits component := by
    intro component
    cases component <;> decide
  have ascii : ∀ character ∈ "0000:af:20.x".toList, character.toNat < 128 := by
    intro character member
    have all : "0000:af:20.x".toList.all (fun character => character.toNat < 128) := by decide
    exact of_decide_eq_true (List.all_eq_true.mp all character member)
  exact ⟨parts, .function, ⟨ascii, rfl, colons, by decide, rfl, rfl, rfl, rfl⟩, .letter rfl earlier foreign, rfl⟩

end PciAddress

end NicFlow
