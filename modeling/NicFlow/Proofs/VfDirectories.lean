import NicFlow.Agent.VfLookup
import NicFlow.Proofs.DecimalTexts
import NicFlow.Proofs.TracedResults

/-! Looking up a virtual function in the directory of its physical function. If the links in the directory are
in order, the outcome depends on the links alone, and neither on the order of the entries nor on other entries. -/

namespace NicFlow

open Log Text

namespace DeviceDirectory

/-- The name of the link for an index of 32 bits. Zeros may stand before the number, and a plus before them. -/
structure NamesIndex (name : String) (index : Nat) : Prop where
  written : ∃ sign zeros, (sign = "" ∨ sign = "+") ∧
    name = "virtfn" ++ sign ++ String.ofList (List.replicate zeros '0') ++ toString index
  bounded : index < UInt32.size

/-- The entry is a link to a device with this address. -/
def LinksTo (entry : DirectoryEntry) (address : PciAddress) : Prop :=
  ∃ link name, entry.link = some link ∧ fileName? link = some name ∧ PciAddress.parse name = .ok address

/-- Two entries that are named for indices do not link to the same device. -/
def LinkApart (first second : DirectoryEntry) : Prop :=
  ∀ address firstIndex secondIndex, NamesIndex first.name firstIndex → NamesIndex second.name secondIndex →
    LinksTo first address → ¬ LinksTo second address

/-- Every entry that is named for an index is a link, to a target with no name or to a device, and no two of them
link to the same device. -/
structure InOrder (entries : List DirectoryEntry) : Prop where
  linked : ∀ entry ∈ entries, ∀ index, NamesIndex entry.name index →
    (∃ link, entry.link = some link ∧ fileName? link = none) ∨ ∃ address, LinksTo entry address
  apart : entries.Pairwise LinkApart

section Names

variable {name : String} {digits : List Char} {index : Nat}

private theorem toList_named (sign : String) (zeros index : Nat) :
    ("virtfn" ++ sign ++ String.ofList (List.replicate zeros '0') ++ toString index).toList =
      "virtfn".toList ++ (sign.toList ++ (List.replicate zeros '0' ++ Nat.toDigits 10 index)) := by
  have padding : (String.ofList (List.replicate zeros '0')).toList = List.replicate zeros '0' := String.toList_ofList
  have numeral : (toString index).toList = Nat.toDigits 10 index := Nat.toList_repr
  rw [String.toList_append, String.toList_append, String.toList_append, padding, numeral, List.append_assoc,
    List.append_assoc]

private theorem indexOfName?_plus (named : name.toList = "virtfn".toList ++ '+' :: digits) :
    indexOfName? name = (ofDecimal? digits).filter (· < 0x100000000) := by
  rw [indexOfName?, named]
  rfl

private theorem indexOfName?_plain (named : name.toList = "virtfn".toList ++ digits) (unsigned : digits.head? ≠ some '+') :
    indexOfName? name = (ofDecimal? digits).filter (· < 0x100000000) := by
  have shape : name.toList = 'v' :: 'i' :: 'r' :: 't' :: 'f' :: 'n' :: digits := named
  simp only [indexOfName?, shape]
  split
  next => exact absurd rfl unsigned
  next => rfl

private theorem indexOfName?_foreign (foreign : ∀ digits, name.toList ≠ "virtfn".toList ++ digits) :
    indexOfName? name = none := by
  unfold indexOfName?
  split
  next digits named => exact absurd named (foreign digits)
  next => rfl

private theorem head?_numeral (zeros index : Nat) :
    (List.replicate zeros '0' ++ Nat.toDigits 10 index).head? ≠ some '+' := by
  intro plus
  have member := List.mem_of_head? plus
  rcases List.mem_append.mp member with zero | digit
  · cases List.eq_of_mem_replicate zero
  · cases Nat.isDigit_of_mem_toDigits (by decide) (by decide) digit

private theorem namesIndex_iff : NamesIndex name index ↔ ∃ sign zeros, (sign = "" ∨ sign = "+") ∧
    name.toList = "virtfn".toList ++ (sign.toList ++ (List.replicate zeros '0' ++ Nat.toDigits 10 index)) ∧
      index < UInt32.size := by
  simp only [← toList_named, String.toList_inj]
  constructor
  · rintro ⟨⟨sign, zeros, signed, written⟩, bounded⟩
    exact ⟨sign, zeros, signed, written, bounded⟩
  · rintro ⟨sign, zeros, signed, written, bounded⟩
    exact ⟨⟨sign, zeros, signed, written⟩, bounded⟩

theorem indexOfName?_eq_some_iff : indexOfName? name = some index ↔ NamesIndex name index := by
  rw [namesIndex_iff]
  constructor
  · intro found
    by_cases named : ∃ digits, name.toList = "virtfn".toList ++ digits
    · obtain ⟨digits, named⟩ := named
      by_cases signed : digits.head? = some '+'
      · obtain ⟨digits, rfl⟩ := List.head?_eq_some_iff.mp signed
        rw [indexOfName?_plus named, Option.filter_eq_some_iff, ofDecimal?_eq_some_iff] at found
        obtain ⟨⟨zeros, rfl⟩, bounded⟩ := found
        exact ⟨"+", zeros, Or.inr rfl, named, of_decide_eq_true bounded⟩
      · rw [indexOfName?_plain named signed, Option.filter_eq_some_iff, ofDecimal?_eq_some_iff] at found
        obtain ⟨⟨zeros, rfl⟩, bounded⟩ := found
        exact ⟨"", zeros, Or.inl rfl, named, of_decide_eq_true bounded⟩
    · rw [indexOfName?_foreign (not_exists.mp named)] at found
      cases found
  · rintro ⟨sign, zeros, rfl | rfl, named, bounded⟩
    · rw [indexOfName?_plain named (head?_numeral zeros index), Option.filter_eq_some_iff, ofDecimal?_eq_some_iff]
      exact ⟨⟨zeros, rfl⟩, decide_eq_true bounded⟩
    · rw [indexOfName?_plus named, Option.filter_eq_some_iff, ofDecimal?_eq_some_iff]
      exact ⟨⟨zeros, rfl⟩, decide_eq_true bounded⟩

end Names

section Links

variable {path : String} {address other : PciAddress} {entry : DirectoryEntry} {entries : List DirectoryEntry}
  {index : Nat}

theorem LinksTo.linkedAddress (path : String) (links : LinksTo entry address) :
    linkedAddress path entry = .ok (some address) := by
  obtain ⟨link, name, linked, named, read⟩ := links
  simp only [DeviceDirectory.linkedAddress, linked, named, read]
  rfl

theorem LinksTo.unique (links : LinksTo entry address) (again : LinksTo entry other) : address = other := by
  have same := (links.linkedAddress "").symm.trans (again.linkedAddress "")
  exact Option.some.inj (Except.ok.inj same)

private theorem InOrder.linkedAddress_eq (order : InOrder entries) (member : entry ∈ entries)
    (named : NamesIndex entry.name index) (path : String) :
    ∃ target, linkedAddress path entry = .ok target ∧ ∀ address, target = some address ↔ LinksTo entry address := by
  rcases order.linked entry member index named with ⟨link, linked, nameless⟩ | ⟨address, links⟩
  · refine ⟨none, ?_, fun address => iff_of_false nofun ?_⟩
    · simp only [linkedAddress, linked, nameless]
    · rintro ⟨again, name, alsoLinked, named, _⟩
      cases linked.symm.trans alsoLinked
      cases nameless.symm.trans named
  · refine ⟨some address, links.linkedAddress path, fun other => ⟨?_, ?_⟩⟩
    · rintro ⟨⟩
      exact links
    · intro also
      rw [links.unique also]

end Links

section Scan

variable {path : String} {pf vf : PciAddress} {entry first : DirectoryEntry} {entries rest : List DirectoryEntry}
  {index : Nat}

/-- The outcome of a scan that finds the virtual function at an index. -/
def hit (pf vf : PciAddress) (index : Nat) : Traced VfError Nat :=
  ⟨.ok index, [.trace target s!"{vf.render} is VF {index} of {pf.render}"]⟩

private theorem find_cons {linked : Option PciAddress} (named : NamesIndex first.name index)
    (read : linkedAddress path first = .ok linked) :
    find path pf vf (first :: rest) = if linked = some vf then hit pf vf index else find path pf vf rest := by
  simp only [find, indexOfName?_eq_some_iff.mpr named, read, Traced.of_ok_bind]
  rfl

theorem InOrder.tail (order : InOrder (first :: rest)) : InOrder rest where
  linked entry member := order.linked entry (List.mem_cons_of_mem _ member)
  apart := (List.pairwise_cons.mp order.apart).2

private theorem find_cons_of_other (order : InOrder (first :: rest))
    (other : ∀ index, NamesIndex first.name index → ¬ LinksTo first vf) :
    find path pf vf (first :: rest) = find path pf vf rest := by
  cases named : indexOfName? first.name with
  | none => rw [find, named]
  | some index =>
    have named := indexOfName?_eq_some_iff.mp named
    obtain ⟨linked, read, exact⟩ := order.linkedAddress_eq List.mem_cons_self named path
    rw [find_cons named read, if_neg fun here => other index named ((exact vf).mp here)]

theorem find_of_linksTo (order : InOrder entries) (member : entry ∈ entries) (named : NamesIndex entry.name index)
    (links : LinksTo entry vf) : find path pf vf entries = hit pf vf index := by
  induction entries with
  | nil => cases member
  | cons first rest ih =>
    rcases List.mem_cons.mp member with rfl | inside
    · rw [find_cons named (links.linkedAddress path), if_pos rfl]
    · have other : ∀ index, NamesIndex first.name index → ¬ LinksTo first vf := by
        intro firstIndex firstNamed firstLinks
        exact (List.pairwise_cons.mp order.apart).1 entry inside vf firstIndex index firstNamed named firstLinks links
      rw [find_cons_of_other order other, ih order.tail inside]

theorem find_of_not_linksTo (order : InOrder entries)
    (none : ∀ entry ∈ entries, ∀ index, NamesIndex entry.name index → ¬ LinksTo entry vf) :
    find path pf vf entries = .fail (.notFound pf vf) := by
  induction entries with
  | nil => rfl
  | cons first rest ih =>
    obtain ⟨here, later⟩ := List.forall_mem_cons.mp none
    rw [find_cons_of_other order here, ih order.tail later]

end Scan

section Listing

variable {entries others : List DirectoryEntry}

theorem LinkApart.symm {first second : DirectoryEntry} (apart : LinkApart first second) : LinkApart second first :=
  fun address firstIndex secondIndex firstNamed secondNamed firstLinks secondLinks =>
    apart address secondIndex firstIndex secondNamed firstNamed secondLinks firstLinks

/-- The name of the entry is that of an index. -/
def isIndexed (entry : DirectoryEntry) : Bool := (indexOfName? entry.name).isSome

theorem NamesIndex.isIndexed {entry : DirectoryEntry} {index : Nat} (named : NamesIndex entry.name index) :
    isIndexed entry = true := by
  rw [DeviceDirectory.isIndexed, indexOfName?_eq_some_iff.mpr named, Option.isSome_some]

private theorem InOrder.of_perm (order : InOrder entries) (same : (entries.filter isIndexed).Perm (others.filter isIndexed)) :
    InOrder others where
  linked entry member index named := by
    have inOthers := List.mem_filter.mpr ⟨member, named.isIndexed⟩
    exact order.linked entry (List.mem_of_mem_filter (same.mem_iff.mpr inOthers)) index named
  apart := by
    have apart := List.pairwise_filter.mp ((order.apart.filter isIndexed).perm same LinkApart.symm)
    refine apart.imp fun apart address firstIndex secondIndex firstNamed secondNamed => ?_
    exact apart firstNamed.isIndexed secondNamed.isIndexed address firstIndex secondIndex firstNamed secondNamed

/-- The scan of a listing in order finds the index of an entry that links to the virtual function, or nothing if
there is none. -/
theorem find_cases (order : InOrder entries) (path : String) (pf vf : PciAddress) :
    (∃ index, ∃ entry ∈ entries, NamesIndex entry.name index ∧ LinksTo entry vf ∧
      find path pf vf entries = hit pf vf index) ∨
    (∀ entry ∈ entries, ∀ index, NamesIndex entry.name index → ¬ LinksTo entry vf) ∧
      find path pf vf entries = .fail (.notFound pf vf) := by
  by_cases some : ∃ index, ∃ entry ∈ entries, NamesIndex entry.name index ∧ LinksTo entry vf
  · obtain ⟨index, entry, member, named, links⟩ := some
    exact Or.inl ⟨index, entry, member, named, links, find_of_linksTo order member named links⟩
  · have none : ∀ entry ∈ entries, ∀ index, NamesIndex entry.name index → ¬ LinksTo entry vf :=
      fun entry member index named links => some ⟨index, entry, member, named, links⟩
    exact Or.inr ⟨none, find_of_not_linksTo order none⟩

private theorem find_perm (order : InOrder entries) (same : (entries.filter isIndexed).Perm (others.filter isIndexed))
    (path otherPath : String) (pf vf : PciAddress) : find otherPath pf vf others = find path pf vf entries := by
  have otherOrder := order.of_perm same
  rcases find_cases order path pf vf with ⟨index, entry, member, named, links, found⟩ | ⟨none, missed⟩
  · have inOthers := same.mem_iff.mp (List.mem_filter.mpr ⟨member, named.isIndexed⟩)
    rw [found, find_of_linksTo otherOrder (List.mem_of_mem_filter inOthers) named links]
  · rw [missed]
    refine find_of_not_linksTo otherOrder fun entry member index named => ?_
    have inEntries := same.mem_iff.mpr (List.mem_filter.mpr ⟨member, named.isIndexed⟩)
    exact none entry (List.mem_of_mem_filter inEntries) index named

end Listing

end DeviceDirectory

private theorem VfLookup.ofDirectories_of_listed {root : String} {directories : List DeviceDirectory} {pf vf : PciAddress}
    {directory : DeviceDirectory} (listed : directories.find? (·.name = pf.render) = some directory) :
    VfLookup.ofDirectories root directories pf vf =
      DeviceDirectory.find (root ++ "/bus/pci/devices/" ++ pf.render) pf vf directory.entries := by
  simp only [VfLookup.ofDirectories, listed]

open DeviceDirectory in
/-- In a directory in order, the index of a virtual function is that of the entry that links to it, and it is not
found if no entry does. Every listing of the same links gives the same, whatever else is listed. -/
theorem vf_lookup_by_links (root : String) (directories : List DeviceDirectory) (pf vf : PciAddress)
    (directory : DeviceDirectory) (listed : directories.find? (·.name = pf.render) = some directory)
    (order : InOrder directory.entries) :
    (∀ index, (VfLookup.ofDirectories root directories pf vf).result = .ok index ↔
      ∃ entry ∈ directory.entries, NamesIndex entry.name index ∧ LinksTo entry vf) ∧
    (∀ error, (VfLookup.ofDirectories root directories pf vf).result = .error error ↔
      error = .notFound pf vf ∧
        ¬ ∃ index, ∃ entry ∈ directory.entries, NamesIndex entry.name index ∧ LinksTo entry vf) ∧
    ∀ (otherRoot : String) (otherDirectories : List DeviceDirectory) (other : DeviceDirectory),
      otherDirectories.find? (·.name = pf.render) = some other →
      (directory.entries.filter isIndexed).Perm (other.entries.filter isIndexed) →
      VfLookup.ofDirectories otherRoot otherDirectories pf vf = VfLookup.ofDirectories root directories pf vf := by
  rw [VfLookup.ofDirectories_of_listed listed]
  refine ⟨?_, ?_, ?_⟩
  · intro index
    constructor
    · intro found
      rcases find_cases order _ pf vf with ⟨_, entry, member, named, links, outcome⟩ | ⟨_, outcome⟩
      · rw [outcome] at found
        cases found
        exact ⟨entry, member, named, links⟩
      · rw [outcome] at found
        cases found
    · rintro ⟨entry, member, named, links⟩
      rw [find_of_linksTo order member named links]
      rfl
  · intro error
    constructor
    · intro failed
      rcases find_cases order _ pf vf with ⟨_, entry, member, named, links, outcome⟩ | ⟨none, outcome⟩
      · rw [outcome] at failed
        cases failed
      · rw [outcome] at failed
        cases failed
        exact ⟨rfl, fun ⟨index, entry, member, named, links⟩ => none entry member index named links⟩
    · rintro ⟨rfl, absent⟩
      rw [find_of_not_linksTo order fun entry member index named links => absent ⟨index, entry, member, named, links⟩]
      rfl
  · intro otherRoot otherDirectories other otherListed same
    rw [VfLookup.ofDirectories_of_listed otherListed]
    exact find_perm order same _ _ pf vf

open DeviceDirectory in
/-- A directory that lists two functions in descending order, after a file. -/
theorem vf_lookup_by_links_descending :
    let pf : PciAddress := ⟨0, 0x18, 0, 0⟩
    let directory : DeviceDirectory := ⟨"0000:18:00.0",
      [⟨"vendor", none⟩, ⟨"virtfn1", some "../0000:18:02.1"⟩, ⟨"virtfn0", some "../0000:18:02.0"⟩]⟩
    [directory].find? (·.name = pf.render) = some directory ∧ InOrder directory.entries ∧
      (VfLookup.ofDirectories "/sys" [directory] pf ⟨0, 0x18, 2, 1⟩).result = .ok 1 := by
  intro pf directory
  have listed : [directory].find? (·.name = pf.render) = some directory := by decide +kernel
  have vendor (index : Nat) : ¬ NamesIndex "vendor" index := by
    intro named
    cases indexOfName?_eq_some_iff.mpr named
  have first : LinksTo ⟨"virtfn1", some "../0000:18:02.1"⟩ ⟨0, 0x18, 2, 1⟩ := ⟨_, _, rfl, rfl, rfl⟩
  have second : LinksTo ⟨"virtfn0", some "../0000:18:02.0"⟩ ⟨0, 0x18, 2, 0⟩ := ⟨_, _, rfl, rfl, rfl⟩
  have order : InOrder directory.entries := by
    constructor
    · simp only [directory, List.forall_mem_cons]
      refine ⟨fun index named => absurd named (vendor index), fun _ _ => Or.inr ⟨_, first⟩,
        fun _ _ => Or.inr ⟨_, second⟩, nofun⟩
    · have unnamed (other : DirectoryEntry) : LinkApart ⟨"vendor", none⟩ other :=
        fun _ index _ named => absurd named (vendor index)
      have apart : LinkApart ⟨"virtfn1", some "../0000:18:02.1"⟩ ⟨"virtfn0", some "../0000:18:02.0"⟩ := by
        intro address _ _ _ _ toFirst toSecond
        cases toFirst.unique first
        cases toSecond.unique second
      simp only [directory, List.pairwise_cons, List.forall_mem_cons]
      exact ⟨⟨unnamed _, unnamed _, nofun⟩, ⟨apart, nofun⟩, nofun, .nil⟩
  refine ⟨listed, order, ?_⟩
  apply ((vf_lookup_by_links "/sys" [directory] pf ⟨0, 0x18, 2, 1⟩ directory listed order).1 1).mpr
  exact ⟨_, List.mem_cons_of_mem _ List.mem_cons_self, indexOfName?_eq_some_iff.mp rfl, first⟩

end NicFlow
