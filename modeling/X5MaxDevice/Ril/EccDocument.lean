import X5MaxDevice.Ril.EmergencyTotality

/-! What `ecc_list.xml` is read as: the entries of any document, however they are nested, of the
part that was read before an exception, and with the CTA numbers put in. -/

namespace X5MaxDevice.Ril.EccDocument

open X5MaxDevice.Java
open X5MaxDevice.Ril.EccList
open X5MaxDevice.Ril.EmergencyTotality

/-- An element or a text; the parser does not report comments. -/
inductive Xml where
  | element (name : JString) (attributes : List (JString × JString)) (children : List Xml)
  | text

def entryOf (attributes : List (JString × JString)) : EccEntry :=
  attributes.foldl EccEntry.setAttribute ⟨[], [], []⟩

mutual

/-- What the parser reports of an element. -/
def Xml.events : Xml → List XmlEvent
  | .element name attributes children =>
      .startTag name attributes :: (eventsOf children ++ [.endTag name])
  | .text => [.other]

def eventsOf : List Xml → List XmlEvent
  | [] => []
  | child :: rest => child.events ++ eventsOf rest

end

/-- The first event is the start of the document. -/
def document (root : Xml) : List XmlEvent := .other :: root.events

mutual

/-- The entry whose tag starts last. -/
def Xml.lastEntry : Xml → Option EccEntry
  | .element name attributes children =>
      (lastEntryOf children).or (if name = eccEntryTag then some (entryOf attributes) else none)
  | .text => none

def lastEntryOf : List Xml → Option EccEntry
  | [] => none
  | child :: rest => (lastEntryOf rest).or child.lastEntry

end

mutual

/-- The entries in the order in which their tags end. Around another entry, an entry counts with
the attributes of the last one inside it. -/
def Xml.entries : Xml → List EccEntry
  | .element name attributes children =>
      entriesOf children ++
        if name = eccEntryTag then [(lastEntryOf children).getD (entryOf attributes)] else []
  | .text => []

def entriesOf : List Xml → List EccEntry
  | [] => []
  | child :: rest => child.entries ++ entriesOf rest

end

section Documents

mutual

/-- The loop over one element, from any `record` and list. -/
theorem foldl_events (before : Option EccEntry) (list : List EccEntry) :
    (tree : Xml) → tree.events.foldl parseEvent (before, list) =
      (tree.lastEntry.or before, list ++ tree.entries)
  | .text => by simp [Xml.events, Xml.lastEntry, Xml.entries, parseEvent]
  | .element name attributes children => by
      rw [Xml.events, List.foldl_cons, List.foldl_append, List.foldl_cons, List.foldl_nil]
      by_cases entry : name = eccEntryTag
      · have started : parseEvent (before, list) (.startTag name attributes) =
            (some (entryOf attributes), list) := by
          rw [parseEvent, if_pos entry, entryOf]
        rw [started, foldl_eventsOf _ _ children]
        cases within : lastEntryOf children <;>
          simp [Xml.lastEntry, Xml.entries, parseEvent, entry, within]
      · have started : parseEvent (before, list) (.startTag name attributes) = (before, list) := by
          rw [parseEvent, if_neg entry]
        rw [started, foldl_eventsOf _ _ children]
        cases within : lastEntryOf children <;> cases before <;>
          simp [Xml.lastEntry, Xml.entries, parseEvent, entry, within]

theorem foldl_eventsOf (before : Option EccEntry) (list : List EccEntry) :
    (trees : List Xml) → (eventsOf trees).foldl parseEvent (before, list) =
      ((lastEntryOf trees).or before, list ++ entriesOf trees)
  | [] => by simp [eventsOf, lastEntryOf, entriesOf]
  | child :: rest => by
      rw [eventsOf, List.foldl_append, foldl_events before list child,
        foldl_eventsOf _ _ rest]
      simp [lastEntryOf, entriesOf, Option.or_assoc]

end

/-- The list only grows while the document is read. -/
theorem prefix_foldl_parseEvent (events : List XmlEvent)
    (loaded : Option EccEntry × List EccEntry) :
    loaded.2 <+: (events.foldl parseEvent loaded).2 := by
  induction events generalizing loaded with
  | nil => exact List.prefix_refl _
  | cons event events ih =>
      apply List.IsPrefix.trans _ (ih (parseEvent loaded event))
      rcases loaded with ⟨record, list⟩
      cases event with
      | startTag name attributes =>
          by_cases entry : name = eccEntryTag <;> simp [parseEvent, entry]
      | endTag name =>
          cases record <;> by_cases entry : name = eccEntryTag <;> simp [parseEvent, entry]
      | other => simp [parseEvent]

theorem parsed_document (root : Xml) :
    ((document root).foldl parseEvent (none, [])).2 = root.entries := by
  rw [document, List.foldl_cons]
  show (root.events.foldl parseEvent (none, [])).2 = root.entries
  simp [foldl_events]

theorem parsed_prefix (root : Xml) (count : Nat) :
    (((document root).take count).foldl parseEvent (none, [])).2 <+: root.entries := by
  have whole := prefix_foldl_parseEvent ((document root).drop count)
    (((document root).take count).foldl parseEvent (none, []))
  rwa [← List.foldl_append, List.take_append_drop, parsed_document] at whole

end Documents

section CtaNumbers

def ctaRecord (number : JString) : EccEntry := ⟨number, "0".toList, eccForMmi⟩

/-- The entries with a number, in order. -/
def withNumber (number : JString) (list : List EccEntry) : List EccEntry :=
  list.filter (fun eccEntry => decide (eccEntry.ecc = number))

theorem ecc_setOrAdd (record : EccEntry) (list : List EccEntry) :
    (setOrAdd record list).map EccEntry.ecc =
      list.map EccEntry.ecc ++ if record.ecc ∈ list.map EccEntry.ecc then [] else [record.ecc] := by
  induction list with
  | nil => simp [setOrAdd]
  | cons eccEntry rest ih =>
      rw [setOrAdd]
      by_cases replaced : eccEntry.ecc = record.ecc
      · simp [replaced]
      · have other : record.ecc ≠ eccEntry.ecc := Ne.symm replaced
        rw [if_neg replaced, List.map_cons, ih]
        simp [other]

/-- Only the first entry with the number of the record is replaced. -/
theorem withNumber_setOrAdd (record : EccEntry) (list : List EccEntry) (number : JString) :
    withNumber number (setOrAdd record list) =
      if record.ecc = number then record :: (withNumber number list).tail
      else withNumber number list := by
  induction list with
  | nil => by_cases wanted : record.ecc = number <;> simp [setOrAdd, withNumber, wanted]
  | cons eccEntry rest ih =>
      simp only [withNumber] at ih ⊢
      rw [setOrAdd]
      by_cases replaced : eccEntry.ecc = record.ecc
      · by_cases wanted : record.ecc = number <;> simp [replaced, wanted]
      · rw [if_neg replaced, List.filter_cons, ih]
        by_cases wanted : record.ecc = number
        · have skipped : eccEntry.ecc ≠ number := fun same => replaced (same.trans wanted.symm)
          simp [skipped, wanted]
        · simp [wanted, List.filter_cons]

/-- The numbers that are not there yet go last, in their order. -/
theorem ecc_foldl_addCta {numbers : List JString} (distinct : numbers.Nodup)
    (list : List EccEntry) :
    (numbers.foldl addCta list).map EccEntry.ecc =
      list.map EccEntry.ecc ++
        numbers.filter (fun number => decide (number ∉ list.map EccEntry.ecc)) := by
  induction numbers generalizing list with
  | nil => simp
  | cons number rest ih =>
      obtain ⟨absent, restDistinct⟩ := List.nodup_cons.mp distinct
      have others : ∀ other ∈ rest,
          (other ∉ (addCta list number).map EccEntry.ecc ↔ other ∉ list.map EccEntry.ecc) := by
        intro other member
        have apart : other ≠ number := by
          rintro rfl
          exact absent member
        rw [addCta, ecc_setOrAdd]
        split <;> simp [apart]
      have same :
          rest.filter (fun other => decide (other ∉ (addCta list number).map EccEntry.ecc)) =
            rest.filter (fun other => decide (other ∉ list.map EccEntry.ecc)) :=
        List.filter_congr (fun other member => decide_eq_decide.mpr (others other member))
      rw [List.foldl_cons, ih restDistinct, same, addCta, ecc_setOrAdd, List.filter_cons]
      by_cases listed : number ∈ list.map EccEntry.ecc
      · simp only [listed, if_true, List.append_nil, not_true_eq_false, decide_false]
        rfl
      · simp [listed]

theorem withNumber_foldl_addCta {numbers : List JString} (distinct : numbers.Nodup)
    (list : List EccEntry) (number : JString) :
    withNumber number (numbers.foldl addCta list) =
      if number ∈ numbers then ctaRecord number :: (withNumber number list).tail
      else withNumber number list := by
  induction numbers generalizing list with
  | nil => simp
  | cons first rest ih =>
      obtain ⟨absent, restDistinct⟩ := List.nodup_cons.mp distinct
      rw [List.foldl_cons, ih restDistinct, addCta, withNumber_setOrAdd]
      by_cases wanted : first = number
      · subst wanted
        simp [absent, ctaRecord]
      · have other : number ≠ first := Ne.symm wanted
        simp [wanted, other]

/-- A number with a CTA record is an emergency number with and without a SIM. -/
theorem lookup_ctaNumber {env : Environment} {number : JString}
    (listed : ctaRecord number ∈ env.customized) (order : HashOrder)
    (properties : SystemProperties) (map : CategoryMap) :
    (lookup env order properties map number).isSome = true := by
  have matching : matchesNumber (ctaRecord number).ecc number = true := by
    simp [matchesNumber, ctaRecord]
  have always : (ctaRecord number).noSim = false := by
    show decide (eccForMmi = eccNoSim) = false
    decide +kernel
  have found : ∀ inserted, (matchCustomized env.customized inserted number).isSome = true := by
    intro inserted
    cases inserted with
    | true =>
        simp only [matchCustomized, if_true, Option.isSome_map, List.find?_isSome]
        exact ⟨ctaRecord number, listed, by simp [always, matching]⟩
    | false =>
        simp only [matchCustomized, Bool.false_eq_true, if_false, Option.isSome_map,
          List.find?_isSome]
        exact ⟨ctaRecord number, listed, matching⟩
  simp [lookup, Option.isSome_or, found]

end CtaNumbers

/-- What `parseEccList` makes of a file with entries. -/
structure Loaded (root : Xml) : Prop where
  plain : parseEccList false (document root) true = root.entries
  interrupted : ∀ sIsCtaSet count,
    parseEccList sIsCtaSet ((document root).take count) false <+: root.entries
  numbers : (parseEccList true (document root) true).map EccEntry.ecc =
    root.entries.map EccEntry.ecc ++
      emergencyCTAList.filter (fun number => decide (number ∉ root.entries.map EccEntry.ecc))
  records : ∀ number, withNumber number (parseEccList true (document root) true) =
    if number ∈ emergencyCTAList then ctaRecord number :: (withNumber number root.entries).tail
    else withNumber number root.entries
  emergency : ∀ extractNetworkPortionAlt order properties map, ∀ number ∈ emergencyCTAList,
    (lookup ⟨parseEccList true (document root) true, extractNetworkPortionAlt⟩ order properties map
      number).isSome = true

theorem emergencyCTAList_nodup : emergencyCTAList.Nodup := by decide +kernel

theorem parseEccList_cta (root : Xml) :
    parseEccList true (document root) true = emergencyCTAList.foldl addCta root.entries := by
  simp [parseEccList, parsed_document]

/-- Every document is read as its entries, and a part of it as the first of them; in CTA mode the
CTA numbers replace the first entry with their number or go last, and are emergency numbers. -/
theorem document_loaded (root : Xml) : Loaded root where
  plain := by simp [parseEccList, parsed_document]
  interrupted := by
    intro sIsCtaSet count
    simpa [parseEccList] using parsed_prefix root count
  numbers := by
    rw [parseEccList_cta]
    exact ecc_foldl_addCta emergencyCTAList_nodup root.entries
  records := by
    intro number
    rw [parseEccList_cta]
    exact withNumber_foldl_addCta emergencyCTAList_nodup root.entries number
  emergency := by
    intro extractNetworkPortionAlt order properties map number member
    apply lookup_ctaNumber
    have first := withNumber_foldl_addCta emergencyCTAList_nodup root.entries number
    rw [if_pos member] at first
    have inside : ctaRecord number ∈
        withNumber number (emergencyCTAList.foldl addCta root.entries) := by
      rw [first]
      exact List.mem_cons_self
    rw [parseEccList_cta]
    exact List.mem_of_mem_filter inside

end X5MaxDevice.Ril.EccDocument
