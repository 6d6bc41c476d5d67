import X5MaxDevice.Base.Java

/-! The emergency-number tables of `MtkEccList` and the emergency branch of `MT6735.dial`. -/

namespace X5MaxDevice.Ril.EccList

open X5MaxDevice.Java

def categoryListProperty : String := "ril.ecc.service.category.list"
def ecclistProperty : String := "ril.ecclist"
def ecclist1Property : String := "ril.ecclist1"

structure EccEntry where
  ecc : JString
  category : JString
  condition : JString
  deriving DecidableEq, Repr

/-- `EccEntry.ECC_NO_SIM`, the condition "ecc only when no sim". -/
def eccNoSim : JString := "0".toList

def EccEntry.noSim (entry : EccEntry) : Bool := decide (entry.condition = eccNoSim)

/-- What the pull parser reports of `ecc_list.xml`. -/
inductive XmlEvent where
  | startTag (name : JString) (attributes : List (JString × JString))
  | endTag (name : JString)
  | other
  deriving DecidableEq, Repr

def eccEntryTag : JString := "EccEntry".toList
def eccAttr : JString := "Ecc".toList
def categoryAttr : JString := "Category".toList
def conditionAttr : JString := "Condition".toList

/-- `ECC_FOR_MMI`. -/
def eccForMmi : JString := "2".toList

/-- One name and value of the tag. -/
def EccEntry.setAttribute (record : EccEntry) (named : JString × JString) : EccEntry :=
  if named.1 = eccAttr then { record with ecc := named.2 }
  else if named.1 = categoryAttr then { record with category := named.2 }
  else if named.1 = conditionAttr then { record with condition := named.2 }
  else record

/-- One turn of the parser loop on the variable `record` and the list. -/
def parseEvent (loaded : Option EccEntry × List EccEntry) :
    XmlEvent → Option EccEntry × List EccEntry
  | .startTag name attributes =>
      if name = eccEntryTag then (some (attributes.foldl EccEntry.setAttribute ⟨[], [], []⟩), loaded.2)
      else loaded
  | .endTag name =>
      match loaded.1 with
      | some record => if name = eccEntryTag then (some record, loaded.2 ++ [record]) else loaded
      | none => loaded
  | .other => loaded

def emergencyCTAList : List JString :=
  ["120".toList, "122".toList, "110".toList, "119".toList]

/-- The record takes the place of the first entry with its number, or goes last. -/
def setOrAdd (record : EccEntry) : List EccEntry → List EccEntry
  | [] => [record]
  | eccEntry :: rest =>
      if eccEntry.ecc = record.ecc then record :: rest else eccEntry :: setOrAdd record rest

def addCta (list : List EccEntry) (emergencyNum : JString) : List EccEntry :=
  setOrAdd ⟨emergencyNum, "0".toList, eccForMmi⟩ list

/-- The list after the events; `completed` if no exception ended them before the end of the
document, which is when the CTA numbers are added. -/
def parseEccList (sIsCtaSet : Bool) (events : List XmlEvent) (completed : Bool) : List EccEntry :=
  let parsed := (events.foldl parseEvent (none, [])).2
  if completed && sIsCtaSet then emergencyCTAList.foldl addCta parsed else parsed

/-- `mHashMapForNetworkEccCategory`, its entries in the order of their first insertion. -/
abbrev CategoryMap := List (JString × Int)

def CategoryMap.put (map : CategoryMap) (key : JString) (value : Int) : CategoryMap :=
  if key ∈ map.map Prod.fst then
    map.map (fun entry => if entry.1 = key then (key, value) else entry)
  else map ++ [(key, value)]

/-- The order in which the hash map iterates over its keys while it is not modified. -/
structure HashOrder where
  iterate : CategoryMap → CategoryMap
  iterate_perm : ∀ map, (iterate map).Perm map

def insertionOrder : HashOrder := ⟨id, fun map => List.Perm.refl map⟩

/-- The customized list parsed from XML, and the telephony library's stripping of separators. -/
structure Environment where
  customized : List EccEntry
  extractNetworkPortionAlt : JString → JString

def matchesNumber (emergencyNum number : JString) : Bool :=
  decide (emergencyNum = number) || decide (emergencyNum ++ ['+'] = number)

def putCategory (map : CategoryMap) (strEccCategory : JString) : Except Exception CategoryMap :=
  if strEccCategory.isEmpty then .ok map
  else match split ',' strEccCategory with
    | [ecc, category] => (parseInt category).map (map.put ecc)
    | _ => .ok map

def networkCategories (properties : SystemProperties) : Except Exception CategoryMap :=
  let strEccCategoryList := properties categoryListProperty
  if strEccCategoryList.isEmpty then .ok []
  else (split ';' strEccCategoryList).foldlM putCategory []

/-- The `return true` that a call of `isEmergencyNumberExt` takes. -/
inductive Match where
  | network (ecc : JString) (category : Int)
  | sim (ecc : JString)
  | customized (entry : EccEntry)
  deriving DecidableEq, Repr

def matchSim (numbers number : JString) : Option Match :=
  if numbers.isEmpty then none
  else ((split ',' numbers).find? (matchesNumber · number)).map .sim

def matchCustomized (customized : List EccEntry) (bSIMInserted : Bool) (number : JString) :
    Option Match :=
  if bSIMInserted then
    (customized.find? (fun entry => !entry.noSim && matchesNumber entry.ecc number)).map .customized
  else
    (customized.find? (fun entry => matchesNumber entry.ecc number)).map .customized

def matchNetwork (order : HashOrder) (map : CategoryMap) (number : JString) : Option Match :=
  ((order.iterate map).find? (fun entry => matchesNumber entry.1 number)).map
    (fun entry => .network entry.1 entry.2)

/-- The three lookups of `isEmergencyNumberExt` on a number without separators. -/
def lookup (env : Environment) (order : HashOrder) (properties : SystemProperties)
    (map : CategoryMap) (number : JString) : Option Match :=
  let ecclist := properties ecclistProperty
  let ecclist1 := properties ecclist1Property
  let bSIMInserted := !ecclist.isEmpty || !ecclist1.isEmpty
  (matchNetwork order map number).or <| (matchSim ecclist number).or <|
    (matchSim ecclist1 number).or <| matchCustomized env.customized bSIMInserted number

/-- The match, if any, and the hash map that the call leaves behind. -/
def findMatch (env : Environment) (order : HashOrder) (properties : SystemProperties)
    (map : CategoryMap) : Option JString → Except Exception (Option Match × CategoryMap)
  | none => .ok (none, map)
  | some number =>
      (networkCategories properties).map (fun filled =>
        (lookup env order properties filled (env.extractNetworkPortionAlt number), filled))

def isEmergencyNumberExt (env : Environment) (order : HashOrder) (properties : SystemProperties)
    (map : CategoryMap) (number : Option JString) : Except Exception Bool :=
  (findMatch env order properties map number).map (fun result => result.1.isSome)

def getServiceCategoryFromEcc (env : Environment) (order : HashOrder) (map : CategoryMap)
    (number : JString) : Except Exception Int :=
  match (order.iterate map).find? (fun entry => matchesNumber entry.1 number) with
  | some entry => .ok entry.2
  | none =>
      match env.customized.find? (fun entry => matchesNumber entry.ecc number) with
      | some entry => parseInt entry.category
      | none => .ok 0

structure UusInfo where
  type : Int
  dcs : Int
  userData : List UInt8
  deriving DecidableEq, Repr

inductive Request where
  | setEccServiceCategory (serviceCategory : Int)
  | emergencyDial (address : JString) (clirMode : Int) (uusInfo : Option UusInfo)
  | superDial (address : Option JString) (clirMode : Int) (uusInfo : Option UusInfo)
  deriving DecidableEq, Repr

/-- The requests of one `MT6735.dial`; none is sent when an exception escapes. -/
def dial (env : Environment) (order : HashOrder) (properties : SystemProperties)
    (map : CategoryMap) (address : Option JString) (clirMode : Int) (uusInfo : Option UusInfo) :
    Except Exception (List Request) :=
  match findMatch env order properties map address with
  | .error e => .error e
  | .ok (none, _) => .ok [.superDial address clirMode uusInfo]
  | .ok (some _, filled) =>
      let number := address.getD []
      (getServiceCategoryFromEcc env order filled number).map (fun serviceCategory =>
        [.setEccServiceCategory serviceCategory, .emergencyDial number clirMode uusInfo])

def fixedList (customized : List EccEntry) : List JString :=
  (customized.filter (fun entry => !entry.noSim)).map EccEntry.ecc

def fixedListNoSim (customized : List EccEntry) : List JString :=
  (customized.filter (fun entry => entry.noSim && !entry.ecc.isEmpty)).map EccEntry.ecc

def removeAll (list others : List JString) : List JString :=
  list.filter (fun number => decide (number ∉ others))

/-- The list that `updateEmergencyNumbersProperty` joins for one SIM slot. -/
def slotList (customized : List EccEntry) (numbers : JString) : List JString :=
  let listed := (split ',' numbers).filter (fun emergencyNum => !emergencyNum.isEmpty)
  let deduped := removeAll listed (fixedList customized) ++ fixedList customized
  if numbers.isEmpty then
    removeAll deduped (fixedListNoSim customized) ++ fixedListNoSim customized
  else deduped

def updateSlot (customized : List EccEntry) (properties : SystemProperties) (key : String) :
    SystemProperties :=
  properties.set key (join ',' (slotList customized (properties key)))

def updateEmergencyNumbersProperty (env : Environment) (properties : SystemProperties) :
    SystemProperties :=
  updateSlot env.customized (updateSlot env.customized properties ecclistProperty) ecclist1Property

end X5MaxDevice.Ril.EccList
