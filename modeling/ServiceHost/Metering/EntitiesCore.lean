import Mathlib.Data.List.AList
import Mathlib.Data.Rat.Defs
import ServiceHost.Library.EditedFields
import ServiceHost.Time.UtcTime

/-!
The metering entities `Installation`, `MeasurePoint`, `Register`, `Component` and
`Meter`: their properties, the bits of `fieldEditStatus` that the setters mark, and
`Merge`, which takes the edited properties of another object over.
-/

namespace ServiceHost.Metering

open Library

/-- A `System.Single`. The two zeros are one value, as they are for the comparison. -/
inductive Single
  | nan
  | positiveInfinity
  | negativeInfinity
  | number (value : Rat)
deriving DecidableEq

def Single.isNaN : Single → Bool
  | .nan => true
  | _ => false

/-- `!=`: what is not a number differs from everything. -/
def Single.differs (value other : Single) : Bool := value.isNaN || other.isNaN || value != other

/-- The types of the properties. An enumeration is the number behind it, and of an array or
another object the reference is kept. -/
inductive Kind
  | string
  | int
  | time
  | reference
  | single
  | decimal
deriving DecidableEq

def Kind.Value : Kind → Type
  | .string => Option String
  | .int => Int
  | .time => UtcTime
  | .reference => Option Nat
  | .single => Single
  | .decimal => Rat

def Kind.default : (kind : Kind) → kind.Value
  | .string => (none : Option String)
  | .int => (0 : Int)
  | .time => UtcTime.null
  | .reference => (none : Option Nat)
  | .single => Single.number 0
  | .decimal => (0 : Rat)

def Kind.differs : (kind : Kind) → kind.Value → kind.Value → Bool
  | .string => fun (value other : Option String) => value != other
  | .int => fun (value other : Int) => value != other
  | .time => fun (value other : UtcTime) => value != other
  | .reference => fun (value other : Option Nat) => value != other
  | .single => Single.differs
  | .decimal => fun (value other : Rat) => value != other

theorem Kind.eq_of_not_differs : ∀ (kind : Kind) (value other : kind.Value),
    kind.differs value other = false → value = other
  | .string, _, _, same => bne_eq_false_iff_eq (α := Option String) |>.mp same
  | .int, _, _, same => bne_eq_false_iff_eq (α := Int) |>.mp same
  | .time, _, _, same => bne_eq_false_iff_eq (α := UtcTime) |>.mp same
  | .reference, _, _, same => bne_eq_false_iff_eq (α := Option Nat) |>.mp same
  | .single, _, _, same => by
      have parts := (Bool.or_eq_false_iff.mp same).2
      exact bne_eq_false_iff_eq (α := Single) |>.mp parts
  | .decimal, _, _, same => bne_eq_false_iff_eq (α := Rat) |>.mp same

/-- `BitVector32.CreateMask`, of no mask or of the previous one. -/
def createMask (previous : BitVec 32) : BitVec 32 := if previous = 0 then 1 else previous <<< 1

abbrev entityFields (Field : Type) (kind : Field → Kind) (mask : Field → Option (BitVec 32)) : FieldClass 32 where
  Field := Field
  Value := fun field => (kind field).Value
  initial := fun field => (kind field).default
  store := fun _ value => value
  differs := fun field => (kind field).differs
  mask := mask
  clears := fun _ => false
  store_store := fun _ _ => rfl
  store_initial := fun _ => rfl
  eq_of_not_differs := fun field => (kind field).eq_of_not_differs

namespace Installation

def idBit : BitVec 32 := createMask 0
def seqnoBit : BitVec 32 := createMask 0
def secondaryIdBit : BitVec 32 := createMask idBit
def descriptionBit : BitVec 32 := createMask secondaryIdBit
def codeBit : BitVec 32 := createMask descriptionBit
def validFromDateBit : BitVec 32 := createMask codeBit
def validToDateBit : BitVec 32 := createMask validFromDateBit
def customerNameBit : BitVec 32 := createMask validToDateBit
def customerIdBit : BitVec 32 := createMask customerNameBit
def apartmentNoBit : BitVec 32 := createMask customerIdBit
def houseNoBit : BitVec 32 := createMask apartmentNoBit
def mainAddressBit : BitVec 32 := createMask apartmentNoBit
def mainCoInfoBit : BitVec 32 := createMask mainAddressBit
def mainPostCodeBit : BitVec 32 := createMask mainCoInfoBit
def mainCityBit : BitVec 32 := createMask mainPostCodeBit
def contactAddressBit : BitVec 32 := createMask mainCityBit
def contactCoInfoBit : BitVec 32 := createMask contactAddressBit
def contactPostCodeBit : BitVec 32 := createMask contactCoInfoBit
def contactCityBit : BitVec 32 := createMask contactPostCodeBit
def phoneHomeBit : BitVec 32 := createMask contactCityBit
def phoneWorkBit : BitVec 32 := createMask phoneHomeBit
def phoneMobileBit : BitVec 32 := createMask phoneWorkBit
def measurePointsBit : BitVec 32 := createMask phoneMobileBit

inductive Field
  | key
  | id
  | seqno
  | secondaryId
  | description
  | code
  | validFromDate
  | validToDate
  | customerName
  | customerId
  | apartmentNo
  | houseNo
  | addressMain
  | coInfoMain
  | postCodeMain
  | cityMain
  | addressContact
  | coInfoContact
  | postCodeContact
  | cityContact
  | phoneHome
  | phoneWork
  | phoneMobile
  | measurePoints
deriving DecidableEq

def kind : Field → Kind
  | .key | .seqno => .int
  | .validFromDate | .validToDate => .time
  | .measurePoints => .reference
  | .id | .secondaryId | .description | .code | .customerName | .customerId | .apartmentNo | .houseNo
  | .addressMain | .coInfoMain | .postCodeMain | .cityMain
  | .addressContact | .coInfoContact | .postCodeContact | .cityContact
  | .phoneHome | .phoneWork | .phoneMobile => .string

def mask : Field → Option (BitVec 32)
  | .key => none
  | .id => some idBit
  | .seqno => some seqnoBit
  | .secondaryId => some secondaryIdBit
  | .description => some descriptionBit
  | .code => some codeBit
  | .validFromDate => some validFromDateBit
  | .validToDate => some validToDateBit
  | .customerName => some customerNameBit
  | .customerId => some customerIdBit
  | .apartmentNo => some apartmentNoBit
  | .houseNo => some houseNoBit
  | .addressMain => some mainAddressBit
  | .coInfoMain => some mainCoInfoBit
  | .postCodeMain => some mainPostCodeBit
  | .cityMain => some mainCityBit
  | .addressContact => some contactAddressBit
  | .coInfoContact => some contactCoInfoBit
  | .postCodeContact => some contactPostCodeBit
  | .cityContact => some contactCityBit
  | .phoneHome => some phoneHomeBit
  | .phoneWork => some phoneWorkBit
  | .phoneMobile => some phoneMobileBit
  | .measurePoints => some measurePointsBit

abbrev fields : FieldClass 32 := entityFields Field kind mask

instance : DecidableEq fields.Field := inferInstanceAs (DecidableEq Field)

def IsKey (field : fields.Field) : Prop := field = Field.key

/-- The properties in the order of `Merge`. The house number is assigned to its field. -/
def mergeSteps : List (MergeStep fields) :=
  [.plain Field.addressContact, .plain Field.addressMain, .plain Field.apartmentNo,
    ⟨Field.houseNo, fun _ => true, false⟩, .plain Field.cityContact, .plain Field.cityMain,
    .plain Field.code, .plain Field.coInfoContact, .plain Field.coInfoMain, .plain Field.customerId,
    .plain Field.customerName, .plain Field.description, .plain Field.id, .plain Field.phoneHome,
    .plain Field.phoneMobile, .plain Field.phoneWork, .plain Field.postCodeContact,
    .plain Field.postCodeMain, .plain Field.secondaryId, .plain Field.validFromDate,
    .plain Field.validToDate]

def merge (this installation : Record fields) : Record fields × Bool :=
  mergeFields mergeSteps installation (this, false)

end Installation

namespace MeasurePoint

def seqnoBit : BitVec 32 := createMask 0
def idBit : BitVec 32 := createMask seqnoBit
def secondaryIdBit : BitVec 32 := createMask idBit
def netAreaBit : BitVec 32 := createMask secondaryIdBit
def validFromBit : BitVec 32 := createMask netAreaBit
def validToBit : BitVec 32 := createMask validFromBit
def spatialReferenceSystemBit : BitVec 32 := createMask validToBit
def xCoordinateBit : BitVec 32 := createMask spatialReferenceSystemBit
def yCoordinateBit : BitVec 32 := createMask xCoordinateBit
def stationIdBit : BitVec 32 := createMask yCoordinateBit
def nPhasesBit : BitVec 32 := createMask stationIdBit
def supplyVoltageBit : BitVec 32 := createMask nPhasesBit
def fuseSizeBit : BitVec 32 := createMask supplyVoltageBit
def subscribedPowerBit : BitVec 32 := createMask fuseSizeBit
def orgUnitBit : BitVec 32 := createMask subscribedPowerBit
def gridOwnerBit : BitVec 32 := createMask orgUnitBit
def loadProfileBit : BitVec 32 := createMask gridOwnerBit
def metersBit : BitVec 32 := createMask loadProfileBit
def transformersBit : BitVec 32 := createMask metersBit
def descriptionBit : BitVec 32 := createMask transformersBit
def yearlyVolumeBit : BitVec 32 := createMask descriptionBit
def locationBit : BitVec 32 := createMask yearlyVolumeBit
def supplierBit : BitVec 32 := createMask locationBit
def terminalBit : BitVec 32 := createMask supplierBit
def centralNetPointCodeBit : BitVec 32 := createMask terminalBit
def debtorTypeBit : BitVec 32 := createMask centralNetPointCodeBit
def stateBit : BitVec 32 := createMask debtorTypeBit

inductive Field
  | key
  | seqno
  | installationKey
  | id
  | netAreaCode
  | description
  | validFromDate
  | validToDate
  | secondaryId
  | spatialReferenceSystem
  | xCoordinate
  | yCoordinate
  | stationId
  | numberOfPhases
  | supplyVoltage
  | fuseSize
  | subscribedPower
  | orgUnit
  | gridOwner
  | loadProfile
  | yearlyVolume
  | agreements
  | location
  | supplier
  | meters
  | terminal
  | transformers
  | centralNetPointCode
  | debtorType
  | state
  | valueTypeKey
  | valueTypeValfTime
  | timeSeriesKey
  | tsinKey
deriving DecidableEq

def kind : Field → Kind
  | .key | .seqno | .installationKey | .spatialReferenceSystem | .numberOfPhases | .subscribedPower
  | .yearlyVolume | .debtorType | .state | .valueTypeKey | .timeSeriesKey | .tsinKey => .int
  | .validFromDate | .validToDate => .time
  | .xCoordinate | .yCoordinate => .decimal
  | .agreements | .meters | .terminal | .transformers => .reference
  | .id | .netAreaCode | .description | .secondaryId | .stationId | .supplyVoltage | .fuseSize | .orgUnit
  | .gridOwner | .loadProfile | .location | .supplier | .centralNetPointCode | .valueTypeValfTime => .string

def mask : Field → Option (BitVec 32)
  | .key | .installationKey | .agreements | .valueTypeKey | .valueTypeValfTime | .timeSeriesKey
  | .tsinKey => none
  | .seqno => some seqnoBit
  | .id => some idBit
  | .netAreaCode => some netAreaBit
  | .description => some descriptionBit
  | .validFromDate => some validFromBit
  | .validToDate => some validToBit
  | .secondaryId => some secondaryIdBit
  | .spatialReferenceSystem => some spatialReferenceSystemBit
  | .xCoordinate => some xCoordinateBit
  | .yCoordinate => some yCoordinateBit
  | .stationId => some stationIdBit
  | .numberOfPhases => some nPhasesBit
  | .supplyVoltage => some supplyVoltageBit
  | .fuseSize => some fuseSizeBit
  | .subscribedPower => some subscribedPowerBit
  | .orgUnit => some orgUnitBit
  | .gridOwner => some gridOwnerBit
  | .loadProfile => some loadProfileBit
  | .yearlyVolume => some yearlyVolumeBit
  | .location => some locationBit
  | .supplier => some supplierBit
  | .meters => some metersBit
  | .terminal => some terminalBit
  | .transformers => some transformersBit
  | .centralNetPointCode => some centralNetPointCodeBit
  | .debtorType => some debtorTypeBit
  | .state => some stateBit

def store : (field : Field) → (kind field).Value → (kind field).Value
  | .subscribedPower, _ => (0 : Int)
  | _, value => value

abbrev fields : FieldClass 32 :=
  { entityFields Field kind mask with
    store := store
    clears := fun (field : Field) => decide (field = .subscribedPower)
    store_store := fun field _ => by cases field <;> rfl
    store_initial := fun field => by cases field <;> rfl }

instance : DecidableEq fields.Field := inferInstanceAs (DecidableEq Field)

def IsKey (field : fields.Field) : Prop := field = Field.key ∨ field = Field.installationKey

/-- `StateTypes.Unspecified` -/
def unspecified : Int := -1

def mergeSteps : List (MergeStep fields) :=
  [.plain Field.description, .plain Field.secondaryId, .plain Field.fuseSize, .plain Field.gridOwner,
    .plain Field.id, .plain Field.loadProfile, .plain Field.netAreaCode, .plain Field.numberOfPhases,
    .plain Field.orgUnit, .plain Field.stationId, .plain Field.yearlyVolume, .plain Field.subscribedPower,
    .plain Field.supplyVoltage, .plain Field.transformers, .plain Field.validFromDate,
    .plain Field.validToDate, .plain Field.xCoordinate, .plain Field.yCoordinate, .plain Field.location,
    .plain Field.supplier, .plain Field.centralNetPointCode, .plain Field.debtorType,
    ⟨Field.state, fun (value : Int) => value != unspecified, true⟩]

/-- `bEdited` is true from the start. -/
def merge (this measurePoint : Record fields) : Record fields × Bool :=
  mergeFields mergeSteps measurePoint (this, true)

end MeasurePoint

namespace Register

def registerCapacityDigitsBit : BitVec 32 := createMask 0
def registerCapacityDecimalsBit : BitVec 32 := createMask registerCapacityDigitsBit
def stateBit : BitVec 32 := createMask registerCapacityDecimalsBit
def validFromDateBit : BitVec 32 := createMask stateBit
def validToDateBit : BitVec 32 := createMask validFromDateBit
def meteringConstantBit : BitVec 32 := createMask validToDateBit
def pulseConstantBit : BitVec 32 := createMask meteringConstantBit
def wayOfRegistrationBit : BitVec 32 := createMask pulseConstantBit
def measureUnitCodeBit : BitVec 32 := createMask wayOfRegistrationBit
def directionOfFlowBit : BitVec 32 := createMask measureUnitCodeBit
def remoteMeteringBit : BitVec 32 := createMask directionOfFlowBit
def meteringFunctionCodeBit : BitVec 32 := createMask remoteMeteringBit
def meterIDBit : BitVec 32 := createMask meteringFunctionCodeBit
def valueTypeBit : BitVec 32 := createMask meterIDBit
def annualConsumptionBit : BitVec 32 := createMask valueTypeBit

inductive Field
  | key
  | registerNumber
  | capacityDigits
  | capacityDecimals
  | measureUnitCode
  | directionOfFlow
  | meteringConstant
  | pulseConstant
  | remoteMetering
  | wayOfRegistration
  | meteringFunctionCode
  | state
  | validFromDate
  | validToDate
  | meterID
  | valueType
  | annualConsumption
  | iecDirectionOfFlow
deriving DecidableEq

def kind : Field → Kind
  | .key | .registerNumber | .capacityDigits | .capacityDecimals | .measureUnitCode | .directionOfFlow
  | .remoteMetering | .wayOfRegistration | .meteringFunctionCode | .state | .valueType
  | .iecDirectionOfFlow => .int
  | .validFromDate | .validToDate => .time
  | .meteringConstant | .meterID => .string
  | .pulseConstant | .annualConsumption => .single

def mask : Field → Option (BitVec 32)
  | .key | .registerNumber | .iecDirectionOfFlow => none
  | .capacityDigits => some registerCapacityDigitsBit
  | .capacityDecimals => some registerCapacityDecimalsBit
  | .measureUnitCode => some measureUnitCodeBit
  | .directionOfFlow => some directionOfFlowBit
  | .meteringConstant => some meteringConstantBit
  | .pulseConstant => some pulseConstantBit
  | .remoteMetering => some remoteMeteringBit
  | .wayOfRegistration => some wayOfRegistrationBit
  | .meteringFunctionCode => some meteringFunctionCodeBit
  | .state => some stateBit
  | .validFromDate => some validFromDateBit
  | .validToDate => some validToDateBit
  | .meterID => some meterIDBit
  | .valueType => some valueTypeBit
  | .annualConsumption => some annualConsumptionBit

/-- The constructor leaves the annual consumption as no number, without a mark. -/
def initial : (field : Field) → (kind field).Value
  | .annualConsumption => Single.nan
  | field => (kind field).default

abbrev fields : FieldClass 32 :=
  { entityFields Field kind mask with
    initial := initial
    store_initial := fun _ => rfl }

instance : DecidableEq fields.Field := inferInstanceAs (DecidableEq Field)

def IsKey (field : fields.Field) : Prop := field = Field.key ∨ field = Field.registerNumber

def mergeSteps : List (MergeStep fields) :=
  [.plain Field.directionOfFlow, .plain Field.measureUnitCode, .plain Field.meteringConstant,
    .plain Field.pulseConstant, .plain Field.capacityDigits, .plain Field.capacityDecimals,
    .plain Field.remoteMetering, .plain Field.state, .plain Field.validFromDate, .plain Field.validToDate,
    .plain Field.wayOfRegistration, .plain Field.meterID, .plain Field.annualConsumption]

def merge (this register : Record fields) : Record fields × Bool :=
  mergeFields mergeSteps register (this, false)

end Register

abbrev Attributes (V : Type) : Type := AList fun _ : String => V

/-- An object of the class `Component` or of one derived from it. -/
structure Attributed (c : FieldClass 32) where
  record : Record c
  attributesInt : Attributes Int
  attributesFloat : Attributes Single
  attributesString : Attributes (Option String)

section Attributes

variable {V T : Type} [DecidableEq T]

/-- One turn of the loop over the attributes. Attributes are compared by their texts, and
a null has none. -/
def mergeAttribute (text : V → Option T) (state : Attributes V × Bool) (entry : Σ _ : String, V) :
    Except SystemException (Attributes V × Bool) :=
  match state.1.lookup entry.1 with
  | none => .ok (state.1.insert entry.1 entry.2, true)
  | some held =>
      match text held, text entry.2 with
      | some before, some after => .ok (state.1.insert entry.1 entry.2, state.2 || before != after)
      | _, _ => .error .nullReference

def mergeAttributes (text : V → Option T) (incoming : Attributes V) (state : Attributes V × Bool) :
    Except SystemException (Attributes V × Bool) :=
  incoming.entries.foldlM (mergeAttribute text) state

end Attributes

namespace Component

def idBit : BitVec 32 := createMask 0
def locationBit : BitVec 32 := createMask idBit
def masterBit : BitVec 32 := createMask locationBit
def validFromDateBit : BitVec 32 := createMask masterBit
def validToDateBit : BitVec 32 := createMask validFromDateBit
def stateBit : BitVec 32 := createMask validToDateBit

inductive Field
  | key
  | measKey
  | monitorKey2
  | id
  | masterName
  | validFromDate
  | validToDate
  | state
  | location
  | monitorPeriod
deriving DecidableEq

def kind : Field → Kind
  | .key | .measKey | .monitorKey2 | .state => .int
  | .validFromDate | .validToDate => .time
  | .monitorPeriod => .reference
  | .id | .masterName | .location => .string

def mask : Field → Option (BitVec 32)
  | .key | .measKey | .monitorKey2 | .monitorPeriod => none
  | .id => some idBit
  | .masterName => some masterBit
  | .validFromDate => some validFromDateBit
  | .validToDate => some validToDateBit
  | .state => some stateBit
  | .location => some locationBit

abbrev fields : FieldClass 32 := entityFields Field kind mask

instance : DecidableEq fields.Field := inferInstanceAs (DecidableEq Field)

/-- `MonitorKey1` is the key under another name. -/
def IsKey (field : Field) : Prop := field = .key ∨ field = .measKey ∨ field = .monitorKey2

def mergeOrder : List Field := [.id, .location, .state, .masterName, .validFromDate, .validToDate]

/-- `Component.Merge` on an object of a class that has the fields of a component. The
attributes with numbers that are not whole are not merged. -/
def mergeInto {c : FieldClass 32} [DecidableEq c.Field] (field : Field → c.Field)
    (this component : Attributed c) : Except SystemException (Attributed c × Bool) := do
  let (record, bEdited) :=
    mergeFields (mergeOrder.map fun own => MergeStep.plain (field own)) component.record (this.record, false)
  let (attributesString, bEdited) ← mergeAttributes id component.attributesString (this.attributesString, bEdited)
  let (attributesInt, bEdited) ← mergeAttributes some component.attributesInt (this.attributesInt, bEdited)
  return ({ this with record, attributesString, attributesInt }, bEdited)

def merge (this component : Attributed fields) : Except SystemException (Attributed fields × Bool) :=
  mergeInto (fun own => own) this component

end Component

namespace Meter

def terminalComponentIdBit : BitVec 32 := createMask Component.stateBit
def registersBit : BitVec 32 := createMask terminalComponentIdBit

inductive Field
  | component (own : Component.Field)
  | terminalComponentId
  | registers
deriving DecidableEq

def kind : Field → Kind
  | .component own => Component.kind own
  | .terminalComponentId => .string
  | .registers => .reference

def mask : Field → Option (BitVec 32)
  | .component own => Component.mask own
  | .terminalComponentId => some terminalComponentIdBit
  | .registers => some registersBit

abbrev fields : FieldClass 32 := entityFields Field kind mask

instance : DecidableEq fields.Field := inferInstanceAs (DecidableEq Field)

def IsKey : Field → Prop
  | .component own => Component.IsKey own
  | _ => False

/-- `Meter.Merge`, given a meter. -/
def merge (this meter : Attributed fields) : Except SystemException (Attributed fields × Bool) := do
  let (merged, bEdited) ← Component.mergeInto Field.component this meter
  let (record, bEdited) :=
    mergeFields [.plain Field.terminalComponentId, .plain Field.registers] meter.record (merged.record, bEdited)
  return ({ merged with record }, bEdited)

end Meter

end ServiceHost.Metering
