import ServiceHost.Library.Program
import ServiceHost.Metering.RegisterCore

/-!
`AgreementLogic.SubmitAgreement`: keys for time series are reserved, then one transaction
activates registers and creates time series with these keys, and in the end the keys that
are left are deleted. The table of registers is a `Hashtable` whose keys are objects that
the loop changes. The services that are called are given, with their failures.
-/

namespace ServiceHost.Metering

open Library

/-- An `IccException` has a number, and its message tells a broken unique constraint by
its `ORA-00001`. -/
inductive Fault
  | icc (id : Int) (uniqueConstraint : Bool)
  | system (exception : SystemException)
  | other
deriving DecidableEq

namespace MeteringFunctionCodeType

def low : Int := 4011
def high : Int := 4012
def single : Int := 4013
def hour : Int := 4010
def waterVolume : Int := 9315
def gasEnergy : Int := 9316
def gasMeasured : Int := 9317
def gasStandard : Int := 9318
def gasControl : Int := 9319
def gasMinPress : Int := 9320
def gasMaxPress : Int := 9321
def gasMinTemp : Int := 9322
def gasMaxTemp : Int := 9323
def hotWaterTempTurn : Int := 9400
def hotWaterTempReturn : Int := 9401
def hotWaterMaxEnergy : Int := 9402
def hotWaterMaxVolume : Int := 9403
def hotWaterEnergy : Int := 9404
def hotWaterVolume : Int := 9405
def coolWaterTempTurn : Int := 9450
def coolWaterTempReturn : Int := 9451
def coolWaterMaxEnergy : Int := 9452
def coolWaterMaxVolume : Int := 9453
def coolWaterEnergy : Int := 9454
def coolWaterVolume : Int := 9455

end MeteringFunctionCodeType

namespace MeasuringUnitCodeType

def kwh : Int := 800
def kwhH : Int := 140
def kvarh : Int := 827
def kvarhH : Int := 828
def m3 : Int := 100
def barA : Int := 210
def nm3 : Int := 204
def degreesC : Int := 114

end MeasuringUnitCodeType

namespace WayOfRegistrationType

def accumulative : Int := -1
def differential : Int := 101

end WayOfRegistrationType

namespace FlowDirectionType

def flowIn : Int := 1
def flowOut : Int := 2

end FlowDirectionType

namespace ProductCodeType

def undefined : Int := -1
def consumptionAll : Int := 1
def meterReadingAll : Int := 2
def consumptionHourActiveOut : Int := 40100
def consumptionHourReactiveOut : Int := 40101
def consumptionHourActiveEffectOut : Int := 40102
def consumptionHourReactiveEffectOut : Int := 40103
def consumptionHourActiveIn : Int := 40104
def consumptionHourReactiveIn : Int := 40105
def consumptionHourActiveEffectIn : Int := 40106
def consumptionHourReactiveEffectIn : Int := 40107
def meterReadingLowActiveOut : Int := 40110
def meterReadingLowReactiveOut : Int := 40111
def meterReadingLowActiveEffectOut : Int := 40112
def meterReadingLowReactiveEffectOut : Int := 40113
def meterReadingHighActiveOut : Int := 40120
def meterReadingHighReactiveOut : Int := 40121
def meterReadingHighActiveEffectOut : Int := 40122
def meterReadingHighReactiveEffectOut : Int := 40123
def meterReadingSingleActiveOut : Int := 40130
def meterReadingSingleReactiveOut : Int := 40131
def meterReadingSingleActiveEffectOut : Int := 40132
def meterReadingSingleReactiveEffectOut : Int := 40133
def meterReadingSingleActiveIn : Int := 40134
def meterReadingSingleReactiveIn : Int := 40135
def meterReadingSingleActiveEffectIn : Int := 40136
def meterReadingSingleReactiveEffectIn : Int := 40137
def meterReadingWaterVolumeOut : Int := 93150
def consumptionWaterVolumeOut : Int := 93151
def consumptionGasMinimumPressureOut : Int := 93200
def consumptionGasMaximumPressureOut : Int := 93210
def consumptionGasMinimumTemperatureOut : Int := 93220
def consumptionGasMaximumTemperatureOut : Int := 93230
def meterReadingGasMeasuredOut : Int := 93170
def meterReadingGasStandardOut : Int := 93180
def meterReadingGasEnergyOut : Int := 93160
def meterReadingGasControlOut : Int := 93190
def consumptionHotWaterTemperatureTurnOut : Int := 94000
def consumptionHotWaterTemperatureReturnOut : Int := 94010
def consumptionHotWaterMaximumEnergyOut : Int := 94020
def consumptionHotWaterMaximumVolumeOut : Int := 94030
def meterReadingHotWaterEnergyOut : Int := 94040
def meterReadingHotWaterVolumeOut : Int := 94050
def consumptionCoolWaterTemperatureTurnOut : Int := 94500
def consumptionCoolWaterTemperatureReturnOut : Int := 94510
def consumptionCoolWaterMaximumEnergyOut : Int := 94520
def consumptionCoolWaterMaximumVolumeOut : Int := 94530
def meterReadingCoolWaterEnergyOut : Int := 94540
def meterReadingCoolWaterVolumeOut : Int := 94550

end ProductCodeType

structure ProductRow where
  way : Int
  function : Int
  flow : Int
  unit : Int
  code : Int

section ProductCodes

open MeteringFunctionCodeType MeasuringUnitCodeType FlowDirectionType ProductCodeType
open WayOfRegistrationType

/-- The cases of `GetProductCode`. -/
def productRows : List ProductRow :=
  [⟨differential, hour, flowOut, kwh, consumptionHourActiveOut⟩,
    ⟨differential, hour, flowOut, kvarh, consumptionHourReactiveOut⟩,
    ⟨differential, hour, flowOut, kwhH, consumptionHourActiveEffectOut⟩,
    ⟨differential, hour, flowOut, kvarhH, consumptionHourReactiveEffectOut⟩,
    ⟨differential, hour, flowIn, kwh, consumptionHourActiveIn⟩,
    ⟨differential, hour, flowIn, kvarh, consumptionHourReactiveIn⟩,
    ⟨differential, hour, flowIn, kwhH, consumptionHourActiveEffectIn⟩,
    ⟨differential, hour, flowIn, kvarhH, consumptionHourReactiveEffectIn⟩,
    ⟨differential, waterVolume, flowOut, m3, consumptionWaterVolumeOut⟩,
    ⟨differential, gasMinPress, flowOut, barA, consumptionGasMinimumPressureOut⟩,
    ⟨differential, gasMaxPress, flowOut, barA, consumptionGasMaximumPressureOut⟩,
    ⟨differential, gasMinTemp, flowOut, degreesC, consumptionGasMinimumTemperatureOut⟩,
    ⟨differential, gasMaxTemp, flowOut, degreesC, consumptionGasMaximumTemperatureOut⟩,
    ⟨differential, hotWaterTempTurn, flowOut, degreesC, consumptionHotWaterTemperatureTurnOut⟩,
    ⟨differential, hotWaterTempReturn, flowOut, degreesC, consumptionHotWaterTemperatureReturnOut⟩,
    ⟨differential, hotWaterMaxEnergy, flowOut, kwh, consumptionHotWaterMaximumEnergyOut⟩,
    ⟨differential, hotWaterMaxVolume, flowOut, m3, consumptionHotWaterMaximumVolumeOut⟩,
    ⟨differential, coolWaterTempTurn, flowOut, degreesC, consumptionCoolWaterTemperatureTurnOut⟩,
    ⟨differential, coolWaterTempReturn, flowOut, degreesC, consumptionCoolWaterTemperatureReturnOut⟩,
    ⟨differential, coolWaterMaxEnergy, flowOut, kwh, consumptionCoolWaterMaximumEnergyOut⟩,
    ⟨differential, coolWaterMaxVolume, flowOut, m3, consumptionCoolWaterMaximumVolumeOut⟩,
    ⟨accumulative, low, flowOut, kwh, meterReadingLowActiveOut⟩,
    ⟨accumulative, low, flowOut, kvarh, meterReadingLowReactiveOut⟩,
    ⟨accumulative, low, flowOut, kwhH, meterReadingLowActiveEffectOut⟩,
    ⟨accumulative, low, flowOut, kvarhH, meterReadingLowReactiveEffectOut⟩,
    ⟨accumulative, high, flowOut, kwh, meterReadingHighActiveOut⟩,
    ⟨accumulative, high, flowOut, kvarh, meterReadingHighReactiveOut⟩,
    ⟨accumulative, high, flowOut, kwhH, meterReadingHighActiveEffectOut⟩,
    ⟨accumulative, high, flowOut, kvarhH, meterReadingHighReactiveEffectOut⟩,
    ⟨accumulative, single, flowOut, kwh, meterReadingSingleActiveOut⟩,
    ⟨accumulative, single, flowOut, kvarh, meterReadingSingleReactiveOut⟩,
    ⟨accumulative, single, flowOut, kwhH, meterReadingSingleActiveEffectOut⟩,
    ⟨accumulative, single, flowOut, kvarhH, meterReadingSingleReactiveEffectOut⟩,
    ⟨accumulative, single, flowIn, kwh, meterReadingSingleActiveIn⟩,
    ⟨accumulative, single, flowIn, kvarh, meterReadingSingleReactiveIn⟩,
    ⟨accumulative, single, flowIn, kwhH, meterReadingSingleActiveEffectIn⟩,
    ⟨accumulative, single, flowIn, kvarhH, meterReadingSingleReactiveEffectIn⟩,
    ⟨accumulative, waterVolume, flowOut, m3, meterReadingWaterVolumeOut⟩,
    ⟨accumulative, gasMeasured, flowOut, m3, meterReadingGasMeasuredOut⟩,
    ⟨accumulative, gasStandard, flowOut, nm3, meterReadingGasStandardOut⟩,
    ⟨accumulative, gasEnergy, flowOut, kwh, meterReadingGasEnergyOut⟩,
    ⟨accumulative, gasControl, flowOut, m3, meterReadingGasControlOut⟩,
    ⟨accumulative, hotWaterEnergy, flowOut, kwh, meterReadingHotWaterEnergyOut⟩,
    ⟨accumulative, hotWaterVolume, flowOut, m3, meterReadingHotWaterVolumeOut⟩,
    ⟨accumulative, coolWaterEnergy, flowOut, kwh, meterReadingCoolWaterEnergyOut⟩,
    ⟨accumulative, coolWaterVolume, flowOut, m3, meterReadingCoolWaterVolumeOut⟩]

def getProductCode (register : Register) : Int :=
  match productRows.find? fun row => row.way == register.wayOfRegistration &&
      row.function == register.meteringFunctionCode && row.flow == register.directionOfFlow &&
      row.unit == register.measureUnitCode with
  | some row => row.code
  | none => undefined

end ProductCodes

inductive CommodityType
  | meterReading
  | consumption
deriving DecidableEq

structure Commodity where
  type : CommodityType
  productCode : Int
  validFromDate : UtcTime

structure Agreement where
  commodities : List Commodity
  exportScheduleDateFixed : Bool

def getConsumptionCommodities (agreement : Agreement) : List Commodity :=
  agreement.commodities.filter fun commodity => commodity.type = .consumption

def getMeterReadingCommodities (agreement : Agreement) : List Commodity :=
  agreement.commodities.filter fun commodity => commodity.type = .meterReading

def commodityMatches (registers : List Register) (commodity : Commodity) : Bool :=
  if commodity.productCode = ProductCodeType.consumptionAll then
    registers.any fun register => register.wayOfRegistration = WayOfRegistrationType.differential
  else if commodity.productCode = ProductCodeType.meterReadingAll then
    registers.any fun register => register.wayOfRegistration = WayOfRegistrationType.accumulative
  else registers.any fun register => commodity.productCode = getProductCode register

/-- `CommodityMatch` counts the commodities that a register fits. -/
def commodityMatch (agreement : Agreement) (registers : List Register) : Bool :=
  (agreement.commodities.filter (commodityMatches registers)).length == agreement.commodities.length

/-- A meter with the registers that the database has of it, which bear its key. -/
structure Meter.Registers where
  key : Int
  registers : List Register
  own : ∀ register ∈ registers, register.key = key

/-- An entry of the table: the hash code is that of the register when it was added, and the
register is an object. A meter is known by its key. -/
structure Slot where
  code : Nat
  register : Nat
  meter : Int
deriving DecidableEq

/-- The objects of the registers in the order in which they were read. -/
structure RegisterTable where
  slots : List Slot
  registers : List Register

def objectOf (registers : List Register) (id : Nat) : Register := registers.getD id (Record.new Register.fields)

/-- `Hashtable.Add`. -/
def RegisterTable.add (hash : List Printed → Nat) (table : RegisterTable) (meter : Int) (register : Register) :
    Except SystemException RegisterTable := do
  let code ← register.getHashCode hash
  if table.slots.any fun slot =>
      slot.code == code && (objectOf table.registers slot.register).equals register then
    throw (.argument "Item has already been added.")
  return ⟨table.slots ++ [⟨code, table.registers.length, meter⟩], table.registers ++ [register]⟩

/-- The turn of `GetRegisters` for a meter. `RegisterData.GetForComponent` refuses a component
without a key. -/
def addRegisters (hash : List Printed → Nat) (table : RegisterTable) (meter : Meter.Registers) :
    Except SystemException RegisterTable :=
  if meter.key = 0 then throw (.argument "RegisterData.GetForComponent: component.Key is 0")
  else meter.registers.foldlM (fun table register => table.add hash meter.key register) table

def getRegisters (hash : List Printed → Nat) (meters : List Meter.Registers) :
    Except SystemException RegisterTable :=
  meters.foldlM (addRegisters hash) ⟨[], []⟩

inductive Step
  | openConnection
  | getByID
  | getRegisters
  | openConnectionForKey (key : Nat)
  | openTransaction
  | updateInstallation
  | finishAgreement
  | saveAgreement
  | getTransformers
  | getNewRegisters
  | updateRegister (register : Nat)
  | getTimeSeries (register : Nat)
  | getTSName (register : Nat)
  | createTimeSeries (register : Nat)
  | getName (register : Nat)
  | updateImpExpDef (register : Nat)
  | endAccumulativeExportOrders (register : Nat)
  | getFirstExportDate (register order : Nat)
  | saveCyclicAccumulativeMeteringOrder (register order : Nat)
  | commit
  | deleteByTSKey (turn : Nat)
deriving DecidableEq

structure Reservations where
  attempt : Nat → Nat → Except Fault Int
  positive : ∀ register turn key, attempt register turn = .ok key → 0 < key
  distinct : ∀ register turn register' turn' key, attempt register turn = .ok key →
    attempt register' turn' = .ok key → register = register'

structure Arrangement where
  order : List Slot → List Slot
  perm : ∀ slots, (order slots).Perm slots

/-- What is given to `SubmitAgreement` besides the agreement. -/
structure Services where
  hash : List Printed → Nat
  probing : Arrangement
  enumeration : Arrangement
  measurePoints : Nat
  registersBefore : List Meter.Registers
  registersWithin : List Meter.Registers
  timeSeries : Nat → Int
  reservations : Reservations
  retryCount : Nat
  retryDelay : Int
  fails : Step → Option Fault

/-- The registers as objects, the list of keys, what became of the keys in the database,
what was looked up in the table, and the import and export definitions. -/
structure World where
  registers : List Register
  liTSReservedKeys : List Int
  reserved : List Int
  pending : List Int
  created : List Int
  deleted : List Int
  lookups : List (Nat × Option Int)
  definitions : List (Nat × Option Int)

def World.initial : World := ⟨[], [], [], [], [], [], [], []⟩

section Keys

def Services.call (services : Services) (step : Step) : Program World Fault Unit :=
  Program.call (services.fails step)

def orSystem {A : Type} (outcome : Except SystemException A) : Program World Fault A :=
  Program.ofExcept (outcome.mapError .system)

/-- The attempts of `FetchNewKey` that are left, from a turn on. A generic error of the database
is followed by the next attempt, after a pause of random length when the constraint was broken. -/
def fetchFrom (services : Services) (register : Nat) : Nat → Nat → Program World Fault Int
  | 0, _ => pure (-1)
  | left + 1, turn =>
      match services.reservations.attempt register turn with
      | .ok key => do
          Program.change fun world => { world with reserved := world.reserved ++ [key] }
          return key
      | .error (.icc id uniqueConstraint) =>
          if id = 1012 then
            if uniqueConstraint ∧ services.retryDelay < 0 then
              Program.raise (.system .argumentOutOfRange)
            else fetchFrom services register left (turn + 1)
          else Program.raise (.icc id uniqueConstraint)
      | .error fault => Program.raise fault

def fetchNewKey (services : Services) (register : Nat) : Program World Fault Int := do
  services.call (.openConnectionForKey register)
  fetchFrom services register services.retryCount 0

/-- The turns of `GetPlaceHolderTSkeys` that are left, from a register on. -/
def placeHoldersFrom (services : Services) : Nat → Nat → Program World Fault (List Int)
  | 0, _ => pure []
  | left + 1, register => do
      let key ← fetchNewKey services register
      let rest ← placeHoldersFrom services left (register + 1)
      return key :: rest

def getPlaceHolderTSkeys (services : Services) (placeholderCount : Nat) : Program World Fault (List Int) :=
  placeHoldersFrom services placeholderCount 0

def getPlaceHolderTSkey : Program World Fault Int := do
  let keys ← Program.read fun world => world.liTSReservedKeys
  match keys with
  | [] => return 0
  | key :: rest =>
      Program.change fun world => { world with liTSReservedKeys := rest }
      return key

/-- The loop of the `finally` block. -/
def deleteKeys (services : Services) : Nat → List Int → Program World Fault Unit
  | _, [] => pure ()
  | turn, key :: rest => do
      services.call (.deleteByTSKey turn)
      Program.change fun world => { world with deleted := world.deleted ++ [key] }
      deleteKeys services (turn + 1) rest

end Keys

section Turn

/-- `RegisterData.Update`: a register without a key gets that of its meter. -/
def updateRegister (services : Services) (id : Nat) (relatedMeter : Int) : Program World Fault Unit := do
  let register ← Program.read fun world => objectOf world.registers id
  if register.key = 0 then
    Program.change fun world =>
      { world with registers := world.registers.set id (register.write Register.Field.key relatedMeter) }
  services.call (.updateRegister id)

/-- `ActivateRegister` asks the meter for its id first. -/
def activateRegister (services : Services) (id : Nat) (relatedMeter : Option Int) : Program World Fault Unit :=
  match relatedMeter with
  | none => Program.raise (.system .nullReference)
  | some meter => do
      Program.change fun world =>
        { world with registers := world.registers.set id (objectOf world.registers id).activated }
      updateRegister services id meter

/-- The first entry with a hash code that has the object itself, or one that is equal to it now. -/
def findSlot (slots : List Slot) (registers : List Register) (code id : Nat) : Option Slot :=
  slots.find? fun slot => slot.code == code &&
    (slot.register == id || (objectOf registers slot.register).equals (objectOf registers id))

/-- `htNewRegisters[register]`: the table is searched with the hash code that the register
has now. -/
def lookUp (services : Services) (slots : List Slot) (id : Nat) : Program World Fault (Option Int) := do
  let registers ← Program.read fun world => world.registers
  let code ← orSystem ((objectOf registers id).getHashCode services.hash)
  let meter := (findSlot (services.probing.order slots) registers code id).map Slot.meter
  Program.change fun world => { world with lookups := world.lookups ++ [(id, meter)] }
  return meter

def activateIfInactive (services : Services) (slots : List Slot) (id : Nat) : Program World Fault Unit := do
  let register ← Program.read fun world => objectOf world.registers id
  if register.state = Register.inactive then
    let meter ← lookUp services slots id
    activateRegister services id meter

def exportStart (exportStartTime validFromDate : UtcTime) : Except SystemException UtcTime := do
  if exportStartTime = UtcTime.null then return validFromDate
  if ← exportStartTime.greater validFromDate then return validFromDate
  return exportStartTime

def matchesRegister (all : Int) (commodity : Commodity) (register : Register) : Bool :=
  commodity.productCode = getProductCode register || commodity.productCode = all

def meterReadingLoop (services : Services) (slots : List Slot) (id : Nat) :
    List Commodity → UtcTime → Program World Fault UtcTime
  | [], exportStartTime => pure exportStartTime
  | mrc :: rest, exportStartTime => do
      let register ← Program.read fun world => objectOf world.registers id
      if matchesRegister ProductCodeType.meterReadingAll mrc register then
        activateIfInactive services slots id
        let exportStartTime ← orSystem (exportStart exportStartTime mrc.validFromDate)
        meterReadingLoop services slots id rest exportStartTime
      else meterReadingLoop services slots id rest exportStartTime

def consumptionLoop (services : Services) (slots : List Slot) (id : Nat) (cc : Commodity) :
    Program World Fault Unit := do
  let register ← Program.read fun world => objectOf world.registers id
  if matchesRegister ProductCodeType.consumptionAll cc register then
    activateIfInactive services slots id

def updateTimeSeries (services : Services) (id : Nat) : Program World Fault Unit := do
  services.call (.getTimeSeries id)
  if services.timeSeries id = 0 then
    services.call (.getTSName id)
    let timsKey ← getPlaceHolderTSkey
    services.call (.createTimeSeries id)
    Program.change fun world => { world with pending := world.pending ++ [timsKey] }

def updateImpExpDef (services : Services) (id : Nat) (meter : Option Int) : Program World Fault Unit := do
  updateTimeSeries services id
  services.call (.getName id)
  services.call (.updateImpExpDef id)
  Program.change fun world => { world with definitions := world.definitions ++ [(id, meter)] }

def saveOrder (services : Services) (agreement : Agreement) (id order : Nat) : Program World Fault Unit := do
  if agreement.exportScheduleDateFixed then
    services.call (.getFirstExportDate id order)
  services.call (.saveCyclicAccumulativeMeteringOrder id order)

def saveOrders (services : Services) (agreement : Agreement) (id : Nat) (register : Register) :
    Program World Fault Unit := do
  if register.wayOfRegistration = WayOfRegistrationType.accumulative then
    services.call (.endAccumulativeExportOrders id)
    Program.forEach (saveOrder services agreement id)
      (List.range (getMeterReadingCommodities agreement).length)

def finishTurn (services : Services) (agreement : Agreement) (slots : List Slot) (id : Nat) :
    Program World Fault Unit := do
  let register ← Program.read fun world => objectOf world.registers id
  if register.state = Register.active then
    let meter ← lookUp services slots id
    updateImpExpDef services id meter
    saveOrders services agreement id register

/-- The loops over the commodities that are for registers of its kind. -/
def goThroughCommodities (services : Services) (agreement : Agreement) (slots : List Slot) (id : Nat) :
    Program World Fault Unit := do
  let register ← Program.read fun world => objectOf world.registers id
  if register.wayOfRegistration = WayOfRegistrationType.accumulative then
    let _ ← meterReadingLoop services slots id (getMeterReadingCommodities agreement) UtcTime.null
    return
  else Program.forEach (consumptionLoop services slots id) (getConsumptionCommodities agreement)

def registerTurn (services : Services) (agreement : Agreement) (slots : List Slot) (id : Nat) :
    Program World Fault Unit := do
  goThroughCommodities services agreement slots id
  finishTurn services agreement slots id

end Turn

section Submit

/-- The registers of the table in the order in which it is enumerated. -/
def keysOf (services : Services) (slots : List Slot) : List Nat :=
  (services.enumeration.order slots).map Slot.register

def updateRegisters (services : Services) (agreement : Agreement) : Program World Fault Unit := do
  services.call .getTransformers
  services.call .getNewRegisters
  let htNewRegisters ← orSystem (getRegisters services.hash services.registersWithin)
  Program.change fun world => { world with registers := htNewRegisters.registers }
  if commodityMatch agreement htNewRegisters.registers then
    Program.forEach (registerTurn services agreement htNewRegisters.slots)
      (keysOf services htNewRegisters.slots)
  else Program.raise (.icc 10007 false)

def transactionBody (services : Services) (agreement : Agreement) : Program World Fault Unit := do
  services.call .updateInstallation
  services.call .finishAgreement
  services.call .saveAgreement
  if agreement.commodities.length > 0 then
    updateRegisters services agreement
  services.call .commit
  Program.change fun world => { world with created := world.created ++ world.pending, pending := [] }

def inTransaction (services : Services) (agreement : Agreement) : Program World Fault Unit := do
  services.call .openTransaction
  Program.handle (transactionBody services agreement) fun fault => do
    Program.change fun world => { world with pending := [] }
    Program.raise fault

def submitAgreement (services : Services) (agreement : Agreement) : Program World Fault Unit := do
  services.call .openConnection
  services.call .getByID
  if services.measurePoints = 0 then
    Program.raise (.icc 10004 false)
  else
    services.call .getRegisters
    let htRegisters ← orSystem (getRegisters services.hash services.registersBefore)
    let liTSReservedKeys ← getPlaceHolderTSkeys services htRegisters.slots.length
    Program.change fun world => { world with liTSReservedKeys }
    Program.ensure (inTransaction services agreement) do
      let left ← Program.read fun world => world.liTSReservedKeys
      deleteKeys services 0 left

end Submit

end ServiceHost.Metering
