import ServiceHost.Metering.EntitiesCore

/-!
Registers as keys: `ToString`, `GetHashCode` and `Equals` of a `Register`, and what
activating a register changes of them. The hash code of a text is given.
-/

namespace ServiceHost.Metering

open Library

abbrev Register : Type := Record Register.fields

abbrev Printed : Type := Σ field : Register.Field, (Register.kind field).Value

namespace Register

/-- `RegisterState.INACTIVE` -/
def inactive : Int := 0

/-- `RegisterState.ACTIVE` -/
def active : Int := 1

def key (register : Register) : Int := register.value Field.key
def registerNumber (register : Register) : Int := register.value Field.registerNumber
def state (register : Register) : Int := register.value Field.state
def meterID (register : Register) : Option String := register.value Field.meterID
def wayOfRegistration (register : Register) : Int := register.value Field.wayOfRegistration
def meteringFunctionCode (register : Register) : Int := register.value Field.meteringFunctionCode
def directionOfFlow (register : Register) : Int := register.value Field.directionOfFlow
def measureUnitCode (register : Register) : Int := register.value Field.measureUnitCode

/-- The properties in the order of `ToString`. -/
def toStringFields : List Field :=
  [.key, .meterID, .registerNumber, .valueType, .validFromDate, .validToDate, .capacityDigits,
    .capacityDecimals, .measureUnitCode, .directionOfFlow, .meteringConstant, .pulseConstant,
    .remoteMetering, .wayOfRegistration, .meteringFunctionCode, .state]

def printed (register : Register) (fields : List Field) : List Printed :=
  fields.map fun field => ⟨field, register.value field⟩

/-- The text that is hashed ends with the key, the number and the meter once more. -/
def hashed (register : Register) : List Printed :=
  printed register toStringFields ++ printed register [.key, .registerNumber, .meterID]

/-- `GetHashCode` asks the meter for its text. -/
def getHashCode (hash : List Printed → Nat) (register : Register) : Except SystemException Nat :=
  match meterID register with
  | none => .error .nullReference
  | some _ => .ok (hash (hashed register))

/-- The properties in the order of `Equals`. -/
def equalsFields : List Field :=
  [.key, .registerNumber, .capacityDigits, .capacityDecimals, .measureUnitCode, .directionOfFlow,
    .meteringConstant, .pulseConstant, .remoteMetering, .wayOfRegistration, .meteringFunctionCode,
    .state, .validFromDate, .validToDate, .meterID, .valueType]

def equals (this other : Register) : Bool :=
  equalsFields.all fun field => !(kind field).differs (this.value field) (other.value field)

/-- The object with the state set, as it is after `ActivateRegister`. -/
def activated (register : Register) : Register := register.set Field.state active

section Equality

variable {first second third : Register}

theorem Single.differs_comm (value other : Single) : value.differs other = other.differs value := by
  rw [Single.differs, Single.differs, Bool.or_comm value.isNaN, bne_comm]

theorem differs_comm : ∀ (kind : Kind) (value other : kind.Value),
    kind.differs value other = kind.differs other value
  | .string, _, _ => bne_comm (α := Option String)
  | .int, _, _ => bne_comm (α := Int)
  | .time, _, _ => bne_comm (α := UtcTime)
  | .reference, _, _ => bne_comm (α := Option Nat)
  | .single, _, _ => Single.differs_comm _ _
  | .decimal, _, _ => bne_comm (α := Rat)

theorem equals_comm (first second : Register) : equals first second = equals second first := by
  simp only [equals, differs_comm (kind _) (first.value _)]

theorem equals_iff : equals first second = true ↔ ∀ field ∈ equalsFields,
    (kind field).differs (first.value field) (second.value field) = false := by
  simp [equals]

theorem value_eq_of_equals (same : equals first second = true) {field : Field}
    (compared : field ∈ equalsFields) : first.value field = second.value field :=
  (kind field).eq_of_not_differs _ _ (equals_iff.mp same field compared)

theorem hashed_eq_of_equals (same : equals first second = true) : hashed first = hashed second := by
  have shown : ∀ fields : List Field, (∀ field ∈ fields, field ∈ equalsFields) →
      printed first fields = printed second fields := by
    intro fields compared
    refine List.map_congr_left fun field member => ?_
    rw [value_eq_of_equals same (compared field member)]
  rw [hashed, hashed, shown toStringFields (by decide), shown [.key, .registerNumber, .meterID] (by decide)]

theorem activated_value (register : Register) {field : Field} (other : field ≠ .state) :
    (activated register).value field = register.value field :=
  Function.update_of_ne other _ _

@[simp] theorem activated_state (register : Register) : state (activated register) = active := by
  have updated : (activated register).value Field.state = (active : Int) :=
    Function.update_self Field.state _ register.value
  exact updated

@[simp] theorem activated_key (register : Register) : key (activated register) = key register :=
  activated_value register (by decide)

@[simp] theorem activated_meterID (register : Register) : meterID (activated register) = meterID register :=
  activated_value register (by decide)

@[simp] theorem activated_wayOfRegistration (register : Register) :
    wayOfRegistration (activated register) = wayOfRegistration register :=
  activated_value register (by decide)

theorem equals_of_activated (states : state first = state second)
    (same : equals (activated first) (activated second) = true) : equals first second = true := by
  rw [equals_iff] at same ⊢
  intro field compared
  by_cases atState : field = .state
  · subst atState
    have self : ∀ value : Int, Kind.int.differs value value = false :=
      fun value => bne_self_eq_false (α := Int) value
    change Kind.int.differs (state first) (state second) = false
    rw [states]
    exact self _
  · have comparison := same field compared
    rwa [activated_value first atState, activated_value second atState] at comparison

theorem state_eq_of_equals (same : equals first second = true) : state first = state second :=
  value_eq_of_equals same (by decide)

theorem key_eq_of_equals (same : equals first second = true) : key first = key second :=
  value_eq_of_equals same (by decide)

end Equality

end Register

end ServiceHost.Metering
