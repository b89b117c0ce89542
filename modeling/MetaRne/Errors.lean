/-
# What the services raise

One constructor for each exception class that the modelled code raises, with
the data the exception carries.  The message of a `ValueError` is the source's
format string, `%s` (or `%r`) standing where a value goes in, together with the
values in order.

`TypeError`, `AttributeError` and `OverflowError` are Python's own: a naive datetime
compared with an aware one, a value of another type than expected, and a date
before year 1 or after year 9999.
-/

import MetaRne.Python.Json

namespace MetaRne

/-- A value put into a message. -/
inductive Value
  | str (s : String)
  | int (n : ℤ)
  | float (x : Python.PyFloat)
  | timedelta (microseconds : ℤ)
  | datetime (microseconds : ℕ)
  | json (value : Python.Json)
  deriving Repr

instance : Coe String Value := ⟨.str⟩

/-- Why an adapter rejected a text (`domain/errors.py`). -/
inductive ParseErrorCode
  | emptyConfiguration
  | missingHostname
  | malformedHostname
  | malformedInterface
  | invalidInterfaceIp
  | invalidSubnetMask
  | invalidAclDirection
  | undeclaredAclReference
  | invalidBgpNeighborIp
  | invalidBgpRemoteAs
  deriving DecidableEq, Repr

/-- A rejection that an adapter returns, with the line it is about.  Its message is a
format string and the texts put into it, as in a `ValueError`. -/
structure ParseError where
  code : ParseErrorCode
  message : String
  values : List String
  lineNumber : Option ℕ
  line : Option String
  deriving DecidableEq, Repr

/-- The exceptions of the domain, persistence and application layers. -/
inductive Error
  | valueError (message : String) (values : List Value)
  | typeError (message : String)
  | overflowError (message : String)
  | keyError (key : String)
  | attributeError (message : String)
  | serialization (message : String) (values : List Value)
  | runtimeError (message : String) (values : List Value)
  | unsupportedVendor (vendor : String)
  | configurationParse (parseError : ParseError)
  | incidentNotFound (incidentId : String)
  | deviceNotFound (deviceId : String)
  | driftNotApplicable (deviceId : String)
  | labDeviceConflict (deviceId reason : String)
  | operationalStateNotFound (labName : String)
  | emptyFabric (message : String)
  | mixedLabName (message : String) (labNames : List String)
  | mixedCollector (message : String) (collectors : List String)
  | persistence (message : String)
  | data (message : String)
  | deviceConflict (message : String) (values : List Value)
  | snapshotAlreadyExists (snapshotId : String)
  | referencedDeviceNotFound (deviceId : String)
  | policySeedConflict (policyId : String)
  | staleOperationalState (labName collectionId storedCollectionId : String)
  | operationalStateConflict (labName collectionId reason : String) (values : List Value)

end MetaRne
