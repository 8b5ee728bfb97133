import Mathlib.Data.List.AList

/-!
# The data model shared by the storage back ends

This file fixes the values the storage code of the sync service passes around: the object
metadata, the destinations and the notifications of the `common` package, the statuses an
object, a destination and a notification go through, the composite keys of the
collections, the errors the storage functions return, and the readings of the wall clock
the code takes.

Only the fields of `common.MetaData`, `common.Destination`, `common.Notification` and
`common.Organization` that some modelled function reads or writes are kept.  The statuses
and the key builders live in parts of the repository that are not part of the sources at
hand; they are modelled from the specification, which names every status and gives the key
layouts `orgID:objectType:objectID`, `orgID:destType:destID` and
`orgID:objectType:objectID:destType:destID`.  The proofs only use that the statuses are
pairwise distinct and non-empty.
-/

namespace EdgeSync

/-- Results are compared in the statements, as the callers of the Go code compare them. -/
instance decEqExcept {ε α : Type} [DecidableEq ε] [DecidableEq α] : DecidableEq (Except ε α)
  | .error a, .error b => decidable_of_iff (a = b) (by simp)
  | .ok a, .ok b => decidable_of_iff (a = b) (by simp)
  | .error _, .ok _ => isFalse (by simp)
  | .ok _, .error _ => isFalse (by simp)

/-- A payload, or any other byte slice. -/
abbrev Bytes := List UInt8

/-- The fields of `common.MetaData` that the storage layer reads or writes. -/
structure MetaData where
  objectID : String
  objectType : String
  destOrgID : String
  destID : String
  destType : String
  expiration : String
  inactive : Bool
  activationTime : String
  noData : Bool
  metaOnly : Bool
  expectedConsumers : Int
  autoDelete : Bool
  deleted : Bool
  instanceID : Int
  objectSize : Int
deriving DecidableEq, Repr

/-- A destination of the `destinations` collection (`common.Destination`). -/
structure Destination where
  destOrgID : String
  destType : String
  destID : String
  communication : String
deriving DecidableEq, Repr

/-- The delivery state of an object at one destination (`common.StoreDestinationStatus`). -/
structure StoreDestinationStatus where
  destination : Destination
  status : String
  message : String
deriving DecidableEq, Repr

/-- The fields of `common.Notification` that the storage layer reads or writes. -/
structure Notification where
  objectID : String
  objectType : String
  destOrgID : String
  destID : String
  destType : String
  status : String
  /-- The time to resend the notification at, in Unix seconds. -/
  resendTime : Int
deriving DecidableEq, Repr

/-- The field of `common.Organization` the storage layer reads; the others are stored and
returned as they are. -/
structure Organization where
  orgID : String
deriving DecidableEq, Repr

/-! ### Statuses -/

/-- Modelled from the spec: the object status `NotReadyToSend` of §3. -/
def NotReadyToSend : String := "notReady"
/-- Modelled from the spec: the object status `ReadyToSend` of §3 (scenario 1 passes
`status="ready"`). -/
def ReadyToSend : String := "ready"
/-- Modelled from the spec: the object status `CompletelyReceived` of §3. -/
def CompletelyReceived : String := "completelyReceived"
/-- Modelled from the spec: the object status `ObjReceived` of §3. -/
def ObjReceived : String := "objreceived"
/-- Modelled from the spec: the object status `ObjDeleted` of §3. -/
def ObjDeleted : String := "objdeleted"
/-- Modelled from the spec: the destination status `Pending` of §3. -/
def Pending : String := "pending"
/-- Modelled from the spec: the destination status `Delivering` of §3. -/
def Delivering : String := "delivering"
/-- Modelled from the spec: the destination status `Consumed` of §3. -/
def Consumed : String := "consumed"
/-- Modelled from the spec: the destination status `Error` of §3, also a notification
status. -/
def Error : String := "error"
/-- Modelled from the spec: the destination status `Delivered` of §3. -/
def Delivered : String := "delivered"

/-- Modelled from the spec: the notification status `Update` of §3. -/
def Update : String := "update"
/-- Modelled from the spec: the notification status `UpdatePending` of §3. -/
def UpdatePending : String := "updatePending"
/-- Modelled from the spec: the notification status `Updated` of §3. -/
def Updated : String := "updated"
/-- Modelled from the spec: the notification status `Received` of §3. -/
def Received : String := "received"
/-- Modelled from the spec: the notification status `ConsumedPending` of §3; a notification
is also `Consumed`. -/
def ConsumedPending : String := "consumedPending"
/-- Modelled from the spec: the notification status `Delete` of §3. -/
def Delete : String := "delete"
/-- Modelled from the spec: the notification status `DeletePending` of §3. -/
def DeletePending : String := "deletePending"
/-- Modelled from the spec: the notification status `Deleted` of §3. -/
def Deleted : String := "deleted"
/-- Modelled from the spec: the notification status `DeletedPending` of §3. -/
def DeletedPending : String := "deletedPending"
/-- Modelled from the spec: the notification status `Getdata` of §3. -/
def Getdata : String := "getdata"
/-- Modelled from the spec: the notification status `Data` of §3. -/
def Data : String := "data"
/-- Modelled from the spec: the notification status `ReceivedByDestination` of §3. -/
def ReceivedByDestination : String := "receivedByDestination"
/-- Modelled from the spec: the notification status `ConsumedByDestination` of §3. -/
def ConsumedByDestination : String := "consumedByDestination"

/-! ### Keys -/

/-- Modelled from the spec: `createObjectCollectionID`, the key `orgID:objectType:objectID`
of §3. -/
def createObjectCollectionID (orgID objectType objectID : String) : String :=
  orgID ++ ":" ++ objectType ++ ":" ++ objectID

/-- Modelled from the spec: `getObjectCollectionID`, the key of an object's metadata. -/
def getObjectCollectionID (metaData : MetaData) : String :=
  createObjectCollectionID metaData.destOrgID metaData.objectType metaData.objectID

/-- Modelled from the spec: `createDestinationCollectionID`, the key
`orgID:destType:destID` of §3. -/
def createDestinationCollectionID (orgID destType destID : String) : String :=
  orgID ++ ":" ++ destType ++ ":" ++ destID

/-- Modelled from the spec: `getDestinationCollectionID`, the key of a destination. -/
def getDestinationCollectionID (destination : Destination) : String :=
  createDestinationCollectionID destination.destOrgID destination.destType destination.destID

/-- Modelled from the spec: `createNotificationCollectionID`, the key
`orgID:objectType:objectID:destType:destID` of §3. -/
def createNotificationCollectionID (orgID objectType objectID destType destID : String) : String :=
  createObjectCollectionID orgID objectType objectID ++ ":" ++ destType ++ ":" ++ destID

/-- Modelled from the spec: `getNotificationCollectionID`, the key of a notification. -/
def getNotificationCollectionID (notification : Notification) : String :=
  createNotificationCollectionID notification.destOrgID notification.objectType
    notification.objectID notification.destType notification.destID

/-- The ASCII case folding: equality up to the case of the letters `A` to `Z`.  It agrees with
`strings.EqualFold` on ASCII text; Go's `strings.EqualFold` also folds the case of other letters
(the Kelvin sign matches `k`). -/
def equalFold (s t : String) : Bool := s.data.map Char.toLower == t.data.map Char.toLower

/-! ### Errors and the clock -/

/-- The errors of the storage functions, by the Go type that carries them.  A Go panic,
which the HTTP server recovers from, is kept apart as `panic`. -/
inductive SyncServiceError
  /-- `storage.Error` and `dataURI.Error`. -/
  | error (message : String)
  /-- `storage.NotFound`. -/
  | notFound (message : String)
  /-- `storage.Discarded`: the out-of-order window of a chunked upload is full. -/
  | discarded (message : String)
  /-- `common.IOError`. -/
  | ioError (message : String)
  /-- A run-time panic of the Go code. -/
  | panic (message : String)
deriving DecidableEq, Repr

/-- The errors of the MongoDB driver the storage code tells apart: `mgo.ErrNotFound`,
a duplicate key (`mgo.IsDup`), and any other failure. -/
inductive MgoError
  | notFound
  | dup
  | other (message : String)
deriving DecidableEq, Repr

/-- The text of an `mgo` error, as `err.Error()` prints it. -/
def MgoError.text : MgoError → String
  | .notFound => "not found"
  | .dup => "E11000 duplicate key error"
  | .other message => message

/-- The readings of the wall clock an operation takes: `time.Now().UnixNano()`, and
`time.Now().Add(time.Hour).Format(time.RFC3339)`.  The clock is an input of the model. -/
structure Now where
  unixNano : Int
  inOneHour : String
deriving DecidableEq, Repr

/-- `time.Now().Unix()`: the reading in whole seconds. -/
def Now.unix (now : Now) : Int := now.unixNano / 1000000000

end EdgeSync
