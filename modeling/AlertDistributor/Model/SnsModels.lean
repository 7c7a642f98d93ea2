import Mathlib.Algebra.GroupWithZero.Nat
import Mathlib.Data.Fintype.Basic
import Mathlib.Order.Fin.Basic

/-!
# Identifiers, mobile devices and the errors of SNS

The data of `sns/models.rs`.  A `Uuid` is its 128-bit value: the derived order of the
`uuid` crate compares the sixteen bytes from the most significant one, which is the
order of the value.
-/

set_option autoImplicit false

namespace AlertDistributor.Model

/-- A UUID, ordered by its bytes. -/
abbrev Uuid := Fin (2 ^ 128)

instance uuidNeZero : NeZero (2 ^ 128 : ℕ) :=
  ⟨by decide⟩

/-! ## The id types
SRC: permissions/cache.rs:28-31, websocket/registry.rs:9-12 -/

abbrev OrganizationId := Uuid
abbrev UserId := Uuid
abbrev UnitId := Uuid
abbrev DeviceId := Uuid

/-- A mobile device of a person.
SRC: sns/models.rs:6-14 -/
structure UserDevice where
  id : DeviceId
  userId : UserId
  deviceToken : String
  platform : String
  endpointArn : String
  isActive : Bool
deriving DecidableEq, Repr

/-- The push service an endpoint belongs to.
SRC: sns/models.rs:16-22 -/
inductive EndpointChannel where
  | gcm
  | apns
  | apnsSandbox
  | unknown
deriving DecidableEq, Repr

/-- The channel named by the second `/`-segment of the last `:`-segment of the ARN.
SRC: sns/models.rs:25-41 -/
def UserDevice.endpointChannel (d : UserDevice) : EndpointChannel :=
  match (d.endpointArn.toList.splitOn ':').getLast? with
  | none => .unknown
  | some resource =>
    match (resource.splitOn '/')[1]? with
    | none => .unknown
    | some kind =>
      if kind = "GCM".toList then .gcm
      else if kind = "APNS".toList then .apns
      else if kind = "APNS_SANDBOX".toList then .apnsSandbox
      else .unknown

/-- `str::to_ascii_lowercase`: only the letters `A` to `Z` change. -/
def toAsciiLowercase (s : String) : List Char :=
  s.toList.map Char.toLower

/-- Android takes GCM endpoints only, iOS any known channel, other platforms nothing.
SRC: sns/models.rs:43-52 -/
def UserDevice.endpointIsSupportedForPlatform (d : UserDevice) : Bool :=
  if toAsciiLowercase d.platform = "android".toList then
    d.endpointChannel = .gcm
  else if toAsciiLowercase d.platform = "ios".toList then
    d.endpointChannel = .gcm || d.endpointChannel = .apns || d.endpointChannel = .apnsSandbox
  else false

/-- What went wrong with one publish.
SRC: sns/models.rs:139-150 -/
inductive SnsError where
  | invalidEndpoint (detail : String)
  | throttled
  | authError (detail : String)
  | platformDisabled (detail : String)
  | networkError (detail : String)
  | unknown (detail : String)
deriving DecidableEq, Repr

/-- Only what is transient deserves another try.
SRC: sns/models.rs:152-157 -/
def SnsError.isRetryable : SnsError → Bool
  | .throttled | .networkError _ => true
  | _ => false

end AlertDistributor.Model
