import AlertDistributor.Model.SnsModels

/-!
# Authentication

`websocket/auth.rs`: what is made of the `Authorization` header of a WebSocket client.  The
decoding of a token, which checks its signature and looks at the clock, and the parsing of a
UUID are those of their crates and stand as parameters.
-/

set_option autoImplicit false

namespace AlertDistributor.Model

/-- The errors of the authentication.
SRC: errors/mod.rs:22-29 -/
inductive AuthError where
  | jwt (message : String)
  | invalidUuid (value : String)
deriving DecidableEq, Repr

/-- SRC: websocket/auth.rs:8-12 -/
structure AuthContext where
  userId : UserId
  organizationId : OrganizationId
deriving DecidableEq

/-- SRC: websocket/auth.rs:14-20 -/
structure JwtClaims where
  sub : Option String
  userId : Option String
  organizationId : Option String
  exp : UInt64
deriving DecidableEq, Repr

/-- `decode` of a token at some time, with the public key and the RS256 validation, and
`Uuid::parse_str`.
SRC: websocket/auth.rs:22-38 -/
structure JwtValidator where
  decode : ℕ → String → Except String JwtClaims
  parseUuid : String → Option Uuid

/-- `str::strip_prefix`. -/
def stripPrefix (pattern s : String) : Option String :=
  if pattern.toList <+: s.toList then
    some (String.ofList (s.toList.drop pattern.toList.length))
  else none

/-- `Option::ok_or_else`. -/
def okOr {α : Type} (error : AuthError) : Option α → Except AuthError α
  | some a => .ok a
  | none => .error error

namespace JwtValidator

/-- The token behind `Bearer` or `bearer` names a user, by `user_id` or else by `sub`, and an
organization.
SRC: websocket/auth.rs:40-72 -/
def validateBearer (validator : JwtValidator) (now : ℕ) (bearer : String) :
    Except AuthError AuthContext := do
  let token ← okOr (.jwt "missing Bearer token prefix")
    ((stripPrefix "Bearer " bearer).or (stripPrefix "bearer " bearer))
  let claims ← (validator.decode now token).mapError .jwt
  let userId ← okOr (.jwt "missing user_id claim") (claims.userId.or claims.sub)
  let organizationId ← okOr (.jwt "missing organization_id claim") claims.organizationId
  let userId ← okOr (.invalidUuid "user_id claim") (validator.parseUuid userId)
  let organizationId ← okOr (.invalidUuid "organization_id claim")
    (validator.parseUuid organizationId)
  return { userId, organizationId }

end JwtValidator

end AlertDistributor.Model
