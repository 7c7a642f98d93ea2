import Mathlib.Algebra.Group.Nat.Defs

/-!
# The configuration

`AppConfig::from_env` of `config/mod.rs`: what is read from the environment, in the order in
which it is read, what each setting defaults to, and the error of the first setting that is
missing or does not parse.  The only check across settings is that the heartbeat timeout is
longer than the heartbeat interval.
-/

set_option autoImplicit false

namespace AlertDistributor.Model

/-- The errors of `from_env`, with the name of the variable.
SRC: errors/mod.rs:5-11 -/
inductive AppError where
  | missingEnvVar (name : String)
  | invalidEnvVar (name : String)
deriving DecidableEq, Repr

/-- `env::var(name).ok()` for each name: a variable that is not set, or not Unicode, is
`none`. -/
abbrev Environment := String → Option String

/-! ## Parsing a setting -/

/-- `char::to_digit(10)`. -/
def toDigit (c : Char) : Option ℕ :=
  if c.isDigit then some (c.toNat - '0'.toNat) else none

/-- The digits of an unsigned integer of `bits` bits, after those that made `value`.  A
character that is no digit and an overflow are errors. -/
def readDigits (bits value : ℕ) : List Char → Option ℕ
  | [] => some value
  | c :: cs =>
    match toDigit c with
    | none => none
    | some digit =>
      if 10 * value + digit < 2 ^ bits then readDigits bits (10 * value + digit) cs else none

/-- `str::parse` for the unsigned integer types: one `+` may stand before the digits, and
there is at least one digit. -/
def parseUnsigned (bits : ℕ) (s : String) : Option ℕ :=
  match s.toList with
  | [] => none
  | ['+'] => none
  | '+' :: digits => readDigits bits 0 digits
  | digits => readDigits bits 0 digits

def parseU16 (s : String) : Option UInt16 :=
  (parseUnsigned 16 s).map UInt16.ofNat

def parseU32 (s : String) : Option UInt32 :=
  (parseUnsigned 32 s).map UInt32.ofNat

/-- For `u64`, and for `usize` on the 64-bit machines that the service is built for. -/
def parseU64 (s : String) : Option UInt64 :=
  (parseUnsigned 64 s).map UInt64.ofNat

/-- `str::parse::<bool>`. -/
def parseBool (s : String) : Option Bool :=
  if s = "true" then some true
  else if s = "false" then some false
  else none

/-- `replace("\\n", "\n")`: a backslash and an `n` become a line break. -/
def replaceNewlines : List Char → List Char
  | '\\' :: 'n' :: cs => '\n' :: replaceNewlines cs
  | c :: cs => c :: replaceNewlines cs
  | [] => []

/-! ## Reading the environment -/

/-- SRC: config/mod.rs:107-109 -/
def getRequiredVar (env : Environment) (name : String) : Except AppError String :=
  match env name with
  | some value => .ok value
  | none => .error (.missingEnvVar name)

/-- SRC: config/mod.rs:111-113 -/
def getOptionalVar (env : Environment) (name : String) : Option String :=
  env name

/-- `value.parse().map_err(|_| AppError::InvalidEnvVar(name))`. -/
def parseVar {α : Type} (parse : String → Option α) (name value : String) : Except AppError α :=
  match parse value with
  | some parsed => .ok parsed
  | none => .error (.invalidEnvVar name)

/-- SRC: config/mod.rs:5-31 -/
structure AppConfig where
  dbHost : String
  dbUser : String
  dbPassword : String
  dbPort : UInt16
  dbName : String
  kafkaBrokers : String
  kafkaTopic : String
  kafkaGroupId : String
  kafkaControlPlaneTopic : String
  rustLog : String
  kafkaSaslMechanism : String
  kafkaUsername : String
  kafkaPassword : String
  kafkaSecurityProtocol : String
  wsBindAddr : String
  wsChannelCapacity : UInt64
  wsHeartbeatIntervalSecs : UInt64
  wsHeartbeatTimeoutSecs : UInt64
  jwtPublicKeyPem : String
  awsRegion : String
  snsEnabled : Bool
  snsRetryCount : UInt32
  snsBatchTimeoutMs : UInt64
deriving DecidableEq, Repr

/-- The settings of the heartbeat, and the one check across two settings.
SRC: config/mod.rs:43-57 -/
def heartbeatFromEnv (env : Environment) : Except AppError (UInt64 × UInt64) := do
  let interval ← parseVar parseU64 "WS_HEARTBEAT_INTERVAL_SECS"
    ((getOptionalVar env "WS_HEARTBEAT_INTERVAL_SECS").getD "30")
  let timeout ← parseVar parseU64 "WS_HEARTBEAT_TIMEOUT_SECS"
    ((getOptionalVar env "WS_HEARTBEAT_TIMEOUT_SECS").getD "60")
  if timeout ≤ interval then
    throw (.invalidEnvVar "WS_HEARTBEAT_TIMEOUT_SECS")
  return (interval, timeout)

/-- SRC: config/mod.rs:34-104 -/
def fromEnv (env : Environment) : Except AppError AppConfig := do
  let dbPort ← parseVar parseU16 "DB_PORT" (← getRequiredVar env "DB_PORT")
  let wsChannelCapacity ← parseVar parseU64 "WS_CHANNEL_CAPACITY"
    (← getRequiredVar env "WS_CHANNEL_CAPACITY")
  let (wsHeartbeatIntervalSecs, wsHeartbeatTimeoutSecs) ← heartbeatFromEnv env
  let pem ← getRequiredVar env "JWT_PUBLIC_KEY_PEM"
  let snsEnabled ← parseVar parseBool "SNS_ENABLED"
    ((getOptionalVar env "SNS_ENABLED").getD "false")
  let snsRetryCount ← parseVar parseU32 "SNS_RETRY_COUNT"
    ((getOptionalVar env "SNS_RETRY_COUNT").getD "3")
  let snsBatchTimeoutMs ← parseVar parseU64 "SNS_BATCH_TIMEOUT_MS"
    ((getOptionalVar env "SNS_BATCH_TIMEOUT_MS").getD "100")
  return {
    dbHost := ← getRequiredVar env "DB_HOST"
    dbUser := ← getRequiredVar env "DB_USER"
    dbPassword := ← getRequiredVar env "DB_PASSWORD"
    dbPort
    dbName := ← getRequiredVar env "DB_NAME"
    kafkaBrokers := ← getRequiredVar env "KAFKA_BROKERS"
    kafkaTopic := ← getRequiredVar env "KAFKA_TOPIC"
    kafkaGroupId := ← getRequiredVar env "KAFKA_GROUP_ID"
    kafkaControlPlaneTopic :=
      (getOptionalVar env "KAFKA_CONTROL_PLANE_TOPIC").getD "control-plane-events"
    rustLog := ← getRequiredVar env "RUST_LOG"
    kafkaSaslMechanism := ← getRequiredVar env "KAFKA_SASL_MECHANISM"
    kafkaUsername := ← getRequiredVar env "KAFKA_USERNAME"
    kafkaPassword := ← getRequiredVar env "KAFKA_PASSWORD"
    kafkaSecurityProtocol := ← getRequiredVar env "KAFKA_SECURITY_PROTOCOL"
    wsBindAddr := ← getRequiredVar env "WS_BIND_ADDR"
    wsChannelCapacity
    wsHeartbeatIntervalSecs
    wsHeartbeatTimeoutSecs
    jwtPublicKeyPem := String.ofList (replaceNewlines pem.toList)
    awsRegion := (getOptionalVar env "AWS_REGION").getD "us-east-1"
    snsEnabled
    snsRetryCount
    snsBatchTimeoutMs }

end AlertDistributor.Model
