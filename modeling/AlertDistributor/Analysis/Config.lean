import AlertDistributor.Model.Config

/-!
# The configurations that are accepted

What `from_env` promises of a configuration it returns is one inequality: the heartbeat
timeout is longer than the interval (`heartbeat_of_fromEnv`).  Nothing else is checked
beyond the width of a number: for every capacity, every retry count and every such pair of
durations there is an environment that is accepted with them (`fromEnv_exampleEnv`).
-/

set_option autoImplicit false

namespace AlertDistributor.Analysis

open AlertDistributor.Model

/-! ## What an accepted configuration promises -/

/-- A chain succeeds when every link does. -/
theorem bind_eq_ok_iff {ε α β : Type} {x : Except ε α} {f : α → Except ε β} {b : β} :
    (x >>= f) = .ok b ↔ ∃ a, x = .ok a ∧ f a = .ok b := by
  cases x with
  | error e => simp [bind, Except.bind]
  | ok a => simp [bind, Except.bind]

/-- An accepted timeout is longer than the interval. -/
theorem heartbeatFromEnv_lt {env : Environment} {interval timeout : UInt64}
    (h : heartbeatFromEnv env = .ok (interval, timeout)) : interval < timeout := by
  obtain ⟨interval', -, h⟩ := bind_eq_ok_iff.mp h
  obtain ⟨timeout', -, h⟩ := bind_eq_ok_iff.mp h
  by_cases hle : timeout' ≤ interval'
  · rw [if_pos hle] at h
    cases h
  · rw [if_neg hle] at h
    obtain ⟨rfl, rfl⟩ := Prod.mk.inj (Except.ok.inj h)
    exact UInt64.not_le.mp hle

/-- **The timeout of an accepted configuration is longer than its interval.**
SRC: config/mod.rs:53-57 -/
theorem heartbeat_of_fromEnv {env : Environment} {config : AppConfig}
    (h : fromEnv env = .ok config) :
    config.wsHeartbeatIntervalSecs < config.wsHeartbeatTimeoutSecs := by
  simp only [fromEnv, bind_eq_ok_iff] at h
  -- four binds before the heartbeat, then the settings behind it
  obtain ⟨_, -, _, -, _, -, _, -, ⟨interval, timeout⟩, hheartbeat, h⟩ := h
  obtain ⟨_, -, _, -, _, -, _, -, h⟩ := h
  obtain ⟨_, -, _, -, _, -, _, -, _, -, _, -, _, -, _, -, _, -, _, -, _, -, _, -, _, -, h⟩ := h
  obtain rfl := Except.ok.inj h
  exact heartbeatFromEnv_lt hheartbeat

/-! ## Numbers as text -/

/-- Digits are read as the number they write, if it fits the width. -/
theorem readDigits_eq {bits : ℕ} {digits : List Char} (hdigits : ∀ c ∈ digits, c.isDigit = true)
    {value : ℕ} (hfits : Nat.ofDigitChars 10 digits value < 2 ^ bits) :
    readDigits bits value digits = some (Nat.ofDigitChars 10 digits value) := by
  induction digits generalizing value with
  | nil => rw [readDigits, Nat.ofDigitChars_nil]
  | cons c cs ih =>
    rw [Nat.ofDigitChars_cons] at hfits ⊢
    have hgrows : 10 * value + (c.toNat - '0'.toNat) ≤
        Nat.ofDigitChars 10 cs (10 * value + (c.toNat - '0'.toNat)) := by
      rw [Nat.ofDigitChars_eq_ofDigitChars_zero]
      have hpow : 0 < 10 ^ cs.length := Nat.pow_pos (by omega)
      have hscaled := Nat.le_mul_of_pos_left (10 * value + (c.toNat - '0'.toNat)) hpow
      omega
    have hdigit : toDigit c = some (c.toNat - '0'.toNat) := if_pos (hdigits c (by simp))
    have hstep : 10 * value + (c.toNat - '0'.toNat) < 2 ^ bits := by omega
    rw [readDigits, hdigit]
    dsimp only
    rw [if_pos hstep]
    exact ih (fun d hd => hdigits d (by simp [hd])) hfits

/-- **A number that fits the width is parsed from its decimal form.** -/
theorem parseUnsigned_repr {bits n : ℕ} (h : n < 2 ^ bits) :
    parseUnsigned bits n.repr = some n := by
  have hdigits : ∀ c ∈ Nat.toDigits 10 n, c.isDigit = true := fun c hc =>
    Nat.isDigit_of_mem_toDigits (by omega) (by omega) hc
  have hread : readDigits bits 0 (Nat.toDigits 10 n) = some n := by
    have hvalue : Nat.ofDigitChars 10 (Nat.toDigits 10 n) 0 = n := Nat.ofDigitChars_ten_toDigits
    rw [readDigits_eq hdigits (by omega), hvalue]
  have hplus : '+'.isDigit ≠ true := by decide
  unfold parseUnsigned
  rw [Nat.toList_repr]
  split
  · rename_i hnil
    exact absurd hnil Nat.toDigits_ne_nil
  · rename_i hsign
    exact absurd (hdigits '+' (by rw [hsign]; simp)) hplus
  · rename_i digits _ hsign
    exact absurd (hdigits '+' (by rw [hsign]; simp)) hplus
  · exact hread

/-- A printed `u32` is parsed to itself. -/
theorem parseU32_repr (n : UInt32) : parseU32 n.toNat.repr = some n := by
  rw [parseU32, parseUnsigned_repr n.toNat_lt, Option.map_some, UInt32.ofNat_toNat]

/-- And so is a `u64`. -/
theorem parseU64_repr (n : UInt64) : parseU64 n.toNat.repr = some n := by
  rw [parseU64, parseUnsigned_repr n.toNat_lt, Option.map_some, UInt64.ofNat_toNat]

/-! ## An environment for every such choice -/

/-- The variables of the example file, with these four numbers. -/
def exampleEnv (capacity interval timeout : UInt64) (retries : UInt32) : Environment := fun name =>
  [("DB_HOST", "localhost"), ("DB_USER", "user"), ("DB_PASSWORD", "pass"), ("DB_PORT", "5432"),
    ("DB_NAME", "app_db"), ("KAFKA_BROKERS", "redpanda:9092"), ("KAFKA_TOPIC", "unit-alerts"),
    ("KAFKA_GROUP_ID", "alert-distributor"), ("RUST_LOG", "info"),
    ("KAFKA_SASL_MECHANISM", "SCRAM-SHA-256"), ("KAFKA_USERNAME", "siscom-live-consumer"),
    ("KAFKA_PASSWORD", "liveconsumerpassword"), ("KAFKA_SECURITY_PROTOCOL", "SASL_PLAINTEXT"),
    ("WS_BIND_ADDR", "0.0.0.0:8080"), ("WS_CHANNEL_CAPACITY", capacity.toNat.repr),
    ("WS_HEARTBEAT_INTERVAL_SECS", interval.toNat.repr),
    ("WS_HEARTBEAT_TIMEOUT_SECS", timeout.toNat.repr), ("JWT_PUBLIC_KEY_PEM", "pem"),
    ("SNS_RETRY_COUNT", retries.toNat.repr)].lookup name

/-- What `from_env` makes of it. -/
def exampleConfig (capacity interval timeout : UInt64) (retries : UInt32) : AppConfig where
  dbHost := "localhost"
  dbUser := "user"
  dbPassword := "pass"
  dbPort := 5432
  dbName := "app_db"
  kafkaBrokers := "redpanda:9092"
  kafkaTopic := "unit-alerts"
  kafkaGroupId := "alert-distributor"
  kafkaControlPlaneTopic := "control-plane-events"
  rustLog := "info"
  kafkaSaslMechanism := "SCRAM-SHA-256"
  kafkaUsername := "siscom-live-consumer"
  kafkaPassword := "liveconsumerpassword"
  kafkaSecurityProtocol := "SASL_PLAINTEXT"
  wsBindAddr := "0.0.0.0:8080"
  wsChannelCapacity := capacity
  wsHeartbeatIntervalSecs := interval
  wsHeartbeatTimeoutSecs := timeout
  jwtPublicKeyPem := "pem"
  awsRegion := "us-east-1"
  snsEnabled := false
  snsRetryCount := retries
  snsBatchTimeoutMs := 100

/-- **Every capacity, every retry count and every timeout longer than the interval is
accepted.** -/
theorem fromEnv_exampleEnv {capacity interval timeout : UInt64} {retries : UInt32}
    (h : interval < timeout) :
    fromEnv (exampleEnv capacity interval timeout retries) =
      .ok (exampleConfig capacity interval timeout retries) := by
  have hheartbeat : heartbeatFromEnv (exampleEnv capacity interval timeout retries) =
      .ok (interval, timeout) := by
    simp [heartbeatFromEnv, getOptionalVar, exampleEnv, List.lookup_cons, parseVar, parseU64_repr,
      UInt64.not_le.mpr h, bind, Except.bind, pure, Except.pure]
  have hport : parseU16 "5432" = some 5432 := by decide
  have hbatch : parseU64 "100" = some 100 := by decide
  simp only [fromEnv, hheartbeat]
  simp [getRequiredVar, getOptionalVar, exampleEnv, List.lookup_cons, parseVar, parseU64_repr,
    parseU32_repr, parseBool, hport, hbatch, replaceNewlines, exampleConfig, bind, Except.bind,
    pure, Except.pure]

end AlertDistributor.Analysis
