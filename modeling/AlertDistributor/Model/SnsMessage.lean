import AlertDistributor.Library.JsonText
import AlertDistributor.Model.SnsClient

/-!
# The message of a push

What `process_sns_delivery` publishes for an alert: its title and body, and the JSON text that
SNS takes apart, with one entry for each platform that is itself the JSON text of that
platform's message.  The printing and the parsing of JSON are those of `serde_json`, and
`str::to_lowercase` is that of Unicode; they stand as parameters.
-/

set_option autoImplicit false

namespace AlertDistributor.Model

open JsonText

/-- `serde_json`: what it prints it reads back. -/
structure JsonCodec where
  toString : Value → String
  fromStr : String → Option Value
  fromStr_toString : ∀ v, v.Canonical → fromStr (toString v) = some v

/-! ## The title -/

namespace AlertEvent

variable {Json Time : Type} (toLowercase : String → String) (event : AlertEvent Json Time)

/-- SRC: models/alert_event.rs:62-73 -/
def matchesAlertKeyword (keywords : List String) : Bool :=
  let alertType := toLowercase event.alertType
  let alertName := toLowercase (event.alertName.getD "")
  keywords.any fun keyword =>
    strContains alertType.toList keyword.toList || strContains alertName.toList keyword.toList

/-- SRC: models/alert_event.rs:54-56 -/
def isGeofenceAlert : Bool :=
  event.matchesAlertKeyword toLowercase ["geocerca", "geofence"]

/-- SRC: models/alert_event.rs:58-60 -/
def isIgnitionAlert : Bool :=
  event.matchesAlertKeyword toLowercase ["ignicion", "ignición", "ignition", "engine", "motor"]

/-- SRC: models/alert_event.rs:40-52 -/
def snsNotificationTitle : String :=
  let title := event.notificationTitle
  if event.isGeofenceAlert toLowercase then "📍 " ++ title
  else if event.isIgnitionAlert toLowercase then "⏻ " ++ title
  else title

end AlertEvent

/-! ## The payload -/

/-- SRC: sns/models.rs:55-59 -/
structure SnsMessage where
  body : String
  title : String
deriving DecidableEq, Repr

namespace SnsMessage

/-- SRC: sns/models.rs:62-67 -/
def new (title body : String) : SnsMessage :=
  ⟨body, title⟩

variable (message : SnsMessage)

/-- SRC: sns/models.rs:72-83 -/
def apnsPayload : Value :=
  .ofFields [
    ("aps", .ofFields [
      ("alert", .ofFields [
        ("title", .string message.title),
        ("body", .string message.body)]),
      ("sound", .string "alert_default.caf"),
      ("content-available", .number 1)])]

/-- SRC: sns/models.rs:85-124 -/
def gcmPayload : Value :=
  .ofFields [
    ("fcmV1Message", .ofFields [
      ("message", .ofFields [
        ("notification", .ofFields [
          ("title", .string message.title),
          ("body", .string message.body)]),
        ("data", .ofFields [
          ("message", .string message.body),
          ("title", .string message.title)]),
        ("android", .ofFields [
          ("priority", .string "HIGH"),
          ("notification", .ofFields [
            ("sound", .string "alert_default.caf"),
            ("click_action", .string "TOP_STORY_NOTIFICATION")])]),
        ("apns", .ofFields [
          ("headers", .ofFields [
            ("apns-priority", .string "10")]),
          ("payload", .ofFields [
            ("aps", .ofFields [
              ("alert", .ofFields [
                ("title", .string message.title),
                ("body", .string message.body)]),
              ("content-available", .number 1),
              ("sound", .string "alert_default.caf")])])])])])]

/-- SRC: sns/models.rs:126-133 -/
def snsPayload (codec : JsonCodec) : Value :=
  .ofFields [
    ("default", .string "alert"),
    ("APNS", .string (codec.toString message.apnsPayload)),
    ("APNS_SANDBOX", .string (codec.toString message.apnsPayload)),
    ("GCM", .string (codec.toString message.gcmPayload))]

/-- SRC: sns/models.rs:69-136 -/
def toJsonPayload (codec : JsonCodec) : String :=
  codec.toString (message.snsPayload codec)

end SnsMessage

/-- What is published for an alert.
SRC: main.rs:241-242 -/
def payloadOf {Json Time : Type} (codec : JsonCodec) (toLowercase : String → String)
    (event : AlertEvent Json Time) : String :=
  (SnsMessage.new (event.snsNotificationTitle toLowercase) event.notificationBody).toJsonPayload
    codec

end AlertDistributor.Model
