import AlertDistributor.Model.SnsModels

/-!
# Alert events

The event of `models/alert_event.rs` and the message that a WebSocket client gets for it.
The JSON of the payload and the time stamp are passed on as they come, so their types are
parameters.
-/

set_option autoImplicit false

namespace AlertDistributor.Model

/-- SRC: models/alert_event.rs:6-19 -/
structure AlertEvent (Json Time : Type) where
  id : Uuid
  organizationId : OrganizationId
  unitId : String
  unitName : Option String
  ruleId : Uuid
  sourceType : String
  sourceId : Uuid
  alertType : String
  alertName : Option String
  payload : Json
  occurredAt : Time

/-- `char::is_whitespace`: the Unicode property `White_Space`. -/
def isWhitespace (c : Char) : Bool :=
  let n := c.toNat
  (0x9 ≤ n && n ≤ 0xD) || n = 0x20 || n = 0x85 || n = 0xA0 || n = 0x1680 ||
    (0x2000 ≤ n && n ≤ 0x200A) || n = 0x2028 || n = 0x2029 || n = 0x202F || n = 0x205F ||
    n = 0x3000

/-- `str::trim`. -/
def trim (s : String) : String :=
  String.ofList ((s.toList.dropWhile isWhitespace).reverse.dropWhile isWhitespace).reverse

namespace AlertEvent

variable {Json Time : Type}

/-- SRC: models/alert_event.rs:22-29 -/
def notificationTitle (event : AlertEvent Json Time) : String :=
  ((event.alertName.map trim).filter fun value => !value.isEmpty).getD event.alertType

/-- SRC: models/alert_event.rs:31-38 -/
def notificationBody (event : AlertEvent Json Time) : String :=
  ((event.unitName.map trim).filter fun value => !value.isEmpty).getD ""

end AlertEvent

/-- What a WebSocket client gets for an alert.
SRC: websocket/dispatcher.rs:14-23 -/
structure ClientAlertMessage (Json Time : Type) where
  messageType : String
  unitId : String
  title : String
  body : String
  data : Json
  occurredAt : Time

/-- SRC: websocket/dispatcher.rs:41-48 -/
def ClientAlertMessage.ofEvent {Json Time : Type} (event : AlertEvent Json Time) :
    ClientAlertMessage Json Time where
  messageType := "alert"
  unitId := event.unitId
  title := event.notificationTitle
  body := event.notificationBody
  data := event.payload
  occurredAt := event.occurredAt

end AlertDistributor.Model
