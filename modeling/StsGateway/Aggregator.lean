import StsGateway.Storage.Sqlite

namespace StsGateway

/-! `aggregator.rs` and the sending half of `transport.rs`. -/

/-- `serde_json` on the two shapes the aggregator encodes: `json!({name: value}).to_string()`,
and reading such a text back. -/
structure SerdeJson where
  timeseries : String → List OneTelemetry → String
  attributes : String → HashMap String String → String
  readTimeseries : String → Option TimeseriesMessage
  readAttributes : String → Option AttributeMessage

structure Stamped where
  ts : Int
  attributes : AttributeMessage
  timeseries : TimeseriesMessage
deriving DecidableEq

namespace Stamped

variable (json : SerdeJson) (item : Stamped)

def action : AggregatorAction := .sendBoth item.attributes item.timeseries

/-- Taken from the timeseries; the name inside the attributes is dropped. -/
def deviceName : String := item.timeseries.1

def timeseriesMessage : String := json.timeseries item.deviceName item.timeseries.2

def attributesMessage : String := json.attributes item.deviceName item.attributes.2

def insert : Insert where
  ts := item.ts
  deviceName := item.deviceName
  timeseriesMessage := some (item.timeseriesMessage json)
  attributesMessage := some (item.attributesMessage json)

def transportActions : List TransportAction :=
  [.sendTimeseries (item.timeseriesMessage json), .sendAttributes (item.attributesMessage json)]

def row : Row where
  ts := item.ts
  deviceName := item.deviceName
  timeseriesMessage := item.timeseriesMessage json
  attributesMessage := item.attributesMessage json

theorem insert_row : (item.insert json).row = .ok (item.row json) := rfl

end Stamped

inductive AggregatorPoint where
  | receiving
  | stamping (attributes : AttributeMessage) (timeseries : TimeseriesMessage)
  | sendingToStorage (item : Stamped)
  | sendingTimeseries (item : Stamped)
  | sendingAttributes (item : Stamped)
deriving DecidableEq

namespace AggregatorPoint

def inHand : AggregatorPoint → List AggregatorAction
  | receiving => []
  | stamping attributes timeseries => [.sendBoth attributes timeseries]
  | sendingToStorage item | sendingTimeseries item | sendingAttributes item => [item.action]

def stored : AggregatorPoint → List Stamped
  | receiving | stamping _ _ | sendingToStorage _ => []
  | sendingTimeseries item | sendingAttributes item => [item]

def transported (json : SerdeJson) : AggregatorPoint → List TransportAction
  | sendingAttributes item => [.sendTimeseries (item.timeseriesMessage json)]
  | _ => []

end AggregatorPoint

structure MqttMessage where
  topic : String
  payload : ByteArray
  qos : Int

namespace MqttTransport

def tbDeviceAttributesTopic : String := "v1/gateway/attributes"
def tbDeviceTelemetriTopic : String := "v1/gateway/telemetry"

def qos (config : MqttConfig) : Int :=
  if config.qos = 0 then 0 else if config.qos = 1 then 1 else 2

/-- The message built for one received action; publishing it is attempted once. -/
def message (config : MqttConfig) : TransportAction → MqttMessage
  | .sendTimeseries telemetry => ⟨tbDeviceTelemetriTopic, telemetry.toUTF8, qos config⟩
  | .sendAttributes attributes => ⟨tbDeviceAttributesTopic, attributes.toUTF8, qos config⟩

end MqttTransport

end StsGateway
