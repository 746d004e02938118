import StsGateway.Time

namespace StsGateway

/-! `definitions.rs`: configuration and the messages the threads exchange. -/

structure OneTelemetry where
  ts : Int
  values : HashMap String String
deriving DecidableEq

abbrev AttributeMessage := String × HashMap String String

abbrev TimeseriesMessage := String × List OneTelemetry

inductive AggregatorAction where
  | sendBoth (attributes : AttributeMessage) (timeseries : TimeseriesMessage)
deriving DecidableEq

/-- The texts are JSON already. -/
inductive TransportAction where
  | sendTimeseries (message : String)
  | sendAttributes (message : String)
deriving DecidableEq

inductive StorageSizeManagement where
  | fixedWindow (messagesTtl : Int32)

inductive StorageBackupManagement where
  | local (backupFolder : String) (backupTtl : Int32)

inductive Storage where
  | sqlite (dataFolder : String) (sizeManagement : StorageSizeManagement)
      (backupManagement : StorageBackupManagement)

structure MqttConfig where
  qos : UInt8

structure MainConfig where
  name : String
  storage : Storage
  mqtt : MqttConfig

namespace Storage

def messagesTtl : Storage → Int32
  | .sqlite _ (.fixedWindow messagesTtl) _ => messagesTtl

def dataFolder : Storage → String
  | .sqlite dataFolder _ _ => dataFolder

def backupFolder : Storage → String
  | .sqlite _ _ (.local backupFolder _) => backupFolder

def backupTtl : Storage → Int32
  | .sqlite _ _ (.local _ backupTtl) => backupTtl

end Storage

end StsGateway
