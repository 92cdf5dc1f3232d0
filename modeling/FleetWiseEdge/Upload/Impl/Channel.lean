import FleetWiseEdge.Upload.Impl.PayloadManager

namespace OffboardConnectivity

open PersistencyManagement

def AWS_IOT_MAX_MESSAGE_SIZE : Nat := 131072

structure Connectivity where
  isAlive : Bool
  currentMemoryUsage : Nat
  deriving DecidableEq, Repr

/--
`sends` counts the calls of `send`, and `stored` records the payloads that `storeData` has stored for it.
-/
structure AwsIotChannel where
  mTopicName : String
  mMaximumIotSDKHeapMemoryBytes : Nat
  mPayloadManager : Bool := true
  persistency : CacheAndPersist
  sends : Nat := 0
  stored : List Bytes := []
  deriving DecidableEq, Repr

namespace AwsIotChannel

def isTopicValid (channel : AwsIotChannel) : Bool := channel.mTopicName ≠ ""

def getMaxSendSize : Nat := AWS_IOT_MAX_MESSAGE_SIZE

section Send

variable (snappy : Snappy) (access : FileAccess) (connectivity : Nat → Connectivity)

def storeData (channel : AwsIotChannel) (buf : Bytes) (collectionSchemeParams : CollectionSchemeParams)
    : AwsIotChannel :=
  if channel.mPayloadManager then
    let (persistency, isDataPersisted) :=
      PayloadManager.storeData snappy channel.persistency access buf collectionSchemeParams
    { channel with
      persistency
      stored := if isDataPersisted then channel.stored ++ [buf] else channel.stored }
  else
    channel

def sendWith (found : Connectivity) (channel : AwsIotChannel) (buf : Bytes)
    (collectionSchemeParams : CollectionSchemeParams)
    : AwsIotChannel × ConnectivityError :=
  if !channel.isTopicValid then
    (channel, .NotConfigured)
  else if buf.length = 0 then
    (channel, .WrongInputData)
  else if buf.length > getMaxSendSize then
    (channel, .WrongInputData)
  else if !found.isAlive then
    (channel.storeData snappy access buf collectionSchemeParams, .NoConnection)
  else if
    channel.mMaximumIotSDKHeapMemoryBytes ≠ 0
      ∧ found.currentMemoryUsage > channel.mMaximumIotSDKHeapMemoryBytes
  then
    (channel.storeData snappy access buf collectionSchemeParams, .QuotaReached)
  else
    (channel, .Success)

def send (channel : AwsIotChannel) (buf : Bytes) (collectionSchemeParams : CollectionSchemeParams)
    : AwsIotChannel × ConnectivityError :=
  sendWith snappy access (connectivity channel.sends) { channel with sends := channel.sends + 1 } buf
    collectionSchemeParams

def sender : ISender AwsIotChannel where
  send := send snappy access connectivity

end Send

end AwsIotChannel

end OffboardConnectivity
