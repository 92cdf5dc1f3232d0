import FleetWiseEdge.Lib.LittleEndian
import FleetWiseEdge.Upload.Impl.Persistency

/-!
This module contains `PayloadManager`, which stores payloads behind headers in one file and parses that file
again.
-/

namespace OffboardConnectivity

open PersistencyManagement

structure PayloadHeader where
  compressionRequired : Bool := false
  size : Nat := 0
  deriving DecidableEq, Repr

namespace PayloadHeader

def sizeof : Nat := 9

def toBytes (header : PayloadHeader) : Bytes :=
  (if header.compressionRequired then 1 else 0) :: LittleEndian.encode 8 header.size

def ofBytes (bytes : Bytes) : PayloadHeader where
  compressionRequired := bytes.headD 0 ≠ 0
  size := LittleEndian.decode (bytes.drop 1)

end PayloadHeader

namespace PayloadManager

variable (snappy : Snappy)

def preparePayload (size : Nat) (data : Bytes) (collectionSchemeParams : CollectionSchemeParams)
    : Option Bytes :=
  if size < data.length + PayloadHeader.sizeof then
    none
  else
    let payloadHdr : PayloadHeader :=
      { size := data.length, compressionRequired := collectionSchemeParams.compression }
    some (payloadHdr.toBytes ++ data)

-- Payloads are compressed in the file, also those that the collection scheme sends uncompressed.
def compressedData (payload : Bytes) (collectionSchemeParams : CollectionSchemeParams) : Bytes :=
  if collectionSchemeParams.compression then payload else snappy.Compress payload

def storeData (persistency : CacheAndPersist) (access : FileAccess) (payload : Bytes)
    (collectionSchemeParams : CollectionSchemeParams)
    : CacheAndPersist × Bool :=
  if collectionSchemeParams.persist then
    let compressedData := compressedData snappy payload collectionSchemeParams
    if !collectionSchemeParams.compression ∧ compressedData.length = 0 then
      (persistency, false)
    else
      let totalWriteSize := compressedData.length + PayloadHeader.sizeof
      match preparePayload totalWriteSize compressedData collectionSchemeParams with
      | none => (persistency, false)
      | some writeBuffer =>
        let (persistency, status) := persistency.write access writeBuffer .EDGE_TO_CLOUD_PAYLOAD
        (persistency, status = .SUCCESS)
  else
    (persistency, false)

def readBytes (readBuffer : Nat → UInt8) (pos count : Nat) : Bytes :=
  (List.range count).map fun i => readBuffer (pos + i)

/--
The loop over the headers. Each pass moves `pos` on, so that `readSize` passes are enough.
-/
def parse (readBuffer : Nat → UInt8) (readSize fuel pos : Nat) (data : List Bytes)
    : ErrorCode × List Bytes :=
  match fuel with
  | 0 => (.SUCCESS, data)
  | fuel + 1 =>
    if pos < readSize then
      let payloadHdr := PayloadHeader.ofBytes (readBytes readBuffer pos PayloadHeader.sizeof)
      let pos := pos + PayloadHeader.sizeof
      -- the inner loop stops at the end of the buffer
      let j := min payloadHdr.size (readSize - pos)
      let dataString := readBytes readBuffer pos j
      if payloadHdr.compressionRequired then
        parse readBuffer readSize fuel (pos + j) (data ++ [dataString])
      else
        match snappy.Uncompress dataString with
        | none => (.INVALID_DATA, data)
        | some payloadData => parse readBuffer readSize fuel (pos + j) (data ++ [payloadData])
    else
      (.SUCCESS, data)

/--
`memory` is what the buffer holds when it is allocated.
-/
def retrieveData (persistency : CacheAndPersist) (access : FileAccess) (memory : Nat → UInt8)
    : ErrorCode × List Bytes :=
  let readSize := persistency.getSize .EDGE_TO_CLOUD_PAYLOAD
  if readSize = 0 then
    (.EMPTY, [])
  else
    let (status, bytes) := persistency.read access readSize .EDGE_TO_CLOUD_PAYLOAD
    if status ≠ .SUCCESS then
      (status, [])
    else
      let readBuffer := fun i => bytes.getD i (memory i)
      parse snappy readBuffer readSize readSize 0 []

end PayloadManager

end OffboardConnectivity
