import FleetWiseEdge.Types.Upload

/-!
This module contains `CacheAndPersist`, which keeps three documents in files of limited total size.
-/

namespace PersistencyManagement

def INVALID_FILE_SIZE : Nat := 2 ^ 64 - 1

/--
How the operating system deals with the access to a file. A failed access may have moved some bytes.
-/
inductive FileAccess where
  | good
  | notOpen
  | failed (moved : Nat)
  deriving DecidableEq, Repr

structure CacheAndPersist where
  mDecoderManifestFile : Bytes := []
  mCollectionSchemeListFile : Bytes := []
  mCollectedDataFile : Bytes := []
  mMaxPersistencePartitionSize : { size : Nat // size < 2 ^ 64 }
  deriving DecidableEq, Repr

namespace CacheAndPersist

def file? (persistency : CacheAndPersist) (dataType : DataType) : Option Bytes :=
  match dataType with
  | .COLLECTION_SCHEME_LIST => some persistency.mCollectionSchemeListFile
  | .DECODER_MANIFEST => some persistency.mDecoderManifestFile
  | .EDGE_TO_CLOUD_PAYLOAD => some persistency.mCollectedDataFile
  | .DEFAULT_DATA_TYPE => none

def setFile (persistency : CacheAndPersist) (dataType : DataType) (content : Bytes) : CacheAndPersist :=
  match dataType with
  | .COLLECTION_SCHEME_LIST => { persistency with mCollectionSchemeListFile := content }
  | .DECODER_MANIFEST => { persistency with mDecoderManifestFile := content }
  | .EDGE_TO_CLOUD_PAYLOAD => { persistency with mCollectedDataFile := content }
  | .DEFAULT_DATA_TYPE => persistency

def getSize (persistency : CacheAndPersist) (dataType : DataType) : Nat :=
  match persistency.file? dataType with
  | none => INVALID_FILE_SIZE
  | some content => content.length

def write (persistency : CacheAndPersist) (access : FileAccess) (buf : Bytes) (dataType : DataType)
    : CacheAndPersist × ErrorCode :=
  if
    persistency.getSize .COLLECTION_SCHEME_LIST + persistency.getSize .DECODER_MANIFEST
      + persistency.getSize .EDGE_TO_CLOUD_PAYLOAD + buf.length
    ≥ persistency.mMaxPersistencePartitionSize
  then
    (persistency, .MEMORY_FULL)
  else
    match persistency.file? dataType with
    | none => (persistency, .INVALID_DATATYPE)
    | some content =>
      -- payloads are appended, the other documents are overwritten
      let kept := if dataType = .EDGE_TO_CLOUD_PAYLOAD then content else []
      match access with
      | .notOpen => (persistency, .FILESYSTEM_ERROR)
      | .failed moved => (persistency.setFile dataType (kept ++ buf.take moved), .FILESYSTEM_ERROR)
      | .good => (persistency.setFile dataType (kept ++ buf), .SUCCESS)

def writePointer (persistency : CacheAndPersist) (access : FileAccess) (bufPtr : Option Bytes)
    (dataType : DataType)
    : CacheAndPersist × ErrorCode :=
  match bufPtr with
  | none => (persistency, .INVALID_DATA)
  | some buf => persistency.write access buf dataType

def read (persistency : CacheAndPersist) (access : FileAccess) (size : Nat) (dataType : DataType)
    : ErrorCode × Bytes :=
  match persistency.file? dataType with
  | none => (.INVALID_DATATYPE, [])
  | some content =>
    let fileSize := min persistency.mMaxPersistencePartitionSize.val (persistency.getSize dataType)
    match access with
    | .notOpen => (.FILESYSTEM_ERROR, [])
    | .failed moved =>
      if fileSize = 0 then
        (.EMPTY, [])
      else
        (.FILESYSTEM_ERROR, content.take (min moved (min size fileSize)))
    | .good => if fileSize = 0 then (.EMPTY, []) else (.SUCCESS, content.take (min size fileSize))

def erase (persistency : CacheAndPersist) (access : FileAccess) (dataType : DataType)
    : CacheAndPersist × ErrorCode :=
  match persistency.file? dataType with
  | none => (persistency, .INVALID_DATATYPE)
  | some _ =>
    match access with
    | .notOpen => (persistency, .FILESYSTEM_ERROR)
    -- the file is empty as soon as it is open
    | _ => (persistency.setFile dataType [], .SUCCESS)

end CacheAndPersist

end PersistencyManagement
