import FleetWiseEdge.Types.Inspection

namespace DataInspection

open Cpp DataManagement

namespace Geohash

def MAX_PRECISION : Nat := 9

def BASE32_BITS : Nat := 5

def base32Map : List Char :=
  ['0', '1', '2', '3', '4', '5', '6', '7', '8', '9', 'b', 'c', 'd', 'e', 'f', 'g',
   'h', 'j', 'k', 'm', 'n', 'p', 'q', 'r', 's', 't', 'u', 'v', 'w', 'x', 'y', 'z']

variable {V : Type} [InspectionValue V]

def LAT_MIN : V := InspectionValue.sub (InspectionValue.ofNat 0) (InspectionValue.ofNat 90)
def LAT_MAX : V := InspectionValue.ofNat 90
def LON_MIN : V := InspectionValue.sub (InspectionValue.ofNat 0) (InspectionValue.ofNat 180)
def LON_MAX : V := InspectionValue.ofNat 180

def invalidInput (lat lon : V) (precision : Nat) : Bool :=
  precision > MAX_PRECISION
    || InspectionValue.lt lat LAT_MIN || InspectionValue.lt LAT_MAX lat
    || InspectionValue.lt lon LON_MIN || InspectionValue.lt LON_MAX lon

structure Cell (V : Type) where
  latLow : V
  latHigh : V
  lonLow : V
  lonHigh : V
  hashBits : Nat
  isLonBit : Bool

def mid (low high : V) : V :=
  InspectionValue.add low
    (InspectionValue.div (InspectionValue.sub high low) (InspectionValue.ofNat 2))

def Cell.halve (lat lon : V) (cell : Cell V) : Cell V :=
  let cell' :=
    if cell.isLonBit then
      let lonMid := mid cell.lonLow cell.lonHigh
      if InspectionValue.le lonMid lon then
        { cell with hashBits := u64 (cell.hashBits * 2) + 1, lonLow := lonMid }
      else
        { cell with hashBits := u64 (cell.hashBits * 2), lonHigh := lonMid }
    else
      let latMid := mid cell.latLow cell.latHigh
      if InspectionValue.le latMid lat then
        { cell with hashBits := u64 (cell.hashBits * 2) + 1, latLow := latMid }
      else
        { cell with hashBits := u64 (cell.hashBits * 2), latHigh := latMid }
  { cell' with isLonBit := !cell.isLonBit }

def Cell.world : Cell V where
  latLow := LAT_MIN
  latHigh := LAT_MAX
  lonLow := LON_MIN
  lonHigh := LON_MAX
  hashBits := 0
  isLonBit := true

def encodeBits (lat lon : V) (precision : Nat) : Option Nat :=
  if invalidInput lat lon precision then
    none
  else
    some ((Cell.halve lat lon)^[precision * BASE32_BITS] Cell.world).hashBits

def encode (lat lon : V) (precision : Nat) : Option String := do
  let hashBits ← encodeBits lat lon precision
  let char (i : Nat) : Char :=
    base32Map.getD ((hashBits >>> ((precision - 1 - i) * BASE32_BITS)) &&& 0x1F) '0'
  return String.ofList ((List.range precision).map char)

end Geohash

structure GeohashFunctionNode where
  mGeohashInfo : GeohashInfo := {}
  mIsGeohashNew : Bool := false
  deriving DecidableEq, Repr

namespace GeohashFunctionNode

variable {V : Type} [InspectionValue V]

def convertToDecimalDegree (value : V) (gpsUnitType : GPSUnitType) : V :=
  match gpsUnitType with
  | .DECIMAL_DEGREE => value
  | .MICROARCSECOND => InspectionValue.div value (InspectionValue.ofNat 3600000000)
  | .MILLIARCSECOND => InspectionValue.div value (InspectionValue.ofNat 3600000)
  | .ARCSECOND => InspectionValue.div value (InspectionValue.ofNat 3600)

def evaluateGeohash (node : GeohashFunctionNode) (latitude longitude : V) (precision : Nat)
    (gpsUnitType : GPSUnitType)
    : GeohashFunctionNode :=
  let latitude := convertToDecimalDegree latitude gpsUnitType
  let longitude := convertToDecimalDegree longitude gpsUnitType
  let precision := min precision Geohash.MAX_PRECISION
  match Geohash.encode latitude longitude Geohash.MAX_PRECISION with
  | some currentGeohashString =>
    let previous := node.mGeohashInfo.mGeohashString
    let isNew :=
      if previous.length ≥ precision && currentGeohashString.length ≥ precision then
        currentGeohashString.toList.take precision ≠ previous.toList.take precision
      else
        previous.length = 0
    { mGeohashInfo := { node.mGeohashInfo with mGeohashString := currentGeohashString }
      mIsGeohashNew := isNew }
  | none => { node with mIsGeohashNew := false }

def hasNewGeohash (node : GeohashFunctionNode) : Bool := node.mIsGeohashNew

/--
The node after the geohash was read out. The geohash that is handed out is the `mGeohashInfo` from
before.
-/
def consumeGeohash (node : GeohashFunctionNode) : GeohashFunctionNode where
  mGeohashInfo :=
    { node.mGeohashInfo with mPrevReportedGeohashString := node.mGeohashInfo.mGeohashString }
  mIsGeohashNew := false

end GeohashFunctionNode

end DataInspection
