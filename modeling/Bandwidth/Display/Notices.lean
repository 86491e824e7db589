import Bandwidth.Display.Results

/-!
# Notices

What is shown besides the results of a run: the sizes of its arrays, the devices there are, and the checks that failed.
-/

namespace Bandwidth

namespace ByteUnit

/-- The bytes of the unit for small sizes and of the one for large sizes. -/
def scales : ByteUnit → Float × Float
  | megabytes => (1.0e6, 1.0e9)
  | mebibytes => (1048576.0, 1073741824.0)

/-- The symbols of the unit for small sizes and of the one for large sizes. -/
def symbols : ByteUnit → String × String
  | megabytes => ("MB", "GB")
  | mebibytes => ("MiB", "GiB")

end ByteUnit

namespace Display

def size (unit : ByteUnit) (bytes : Float) : String :=
  let (small, large) := unit.scales
  let (smallSymbol, largeSymbol) := unit.symbols
  fixed 1 (bytes / small) ++ " " ++ smallSymbol ++ " (=" ++ fixed 1 (bytes / large) ++ " " ++ largeSymbol ++ ")"

def sizes (arraySize elementBytes : Nat) (unit : ByteUnit) : List String :=
  let arrayBytes : Float := Measure.ofWord arraySize * Measure.ofWord elementBytes
  ["Array size: " ++ size unit arrayBytes, "Total size: " ++ size unit (3.0 * arrayBytes)]

def deviceLine (style : Style) (device : Description) : String :=
  let memory := fixed 1 (Measure.ofWord device.memory / 1073741824.0)
  s!"{device.index}: " ++ style.paint .bright device.name ++ " " ++
    style.paint .faint (s!"({device.units} compute units, " ++ memory ++ " GiB)")

def devices (style : Style) (devices : List Description) : List String :=
  if devices.isEmpty then
    [style.paint .warning "No devices found."]
  else
    ["Devices:", ""] ++ devices.map (deviceLine style) ++ [""]

def scientific (error : Float) : String :=
  Decimal.scientificLayout.write (.ofDouble error)

def roleName : Role → String
  | .a => "a"
  | .b => "b"
  | .c => "c"

def shortfall : Shortfall Float → String
  | .array role error => s!"Validation failed on {roleName role}[]. Average error " ++ scientific error
  | .dot error => "Validation failed on sum. Error " ++ scientific error

end Display

end Bandwidth
