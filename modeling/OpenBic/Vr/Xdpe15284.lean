import OpenBic.Library.Hex

/-!
# The configuration of an XDPE15284

`xdpe15284.c`: the sections of a configuration, as the parser of an image file leaves them and the
programming of the device takes them.
-/

namespace OpenBic.Xdpe15284

def maxSectDataNum : Nat := 200

def maxSectNum : Nat := 16

/-- `struct config_sect`. `data_cnt` is the length of the list. -/
structure ConfigSect where
  type : UInt8
  data : List UInt32
  fits : data.length ≤ maxSectDataNum
deriving DecidableEq

/-- `struct xdpe15284_config`. `sect_cnt` is the length of the list. -/
structure Config where
  totalCnt : UInt16
  expCrc : UInt32
  sections : List ConfigSect
  fits : sections.length ≤ maxSectNum
deriving DecidableEq

end OpenBic.Xdpe15284
