/-!
# Version
-/

namespace OffloadCodec.Version

def major : Nat := 0
def minor : Nat := 1
def release : Nat := 0

/-- The version as one number, two decimal digits for each part. -/
def number : Nat := major * 100 * 100 + minor * 100 + release

def text : String := toString major ++ "." ++ toString minor ++ "." ++ toString release

/-- The line that is printed on request. -/
def line : String := "qatcodec " ++ text ++ "\n"

end OffloadCodec.Version
