/-!
# Diagnostics

What the program writes to the two output channels. Diagnostics have a level and are written only
while the display level reaches it: 0 is silent, 1 errors only, 2 normal, 3 informative, 4 verbose.
-/

namespace OffloadCodec

structure Console where
  level : Nat := 2
  /-- Diagnostics, in the order in which they were written. -/
  errors : List String := []
  /-- Report output, in the order in which it was written. -/
  output : List String := []
deriving DecidableEq, Repr

namespace Console

/-- Writes a diagnostic, whatever the level. -/
def warn (console : Console) (text : String) : Console :=
  { console with errors := console.errors ++ [text] }

/-- Writes a diagnostic if the display level reaches `level`. -/
def say (console : Console) (level : Nat) (text : String) : Console :=
  if level ≤ console.level then console.warn text else console

/-- Writes report output. -/
def report (console : Console) (text : String) : Console :=
  { console with output := console.output ++ [text] }

def errorText (console : Console) : String := String.join console.errors
def outputText (console : Console) : String := String.join console.output

end Console

end OffloadCodec
