/-!
# Kinds of image faults
-/

namespace ScanBinder

/-- What sort of trouble stopped the work on an image. -/
inductive FaultKind where
  | decoding
  | encoding
  | parameter
  | limits
  | unsupported
  | io
deriving DecidableEq

end ScanBinder
