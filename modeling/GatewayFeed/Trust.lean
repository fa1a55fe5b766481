import GatewayFeed.Settings.Basic
import GatewayFeed.Trust.Certificate

/-!
Which control planes are trusted. Unless certificates are not checked at all, a file may name one
more authority to trust; then it must be there and hold a certificate.
-/

namespace GatewayFeed

/-- What stands under a path. -/
inductive FileState where
  | missing
  | directory
  /-- The path goes on behind a file. -/
  | behindFile
  /-- The path is no name at all, for it has a NUL in it. -/
  | unnamable
  | content (bytes : List UInt8)
  deriving DecidableEq, Repr

abbrev FileSystem := String → FileState

inductive TrustError where
  | unreadable (path reason : String)
  | invalid (path : String)
  deriving DecidableEq, Repr

def TrustError.message : TrustError → String
  | unreadable path reason => "failed to read CA bundle '" ++ path ++ "': " ++ reason
  | invalid path => "invalid CA bundle '" ++ path ++ "': builder error"

namespace Trust

/-- The bytes of a file, or why they cannot be read. -/
def read : FileState → Except String (List UInt8)
  | .missing => .error "No such file or directory (os error 2)"
  | .directory => .error "Is a directory (os error 21)"
  | .behindFile => .error "Not a directory (os error 20)"
  | .unnamable => .error "file name contained an unexpected NUL byte"
  | .content bytes => .ok bytes

/-- What is wrong with the settings' authority file, if it matters. -/
def check (files : FileSystem) (c : ControlPlane) : Option TrustError :=
  if c.skipTlsVerification then none
  else
    c.caCertPath.bind fun path =>
      match read (files path) with
      | .error reason => some (.unreadable path reason)
      | .ok bytes => if Certificate.isIn bytes then none else some (.invalid path)

end Trust

end GatewayFeed
