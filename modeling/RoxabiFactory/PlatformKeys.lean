import RoxabiFactory.CommandRouter

/-!
# Platform keys

A platform key names an account of a user on a platform: the platform, which
the beginning of the key tells, and the id of the account there.
-/

namespace RoxabiFactory

namespace UserIdentities

/-- The platforms of `PLATFORM_PREFIXES`. -/
inductive KeyPlatform
  | telegram
  | discord
  | matrix
  deriving DecidableEq

namespace KeyPlatform

def all : List KeyPlatform := [telegram, discord, matrix]

def name : KeyPlatform → String
  | telegram => "telegram"
  | discord => "discord"
  | matrix => "matrix"

/-- What a key of the platform begins with. -/
def start : KeyPlatform → String
  | telegram => "tg:user:"
  | discord => "dc:user:"
  | matrix => "matrix:user:"

end KeyPlatform

/-- A key as its parts, which determine one another: `platform_key` and the
pair of `platform` and `platform_uid`. -/
structure PlatformKey where
  platform : KeyPlatform
  uid : String
  deriving DecidableEq

def PlatformKey.text (key : PlatformKey) : String := key.platform.start ++ key.uid

/-- `parse_platform_key`. -/
def parsePlatformKey (text : String) : Option PlatformKey :=
  KeyPlatform.all.findSome? fun platform =>
    let uid := String.ofList (text.toList.drop platform.start.toList.length)
    if PythonStr.startsWith text platform.start = true ∧ uid ≠ "" then
      some ⟨platform, uid⟩
    else none

/-- `format_platform_key`, with `none` for its `ValueError`. -/
def formatPlatformKey (platform uid : String) : Option PlatformKey :=
  (KeyPlatform.all.find? fun known => known.name == platform).map (⟨·, uid⟩)

end UserIdentities

end RoxabiFactory
