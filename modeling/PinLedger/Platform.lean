/-
# Platforms and target selectors

A platform is named `family-architecture`. A `[target.*]` table is chosen by the platform, by its
family, or by `unix`, which stands for the families `linux` and `osx`.

Key definitions: `family`, `selects`, `knownPlatforms`.
-/
import PinLedger.Text.Split

namespace PinLedger.Platform

/-- The part of a platform name before its first `-`. -/
def family (platform : String) : String :=
  String.ofList (platform.toList.takeWhile (· != '-'))

/-- The families that `unix` stands for. -/
def unixFamilies : List String := ["linux", "osx"]

/-- Does a target selector apply to a platform? -/
def selects (selector platform : String) : Bool :=
  if selector = platform then true
  else if selector = "unix" then unixFamilies.contains (family platform)
  else selector = family platform

/-- A family with its architectures, as platform names. -/
def named (family : String) (architectures : List String) : List String :=
  architectures.map fun a => family ++ "-" ++ a

/-- The platforms that can be asked for. -/
def knownPlatforms : List String :=
  "noarch" :: named "linux" ["32", "64", "aarch64", "armv6l", "armv7l", "loongarch64", "ppc64le",
      "ppc64", "ppc", "s390x", "riscv32", "riscv64"]
    ++ named "freebsd" ["32", "64", "arm64", "ppc64le", "ppc64"]
    ++ named "osx" ["64", "arm64"]
    ++ named "ios" ["arm64"]
    ++ named "iossimulator" ["arm64", "64"]
    ++ named "android" ["aarch64", "armv7a", "64", "32"]
    ++ named "win" ["32", "64", "arm64"]
    ++ named "emscripten" ["wasm32", "wasm64"]
    ++ named "wasi" ["wasm32"]
    ++ named "zos" ["z"]

end PinLedger.Platform
