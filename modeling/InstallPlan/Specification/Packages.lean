import InstallPlan.Document.Shape

/-!
# Specification — Packages

Which packages a new system starts with. A name that is absent and one that is
empty both mean that the package is left out.
-/

namespace InstallPlan

/-- A text unless it is empty. -/
def present (value : Option String) : Option String := value.filter (· ≠ "")

/-- The packages to install. -/
structure Packages where
  base : Option String := some "base"
  kernel : Option String := some "linux"
  firmware : Option String := some "linux-firmware"
  extra : List String := []
  deriving DecidableEq, Repr, Inhabited

namespace Packages

/-- The base package. -/
def baseName (packages : Packages) : Option String := present packages.base

/-- The kernel package. -/
def kernelName (packages : Packages) : Option String := present packages.kernel

/-- The package of the kernel's headers. -/
def headersName (packages : Packages) : Option String :=
  packages.kernelName.map (· ++ "-headers")

/-- The firmware package. -/
def firmwareName (packages : Packages) : Option String := present packages.firmware

/-- All packages in the order in which they are installed. -/
def names (packages : Packages) : List String :=
  packages.baseName.toList ++ packages.kernelName.toList ++ packages.headersName.toList
    ++ packages.firmwareName.toList ++ packages.extra.filter (· ≠ "")

/-- How packages are written in a document. -/
def shape : Shape Packages where
  title := "PackageSpec"
  blank := {}
  fields := [
    .optional "base" Document.asTextOrNull fun value packages => { packages with base := value },
    .optional "kernel" Document.asTextOrNull fun value packages =>
      { packages with kernel := value },
    .optional "firmware" Document.asTextOrNull fun value packages =>
      { packages with firmware := value },
    .optional "extra" Document.asTexts fun value packages => { packages with extra := value }]

end Packages

end InstallPlan
