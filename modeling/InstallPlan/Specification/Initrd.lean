import InstallPlan.Document.Shape

/-!
# Specification — Initial ramdisk

What goes into the image that starts a new system, and the configuration file
that says so.
-/

namespace InstallPlan

/-- The contents of the initial ramdisk. -/
structure Initrd where
  modules : List String := []
  binaries : List String := []
  files : List String := []
  hooks : List String :=
    ["base", "udev", "autodetect", "modconf", "block", "filesystems", "fsck"]
  compression : String := "xz"
  compressionOptions : List String := []
  deriving DecidableEq, Repr, Inhabited

namespace Initrd

/-- The hooks that run when none are given. -/
def defaultHooks : List String := ({} : Initrd).hooks

/-- The image that is generated. -/
def fallbackImage : String := "/boot/initramfs-linux-fallback.img"

/-- A line that assigns a list of words. -/
def assignment (name : String) (words : List String) : String :=
  name ++ "=(" ++ " ".intercalate words ++ ")"

/-- The assignments of the configuration file. -/
def assignments (initrd : Initrd) : List String :=
  [assignment "MODULES" initrd.modules,
   assignment "BINARIES" initrd.binaries,
   assignment "FILES" initrd.files,
   assignment "HOOKS" initrd.hooks,
   "COMPRESSION=\"" ++ initrd.compression ++ "\"",
   assignment "COMPRESSION_OPTIONS" initrd.compressionOptions]

/-- The text of the configuration file. -/
def configuration (initrd : Initrd) : String := "\n".intercalate initrd.assignments

/-- How an initial ramdisk is written in a document. -/
def shape : Shape Initrd where
  title := "InitrdSpec"
  blank := {}
  fields := [
    .optional "modules" Document.asTexts fun value initrd => { initrd with modules := value },
    .optional "binaries" Document.asTexts fun value initrd => { initrd with binaries := value },
    .optional "files" Document.asTexts fun value initrd => { initrd with files := value },
    .optional "hooks" Document.asTexts fun value initrd => { initrd with hooks := value },
    .optional "compression" Document.asText fun value initrd =>
      { initrd with compression := value },
    .optional "compression_options" Document.asTexts fun value initrd =>
      { initrd with compressionOptions := value }]

end Initrd

end InstallPlan
