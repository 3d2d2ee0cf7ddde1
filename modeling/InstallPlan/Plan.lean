import InstallPlan.Path
import InstallPlan.Specification.Basic

/-!
# Plan

The commands that carry out a specification below a root directory, under
headings. `Specification.steps` lists them; `Specification.events` puts a
start in front of them and a finish behind.

* The packages are one command.
* The system is five commands, and a sixth in front of them that asks for the
  administrator's password when the specification has none.
* The initial ramdisk is three commands: its configuration file, the name of
  the kernel that was installed, and the image.
-/

namespace InstallPlan

/-- A step of a plan. -/
inductive Step where
  | heading (name : String)
  | command (text : String)
  deriving DecidableEq, Repr

namespace Step

/-- The command of a step, if it is one. -/
def command? : Step → Option String
  | .command text => some text
  | .heading _ => none

end Step

/-- What happens while a plan is carried out. -/
inductive Event where
  | start
  | step (s : Step)
  | finish
  deriving DecidableEq, Repr

/-- The command that writes lines into a file. -/
def hereDocument (file : Path) (body : String) : String :=
  "cat > " ++ file.shown ++ " <<EOF\n" ++ body ++ "\nEOF"

namespace Packages

/-- The command that installs the packages. -/
def installation (packages : Packages) (root : Path) : String :=
  "pacstrap " ++ root.shown ++ " " ++ " ".intercalate packages.names

/-- The steps for the packages. -/
def steps (packages : Packages) (root : Path) : List Step :=
  [.heading "Install Packages", .command (packages.installation root)]

end Packages

namespace System

/-- The command that runs another one inside the root. -/
def inside (root : Path) (command : String) : String :=
  "arch-chroot " ++ root.shown ++ " " ++ command

/-- The words of the command that sets the identity. -/
def identityWords (system : System) (root : Path) : List String :=
  ["systemd-firstboot",
   "--setup-machine-id",
   "--timezone=" ++ system.timezone,
   "--locale=" ++ system.locale,
   "--keymap=" ++ system.keymap,
   "--hostname=" ++ system.hostname,
   "--root=" ++ root.shown]
  ++ system.password.toList.map ("--root-password=" ++ ·)

/-- The command that sets the identity. -/
def identity (system : System) (root : Path) : String :=
  " ".intercalate (system.identityWords root)

/-- The command that names the locale. -/
def localeEntry (system : System) (root : Path) : String :=
  "echo " ++ system.locale ++ " " ++ system.charset ++ " > " ++ (root.join "etc/locale.gen").shown

/-- The table of host names. -/
def hosts (system : System) : String :=
  "\n".intercalate
    ["127.0.0.1 localhost",
     "::1       localhost",
     "127.0.1.1 " ++ system.hostname ++ ".localdomain " ++ system.hostname]

/-- The command that asks for a password, unless one is given. -/
def passwordPrompt (system : System) (root : Path) : List String :=
  if system.password.isNone then [inside root "passwd"] else []

/-- The commands for the system. -/
def commands (system : System) (root : Path) : List String :=
  system.passwordPrompt root ++
    [system.identity root,
     inside root "hwclock --systohc",
     system.localeEntry root,
     inside root "locale-gen",
     hereDocument (root.join "etc/hosts") system.hosts]

/-- The steps for the system. -/
def steps (system : System) (root : Path) : List Step :=
  .heading "Configure System" :: (system.commands root).map .command

end System

namespace Initrd

/-- The command that finds out which kernel was installed. -/
def kernelLookup (root : Path) : String :=
  "kernel=\"$(find " ++ (root.join "lib/modules").shown
    ++ " -mindepth 1 -maxdepth 1 -type d | xargs basename)\""

/-- The command that generates the image. -/
def generation (root : Path) : String :=
  "arch-chroot " ++ root.shown ++ " mkinitcpio --allpresets --kernel=\"$kernel\" --generate "
    ++ fallbackImage

/-- The commands for the initial ramdisk. -/
def commands (initrd : Initrd) (root : Path) : List String :=
  [hereDocument (root.join "etc/mkinitcpio.conf") initrd.configuration,
   kernelLookup root,
   generation root]

/-- The steps for the initial ramdisk. -/
def steps (initrd : Initrd) (root : Path) : List Step :=
  .heading "Create Initramfs" :: (initrd.commands root).map .command

end Initrd

namespace Specification

/-- The steps that carry out a specification. -/
def steps (spec : Specification) (root : Path) : List Step :=
  spec.packages.steps root ++ spec.system.steps root ++ spec.initrd.steps root

/-- The commands among the steps. -/
def commands (spec : Specification) (root : Path) : List String :=
  (spec.steps root).filterMap Step.command?

/-- Everything that happens while a specification is carried out. -/
def events (spec : Specification) (root : Path) : List Event :=
  .start :: (spec.steps root).map .step ++ [.finish]

end Specification

end InstallPlan
