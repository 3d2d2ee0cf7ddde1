/-!
# Manual

The manual that the program carries with it and prints on request.
-/

namespace InstallPlan

/-- The lines of the manual. -/
def manualLines : List String := [
  "# archstrap",
  "",
  "Provision an Arch Linux system from a declarative specification.",
  "",
  "archstrap reads a specification describing the packages, system identity and",
  "initramfs of a new installation and turns it into the ordered shell commands",
  "that install it into a target root (normally a freshly mounted filesystem at",
  "`/mnt`). It drives `pacstrap`, `arch-chroot`, `systemd-firstboot`, `hwclock`,",
  "`locale-gen` and `mkinitcpio`; it does not partition, format or mount anything.",
  "",
  "## Usage",
  "",
  "```",
  "archstrap [OPTIONS] [SPECIFICATION]",
  "```",
  "",
  "| Option | Description |",
  "|---|---|",
  "| `SPECIFICATION` | Path to the specification (JSON, or TOML for `.toml` files). Omit or use `-` to read JSON from stdin. |",
  "| `--install-root <PATH>` | Target root directory (default: `/mnt`, env `ARCHSTRAP_INSTALL_ROOT`) |",
  "| `--mode <MODE>` | `exec`, `dryrun` or `shell` (default: `shell`, env `ARCHSTRAP_MODE`) |",
  "| `--debug` | Show debug log messages |",
  "| `-q, --quiet` | Only show warnings and errors |",
  "| `--doc` | Print this document |",
  "| `--completions <SHELL>` | Print shell completions |",
  "| `--version` | Print the version |",
  "",
  "### Modes",
  "",
  "- `shell` prints a standalone bash script to stdout. Review it, then run it",
  "  with `bash`.",
  "- `dryrun` logs every command and prints the plan without running anything.",
  "- `exec` runs every command immediately and stops at the first failure.",
  "",
  "Log messages always go to stderr, so `archstrap spec.json > install.sh`",
  "produces a clean script.",
  "",
  "## Specification",
  "",
  "```json",
  "\x7b",
  "  \"packages\": \x7b",
  "    \"base\": \"base\",",
  "    \"kernel\": \"linux\",",
  "    \"firmware\": \"linux-firmware\",",
  "    \"extra\": [\"vim\", \"networkmanager\"]",
  "  \x7d,",
  "  \"system\": \x7b",
  "    \"timezone\": \"Europe/Berlin\",",
  "    \"locale\": \"en_US.UTF-8\",",
  "    \"charset\": \"UTF-8\",",
  "    \"keymap\": \"de-latin1\",",
  "    \"hostname\": \"archie\",",
  "    \"root_password\": \"changeme\"",
  "  \x7d,",
  "  \"initrd\": \x7b",
  "    \"modules\": [],",
  "    \"binaries\": [],",
  "    \"files\": [],",
  "    \"hooks\": [\"base\", \"udev\", \"autodetect\", \"modconf\", \"block\", \"filesystems\", \"fsck\"],",
  "    \"compression\": \"xz\",",
  "    \"compression_options\": []",
  "  \x7d",
  "\x7d",
  "```",
  "",
  "### `packages` (optional)",
  "",
  "Installed with `pacstrap` in the order base, kernel, kernel headers",
  "(`<kernel>-headers`), firmware, extra. `base`, `kernel` and `firmware`",
  "default to the values above; set one to `null` to leave it out.",
  "",
  "### `system` (required)",
  "",
  "`timezone`, `locale`, `charset`, `keymap` and `hostname` are required.",
  "Without `root_password`, `passwd` runs interactively inside the new root",
  "before anything else is configured. The hostname is also written to",
  "`/etc/hosts` as `<hostname>.localdomain`.",
  "",
  "A `root_password` is masked as `***` in the `COMMAND` log lines and in the",
  "`dryrun` plan, but `shell` mode writes it into the script as given.",
  "",
  "### `initrd` (optional)",
  "",
  "Written to `/etc/mkinitcpio.conf`, after which the fallback image is",
  "generated for the single kernel installed in the new root. Every field",
  "defaults to the values above.",
  "",
  "Unknown keys anywhere in the document are rejected."]

/-- The text of the manual. -/
def manual : String := "\n".intercalate manualLines ++ "\n"

end InstallPlan
