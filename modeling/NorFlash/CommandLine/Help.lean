/-!
# Help texts

What the program prints when help is asked for: how each command is called and what its options
mean, laid out for eighty columns.
-/

namespace NorFlash.CommandLine.Help

/-- Lines as a text. -/
def text (lines : List String) : String :=
  "\n".intercalate lines

/-- The help of the program. -/
def program : String :=
  text [
    "usage: prepare_pflash.py [-h] [-v] \x7bmkimg,layout,check,bootmeta\x7d ...",
    "",
    "Utility to prepare SPL1 pflash images",
    "",
    "positional arguments:",
    "  \x7bmkimg,layout,check,bootmeta\x7d",
    "    mkimg               Make a pflash image",
    "    layout              Show the planned layout",
    "    check               Check a pflash image",
    "    bootmeta            Show the boot-trial log of a pflash image",
    "",
    "options:",
    "  -h, --help            show this help message and exit",
    "  -v, --verbose         increase verbosity"]

/-- The help of the command that makes an image. -/
def makeImage : String :=
  text [
    "usage: prepare_pflash.py mkimg [-h] [-c CFG] [--flash-size BYTES]",
    "                               [--block-size BYTES] [--base-address ADDR]",
    "                               [-a BIN] [--build] [--build-dir BUILD] [--hex]",
    "                               [-j]",
    "                               [OUT]",
    "",
    "positional arguments:",
    "  OUT                   output image (default pflash0.img, pflash0.hex with",
    "                        --hex)",
    "",
    "options:",
    "  -h, --help            show this help message and exit",
    "  -c CFG, --config CFG  pflash YAML configuration",
    "  --flash-size BYTES    flash device size (default 33554432)",
    "  --block-size BYTES    flash erase block size (default 131072)",
    "  --base-address ADDR   address flash is mapped at (default 0x20000000)",
    "  -a BIN, --artifact BIN",
    "                        flat SPL1 binary or Intel HEX file",
    "  --build               run the configured build step to produce the artifact",
    "  --build-dir BUILD     directory substituted for $BUILD_DIR in the",
    "                        configuration",
    "  --hex                 Generate intel hex file",
    "  -j, --json            output JSON report"]

/-- The help of the command that shows a layout. -/
def showLayout : String :=
  text [
    "usage: prepare_pflash.py layout [-h] [-c CFG] [--flash-size BYTES]",
    "                                [--block-size BYTES] [--base-address ADDR]",
    "                                [-s BYTES] [-j]",
    "",
    "options:",
    "  -h, --help            show this help message and exit",
    "  -c CFG, --config CFG  pflash YAML configuration",
    "  --flash-size BYTES    flash device size (default 33554432)",
    "  --block-size BYTES    flash erase block size (default 131072)",
    "  --base-address ADDR   address flash is mapped at (default 0x20000000)",
    "  -s BYTES, --artifact-size BYTES",
    "                        size of the SPL1 binary to plan for",
    "  -j, --json            output JSON"]

/-- The help of the command that checks an image. -/
def checkImage : String :=
  text [
    "usage: prepare_pflash.py check [-h] [-c CFG] [--flash-size BYTES]",
    "                               [--block-size BYTES] [--base-address ADDR]",
    "                               IMG",
    "",
    "positional arguments:",
    "  IMG                   image to check",
    "",
    "options:",
    "  -h, --help            show this help message and exit",
    "  -c CFG, --config CFG  pflash YAML configuration",
    "  --flash-size BYTES    flash device size (default 33554432)",
    "  --block-size BYTES    flash erase block size (default 131072)",
    "  --base-address ADDR   address flash is mapped at (default 0x20000000)"]

/-- The help of the command that shows the boot-trial log. -/
def showTrials : String :=
  text [
    "usage: prepare_pflash.py bootmeta [-h] [-c CFG] [--flash-size BYTES]",
    "                                  [--block-size BYTES] [--base-address ADDR]",
    "                                  [-m N] [-j]",
    "                                  IMG",
    "",
    "positional arguments:",
    "  IMG                   image to inspect",
    "",
    "options:",
    "  -h, --help            show this help message and exit",
    "  -c CFG, --config CFG  pflash YAML configuration",
    "  --flash-size BYTES    flash device size (default 33554432)",
    "  --block-size BYTES    flash erase block size (default 131072)",
    "  --base-address ADDR   address flash is mapped at (default 0x20000000)",
    "  -m N, --max-trials N  boot trials per bank before the loader switches",
    "  -j, --json            output JSON"]

end NorFlash.CommandLine.Help
