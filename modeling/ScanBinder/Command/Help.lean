/-!
# Help
-/

namespace ScanBinder

/-- What the command prints when it is asked for help. -/
def helpText : String :=
  String.join
    ["Combine a folder of numbered scans into a single multi-page PDF\n",
      "\n",
      "Usage: images-to-pdf [OPTIONS] [INPUT_DIR]\n",
      "\n",
      "Arguments:\n",
      "  [INPUT_DIR]  Folder containing the images (not searched recursively) [default: .]\n",
      "\n",
      "Options:\n",
      "  -o, --output <OUTPUT>              Output PDF file path [default: <INPUT_DIR>/Combined_Documents.pdf]\n",
      "      --resolution <RESOLUTION>      Resolution in dpi used to size pages from image pixels [default: 100]\n",
      "      --jpeg-quality <JPEG_QUALITY>  Store pages as JPEG at this quality (1-100) instead of lossless Flate. Lossless pages of photographic scans are typically several times larger\n",
      "      --skip-unreadable              Warn about and leave out images that cannot be read instead of stopping\n",
      "      --title <TITLE>                Document title\n",
      "      --author <AUTHOR>              Document author\n",
      "      --open                         Open the output file after creation\n",
      "  -v, --verbose                      Enable debug logs\n",
      "  -q, --quiet                        Only log errors\n",
      "  -h, --help                         Print help\n",
      "  -V, --version                      Print version\n",
      "\n",
      "EXAMPLES:\n",
      "    # Combine the scans in the current folder into Combined_Documents.pdf\n",
      "    images-to-pdf\n",
      "\n",
      "    # Combine a folder into a specific file\n",
      "    images-to-pdf ~/Scans -o receipts.pdf\n",
      "\n",
      "    # Smaller output with JPEG pages, skipping unreadable files\n",
      "    images-to-pdf ~/Scans -o receipts.pdf --jpeg-quality 80 --skip-unreadable\n"]

/-- What the command prints when it is asked for its version. -/
def versionText : String := "images-to-pdf 0.1.0\n"

end ScanBinder
